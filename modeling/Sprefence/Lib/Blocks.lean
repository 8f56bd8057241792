import Mathlib.Data.List.Basic
import Mathlib.Tactic.Common

/-! Cutting a list into blocks of one length, the last of them possibly
shorter, as a loop with the bound `i < n / d` over a real quotient does. -/

namespace Blocks

/-- Iterations of `for (i = 0; i < n / d; ++i)` with an exact quotient. -/
def blockCount (n d : Nat) : Nat := (n + d - 1) / d

theorem lt_blockCount {d : Nat} (hd : 0 < d) (n i : Nat) :
    i < blockCount n d ↔ i * d < n := by
  unfold blockCount
  rw [Nat.lt_iff_add_one_le, Nat.le_div_iff_mul_le hd, Nat.add_mul]
  omega

/-- The `i`-th block of `d` entries. -/
def block {α : Type*} (l : List α) (d i : Nat) : List α := (l.drop (i * d)).take d

theorem flatMap_range_block {α : Type*} (l : List α) (d k : Nat) :
    (List.range k).flatMap (block l d) = l.take (k * d) := by
  induction k with
  | zero => simp
  | succ k ih => simp [List.range_succ, ih, block, Nat.add_mul, List.take_add]

/-- The blocks in order are the list. -/
theorem flatMap_block {α : Type*} {d : Nat} (hd : 0 < d) (l : List α) :
    (List.range (blockCount l.length d)).flatMap (block l d) = l := by
  rw [flatMap_range_block, List.take_of_length_le]
  have h := (lt_blockCount hd l.length (blockCount l.length d)).not.mp (Nat.lt_irrefl _)
  omega

theorem length_flatMap_range {α : Type*} (f : Nat → List α) (d k : Nat)
    (hf : ∀ i, i < k → (f i).length = d) : ((List.range k).flatMap f).length = k * d := by
  induction k with
  | zero => simp
  | succ k ih =>
    simp [List.range_succ, ih (fun i hi => hf i (by omega)), hf k (by omega), Nat.add_mul]

theorem length_flatMap_range_le {α : Type*} (f : Nat → List α) (d k : Nat)
    (hf : ∀ i, i < k → (f i).length ≤ d) : ((List.range k).flatMap f).length ≤ k * d := by
  induction k with
  | zero => simp
  | succ k ih =>
    have hk := hf k (by omega)
    have hrest := ih fun i hi => hf i (by omega)
    simp only [List.range_succ, List.flatMap_append, List.flatMap_singleton, List.length_append,
      Nat.add_mul, Nat.one_mul]
    omega

/-- Pieces of one length, put one after another, are the blocks of the result. -/
theorem block_flatMap {α : Type*} (f : Nat → List α) (d k : Nat)
    (hf : ∀ i, i < k → (f i).length = d) (rest : List α) (i : Nat) (hi : i < k) :
    block ((List.range k).flatMap f ++ rest) d i = f i := by
  induction k generalizing rest with
  | zero => omega
  | succ k ih =>
    rw [List.range_succ, List.flatMap_append, List.append_assoc]
    rcases Nat.lt_or_eq_of_le (Nat.lt_succ_iff.mp hi) with h | h
    · exact ih (fun i hi => hf i (by omega)) _ h
    · subst h
      have hlen := length_flatMap_range f d i (fun k hk => hf k (by omega))
      have hd := hf i hi
      rw [block, ← hlen, List.drop_left, ← hd]
      simp

/-- An entry of pieces of one length that are put one after another. -/
theorem getElem?_flatMap_range {α : Type*} (f : Nat → List α) (d k : Nat)
    (hf : ∀ i, i < k → (f i).length = d) (i : Nat) (hi : i < k * d) :
    ((List.range k).flatMap f)[i]? = (f (i / d))[i % d]? := by
  have hd : 0 < d := Nat.pos_of_ne_zero fun h => by simp [h] at hi
  have hblock := block_flatMap f d k hf [] (i / d) (Nat.div_lt_of_lt_mul (Nat.mul_comm k d ▸ hi))
  rw [List.append_nil] at hblock
  rw [← hblock, block, List.getElem?_take_of_lt (Nat.mod_lt i hd), List.getElem?_drop,
    Nat.div_add_mod']

/-- A loop whose body never fails collects the values of its body. -/
theorem mapM_eq_some {α β : Type*} {f : α → Option β} {g : α → β} {l : List α}
    (h : ∀ a ∈ l, f a = some (g a)) : l.mapM f = some (l.map g) := by
  induction l with
  | nil => rfl
  | cons a l ih =>
    rw [List.mapM_cons, h a (by simp), ih (fun b hb => h b (by simp [hb]))]
    rfl

theorem stateM_pure {σ α : Type} (a : α) (s : σ) : (pure a : StateM σ α) s = (a, s) := rfl

theorem stateM_bind {σ α β : Type} (x : StateM σ α) (f : α → StateM σ β) (s : σ) :
    (x >>= f) s = f (x s).1 (x s).2 := rfl

/-- A loop whose body writes down what it looks at. -/
theorem mapM_log {α β κ : Type} {f : α → StateM (List κ) β} {g : α → β} {h : α → List κ}
    {l : List α} (hf : ∀ a ∈ l, ∀ log, f a log = (g a, log ++ h a)) (log : List κ) :
    (l.mapM f) log = (l.map g, log ++ l.flatMap h) := by
  induction l generalizing log with
  | nil => simp [List.mapM_nil, stateM_pure]
  | cons a l ih =>
    have ha := hf a (by simp) log
    have hl := ih (fun b hb => hf b (by simp [hb])) (log ++ h a)
    simp only [List.mapM_cons, stateM_bind, stateM_pure, ha, hl, List.map_cons, List.flatMap_cons,
      List.append_assoc]

/-- Pieces of given lengths can be told apart. -/
theorem flatMap_range_inj {α : Type*} {f g : Nat → List α} {k : Nat}
    (hlen : ∀ i < k, (f i).length = (g i).length)
    (h : (List.range k).flatMap f = (List.range k).flatMap g) : ∀ i < k, f i = g i := by
  induction k with
  | zero => exact fun i hi => absurd hi (Nat.not_lt_zero i)
  | succ k ih =>
    simp only [List.range_succ, List.flatMap_append, List.flatMap_singleton] at h
    obtain ⟨hinit, hlast⟩ := List.append_inj' h (hlen k (Nat.lt_succ_self k))
    intro i hi
    rcases Nat.lt_succ_iff_lt_or_eq.mp hi with hi' | rfl
    · exact ih (fun i hi => hlen i (by omega)) hinit i hi'
    · exact hlast

/-- Pieces that are one entry longer than the blocks. -/
theorem length_flatMap_block_succ {α β : Type*} {d : Nat} (hd : 0 < d) (l : List α)
    (f : List α → List β) (hf : ∀ bs, (f bs).length = bs.length + 1) :
    ((List.range (blockCount l.length d)).flatMap fun i => f (block l d i)).length =
      l.length + blockCount l.length d := by
  have hsum : ∀ k, ((List.range k).flatMap fun i => f (block l d i)).length =
      ((List.range k).flatMap (block l d)).length + k := by
    intro k
    induction k with
    | zero => rfl
    | succ k ih =>
      simp only [List.range_succ, List.flatMap_append, List.flatMap_singleton, List.length_append,
        ih, hf]
      omega
  rw [hsum, flatMap_block hd]

end Blocks

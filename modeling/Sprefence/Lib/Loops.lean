import Mathlib.Tactic.Common

/-! Counting loops whose body may fail, and arithmetic that fails outside a
range of values. -/

namespace Loops

variable {σ : Type*}

/-- `for (i = 0; i < n; ++i) s = body(i, s);`. -/
def forLoop : Nat → (Nat → σ → Option σ) → σ → Option σ
  | 0, _, s => some s
  | n + 1, body, s => do
    let s ← forLoop n body s
    body n s

theorem forLoop_succ (n : Nat) (body : Nat → σ → Option σ) (s : σ) :
    forLoop (n + 1) body s = (forLoop n body s).bind (body n) := rfl

theorem forLoop_eq_some (n : Nat) (body : Nat → σ → Option σ) (val : Nat → σ)
    (h : ∀ m < n, body m (val m) = some (val (m + 1))) : forLoop n body (val 0) = some (val n) := by
  induction n with
  | zero => rfl
  | succ n ih =>
    rw [forLoop_succ, ih (fun m hm => h m (by omega)), Option.bind_some, h n (by omega)]

/-- A loop that goes on as long as its values are fine, which they do not become
again, is decided by the last of them. -/
theorem forLoop_eq_ite (n : Nat) (body : Nat → σ → Option σ) (val : Nat → σ) (Ok : σ → Prop)
    [DecidablePred Ok] (h0 : Ok (val 0)) (hmono : ∀ m < n, Ok (val (m + 1)) → Ok (val m))
    (hbody : ∀ m < n, Ok (val m) →
      body m (val m) = if Ok (val (m + 1)) then some (val (m + 1)) else none) :
    forLoop n body (val 0) = if Ok (val n) then some (val n) else none := by
  induction n with
  | zero => rw [if_pos h0]; rfl
  | succ n ih =>
    rw [forLoop_succ, ih (fun m hm => hmono m (by omega)) (fun m hm => hbody m (by omega))]
    by_cases hn : Ok (val n)
    · rw [if_pos hn, Option.bind_some, hbody n (by omega) hn]
    · rw [if_neg hn, Option.bind_none, if_neg fun h => hn (hmono n (by omega) h)]

/-- A loop that comes to its end has run its body for every index. -/
theorem exists_body_of_forLoop {n : Nat} {body : Nat → σ → Option σ} {s t : σ}
    (h : forLoop n body s = some t) (m : Nat) (hm : m < n) : ∃ a b, body m a = some b := by
  induction n generalizing t with
  | zero => omega
  | succ n ih =>
    rw [forLoop_succ, Option.bind_eq_some_iff] at h
    obtain ⟨u, hu, hbody⟩ := h
    rcases Nat.lt_or_eq_of_le (Nat.lt_succ_iff.mp hm) with hlt | rfl
    · exact ih hu hlt
    · exact ⟨u, t, hbody⟩

/-- `a[i] = v;`, if the index is in range. -/
def write {α : Type*} (a : List α) (i : Nat) (v : α) : Option (List α) :=
  if i < a.length then some (a.set i v) else none

/-- An array of `n` entries `z` of which the first `m` have been filled with `f`. -/
def filled {α : Type*} (f : Nat → α) (n : Nat) (z : α) (m : Nat) : List α :=
  (List.range m).map f ++ List.replicate (n - m) z

theorem filled_zero {α : Type*} (f : Nat → α) (n : Nat) (z : α) :
    filled f n z 0 = List.replicate n z := by simp [filled]

theorem filled_full {α : Type*} (f : Nat → α) (n : Nat) (z : α) :
    filled f n z n = (List.range n).map f := by simp [filled]

theorem getElem?_map_range {α : Type*} (f : Nat → α) {n i : Nat} (hi : i < n) :
    ((List.range n).map f)[i]? = some (f i) := by
  rw [List.getElem?_map, List.getElem?_range hi, Option.map_some]

/-- The next entry is filled. -/
theorem write_filled {α : Type*} {f : Nat → α} {n m : Nat} {z v : α} (hm : m < n) (hv : v = f m) :
    write (filled f n z m) m v = some (filled f n z (m + 1)) := by
  obtain ⟨k, rfl⟩ : ∃ k, n = m + 1 + k := ⟨n - (m + 1), by omega⟩
  have hrest : m + 1 + k - m = k + 1 := by omega
  have hlen : ((List.range m).map f).length = m := by simp
  rw [write, if_pos (by simp [filled, hrest]), hv, filled, filled, hrest, List.replicate_succ,
    List.set_append_right m (f m) (Nat.le_of_eq hlen), hlen, Nat.sub_self, List.set_cons_zero, List.range_succ,
    List.map_append, List.append_assoc, Nat.add_sub_cancel_left]
  rfl

/-- The value of an arithmetic expression, if it is in the range `R`. -/
def checked (R : Int → Prop) [DecidablePred R] (n : Int) : Option Int :=
  if R n then some n else none

/-- A range that reaches to `bound` on both sides and has no gaps above zero. -/
structure IsRange (R : Int → Prop) (bound : Int) : Prop where
  wide : ∀ n, -bound ≤ n → n ≤ bound → R n
  mono : ∀ m n, 0 ≤ m → m ≤ n → R n → R m

theorem checked_eq_some {R : Int → Prop} [DecidablePred R] {n : Int} (h : R n) :
    checked R n = some n := if_pos h

end Loops

import Mathlib.Data.List.Basic

/-! A list cut into pieces: the pieces that begin before a position, those
behind them, and the piece that begins at a position. -/

namespace Cuts

variable {α : Type*}

/-- The pieces that begin before position `n`. -/
def before : Nat → List (List α) → List (List α)
  | 0, _ => []
  | _ + 1, [] => []
  | n + 1, b :: bs => b :: before (n + 1 - b.length) bs

/-- The pieces that begin at position `n` or later. -/
def behind : Nat → List (List α) → List (List α)
  | 0, bs => bs
  | _ + 1, [] => []
  | n + 1, b :: bs => behind (n + 1 - b.length) bs

theorem before_append_behind (n : Nat) (bs : List (List α)) :
    before n bs ++ behind n bs = bs := by
  induction bs generalizing n with
  | nil => cases n <;> rfl
  | cons b bs ih =>
    cases n with
    | zero => rfl
    | succ n => simp only [before, behind, List.cons_append, ih]

theorem flatten_behind (n : Nat) (bs : List (List α)) :
    (behind n bs).flatten = bs.flatten.drop (before n bs).flatten.length := by
  have h := congrArg List.flatten (before_append_behind n bs)
  rw [List.flatten_append] at h
  rw [← h, List.drop_left]

theorem le_length_before (n : Nat) (bs : List (List α)) (hn : n ≤ bs.flatten.length) :
    n ≤ (before n bs).flatten.length := by
  induction bs generalizing n with
  | nil =>
    have : n = 0 := by simpa using hn
    simp [this]
  | cons b bs ih =>
    cases n with
    | zero => exact Nat.zero_le _
    | succ n =>
      have h := ih (n + 1 - b.length) (by
        simp only [List.flatten_cons, List.length_append] at hn
        omega)
      simp only [before, List.flatten_cons, List.length_append]
      omega

/-- The piece `b` begins at `o`, the first one beginning at `start`. -/
def Begins (start : Nat) (bs : List (List α)) (o : Nat) (b : List α) : Prop :=
  ∃ pre post, bs = pre ++ b :: post ∧ start + pre.flatten.length = o

theorem Begins.le {start o : Nat} {bs : List (List α)} {b : List α} (h : Begins start bs o b) :
    start ≤ o := by
  obtain ⟨pre, post, -, ho⟩ := h
  omega

end Cuts

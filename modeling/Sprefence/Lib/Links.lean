import Mathlib.Data.List.Basic
import Mathlib.Logic.Function.Basic

/-! Cells that are linked by a pointer each. A path is told by the cells on it; a
pointer that is changed off the path does not matter to it. -/

namespace Links

variable {P : Type*} {next : P → Option P}

/-- From the pointer `p` on the cells are `l`, and the last of them points to `q`. -/
def Path (next : P → Option P) : Option P → List P → Option P → Prop
  | p, [], q => p = q
  | p, a :: l, q => p = some a ∧ Path next (next a) l q

@[simp] theorem path_nil {p q : Option P} : Path next p [] q ↔ p = q := Iff.rfl

@[simp] theorem path_cons {p q : Option P} {a : P} {l : List P} :
    Path next p (a :: l) q ↔ p = some a ∧ Path next (next a) l q := Iff.rfl

theorem path_append {p q : Option P} {l m : List P} :
    Path next p (l ++ m) q ↔ ∃ r, Path next p l r ∧ Path next r m q := by
  induction l generalizing p with
  | nil => exact ⟨fun h => ⟨p, rfl, h⟩, fun ⟨_, hp, h⟩ => hp ▸ h⟩
  | cons a l ih =>
    rw [List.cons_append, path_cons, ih]
    constructor
    · rintro ⟨hp, r, hl, hm⟩
      exact ⟨r, ⟨hp, hl⟩, hm⟩
    · rintro ⟨r, ⟨hp, hl⟩, hm⟩
      exact ⟨hp, r, hl, hm⟩

theorem path_concat {p q : Option P} {l : List P} {a : P} :
    Path next p (l ++ [a]) q ↔ Path next p l (some a) ∧ next a = q := by
  rw [path_append]
  constructor
  · rintro ⟨r, hl, rfl, ha⟩
    exact ⟨hl, ha⟩
  · rintro ⟨hl, ha⟩
    exact ⟨some a, hl, rfl, ha⟩

theorem Path.eq_head {p q : Option P} {l : List P} (h : Path next p l q) (hl : l ≠ []) :
    p = l.head? := by
  cases l with
  | nil => exact absurd rfl hl
  | cons a l => exact h.1

variable [DecidableEq P]

theorem path_update {p q : Option P} {l : List P} {a : P} (v : Option P) (ha : a ∉ l) :
    Path (Function.update next a v) p l q ↔ Path next p l q := by
  induction l generalizing p with
  | nil => exact Iff.rfl
  | cons b l ih =>
    rw [List.mem_cons, not_or] at ha
    rw [path_cons, path_cons, Function.update_of_ne (Ne.symm ha.1), ih ha.2]

/-- The pointer of the last cell is changed. -/
theorem Path.relink {p q : Option P} {l : List P} {a : P} (h : Path next p (l ++ [a]) q)
    (ha : a ∉ l) (v : Option P) : Path (Function.update next a v) p (l ++ [a]) v := by
  rw [path_concat, path_update v ha]
  exact ⟨(path_concat.mp h).1, Function.update_self a v next⟩

/-- A cell is put behind the last one. -/
theorem Path.extend {p q : Option P} {l : List P} {a b : P} (h : Path next p (l ++ [a]) q)
    (ha : a ∉ l) (hb : b ∉ l ++ [a]) (v : Option P) :
    Path (Function.update (Function.update next a (some b)) b v) p (l ++ [a] ++ [b]) v := by
  rw [path_concat, path_update v hb]
  exact ⟨h.relink ha (some b), by rw [Function.update_self]⟩

end Links

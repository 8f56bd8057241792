import Mathlib.Algebra.Field.Rat
import Mathlib.Algebra.Order.Field.Basic
import Mathlib.Algebra.Order.Field.Rat
import Mathlib.Tactic.Ring

/-! What a `double` can hold, without rounding: a rational, an infinity or no number
at all. The sign of a zero is not kept, so that one over zero is always positive. -/

inductive Number
  | finite (q : Rat)
  | infinite (negative : Bool)
  | nan
  deriving DecidableEq, Repr

namespace Number

instance : Coe Rat Number := ⟨.finite⟩

instance (n : Nat) : OfNat Number n := ⟨.finite n⟩

/-! ## Arithmetic -/

protected def neg : Number → Number
  | finite a => finite (-a)
  | infinite s => infinite (!s)
  | nan => nan

protected def add : Number → Number → Number
  | finite a, finite b => finite (a + b)
  | finite _, infinite t => infinite t
  | infinite s, finite _ => infinite s
  | infinite s, infinite t => if s = t then infinite s else nan
  | _, _ => nan

protected def mul : Number → Number → Number
  | finite a, finite b => finite (a * b)
  | finite a, infinite t => if a = 0 then nan else infinite (decide (a < 0) ^^ t)
  | infinite s, finite b => if b = 0 then nan else infinite (s ^^ decide (b < 0))
  | infinite s, infinite t => infinite (s ^^ t)
  | _, _ => nan

protected def inv : Number → Number
  | finite a => if a = 0 then infinite false else finite a⁻¹
  | infinite _ => finite 0
  | nan => nan

instance : Neg Number := ⟨Number.neg⟩
instance : Add Number := ⟨Number.add⟩
instance : Sub Number := ⟨fun a b => a + -b⟩
instance : Mul Number := ⟨Number.mul⟩
instance : Div Number := ⟨fun a b => a * b.inv⟩

/-! ## Order -/

/-- Nothing is below or above `nan`. -/
protected def lt : Number → Number → Prop
  | finite a, finite b => a < b
  | finite _, infinite t => t = false
  | infinite s, finite _ => s = true
  | infinite s, infinite t => s = true ∧ t = false
  | _, _ => False

instance : LT Number := ⟨Number.lt⟩

instance (a b : Number) : Decidable (a < b) := by
  change Decidable (Number.lt a b)
  unfold Number.lt
  split <;> infer_instance

/-! ## Rationals among the numbers -/

@[simp] theorem one_eq : (1 : Number) = finite 1 := rfl

@[simp] theorem neg_finite (a : Rat) : -finite a = finite (-a) := rfl

@[simp] theorem add_finite (a b : Rat) : finite a + finite b = finite (a + b) := rfl

theorem add_finite_zero (a : Number) : a + finite 0 = a := by
  cases a with
  | finite a => exact congrArg finite (add_zero a)
  | infinite s => rfl
  | nan => rfl

@[simp] theorem sub_finite (a b : Rat) : finite a - finite b = finite (a - b) :=
  congrArg finite (sub_eq_add_neg a b).symm

@[simp] theorem mul_finite (a b : Rat) : finite a * finite b = finite (a * b) := rfl

theorem div_finite (a : Rat) {b : Rat} (hb : b ≠ 0) : finite a / finite b = finite (a / b) := by
  change finite a * Number.inv (finite b) = _
  rw [Number.inv, if_neg hb, mul_finite, div_eq_mul_inv]

@[simp] theorem finite_lt (a b : Rat) : finite a < finite b ↔ a < b := Iff.rfl

/-! ## Positive factors -/

section Factor

variable {c : Rat} (hc : 0 < c)
include hc

theorem mul_infinite_of_pos (s : Bool) : finite c * infinite s = infinite s := by
  change (if c = 0 then nan else infinite (decide (c < 0) ^^ s)) = _
  rw [if_neg hc.ne', decide_eq_false hc.not_gt, Bool.false_xor]

theorem mul_lt_mul_left_of_pos (a b : Number) : finite c * a < finite c * b ↔ a < b := by
  cases a with
  | nan => exact Iff.rfl
  | finite a =>
    cases b with
    | nan => exact Iff.rfl
    | finite b => exact mul_lt_mul_iff_right₀ hc
    | infinite t =>
      rw [mul_infinite_of_pos hc]
      exact Iff.rfl
  | infinite s =>
    rw [mul_infinite_of_pos hc]
    cases b with
    | nan => exact Iff.rfl
    | finite b => exact Iff.rfl
    | infinite t =>
      rw [mul_infinite_of_pos hc]

theorem mul_add_of_pos (a b : Number) : finite c * (a + b) = finite c * a + finite c * b := by
  cases a with
  | nan => rfl
  | finite a =>
    cases b with
    | nan => rfl
    | finite b => simp only [add_finite, mul_finite, mul_add]
    | infinite t => exact (mul_infinite_of_pos hc t).trans (by rw [mul_infinite_of_pos hc]; rfl)
  | infinite s =>
    cases b with
    | nan => exact (mul_infinite_of_pos hc s).symm ▸ rfl
    | finite b => exact (mul_infinite_of_pos hc s).trans (by rw [mul_infinite_of_pos hc]; rfl)
    | infinite t =>
      rw [mul_infinite_of_pos hc, mul_infinite_of_pos hc]
      change finite c * (if s = t then infinite s else nan) = if s = t then infinite s else nan
      split_ifs
      · exact mul_infinite_of_pos hc s
      · rfl

/-- A factor moves from one side of a product to the other. -/
theorem mul_div_swap {d : Rat} (hd : 0 < d) (g : Number) (y : Rat) :
    finite c * (g * finite (y / d)) = finite (c / d) * g * finite y := by
  cases g with
  | nan => rfl
  | finite g =>
    simp only [mul_finite, finite.injEq]
    ring
  | infinite s =>
    rw [mul_infinite_of_pos (div_pos hc hd)]
    change finite c * (if y / d = 0 then nan else infinite (s ^^ decide (y / d < 0))) =
      if y = 0 then nan else infinite (s ^^ decide (y < 0))
    have hzero : y / d = 0 ↔ y = 0 := by rw [div_eq_zero_iff, or_iff_left hd.ne']
    have hneg : y / d < 0 ↔ y < 0 := by rw [div_lt_iff₀ hd, zero_mul]
    simp only [hzero, hneg]
    split_ifs
    · rfl
    · exact mul_infinite_of_pos hc _

end Factor

end Number

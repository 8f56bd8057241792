import Mathlib.Algebra.Order.Field.Rat
import Mathlib.Order.Interval.Set.LinearOrder
import Mathlib.Tactic.Linarith
import Mathlib.Tactic.NormNum
import Mathlib.Tactic.Ring
import Sprefence.Detector.Setting

/-! The strip that `IsHazard` tests against the one that the setting describes.
The setting gives the left and the right edge by their ends at the top and at the
bottom of the frame; `IsHazard` starts at the bottom and takes for the slope the
reciprocal of the difference. -/

namespace Sprefence

/-- The straight line from `top` at height 0 to `bottom` at height 1. -/
def line (top bottom y : Rat) : Rat := top + (bottom - top) * y

/-- The line of `IsHazard`. A vertical edge is met by the formula for the others, the
reciprocal of zero being zero. -/
def testedLine (top bottom y : Rat) : Rat := bottom + (top - bottom)⁻¹ * y

/-- A setting with rational values. -/
def Hazard.finite (h : Hazard Rat) : Hazard :=
  ⟨.finite h.lt, .finite h.rt, .finite h.lb, .finite h.rb⟩

/-- The safe points at height `y`. -/
def Hazard.strip (h : Hazard Rat) (y : Rat) : Set Rat :=
  Set.Icc (line h.lt h.lb y) (line h.rt h.rb y)

/-- The points at height `y` that `IsHazard` takes for safe. -/
def Hazard.passed (h : Hazard Rat) (y : Rat) : Set Rat :=
  Set.Icc (testedLine h.lt h.lb y) (testedLine h.rt h.rb y)

theorem Hazard.isHazard_iff (h : Hazard) (x y : Rat) :
    h.isHazard x y = true ↔ .finite x < edge h.lt h.lb y ∨ edge h.rt h.rb y < .finite x := by
  unfold isHazard
  split_ifs with hl hr
  · exact iff_of_true rfl (.inl hl)
  · exact iff_of_true rfl (.inr hr)
  · exact iff_of_false not_false (not_or.mpr ⟨hl, hr⟩)

theorem Hazard.not_mem_strip (h : Hazard Rat) (x y : Rat) :
    x ∉ h.strip y ↔ x < line h.lt h.lb y ∨ line h.rt h.rb y < x := by
  rw [strip, Set.mem_Icc, not_and_or, not_le, not_le]

/-- Two closed intervals are equal if their ends are, or if both are empty. -/
theorem Icc_eq_iff {α : Type*} [LinearOrder α] (a b c d : α) :
    Set.Icc a b = Set.Icc c d ↔ (a = c ∧ b = d) ∨ (b < a ∧ d < c) := by
  constructor
  · intro h
    rcases le_or_gt a b with hab | hab
    · have ha : a ∈ Set.Icc c d := h ▸ Set.left_mem_Icc.mpr hab
      have hb : b ∈ Set.Icc c d := h ▸ Set.right_mem_Icc.mpr hab
      have hcd : c ≤ d := ha.1.trans ha.2
      have hc : c ∈ Set.Icc a b := h ▸ Set.left_mem_Icc.mpr hcd
      have hd : d ∈ Set.Icc a b := h ▸ Set.right_mem_Icc.mpr hcd
      exact .inl ⟨le_antisymm hc.1 ha.1, le_antisymm hb.2 hd.2⟩
    · rw [Set.Icc_eq_empty (not_le.mpr hab), eq_comm, Set.Icc_eq_empty_iff, not_le] at h
      exact .inr ⟨hab, h⟩
  · rintro (⟨rfl, rfl⟩ | ⟨hba, hdc⟩)
    · rfl
    · rw [Set.Icc_eq_empty (not_le.mpr hba), Set.Icc_eq_empty (not_le.mpr hdc)]

theorem edge_finite (top bottom y : Rat) (h : top - bottom = 0 ∨ 1 / 1000 ≤ |top - bottom|) :
    edge (.finite top) (.finite bottom) y = .finite (testedLine top bottom y) := by
  simp only [edge, Number.sub_finite, gt_iff_lt, Number.finite_lt, testedLine]
  rcases h with h | h
  · rw [h, if_pos (by norm_num), inv_zero, zero_mul, add_zero]
  · have hfar : ¬ (-1 / 1000 < top - bottom ∧ top - bottom < 1 / 1000) := by
      rintro ⟨hlo, hhi⟩
      have habs : |top - bottom| < 1 / 1000 := abs_lt.mpr ⟨by linarith, hhi⟩
      linarith
    have hne : top - bottom ≠ 0 := by
      intro h0
      rw [h0, abs_zero] at h
      norm_num at h
    rw [if_neg hfar, Number.one_eq, Number.div_finite _ hne, Number.mul_finite, Number.add_finite,
      one_div]

/-- A point that is right of another at both ends of the edge stays so between
them. -/
theorem lerp_lt (a b c d y : Rat) (h0 : 0 ≤ y) (h1 : y ≤ 1) (hac : a < c) (hbd : a + b < c + d) :
    a + b * y < c + d * y := by
  rcases eq_or_lt_of_le h1 with rfl | hlt
  · linarith
  · have hleft : 0 < (c - a) * (1 - y) := mul_pos (by linarith) (by linarith)
    have hright : 0 ≤ (c + d - (a + b)) * y := mul_nonneg (by linarith) h0
    linarith

theorem Hazard.strip_eq_empty (h : Hazard Rat) (ht : h.rt < h.lt) (hb : h.rb < h.lb) (y : Rat)
    (h0 : 0 ≤ y) (h1 : y ≤ 1) : line h.rt h.rb y < line h.lt h.lb y :=
  lerp_lt _ _ _ _ y h0 h1 ht (by linarith)

section Setting

variable (h : Hazard Rat)

theorem Hazard.isHazard_iff_not_mem_passed (hl : h.lt - h.lb = 0 ∨ 1 / 1000 ≤ |h.lt - h.lb|)
    (hr : h.rt - h.rb = 0 ∨ 1 / 1000 ≤ |h.rt - h.rb|) (x y : Rat) :
    h.finite.isHazard x y = true ↔ x ∉ h.passed y := by
  rw [isHazard_iff, Hazard.finite, edge_finite _ _ _ hl, edge_finite _ _ _ hr, Number.finite_lt,
    Number.finite_lt, passed, Set.mem_Icc, not_and_or, not_le, not_le]

/-- The top of the frame shows the difference unless both strips are empty there. -/
theorem Hazard.passed_top_iff :
    h.passed 0 = h.strip 0 ↔ (h.lt = h.lb ∧ h.rt = h.rb) ∨ (h.rb < h.lb ∧ h.rt < h.lt) := by
  rw [passed, strip, Icc_eq_iff]
  simp only [line, testedLine, mul_zero, add_zero, eq_comm]

theorem Hazard.passed_eq_strip_of_vertical (hlv : h.lt = h.lb) (hrv : h.rt = h.rb) (y : Rat) :
    h.passed y = h.strip y := by
  simp [passed, strip, line, testedLine, hlv, hrv]

/-- The two strips agree in the whole frame if both edges are vertical, or if the
edges are crossed at the top and at the bottom in either reading. -/
theorem Hazard.passed_eq_strip_iff :
    (∀ y, 0 ≤ y → y ≤ 1 → h.passed y = h.strip y) ↔
      (h.lt = h.lb ∧ h.rt = h.rb) ∨
        (h.rt < h.lt ∧ h.rb < h.lb ∧ h.rb + (h.rt - h.rb)⁻¹ < h.lb + (h.lt - h.lb)⁻¹) := by
  constructor
  · intro heq
    rcases h.passed_top_iff.mp (heq 0 le_rfl zero_le_one) with hv | ⟨hb, ht⟩
    · exact .inl hv
    · have hempty := heq 1 zero_le_one le_rfl
      rw [passed, strip, Set.Icc_eq_empty (not_le.mpr (h.strip_eq_empty ht hb 1 zero_le_one le_rfl)),
        Set.Icc_eq_empty_iff, not_le, testedLine, testedLine, mul_one, mul_one] at hempty
      exact .inr ⟨ht, hb, hempty⟩
  · rintro (⟨hlv, hrv⟩ | ⟨ht, hb, hbottom⟩) y h0 h1
    · exact h.passed_eq_strip_of_vertical hlv hrv y
    · rw [passed, strip, Icc_eq_iff]
      exact .inr ⟨lerp_lt _ _ _ _ y h0 h1 hb hbottom, h.strip_eq_empty ht hb y h0 h1⟩

end Setting

/-- `IsHazard` tests the strip of the setting exactly if both edges are vertical,
or if no point of the frame is safe in either reading. -/
theorem hazard_strip_iff (h : Hazard Rat) (hl : h.lt - h.lb = 0 ∨ 1 / 1000 ≤ |h.lt - h.lb|)
    (hr : h.rt - h.rb = 0 ∨ 1 / 1000 ≤ |h.rt - h.rb|) :
    (∀ x y : Rat, 0 ≤ y → y ≤ 1 → (h.finite.isHazard x y = true ↔
      x < h.lt + (h.lb - h.lt) * y ∨ x > h.rt + (h.rb - h.rt) * y)) ↔
      (h.lt = h.lb ∧ h.rt = h.rb) ∨
        (h.rt < h.lt ∧ h.rb < h.lb ∧ h.rb + (h.rt - h.rb)⁻¹ < h.lb + (h.lt - h.lb)⁻¹) := by
  rw [← h.passed_eq_strip_iff]
  constructor
  · intro hpoint y h0 h1
    ext x
    exact not_iff_not.mp ((h.isHazard_iff_not_mem_passed hl hr x y).symm.trans
      ((hpoint x y h0 h1).trans (h.not_mem_strip x y).symm))
  · intro heq x y h0 h1
    rw [h.isHazard_iff_not_mem_passed hl hr, heq y h0 h1]
    exact h.not_mem_strip x y

/-- A strip that widens from a half of the frame to seven tenths. -/
def widening : Hazard Rat := ⟨1 / 4, 3 / 4, 3 / 20, 17 / 20⟩

/-- The strip that widens is not the one that is tested. -/
theorem hazard_strip_widening :
    ¬ ∀ x y : Rat, 0 ≤ y → y ≤ 1 → (widening.finite.isHazard x y = true ↔
      x < 1 / 4 + (3 / 20 - 1 / 4) * y ∨ x > 3 / 4 + (17 / 20 - 3 / 4) * y) := by
  intro hall
  have hcases := (hazard_strip_iff widening
    (.inr (by rw [widening, le_abs]; exact .inl (by norm_num)))
    (.inr (by rw [widening, le_abs]; exact .inr (by norm_num)))).mp hall
  norm_num [widening] at hcases

/-- In the middle of that strip. -/
theorem slanted_strip_middle :
    widening.finite.isHazard (1 / 2) (1 / 2) = true ∧
      ¬ ((1 / 2 : Rat) < 1 / 4 + (3 / 20 - 1 / 4) * (1 / 2) ∨
        (1 / 2 : Rat) > 3 / 4 + (17 / 20 - 3 / 4) * (1 / 2)) := by
  refine ⟨by decide +kernel, ?_⟩
  norm_num

end Sprefence

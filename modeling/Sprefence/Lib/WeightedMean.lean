import Mathlib.Algebra.BigOperators.Ring.List
import Mathlib.Algebra.Order.BigOperators.Group.List
import Mathlib.Algebra.Order.Field.Basic

/-! The mean of a quantity over a list with positive weights. -/

namespace WeightedMean

variable {α K : Type*} [Field K]

def mean (weight f : α → K) (l : List α) : K :=
  (l.map fun a => f a * weight a).sum / (l.map weight).sum

variable {weight f g : α → K} {l : List α}

theorem mean_singleton (a : α) (ha : weight a ≠ 0) : mean weight f [a] = f a := by
  simp [mean, ha]

section Positive

variable [LinearOrder K] [IsStrictOrderedRing K] (hl : l ≠ []) (hw : ∀ a ∈ l, 0 < weight a)
include hl hw

theorem sum_weight_pos : 0 < (l.map weight).sum := by
  have hlt := List.sum_lt_sum_of_ne_nil hl (fun _ => (0 : K)) weight hw
  simpa using hlt

/-- The mean in place of every value gives the same sum. -/
theorem sum_mean :
    (l.map fun a => mean weight f l * weight a).sum = (l.map fun a => f a * weight a).sum := by
  rw [List.sum_map_mul_left, mean, div_mul_cancel₀ _ (sum_weight_pos hl hw).ne']

theorem exists_le_mean : ∃ a ∈ l, f a ≤ mean weight f l := by
  obtain ⟨a, ha, hle⟩ := List.exists_le_of_sum_le hl _ _ (sum_mean (f := f) hl hw).ge
  exact ⟨a, ha, le_of_mul_le_mul_right hle (hw a ha)⟩

theorem exists_mean_le : ∃ a ∈ l, mean weight f l ≤ f a := by
  obtain ⟨a, ha, hle⟩ := List.exists_le_of_sum_le hl _ _ (sum_mean (f := f) hl hw).le
  exact ⟨a, ha, le_of_mul_le_mul_right hle (hw a ha)⟩

theorem mean_lt_mean (hfg : ∀ a ∈ l, f a < g a) : mean weight f l < mean weight g l :=
  div_lt_div_of_pos_right
    (List.sum_lt_sum_of_ne_nil hl _ _ fun a ha => mul_lt_mul_of_pos_right (hfg a ha) (hw a ha))
    (sum_weight_pos hl hw)

end Positive

end WeightedMean

import Mathlib.Algebra.Order.Field.Basic
import Mathlib.MeasureTheory.Measure.Lebesgue.Basic
import Mathlib.MeasureTheory.Measure.Real
import Mathlib.Tactic.FieldSimp
import Mathlib.Tactic.Linarith

/-! Rectangles with sides along the axes, and how much of two of them is common:
the area of the intersection over the area of the union. -/

namespace Rectangles

variable {K : Type*} [Field K] [LinearOrder K]

/-- A side: the numbers from `lo` to `hi`. -/
structure Span (K : Type*) [LE K] where
  lo : K
  hi : K
  lo_le_hi : lo ≤ hi

omit [Field K] in
theorem Span.eq_of_ends {s t : Span K} (hlo : s.lo = t.lo) (hhi : s.hi = t.hi) : s = t := by
  cases s
  cases t
  cases hlo
  cases hhi
  rfl

def Span.length (s : Span K) : K := s.hi - s.lo

/-- The length of the common part. -/
def Span.common (s t : Span K) : K := max (min s.hi t.hi - max s.lo t.lo) 0

structure Rectangle (K : Type*) [LE K] where
  horizontal : Span K
  vertical : Span K

def Rectangle.area (r : Rectangle K) : K := r.horizontal.length * r.vertical.length

/-- The area of the common part. -/
def Rectangle.commonArea (r s : Rectangle K) : K :=
  r.horizontal.common s.horizontal * r.vertical.common s.vertical

def Rectangle.joinedArea (r s : Rectangle K) : K := r.area + s.area - r.commonArea s

/-- Intersection over union. -/
def Rectangle.similarity (r s : Rectangle K) : K := r.commonArea s / r.joinedArea s

/-! ## Sides -/

theorem Span.common_comm (s t : Span K) : s.common t = t.common s := by
  rw [common, common, min_comm, max_comm s.lo]

theorem Span.common_nonneg (s t : Span K) : 0 ≤ s.common t := le_max_right _ _

section Ordered

variable [IsStrictOrderedRing K]

theorem Span.length_nonneg (s : Span K) : 0 ≤ s.length := sub_nonneg.mpr s.lo_le_hi

theorem Span.common_le_left (s t : Span K) : s.common t ≤ s.length :=
  max_le (sub_le_sub (min_le_left _ _) (le_max_left _ _)) s.length_nonneg

/-- A side that has its whole length in common with another one lies in it. -/
theorem Span.le_of_common_eq {s t : Span K} (hpos : 0 < s.length) (h : s.common t = s.length) :
    t.lo ≤ s.lo ∧ s.hi ≤ t.hi := by
  have hcommon : min s.hi t.hi - max s.lo t.lo = s.hi - s.lo := by
    rw [← length, ← h, common, eq_comm, max_eq_left_iff]
    by_contra hneg
    rw [common, max_eq_right (not_le.mp hneg).le] at h
    exact hpos.ne h
  have hhi := min_le_left s.hi t.hi
  have hlo := le_max_left s.lo t.lo
  have hmin : min s.hi t.hi = s.hi := by linarith
  have hmax : max s.lo t.lo = s.lo := by linarith
  exact ⟨max_eq_left_iff.mp hmax, min_eq_left_iff.mp hmin⟩

theorem Span.eq_of_common_eq {s t : Span K} (hs : 0 < s.length) (ht : 0 < t.length)
    (hst : s.common t = s.length) (hts : s.common t = t.length) : s = t := by
  obtain ⟨hlo, hhi⟩ := Span.le_of_common_eq hs hst
  obtain ⟨hlo', hhi'⟩ := Span.le_of_common_eq ht ((t.common_comm s).trans hts)
  exact eq_of_ends (le_antisymm hlo' hlo) (le_antisymm hhi hhi')

theorem Span.common_self (s : Span K) : s.common s = s.length := by
  rw [common, min_self, max_self]
  exact max_eq_left s.length_nonneg

/-- The image under `p ↦ c * p + d`. -/
def Span.image (s : Span K) (c d : K) (hc : 0 ≤ c) : Span K where
  lo := c * s.lo + d
  hi := c * s.hi + d
  lo_le_hi := by
    have := mul_le_mul_of_nonneg_left s.lo_le_hi hc
    linarith

theorem Span.length_image (s : Span K) (c d : K) (hc : 0 ≤ c) :
    (s.image c d hc).length = c * s.length := by
  simp only [length, image]
  ring

theorem Span.common_image (s t : Span K) (c d : K) (hc : 0 ≤ c) :
    (s.image c d hc).common (t.image c d hc) = c * s.common t := by
  simp only [common, image, mul_max_of_nonneg _ _ hc, mul_zero, mul_sub, mul_min_of_nonneg _ _ hc,
    min_add_add_right, max_add_add_right, add_sub_add_right_eq_sub]

/-! ## Areas -/

namespace Rectangle

variable (r s : Rectangle K)

omit [IsStrictOrderedRing K] in
theorem commonArea_comm : r.commonArea s = s.commonArea r := by
  rw [commonArea, commonArea, Span.common_comm, r.vertical.common_comm]

theorem commonArea_nonneg : 0 ≤ r.commonArea s :=
  mul_nonneg (Span.common_nonneg _ _) (Span.common_nonneg _ _)

theorem commonArea_le_left : r.commonArea s ≤ r.area :=
  mul_le_mul (Span.common_le_left _ _) (Span.common_le_left _ _) (Span.common_nonneg _ _)
    (Span.length_nonneg _)

theorem commonArea_le_right : r.commonArea s ≤ s.area :=
  r.commonArea_comm s ▸ s.commonArea_le_left r

/-- The common part is not larger than the union. -/
theorem commonArea_le_joinedArea : r.commonArea s ≤ r.joinedArea s := by
  have hr := r.commonArea_le_left s
  have hs := r.commonArea_le_right s
  rw [joinedArea]
  linarith

theorem similarity_nonneg : 0 ≤ r.similarity s :=
  div_nonneg (r.commonArea_nonneg s) ((r.commonArea_nonneg s).trans (r.commonArea_le_joinedArea s))

theorem similarity_le_one : r.similarity s ≤ 1 :=
  div_le_one_of_le₀ (r.commonArea_le_joinedArea s)
    ((r.commonArea_nonneg s).trans (r.commonArea_le_joinedArea s))

variable {r s}

theorem length_pos_of_area_pos (hpos : 0 < r.area) :
    0 < r.horizontal.length ∧ 0 < r.vertical.length :=
  ⟨pos_of_mul_pos_left hpos r.vertical.length_nonneg,
    pos_of_mul_pos_right hpos r.horizontal.length_nonneg⟩

/-- A common part with the area of one of the rectangles is this rectangle. -/
theorem common_eq_of_commonArea_eq (hpos : 0 < r.area) (h : r.commonArea s = r.area) :
    r.horizontal.common s.horizontal = r.horizontal.length ∧
      r.vertical.common s.vertical = r.vertical.length := by
  have hh := r.horizontal.common_le_left s.horizontal
  have hv := r.vertical.common_le_left s.vertical
  have hheight := (length_pos_of_area_pos hpos).2
  have hcommon : 0 < r.horizontal.common s.horizontal :=
    pos_of_mul_pos_left (h ▸ hpos : 0 < r.commonArea s) (Span.common_nonneg _ _)
  exact (mul_eq_mul_iff_eq_and_eq_of_pos hh hv hcommon hheight).mp h

theorem eq_of_commonArea_eq (hr : 0 < r.area) (hs : 0 < s.area) (hrs : r.commonArea s = r.area)
    (hsr : s.commonArea r = s.area) : r = s := by
  obtain ⟨hrh, hrv⟩ := length_pos_of_area_pos hr
  obtain ⟨hsh, hsv⟩ := length_pos_of_area_pos hs
  obtain ⟨hh, hv⟩ := common_eq_of_commonArea_eq hr hrs
  obtain ⟨hh', hv'⟩ := common_eq_of_commonArea_eq hs hsr
  have hhorizontal := Span.eq_of_common_eq hrh hsh hh ((Span.common_comm _ _).trans hh')
  have hvertical := Span.eq_of_common_eq hrv hsv hv ((Span.common_comm _ _).trans hv')
  cases r
  cases s
  exact congrArg₂ Rectangle.mk hhorizontal hvertical

theorem similarity_eq_one_iff : r.similarity s = 1 ↔ r = s ∧ 0 < r.area := by
  constructor
  · intro h
    have hjoined : r.joinedArea s ≠ 0 := by
      intro h0
      rw [similarity, h0, div_zero] at h
      exact zero_ne_one h
    have hpos : 0 < r.joinedArea s :=
      lt_of_le_of_ne ((r.commonArea_nonneg s).trans (r.commonArea_le_joinedArea s)) hjoined.symm
    have heq : r.commonArea s = r.joinedArea s := (div_eq_one_iff_eq hjoined).mp h
    have hr := r.commonArea_le_left s
    have hs := r.commonArea_le_right s
    unfold joinedArea at heq hpos
    have hrarea : r.commonArea s = r.area := by linarith
    have hsarea : s.commonArea r = s.area := by
      rw [s.commonArea_comm r]
      linarith
    have hrpos : 0 < r.area := by linarith
    have hspos : 0 < s.area := by linarith
    exact ⟨eq_of_commonArea_eq hrpos hspos hrarea hsarea, hrpos⟩
  · rintro ⟨rfl, hpos⟩
    have hcommon : r.commonArea r = r.area := by
      rw [commonArea, Span.common_self, Span.common_self, area]
    rw [similarity, joinedArea, hcommon, add_sub_cancel_right, div_self hpos.ne']

/-- The image under `(p, q) ↦ (c * p + dx, c * q + dy)`. -/
def image (r : Rectangle K) (c dx dy : K) (hc : 0 ≤ c) : Rectangle K where
  horizontal := r.horizontal.image c dx hc
  vertical := r.vertical.image c dy hc

theorem similarity_image (r s : Rectangle K) (c dx dy : K) (hc : 0 < c) :
    (r.image c dx dy hc.le).similarity (s.image c dx dy hc.le) = r.similarity s := by
  have hc2 : c * c ≠ 0 := (mul_pos hc hc).ne'
  simp only [similarity, joinedArea, commonArea, area, image, Span.length_image, Span.common_image,
    mul_mul_mul_comm c, ← mul_add, ← mul_sub]
  exact mul_div_mul_left _ _ hc2

end Rectangle

end Ordered

/-! ## Measures -/

open MeasureTheory Set

namespace Rectangle

variable (r s : Rectangle Rat)

/-- The points of a rectangle with rational edges. -/
def region : Set (ℝ × ℝ) :=
  Icc (r.horizontal.lo : ℝ) r.horizontal.hi ×ˢ Icc (r.vertical.lo : ℝ) r.vertical.hi

theorem volume_Icc_prod (a b c d : ℝ) :
    volume.real (Icc a b ×ˢ Icc c d) = max (b - a) 0 * max (d - c) 0 := by
  rw [Measure.volume_eq_prod, measureReal_prod_prod, Real.volume_real_Icc, Real.volume_real_Icc]

theorem volume_region : volume.real r.region = (r.area : ℝ) := by
  have hh : (0 : ℝ) ≤ r.horizontal.length := by exact_mod_cast r.horizontal.length_nonneg
  have hv : (0 : ℝ) ≤ r.vertical.length := by exact_mod_cast r.vertical.length_nonneg
  unfold Span.length at hh hv
  push_cast at hh hv
  rw [region, volume_Icc_prod, max_eq_left hh, max_eq_left hv, area, Span.length, Span.length]
  push_cast
  rfl

theorem volume_inter : volume.real (r.region ∩ s.region) = (r.commonArea s : ℝ) := by
  rw [region, region, prod_inter_prod, Icc_inter_Icc, Icc_inter_Icc, volume_Icc_prod, commonArea,
    Span.common, Span.common]
  push_cast
  rfl

theorem measurableSet_region : MeasurableSet r.region := measurableSet_Icc.prod measurableSet_Icc

theorem volume_region_ne_top : volume r.region ≠ ⊤ :=
  (isCompact_Icc.prod isCompact_Icc).measure_lt_top.ne

theorem volume_union : volume.real (r.region ∪ s.region) = (r.joinedArea s : ℝ) := by
  have h : volume.real (r.region ∪ s.region) + volume.real (r.region ∩ s.region) =
      volume.real r.region + volume.real s.region :=
    measureReal_union_add_inter s.measurableSet_region r.volume_region_ne_top s.volume_region_ne_top
  rw [volume_inter, volume_region, volume_region] at h
  rw [joinedArea]
  push_cast
  linarith

/-- What `similarity` is for. -/
theorem similarity_eq_volume : (r.similarity s : ℝ) =
    volume.real (r.region ∩ s.region) / volume.real (r.region ∪ s.region) := by
  rw [volume_inter, volume_union, similarity]
  push_cast
  rfl

end Rectangle

end Rectangles

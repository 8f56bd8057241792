import Mathlib.Tactic.Ring
import Sprefence.Face.Suppression
import Sprefence.Lib.Rectangles

/-! `OverlapSimilarity` of `non_max_suppression.cxx` is intersection over union.
`IntersectRect` returns the right and the lower edge in the fields `w` and `h`, and
that is how they are used. -/

namespace Sprefence.FaceDetect

open MeasureTheory Rectangles

/-- A detection whose width and height are not negative. -/
structure Box extends Detection where
  w_nonneg : 0 ≤ w
  h_nonneg : 0 ≤ h

namespace Box

/-- The rectangle around the centre. -/
def rectangle (a : Box) : Rectangle Rat where
  horizontal := ⟨a.left, a.right, by
    have := a.w_nonneg
    simp only [Detection.left, Detection.right]
    linarith⟩
  vertical := ⟨a.top, a.bottom, by
    have := a.h_nonneg
    simp only [Detection.top, Detection.bottom]
    linarith⟩

def translate (a : Box) (dx dy : Rat) : Box :=
  { a with x := a.x + dx, y := a.y + dy }

def scale (a : Box) (k : Rat) (hk : 0 < k) : Box where
  x := k * a.x
  y := k * a.y
  w := k * a.w
  h := k * a.h
  score := a.score
  classes := a.classes
  w_nonneg := mul_nonneg hk.le a.w_nonneg
  h_nonneg := mul_nonneg hk.le a.h_nonneg

theorem width_eq (a : Box) : a.rectangle.horizontal.length = a.w := by
  simp only [rectangle, Span.length, Detection.left, Detection.right]
  ring

theorem height_eq (a : Box) : a.rectangle.vertical.length = a.h := by
  simp only [rectangle, Span.length, Detection.top, Detection.bottom]
  ring

theorem area_eq (a : Box) : a.rectangle.area = a.w * a.h := by
  rw [Rectangle.area, width_eq, height_eq]

theorem rectangle_eq_iff (a b : Box) :
    a.rectangle = b.rectangle ↔ (a.x, a.y, a.w, a.h) = (b.x, b.y, b.w, b.h) := by
  simp only [Prod.mk.injEq]
  constructor
  · intro h
    have hw : a.w = b.w := by rw [← width_eq, h, width_eq]
    have hh : a.h = b.h := by rw [← height_eq, h, height_eq]
    have hleft : a.left = b.left := congrArg (fun r => r.horizontal.lo) h
    have htop : a.top = b.top := congrArg (fun r => r.vertical.lo) h
    simp only [Detection.left, Detection.top, hw, hh, sub_left_inj] at hleft htop
    exact ⟨hleft, htop, hw, hh⟩
  · rintro ⟨hx, hy, hw, hh⟩
    simp only [rectangle, Detection.left, Detection.right, Detection.top, Detection.bottom, hx, hy,
      hw, hh]

theorem rectangle_translate (a : Box) (dx dy : Rat) :
    (a.translate dx dy).rectangle = a.rectangle.image 1 dx dy zero_le_one := by
  simp only [rectangle, translate, Rectangle.image, Span.image, Detection.left, Detection.right,
    Detection.top, Detection.bottom, one_mul, sub_add_eq_add_sub, add_right_comm]

theorem rectangle_scale (a : Box) (k : Rat) (hk : 0 < k) :
    (a.scale k hk).rectangle = a.rectangle.image k 0 0 hk.le := by
  simp only [rectangle, scale, Rectangle.image, Span.image, Detection.left, Detection.right,
    Detection.top, Detection.bottom, add_zero, mul_sub, mul_add, mul_div_assoc]

end Box

/-- The corners of `IntersectRect` are the edges of the common part. -/
theorem overlapSimilarity_eq (a b : Box) :
    overlapSimilarity a.toDetection b.toDetection = a.rectangle.similarity b.rectangle := by
  have hhorizontal : a.rectangle.horizontal.common b.rectangle.horizontal =
      max ((intersectRect a.toDetection b.toDetection).w -
        (intersectRect a.toDetection b.toDetection).x) 0 := by
    rw [intersectRect_eq]
    rfl
  have hvertical : a.rectangle.vertical.common b.rectangle.vertical =
      max ((intersectRect a.toDetection b.toDetection).h -
        (intersectRect a.toDetection b.toDetection).y) 0 := by
    rw [intersectRect_eq]
    rfl
  have hle := a.rectangle.commonArea_le_joinedArea b.rectangle
  unfold overlapSimilarity
  generalize intersectRect a.toDetection b.toDetection = c at hhorizontal hvertical
  rw [Rectangle.similarity]
  rw [Rectangle.joinedArea, Rectangle.commonArea, hhorizontal, hvertical, Box.area_eq,
    Box.area_eq] at hle ⊢
  by_cases hx : c.x ≥ c.w
  · simp [hx]
  by_cases hy : c.y ≥ c.h
  · simp [hy]
  have hw : 0 < c.w - c.x := sub_pos.mpr (not_le.mp hx)
  have hh : 0 < c.h - c.y := sub_pos.mpr (not_le.mp hy)
  have hpos := mul_pos hw hh
  rw [max_eq_left hw.le, max_eq_left hh.le] at hle ⊢
  simp only [hx, hy, or_self, if_false, if_pos (hpos.trans_le hle)]

/-- `OverlapSimilarity` is the area of the intersection over that of the union, with
the laws of such a measure. -/
theorem overlapSimilarity_iou (a b : Box) :
    (overlapSimilarity a.toDetection b.toDetection : ℝ) =
        volume.real (a.rectangle.region ∩ b.rectangle.region) /
          volume.real (a.rectangle.region ∪ b.rectangle.region) ∧
      overlapSimilarity a.toDetection b.toDetection =
        overlapSimilarity b.toDetection a.toDetection ∧
      0 ≤ overlapSimilarity a.toDetection b.toDetection ∧
      overlapSimilarity a.toDetection b.toDetection ≤ 1 ∧
      (overlapSimilarity a.toDetection b.toDetection = 1 ↔
        (a.x, a.y, a.w, a.h) = (b.x, b.y, b.w, b.h) ∧ 0 < a.w * a.h) ∧
      (∀ dx dy, overlapSimilarity (a.translate dx dy).toDetection (b.translate dx dy).toDetection =
        overlapSimilarity a.toDetection b.toDetection) ∧
      ∀ k hk, overlapSimilarity (a.scale k hk).toDetection (b.scale k hk).toDetection =
        overlapSimilarity a.toDetection b.toDetection := by
  refine ⟨?_, overlapSimilarity_comm _ _, ?_, ?_, ?_, fun dx dy => ?_, fun k hk => ?_⟩
  · rw [overlapSimilarity_eq, Rectangle.similarity_eq_volume]
  · rw [overlapSimilarity_eq]
    exact Rectangle.similarity_nonneg _ _
  · rw [overlapSimilarity_eq]
    exact Rectangle.similarity_le_one _ _
  · rw [overlapSimilarity_eq, Rectangle.similarity_eq_one_iff, Box.rectangle_eq_iff, Box.area_eq]
  · rw [overlapSimilarity_eq, overlapSimilarity_eq, Box.rectangle_translate, Box.rectangle_translate,
      Rectangle.similarity_image _ _ 1 dx dy one_pos]
  · rw [overlapSimilarity_eq, overlapSimilarity_eq, Box.rectangle_scale, Box.rectangle_scale,
      Rectangle.similarity_image _ _ k 0 0 hk]

/-- A unit square, and the same half a side to the right. -/
def unitBox : Box := ⟨⟨0, 0, 1, 1, 1, 0⟩, by decide, by decide⟩

theorem overlapSimilarity_half_side :
    overlapSimilarity (unitBox.scale 3 (by decide)).toDetection
        ((unitBox.translate (1 / 2) 0).scale 3 (by decide)).toDetection = 1 / 3 := by
  have hscale := (overlapSimilarity_iou unitBox (unitBox.translate (1 / 2) 0)).2.2.2.2.2.2
  rw [hscale 3 (by decide)]
  decide +kernel

end Sprefence.FaceDetect

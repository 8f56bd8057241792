import Mathlib.Algebra.Order.Ring.Rat
import Mathlib.Data.Fintype.Basic
import Mathlib.Tactic.Linarith
import Mathlib.Tactic.NormNum
import Sprefence.Face.Provider
import Sprefence.Lib.LineMap

/-! `DeOffset` of `main_handler.cxx`, which is to take a detection from the
network's input back to the camera frame, against the crops that made the
input. Floats are exact rationals, and `imageproc_clip_and_resize` maps the
clip rectangle linearly onto its output. -/

namespace Sprefence.FaceDetect

/-- `struct Detection`: centre, size, score and class. -/
structure Detection where
  x : Rat
  y : Rat
  w : Rat
  h : Rat
  score : Rat
  classes : Int
  deriving DecidableEq, Repr

/-! ## The code -/

/-- `x_offset` of `DeOffset`. -/
def xOffset (type : Int) : Int :=
  if type = 0 then 32
  else if type = 1 then 0
  else if type = 2 then 64
  else 64 * (type - 3).tmod 4

def yOffset (type : Int) : Int :=
  if type = 0 then 0
  else if type = 1 then 0
  else if type = 2 then 0
  else 56 * (type - 3).tdiv 4

def scale (type : Int) : Int := if type < 3 then 2 else 1

/-- The height is divided by 320, too. -/
def deOffset (type : Int) (d : Detection) : Detection :=
  { d with
    x := (d.x * scale type + xOffset type) / 320
    y := (d.y * scale type + yOffset type) / 240
    w := (d.w * scale type + xOffset type) / 320
    h := (d.h * scale type + yOffset type) / 320 }

/-! ## What the crops do -/

/-- A row of `out_data` has three floats a pixel. -/
def Conversion.padRows (cv : Conversion) : Int := cv.pad / (sampleWidth * 3)

/-- From a fraction of the frame's width to a fraction of the input's. -/
def Conversion.xMap (cv : Conversion) : LineMap Rat :=
  (LineMap.scale (1 / (sampleWidth : Rat))).comp
    ((LineMap.onto (cv.clipRect.x1 : Rat) (cv.clipRect.x2 - cv.clipRect.x1 + 1) cv.outWidth).comp
      (LineMap.scale (faceImageWidth : Rat)))

def Conversion.yMap (cv : Conversion) : LineMap Rat :=
  (LineMap.scale (1 / (sampleHeight : Rat))).comp
    ((LineMap.translate (cv.padRows : Rat)).comp
      ((LineMap.onto (cv.clipRect.y1 : Rat) (cv.clipRect.y2 - cv.clipRect.y1 + 1)
        cv.outHeight).comp (LineMap.scale (faceImageHeight : Rat))))

/-- The edges of `frame`, in fractions of the camera frame, are mapped to the
edges of `input`, in fractions of the network's input. -/
def Conversion.SameRegion (cv : Conversion) (input frame : Detection) : Prop :=
  (cv.xMap.apply (frame.x - frame.w / 2) = input.x - input.w / 2 ∧
    cv.xMap.apply (frame.x + frame.w / 2) = input.x + input.w / 2) ∧
  (cv.yMap.apply (frame.y - frame.h / 2) = input.y - input.h / 2 ∧
    cv.yMap.apply (frame.y + frame.h / 2) = input.y + input.h / 2)

/-- The two detections are the same region for the crop that the provider makes
of `type`. -/
def SameRegion (type : Int) (input frame : Detection) : Prop :=
  ∃ cv, getFaceImage type = some cv ∧ cv.SameRegion input frame

/-! ## The fifteen crops -/

/-- The rows of padding above the picture. -/
def padding (type : Int) : Int := if type < 3 then 4 else 0

/-- All crops in the terms of `DeOffset`: its offsets are the clip origins and
its scale is the factor. -/
def crop (type : Int) : Conversion where
  clipRect := ⟨xOffset type, yOffset type, xOffset type + 128 * scale type - 1,
    yOffset type + scale type * (128 - 2 * padding type) - 1⟩
  outWidth := 128
  outHeight := 128 - 2 * padding type
  pad := padding type * (128 * 3)

theorem getFaceImage_eq_crop (t : Fin 15) : getFaceImage t.val = some (crop t.val) := by
  revert t
  decide

theorem scale_pos (type : Int) : (0 : Rat) < scale type := by
  unfold scale
  split_ifs <;> norm_num

theorem crop_padRows (type : Int) : (crop type).padRows = padding type :=
  Int.mul_ediv_cancel _ (by decide)

theorem crop_xMap (type : Int) :
    (∀ u, (crop type).xMap.apply u = (320 * u - xOffset type) / (128 * scale type)) ∧
      (crop type).xMap.slope = 320 / (128 * scale type) := by
  have hlen : (((crop type).clipRect.x2 : Rat) - (crop type).clipRect.x1 + 1) =
      128 * scale type := by
    simp only [crop]
    push_cast
    ring
  have hs := (scale_pos type).ne'
  unfold Conversion.xMap
  rw [hlen]
  simp only [LineMap.apply_comp, LineMap.slope_comp]
  simp only [LineMap.apply, LineMap.scale, LineMap.onto, crop, sampleWidth, faceImageWidth]
  push_cast
  constructor
  · intro u
    field_simp
    ring
  · field_simp

theorem crop_yMap (type : Int) :
    (∀ u, (crop type).yMap.apply u =
      (240 * u - yOffset type) / (128 * scale type) + padding type / 128) ∧
      (crop type).yMap.slope = 240 / (128 * scale type) := by
  have hlen : (((crop type).clipRect.y2 : Rat) - (crop type).clipRect.y1 + 1) =
      scale type * (128 - 2 * padding type) := by
    simp only [crop]
    push_cast
    ring
  have hs := (scale_pos type).ne'
  have hout : (128 - 2 * padding type : Rat) ≠ 0 := by
    unfold padding
    split_ifs <;> norm_num
  unfold Conversion.yMap
  rw [hlen, crop_padRows]
  simp only [LineMap.apply_comp, LineMap.slope_comp]
  simp only [LineMap.apply, LineMap.scale, LineMap.onto, LineMap.translate, crop, sampleHeight,
    faceImageHeight]
  push_cast
  constructor
  · intro u
    field_simp
    ring
  · field_simp

/-- Undoing a crop: multiply by the 128 pixels of the input and the factor, take
off the padding and add the clip origin to the centre only. -/
theorem sameRegion_iff (t : Fin 15) (input frame : Detection) :
    SameRegion t.val input frame ↔
      320 * frame.x = 128 * scale t.val * input.x + xOffset t.val ∧
      320 * frame.w = 128 * scale t.val * input.w ∧
      240 * frame.y = scale t.val * (128 * input.y - padding t.val) + yOffset t.val ∧
      240 * frame.h = 128 * scale t.val * input.h := by
  have hs : (128 * scale t.val : Rat) ≠ 0 := (mul_pos (by norm_num) (scale_pos t.val)).ne'
  unfold SameRegion
  rw [getFaceImage_eq_crop]
  simp only [Option.some.injEq, exists_eq_left', Conversion.SameRegion, LineMap.apply_edges_iff,
    crop_xMap, crop_yMap, and_assoc]
  refine and_congr ?_ (and_congr ?_ (and_congr ?_ ?_))
  · rw [div_eq_iff hs]
    constructor <;> intro h <;> linarith
  · rw [div_mul_eq_mul_div, div_eq_iff hs, mul_comm input.w]
  · rw [← eq_sub_iff_add_eq, div_eq_iff hs]
    constructor <;> intro h <;> linarith
  · rw [div_mul_eq_mul_div, div_eq_iff hs, mul_comm input.h]

/-- `DeOffset` gives the region of the frame only for one box of each crop. -/
theorem deOffset_sameRegion_iff (t : Fin 15) (d : Detection) :
    SameRegion t.val d (deOffset t.val d) ↔
      d.x = 0 ∧ d.w = xOffset t.val / (127 * scale t.val) ∧
      d.y = padding t.val / 127 ∧ d.h = 3 * yOffset t.val / (509 * scale t.val) := by
  have hs : (scale t.val : Rat) ≠ 0 := (scale_pos t.val).ne'
  rw [sameRegion_iff]
  simp only [deOffset]
  refine and_congr ?_ (and_congr ?_ (and_congr ?_ ?_))
  · -- the factor 128 is missing
    rw [mul_div_cancel₀ _ (by norm_num), add_left_inj]
    constructor
    · intro h
      have h127 : (scale t.val : Rat) * (127 * d.x) = 0 := by linarith
      have := (mul_eq_zero.mp h127).resolve_left hs
      linarith
    · intro h
      rw [h]
      ring
  · -- besides, the origin is added to the width
    rw [mul_div_cancel₀ _ (by norm_num), eq_div_iff (mul_ne_zero (by norm_num) hs)]
    constructor <;> intro h <;> linarith
  · -- the padding is not taken off
    rw [mul_div_cancel₀ _ (by norm_num), add_left_inj, eq_div_iff (by norm_num)]
    constructor
    · intro h
      have h127 : (scale t.val : Rat) * (127 * d.y - padding t.val) = 0 := by linarith
      have := (mul_eq_zero.mp h127).resolve_left hs
      linarith
    · intro h
      rw [← h]
      ring
  · -- the height is divided by the frame's width
    rw [eq_div_iff (mul_ne_zero (by norm_num) hs)]
    constructor <;> intro h <;> linarith

/-- A box in the middle of the left crop, which lies around the middle of the
frame's height, is reported in its top left corner. -/
theorem centred_box_not_returned :
    ¬ SameRegion 1 ⟨1 / 2, 1 / 2, 1 / 4, 1 / 4, 1, 0⟩
        (deOffset 1 ⟨1 / 2, 1 / 2, 1 / 4, 1 / 4, 1, 0⟩) ∧
      SameRegion 1 ⟨1 / 2, 1 / 2, 1 / 4, 1 / 4, 1, 0⟩ ⟨2 / 5, 1 / 2, 1 / 5, 4 / 15, 1, 0⟩ ∧
      deOffset 1 ⟨1 / 2, 1 / 2, 1 / 4, 1 / 4, 1, 0⟩ =
        ⟨1 / 320, 1 / 240, 1 / 640, 1 / 640, 1, 0⟩ := by
  have hdeOffset : deOffset 1 ⟨1 / 2, 1 / 2, 1 / 4, 1 / 4, 1, 0⟩ =
      ⟨1 / 320, 1 / 240, 1 / 640, 1 / 640, 1, 0⟩ := by decide +kernel
  refine ⟨fun h => ?_, (sameRegion_iff 1 _ _).mpr (by decide +kernel), hdeOffset⟩
  have hx := ((sameRegion_iff 1 _ _).mp h).1
  rw [hdeOffset] at hx
  revert hx
  decide +kernel

end Sprefence.FaceDetect

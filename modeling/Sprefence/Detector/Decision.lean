import Sprefence.Detector.Centers
import Sprefence.Detector.Fence
import Sprefence.Detector.Strip

/-! The units of the decision of `diff_ditect`. The setting is in fractions of
the frame; the loop computes the centre in fractions, and then calls `IsHazard`
with the one in pixels. -/

namespace Sprefence

/-- `gradL` or `gradR`, zero for a vertical edge. -/
def slope (top bottom : Number) : Number :=
  if top - bottom > .finite (-1 / 1000) ∧ top - bottom < .finite (1 / 1000) then .finite 0
  else 1 / (top - bottom)

/-- Outside of the strip between two lines with the given ends and slopes. -/
def Outside (left gradL right gradR : Number) (x y : Rat) : Prop :=
  .finite x < left + gradL * y ∨ right + gradR * y < .finite x

instance (left gradL right gradR : Number) (x y : Rat) :
    Decidable (Outside left gradL right gradR x y) :=
  inferInstanceAs (Decidable (_ ∨ _))

theorem edge_eq_slope (top bottom : Number) (y : Rat) :
    edge top bottom y = bottom + slope top bottom * y := by
  unfold edge slope
  dsimp only
  split_ifs
  · rw [Number.mul_finite, zero_mul, Number.add_finite_zero]
  · rfl

theorem isHazard_iff_outside (h : Hazard) (x y : Rat) :
    h.isHazard x y = true ↔ Outside h.lb (slope h.lt h.lb) h.rb (slope h.rt h.rb) x y := by
  rw [Outside, ← edge_eq_slope, ← edge_eq_slope, Hazard.isHazard_iff]

/-- The strip of the setting in pixels. -/
theorem outside_fraction_iff (left gradL right gradR : Number) (x y : Rat) :
    Outside left gradL right gradR (x / 320) (y / 240) ↔
      Outside (320 * left) (4 / 3 * gradL) (320 * right) (4 / 3 * gradR) x y := by
  have hc : (0 : Rat) < 320 := by norm_num
  have hd : (0 : Rat) < 240 := by norm_num
  have hx : Number.finite x = .finite 320 * .finite (x / 320) := by
    rw [Number.mul_finite, mul_div_cancel₀ x hc.ne']
  have hline : ∀ a g : Number, 320 * a + 4 / 3 * g * y =
      .finite 320 * (a + g * .finite (y / 240)) := by
    intro a g
    have hratio : (4 / 3 : Number) = .finite (320 / 240) := by decide +kernel
    rw [Number.mul_add_of_pos hc, Number.mul_div_swap hc hd, hratio]
    rfl
  simp only [Outside, hline, hx, Number.mul_lt_mul_left_of_pos hc]

namespace DiffDitect

open CBytes Centroid Finset
open WebSource (SdCard)

section Loop

variable (findBlackCenter findSkinCenter : FindCenter)

/-- An iteration that finds a centre ends with the verdict on its pixels. -/
theorem stepOn_isOn_of_centre (s : State) (i : SdCard × Surroundings) (pic cam : List UInt8)
    (x y : Int) (hcompared : compared s i = some (pic, cam))
    (hcentre : centre findBlackCenter findSkinCenter pic cam = some (x, y)) :
    (stepOn findBlackCenter findSkinCenter s i).isOn = s.hazard.isHazard x y := by
  have hhead : s.status = .running ∧ poll i.1.switchIni i.2.cbuff = .absent := by
    by_contra h
    rw [compared, if_neg h] at hcompared
    cases hcompared
  have houtcome : outcome findBlackCenter findSkinCenter s i = some (s.hazard.isHazard x y) := by
    simp [outcome, hhead.1, hhead.2, hcompared, hcentre]
  rw [stepOn_isOn, houtcome, Option.getD_some]

/-- The fence follows the fraction of the frame exactly if the centre in pixels is
on the same side of the strip as it would be of the strip in pixels. -/
theorem decision_iff (s : State) (i : SdCard × Surroundings) (pic cam : List UInt8) (x y : Int)
    (hcompared : compared s i = some (pic, cam))
    (hcentre : centre findBlackCenter findSkinCenter pic cam = some (x, y)) :
    (stepOn findBlackCenter findSkinCenter s i).isOn = s.hazard.isHazard (x / 320) (y / 240) ↔
      (Outside s.hazard.lb (slope s.hazard.lt s.hazard.lb)
          s.hazard.rb (slope s.hazard.rt s.hazard.rb) x y ↔
        Outside (320 * s.hazard.lb) (4 / 3 * slope s.hazard.lt s.hazard.lb)
          (320 * s.hazard.rb) (4 / 3 * slope s.hazard.rt s.hazard.rb) x y) := by
  rw [stepOn_isOn_of_centre findBlackCenter findSkinCenter s i pic cam x y hcompared hcentre,
    Bool.eq_iff_iff, isHazard_iff_outside, isHazard_iff_outside, outside_fraction_iff]

end Loop

/-! ## A white pixel in a black frame -/

/-- The functions of the program, with memory behind the buffers that reads as zero. -/
def blackCenter : FindCenter := fun pic cam =>
  (findBlackCenter Int32 (fun k => some (pic.getD k 0)) fun k => some (cam.getD k 0)).getD (-1, -1)

def skinCenterOf : FindCenter := fun pic cam =>
  (findSkinCenter Int32 (fun k => some (pic.getD k 0)) fun k => some (cam.getD k 0)).getD (-1, -1)

def black : List UInt8 := List.replicate fSize 0

/-- The luma byte of the pixel is 255, and every other byte 0. -/
def whitePixel (row col : Nat) : List UInt8 := black.set (2 * (yWidth * row + col) + 1) 255

theorem black_getD (k : Nat) : black.getD k 0 = 0 := by
  rw [black, List.getD_eq_getElem?_getD, List.getElem?_replicate]
  split_ifs <;> rfl

theorem fread_black : fread black fSize black = black := by
  simp [fread, store, black]

section WhitePixel

variable (row col : Nat) (hrow : row < yHeight) (hcol : col < yWidth)
include hrow hcol

theorem whitePixel_getD (k : Nat) :
    (whitePixel row col).getD k 0 = if k = 2 * (yWidth * row + col) + 1 then 255 else 0 := by
  have hlt : 2 * (yWidth * row + col) + 1 < black.length := by
    rw [black, List.length_replicate]
    exact luma_lt row col hrow hcol
  rw [whitePixel, List.getD_eq_getElem?_getD, List.getElem?_set]
  by_cases hk : k = 2 * (yWidth * row + col) + 1
  · rw [if_pos hk.symm, if_pos (hk ▸ hlt), if_pos hk]
    rfl
  · rw [if_neg (Ne.symm hk), if_neg hk, ← List.getD_eq_getElem?_getD, black_getD]

theorem whitePixel_luma (i j : Nat) (hj : j < yWidth) :
    promote ((whitePixel row col).getD (2 * (yWidth * i + j) + 1) 0) =
      if i = row ∧ j = col then 255 else 0 := by
  have hindex : 2 * (yWidth * i + j) + 1 = 2 * (yWidth * row + col) + 1 ↔ i = row ∧ j = col := by
    unfold yWidth at *
    omega
  simp only [whitePixel_getD row col hrow hcol, hindex]
  split_ifs <;> rfl

/-- One pixel does not move the mean. -/
theorem meanDiff_whitePixel :
    meanDiff (fun k => black.getD k 0) (fun k => (whitePixel row col).getD k 0) = 0 := by
  have hsum : ∑ i ∈ range yHeight, ∑ j ∈ range yWidth, pixelDiff (fun k => black.getD k 0)
      (fun k => (whitePixel row col).getD k 0) i j =
      -(total (fun i j => if i = row ∧ j = col then 255 else 0) yHeight yWidth).weight := by
    simp only [total, ← sum_neg_distrib]
    refine grid_sum_congr _ _ _ _ fun i _ j hj => ?_
    rw [pixelDiff, whitePixel_luma row col hrow hcol i j hj, black_getD]
    exact zero_sub _
  rw [meanDiff, hsum, total_single 255 row col _ _ hrow hcol]
  rfl

theorem blackSums_whitePixel :
    blackSums (fun k => black.getD k 0) (fun k => (whitePixel row col).getD k 0) =
      ⟨255, 255 * col, 255 * row⟩ := by
  rw [← total_single 255 row col yHeight yWidth hrow hcol]
  refine total_congr _ _ _ _ fun i _ j hj => ?_
  rw [blackWeight, meanDiff_whitePixel row col hrow hcol,
    whitePixel_luma row col hrow hcol i j hj, black_getD]
  by_cases hpixel : i = row ∧ j = col
  · rw [if_pos hpixel]
    rfl
  · rw [if_neg hpixel]
    rfl

theorem blackCenter_whitePixel : blackCenter black (whitePixel row col) = ((col : Int), (row : Int)) := by
  have hok : (⟨255, 255 * col, 255 * row⟩ : Sums).Ok Int32 := by
    unfold yHeight at hrow
    unfold yWidth at hcol
    refine ⟨⟨?_, ?_⟩, ⟨?_, ?_⟩, ⟨?_, ?_⟩⟩ <;> dsimp only <;> omega
  rw [blackCenter, findBlackCenter_eq Int32 isRange_int32 _ _ _ _ (fun _ _ => rfl) (fun _ _ => rfl),
    blackSums_whitePixel row col hrow hcol, if_pos hok, Option.getD_some,
    if_neg (show ¬ (255 : Int) ≤ 0 by decide)]
  simp only [Int.mul_tdiv_cancel_left _ (show (255 : Int) ≠ 0 by decide)]

/-- There is no skin in it. -/
theorem skinCenterOf_whitePixel : skinCenterOf black (whitePixel row col) = (-1, -1) := by
  have hzero : skinSums (fun k => black.getD k 0) (fun k => (whitePixel row col).getD k 0) =
      ⟨0, 0, 0⟩ := by
    refine (total_congr _ (fun _ _ => 0) _ _ fun i _ j _ => ?_).trans (by rw [total_const]; simp)
    have hne : skinOffset i j ≠ 2 * (yWidth * row + col) + 1 := by
      unfold skinOffset
      omega
    rw [skinWeight, whitePixel_getD row col hrow hcol (skinOffset i j), if_neg hne, skinDistance,
      if_neg fun h => absurd h.1 (by decide)]
  rw [skinCenterOf, findSkinCenter_eq Int32 isRange_int32, hzero]
  rfl

theorem centre_whitePixel :
    centre blackCenter skinCenterOf black (whitePixel row col) = some ((col : Int), (row : Int)) := by
  have hcol0 : ¬ (col : Int) < 0 := by omega
  simp [centre, blackCenter_whitePixel row col hrow hcol,
    skinCenterOf_whitePixel row col hrow hcol, combine, hcol0]

end WhitePixel

/-- The first iteration, on a card with a black picture. -/
def firstFrame (cam : List UInt8) : SdCard × Surroundings :=
  (⟨none, none, some black⟩, ⟨[0, 0, 0, 0, 0], rfl, true, some cam⟩)

theorem compared_firstFrame (cam : List UInt8) :
    compared (.init none black) (firstFrame cam) = some (black, cam) := by
  have hreload : (State.init none black).reload (some black) =
      some { State.init none black with pic := .picMem, picMem := black, isLoaded := true } := by
    rw [State.reload, if_pos (.inr rfl), show (State.init none black).picMem = black from rfl,
      fread_black]
  have hhead : (State.init none black).status = .running ∧ poll none [0, 0, 0, 0, 0] = .absent :=
    ⟨rfl, rfl⟩
  simp [compared, firstFrame, hhead, hreload]

/-- At the left edge both readings of the default setting see a hazard. -/
theorem decision_left_edge :
    (stepOn blackCenter skinCenterOf (.init none black) (firstFrame (whitePixel 120 10))).isOn =
      Hazard.default.isHazard (((10 : Nat) : Int) / 320) (((120 : Nat) : Int) / 240) :=
  (decision_iff blackCenter skinCenterOf (.init none black) (firstFrame (whitePixel 120 10)) black
    (whitePixel 120 10) (10 : Nat) (120 : Nat) (compared_firstFrame _)
    (centre_whitePixel 120 10 (by decide) (by decide))).mpr (by decide +kernel)

/-- A white pixel in the middle of the frame, well inside of the default strip,
switches the fence on. -/
theorem middle_of_frame_hazard :
    centre blackCenter skinCenterOf black (whitePixel 120 160) = some (160, 120) ∧
      (stepOn blackCenter skinCenterOf (.init none black) (firstFrame (whitePixel 120 160))).isOn =
        true ∧
      Hazard.default.isHazard (160 / 320) (120 / 240) = false := by
  have hcentre := centre_whitePixel 120 160 (by decide) (by decide)
  refine ⟨hcentre, ?_, by decide +kernel⟩
  rw [stepOn_isOn_of_centre blackCenter skinCenterOf _ _ _ _ _ _ (compared_firstFrame _) hcentre]
  decide +kernel

end DiffDitect

end Sprefence

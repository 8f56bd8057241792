import Sprefence.Detector.Centers

/-! `find_black_center` under a uniform change of the light. The first loop is to
measure the change, but takes from the picture the chroma bytes in front of the
luma bytes. -/

namespace Sprefence.DiffDitect

open Centroid Finset Loops

/-- The frame's luma is the picture's luma plus `c` at every pixel. -/
def Brighter (pic cam : Frame) (c : Int) : Prop :=
  ∀ k < yHeight * yWidth, promote (cam.byte (2 * k + 1)) = promote (pic.byte (2 * k + 1)) + c

/-- By how much the chroma bytes of a picture exceed its luma bytes, in all. -/
def chromaExcess (pic : Frame) : Int :=
  ∑ i ∈ range yHeight, ∑ j ∈ range yWidth,
    (promote (pic.byte (2 * (yWidth * i + j))) - promote (pic.byte (2 * (yWidth * i + j) + 1)))

theorem index_lt (i j : Nat) (hi : i < yHeight) (hj : j < yWidth) :
    yWidth * i + j < yHeight * yWidth := by
  unfold yWidth yHeight at *
  omega

section Shift

variable (pic cam : Frame) (c : Int) (h : Brighter pic cam c)
include h

theorem meanDiff_brighter :
    meanDiff pic.byte cam.byte = (chromaExcess pic - 76800 * c).tdiv 76800 := by
  have hsum : ∑ i ∈ range yHeight, ∑ j ∈ range yWidth, pixelDiff pic.byte cam.byte i j =
      chromaExcess pic - 76800 * c := by
    have hpixel : ∀ i < yHeight, ∀ j < yWidth, pixelDiff pic.byte cam.byte i j =
        promote (pic.byte (2 * (yWidth * i + j))) -
          promote (pic.byte (2 * (yWidth * i + j) + 1)) - c := by
      intro i hi j hj
      rw [pixelDiff, h _ (index_lt i j hi hj)]
      omega
    rw [grid_sum_congr _ _ _ _ hpixel]
    simp only [sum_sub_distrib, sum_const, card_range, chromaExcess, yHeight, yWidth, nsmul_eq_mul]
    push_cast
    ring
  rw [meanDiff, hsum]
  rfl

/-- All pixels get the same weight. -/
theorem blackWeight_brighter (i j : Nat) (hi : i < yHeight) (hj : j < yWidth) :
    blackWeight pic.byte cam.byte i j =
      if c + meanDiff pic.byte cam.byte < 25 then 0 else c + meanDiff pic.byte cam.byte := by
  have htmp : promote (cam.byte (2 * (yWidth * i + j) + 1)) + meanDiff pic.byte cam.byte -
      promote (pic.byte (2 * (yWidth * i + j) + 1)) = c + meanDiff pic.byte cam.byte := by
    rw [h _ (index_lt i j hi hj)]
    omega
  simp only [blackWeight, htmp]

theorem blackSums_brighter :
    blackSums pic.byte cam.byte = total (fun _ _ => if c + meanDiff pic.byte cam.byte < 25 then 0
      else c + meanDiff pic.byte cam.byte) yHeight yWidth :=
  total_congr _ _ _ _ fun i hi j hj => blackWeight_brighter pic cam c h i j hi hj

/-- There is no centre exactly if the common weight is below the threshold. -/
theorem findBlackCenter_brighter :
    findBlackCenter Int32 pic.memory cam.memory = some (-1, -1) ↔
      c + meanDiff pic.byte cam.byte < 25 := by
  rw [findBlackCenter_eq Int32 isRange_int32 _ _ pic.byte cam.byte pic.memory_eq cam.memory_eq,
    blackSums_brighter pic cam c h, total_const]
  generalize c + meanDiff pic.byte cam.byte = t
  by_cases ht : t < 25
  · refine iff_of_true ?_ ht
    simp only [if_pos ht, zero_mul, sum_const_zero, mul_zero]
    rfl
  · refine iff_of_false ?_ ht
    simp only [if_neg ht]
    have hweight : 0 < (yHeight : Int) * yWidth * t := by
      unfold yHeight yWidth
      omega
    have hx : 0 ≤ (yHeight : Int) * ∑ j ∈ range yWidth, t * j := by
      have ht0 : 0 ≤ t := by omega
      exact mul_nonneg (Int.natCast_nonneg _) (sum_nonneg fun j _ => by positivity)
    rw [if_neg (not_le.mpr hweight)]
    split_ifs
    · intro heq
      have hfst := congrArg Prod.fst (Option.some.inj heq)
      have hq := Int.tdiv_nonneg hx hweight.le
      dsimp only at hfst
      omega
    · exact fun heq => nomatch heq

end Shift

/-- The common weight is the mean excess of the chroma bytes, rounded down if
the change is below it and up otherwise. -/
theorem mean_lt_iff (s c : Int) :
    c + (s - 76800 * c).tdiv 76800 < 25 ↔ s ≤ 24 * 76800 ∨ (76800 * c ≤ s ∧ s < 25 * 76800) := by
  rcases le_or_gt 0 (s - 76800 * c) with hd | hd
  · rw [Int.tdiv_eq_ediv_of_nonneg hd]
    omega
  · have hneg : (s - 76800 * c).tdiv 76800 = -((76800 * c - s) / 76800) := by
      rw [← neg_sub (76800 * c) s, Int.neg_tdiv, Int.tdiv_eq_ediv_of_nonneg (by omega)]
    rw [hneg]
    omega

/-- A uniform change of the light is not taken for an object exactly if the mean
excess of the picture's chroma bytes over its luma bytes is at most 24, or below
25 and not below the change. -/
theorem brightness_iff (pic cam : Frame) (c : Int) (h : Brighter pic cam c) :
    findBlackCenter Int32 pic.memory cam.memory = some (-1, -1) ↔
      chromaExcess pic ≤ 24 * 76800 ∨
        (76800 * c ≤ chromaExcess pic ∧ chromaExcess pic < 25 * 76800) := by
  rw [findBlackCenter_brighter pic cam c h, meanDiff_brighter pic cam c h, mean_lt_iff]

/-- A picture of one grey. -/
def grey (luma : UInt8) : Frame :=
  ⟨(List.range fSize).map fun k => if k % 2 = 0 then 128 else luma, by simp⟩

theorem byte_grey (luma : UInt8) (k : Nat) (hk : k < fSize) :
    (grey luma).byte k = if k % 2 = 0 then 128 else luma := by
  simp [Frame.byte, grey, hk]

theorem brighter_grey (a b : UInt8) : Brighter (grey a) (grey b) (promote b - promote a) := by
  intro k hk
  have hk' : 2 * k + 1 < fSize := by
    unfold yHeight yWidth at hk
    unfold fSize
    omega
  have hodd : (2 * k + 1) % 2 ≠ 0 := by omega
  rw [byte_grey b _ hk', byte_grey a _ hk', if_neg hodd, if_neg hodd]
  omega

theorem chromaExcess_grey (luma : UInt8) : chromaExcess (grey luma) = 76800 * (128 - promote luma) := by
  have hpixel : ∀ i < yHeight, ∀ j < yWidth, promote ((grey luma).byte (2 * (yWidth * i + j))) -
      promote ((grey luma).byte (2 * (yWidth * i + j) + 1)) = 128 - promote luma := by
    intro i hi j hj
    have hk := luma_lt i j hi hj
    rw [byte_grey luma _ (by omega), byte_grey luma _ hk, if_pos (by omega), if_neg (by omega)]
    rfl
  rw [chromaExcess, grid_sum_congr _ _ _ _ hpixel]
  simp only [sum_const, card_range, nsmul_eq_mul, yHeight, yWidth]
  push_cast
  ring

theorem brightness_bright_grey :
    findBlackCenter Int32 (grey 120).memory (grey 200).memory = some (-1, -1) := by
  refine (brightness_iff (grey 120) (grey 200) 80 (brighter_grey 120 200)).mpr (.inl ?_)
  rw [chromaExcess_grey]
  decide

/-- A dark grey picture against itself. -/
theorem dark_grey_not_compensated :
    Brighter (grey 16) (grey 16) 0 ∧
      findBlackCenter Int32 (grey 16).memory (grey 16).memory = some (159, 119) := by
  have hmean : meanDiff (grey 16).byte (grey 16).byte = 112 := by
    rw [meanDiff_brighter _ _ _ (brighter_grey 16 16), chromaExcess_grey]
    decide
  refine ⟨brighter_grey 16 16, ?_⟩
  rw [findBlackCenter_eq Int32 isRange_int32 _ _ (grey 16).byte (grey 16).byte
      (grey 16).memory_eq (grey 16).memory_eq,
    blackSums_brighter _ _ _ (brighter_grey 16 16), hmean, total_const]
  decide +kernel

end Sprefence.DiffDitect

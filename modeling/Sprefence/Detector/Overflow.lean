import Sprefence.Detector.Centers

/-! Overflow of the centroid sums of `diff_ditect`. The skin loop reads behind
the two frame buffers, so the memory goes on behind the 153600 bytes of a
frame. -/

namespace Sprefence.DiffDitect

open Centroid Finset Loops

/-- No value of `find_black_center` and `find_skin_center` leaves the range of
`int`. -/
def NoOverflow (pic cam : Nat → UInt8) : Prop :=
  (findBlackCenter Int32 (fun k => some (pic k)) fun k => some (cam k)).isSome = true ∧
    (findSkinCenter Int32 (fun k => some (pic k)) fun k => some (cam k)).isSome = true

theorem blackWeight_le (pic cam : Nat → UInt8) (i j : Nat) : blackWeight pic cam i j ≤ 510 := by
  have hmean := meanDiff_bounds pic cam
  have hcam := promote_bounds (cam (2 * (yWidth * i + j) + 1))
  have hpic := promote_bounds (pic (2 * (yWidth * i + j) + 1))
  unfold blackWeight
  dsimp only
  split_ifs
  · decide
  · omega

theorem blackSums_weight_le (pic cam : Nat → UInt8) : (blackSums pic cam).weight ≤ 39168000 := by
  have hrow : ∀ i, -163200 ≤ ∑ j ∈ range yWidth, blackWeight pic cam i j ∧
      ∑ j ∈ range yWidth, blackWeight pic cam i j ≤ 163200 := fun i =>
    sum_range_bounds (blackWeight pic cam i) 510
      (fun j => ⟨by have := blackWeight_nonneg pic cam i j; omega, blackWeight_le pic cam i j⟩) 320
  exact (sum_range_bounds _ 163200 hrow 240).2

theorem int32_iff_of_nonneg {n : Int} (h : 0 ≤ n) : Int32 n ↔ n ≤ 2147483647 :=
  ⟨fun hn => hn.2, fun hn => ⟨by omega, hn⟩⟩

/-- There is no overflow exactly if five exact sums over the frame are at most
`INT_MAX`: the luma changes times column and row, and the skin changes alone and
times column and row. -/
theorem no_overflow_iff (pic cam : Nat → UInt8) :
    NoOverflow pic cam ↔
      (blackSums pic cam).xSum ≤ 2147483647 ∧ (blackSums pic cam).ySum ≤ 2147483647 ∧
      (skinSums pic cam).weight ≤ 2147483647 ∧ (skinSums pic cam).xSum ≤ 2147483647 ∧
      (skinSums pic cam).ySum ≤ 2147483647 := by
  have hblack : (blackSums pic cam).Nonneg := nonneg_total (blackWeight_nonneg pic cam) _ _
  have hskin : (skinSums pic cam).Nonneg := nonneg_total (fun _ _ => skinDistance_nonneg _ _ _ _) _ _
  have hweight : Int32 (blackSums pic cam).weight :=
    (int32_iff_of_nonneg hblack.weight).mpr ((blackSums_weight_le pic cam).trans (by decide))
  have hb : (findBlackCenter Int32 (fun k => some (pic k)) fun k => some (cam k)).isSome = true ↔
      (blackSums pic cam).Ok Int32 := by
    rw [findBlackCenter_eq Int32 isRange_int32 _ _ pic cam (fun _ _ => rfl) (fun _ _ => rfl)]
    split_ifs with hok <;> simp [hok]
  have hs : (findSkinCenter Int32 (fun k => some (pic k)) fun k => some (cam k)).isSome = true ↔
      (skinSums pic cam).Ok Int32 := by
    rw [findSkinCenter_eq Int32 isRange_int32 pic cam]
    split_ifs with hok <;> simp [hok]
  rw [NoOverflow, hb, hs]
  simp only [Sums.Ok, hweight, true_and, int32_iff_of_nonneg hblack.xSum,
    int32_iff_of_nonneg hblack.ySum, int32_iff_of_nonneg hskin.weight,
    int32_iff_of_nonneg hskin.xSum, int32_iff_of_nonneg hskin.ySum, and_assoc]

/-- A picture with all chroma bytes 255 and all luma bytes 0. -/
def brightChroma (k : Nat) : UInt8 := if k % 2 = 0 then 255 else 0

theorem blackWeight_brightChroma (i j : Nat) : blackWeight brightChroma (fun _ => 0) i j = 255 := by
  have hpixel : ∀ i j, pixelDiff brightChroma (fun _ => 0) i j = 255 := by
    intro i j
    simp [pixelDiff, brightChroma, promote]
  have hmean : meanDiff brightChroma (fun _ => 0) = 255 := by
    simp only [meanDiff, hpixel, sum_const, card_range]
    decide
  simp [blackWeight, hmean, brightChroma, promote, Nat.add_mod]

/-- Against a black frame this picture makes `x_sum` overflow. -/
theorem bright_chroma_overflows : ¬ NoOverflow brightChroma (fun _ => 0) := by
  intro h
  have hb := h.1
  have hsums : (blackSums brightChroma fun _ => 0).xSum = 3123648000 := by
    rw [blackSums, total_congr _ (fun _ _ => 255) _ _ fun i _ j _ => blackWeight_brightChroma i j,
      total_const]
    decide +kernel
  rw [findBlackCenter_eq Int32 isRange_int32 _ _ _ _ (fun _ _ => rfl) (fun _ _ => rfl),
    if_neg fun hok => absurd hok.2.1 (by rw [hsums]; decide)] at hb
  cases hb

end Sprefence.DiffDitect

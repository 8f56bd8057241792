import Sprefence.Detector.Centers

/-! Where `find_black_center` puts the centre. A pixel below the threshold gets the
weight 0, so only the changed pixels pull the mean. -/

namespace Sprefence.DiffDitect

open Centroid Finset Loops

/-- The point `(x, y)` lies in the bounding box of the pixels, given by row and
column. -/
def InBox (pixel : Nat → Nat → Prop) (x y : Int) : Prop :=
  ((∃ i j, pixel i j ∧ (j : Int) ≤ x) ∧ ∃ i j, pixel i j ∧ x ≤ j) ∧
    (∃ i j, pixel i j ∧ (i : Int) ≤ y) ∧ ∃ i j, pixel i j ∧ y ≤ i

section Centre

variable (pic cam : Frame)

/-- The luma of the frame against that of the picture, with `diff` added. -/
def compensated (i j : Nat) : Int :=
  promote (cam.byte (2 * (yWidth * i + j) + 1)) + meanDiff pic.byte cam.byte -
    promote (pic.byte (2 * (yWidth * i + j) + 1))

/-- A pixel whose compensated difference reaches 25. -/
def Changed (i j : Nat) : Prop := i < yHeight ∧ j < yWidth ∧ 25 ≤ compensated pic cam i j

theorem changed_iff (i j : Nat) :
    Changed pic cam i j ↔ i < yHeight ∧ j < yWidth ∧ 0 < blackWeight pic.byte cam.byte i j := by
  have hweight : blackWeight pic.byte cam.byte i j =
      if compensated pic cam i j < 25 then 0 else compensated pic cam i j := rfl
  refine and_congr_right fun _ => and_congr_right fun _ => ?_
  rw [hweight]
  split_ifs <;> omega

theorem weight_pos_iff :
    0 < (blackSums pic.byte cam.byte).weight ↔ ∃ i j, Changed pic cam i j := by
  have hw := blackWeight_nonneg pic.byte cam.byte
  constructor
  · intro hpos
    obtain ⟨i, hi, j, hj, hij, -⟩ := Centroid.exists_le_mean hw (fun _ _ => 0) hpos
    exact ⟨i, j, (changed_iff pic cam i j).mpr ⟨hi, hj, hij⟩⟩
  · rintro ⟨i, j, h⟩
    obtain ⟨hi, hj, hij⟩ := (changed_iff pic cam i j).mp h
    refine sum_pos' (fun i _ => sum_nonneg fun j _ => hw i j) ⟨i, mem_range.mpr hi, ?_⟩
    exact sum_pos' (fun j _ => hw i j) ⟨j, mem_range.mpr hj, hij⟩

/-- A coordinate of the centre lies between those of two changed pixels. -/
theorem mean_between (coord : Nat → Nat → Nat) (h : ∃ i j, Changed pic cam i j) :
    let mean := (∑ i ∈ range yHeight, ∑ j ∈ range yWidth,
      blackWeight pic.byte cam.byte i j * coord i j).tdiv (blackSums pic.byte cam.byte).weight
    (∃ i j, Changed pic cam i j ∧ (coord i j : Int) ≤ mean) ∧
      ∃ i j, Changed pic cam i j ∧ mean ≤ coord i j := by
  have hw := blackWeight_nonneg pic.byte cam.byte
  have hpos := (weight_pos_iff pic cam).mpr h
  have hsum : 0 ≤ ∑ i ∈ range yHeight, ∑ j ∈ range yWidth,
      blackWeight pic.byte cam.byte i j * (coord i j : Int) :=
    sum_nonneg fun i _ => sum_nonneg fun j _ => mul_nonneg (hw i j) (Int.natCast_nonneg _)
  rw [Int.tdiv_eq_ediv_of_nonneg hsum]
  obtain ⟨i, hi, j, hj, hij, hle⟩ := Centroid.exists_le_mean hw (fun i j => (coord i j : Int)) hpos
  obtain ⟨i', hi', j', hj', hij', hle'⟩ :=
    Centroid.exists_mean_le hw (fun i j => (coord i j : Int)) hpos
  exact ⟨⟨i, j, (changed_iff pic cam i j).mpr ⟨hi, hj, hij⟩, hle⟩,
    ⟨i', j', (changed_iff pic cam i' j').mpr ⟨hi', hj', hij'⟩, hle'⟩⟩

theorem findBlackCenter_exact :
    findBlackCenter Exact pic.memory cam.memory =
      some (if (blackSums pic.byte cam.byte).weight ≤ 0 then (-1, -1)
        else ((blackSums pic.byte cam.byte).xSum.tdiv (blackSums pic.byte cam.byte).weight,
          (blackSums pic.byte cam.byte).ySum.tdiv (blackSums pic.byte cam.byte).weight)) := by
  have hok : (blackSums pic.byte cam.byte).Ok Exact := ⟨trivial, trivial, trivial⟩
  rw [findBlackCenter_eq Exact isRange_exact _ _ pic.byte cam.byte pic.memory_eq cam.memory_eq,
    if_pos hok]

theorem inBox_bounds {x y : Int} (h : InBox (Changed pic cam) x y) :
    0 ≤ x ∧ x < 320 ∧ 0 ≤ y ∧ y < 240 := by
  obtain ⟨⟨⟨_, j, -, hxlo⟩, _, j', ⟨-, hj', -⟩, hxhi⟩, ⟨i, _, -, hylo⟩, i', _, ⟨hi', -⟩, hyhi⟩ := h
  unfold yWidth at hj'
  unfold yHeight at hi'
  omega

/-- The centre is missing exactly if no pixel has changed, and otherwise lies in the
bounding box of those that have. -/
theorem black_center_in_box :
    ∃ x y, findBlackCenter Exact pic.memory cam.memory = some (x, y) ∧
      ((x, y) = (-1, -1) ↔ ∀ i j, ¬ Changed pic cam i j) ∧
      ((∀ i j, ¬ Changed pic cam i j) ∨
        InBox (Changed pic cam) x y ∧ 0 ≤ x ∧ x < 320 ∧ 0 ≤ y ∧ y < 240) := by
  by_cases hchanged : ∃ i j, Changed pic cam i j
  · have hpos := (weight_pos_iff pic cam).mpr hchanged
    have hbox : InBox (Changed pic cam)
        ((blackSums pic.byte cam.byte).xSum.tdiv (blackSums pic.byte cam.byte).weight)
        ((blackSums pic.byte cam.byte).ySum.tdiv (blackSums pic.byte cam.byte).weight) :=
      ⟨mean_between pic cam (fun _ j => j) hchanged, mean_between pic cam (fun i _ => i) hchanged⟩
    have hbounds := inBox_bounds pic cam hbox
    refine ⟨_, _, by rw [findBlackCenter_exact, if_neg (not_le.mpr hpos)],
      iff_of_false (fun heq => ?_) fun hnone => ?_, .inr ⟨hbox, hbounds⟩⟩
    · have hx := congrArg Prod.fst heq
      dsimp only at hx
      omega
    · obtain ⟨i, j, hij⟩ := hchanged
      exact hnone i j hij
  · have hweight : (blackSums pic.byte cam.byte).weight ≤ 0 :=
      not_lt.mp (mt (weight_pos_iff pic cam).mp hchanged)
    have hnone : ∀ i j, ¬ Changed pic cam i j := fun i j hij => hchanged ⟨i, j, hij⟩
    refine ⟨-1, -1, ?_, iff_of_true rfl hnone, .inl hnone⟩
    rw [findBlackCenter_exact, if_pos hweight]

end Centre

end Sprefence.DiffDitect

import Sprefence.Face.Anchors
import Sprefence.Face.DeOffset
import Sprefence.Lib.Loops

/-! `Tensors2Detections` of `tensors_to_detections.cxx`: the boxes are decoded
against the anchors into corners, the top class of each is found, and those with
a good score and a size are returned. An access outside an array gives `none`;
floats are exact rationals. -/

namespace Sprefence.FaceDetect

open Loops

/-! ## The code -/

def kNumBoxes : Nat := 896
def kNumCoords : Nat := 16
def kBoxCoordOffset : Nat := 0
def kXScale : Rat := 128
def kYScale : Rat := 128
def kHScale : Rat := 128
def kWScale : Rat := 128
def kNumKeypoints : Nat := 6
def kKeypointCoordOffset : Nat := 4
def kNumValuesPerKeypoint : Nat := 2
def kNumClasses : Nat := 1
def kMinScoreThresh : Rat := 3 / 4

/-- `std::numeric_limits<float>::max()`. -/
def floatMax : Rat := (2 ^ 24 - 1) * 2 ^ 104

/-- The arrays `o0` and `o1`. -/
abbrev RawBoxes := Vector Rat (896 * 16)
abbrev RawScores := Vector Rat 896

def decodeKeypoint (rawBoxes : RawBoxes) (anchor : Anchor) (i k : Nat) (boxes : List Rat) :
    Option (List Rat) := do
  let offset := i * kNumCoords + kKeypointCoordOffset + k * kNumValuesPerKeypoint
  let keypointX ← rawBoxes[offset]?
  let keypointY ← rawBoxes[offset + 1]?
  let boxes ← write boxes offset (keypointX / kXScale * anchor.w + anchor.x)
  write boxes (offset + 1) (keypointY / kYScale * anchor.h + anchor.y)

/-- One box. The four numbers are read twice, and these are the values that stay. -/
def decodeBox (rawBoxes : RawBoxes) (anchors : List Anchor) (i : Nat) (boxes : List Rat) :
    Option (List Rat) := do
  let boxOffset := i * kNumCoords + kBoxCoordOffset
  let xCenter ← rawBoxes[boxOffset]?
  let yCenter ← rawBoxes[boxOffset + 1]?
  let w ← rawBoxes[boxOffset + 2]?
  let h ← rawBoxes[boxOffset + 3]?
  let anchor ← anchors[i]?
  let xCenter := xCenter / kXScale * anchor.w + anchor.x
  let yCenter := yCenter / kYScale * anchor.h + anchor.y
  let h := h / kHScale * anchor.h
  let w := w / kWScale * anchor.w
  let ymin := yCenter - h / 2
  let xmin := xCenter - w / 2
  let ymax := yCenter + h / 2
  let xmax := xCenter + w / 2
  let boxes ← write boxes (i * kNumCoords + 0) ymin
  let boxes ← write boxes (i * kNumCoords + 1) xmin
  let boxes ← write boxes (i * kNumCoords + 2) ymax
  let boxes ← write boxes (i * kNumCoords + 3) xmax
  forLoop kNumKeypoints (decodeKeypoint rawBoxes anchor i) boxes

def decodeBoxes (rawBoxes : RawBoxes) (anchors : List Anchor) (boxes : List Rat) :
    Option (List Rat) :=
  forLoop kNumBoxes (decodeBox rawBoxes anchors) boxes

def convertToDetection (boxYmin boxXmin boxYmax boxXmax score : Rat) (classId : Int) : Detection where
  score := score
  classes := classId
  x := (boxXmin + boxXmax) / 2
  y := (boxYmin + boxYmax) / 2
  w := boxXmax - boxXmin
  h := boxYmax - boxYmin

/-- One box of `ConvertToDetections`. -/
def convertBox (detectionBoxes detectionScores : List Rat) (detectionClasses : List Int) (i : Nat)
    (outputDetections : List Detection) : Option (List Detection) := do
  if (← detectionScores[i]?) < kMinScoreThresh then some outputDetections
  else
    let boxOffset := i * kNumCoords
    let detection := convertToDetection (← detectionBoxes[boxOffset + 0]?)
      (← detectionBoxes[boxOffset + 1]?) (← detectionBoxes[boxOffset + 2]?)
      (← detectionBoxes[boxOffset + 3]?) (← detectionScores[i]?) (← detectionClasses[i]?)
    if detection.w < 0 ∨ detection.h < 0 then some outputDetections
    else some (outputDetections ++ [detection])

def convertToDetections (detectionBoxes detectionScores : List Rat) (detectionClasses : List Int)
    (outputDetections : List Detection) : Option (List Detection) :=
  forLoop kNumBoxes (convertBox detectionBoxes detectionScores detectionClasses) outputDetections

/-- The top score of a box and its class. -/
def topClass (score : Rat) : Rat × Int :=
  if -floatMax < score then (score, 0) else (-floatMax, -1)

/-- One box of the loop over the scores. -/
def scoreBox (output1 : RawScores) (i : Nat) (s : List Rat × List Int) :
    Option (List Rat × List Int) := do
  let score ← output1[i * kNumClasses]?
  let detectionScores ← write s.1 i (topClass score).1
  let detectionClasses ← write s.2 i (topClass score).2
  some (detectionScores, detectionClasses)

def tensors2Detections (sqrt : Rat → Rat) (output0 : RawBoxes) (output1 : RawScores) :
    Option (List Detection) := do
  let ssdAnchors ← generateSSDAnchors sqrt
  let boxes ← decodeBoxes output0 ssdAnchors (List.replicate (kNumBoxes * kNumCoords) 0)
  let (detectionScores, detectionClasses) ← forLoop kNumBoxes (scoreBox output1)
    (List.replicate kNumBoxes 0, List.replicate kNumBoxes 0)
  convertToDetections boxes detectionScores detectionClasses []

/-! ## The work vectors -/

section Decode

variable (output0 : RawBoxes) (output1 : RawScores)

/-- Entry `k` of box `i` of the raw boxes. -/
def rawAt (i k : Nat) : Rat := output0[i * 16 + k]?.getD 0

def scoreAt (i : Nat) : Rat := output1[i]?.getD 0

theorem getElem?_rawBoxes (i k : Nat) (hi : i < 896) (hk : k < 16) :
    output0[i * 16 + k]? = some (rawAt output0 i k) := by
  rw [rawAt, Vector.getElem?_eq_getElem (by omega), Option.getD_some]

/-- The entries of the decoded box `i`: four corners, and then the key points. -/
def boxCell (i : Nat) : Nat → Rat
  | 0 => rawAt output0 i 1 / 128 + (anchorCentre i).2 - rawAt output0 i 3 / 128 / 2
  | 1 => rawAt output0 i 0 / 128 + (anchorCentre i).1 - rawAt output0 i 2 / 128 / 2
  | 2 => rawAt output0 i 1 / 128 + (anchorCentre i).2 + rawAt output0 i 3 / 128 / 2
  | 3 => rawAt output0 i 0 / 128 + (anchorCentre i).1 + rawAt output0 i 2 / 128 / 2
  | k + 4 => rawAt output0 i (k + 4) / 128 +
      if k % 2 = 0 then (anchorCentre i).1 else (anchorCentre i).2

def cell (j : Nat) : Rat := boxCell output0 (j / 16) (j % 16)

theorem cell_eq (i k : Nat) (hk : k < 16) : cell output0 (i * 16 + k) = boxCell output0 i k := by
  rw [cell, Nat.mul_comm, Nat.mul_add_div (by omega), Nat.mul_add_mod, Nat.div_eq_of_lt hk,
    Nat.mod_eq_of_lt hk, Nat.add_zero]

/-- The vector `boxes` once its first `n` entries are decoded. -/
def boxesUpTo (n : Nat) : List Rat := filled (cell output0) (896 * 16) 0 n

/-- The next entry of box `i` is written. -/
theorem write_cell (i k : Nat) (hi : i < 896) (hk : k < 16) (v : Rat) (hv : v = boxCell output0 i k) :
    write (boxesUpTo output0 (i * 16 + k)) (i * 16 + k) v =
      some (boxesUpTo output0 (i * 16 + (k + 1))) :=
  write_filled (by omega) (hv.trans (cell_eq output0 i k hk).symm)

theorem decodeKeypoint_eq (i k : Nat) (hi : i < 896) (hk : k < 6) :
    decodeKeypoint output0 ⟨(anchorCentre i).1, (anchorCentre i).2, 1, 1⟩ i k
        (boxesUpTo output0 (i * 16 + (k * 2 + 4))) =
      some (boxesUpTo output0 (i * 16 + ((k + 1) * 2 + 4))) := by
  have hx : rawAt output0 i (k * 2 + 4) / 128 * 1 + (anchorCentre i).1 =
      boxCell output0 i (k * 2 + 4) := by
    simp [boxCell]
  have hy : rawAt output0 i (k * 2 + 1 + 4) / 128 * 1 + (anchorCentre i).2 =
      boxCell output0 i (k * 2 + 1 + 4) := by
    simp [boxCell]
  have hoffset : i * kNumCoords + kKeypointCoordOffset + k * kNumValuesPerKeypoint =
      i * 16 + (k * 2 + 4) := by
    simp only [kNumCoords, kKeypointCoordOffset, kNumValuesPerKeypoint]
    omega
  have hnext : i * 16 + (k * 2 + 4) + 1 = i * 16 + (k * 2 + 1 + 4) := by omega
  simp only [decodeKeypoint, hoffset, hnext, kXScale, kYScale, Option.bind_eq_bind, Option.bind_some,
    getElem?_rawBoxes output0 i (k * 2 + 4) hi (by omega),
    getElem?_rawBoxes output0 i (k * 2 + 1 + 4) hi (by omega),
    write_cell output0 i (k * 2 + 4) hi (by omega) _ hx]
  have hlast := write_cell output0 i (k * 2 + 1 + 4) hi (by omega) _ hy
  convert hlast using 4
  omega

/-- A box fills its sixteen entries. -/
theorem decodeBox_eq (i : Nat) (hi : i < 896) :
    decodeBox output0 (gridAnchors 16 16 2 ++ gridAnchors 8 8 6) i
        (boxesUpTo output0 (i * 16)) =
      some (boxesUpTo output0 ((i + 1) * 16)) := by
  have hkeypoints := forLoop_eq_some 6 _
    (fun k => boxesUpTo output0 (i * 16 + (k * 2 + 4)))
    fun k hk => decodeKeypoint_eq output0 i k hi hk
  have hread := fun k hk => getElem?_rawBoxes output0 i k hi hk
  have hwrite := fun k hk => write_cell output0 i k hi hk (boxCell output0 i k) rfl
  simp only [decodeBox, kNumCoords, kBoxCoordOffset, kNumKeypoints, kXScale, kYScale, kWScale, kHScale,
    hread 0 (by omega), hread 1 (by omega), hread 2 (by omega), hread 3 (by omega),
    getElem?_anchors i hi, Option.bind_eq_bind, Option.bind_some, mul_one]
  have hymin := hwrite 0 (by omega)
  have hxmin := hwrite 1 (by omega)
  have hymax := hwrite 2 (by omega)
  have hxmax := hwrite 3 (by omega)
  simp only [boxCell, Nat.add_zero] at hymin hxmin hymax hxmax ⊢
  rw [hymin, Option.bind_some, hxmin, Option.bind_some, hymax, Option.bind_some, hxmax,
    Option.bind_some, Nat.add_one_mul i 16]
  exact hkeypoints

theorem decodeBoxes_eq :
    decodeBoxes output0 (gridAnchors 16 16 2 ++ gridAnchors 8 8 6) (List.replicate (896 * 16) 0) =
      some ((List.range (896 * 16)).map (cell output0)) := by
  have hloop := forLoop_eq_some 896 _ (fun i => boxesUpTo output0 (i * 16)) (decodeBox_eq output0)
  rwa [Nat.zero_mul, boxesUpTo, boxesUpTo, filled_zero, filled_full] at hloop

theorem getElem?_scores (i : Nat) (hi : i < 896) : output1[i]? = some (scoreAt output1 i) := by
  rw [scoreAt, Vector.getElem?_eq_getElem hi, Option.getD_some]

theorem scoreLoop_eq :
    forLoop kNumBoxes (scoreBox output1) (List.replicate kNumBoxes 0, List.replicate kNumBoxes 0) =
      some ((List.range 896).map fun i => (topClass (scoreAt output1 i)).1,
        (List.range 896).map fun i => (topClass (scoreAt output1 i)).2) := by
  have hloop := forLoop_eq_some 896 (scoreBox output1)
    (fun i => (filled (fun i => (topClass (scoreAt output1 i)).1) 896 0 i,
      filled (fun i => (topClass (scoreAt output1 i)).2) 896 0 i)) fun i hi => by
        simp only [scoreBox, kNumClasses, Nat.mul_one, getElem?_scores output1 i hi,
          Option.bind_eq_bind, Option.bind_some, write_filled hi rfl]
  rwa [filled_zero, filled_zero, filled_full, filled_full] at hloop

/-! ## The detections -/

/-- The detection that box `i` gives, if any. -/
def decoded (i : Nat) : Option Detection :=
  if 3 / 4 ≤ scoreAt output1 i ∧ 0 ≤ rawAt output0 i 2 ∧ 0 ≤ rawAt output0 i 3 then
    some {
      x := rawAt output0 i 0 / 128 + (anchorCentre i).1
      y := rawAt output0 i 1 / 128 + (anchorCentre i).2
      w := rawAt output0 i 2 / 128
      h := rawAt output0 i 3 / 128
      score := scoreAt output1 i
      classes := 0 }
  else none

theorem topClass_of_le (score : Rat) (h : 3 / 4 ≤ score) : topClass score = (score, 0) := by
  have hmax : -floatMax < 3 / 4 := by decide +kernel
  rw [topClass, if_pos (hmax.trans_le h)]

theorem topClass_lt (score : Rat) (h : ¬ 3 / 4 ≤ score) : (topClass score).1 < 3 / 4 := by
  unfold topClass
  split_ifs
  · exact not_le.mp h
  · decide +kernel

/-- The corners of a box give back its centre and size. -/
theorem convertToDetection_corners (x y w h score : Rat) (classId : Int) :
    convertToDetection (y - h / 2) (x - w / 2) (y + h / 2) (x + w / 2) score classId =
      ⟨x, y, w, h, score, classId⟩ := by
  simp only [convertToDetection, Detection.mk.injEq, and_true]
  refine ⟨?_, ?_, ?_, ?_⟩ <;> ring

theorem convertBox_eq (i : Nat) (hi : i < 896) (out : List Detection) :
    convertBox ((List.range (896 * 16)).map (cell output0))
        ((List.range 896).map fun i => (topClass (scoreAt output1 i)).1)
        ((List.range 896).map fun i => (topClass (scoreAt output1 i)).2) i out =
      some (out ++ (decoded output0 output1 i).toList) := by
  have hcell : ∀ k < 16, ((List.range (896 * 16)).map (cell output0))[i * 16 + k]? =
      some (boxCell output0 i k) := by
    intro k hk
    rw [getElem?_map_range _ (by omega), cell_eq output0 i k hk]
  simp only [convertBox, kNumCoords, kMinScoreThresh, getElem?_map_range _ hi, hcell 0 (by omega),
    hcell 1 (by omega), hcell 2 (by omega), hcell 3 (by omega), Option.bind_eq_bind, Option.bind_some,
    boxCell, convertToDetection_corners, decoded]
  by_cases hthr : 3 / 4 ≤ scoreAt output1 i
  · have hneg : rawAt output0 i 2 / 128 < 0 ∨ rawAt output0 i 3 / 128 < 0 ↔
        ¬ (0 ≤ rawAt output0 i 2 ∧ 0 ≤ rawAt output0 i 3) := by
      rw [div_lt_iff₀ (by norm_num), div_lt_iff₀ (by norm_num), zero_mul, not_and_or, not_le, not_le]
    rw [topClass_of_le _ hthr, if_neg (not_lt.mpr hthr)]
    by_cases hsize : 0 ≤ rawAt output0 i 2 ∧ 0 ≤ rawAt output0 i 3
    · rw [if_neg fun h => hneg.mp h hsize, if_pos ⟨hthr, hsize⟩]
      rfl
    · rw [if_pos (hneg.mpr hsize), if_neg fun h => hsize h.2, Option.toList_none, List.append_nil]
  · rw [if_pos (topClass_lt _ hthr), if_neg fun h => hthr h.1, Option.toList_none, List.append_nil]

theorem convertToDetections_eq :
    convertToDetections ((List.range (896 * 16)).map (cell output0))
        ((List.range 896).map fun i => (topClass (scoreAt output1 i)).1)
        ((List.range 896).map fun i => (topClass (scoreAt output1 i)).2) [] =
      some ((List.range 896).filterMap (decoded output0 output1)) := by
  refine forLoop_eq_some 896 _ (fun i => (List.range i).filterMap (decoded output0 output1)) ?_
  intro i hi
  rw [convertBox_eq output0 output1 i hi, List.range_succ, List.filterMap_append]
  cases hdec : decoded output0 output1 i <;> simp [hdec]

theorem tensors2Detections_range (sqrt : Rat → Rat) :
    tensors2Detections sqrt output0 output1 =
      some ((List.range 896).filterMap (decoded output0 output1)) := by
  rw [tensors2Detections, generateSSDAnchors_eq, Option.bind_eq_bind, Option.bind_some]
  change (decodeBoxes output0 _ (List.replicate (896 * 16) 0)).bind _ = _
  rw [decodeBoxes_eq, Option.bind_some, scoreLoop_eq, Option.bind_eq_bind, Option.bind_some]
  exact convertToDetections_eq output0 output1

end Decode

/-- Entry `k` of box `i`. -/
def RawBoxes.entry (output0 : RawBoxes) (i : Fin 896) (k : Fin 16) : Rat :=
  output0.get ⟨i.val * 16 + k.val, by omega⟩

/-- What box `i` means. -/
def detectionAt (output0 : RawBoxes) (output1 : RawScores) (i : Fin 896) : Option Detection :=
  let r := RawBoxes.entry output0 i
  if 3 / 4 ≤ output1[i] ∧ 0 ≤ r 2 ∧ 0 ≤ r 3 then
    some {
      x := r 0 / 128 + (anchorCentre i).1
      y := r 1 / 128 + (anchorCentre i).2
      w := r 2 / 128
      h := r 3 / 128
      score := output1[i]
      classes := 0 }
  else none

theorem decoded_eq (output0 : RawBoxes) (output1 : RawScores) (i : Fin 896) :
    decoded output0 output1 i = detectionAt output0 output1 i := by
  have hraw : ∀ k : Fin 16, rawAt output0 i k = RawBoxes.entry output0 i k := fun k =>
    Option.some.inj ((getElem?_rawBoxes output0 i k i.isLt k.isLt).symm.trans
      (Vector.getElem?_eq_getElem _))
  have hscore : scoreAt output1 i = output1[i] :=
    Option.some.inj ((getElem?_scores output1 i i.isLt).symm.trans (Vector.getElem?_eq_getElem _))
  simp only [decoded, detectionAt, hscore, ← hraw]
  rfl

/-- The boxes with a score and a size, in order and each with the cell of its anchor. -/
theorem tensors2Detections_eq (sqrt : Rat → Rat) (output0 : RawBoxes) (output1 : RawScores) :
    tensors2Detections sqrt output0 output1 =
      some ((List.finRange 896).filterMap (detectionAt output0 output1)) := by
  have hfin : (List.range 896).filterMap (decoded output0 output1) =
      (List.finRange 896).filterMap (detectionAt output0 output1) := by
    rw [← List.map_coe_finRange_eq_range, List.filterMap_map]
    exact congrArg (fun f => List.filterMap f _) (funext fun i => decoded_eq output0 output1 i)
  rw [tensors2Detections_range, hfin]

end Sprefence.FaceDetect

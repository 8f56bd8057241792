import Mathlib.Algebra.BigOperators.Group.List.Basic
import Sprefence.Face.Main
import Sprefence.Face.Suppression
import Sprefence.Face.Tensors

/-! `FaceLoop` of `main_handler.cxx`, which reports the first detection that is left.
The main loop takes a negative `boxSize` for no face, but the merged height can
be negative, too. -/

namespace Sprefence.FaceDetect

open Leaders WeightedMean

/-- The `if` at the end of `FaceLoop`. -/
def reportFirst (type : Int) : List Detection → Report
  | first :: _ =>
    let first := deOffset type first
    { x := first.x, y := first.y, boxSize := first.w + first.h }
  | [] => .noFace

/-- What `FaceLoop` stores after the network has run, with the sort of the library
as a parameter. -/
def faceLoop (sqrt : Rat → Rat) (sort : (bb : List Detection) → SortedScores bb) (type : Int)
    (o0 : RawBoxes) (o1 : RawScores) : Option Report := do
  let detected ← tensors2Detections sqrt o0 o1
  let nms ← nonMaxSuppression detected (sort detected)
  some (reportFirst type nms)

theorem faceLoop_eq {sqrt : Rat → Rat} {sort : (bb : List Detection) → SortedScores bb}
    {o0 : RawBoxes} {o1 : RawScores} {detected nms : List Detection} (type : Int)
    (hdetected : tensors2Detections sqrt o0 o1 = some detected)
    (hnms : nonMaxSuppression detected (sort detected) = some nms) :
    faceLoop sqrt sort type o0 o1 = some (reportFirst type nms) := by
  rw [faceLoop, hdetected, Option.bind_eq_bind, Option.bind_some, hnms, Option.bind_some]

/-! ## The size of the first box -/

/-- The detections that are merged with the best one. -/
def companions (detected : List Detection) (best : Detection) : List Detection :=
  detected.filter fun d => overlapSimilarity d best > kMinSuppressionThreshold

/-- Width and height of the merged box, weighted by the scores. -/
def sizeSum (boxes : List Detection) : Rat :=
  (boxes.map fun d => (d.x - d.y + 3 / 2 * d.w + d.h / 2) * d.score).sum

def scoreSum (boxes : List Detection) : Rat := (boxes.map Detection.score).sum

theorem sizeSum_eq (boxes : List Detection) :
    sizeSum boxes = 2 * (boxes.map fun d => d.right * d.score).sum -
      (boxes.map fun d => d.left * d.score).sum - (boxes.map fun d => d.top * d.score).sum := by
  induction boxes with
  | nil => simp [sizeSum]
  | cons d boxes ih =>
    simp only [sizeSum, List.map_cons, List.sum_cons, Detection.left, Detection.right,
      Detection.top] at ih ⊢
    rw [ih]
    ring

theorem merge_size (best : Detection) (boxes : List Detection) (hne : boxes ≠ []) :
    (merge ⟨best, boxes⟩).w + (merge ⟨best, boxes⟩).h = sizeSum boxes / scoreSum boxes := by
  simp only [merge, if_neg hne, meanEdge, mean, sizeSum_eq, scoreSum]
  ring

theorem deOffset_size (type : Int) (d : Detection) :
    (deOffset type d).w + (deOffset type d).h =
      ((d.w + d.h) * scale type + (xOffset type + yOffset type)) / 320 := by
  simp only [deOffset]
  ring

/-- The offsets of the crops are not negative. -/
theorem offsets_nonneg (type : Fin 15) :
    0 ≤ scale type ∧ 0 ≤ xOffset type + yOffset type := by
  revert type
  decide

/-- What `Tensors2Detections` returns. -/
def Detection.Accepted (d : Detection) : Prop := 0 ≤ d.w ∧ 0 ≤ d.h ∧ 3 / 4 ≤ d.score

theorem accepted_of_decoded (o0 : RawBoxes) (o1 : RawScores) (i : Nat) (d : Detection)
    (h : decoded o0 o1 i = some d) : d.Accepted := by
  unfold decoded at h
  split_ifs at h with hcond
  obtain ⟨hscore, hw, hh⟩ := hcond
  cases h
  exact ⟨div_nonneg hw (by norm_num), div_nonneg hh (by norm_num), hscore⟩

theorem exists_detected (sqrt : Rat → Rat) (o0 : RawBoxes) (o1 : RawScores) :
    ∃ detected, tensors2Detections sqrt o0 o1 = some detected ∧ ∀ d ∈ detected, d.Accepted := by
  refine ⟨_, tensors2Detections_range o0 o1 sqrt, fun d hd => ?_⟩
  obtain ⟨i, -, hi⟩ := List.mem_filterMap.mp hd
  exact accepted_of_decoded o0 o1 i d hi

/-- The first detection that is returned is the best one, merged. -/
theorem nonMaxSuppression_first (bb : List Detection) (order : SortedScores bb) (best : Detection)
    (h : best ∈ order.detections.head?) :
    ∃ others, nonMaxSuppression bb order =
      some (merge ⟨best, companions order.detections best⟩ :: others) := by
  obtain ⟨l, hl⟩ := List.head?_eq_some_iff.mp h
  have hlen : order.detections.length ≤ bb.length := order.detections_perm.length_eq.le
  obtain ⟨rs, hrs⟩ : ∃ rs, rounds overlaps bb.length order.detections = some rs :=
    exists_rounds order.detections bb.length hlen
  rw [nonMaxSuppression_detections, hrs]
  rw [hl] at hrs
  obtain ⟨rest, rfl⟩ := rounds_head hrs
  refine ⟨rest.map merge, ?_⟩
  rw [Option.map_some, List.map_cons, companions, hl]
  rfl

theorem boxSize_nonneg_iff (type : Fin 15) (detected boxes : List Detection) (best : Detection)
    (hperm : boxes.Perm (companions detected best)) (haccepted : ∀ d ∈ detected, d.Accepted)
    (hbest : best ∈ detected) :
    0 ≤ (deOffset type (merge ⟨best, boxes⟩)).w + (deOffset type (merge ⟨best, boxes⟩)).h ↔
      0 ≤ scale type * sizeSum (companions detected best) +
        (xOffset type + yOffset type) * scoreSum (companions detected best) := by
  obtain ⟨hscale, hoffset⟩ := offsets_nonneg type
  have hsize : sizeSum boxes = sizeSum (companions detected best) := (hperm.map _).sum_eq
  have hscore : scoreSum boxes = scoreSum (companions detected best) := (hperm.map _).sum_eq
  have hscale : (0 : Rat) ≤ (scale type : Int) := by exact_mod_cast hscale
  have hoffset : (0 : Rat) ≤ (xOffset type : Int) + (yOffset type : Int) := by exact_mod_cast hoffset
  rw [deOffset_size, ← hsize, ← hscore]
  by_cases hne : boxes = []
  · -- nothing is merged, and the box itself has a size
    obtain ⟨hw, hh, -⟩ := haccepted best hbest
    subst hne
    refine iff_of_true ?_ (by simp [sizeSum, scoreSum])
    have hmerge : merge ⟨best, []⟩ = best := rfl
    rw [hmerge]
    positivity
  · have hpos : 0 < scoreSum boxes := by
      refine sum_weight_pos hne fun d hd => ?_
      have hmem := List.mem_of_mem_filter (hperm.mem_iff.mp hd)
      have := (haccepted d hmem).2.2
      linarith
    have hquot : ((sizeSum boxes / scoreSum boxes) * (scale type : Int) +
        ((xOffset type : Int) + (yOffset type : Int))) / 320 =
          ((scale type : Int) * sizeSum boxes +
            ((xOffset type : Int) + (yOffset type : Int)) * scoreSum boxes) /
              (scoreSum boxes * 320) := by
      field_simp
    rw [merge_size best boxes hne, hquot, le_div_iff₀ (by positivity), zero_mul]

/-- A face is reported exactly if there is one, if and only if the merged box of the best
detection has no negative size once the offsets are added. -/
theorem faceLoop_found_iff (sqrt : Rat → Rat) (sort : (bb : List Detection) → SortedScores bb)
    (type : Fin 15) (o0 : RawBoxes) (o1 : RawScores) :
    ∃ detected report, tensors2Detections sqrt o0 o1 = some detected ∧
      faceLoop sqrt sort type o0 o1 = some report ∧
      ((0 ≤ report.boxSize ↔ detected ≠ []) ↔
        ∀ best ∈ (sort detected).detections.head?,
          0 ≤ scale type * sizeSum (companions detected best) +
            (xOffset type + yOffset type) * scoreSum (companions detected best)) := by
  obtain ⟨detected, hdetected, haccepted⟩ := exists_detected sqrt o0 o1
  have hperm := (sort detected).detections_perm
  cases hhead : (sort detected).detections.head? with
  | none =>
    have hnil : detected = [] := by
      rw [List.head?_eq_none_iff] at hhead
      exact List.perm_nil.mp (hhead ▸ hperm.symm)
    subst hnil
    refine ⟨[], _, hdetected, faceLoop_eq type hdetected rfl, iff_of_true ?_ ?_⟩
    · norm_num [reportFirst, Report.noFace]
    · intro best hbest
      rw [hhead] at hbest
      cases hbest
  | some best =>
    have hbest : best ∈ detected := hperm.mem_iff.mp (List.mem_of_mem_head? hhead)
    obtain ⟨others, hothers⟩ := nonMaxSuppression_first detected (sort detected) best hhead
    have hne : detected ≠ [] := List.ne_nil_of_mem hbest
    refine ⟨detected, _, hdetected, faceLoop_eq type hdetected hothers, ?_⟩
    simp only [hhead, Option.mem_def, Option.some.injEq, forall_eq', hne, ne_eq, not_false_iff,
      iff_true]
    exact boxSize_nonneg_iff type detected _ best (hperm.filter _) haccepted hbest

/-! ## A missed face -/

/-- Only the first box has a score. It lies low and left in the crop. -/
def lowLeftBoxes : RawBoxes :=
  (((Vector.replicate (896 * 16) (0 : Rat)).set 0 16).set 1 96).set 2 16 |>.set 3 16

def lowLeftScores : RawScores := (Vector.replicate 896 (0 : Rat)).set 0 (9 / 10)

theorem low_left_detected (sqrt : Rat → Rat) :
    tensors2Detections sqrt lowLeftBoxes lowLeftScores =
      some [⟨5 / 32, 25 / 32, 1 / 8, 1 / 8, 9 / 10, 0⟩] := by
  have hfirst : decoded lowLeftBoxes lowLeftScores 0 =
      some ⟨5 / 32, 25 / 32, 1 / 8, 1 / 8, 9 / 10, 0⟩ := by
    decide +kernel
  have hrest : ∀ i, decoded lowLeftBoxes lowLeftScores (i + 1) = none := by
    intro i
    have hscore : scoreAt lowLeftScores (i + 1) = 0 := by
      simp only [scoreAt, lowLeftScores, Vector.getElem?_set_ne _ (Nat.succ_ne_zero i).symm,
        Vector.getElem?_replicate]
      split_ifs <;> rfl
    rw [decoded, hscore, if_neg (by norm_num)]
  rw [tensors2Detections_range, List.range_succ_eq_map, List.filterMap_cons_some hfirst,
    List.filterMap_map]
  simp [hrest]

theorem low_left_nms :
    nonMaxSuppression [⟨5 / 32, 25 / 32, 1 / 8, 1 / 8, 9 / 10, 0⟩] (.stable _) =
      some [⟨5 / 32, 15 / 32, 1 / 8, -1 / 2, 9 / 10, 0⟩] := by
  decide +kernel

/-- A face low and left in the left crop is taken for a miss. -/
theorem low_left_face_missed :
    tensors2Detections id lowLeftBoxes lowLeftScores =
      some [⟨5 / 32, 25 / 32, 1 / 8, 1 / 8, 9 / 10, 0⟩] ∧
    ∃ report, faceLoop id SortedScores.stable 1 lowLeftBoxes lowLeftScores = some report ∧
      report.boxSize < 0 := by
  refine ⟨low_left_detected id, _, faceLoop_eq 1 (low_left_detected id) low_left_nms, ?_⟩
  decide +kernel

end Sprefence.FaceDetect

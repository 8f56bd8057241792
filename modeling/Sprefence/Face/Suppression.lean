import Mathlib.Algebra.Order.Field.Rat
import Mathlib.Data.List.FinRange
import Mathlib.Data.List.Sort
import Sprefence.Face.DeOffset
import Sprefence.Lib.Leaders
import Sprefence.Lib.WeightedMean

/-! `NonMaxSuppression` of `non_max_suppression.cxx`. The detections are sorted by
score; the first one left is merged with those that overlap it, and these are
taken out. Floats are exact rationals. `std::sort` may leave equal scores in any
order, so its result is a parameter. -/

namespace Sprefence.FaceDetect

open Leaders WeightedMean

/-! ## The code -/

def kMinSuppressionThreshold : Rat := 3 / 10

/-- The corners that `IntersectRect` returns in the fields of a `Detection`. -/
structure Corners where
  x : Rat
  y : Rat
  w : Rat
  h : Rat
  deriving DecidableEq, Repr

def intersectRect (rect1 rect2 : Detection) : Corners :=
  let hw0 := rect1.w / 2
  let hw1 := rect2.w / 2
  let x0 := rect1.x - hw0
  let x1 := rect2.x - hw1
  let w0 := rect1.x + hw0
  let w1 := rect2.x + hw1
  let hh0 := rect1.h / 2
  let hh1 := rect2.h / 2
  let y0 := rect1.y - hh0
  let y1 := rect2.y - hh1
  let h0 := rect1.y + hh0
  let h1 := rect2.y + hh1
  { x := if x0 > x1 then x0 else x1
    w := if w0 < w1 then w0 else w1
    y := if y0 > y1 then y0 else y1
    h := if h0 < h1 then h0 else h1 }

def overlapSimilarity (rect1 rect2 : Detection) : Rat :=
  let intersect := intersectRect rect1 rect2
  if intersect.x ≥ intersect.w ∨ intersect.y ≥ intersect.h then 0
  else
    let intersectionArea := (intersect.w - intersect.x) * (intersect.h - intersect.y)
    let normalization := rect1.w * rect1.h + rect2.w * rect2.h - intersectionArea
    if normalization > 0 then intersectionArea / normalization else 0

/-- An index of `bb` with a score. -/
abbrev IndexedScore (bb : List Detection) := Fin bb.length × Rat

def sortBySecond {bb : List Detection} (p q : IndexedScore bb) : Prop := p.2 > q.2

def indexedScores (bb : List Detection) : List (IndexedScore bb) :=
  (List.finRange bb.length).map fun i => (i, (bb.get i).score)

/-- What `std::sort` with `SortBySecond` may make of the indexed scores. -/
structure SortedScores (bb : List Detection) where
  scores : List (IndexedScore bb)
  perm : scores.Perm (indexedScores bb)
  sorted : scores.Pairwise fun p q => ¬ sortBySecond q p

instance {bb : List Detection} : DecidableRel (@sortBySecond bb) :=
  fun p q => inferInstanceAs (Decidable (p.2 > q.2))

/-- A stable sort, which leaves equal scores in the order of their indices. -/
def SortedScores.stable (bb : List Detection) : SortedScores bb where
  scores := (indexedScores bb).insertionSort fun p q => ¬ sortBySecond q p
  perm := List.perm_insertionSort _ _
  sorted :=
    have : Std.Total fun p q : IndexedScore bb => ¬ sortBySecond q p :=
      ⟨fun p q => by simpa [sortBySecond] using le_total q.2 p.2⟩
    have : IsTrans (IndexedScore bb) fun p q => ¬ sortBySecond q p :=
      ⟨fun p q r hpq hqr => by
        simp only [sortBySecond, gt_iff_lt, not_lt] at hpq hqr ⊢
        exact hqr.trans hpq⟩
    List.pairwise_insertionSort _ _

/-- The sums of the merging loop. -/
structure Weighted where
  totalScore : Rat
  wXmin : Rat
  wYmin : Rat
  wXmax : Rat
  wYmax : Rat
  deriving DecidableEq, Repr

/-- One candidate. The last sum is made of `bbox.x + hw`, too. -/
def Weighted.add {bb : List Detection} (s : Weighted) (candidate : IndexedScore bb) : Weighted :=
  let bbox := bb.get candidate.1
  let hw := bbox.w / 2
  let hh := bbox.h / 2
  { totalScore := s.totalScore + candidate.2
    wXmin := s.wXmin + (bbox.x - hw) * candidate.2
    wYmin := s.wYmin + (bbox.y - hh) * candidate.2
    wXmax := s.wXmax + (bbox.x + hw) * candidate.2
    wYmax := s.wYmax + (bbox.x + hw) * candidate.2 }

def weightedDetection {bb : List Detection} (detection : Detection)
    (candidates : List (IndexedScore bb)) : Detection :=
  if candidates.isEmpty then detection
  else
    let s := candidates.foldl Weighted.add ⟨0, 0, 0, 0, 0⟩
    let xMin := s.wXmin / s.totalScore
    let yMin := s.wYmin / s.totalScore
    let xMax := s.wXmax / s.totalScore
    let yMax := s.wYmax / s.totalScore
    { detection with
      x := (xMin + xMax) / 2
      y := (yMin + yMax) / 2
      w := xMax - xMin
      h := yMax - yMin }

/-- The `while` loop with `ret` so far, for at most `fuel` iterations. -/
def suppressLoop (bb : List Detection) :
    Nat → List (IndexedScore bb) → List Detection → Option (List Detection)
  | _, [], ret => some ret
  | 0, _ :: _, _ => none
  | fuel + 1, first :: others, ret =>
    let detection := bb.get first.1
    let (candidates, remained) := (first :: others).partition fun indexedScore =>
      overlapSimilarity (bb.get indexedScore.1) detection > kMinSuppressionThreshold
    let ret := ret ++ [weightedDetection detection candidates]
    if (first :: others).length = remained.length then some ret
    else suppressLoop bb fuel remained ret

def nonMaxSuppression (bb : List Detection) (order : SortedScores bb) : Option (List Detection) :=
  if bb.isEmpty then some bb else suppressLoop bb bb.length order.scores []

/-! ## Overlap -/

/-- The box has an area. -/
def Detection.Proper (d : Detection) : Prop := 0 < d.w ∧ 0 < d.h

instance (d : Detection) : Decidable d.Proper := inferInstanceAs (Decidable (_ ∧ _))

theorem intersectRect_eq (a b : Detection) :
    intersectRect a b =
      ⟨max (a.x - a.w / 2) (b.x - b.w / 2), max (a.y - a.h / 2) (b.y - b.h / 2),
        min (a.x + a.w / 2) (b.x + b.w / 2), min (a.y + a.h / 2) (b.y + b.h / 2)⟩ := by
  have hmax : ∀ p q : Rat, (if p > q then p else q) = max p q := by
    intro p q
    split_ifs with h
    · exact (max_eq_left h.le).symm
    · exact (max_eq_right (not_lt.mp h)).symm
  have hmin : ∀ p q : Rat, (if p < q then p else q) = min p q := by
    intro p q
    split_ifs with h
    · exact (min_eq_left h.le).symm
    · exact (min_eq_right (not_lt.mp h)).symm
  simp only [intersectRect, hmax, hmin]

theorem overlapSimilarity_comm (a b : Detection) :
    overlapSimilarity a b = overlapSimilarity b a := by
  have hrect : intersectRect a b = intersectRect b a := by
    rw [intersectRect_eq, intersectRect_eq, max_comm (a.x - a.w / 2), max_comm (a.y - a.h / 2),
      min_comm (a.x + a.w / 2), min_comm (a.y + a.h / 2)]
  simp only [overlapSimilarity, hrect, add_comm (a.w * a.h)]

theorem overlapSimilarity_self (a : Detection) (h : a.Proper) : overlapSimilarity a a = 1 := by
  obtain ⟨hw, hh⟩ := h
  have harea : 0 < a.w * a.h := mul_pos hw hh
  have hx : ¬ (a.x - a.w / 2 ≥ a.x + a.w / 2 ∨ a.y - a.h / 2 ≥ a.y + a.h / 2) := by
    rintro (h | h) <;> linarith
  have hside : ∀ p q : Rat, p + q / 2 - (p - q / 2) = q := fun p q => by ring
  simp only [overlapSimilarity, intersectRect_eq, max_self, min_self, if_neg hx, hside,
    add_sub_cancel_right, if_pos harea]
  exact div_self harea.ne'

/-- A box without an area overlaps nothing. -/
theorem overlapSimilarity_flat (a b : Detection) (h : ¬ b.Proper) : overlapSimilarity a b = 0 := by
  have hempty : (intersectRect a b).x ≥ (intersectRect a b).w ∨
      (intersectRect a b).y ≥ (intersectRect a b).h := by
    rw [intersectRect_eq]
    rw [Detection.Proper, not_and_or, not_lt, not_lt] at h
    rcases h with hw | hh
    · left
      have hl := le_max_right (a.x - a.w / 2) (b.x - b.w / 2)
      have hr := min_le_right (a.x + a.w / 2) (b.x + b.w / 2)
      dsimp only
      linarith
    · right
      have hl := le_max_right (a.y - a.h / 2) (b.y - b.h / 2)
      have hr := min_le_right (a.y + a.h / 2) (b.y + b.h / 2)
      dsimp only
      linarith
  rw [overlapSimilarity, if_pos hempty]

/-- The test of the loop. -/
def overlaps (a b : Detection) : Bool := overlapSimilarity a b > kMinSuppressionThreshold

theorem overlaps_comm (a b : Detection) : overlaps a b = overlaps b a := by
  rw [overlaps, overlapSimilarity_comm, overlaps]

@[simp] theorem overlaps_self_iff (a : Detection) : overlaps a a = true ↔ a.Proper := by
  unfold overlaps kMinSuppressionThreshold
  by_cases h : a.Proper
  · simp only [overlapSimilarity_self a h, h, iff_true]
    decide +kernel
  · simp only [overlapSimilarity_flat a a h, h, iff_false]
    decide +kernel

theorem selfNear_overlaps : SelfNear overlaps := by
  intro a b hb
  rw [overlaps_self_iff]
  by_contra h
  rw [overlaps, overlapSimilarity_flat b a h] at hb
  revert hb
  decide +kernel

/-! ## Clusters -/

section Clusters

variable {bb : List Detection}

/-- What one iteration finds: the index it starts from, and its candidates. -/
abbrev Cluster (bb : List Detection) := Round (IndexedScore bb)

def Cluster.seed (c : Cluster bb) : Detection := bb.get c.leader.1

def Cluster.boxes (c : Cluster bb) : List Detection := c.group.map fun p => bb.get p.1

def Cluster.merged (c : Cluster bb) : Detection := weightedDetection (Cluster.seed c) c.group

def near (bb : List Detection) (p q : IndexedScore bb) : Bool := overlaps (bb.get p.1) (bb.get q.1)

/-- The iterations of `NonMaxSuppression`. -/
def clusters (bb : List Detection) (order : SortedScores bb) : Option (List (Cluster bb)) :=
  rounds (near bb) bb.length order.scores

theorem suppressLoop_eq (fuel : Nat) (l : List (IndexedScore bb)) (ret : List Detection) :
    suppressLoop bb fuel l ret =
      (rounds (near bb) fuel l).map fun cs => ret ++ cs.map Cluster.merged := by
  induction fuel generalizing l ret with
  | zero => cases l <;> simp [suppressLoop, rounds]
  | succ fuel ih =>
    cases l with
    | nil => simp [suppressLoop, rounds]
    | cons first others =>
      have hnear : ∀ p : IndexedScore bb,
          decide (overlapSimilarity (bb.get p.1) (bb.get first.1) > kMinSuppressionThreshold) =
            near bb p first := fun _ => rfl
      simp only [suppressLoop, rounds, List.partition_eq_filter_filter, hnear, ih,
        Function.comp_def, eq_comm (a := (first :: others).length)]
      split_ifs
      · rfl
      · rw [Option.map_map]
        refine congrArg₂ Option.map (funext fun cs => ?_) rfl
        simp [Cluster.merged, Cluster.seed]

theorem SortedScores.length_scores (order : SortedScores bb) : order.scores.length = bb.length := by
  rw [order.perm.length_eq, indexedScores, List.length_map, List.length_finRange]

theorem nonMaxSuppression_eq (order : SortedScores bb) :
    nonMaxSuppression bb order = (clusters bb order).map (List.map Cluster.merged) := by
  unfold nonMaxSuppression clusters
  split_ifs with hbb
  · have hbb : bb = [] := List.isEmpty_iff.mp hbb
    have hscores : order.scores = [] := by
      rw [← List.length_eq_zero_iff, order.length_scores, hbb, List.length_nil]
    subst hbb
    rw [hscores]
    rfl
  · simp only [suppressLoop_eq, List.nil_append]

theorem exists_clusters (bb : List Detection) (order : SortedScores bb) :
    ∃ cs, clusters bb order = some cs ∧
      nonMaxSuppression bb order = some (cs.map Cluster.merged) := by
  obtain ⟨cs, hcs⟩ : ∃ cs, clusters bb order = some cs :=
    exists_rounds order.scores bb.length order.length_scores.le
  exact ⟨cs, hcs, by rw [nonMaxSuppression_eq, hcs]; rfl⟩

theorem selfNear_near (bb : List Detection) : SelfNear (near bb) :=
  fun p q h => selfNear_overlaps (bb.get p.1) (bb.get q.1) h

/-! ## The sorted scores -/

theorem SortedScores.mem_scores_iff (order : SortedScores bb) (p : IndexedScore bb) :
    p ∈ order.scores ↔ p.2 = (bb.get p.1).score := by
  rw [order.perm.mem_iff, indexedScores, List.mem_map]
  constructor
  · rintro ⟨i, -, rfl⟩
    rfl
  · intro hp
    exact ⟨p.1, List.mem_finRange p.1, Prod.ext rfl hp.symm⟩

theorem SortedScores.nodup (order : SortedScores bb) : (order.scores.map Prod.fst).Nodup := by
  rw [(order.perm.map Prod.fst).nodup_iff, indexedScores, List.map_map]
  exact (List.map_id _).symm ▸ List.nodup_finRange bb.length

/-- The detections in the order of the scores. -/
def SortedScores.detections (order : SortedScores bb) : List Detection :=
  order.scores.map fun p => bb.get p.1

theorem SortedScores.detections_perm (order : SortedScores bb) : order.detections.Perm bb := by
  have hmap := order.perm.map fun p => bb.get p.1
  rw [indexedScores, List.map_map] at hmap
  exact hmap.trans (List.Perm.of_eq (List.map_get_finRange bb))

theorem SortedScores.detections_sorted (order : SortedScores bb) :
    order.detections.Pairwise fun a b => b.score ≤ a.score := by
  refine List.pairwise_map.mpr (order.sorted.imp_of_mem fun {p q} hp hq h => ?_)
  rw [order.mem_scores_iff] at hp hq
  rw [← hp, ← hq]
  exact not_lt.mp h

/-! ## The merged box -/

def Detection.left (d : Detection) : Rat := d.x - d.w / 2
def Detection.right (d : Detection) : Rat := d.x + d.w / 2
def Detection.top (d : Detection) : Rat := d.y - d.h / 2
def Detection.bottom (d : Detection) : Rat := d.y + d.h / 2

/-- The mean of an edge over boxes, weighted by the scores. -/
def meanEdge (edge : Detection → Rat) (boxes : List Detection) : Rat :=
  mean Detection.score edge boxes

/-- The merging of a cluster, where the right edges stand for the lower ones. -/
def merge (r : Round Detection) : Detection :=
  if r.group = [] then r.leader
  else { r.leader with
    x := (meanEdge Detection.left r.group + meanEdge Detection.right r.group) / 2
    y := (meanEdge Detection.top r.group + meanEdge Detection.right r.group) / 2
    w := meanEdge Detection.right r.group - meanEdge Detection.left r.group
    h := meanEdge Detection.right r.group - meanEdge Detection.top r.group }

/-- The score of every candidate is the one of its detection. -/
def Scored (candidates : List (IndexedScore bb)) : Prop :=
  ∀ p ∈ candidates, p.2 = (bb.get p.1).score

theorem foldl_add (candidates : List (IndexedScore bb)) (s : Weighted) (h : Scored candidates) :
    let boxes := candidates.map fun p => bb.get p.1
    candidates.foldl Weighted.add s =
      ⟨s.totalScore + (boxes.map Detection.score).sum,
        s.wXmin + (boxes.map fun d => d.left * d.score).sum,
        s.wYmin + (boxes.map fun d => d.top * d.score).sum,
        s.wXmax + (boxes.map fun d => d.right * d.score).sum,
        s.wYmax + (boxes.map fun d => d.right * d.score).sum⟩ := by
  induction candidates generalizing s with
  | nil => simp
  | cons p candidates ih =>
    have hp : p.2 = (bb.get p.1).score := h p List.mem_cons_self
    have htail : Scored candidates := fun q hq => h q (List.mem_cons_of_mem p hq)
    simp only [List.foldl_cons, ih _ htail, List.map_cons, List.sum_cons, Weighted.add, hp,
      Detection.left, Detection.right, Detection.top, add_assoc]

theorem merged_eq_merge (c : Cluster bb) (h : Scored c.group) :
    Cluster.merged c = merge (c.map fun p => bb.get p.1) := by
  unfold Cluster.merged weightedDetection merge Round.map
  by_cases hgroup : c.group = []
  · simp [hgroup, Cluster.seed]
  · simp only [List.isEmpty_iff, hgroup, if_false, List.map_eq_nil_iff, foldl_add c.group _ h,
      zero_add, meanEdge, mean, Cluster.seed]

/-- The candidates of a cluster are scored, and only a seed without an area has none. -/
theorem clusters_spec (order : SortedScores bb) (cs : List (Cluster bb))
    (h : clusters bb order = some cs) (c : Cluster bb) (hc : c ∈ cs) :
    Scored c.group ∧ ((Cluster.seed c).Proper → c.leader ∈ c.group) := by
  obtain ⟨hgroup, hleader⟩ := mem_group (selfNear_near bb) h c hc
  refine ⟨fun p hp => (order.mem_scores_iff p).mp (hgroup p hp).1, fun hproper => hleader ?_⟩
  exact (overlaps_self_iff _).mpr hproper

/-- On the detections in the order of their scores, indices play no part. -/
theorem nonMaxSuppression_detections (order : SortedScores bb) :
    nonMaxSuppression bb order =
      (rounds overlaps bb.length order.detections).map (List.map merge) := by
  obtain ⟨cs, hcs, hret⟩ := exists_clusters bb order
  have hmap : rounds overlaps bb.length order.detections =
      (clusters bb order).map (List.map (Round.map fun p => bb.get p.1)) :=
    rounds_map (fun p : IndexedScore bb => bb.get p.1) bb.length order.scores
  rw [hret, hmap, hcs, Option.map_some, Option.map_some, List.map_map]
  refine congrArg some (List.map_congr_left fun c hc => ?_)
  exact merged_eq_merge c (clusters_spec order cs hcs c hc).1

end Clusters

end Sprefence.FaceDetect

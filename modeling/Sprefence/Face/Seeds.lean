import Mathlib.Data.List.Pairwise
import Mathlib.Data.List.TakeWhile
import Sprefence.Face.Suppression

/-! What `NonMaxSuppression` keeps: the seeds of its clusters are separate and come
in the order of their scores, they do not depend on the order of the input, and
they account for every detection unless a box without an area ends the loop. -/

namespace Sprefence.FaceDetect

open Leaders

variable {bb : List Detection} {order : SortedScores bb} {cs : List (Cluster bb)}

/-- The indices the iterations start from. -/
def seeds (cs : List (Cluster bb)) : List (Fin bb.length) := cs.map fun c => c.leader.1

theorem merged_score (c : Cluster bb) :
    (Cluster.merged c).score = (bb.get c.leader.1).score := by
  unfold Cluster.merged weightedDetection
  split_ifs <;> rfl

theorem map_score_merged (cs : List (Cluster bb)) :
    (cs.map Cluster.merged).map Detection.score = (seeds cs).map fun i => (bb.get i).score := by
  rw [seeds, List.map_map, List.map_map]
  exact List.map_congr_left fun c _ => merged_score c

/-! ## Order and separation -/

theorem seeds_sublist (h : clusters bb order = some cs) :
    (seeds cs).Sublist (order.scores.map Prod.fst) := by
  have hsub := (leaders_spec (selfNear_near bb) h).1.map Prod.fst
  rwa [List.map_map] at hsub

theorem seeds_nodup (h : clusters bb order = some cs) : (seeds cs).Nodup :=
  order.nodup.sublist (seeds_sublist h)

theorem seeds_sorted (h : clusters bb order = some cs) :
    (seeds cs).Pairwise fun i j => (bb.get j).score ≤ (bb.get i).score := by
  have hsorted := List.pairwise_map.mp order.detections_sorted
  exact (List.pairwise_map.mpr hsorted).sublist (seeds_sublist h)

theorem seeds_separate (h : clusters bb order = some cs) :
    (seeds cs).Pairwise fun i j =>
      overlapSimilarity (bb.get i) (bb.get j) ≤ kMinSuppressionThreshold := by
  have hleaders := List.pairwise_map.mp (leaders_spec (selfNear_near bb) h).2
  refine List.pairwise_map.mpr (hleaders.imp fun {c d} hcd => ?_)
  rw [near, overlaps, decide_eq_false_iff_not, not_lt, overlapSimilarity_comm] at hcd
  exact hcd

theorem seeds_head (h : clusters bb order = some cs) :
    (seeds cs).head? = (order.scores.map Prod.fst).head? := by
  have hhead := leaders_head (selfNear_near bb) h
  rw [List.head?_map] at hhead
  rw [seeds, List.head?_map, List.head?_map, ← hhead, Option.map_map]
  rfl

/-- The first seed has the greatest score. -/
theorem score_le_head (h : clusters bb order = some cs) (i : Fin bb.length)
    (hi : i ∈ (seeds cs).head?) (d : Detection) (hd : d ∈ bb) : d.score ≤ (bb.get i).score := by
  have hmem := (order.detections_perm.mem_iff).mpr hd
  have hsorted := order.detections_sorted
  rw [seeds_head h, List.head?_map] at hi
  obtain ⟨p, hp, rfl⟩ := Option.mem_map.mp hi
  obtain ⟨rest, hrest⟩ : ∃ rest, order.scores = p :: rest := by
    rw [← List.head?_eq_some_iff]
    exact hp
  rw [SortedScores.detections, hrest, List.map_cons] at hmem hsorted
  rcases List.mem_cons.mp hmem with rfl | hmem
  · exact le_rfl
  · exact (List.pairwise_cons.mp hsorted).1 d hmem

theorem seeds_eq_nil_iff (h : clusters bb order = some cs) : seeds cs = [] ↔ bb = [] := by
  rw [← List.head?_eq_none_iff, seeds_head h, List.head?_eq_none_iff, List.map_eq_nil_iff,
    ← List.length_eq_zero_iff, order.length_scores, List.length_eq_zero_iff]

/-- The scores of the result do not increase and start with the greatest one, and it
is made from different detections that do not overlap. -/
theorem nonMaxSuppression_order (bb : List Detection) (order : SortedScores bb) :
    ∃ cs ret, clusters bb order = some cs ∧ nonMaxSuppression bb order = some ret ∧
      ret = cs.map Cluster.merged ∧
      (ret = [] ↔ bb = []) ∧ ret.length ≤ bb.length ∧
      ret.Pairwise (fun a b => b.score ≤ a.score) ∧
      (∀ first ∈ ret.head?, (∃ d ∈ bb, d.score = first.score) ∧ ∀ d ∈ bb, d.score ≤ first.score) ∧
      ret.map Detection.score = (seeds cs).map (fun i => (bb.get i).score) ∧
      (seeds cs).Nodup ∧
      ∀ i ∈ seeds cs, ∀ j ∈ seeds cs, i ≠ j →
        overlapSimilarity (bb.get i) (bb.get j) ≤ kMinSuppressionThreshold := by
  obtain ⟨cs, hcs, hret⟩ := exists_clusters bb order
  have hlen : (cs.map Cluster.merged).length = (seeds cs).length := by simp [seeds]
  refine ⟨cs, _, hcs, hret, rfl, ?_, ?_, ?_, ?_, map_score_merged cs, seeds_nodup hcs, ?_⟩
  · rw [← seeds_eq_nil_iff hcs, ← List.length_eq_zero_iff, hlen, List.length_eq_zero_iff]
  · have hle := (seeds_sublist hcs).length_le
    rwa [List.length_map, order.length_scores, ← hlen] at hle
  · have hscores : ((cs.map Cluster.merged).map Detection.score).Pairwise fun a b => b ≤ a := by
      rw [map_score_merged]
      exact List.pairwise_map.mpr (seeds_sorted hcs)
    exact List.pairwise_map.mp hscores
  · intro first hfirst
    rw [List.head?_map] at hfirst
    obtain ⟨c, hc, rfl⟩ := Option.mem_map.mp hfirst
    rw [merged_score]
    refine ⟨⟨bb.get c.leader.1, List.get_mem bb _, rfl⟩, score_le_head hcs c.leader.1 ?_⟩
    rw [seeds, List.head?_map]
    exact Option.mem_map_of_mem _ hc
  · intro i hi j hj hij
    have hsymm : Std.Symm fun i j : Fin bb.length =>
        overlapSimilarity (bb.get i) (bb.get j) ≤ kMinSuppressionThreshold :=
      ⟨fun i j h => by rwa [overlapSimilarity_comm]⟩
    exact (seeds_separate hcs).forall hi hj hij

/-! ## The order of the input -/

theorem detections_unique {bb' : List Detection} (hperm : bb.Perm bb')
    (hdiff : (bb.map Detection.score).Nodup) (order : SortedScores bb) (order' : SortedScores bb') :
    order.detections = order'.detections := by
  refine List.Perm.eq_of_pairwise ?_ order.detections_sorted order'.detections_sorted
    (order.detections_perm.trans (hperm.trans order'.detections_perm.symm))
  intro a b ha hb hba hab
  refine List.inj_on_of_nodup_map hdiff (order.detections_perm.mem_iff.mp ha) ?_
    (le_antisymm hab hba)
  exact hperm.mem_iff.mpr (order'.detections_perm.mem_iff.mp hb)

/-- With different scores the result does not depend on the order of the detections. -/
theorem nonMaxSuppression_perm (bb bb' : List Detection) (hperm : bb.Perm bb')
    (hdiff : (bb.map Detection.score).Nodup) (order : SortedScores bb) (order' : SortedScores bb') :
    ∃ ret, nonMaxSuppression bb order = some ret ∧ nonMaxSuppression bb' order' = some ret := by
  obtain ⟨cs, -, hret⟩ := exists_clusters bb order
  refine ⟨_, hret, ?_⟩
  rw [← hret, nonMaxSuppression_detections, nonMaxSuppression_detections,
    detections_unique hperm hdiff order order', hperm.length_eq]

/-- Two faces, in both orders. -/
theorem nonMaxSuppression_two_faces :
    let a : Detection := ⟨1 / 4, 1 / 4, 1 / 8, 1 / 8, 9 / 10, 0⟩
    let b : Detection := ⟨3 / 4, 3 / 4, 1 / 8, 1 / 8, 8 / 10, 0⟩
    ∃ ret, nonMaxSuppression [a, b] (.stable [a, b]) = some ret ∧
      nonMaxSuppression [b, a] (.stable [b, a]) = some ret :=
  nonMaxSuppression_perm _ _ (List.Perm.swap _ _ []) (by decide +kernel) _ _

/-! ## Nothing lost -/

/-- A seed, or a box that overlaps a seed of at least its score. -/
def Accounted (cs : List (Cluster bb)) (i : Fin bb.length) : Prop :=
  i ∈ seeds cs ∨ ∃ s ∈ seeds cs, (bb.get i).score ≤ (bb.get s).score ∧
    overlapSimilarity (bb.get i) (bb.get s) > kMinSuppressionThreshold

instance (cs : List (Cluster bb)) : DecidablePred (Accounted cs) :=
  fun _ => inferInstanceAs (Decidable (_ ∨ _))

/-- In the order of the scores, every box behind the first one without an area overlaps
a box in front of it that no better one there suppresses. -/
def SortedScores.FlatCovered (order : SortedScores bb) : Prop :=
  ∀ p ∈ (order.scores.dropWhile fun p => (bb.get p.1).Proper).tail,
    ∃ s ∈ survivors (near bb) (order.scores.takeWhile fun p => (bb.get p.1).Proper),
      overlapSimilarity (bb.get p.1) (bb.get s.1) > kMinSuppressionThreshold

theorem flatCovered_iff (order : SortedScores bb) :
    order.FlatCovered ↔ NothingLost (near bb) order.scores := by
  have hproper : (fun p : IndexedScore bb => decide (bb.get p.1).Proper) = fun p => near bb p p :=
    funext fun p => Bool.eq_iff_iff.mpr (by simp [near])
  simp only [SortedScores.FlatCovered, NothingLost, hproper, near, overlaps, decide_eq_true_iff]

theorem accounted_iff (h : clusters bb order = some cs) (p : IndexedScore bb)
    (hp : p ∈ order.scores) :
    Accounted cs p.1 ↔ p ∈ cs.map Round.leader ∨
      ∃ s ∈ cs.map Round.leader, p.2 ≤ s.2 ∧ near bb p s = true := by
  have hleaders := (leaders_spec (selfNear_near bb) h).1
  have hscore : ∀ q ∈ order.scores, q.2 = (bb.get q.1).score := fun q => (order.mem_scores_iff q).mp
  have hseeds : seeds cs = (cs.map Round.leader).map Prod.fst := by
    rw [List.map_map]
    rfl
  have hseed : p.1 ∈ (cs.map Round.leader).map Prod.fst ↔ p ∈ cs.map Round.leader := by
    refine ⟨fun hmem => ?_, List.mem_map_of_mem⟩
    obtain ⟨q, hq, hqp⟩ := List.mem_map.mp hmem
    exact List.inj_on_of_nodup_map order.nodup (hleaders.subset hq) hp hqp ▸ hq
  unfold Accounted
  rw [hseeds, hseed, hscore p hp]
  refine or_congr_right ⟨?_, ?_⟩
  · rintro ⟨i, hi, hle, hover⟩
    obtain ⟨s, hs, rfl⟩ := List.mem_map.mp hi
    exact ⟨s, hs, by rwa [hscore s (hleaders.subset hs)], by simpa [near, overlaps] using hover⟩
  · rintro ⟨s, hs, hle, hover⟩
    rw [hscore s (hleaders.subset hs)] at hle
    exact ⟨s.1, List.mem_map_of_mem hs, hle, by simpa [near, overlaps] using hover⟩

/-- Every detection is accounted for exactly if those behind the first box without an
area are covered by boxes in front of it. -/
theorem nonMaxSuppression_accounts_iff (bb : List Detection) (order : SortedScores bb) :
    ∃ cs, clusters bb order = some cs ∧
      nonMaxSuppression bb order = some (cs.map Cluster.merged) ∧
      ((∀ i, Accounted cs i) ↔ order.FlatCovered) := by
  obtain ⟨cs, hcs, hret⟩ := exists_clusters bb order
  refine ⟨cs, hcs, hret, ?_⟩
  have hsorted : order.scores.Pairwise fun p q => q.2 ≤ p.2 := order.sorted.imp not_lt.mp
  have hcov := covered_iff_nothingLost (selfNear_near bb)
    (fun p q => overlaps_comm (bb.get p.1) (bb.get q.1)) hcs order.nodup.of_map hsorted
  rw [flatCovered_iff, ← hcov]
  constructor
  · intro hall p hp
    exact (accounted_iff hcs p hp).mp (hall p.1)
  · intro hall i
    have hp : (i, (bb.get i).score) ∈ order.scores := (order.mem_scores_iff _).mpr rfl
    exact (accounted_iff hcs _ hp).mpr (hall _ hp)

/-- Without flat boxes nothing is lost. -/
theorem flatCovered_of_proper (order : SortedScores bb) (h : ∀ d ∈ bb, d.Proper) :
    order.FlatCovered := by
  have hnone : (order.scores.dropWhile fun p => (bb.get p.1).Proper) = [] :=
    List.dropWhile_eq_nil_iff.mpr fun p _ => decide_eq_true (h _ (List.get_mem bb p.1))
  intro p hp
  rw [hnone] at hp
  cases hp

/-- A box without a width that the network scores best hides a face. -/
theorem flat_box_hides_face :
    let flat : Detection := ⟨1 / 4, 1 / 4, 0, 1 / 8, 9 / 10, 0⟩
    let face : Detection := ⟨3 / 4, 3 / 4, 1 / 8, 1 / 8, 8 / 10, 0⟩
    (∀ d ∈ [flat, face], 0 ≤ d.w ∧ 0 ≤ d.h ∧ 3 / 4 ≤ d.score) ∧
    nonMaxSuppression [flat, face] (.stable [flat, face]) = some [flat] ∧
    ∃ cs, clusters [flat, face] (.stable [flat, face]) = some cs ∧ ¬ Accounted cs 1 :=
  ⟨by decide +kernel, by decide +kernel, [⟨(0, 9 / 10), []⟩], by decide +kernel, by decide +kernel⟩

end Sprefence.FaceDetect

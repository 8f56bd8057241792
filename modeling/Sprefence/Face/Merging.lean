import Mathlib.Tactic.Ring
import Sprefence.Face.Suppression

/-! The box that a cluster is merged into. Its lower edge is the mean of the right
edges, so whether it lies among the lower edges of the cluster depends on where
the cluster is in the frame. -/

namespace Sprefence.FaceDetect

open Leaders WeightedMean

/-- Each edge lies between the least and the greatest such edge of the boxes. -/
def Detection.Within (d : Detection) (boxes : List Detection) : Prop :=
  ∀ edge ∈ [Detection.left, Detection.right, Detection.top, Detection.bottom],
    (∃ b ∈ boxes, edge b ≤ edge d) ∧ ∃ b ∈ boxes, edge d ≤ edge b

/-- A merged box as it should be. -/
def GoodMerge (d : Detection) (boxes : List Detection) : Prop :=
  d.Within boxes ∧ 0 < d.w ∧ 0 < d.h ∧ ∀ b, boxes = [b] → d = b

/-- The mean right edge is among the lower edges, and below the mean upper edge. -/
def RightFitsBottom (boxes : List Detection) : Prop :=
  (∃ b ∈ boxes, b.bottom ≤ meanEdge Detection.right boxes) ∧
    (∃ b ∈ boxes, meanEdge Detection.right boxes ≤ b.bottom) ∧
    meanEdge Detection.top boxes < meanEdge Detection.right boxes

theorem merge_edges (r : Round Detection) (h : r.group ≠ []) :
    (merge r).left = meanEdge Detection.left r.group ∧
      (merge r).right = meanEdge Detection.right r.group ∧
      (merge r).top = meanEdge Detection.top r.group ∧
      (merge r).bottom = meanEdge Detection.right r.group := by
  simp only [merge, if_neg h, Detection.left, Detection.right, Detection.top, Detection.bottom]
  refine ⟨?_, ?_, ?_, ?_⟩ <;> ring

theorem merge_singleton (b : Detection) (hb : 0 < b.score) (h : b.right = b.bottom) :
    merge ⟨b, [b]⟩ = b := by
  obtain ⟨x, y, w, hgt, score, classes⟩ := b
  simp only [Detection.right, Detection.bottom] at h
  simp only [merge, List.cons_ne_nil, if_false, meanEdge, mean_singleton _ hb.ne', Detection.left,
    Detection.right, Detection.top, Detection.mk.injEq, and_true]
  refine ⟨?_, ?_, ?_, ?_⟩ <;> linarith

theorem goodMerge_iff (r : Round Detection) (hleader : r.leader ∈ r.group)
    (hproper : ∀ b ∈ r.group, b.Proper) (hscore : ∀ b ∈ r.group, 0 < b.score) :
    GoodMerge (merge r) r.group ↔ RightFitsBottom r.group := by
  have hne : r.group ≠ [] := List.ne_nil_of_mem hleader
  obtain ⟨hleft, hright, htop, hbottom⟩ := merge_edges r hne
  constructor
  · rintro ⟨hwithin, -, hh, -⟩
    obtain ⟨hlo, hhi⟩ := hwithin Detection.bottom (by simp)
    rw [hbottom] at hlo hhi
    refine ⟨hlo, hhi, ?_⟩
    rw [← htop, ← hbottom, Detection.top, Detection.bottom]
    linarith
  · rintro ⟨hlo, hhi, hlt⟩
    have hmean : ∀ edge : Detection → Rat, (∃ b ∈ r.group, edge b ≤ meanEdge edge r.group) ∧
        ∃ b ∈ r.group, meanEdge edge r.group ≤ edge b :=
      fun edge => ⟨exists_le_mean hne hscore, exists_mean_le hne hscore⟩
    have hwidth : meanEdge Detection.left r.group < meanEdge Detection.right r.group := by
      refine mean_lt_mean hne hscore fun b hb => ?_
      have hw := (hproper b hb).1
      rw [Detection.left, Detection.right]
      linarith
    refine ⟨?_, ?_, ?_, ?_⟩
    · intro edge hedge
      simp only [List.mem_cons, List.not_mem_nil, or_false] at hedge
      rcases hedge with rfl | rfl | rfl | rfl
      · rw [hleft]
        exact hmean _
      · rw [hright]
        exact hmean _
      · rw [htop]
        exact hmean _
      · rw [hbottom]
        exact ⟨hlo, hhi⟩
    · rw [← hleft, ← hright, Detection.left, Detection.right] at hwidth
      linarith
    · rw [← htop, ← hbottom, Detection.top, Detection.bottom] at hlt
      linarith
    · -- the only box is the seed, and its own lower edge bounds its right edge on both sides
      intro b hb
      obtain ⟨leader, group⟩ := r
      subst hb
      have hseed : leader = b := List.mem_singleton.mp hleader
      subst hseed
      have hpos := hscore leader List.mem_cons_self
      simp only [List.mem_singleton, exists_eq_left, meanEdge, mean_singleton _ hpos.ne'] at hlo hhi
      exact merge_singleton leader hpos (le_antisymm hhi hlo)

/-- The boxes that are returned stay inside their clusters exactly if in every cluster
the mean right edge could be a lower edge. -/
theorem nonMaxSuppression_within_iff (bb : List Detection) (order : SortedScores bb)
    (hproper : ∀ d ∈ bb, 0 < d.w ∧ 0 < d.h) (hscore : ∀ d ∈ bb, 0 < d.score) :
    ∃ cs, clusters bb order = some cs ∧
      nonMaxSuppression bb order = some (cs.map Cluster.merged) ∧
      ((∀ c ∈ cs, GoodMerge (Cluster.merged c) (Cluster.boxes c)) ↔
        ∀ c ∈ cs, RightFitsBottom (Cluster.boxes c)) := by
  obtain ⟨cs, hcs, hret⟩ := exists_clusters bb order
  refine ⟨cs, hcs, hret, forall₂_congr fun c hc => ?_⟩
  obtain ⟨hscored, hleader⟩ := clusters_spec order cs hcs c hc
  have hmem : ∀ b ∈ Cluster.boxes c, b ∈ bb := by
    intro b hb
    obtain ⟨p, -, rfl⟩ := List.mem_map.mp hb
    exact List.get_mem bb p.1
  have hseed : Cluster.seed c ∈ Cluster.boxes c :=
    List.mem_map_of_mem (hleader (hproper _ (List.get_mem bb c.leader.1)))
  rw [merged_eq_merge c hscored]
  exact goodMerge_iff (c.map fun p : IndexedScore bb => bb.get p.1) hseed
    (fun b hb => hproper b (hmem b hb)) fun b hb => hscore b (hmem b hb)

/-- Two boxes of one face on the diagonal of the frame. -/
def diagonal : List Detection :=
  [⟨1 / 2, 1 / 2, 1 / 4, 1 / 4, 9 / 10, 0⟩, ⟨51 / 100, 51 / 100, 1 / 4, 1 / 4, 4 / 5, 0⟩]

theorem nonMaxSuppression_within_diagonal :
    ∃ d, nonMaxSuppression diagonal (.stable diagonal) = some [d] ∧ GoodMerge d diagonal := by
  obtain ⟨cs, hcs, hret, hiff⟩ := nonMaxSuppression_within_iff diagonal (.stable diagonal)
    (by decide +kernel) (by decide +kernel)
  obtain rfl : [⟨(⟨0, by decide⟩, 9 / 10), [(⟨0, by decide⟩, 9 / 10), (⟨1, by decide⟩, 4 / 5)]⟩] =
      cs := Option.some.inj (Eq.trans (by decide +kernel) hcs)
  refine ⟨_, hret, hiff.mpr (fun c hc => ?_) _ List.mem_cons_self⟩
  obtain rfl := List.mem_singleton.mp hc
  unfold RightFitsBottom
  decide +kernel

/-- A single face left of the diagonal comes back upside down. -/
theorem single_face_upside_down :
    let d : Detection := ⟨1 / 4, 3 / 4, 1 / 4, 1 / 4, 9 / 10, 0⟩
    nonMaxSuppression [d] (.stable [d]) = some [⟨1 / 4, 1 / 2, 1 / 4, -1 / 4, 9 / 10, 0⟩] ∧
    ∃ cs, clusters [d] (.stable [d]) = some cs ∧
      ∃ c ∈ cs, Cluster.boxes c = [d] ∧ Cluster.merged c ≠ d ∧ ¬ 0 < (Cluster.merged c).h ∧
        ¬ (Cluster.merged c).Within (Cluster.boxes c) := by
  refine ⟨by decide +kernel, [⟨(0, 9 / 10), [(0, 9 / 10)]⟩], by decide +kernel, _, List.mem_cons_self,
    by decide +kernel, by decide +kernel, by decide +kernel, ?_⟩
  unfold Detection.Within
  decide +kernel

end Sprefence.FaceDetect

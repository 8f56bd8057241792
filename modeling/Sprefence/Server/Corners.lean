import Mathlib.Algebra.Order.Field.Rat
import Mathlib.Data.List.Permutation
import Mathlib.Tactic.FieldSimp
import Mathlib.Tactic.Linarith
import Sprefence.Server.Calibration

/-! What `/sethazard` makes of four clicks: which of them become the corners of the
strip, where its edges are said to meet the frame, and what is sent. -/

namespace Sprefence.WebServer

open Server Decimal

/-! ## The corners -/

/-- The variables `lt`, `rt`, `lb` and `rb`. -/
structure Quad where
  lt : Point
  rt : Point
  lb : Point
  rb : Point
  deriving DecidableEq, Repr

/-- The request with these points. -/
def request (qs : List Point) : Option Points := some ⟨some (qs.map some)⟩

/-- What the branch assigns to the four variables. -/
def Assigned (qs : List Point) (k : Quad) : Prop :=
  choose (some (qs.map some)) 0 1 0 1 = .ok (some k.lt) ∧
    choose (some (qs.map some)) 0 1 1 0 = .ok (some k.rt) ∧
    choose (some (qs.map some)) 2 3 2 3 = .ok (some k.lb) ∧
    choose (some (qs.map some)) 2 3 3 2 = .ok (some k.rb)

/-- Four points of which the second and the third smallest `y` differ. -/
def Separated (qs : List Point) : Prop :=
  ∃ a b c d, qs.Perm [a, b, c, d] ∧ a.y ≤ b.y ∧ b.y < c.y ∧ c.y ≤ d.y

theorem setHazard_of_assigned {qs : List Point} {k : Quad} (h : Assigned qs k) :
    setHazard (request qs) = .ok (setCommand k.lt k.rt k.lb k.rb) := by
  obtain ⟨hlt, hrt, hlb, hrb⟩ := h
  simp only [setHazard, request, Option.bind_some, hlt, hrt, hlb, hrb, bind, Except.bind]

/-- The points in the order of `OrderBy`. -/
def sortedByY (qs : List Point) : List Point := qs.mergeSort fun p q => p.y ≤ q.y

theorem sortedByY_perm (qs : List Point) : (sortedByY qs).Perm qs := List.mergeSort_perm qs _

theorem sortedByY_pairwise (qs : List Point) : (sortedByY qs).Pairwise fun p q => p.y ≤ q.y := by
  have hsorted : (sortedByY qs).Pairwise fun p q => decide (p.y ≤ q.y) = true :=
    List.pairwise_mergeSort
      (fun p q r hpq hqr => decide_eq_true ((of_decide_eq_true hpq).trans (of_decide_eq_true hqr)))
      (fun p q => by simpa using le_total p.y q.y) qs
  exact hsorted.imp of_decide_eq_true

/-- The left and the right one of two points; of two points above each other the lower
one is the left. -/
def leftOf (p q : Point) : Point := if p.x < q.x then p else q
def rightOf (p q : Point) : Point := if p.x < q.x then q else p

theorem leftOf_rightOf_perm (p q : Point) : [leftOf p q, rightOf p q].Perm [p, q] := by
  unfold leftOf rightOf
  split_ifs
  · exact List.Perm.refl _
  · exact List.Perm.swap _ _ []

theorem leftOf_le_rightOf (p q : Point) : (leftOf p q).x ≤ (rightOf p q).x := by
  unfold leftOf rightOf
  split_ifs with h
  · exact h.le
  · exact not_lt.mp h

/-- The order of two points of the same height plays no part. -/
theorem leftOf_comm (p q : Point) (h : p.y = q.y) :
    leftOf p q = leftOf q p ∧ rightOf p q = rightOf q p := by
  unfold leftOf rightOf
  rcases lt_trichotomy p.x q.x with hlt | heq | hgt
  · simp [hlt, hlt.not_gt]
  · have hpq : p = q := by
      obtain ⟨px, py⟩ := p
      obtain ⟨qx, qy⟩ := q
      simp only [Point.mk.injEq]
      exact ⟨heq, h⟩
    simp [hpq]
  · simp [hgt, hgt.not_gt]

theorem leftOf_congr {p q p' q' : Point} (hperm : [p, q].Perm [p', q']) (h : p.y ≤ q.y)
    (h' : p'.y ≤ q'.y) : leftOf p q = leftOf p' q' ∧ rightOf p q = rightOf p' q' := by
  rcases List.perm_pair.mp hperm with heq | heq <;> cases heq
  · exact ⟨rfl, rfl⟩
  · exact leftOf_comm p q (le_antisymm h h')

def quadOf (p q r t : Point) : Quad := ⟨leftOf p q, rightOf p q, leftOf r t, rightOf r t⟩

theorem assigned_of_sorted {qs : List Point} {p q r t : Point} (h : sortedByY qs = [p, q, r, t]) :
    Assigned qs (quadOf p q r t) := by
  have hat : ∀ (k : Nat) (o : Point), [p, q, r, t][k]? = some o →
      skipFirst (qs.map some) k = .ok o := by
    intro k o ho
    rw [← h, sortedByY] at ho
    simp only [skipFirst, orderByY, (nonNull_eq_some_iff _ qs).mpr rfl, bind, Except.bind, ho]
  have hp := hat 0 p rfl
  have hq := hat 1 q rfl
  have hr := hat 2 r rfl
  have ht := hat 3 t rfl
  exact ⟨choose_ok _ hp hq hp hq, choose_ok _ hp hq hq hp, choose_ok _ hr ht hr ht,
    choose_ok _ hr ht ht hr⟩

/-- In a sorted list the points above a height come first. -/
theorem filter_append_filter (s : List Point) (hs : s.Pairwise fun p q => p.y ≤ q.y) (height : Rat) :
    s.filter (fun o => decide (o.y < height)) ++ s.filter (fun o => !decide (o.y < height)) = s := by
  induction s with
  | nil => rfl
  | cons p s ih =>
    obtain ⟨hp, hs⟩ := List.pairwise_cons.mp hs
    by_cases hlt : p.y < height
    · rw [List.filter_cons_of_pos (by simpa using hlt), List.filter_cons_of_neg (by simpa using hlt),
        List.cons_append, ih hs]
    · have hlater : ∀ o ∈ s, ¬ o.y < height := fun o ho h => hlt ((hp o ho).trans_lt h)
      have hnone : s.filter (fun o => decide (o.y < height)) = [] :=
        List.filter_eq_nil_iff.mpr fun o ho => by simpa using hlater o ho
      have hall : s.filter (fun o => !decide (o.y < height)) = s :=
        List.filter_eq_self.mpr fun o ho => by simpa using hlater o ho
      rw [List.filter_cons_of_neg (by simpa using hlt), List.filter_cons_of_pos (by simpa using hlt),
        hnone, hall, List.nil_append]

/-- The sort separates the two upper from the two lower points. -/
theorem sorted_split {a b c d : Point} {s : List Point} (hperm : s.Perm [a, b, c, d])
    (hsorted : s.Pairwise fun p q => p.y ≤ q.y) (hab : a.y ≤ b.y) (hbc : b.y < c.y)
    (hcd : c.y ≤ d.y) :
    ∃ p q r t, s = [p, q, r, t] ∧ [p, q].Perm [a, b] ∧ [r, t].Perm [c, d] ∧ p.y ≤ q.y ∧ r.y ≤ t.y := by
  have hupper := hperm.filter fun o => decide (o.y < c.y)
  have hlower := hperm.filter fun o => !decide (o.y < c.y)
  have hac : a.y < c.y := hab.trans_lt hbc
  simp only [List.filter_cons, List.filter_nil, hac, hbc, lt_irrefl, hcd.not_gt, decide_true,
    decide_false, if_true, Bool.not_true, Bool.not_false, Bool.false_eq_true, if_false] at hupper hlower
  obtain ⟨p, q, hpq⟩ := List.length_eq_two.mp hupper.length_eq
  obtain ⟨r, t, hrt⟩ := List.length_eq_two.mp hlower.length_eq
  have hs := filter_append_filter s hsorted c.y
  rw [hpq, hrt] at hs
  rw [hpq] at hupper
  rw [hrt] at hlower
  subst hs
  refine ⟨p, q, r, t, rfl, hupper, hlower, ?_, ?_⟩
  · exact (List.pairwise_cons.mp hsorted).1 q (by simp)
  · exact (List.pairwise_cons.mp (List.pairwise_append.mp hsorted).2.1).1 t (by simp)

/-- The variables are set, from the two upper and the two lower points. -/
theorem assigned_of_perm {qs : List Point} {a b c d : Point} (hperm : qs.Perm [a, b, c, d])
    (hab : a.y ≤ b.y) (hbc : b.y < c.y) (hcd : c.y ≤ d.y) :
    Assigned qs (quadOf a b c d) := by
  obtain ⟨p, q, r, t, hs, hupper, hlower, hpq, hrt⟩ :=
    sorted_split ((sortedByY_perm qs).trans hperm) (sortedByY_pairwise qs) hab hbc hcd
  obtain ⟨hlt, hright⟩ := leftOf_congr hupper hpq hab
  obtain ⟨hlb, hrb⟩ := leftOf_congr hlower hrt hcd
  have hassigned := assigned_of_sorted hs
  rwa [quadOf, hlt, hright, hlb, hrb] at hassigned

theorem assigned_in_order (a b c d : Point) (hab : a.y ≤ b.y) (hbc : b.y < c.y) (hcd : c.y ≤ d.y) :
    Assigned [a, b, c, d] (quadOf a b c d) :=
  assigned_of_perm (List.Perm.refl _) hab hbc hcd

/-- The upper corners lie above the lower ones. -/
theorem quadOf_heights {a b c d : Point} (hab : a.y ≤ b.y) (hbc : b.y < c.y) (hcd : c.y ≤ d.y) :
    ∀ u ∈ [(quadOf a b c d).lt, (quadOf a b c d).rt],
      ∀ l ∈ [(quadOf a b c d).lb, (quadOf a b c d).rb], u.y < l.y := by
  intro u hu l hl
  replace hu : u ∈ [a, b] := (leftOf_rightOf_perm a b).mem_iff.mp hu
  replace hl : l ∈ [c, d] := (leftOf_rightOf_perm c d).mem_iff.mp hl
  simp only [List.mem_cons, List.not_mem_nil, or_false] at hu hl
  rcases hu with rfl | rfl <;> rcases hl with rfl | rfl <;> linarith

/-- Separated points have corners, which are the same in every order of the points. -/
theorem exists_corners {qs : List Point} (hsep : Separated qs) :
    ∃ k : Quad, (∀ qs', qs.Perm qs' → Assigned qs' k) ∧ qs.Perm [k.lt, k.rt, k.lb, k.rb] ∧
      (∀ u ∈ [k.lt, k.rt], ∀ l ∈ [k.lb, k.rb], u.y < l.y) ∧
      k.lt.x ≤ k.rt.x ∧ k.lb.x ≤ k.rb.x := by
  obtain ⟨a, b, c, d, hqs, hab, hbc, hcd⟩ := hsep
  refine ⟨quadOf a b c d, fun qs' hperm => ?_, ?_, quadOf_heights hab hbc hcd,
    leftOf_le_rightOf a b, leftOf_le_rightOf c d⟩
  · exact assigned_of_perm (hperm.symm.trans hqs) hab hbc hcd
  · exact hqs.trans ((leftOf_rightOf_perm a b).append (leftOf_rightOf_perm c d)).symm

/-- The corners and the command do not depend on the order of the clicks. -/
theorem setHazard_perm (qs qs' : List Point) (hperm : qs.Perm qs') (hsep : Separated qs) :
    ∃ k command, Assigned qs k ∧ Assigned qs' k ∧
      qs.Perm [k.lt, k.rt, k.lb, k.rb] ∧
      (∀ u ∈ [k.lt, k.rt], ∀ l ∈ [k.lb, k.rb], u.y < l.y) ∧
      k.lt.x ≤ k.rt.x ∧ k.lb.x ≤ k.rb.x ∧
      setHazard (request qs) = .ok command ∧ setHazard (request qs') = .ok command := by
  obtain ⟨k, hassigned, hcorners, hheights, htop, hbottom⟩ := exists_corners hsep
  have hqs := hassigned qs (List.Perm.refl qs)
  have hqs' := hassigned qs' hperm
  exact ⟨k, _, hqs, hqs', hcorners, hheights, htop, hbottom, setHazard_of_assigned hqs,
    setHazard_of_assigned hqs'⟩

theorem separated_trapezium :
    Separated [⟨1 / 4, 1 / 4⟩, ⟨3 / 4, 1 / 4⟩, ⟨1 / 8, 3 / 4⟩, ⟨7 / 8, 3 / 4⟩] :=
  ⟨_, _, _, _, List.Perm.refl _, by norm_num, by norm_num, by norm_num⟩

/-- Four clicks, in two orders. -/
theorem setHazard_perm_clicks :
    let qs : List Point := [⟨1 / 4, 1 / 4⟩, ⟨3 / 4, 1 / 4⟩, ⟨1 / 8, 3 / 4⟩, ⟨7 / 8, 3 / 4⟩]
    ∃ k command, Assigned qs k ∧ Assigned qs.reverse k ∧
      qs.Perm [k.lt, k.rt, k.lb, k.rb] ∧
      (∀ u ∈ [k.lt, k.rt], ∀ l ∈ [k.lb, k.rb], u.y < l.y) ∧
      k.lt.x ≤ k.rt.x ∧ k.lb.x ≤ k.rb.x ∧
      setHazard (request qs) = .ok command ∧ setHazard (request qs.reverse) = .ok command :=
  setHazard_perm _ _ (List.reverse_perm _).symm separated_trapezium

/-! ## The intercepts -/

/-- The four values before they are clamped. -/
structure Intercepts where
  ltp : Rat
  lbp : Rat
  rtp : Rat
  rbp : Rat
  deriving DecidableEq, Repr

def Quad.intercepts (k : Quad) : Intercepts :=
  let dlt := (k.lt.y - k.lb.y) / (k.lt.x - k.lb.x)
  let drt := (k.rt.y - k.rb.y) / (k.rt.x - k.rb.x)
  { ltp := k.lt.x + k.lt.y / dlt
    lbp := k.lb.x + (1 - k.lb.y) / dlt
    rtp := k.rt.x + k.rt.y / drt
    rbp := k.rt.x + (1 - k.rt.y) / drt }

def Intercepts.command (i : Intercepts) : Command :=
  .set (if i.ltp < 0 then 0 else i.ltp) (if i.lbp < 0 then 0 else i.lbp)
    (if i.rtp > 1 then 1 else i.rtp) (if i.rbp > 1 then 1 else i.rbp)

theorem setCommand_eq (k : Quad) : setCommand k.lt k.rt k.lb k.rb = k.intercepts.command := rfl

/-- The point `(x, y)` is on the line through `a` and `b`. -/
def OnLine (a b : Point) (x y : Rat) : Prop := (x - a.x) * (b.y - a.y) = (y - a.y) * (b.x - a.x)

/-- The slope of a line that is not horizontal, used to go from one height to another. -/
theorem onLine_iff (a b : Point) (h : a.y ≠ b.y) (x y : Rat) :
    OnLine a b x y ↔ x = a.x + (y - a.y) / ((a.y - b.y) / (a.x - b.x)) := by
  have hy : a.y - b.y ≠ 0 := sub_ne_zero.mpr h
  rw [OnLine, div_div_eq_mul_div, ← sub_eq_iff_eq_add', eq_div_iff hy]
  constructor <;> intro h <;> linarith

theorem onLine_swap (a b : Point) (x y : Rat) : OnLine a b x y ↔ OnLine b a x y := by
  unfold OnLine
  constructor <;> intro h <;> linarith

/-- The value with the wrong sign is on the line only where the sign does not matter. -/
theorem onLine_top_iff (a b : Point) (h : a.y ≠ b.y) :
    OnLine a b (a.x + a.y / ((a.y - b.y) / (a.x - b.x))) 0 ↔ a.y = 0 ∨ a.x = b.x := by
  have hy : a.y - b.y ≠ 0 := sub_ne_zero.mpr h
  have hx : a.x - b.x = 0 ↔ a.x = b.x := sub_eq_zero
  rw [onLine_iff a b h, add_right_inj, div_div_eq_mul_div, div_div_eq_mul_div, div_left_inj' hy, zero_sub,
    neg_mul, self_eq_neg, mul_eq_zero, hx]

/-- The intercepts are those of the two lines exactly if each of them is upright or
starts at the upper edge. -/
theorem setHazard_intercepts_iff (qs : List Point) (hsep : Separated qs) :
    ∃ k, Assigned qs k ∧ setHazard (request qs) = .ok k.intercepts.command ∧
      ((OnLine k.lt k.lb k.intercepts.ltp 0 ∧ OnLine k.lt k.lb k.intercepts.lbp 1 ∧
        OnLine k.rt k.rb k.intercepts.rtp 0 ∧ OnLine k.rt k.rb k.intercepts.rbp 1) ↔
          (k.lt.y = 0 ∨ k.lt.x = k.lb.x) ∧ (k.rt.y = 0 ∨ k.rt.x = k.rb.x)) := by
  obtain ⟨k, hperm, -, hheights, -, -⟩ := exists_corners hsep
  have hassigned := hperm qs (List.Perm.refl qs)
  refine ⟨k, hassigned, setHazard_of_assigned hassigned, ?_⟩
  have hleft : k.lt.y ≠ k.lb.y := (hheights k.lt (by simp) k.lb (by simp)).ne
  have hright : k.rt.y ≠ k.rb.y := (hheights k.rt (by simp) k.rb (by simp)).ne
  have hlbp : OnLine k.lt k.lb k.intercepts.lbp 1 := by
    rw [onLine_swap, onLine_iff _ _ hleft.symm, Quad.intercepts, ← neg_sub k.lt.y, ← neg_sub k.lt.x,
      neg_div_neg_eq]
  have hrbp : OnLine k.rt k.rb k.intercepts.rbp 1 := (onLine_iff _ _ hright _ _).mpr rfl
  have hltp := onLine_top_iff k.lt k.lb hleft
  have hrtp := onLine_top_iff k.rt k.rb hright
  rw [← hltp, ← hrtp]
  exact ⟨fun h => ⟨h.1, h.2.2.1⟩, fun h => ⟨h.1, hlbp, h.2, hrbp⟩⟩

theorem setHazard_intercepts_trapezium :
    let qs : List Point := [⟨1 / 4, 1 / 4⟩, ⟨3 / 4, 1 / 4⟩, ⟨1 / 8, 3 / 4⟩, ⟨7 / 8, 3 / 4⟩]
    ∃ k, Assigned qs k ∧ setHazard (request qs) = .ok k.intercepts.command ∧
      ((OnLine k.lt k.lb k.intercepts.ltp 0 ∧ OnLine k.lt k.lb k.intercepts.lbp 1 ∧
        OnLine k.rt k.rb k.intercepts.rtp 0 ∧ OnLine k.rt k.rb k.intercepts.rbp 1) ↔
          (k.lt.y = 0 ∨ k.lt.x = k.lb.x) ∧ (k.rt.y = 0 ∨ k.rt.x = k.rb.x)) :=
  setHazard_intercepts_iff _ separated_trapezium

/-- The left edge of a trapezium goes to the right at the top, and is taken to go to the
left. -/
theorem trapezium_wrong_side :
    let qs : List Point := [⟨1 / 4, 1 / 4⟩, ⟨3 / 4, 1 / 4⟩, ⟨1 / 8, 3 / 4⟩, ⟨7 / 8, 3 / 4⟩]
    let k : Quad := ⟨⟨1 / 4, 1 / 4⟩, ⟨3 / 4, 1 / 4⟩, ⟨1 / 8, 3 / 4⟩, ⟨7 / 8, 3 / 4⟩⟩
    Separated qs ∧ Assigned qs k ∧ k.intercepts.ltp = 3 / 16 ∧
      ¬ OnLine k.lt k.lb k.intercepts.ltp 0 ∧ OnLine k.lt k.lb (5 / 16) 0 := by
  refine ⟨separated_trapezium, ?_, by decide +kernel, ?_, ?_⟩
  · have hassigned := assigned_in_order ⟨1 / 4, 1 / 4⟩ ⟨3 / 4, 1 / 4⟩ ⟨1 / 8, 3 / 4⟩ ⟨7 / 8, 3 / 4⟩
      (by norm_num) (by norm_num) (by norm_num)
    have hquad : quadOf ⟨1 / 4, 1 / 4⟩ ⟨3 / 4, 1 / 4⟩ ⟨1 / 8, 3 / 4⟩ ⟨7 / 8, 3 / 4⟩ =
        ⟨⟨1 / 4, 1 / 4⟩, ⟨3 / 4, 1 / 4⟩, ⟨1 / 8, 3 / 4⟩, ⟨7 / 8, 3 / 4⟩⟩ := by
      decide +kernel
    rwa [hquad] at hassigned
  · unfold OnLine
    decide +kernel
  · unfold OnLine
    decide +kernel

/-! ## The command -/

theorem intercepts_eq (k : Quad) :
    k.intercepts =
      { ltp := k.lt.x + k.lt.y * (k.lt.x - k.lb.x) / (k.lt.y - k.lb.y)
        lbp := k.lb.x + (1 - k.lb.y) * (k.lt.x - k.lb.x) / (k.lt.y - k.lb.y)
        rtp := k.rt.x + k.rt.y * (k.rt.x - k.rb.x) / (k.rt.y - k.rb.y)
        rbp := k.rt.x + (1 - k.rt.y) * (k.rt.x - k.rb.x) / (k.rt.y - k.rb.y) } := by
  simp only [Quad.intercepts, div_div_eq_mul_div]

/-- A value from 0 to 1, in four characters. -/
def UnitText (v : Rat) : Prop := 0 ≤ v ∧ v ≤ 1 ∧ (fixed2 v).length = 4

theorem unitText_iff (v : Rat) : UnitText v ↔ 0 ≤ v ∧ v ≤ 1 :=
  ⟨fun h => ⟨h.1, h.2.1⟩, fun h => ⟨h.1, h.2, length_fixed2_unit v h.1 h.2⟩⟩

/-- The two ends at one edge of the frame, each clamped on one side only. -/
theorem clamped_iff (a c : Rat) :
    UnitText (if a < 0 then 0 else a) ∧ UnitText (if c > 1 then 1 else c) ∧
        (if a < 0 then 0 else a) ≤ (if c > 1 then 1 else c) ↔
      a ≤ 1 ∧ 0 ≤ c ∧ a ≤ c := by
  rw [unitText_iff, unitText_iff]
  split_ifs with ha hc hc
  · exact ⟨fun _ => ⟨by linarith, by linarith, by linarith⟩, fun _ => by norm_num⟩
  · exact ⟨fun h => ⟨by linarith, h.2.1.1, by linarith⟩,
      fun h => ⟨by norm_num, ⟨h.2.1, not_lt.mp hc⟩, h.2.1⟩⟩
  · exact ⟨fun h => ⟨h.1.2, by linarith, by linarith⟩,
      fun h => ⟨⟨not_lt.mp ha, h.1⟩, by norm_num, h.1⟩⟩
  · exact ⟨fun h => ⟨h.1.2, h.2.1.1, h.2.2⟩,
      fun h => ⟨⟨not_lt.mp ha, h.1⟩, ⟨h.2.1, not_lt.mp hc⟩, h.2.2⟩⟩

theorem command_wellFormed_iff (i : Intercepts) :
    ∃ ltp lbp rtp rbp, i.command = .set ltp lbp rtp rbp ∧
      ((UnitText ltp ∧ UnitText lbp ∧ UnitText rtp ∧ UnitText rbp ∧ ltp ≤ rtp ∧ lbp ≤ rbp) ↔
        (i.ltp ≤ 1 ∧ 0 ≤ i.rtp ∧ i.ltp ≤ i.rtp) ∧ (i.lbp ≤ 1 ∧ 0 ≤ i.rbp ∧ i.lbp ≤ i.rbp)) := by
  refine ⟨_, _, _, _, rfl, ?_⟩
  rw [← clamped_iff, ← clamped_iff]
  constructor
  · rintro ⟨hltp, hlbp, hrtp, hrbp, htop, hbottom⟩
    exact ⟨⟨hltp, hrtp, htop⟩, hlbp, hrbp, hbottom⟩
  · rintro ⟨⟨hltp, hrtp, htop⟩, hlbp, hrbp, hbottom⟩
    exact ⟨hltp, hlbp, hrtp, hrbp, htop, hbottom⟩

/-- The strip that is sent is well formed exactly if, at the upper and at the lower edge,
the left value is at most 1, the right one at least 0 and not left of it. -/
theorem setHazard_wellFormed_iff (qs : List Point) (hsep : Separated qs) :
    ∃ k ltp lbp rtp rbp, Assigned qs k ∧ setHazard (request qs) = .ok (.set ltp lbp rtp rbp) ∧
      ((UnitText ltp ∧ UnitText lbp ∧ UnitText rtp ∧ UnitText rbp ∧ ltp ≤ rtp ∧ lbp ≤ rbp) ↔
        let leftTop := k.lt.x + k.lt.y * (k.lt.x - k.lb.x) / (k.lt.y - k.lb.y)
        let rightTop := k.rt.x + k.rt.y * (k.rt.x - k.rb.x) / (k.rt.y - k.rb.y)
        let leftBottom := k.lb.x + (1 - k.lb.y) * (k.lt.x - k.lb.x) / (k.lt.y - k.lb.y)
        let rightBottom := k.rt.x + (1 - k.rt.y) * (k.rt.x - k.rb.x) / (k.rt.y - k.rb.y)
        (leftTop ≤ 1 ∧ 0 ≤ rightTop ∧ leftTop ≤ rightTop) ∧
          (leftBottom ≤ 1 ∧ 0 ≤ rightBottom ∧ leftBottom ≤ rightBottom)) := by
  obtain ⟨k, hperm, -⟩ := exists_corners hsep
  have hassigned := hperm qs (List.Perm.refl qs)
  obtain ⟨ltp, lbp, rtp, rbp, hcommand, hiff⟩ := command_wellFormed_iff k.intercepts
  refine ⟨k, ltp, lbp, rtp, rbp, hassigned, ?_, ?_⟩
  · rw [setHazard_of_assigned hassigned, setCommand_eq, hcommand]
  · rwa [intercepts_eq] at hiff

/-- The clicks of a trapezium. -/
theorem setHazard_wellFormed_trapezium :
    let qs : List Point := [⟨1 / 4, 1 / 4⟩, ⟨3 / 4, 1 / 4⟩, ⟨1 / 8, 3 / 4⟩, ⟨7 / 8, 3 / 4⟩]
    ∃ k ltp lbp rtp rbp, Assigned qs k ∧ setHazard (request qs) = .ok (.set ltp lbp rtp rbp) ∧
      ((UnitText ltp ∧ UnitText lbp ∧ UnitText rtp ∧ UnitText rbp ∧ ltp ≤ rtp ∧ lbp ≤ rbp) ↔
        let leftTop := k.lt.x + k.lt.y * (k.lt.x - k.lb.x) / (k.lt.y - k.lb.y)
        let rightTop := k.rt.x + k.rt.y * (k.rt.x - k.rb.x) / (k.rt.y - k.rb.y)
        let leftBottom := k.lb.x + (1 - k.lb.y) * (k.lt.x - k.lb.x) / (k.lt.y - k.lb.y)
        let rightBottom := k.rt.x + (1 - k.rt.y) * (k.rt.x - k.rb.x) / (k.rt.y - k.rb.y)
        (leftTop ≤ 1 ∧ 0 ≤ rightTop ∧ leftTop ≤ rightTop) ∧
          (leftBottom ≤ 1 ∧ 0 ≤ rightBottom ∧ leftBottom ≤ rightBottom)) :=
  setHazard_wellFormed_iff _ separated_trapezium

/-- A left edge that leans to the right is sent beyond the right end of the frame. -/
theorem leaning_edge_beyond_frame :
    let qs : List Point := [⟨1 / 5, 4 / 5⟩, ⟨9 / 10, 4 / 5⟩, ⟨3 / 5, 1⟩, ⟨9 / 10, 1⟩]
    (∀ p ∈ qs, 0 ≤ p.x ∧ p.x ≤ 1 ∧ 0 ≤ p.y ∧ p.y ≤ 1) ∧ Separated qs ∧
      setHazard (request qs) = .ok (.set (9 / 5) (3 / 5) (9 / 10) (9 / 10)) ∧
      ¬ UnitText (9 / 5) ∧ ¬ (9 / 5 : Rat) ≤ 9 / 10 := by
  have hab : (4 / 5 : Rat) ≤ 4 / 5 := le_rfl
  have hbc : (4 / 5 : Rat) < 1 := by norm_num
  have hcd : (1 : Rat) ≤ 1 := le_rfl
  have hassigned := assigned_in_order ⟨1 / 5, 4 / 5⟩ ⟨9 / 10, 4 / 5⟩ ⟨3 / 5, 1⟩ ⟨9 / 10, 1⟩ hab hbc hcd
  refine ⟨by decide +kernel, ⟨_, _, _, _, List.Perm.refl _, hab, hbc, hcd⟩, ?_, ?_, by norm_num⟩
  · rw [setHazard_of_assigned hassigned]
    decide +kernel
  · rw [unitText_iff]
    norm_num

end Sprefence.WebServer

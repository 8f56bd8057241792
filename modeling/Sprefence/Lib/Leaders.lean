import Mathlib.Data.List.Basic
import Mathlib.Tactic.Common

/-! Greedy grouping. The first element of a list leads a round: what is near it
forms its group, and the rest goes on to the next round. The process stops when
nothing is left, and also after a round that takes nothing away. -/

namespace Leaders

variable {α β : Type*}

structure Round (α : Type*) where
  leader : α
  group : List α
  deriving DecidableEq

def Round.map (f : α → β) (r : Round α) : Round β := ⟨f r.leader, r.group.map f⟩

/-- The rounds, at most `fuel` of them. -/
def rounds (near : α → α → Bool) : Nat → List α → Option (List (Round α))
  | _, [] => some []
  | 0, _ :: _ => none
  | fuel + 1, a :: l =>
    let group := (a :: l).filter fun b => near b a
    let rest := (a :: l).filter fun b => !near b a
    if rest.length = (a :: l).length then some [⟨a, group⟩]
    else (rounds near fuel rest).map (⟨a, group⟩ :: ·)

/-- What is kept when the list is gone through and an element near a kept one is
dropped. -/
def survivorsFrom (near : α → α → Bool) (kept : List α) (l : List α) : List α :=
  l.foldl (fun kept b => if kept.any (near b) then kept else kept ++ [b]) kept

def survivors (near : α → α → Bool) (l : List α) : List α := survivorsFrom near [] l

/-- The elements of the list that lie behind the first one that is not near itself
are all near a survivor in front of it. -/
def NothingLost (near : α → α → Bool) (l : List α) : Prop :=
  ∀ b ∈ (l.dropWhile fun a => near a a).tail,
    ∃ s ∈ survivors near (l.takeWhile fun a => near a a), near b s = true

variable {near : α → α → Bool}

/-- As many rounds as there are elements are enough. -/
theorem exists_rounds (l : List α) (fuel : Nat) (h : l.length ≤ fuel) :
    ∃ rs, rounds near fuel l = some rs := by
  induction fuel generalizing l with
  | zero =>
    have hnil : l = [] := List.eq_nil_of_length_eq_zero (by omega)
    exact ⟨[], by rw [hnil, rounds]⟩
  | succ fuel ih =>
    cases l with
    | nil => exact ⟨[], by rw [rounds]⟩
    | cons a l =>
      rw [rounds]
      split_ifs with hlen
      · exact ⟨_, rfl⟩
      · have hle := List.length_filter_le (fun b => !near b a) (a :: l)
        simp only [List.length_cons] at h hlen hle
        obtain ⟨rs, hrs⟩ := ih ((a :: l).filter fun b => !near b a) (by omega)
        exact ⟨_, by rw [hrs]; rfl⟩

/-- The first round. -/
theorem rounds_head {fuel : Nat} {a : α} {l : List α} {rs : List (Round α)}
    (h : rounds near fuel (a :: l) = some rs) :
    ∃ rest, rs = ⟨a, (a :: l).filter fun b => near b a⟩ :: rest := by
  cases fuel with
  | zero => cases h
  | succ fuel =>
    rw [rounds] at h
    split_ifs at h with hlen
    · exact ⟨[], (Option.some.inj h).symm⟩
    · obtain ⟨rest, -, rfl⟩ := Option.map_eq_some_iff.mp h
      exact ⟨rest, rfl⟩

/-- The rounds of a list that is mapped. -/
theorem rounds_map (f : β → α) (fuel : Nat) (l : List β) :
    rounds near fuel (l.map f) =
      (rounds (fun a b => near (f a) (f b)) fuel l).map (List.map (Round.map f)) := by
  induction fuel generalizing l with
  | zero => cases l <;> rfl
  | succ fuel ih =>
    cases l with
    | nil => rfl
    | cons a l =>
      have hfilter : ∀ p : α → Bool, ((a :: l).map f).filter p =
          ((a :: l).filter fun b => p (f b)).map f := fun p => List.filter_map
      simp only [List.map_cons] at hfilter
      simp only [List.map_cons, rounds, hfilter, List.length_map, List.length_cons, ih]
      split_ifs
      · rfl
      · rw [Option.map_map, Option.map_map]
        rfl

section Near

/-- An element that something is near to is near itself. -/
def SelfNear (near : α → α → Bool) : Prop := ∀ a b, near b a = true → near a a = true

variable (hself : SelfNear near)
include hself

/-- The rule of the process: a statement about the list and its rounds holds if it
holds for the empty list, for a leader that is not near itself, which is the last,
and for a leader that is, given the statement for what it leaves. -/
theorem rounds_rule {P : List α → List (Round α) → Prop} (nil : P [] [])
    (stop : ∀ a l, (∀ b ∈ a :: l, near b a = false) → P (a :: l) [⟨a, []⟩])
    (next : ∀ a l rs, near a a = true → P (l.filter fun b => !near b a) rs →
      P (a :: l) (⟨a, a :: l.filter fun b => near b a⟩ :: rs))
    (fuel : Nat) (l : List α) (rs : List (Round α)) (h : rounds near fuel l = some rs) : P l rs := by
  induction fuel generalizing l rs with
  | zero =>
    cases l with
    | nil => cases h; exact nil
    | cons a l => cases h
  | succ fuel ih =>
    cases l with
    | nil => cases h; exact nil
    | cons a l =>
      rw [rounds] at h
      by_cases ha : near a a = true
      · have hrest : (a :: l).filter (fun b => !near b a) = l.filter fun b => !near b a := by
          simp [ha]
        have hgroup : (a :: l).filter (fun b => near b a) = a :: l.filter fun b => near b a := by
          simp [ha]
        have hlen : (l.filter fun b => !near b a).length ≠ (a :: l).length := by
          have := List.length_filter_le (fun b => !near b a) l
          simp only [List.length_cons]
          omega
        rw [hrest, hgroup, if_neg hlen, Option.map_eq_some_iff] at h
        obtain ⟨rs', hrs', rfl⟩ := h
        exact next a l rs' ha (ih _ _ hrs')
      · have hnone : ∀ b ∈ a :: l, near b a = false := fun b _ =>
          Bool.eq_false_iff.mpr fun hb => ha (hself a b hb)
        have hrest : (a :: l).filter (fun b => !near b a) = a :: l :=
          List.filter_eq_self.mpr fun b hb => by rw [hnone b hb]; rfl
        have hgroup : (a :: l).filter (fun b => near b a) = [] :=
          List.filter_eq_nil_iff.mpr fun b hb => by rw [hnone b hb]; exact Bool.false_ne_true
        rw [hrest, hgroup, if_pos rfl] at h
        cases h
        exact stop a l hnone

variable {fuel : Nat} {l : List α} {rs : List (Round α)}

/-- The leaders are taken from the list in its order, and a later one is not near an
earlier one. -/
theorem leaders_spec (h : rounds near fuel l = some rs) :
    (rs.map Round.leader).Sublist l ∧
      (rs.map Round.leader).Pairwise fun a b => near b a = false := by
  refine rounds_rule hself (P := fun l rs => (rs.map Round.leader).Sublist l ∧
    (rs.map Round.leader).Pairwise fun a b => near b a = false) ?_ ?_ ?_ fuel l rs h
  · exact ⟨List.Sublist.slnil, List.Pairwise.nil⟩
  · intro a l _
    exact ⟨(List.nil_sublist l).cons_cons a, List.pairwise_singleton _ a⟩
  · rintro a l rs - ⟨hsub, hpair⟩
    refine ⟨(hsub.trans List.filter_sublist).cons_cons a, hpair.cons fun b hb => ?_⟩
    have hkept := (List.mem_filter.mp (hsub.subset hb)).2
    simpa using hkept

theorem leaders_head (h : rounds near fuel l = some rs) :
    (rs.map Round.leader).head? = l.head? :=
  rounds_rule hself (P := fun l rs => (rs.map Round.leader).head? = l.head?) rfl
    (fun _ _ _ => rfl) (fun _ _ _ _ _ => rfl) fuel l rs h

/-- The members of a group come from the list and are near the leader, who is one of
them unless not near itself. -/
theorem mem_group (h : rounds near fuel l = some rs) (r : Round α) (hr : r ∈ rs) :
    (∀ b ∈ r.group, b ∈ l ∧ near b r.leader = true) ∧
      (near r.leader r.leader = true → r.leader ∈ r.group) := by
  revert r
  refine rounds_rule hself (P := fun l rs => ∀ r ∈ rs, (∀ b ∈ r.group, b ∈ l ∧
    near b r.leader = true) ∧ (near r.leader r.leader = true → r.leader ∈ r.group)) ?_ ?_ ?_ fuel l rs h
  · exact fun r hr => nomatch hr
  · intro a l hnone r hr
    rw [List.mem_singleton.mp hr]
    refine ⟨fun b hb => (nomatch hb), fun ha => ?_⟩
    rw [hnone a List.mem_cons_self] at ha
    cases ha
  · intro a l rs ha ih r hr
    rcases List.mem_cons.mp hr with rfl | hr
    · refine ⟨fun b hb => ?_, fun _ => List.mem_cons_self⟩
      rcases List.mem_cons.mp hb with rfl | hb
      · exact ⟨List.mem_cons_self, ha⟩
      · exact ⟨List.mem_cons_of_mem _ (List.mem_of_mem_filter hb), (List.mem_filter.mp hb).2⟩
    · obtain ⟨hgroup, hleader⟩ := ih r hr
      refine ⟨fun b hb => ⟨?_, (hgroup b hb).2⟩, hleader⟩
      exact List.mem_cons_of_mem _ (List.mem_of_mem_filter (hgroup b hb).1)

end Near

/-! ## Survivors -/

theorem survivorsFrom_eq (kept l : List α) :
    survivorsFrom near kept l =
      kept ++ survivors near (l.filter fun b => !kept.any (near b)) := by
  induction h : l.length using Nat.strongRecOn generalizing kept l with
  | ind n ih =>
    cases l with
    | nil => simp [survivorsFrom, survivors]
    | cons b l =>
      subst h
      by_cases hb : kept.any (near b) = true
      · have hstep : survivorsFrom near kept (b :: l) = survivorsFrom near kept l := by
          simp only [survivorsFrom, List.foldl_cons, hb, if_true]
        rw [hstep, ih l.length (by simp) kept l rfl, List.filter_cons_of_neg (by simp [hb])]
      · have hstep : survivorsFrom near kept (b :: l) = survivorsFrom near (kept ++ [b]) l := by
          simp only [survivorsFrom, List.foldl_cons, if_neg hb]
        have hone : ∀ l' : List α, survivors near (b :: l') = survivorsFrom near [b] l' :=
          fun l' => rfl
        have hlen := List.length_filter_le (fun c => !kept.any (near c)) l
        rw [hstep, ih l.length (by simp) (kept ++ [b]) l rfl,
          List.filter_cons_of_pos (by simp [hb]), hone, ih _ (by simp; omega) [b] _ rfl,
          List.filter_filter, List.append_assoc]
        simp [Bool.and_comm]

/-- The first element survives, and then what is not near it. -/
theorem survivors_cons (a : α) (l : List α) :
    survivors near (a :: l) = a :: survivors near (l.filter fun b => !near b a) := by
  have hone : survivors near (a :: l) = survivorsFrom near [a] l := rfl
  rw [hone, survivorsFrom_eq]
  simp

/-- A filter that keeps every element without the property commutes with cutting the
list at the first of them. -/
theorem cut_filter (p q : α → Bool) (h : ∀ a, p a = false → q a = true) (l : List α) :
    (l.filter q).takeWhile p = (l.takeWhile p).filter q ∧
      ((l.filter q).dropWhile p).tail = (l.dropWhile p).tail.filter q := by
  induction l with
  | nil => exact ⟨rfl, rfl⟩
  | cons a l ih =>
    cases hp : p a with
    | false => simp [h a hp, hp]
    | true => cases hq : q a <;> simp [hp, hq, ih]

/-- A leader that is near itself loses nothing. -/
theorem nothingLost_cons (hself : SelfNear near) (hsymm : ∀ a b, near a b = near b a) (a : α)
    (ha : near a a = true) (l : List α) :
    NothingLost near (a :: l) ↔ NothingLost near (l.filter fun b => !near b a) := by
  have hproper : ∀ b, near b b = false → (!near b a) = true := by
    intro b hb
    by_contra hba
    have hab : near a b = true := by rw [hsymm]; simpa using hba
    rw [hself b a hab] at hb
    cases hb
  obtain ⟨htake, hdrop⟩ := cut_filter (fun b => near b b) (fun b => !near b a) hproper l
  unfold NothingLost
  rw [htake, hdrop, List.takeWhile_cons_of_pos (p := fun b => near b b) ha,
    List.dropWhile_cons_of_pos (p := fun b => near b b) ha, survivors_cons]
  simp only [List.mem_cons, exists_eq_or_imp, List.mem_filter, and_imp]
  refine forall₂_congr fun b _ => ?_
  cases near b a with
  | true => simp
  | false => simp

/-- Every element of the list is a leader or near one in front of it exactly if
nothing is lost behind the first element that is not near itself. The relation says
what holds between an element and a later one. -/
theorem covered_iff_nothingLost (hself : SelfNear near)
    (hsymm : ∀ a b, near a b = near b a) {R : α → α → Prop} {fuel : Nat} {l : List α}
    {rs : List (Round α)} (h : rounds near fuel l = some rs) (hl : l.Nodup) (hR : l.Pairwise R) :
    (∀ b ∈ l, b ∈ rs.map Round.leader ∨ ∃ s ∈ rs.map Round.leader, R s b ∧ near b s = true) ↔
      NothingLost near l := by
  revert hl hR
  refine rounds_rule hself (P := fun l rs => l.Nodup → l.Pairwise R →
    ((∀ b ∈ l, b ∈ rs.map Round.leader ∨
      ∃ s ∈ rs.map Round.leader, R s b ∧ near b s = true) ↔ NothingLost near l)) ?_ ?_ ?_ fuel l rs h
  · intro _ _
    exact iff_of_true (fun b hb => nomatch hb) (fun b hb => nomatch hb)
  · -- the leader is the first element that is not near itself
    intro a l hnone hl _
    have ha := hnone a List.mem_cons_self
    have hlost : NothingLost near (a :: l) ↔ l = [] := by
      simp [NothingLost, ha, survivors, survivorsFrom, List.eq_nil_iff_forall_not_mem]
    rw [hlost]
    constructor
    · intro hcov
      refine List.eq_nil_iff_forall_not_mem.mpr fun b hb => ?_
      have hne : b ≠ a := fun hba => (List.nodup_cons.mp hl).1 (hba ▸ hb)
      simpa [hne, hnone b (List.mem_cons_of_mem a hb)] using hcov b (List.mem_cons_of_mem a hb)
    · rintro rfl
      simp
  · intro a l rs ha ih hl hR
    obtain ⟨hRa, hR⟩ := List.pairwise_cons.mp hR
    rw [nothingLost_cons hself hsymm a ha l,
      ← ih ((List.nodup_cons.mp hl).2.filter _) (hR.filter _)]
    simp only [List.map_cons, List.mem_cons, exists_eq_or_imp, List.mem_filter, and_imp,
      forall_eq_or_imp]
    constructor
    · rintro ⟨-, hcov⟩ b hb hba
      have hba' : near b a = false := by simpa using hba
      rcases hcov b hb with (rfl | hlead) | ⟨-, hnear⟩ | hnear
      · exact absurd (hba'.symm.trans ha) Bool.false_ne_true
      · exact .inl hlead
      · exact absurd (hba'.symm.trans hnear) Bool.false_ne_true
      · exact .inr hnear
    · intro hcov
      refine ⟨.inl (.inl trivial), fun b hb => ?_⟩
      cases hba : near b a with
      | true => exact .inr (.inl ⟨hRa b hb, rfl⟩)
      | false =>
        rcases hcov b hb (by rw [hba]; rfl) with hlead | hnear
        · exact .inl (.inr hlead)
        · exact .inr (.inr hnear)

end Leaders

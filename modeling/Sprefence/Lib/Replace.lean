import Mathlib.Data.List.Infix
import Mathlib.Data.List.TakeWhile
import Mathlib.Tactic.Common

/-! Replacing every occurrence of a part of a list, from left to right and without
overlaps, and lists that are put together with a separator in front of each part. -/

namespace Replace

variable {α : Type*}

section Code

variable [DecidableEq α] (old new : List α)

/-- The scan with `skip` entries of an occurrence still to be left out. -/
def replaceFrom : Nat → List α → List α
  | _, [] => []
  | skip + 1, _ :: s => replaceFrom skip s
  | 0, c :: s =>
    if old <+: c :: s then new ++ replaceFrom (old.length - 1) s else c :: replaceFrom 0 s

def replaceAll (s : List α) : List α := replaceFrom old new 0 s

end Code

/-- The parts, each behind a separator. -/
def joined (sep : α) (parts : List (List α)) : List α := parts.flatMap (sep :: ·)

/-! ## Occurrences -/

section Occurrences

variable [DecidableEq α] {old : List α}

theorem replaceFrom_eq_drop (new : List α) (skip : Nat) (s : List α) :
    replaceFrom old new skip s = replaceAll old new (s.drop skip) := by
  induction skip generalizing s with
  | zero => rfl
  | succ skip ih =>
    cases s with
    | nil => rfl
    | cons c s => exact ih s

/-- An occurrence at the front is replaced. -/
theorem replaceAll_append (new s : List α) (hold : old ≠ []) :
    replaceAll old new (old ++ s) = new ++ replaceAll old new s := by
  cases old with
  | nil => exact absurd rfl hold
  | cons a old =>
    have hhere : a :: old <+: a :: (old ++ s) := List.prefix_append (a :: old) s
    rw [replaceAll, List.cons_append, replaceFrom, if_pos hhere, replaceFrom_eq_drop,
      List.length_cons, Nat.add_sub_cancel, List.drop_left]

theorem replaceAll_of_absent (new s : List α) (h : ¬ old <:+: s) : replaceAll old new s = s := by
  induction s with
  | nil => rfl
  | cons c s ih =>
    rw [List.infix_cons_iff, not_or] at h
    rw [replaceAll, replaceFrom, if_neg h.1]
    exact congrArg (c :: ·) (ih h.2)

theorem length_replaceFrom_le (skip : Nat) (s : List α) :
    (replaceFrom old [] skip s).length ≤ s.length := by
  induction s generalizing skip with
  | nil => cases skip <;> exact Nat.le_refl 0
  | cons c s ih =>
    cases skip with
    | zero =>
      rw [replaceFrom]
      split_ifs
      · exact (ih _).trans (Nat.le_succ _)
      · exact Nat.succ_le_succ (ih _)
    | succ skip => exact (ih skip).trans (Nat.le_succ _)

/-- Where something is removed, the rest is shorter. -/
theorem length_replaceAll_lt (hold : old ≠ []) (s : List α) (h : old <:+: s) :
    (replaceAll old [] s).length < s.length := by
  induction s with
  | nil => exact absurd (List.infix_nil.mp h) hold
  | cons c s ih =>
    rw [replaceAll, replaceFrom]
    split_ifs with hhere
    · exact Nat.lt_succ_of_le (length_replaceFrom_le _ s)
    · exact Nat.succ_lt_succ (ih ((List.infix_cons_iff.mp h).resolve_left hhere))

theorem replaceAll_singleton (a b : α) (s : List α) :
    replaceAll [a] [b] s = s.map fun c => if c = a then b else c := by
  induction s with
  | nil => rfl
  | cons c s ih =>
    have hhere : [a] <+: c :: s ↔ c = a := by
      rw [List.cons_prefix_cons, eq_comm]
      exact and_iff_left List.nil_prefix
    rw [replaceAll, replaceFrom, List.map_cons]
    by_cases hc : c = a
    · rw [if_pos (hhere.mpr hc), if_pos hc]
      exact congrArg (b :: ·) ih
    · rw [if_neg (mt hhere.mp hc), if_neg hc]
      exact congrArg (c :: ·) ih

end Occurrences

/-! ## Parts -/

section Parts

variable {sep : α} {pat : List α}

theorem joined_cons (a : List α) (parts : List (List α)) :
    joined sep (a :: parts) = sep :: (a ++ joined sep parts) := rfl

/-- What does not contain the separator occurs on one side of it. -/
theorem infix_append_cons (hpat : sep ∉ pat) {l r : List α} (h : pat <:+: l ++ sep :: r) :
    pat <:+: l ∨ pat <:+: r := by
  obtain ⟨p, q, h⟩ := h
  rcases List.append_eq_append_iff.mp h with ⟨t, hl, -⟩ | ⟨t, hl, hr⟩
  · exact .inl ⟨p, t, hl.symm⟩
  cases t with
  | nil => exact .inl ⟨p, [], by rw [List.append_nil]; exact (hl.trans (List.append_nil l))⟩
  | cons c t =>
    obtain ⟨rfl, hr'⟩ := List.cons.inj hr
    rcases List.append_eq_append_iff.mp hl with ⟨u, -, hu⟩ | ⟨u, -, hu⟩
    · exact absurd (hu ▸ List.mem_append_right u List.mem_cons_self) hpat
    cases u with
    | nil => exact absurd (hu ▸ List.mem_cons_self : sep ∈ [] ++ pat) hpat
    | cons d u =>
      obtain ⟨-, hu'⟩ := List.cons.inj hu
      exact .inr ⟨u, q, by rw [hr', hu']; rfl⟩

theorem infix_joined_iff (hpat : sep ∉ pat) (hne : pat ≠ []) (parts : List (List α)) :
    pat <:+: joined sep parts ↔ ∃ a ∈ parts, pat <:+: a := by
  have hfront : ∀ r, pat <:+: sep :: r ↔ pat <:+: r := by
    intro r
    refine ⟨fun h => ?_, fun h => h.trans (List.suffix_cons sep r).isInfix⟩
    rcases infix_append_cons hpat (l := []) h with h | h
    · exact absurd (List.infix_nil.mp h) hne
    · exact h
  induction parts with
  | nil =>
    refine iff_of_false (fun h => hne (List.infix_nil.mp h)) ?_
    rintro ⟨a, ha, -⟩
    cases ha
  | cons a parts ih =>
    have happend : pat <:+: a ++ joined sep parts ↔ pat <:+: a ∨ pat <:+: joined sep parts := by
      refine ⟨fun h => ?_, fun h => h.elim (fun h => h.trans (List.prefix_append _ _).isInfix)
        (fun h => h.trans (List.suffix_append _ _).isInfix)⟩
      cases parts with
      | nil =>
        rw [joined, List.flatMap_nil, List.append_nil] at h
        exact .inl h
      | cons b parts =>
        rw [joined_cons] at h ⊢
        exact (infix_append_cons hpat h).imp_right (hfront _).mpr
    simp only [joined_cons, hfront, happend, ih, List.mem_cons, exists_eq_or_imp]

/-- The first part ends where the next separator is. -/
theorem takeWhile_append_joined [DecidableEq α] (a : List α) (parts : List (List α))
    (ha : sep ∉ a) : (a ++ joined sep parts).takeWhile (· ≠ sep) = a := by
  rw [List.takeWhile_append_of_pos]
  · cases parts with
    | nil => simp [joined]
    | cons b parts => simp [joined_cons]
  · intro c hc
    exact decide_eq_true fun h => ha (h ▸ hc)

theorem joined_inj [DecidableEq α] {parts parts' : List (List α)} (h : ∀ a ∈ parts, sep ∉ a)
    (h' : ∀ a ∈ parts', sep ∉ a) (heq : joined sep parts = joined sep parts') : parts = parts' := by
  induction parts generalizing parts' with
  | nil =>
    cases parts' with
    | nil => rfl
    | cons b parts' => cases heq
  | cons a parts ih =>
    cases parts' with
    | nil => cases heq
    | cons b parts' =>
      rw [joined_cons, joined_cons, List.cons.injEq] at heq
      have hab : a = b := by
        rw [← takeWhile_append_joined a parts (h a List.mem_cons_self), heq.2,
          takeWhile_append_joined b parts' (h' b List.mem_cons_self)]
      subst hab
      have hrest := ih (fun c hc => h c (List.mem_cons_of_mem _ hc))
        (fun c hc => h' c (List.mem_cons_of_mem _ hc)) (List.append_cancel_left heq.2)
      rw [hrest]

end Parts

end Replace

import Sprefence.Lib.Runs

/-! Runs of a machine whose steps can be undefined. An undefined step ends the run without
a state; a run of allowed events does not meet one if the steps of the machine follow those
of another one, or keep an invariant. -/

namespace PartialRuns

variable {S E : Type*} (step : S → E → Option S)

def run (s : S) (es : List E) : Option S := es.foldlM step s

@[simp] theorem run_nil (s : S) : run step s [] = some s := rfl

@[simp] theorem run_cons (s : S) (e : E) (es : List E) :
    run step s (e :: es) = (step s e).bind fun s' => run step s' es := rfl

theorem run_append (s : S) (es fs : List E) :
    run step s (es ++ fs) = (run step s es).bind fun s' => run step s' fs := List.foldlM_append

/-- Each event is allowed in the state that it meets. -/
def Legal (Allowed : S → E → Prop) : S → List E → Prop
  | _, [] => True
  | s, e :: es => Allowed s e ∧ ∀ s', step s e = some s' → Legal Allowed s' es

variable {step}

theorem legal_cons {Allowed : S → E → Prop} {s s' : S} {e : E} {es : List E}
    (h : step s e = some s') : Legal step Allowed s (e :: es) ↔ Allowed s e ∧ Legal step Allowed s' es := by
  rw [Legal, h]
  simp only [Option.some.injEq, forall_eq']

instance Legal.decidable {Allowed : S → E → Prop} [∀ s e, Decidable (Allowed s e)] :
    ∀ (s : S) (es : List E), Decidable (Legal step Allowed s es)
  | _, [] => .isTrue trivial
  | s, e :: es =>
    match h : step s e with
    | some s' =>
      have : Decidable (Legal step Allowed s' es) := Legal.decidable s' es
      decidable_of_iff _ (legal_cons h).symm
    | none => decidable_of_iff (Allowed s e) ⟨fun hs => ⟨hs, fun _ hs' => by rw [h] at hs'; cases hs'⟩,
        And.left⟩

theorem legal_and_forall {Allowed : S → E → Prop} {P : E → Prop} {s : S} {es : List E}
    (h : Legal step Allowed s es) (hP : ∀ e ∈ es, P e) :
    Legal step (fun s e => Allowed s e ∧ P e) s es := by
  induction es generalizing s with
  | nil => trivial
  | cons e es ih =>
    refine ⟨⟨h.1, hP e List.mem_cons_self⟩, fun s' hs' => ?_⟩
    exact ih (h.2 s' hs') fun e he => hP e (List.mem_cons_of_mem _ he)

theorem run_invariant {Allowed : S → E → Prop} (Inv : S → Prop)
    (hstep : ∀ s e, Inv s → Allowed s e → ∃ s', step s e = some s' ∧ Inv s') {s : S} (hs : Inv s)
    {es : List E} (hes : Legal step Allowed s es) : ∃ s', run step s es = some s' ∧ Inv s' := by
  induction es generalizing s with
  | nil => exact ⟨s, rfl, hs⟩
  | cons e es ih =>
    obtain ⟨s', hs', hinv⟩ := hstep s e hs hes.1
    obtain ⟨t, ht, htinv⟩ := ih hinv (hes.2 s' hs')
    exact ⟨t, by rw [run_cons, hs', Option.bind_some, ht], htinv⟩

/-- An invariant of the steps that are taken. -/
theorem run_preserves {Allowed : S → E → Prop} (Inv : S → Prop)
    (hstep : ∀ s e s', Inv s → Allowed s e → step s e = some s' → Inv s') {s s' : S} (hs : Inv s)
    {es : List E} (hes : Legal step Allowed s es) (hrun : run step s es = some s') : Inv s' := by
  induction es generalizing s with
  | nil =>
    obtain rfl := Option.some.inj hrun
    exact hs
  | cons e es ih =>
    obtain ⟨t, ht, hrest⟩ := Option.bind_eq_some_iff.mp hrun
    exact ih (hstep s e t hs hes.1 ht) (hes.2 t ht) hrest

theorem legal_of_forall {P : E → Prop} {es : List E} (h : ∀ e ∈ es, P e) (s : S) :
    Legal step (fun _ e => P e) s es := by
  induction es generalizing s with
  | nil => trivial
  | cons e es ih =>
    exact ⟨h e List.mem_cons_self, fun s' _ => ih (fun e he => h e (List.mem_cons_of_mem _ he)) s'⟩

/-- The machine follows another one that has no undefined steps. -/
theorem run_refines {A : Type*} {spec : A → E → A} {Allowed : A → E → Prop} (R : S → A → Prop)
    (hstep : ∀ s a e, R s a → Allowed a e → ∃ s', step s e = some s' ∧ R s' (spec a e)) {s : S}
    {a : A} (hR : R s a) {es : List E} (hes : Runs.EveryStep spec Allowed a es) :
    ∃ s', run step s es = some s' ∧ R s' (Runs.run spec a es) := by
  induction es generalizing s a with
  | nil => exact ⟨s, rfl, hR⟩
  | cons e es ih =>
    obtain ⟨s', hs', hR'⟩ := hstep s a e hR hes.1
    obtain ⟨t, ht, hRt⟩ := ih hR' hes.2
    exact ⟨t, by rw [run_cons, hs', Option.bind_some, ht], hRt⟩

end PartialRuns

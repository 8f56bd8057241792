import Mathlib.Data.List.Basic

/-! Runs of a deterministic machine over a list of events, and properties that
every step of a run has. -/

namespace Runs

variable {S E : Type*} (step : S → E → S)

def run (s : S) (es : List E) : S := es.foldl step s

@[simp] theorem run_nil (s : S) : run step s [] = s := rfl

@[simp] theorem run_cons (s : S) (e : E) (es : List E) :
    run step s (e :: es) = run step (step s e) es := rfl

@[simp] theorem run_append (s : S) (es fs : List E) :
    run step s (es ++ fs) = run step (run step s es) fs := List.foldl_append

theorem run_invariant (Inv : S → Prop) (hstep : ∀ s e, Inv s → Inv (step s e)) (s : S)
    (hs : Inv s) (es : List E) : Inv (run step s es) :=
  List.foldlRecOn es step hs fun s hs e _ => hstep s e hs

/-- Each event of the list has the property `P` in the state that it meets. -/
def EveryStep (P : S → E → Prop) : S → List E → Prop
  | _, [] => True
  | s, e :: es => P s e ∧ EveryStep P (step s e) es

variable {step}

theorem run_of_fixed (s : S) (hs : ∀ e, step s e = s) (es : List E) : run step s es = s :=
  run_invariant step (fun t => t = s) (by rintro t e rfl; exact hs e) s rfl es

theorem everyStep_of_forall {P : S → E → Prop} (hP : ∀ s e, P s e) (s : S) (es : List E) :
    EveryStep step P s es := by
  induction es generalizing s with
  | nil => trivial
  | cons e es ih => exact ⟨hP s e, ih (step s e)⟩

theorem everyStep_of_fixed {P : S → E → Prop} (s : S) (hs : ∀ e, step s e = s)
    (hP : ∀ e, P s e) (es : List E) : EveryStep step P s es := by
  induction es with
  | nil => trivial
  | cons e es ih => exact ⟨hP e, by rw [hs e]; exact ih⟩

theorem everyStep_iff_split (P : S → E → Prop) (s : S) (es : List E) :
    EveryStep step P s es ↔ ∀ pre e post, es = pre ++ e :: post → P (run step s pre) e := by
  induction es generalizing s with
  | nil =>
    refine ⟨fun _ pre e post h => ?_, fun _ => trivial⟩
    simp at h
  | cons a es ih =>
    constructor
    · rintro ⟨ha, hes⟩ pre e post h
      cases pre with
      | nil =>
        obtain ⟨rfl, -⟩ := List.cons.inj h
        exact ha
      | cons b pre =>
        obtain ⟨rfl, h'⟩ := List.cons.inj h
        exact (ih (step s a)).mp hes pre e post h'
    · intro h
      refine ⟨h [] a es rfl, (ih (step s a)).mpr fun pre e post h' => ?_⟩
      exact h (a :: pre) e post (by rw [h', List.cons_append])

/-- Two properties of steps agree along a run if they agree in the states of an
invariant that their steps keep. -/
theorem everyStep_iff_everyStep (Inv : S → Prop) {P Q : S → E → Prop}
    (hstep : ∀ s e, Inv s → P s e → Inv (step s e)) (hPQ : ∀ s e, Inv s → (P s e ↔ Q s e))
    (s : S) (hs : Inv s) (es : List E) : EveryStep step P s es ↔ EveryStep step Q s es := by
  induction es generalizing s with
  | nil => exact Iff.rfl
  | cons e es ih =>
    constructor
    · rintro ⟨he, hes⟩
      exact ⟨(hPQ s e hs).mp he, (ih _ (hstep s e hs he)).mp hes⟩
    · rintro ⟨he, hes⟩
      have he' := (hPQ s e hs).mpr he
      exact ⟨he', (ih _ (hstep s e hs he')).mpr hes⟩

theorem EveryStep.imp {P Q : S → E → Prop} (hPQ : ∀ s e, P s e → Q s e) {s : S} {es : List E}
    (h : EveryStep step P s es) : EveryStep step Q s es := by
  induction es generalizing s with
  | nil => trivial
  | cons e es ih => exact ⟨hPQ s e h.1, ih h.2⟩

/-- A property of a part of the state that has steps of its own. -/
theorem everyStep_part {A : Type*} {part : A → E → A} (f : S → A)
    (hf : ∀ s e, f (step s e) = part (f s) e) (P : A → E → Prop) (s : S) (es : List E) :
    EveryStep step (fun s e => P (f s) e) s es ↔ EveryStep part P (f s) es := by
  induction es generalizing s with
  | nil => exact Iff.rfl
  | cons e es ih => rw [EveryStep, EveryStep, ih, hf]

/-- A relation that the steps of two machines keep, as long as the events of the first
one have the property `P`. -/
theorem run_simulation {A : Type*} {spec : A → E → A} (R : S → A → Prop) {P : S → E → Prop}
    (hstep : ∀ s a e, R s a → P s e → R (step s e) (spec a e)) {s : S} {a : A} (hR : R s a)
    {es : List E} (hes : EveryStep step P s es) : R (run step s es) (run spec a es) := by
  induction es generalizing s a with
  | nil => exact hR
  | cons e es ih => exact ih (hstep s a e hR hes.1) hes.2

theorem everyStep_append {P : S → E → Prop} {s : S} {es fs : List E} :
    EveryStep step P s (es ++ fs) ↔ EveryStep step P s es ∧ EveryStep step P (run step s es) fs := by
  induction es generalizing s with
  | nil => simp only [List.nil_append, EveryStep, run_nil, true_and]
  | cons e es ih => rw [List.cons_append, EveryStep, EveryStep, ih, and_assoc, run_cons]

end Runs

import Sprefence.Detector.Main

/-! The fence over whole runs of the `diff_ditect` loop: the flag `isOn`, the
two pins, and the events that decide. Between two iterations the other programs
may do anything to the card, so each iteration comes with its own. -/

namespace Sprefence.DiffDitect

open CBytes Runs
open WebSource (SdCard)

/-- The last value that was written to the pin. -/
def State.lastWrite (s : State) (pin : Pin) : Option Int :=
  ((s.writes.filter fun w => w.1 = pin).getLast?).map Prod.snd

/-- The state in which the frame is compared; `none` if `load_pic` failed. -/
def State.reload (s : State) (uyvyYuv : Option (List UInt8)) : Option State :=
  if s.isLoaded = false ∨ s.i = 0 then
    match uyvyYuv with
    | none => none
    | some file =>
      some { s with pic := .picMem, picMem := fread s.picMem fSize file, isLoaded := true }
  else some s

section Loop

variable (findBlackCenter findSkinCenter : FindCenter)

def stepOn (s : State) (i : SdCard × Surroundings) : State :=
  (iterate findBlackCenter findSkinCenter s i.1 i.2).1

/-- The combined centre in pixels, if one of the two is found. -/
def centre (pic cam : List UInt8) : Option (Int × Int) :=
  let (bx, by_) := findBlackCenter pic cam
  let (sx, sy) := findSkinCenter pic cam
  if bx ≥ 0 ∨ sx ≥ 0 then some (combine bx by_ sx sy) else none

/-- The reference picture and the frame that an iteration compares. -/
def compared (s : State) (i : SdCard × Surroundings) : Option (List UInt8 × List UInt8) :=
  if s.status = .running ∧ poll i.1.switchIni i.2.cbuff = .absent then do
    let t ← s.reload i.1.uyvyYuv
    let cam ← i.2.cam
    if i.2.qbuf = true ∧ t.pic = .picMem then some (t.picMem, cam) else none
  else none

/-- What a deciding event asks for: a recognised command, or the verdict on a
centre that was found. -/
def outcome (s : State) (i : SdCard × Surroundings) : Option Bool :=
  if s.status = .running then
    match poll i.1.switchIni i.2.cbuff with
    | .on => some true
    | .off => some false
    | .other => none
    | .absent => do
      let (pic, cam) ← compared s i
      let (x, y) ← centre findBlackCenter findSkinCenter pic cam
      some (s.hazard.isHazard x y)
  else none

/-- The outcomes of the deciding events of a run, in order. -/
def outcomes : State → List (SdCard × Surroundings) → List Bool
  | _, [] => []
  | s, i :: is =>
    (outcome findBlackCenter findSkinCenter s i).toList ++
      outcomes (stepOn findBlackCenter findSkinCenter s i) is

/-- Without `switch.ini` the fence is switched only to the other state. -/
def SwitchesOver (s : State) (i : SdCard × Surroundings) : Prop :=
  poll i.1.switchIni i.2.cbuff = .absent →
    (stepOn findBlackCenter findSkinCenter s i).writes = s.writes ∨
    (s.isOn = false ∧
      (stepOn findBlackCenter findSkinCenter s i).writes = s.fenceOn.writes) ∨
    (s.isOn = true ∧
      (stepOn findBlackCenter findSkinCenter s i).writes = s.fenceOff.writes)

/-! ## One iteration -/

theorem detect_eq (s : State) (e : Surroundings) (uyvyYuv : Option (List UInt8)) :
    s.detect findBlackCenter findSkinCenter e uyvyYuv =
      match s.reload uyvyYuv with
      | none => { s with pic := .null }
      | some t => t.compareFrame findBlackCenter findSkinCenter e := by
  unfold State.detect State.reload State.loadPic
  split_ifs with h
  · cases uyvyYuv with
    | none => rfl
    | some file => rfl
  · rfl

/-- The state with the centres of the two functions. -/
def State.look (s : State) (pic cam : List UInt8) : State :=
  { s with
    bx := (findBlackCenter pic cam).1
    by_ := (findBlackCenter pic cam).2
    sx := (findSkinCenter pic cam).1
    sy := (findSkinCenter pic cam).2 }

/-- The fence after the verdict, if there is one. -/
def State.obey (s : State) : Option Bool → State
  | none => s
  | some true => { (if s.isOn then s else s.fenceOn) with isOn := true }
  | some false => { (if s.isOn then s.fenceOff else s) with isOn := false }

/-- The verdict on the centre of the two pictures. -/
def State.verdict (s : State) (pic cam : List UInt8) : Option Bool := do
  let (x, y) ← centre findBlackCenter findSkinCenter pic cam
  some (s.hazard.isHazard x y)

theorem decideFence_eq (s : State) :
    s.decideFence = s.obey
      (if s.bx ≥ 0 ∨ s.sx ≥ 0 then
        some (s.hazard.isHazard (combine s.bx s.by_ s.sx s.sy).1 (combine s.bx s.by_ s.sx s.sy).2)
      else none) := by
  unfold State.decideFence
  dsimp only
  by_cases hfound : s.bx ≥ 0 ∨ s.sx ≥ 0
  · rw [if_pos hfound, if_pos hfound]
    cases s.hazard.isHazard (combine s.bx s.by_ s.sx s.sy).1 (combine s.bx s.by_ s.sx s.sy).2 with
    | true => rfl
    | false => rfl
  · rw [if_neg hfound, if_neg hfound]
    rfl

theorem decideFence_look (s : State) (pic cam : List UInt8) :
    (s.look findBlackCenter findSkinCenter pic cam).decideFence =
      (s.look findBlackCenter findSkinCenter pic cam).obey
        (s.verdict findBlackCenter findSkinCenter pic cam) := by
  rw [decideFence_eq]
  congr 1
  by_cases hfound : (findBlackCenter pic cam).1 ≥ 0 ∨ (findSkinCenter pic cam).1 ≥ 0
  · simp only [State.verdict, centre, if_pos hfound, Option.bind_eq_bind, Option.bind_some]
    exact if_pos hfound
  · simp only [State.verdict, centre, if_neg hfound, Option.bind_eq_bind, Option.bind_none]
    exact if_neg hfound

@[simp] theorem obey_none (s : State) : s.obey none = s := rfl

@[simp] theorem obey_isOn (s : State) (v : Option Bool) : (s.obey v).isOn = v.getD s.isOn := by
  cases v with
  | none => rfl
  | some b => cases b <;> rfl

@[simp] theorem obey_pic (s : State) (v : Option Bool) : (s.obey v).pic = s.pic := by
  cases v with
  | none => rfl
  | some b => cases b <;> cases h : s.isOn <;> simp [State.obey, h, State.fenceOn, State.fenceOff,
      State.gpioWrite]

theorem obey_writes (s : State) (v : Option Bool) :
    (s.obey v).writes = s.writes ∨ (s.isOn = false ∧ (s.obey v).writes = s.fenceOn.writes) ∨
      (s.isOn = true ∧ (s.obey v).writes = s.fenceOff.writes) := by
  cases v with
  | none => exact .inl rfl
  | some b =>
    cases b with
    | true =>
      cases h : s.isOn with
      | true => exact .inl (by simp [State.obey, h])
      | false => exact .inr (.inl ⟨rfl, by simp [State.obey, h]⟩)
    | false =>
      cases h : s.isOn with
      | true => exact .inr (.inr ⟨rfl, by simp [State.obey, h]⟩)
      | false => exact .inl (by simp [State.obey, h])

theorem obey_congr (s t : State) (v : Option Bool) (hon : t.isOn = s.isOn)
    (hw : t.writes = s.writes) :
    (t.obey v).isOn = (s.obey v).isOn ∧ (t.obey v).writes = (s.obey v).writes := by
  refine ⟨by simp [hon], ?_⟩
  cases v with
  | none => exact hw
  | some b =>
    cases b with
    | true => cases h : s.isOn <;> simp [State.obey, hon, h, hw, State.fenceOn, State.gpioWrite]
    | false => cases h : s.isOn <;> simp [State.obey, hon, h, hw, State.fenceOff, State.gpioWrite]

theorem reload_fence (s t : State) (uyvyYuv : Option (List UInt8))
    (h : s.reload uyvyYuv = some t) :
    t.isOn = s.isOn ∧ t.writes = s.writes ∧ t.hazard = s.hazard := by
  unfold State.reload at h
  split_ifs at h
  · cases uyvyYuv with
    | none => cases h
    | some file =>
      cases h
      exact ⟨rfl, rfl, rfl⟩
  · cases h
    exact ⟨rfl, rfl, rfl⟩

section Frame

variable (s : State) (hs : s.status = .running) (i : SdCard × Surroundings)
  (hp : poll i.1.switchIni i.2.cbuff = .absent) (t : State) (hr : s.reload i.1.uyvyYuv = some t)
include hs hp hr

theorem compareFrame_not_compared (hc : compared s i = none) :
    (t.compareFrame findBlackCenter findSkinCenter i.2).isOn = t.isOn ∧
      (t.compareFrame findBlackCenter findSkinCenter i.2).writes = t.writes := by
  unfold State.compareFrame
  split_ifs with hq
  · exact ⟨rfl, rfl⟩
  · split
    · next cam hpic hcam => simp [compared, hs, hp, hr, hcam, hq, hpic] at hc
    · exact ⟨rfl, rfl⟩

theorem compareFrame_compared (pic cam : List UInt8) (hc : compared s i = some (pic, cam)) :
    t.compareFrame findBlackCenter findSkinCenter i.2 =
      (t.look findBlackCenter findSkinCenter pic cam).decideFence.next := by
  cases hcam : i.2.cam with
  | none => simp [compared, hs, hp, hr, hcam] at hc
  | some frame =>
    simp only [compared, hs, hp, hr, hcam, and_self, if_true, Option.bind_eq_bind,
      Option.bind_some, Option.ite_none_right_eq_some, Option.some.injEq, Prod.mk.injEq] at hc
    obtain ⟨⟨hq, hpic⟩, rfl, rfl⟩ := hc
    simp only [State.compareFrame, State.look, hq, hpic, hcam, Bool.true_eq_false, if_false]

end Frame

theorem stepOn_detect (s : State) (hs : s.status = .running) (i : SdCard × Surroundings)
    (hp : poll i.1.switchIni i.2.cbuff = .absent) :
    stepOn findBlackCenter findSkinCenter s i =
      match s.reload i.1.uyvyYuv with
      | none => { s with pic := .null }
      | some t => t.compareFrame findBlackCenter findSkinCenter i.2 := by
  have hstep : stepOn findBlackCenter findSkinCenter s i =
      s.detect findBlackCenter findSkinCenter i.2 i.1.uyvyYuv := by
    simp [stepOn, iterate, hs, hp]
  rw [hstep, detect_eq]

/-- Without `switch.ini` the iteration obeys the verdict on the frame. -/
theorem stepOn_absent (s : State) (hs : s.status = .running) (i : SdCard × Surroundings)
    (hp : poll i.1.switchIni i.2.cbuff = .absent) :
    (stepOn findBlackCenter findSkinCenter s i).isOn =
        (s.obey (outcome findBlackCenter findSkinCenter s i)).isOn ∧
      (stepOn findBlackCenter findSkinCenter s i).writes =
        (s.obey (outcome findBlackCenter findSkinCenter s i)).writes := by
  rw [stepOn_detect findBlackCenter findSkinCenter s hs i hp]
  cases hr : s.reload i.1.uyvyYuv with
  | none =>
    have ho : outcome findBlackCenter findSkinCenter s i = none := by
      simp [outcome, compared, hs, hp, hr]
    rw [ho]
    exact ⟨rfl, rfl⟩
  | some t =>
    obtain ⟨hon, hw, hhazard⟩ := reload_fence s t _ hr
    cases hc : compared s i with
    | none =>
      have ho : outcome findBlackCenter findSkinCenter s i = none := by
        simp [outcome, hs, hp, hc]
      have hkeep := compareFrame_not_compared findBlackCenter findSkinCenter s hs i hp t hr hc
      rw [ho, obey_none, ← hon, ← hw]
      exact hkeep
    | some pictures =>
      obtain ⟨pic, cam⟩ := pictures
      have ho : outcome findBlackCenter findSkinCenter s i =
          t.verdict findBlackCenter findSkinCenter pic cam := by
        simp [outcome, hs, hp, hc, State.verdict, hhazard]
      have hlook := compareFrame_compared findBlackCenter findSkinCenter s hs i hp t hr pic cam hc
      have hobey := obey_congr s (t.look findBlackCenter findSkinCenter pic cam)
        (t.verdict findBlackCenter findSkinCenter pic cam) hon hw
      rw [ho]
      dsimp only
      rw [hlook, decideFence_look]
      exact hobey

/-- An iteration decides as its event does and otherwise keeps the flag. -/
theorem stepOn_isOn (s : State) (i : SdCard × Surroundings) :
    (stepOn findBlackCenter findSkinCenter s i).isOn =
      (outcome findBlackCenter findSkinCenter s i).getD s.isOn := by
  by_cases hs : s.status = .running
  · cases hp : poll i.1.switchIni i.2.cbuff with
    | absent =>
      rw [(stepOn_absent findBlackCenter findSkinCenter s hs i hp).1, obey_isOn]
    | on => simp [stepOn, iterate, outcome, hs, hp, State.next]
    | off => simp [stepOn, iterate, outcome, hs, hp, State.next]
    | other => simp [stepOn, iterate, outcome, hs, hp, State.next]
  · simp [stepOn, iterate, outcome, hs]

/-! ## The pins -/

/-- The pins agree with the flag. -/
structure FenceOk (s : State) : Prop where
  sck : s.isOn = true ↔ s.lastWrite .spi4Sck = some 0
  miso : s.lastWrite .spi4Miso = some 1

theorem fenceOk_init (hazardIni : Option (List UInt8)) (picMem : List UInt8) :
    FenceOk (.init hazardIni picMem) :=
  ⟨by simp [State.init, State.gpioInit, State.gpioWrite, State.lastWrite],
    by simp [State.init, State.gpioInit, State.gpioWrite, State.lastWrite]⟩

theorem FenceOk.congr {s t : State} (h : FenceOk s) (hon : t.isOn = s.isOn)
    (hw : t.writes = s.writes) : FenceOk t := by
  obtain ⟨hsck, hmiso⟩ := h
  unfold State.lastWrite at hsck hmiso
  exact ⟨by rw [State.lastWrite, hon, hw]; exact hsck, by rw [State.lastWrite, hw]; exact hmiso⟩

/-- Switching on ends with both pulses of `PIN_SPI4_MISO` complete. -/
theorem fenceOk_of_fenceOn (s t : State) (hon : t.isOn = true)
    (hw : t.writes = s.fenceOn.writes) : FenceOk t :=
  ⟨by simp [State.lastWrite, hon, hw, State.fenceOn, State.gpioWrite],
    by simp [State.lastWrite, hw, State.fenceOn, State.gpioWrite]⟩

theorem fenceOk_of_fenceOff (s t : State) (h : FenceOk s) (hon : t.isOn = false)
    (hw : t.writes = s.fenceOff.writes) : FenceOk t := by
  refine ⟨by simp [State.lastWrite, hon, hw, State.fenceOff, State.gpioWrite], ?_⟩
  have hmiso := h.miso
  unfold State.lastWrite at hmiso ⊢
  simpa [hw, State.fenceOff, State.gpioWrite] using hmiso

theorem fenceOk_obey (s : State) (h : FenceOk s) (v : Option Bool) : FenceOk (s.obey v) := by
  cases v with
  | none => exact h
  | some b =>
    cases b with
    | true =>
      cases hon : s.isOn with
      | true => exact h.congr (by simp [hon]) (by simp [State.obey, hon])
      | false => exact fenceOk_of_fenceOn s _ (by simp) (by simp [State.obey, hon])
    | false =>
      cases hon : s.isOn with
      | true => exact fenceOk_of_fenceOff s _ h (by simp) (by simp [State.obey, hon])
      | false => exact h.congr (by simp [hon]) (by simp [State.obey, hon])

theorem fenceOk_stepOn (s : State) (i : SdCard × Surroundings) (h : FenceOk s) :
    FenceOk (stepOn findBlackCenter findSkinCenter s i) := by
  by_cases hs : s.status = .running
  · cases hp : poll i.1.switchIni i.2.cbuff with
    | absent =>
      obtain ⟨hon, hw⟩ := stepOn_absent findBlackCenter findSkinCenter s hs i hp
      exact (fenceOk_obey s h _).congr hon hw
    | on =>
      have ht : stepOn findBlackCenter findSkinCenter s i = { s.fenceOn with isOn := true }.next := by
        simp [stepOn, iterate, hs, hp]
      rw [ht]
      exact fenceOk_of_fenceOn s _ rfl rfl
    | off =>
      have ht : stepOn findBlackCenter findSkinCenter s i =
          { s.fenceOff with isOn := false }.next := by
        simp [stepOn, iterate, hs, hp]
      rw [ht]
      exact fenceOk_of_fenceOff s _ h rfl rfl
    | other =>
      have ht : stepOn findBlackCenter findSkinCenter s i = s.next := by
        simp [stepOn, iterate, hs, hp]
      rw [ht]
      exact h.congr rfl rfl
  · have ht : stepOn findBlackCenter findSkinCenter s i = s := by simp [stepOn, iterate, hs]
    rw [ht]
    exact h

theorem switchesOver (s : State) (i : SdCard × Surroundings) :
    SwitchesOver findBlackCenter findSkinCenter s i := by
  intro hp
  by_cases hs : s.status = .running
  · rw [(stepOn_absent findBlackCenter findSkinCenter s hs i hp).2]
    exact obey_writes s _
  · left
    simp [stepOn, iterate, hs]

/-! ## Runs -/

theorem run_isOn (s : State) (is : List (SdCard × Surroundings)) :
    (run (stepOn findBlackCenter findSkinCenter) s is).isOn =
      ((outcomes findBlackCenter findSkinCenter s is).getLast?).getD s.isOn := by
  induction is generalizing s with
  | nil => rfl
  | cons i is ih =>
    rw [run_cons, ih, outcomes, List.getLast?_append, stepOn_isOn]
    cases outcome findBlackCenter findSkinCenter s i with
    | none => simp
    | some b => cases (outcomes findBlackCenter findSkinCenter
        (stepOn findBlackCenter findSkinCenter s i) is).getLast? <;> rfl

/-- In every state of every run the flag agrees with the pins and with the last
event that decided, and a frame never switches the fence to the state that it
is in. -/
theorem fence_state (hazardIni : Option (List UInt8)) (picMem : List UInt8)
    (is : List (SdCard × Surroundings)) :
    FenceOk (run (stepOn findBlackCenter findSkinCenter) (.init hazardIni picMem) is) ∧
    (run (stepOn findBlackCenter findSkinCenter) (.init hazardIni picMem) is).isOn =
      ((outcomes findBlackCenter findSkinCenter (.init hazardIni picMem) is).getLast?).getD false ∧
    EveryStep (stepOn findBlackCenter findSkinCenter)
      (SwitchesOver findBlackCenter findSkinCenter) (.init hazardIni picMem) is := by
  refine ⟨?_, ?_, ?_⟩
  · exact run_invariant _ FenceOk (fenceOk_stepOn findBlackCenter findSkinCenter) _
      (fenceOk_init hazardIni picMem) is
  · rw [run_isOn]
    rfl
  · exact everyStep_of_forall (switchesOver findBlackCenter findSkinCenter) _ is

end Loop

end Sprefence.DiffDitect

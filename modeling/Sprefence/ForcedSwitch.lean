import Sprefence.Detector.Main
import Sprefence.WebSource.Recognise

/-! Forced switching: a request to the server goes over the serial line to
`web_source`, which leaves it in `switch.ini` for the detection loop. The three
programs form one system whose events are requests, each handled to its end,
and iterations of the detection loop. -/

namespace Sprefence.ForcedSwitch

open CBytes Server Runs

/-- The two requests that `/switch` answers OK. -/
inductive Switch
  | on
  | off
  deriving DecidableEq, Repr

/-- The `type` of the request's body. -/
def Switch.type : Switch → String
  | .on => "on"
  | .off => "off"

/-- What a poll that obeys the request finds. -/
def Switch.polled : Switch → DiffDitect.Polled
  | .on => .on
  | .off => .off

def Switch.fence : Switch → DiffDitect.State → DiffDitect.State
  | .on, s => s.fenceOn
  | .off, s => s.fenceOff

structure World where
  web : WebSource.State
  det : DiffDitect.State
  /-- The latest request, until an iteration of the detection loop. -/
  last : Option Switch

inductive Event
  | request (r : Switch) (env : WebSource.Env) (stored : env.fopen = true)
  | poll (e : DiffDitect.Surroundings)

section System

variable (findBlackCenter findSkinCenter : DiffDitect.FindCenter)

def step (w : World) : Event → World
  | .request r env _ =>
    match switchRequest (some r.type) with
    | some c => { w with web := WebSource.step w.web (env, .data c.bytes), last := some r }
    | none => w
  | .poll e =>
    let (det, sd) := DiffDitect.iterate findBlackCenter findSkinCenter w.det w.web.sd e
    { web := { w.web with sd := sd }, det := det, last := none }

/-- The iteration switches the fence as `r` asks, because of `switch.ini`. -/
def Performs (r : Switch) (w : World) (e : DiffDitect.Surroundings) : Prop :=
  DiffDitect.poll w.web.sd.switchIni e.cbuff = r.polled ∧
    (step findBlackCenter findSkinCenter w (.poll e)).det.writes = (r.fence w.det).writes ∧
    (step findBlackCenter findSkinCenter w (.poll e)).det.isOn = decide (r = .on)

/-- An iteration that follows a request performs it. -/
def PollObeys (w : World) : Event → Prop
  | .request _ _ _ => True
  | .poll e => w.det.status = .running →
      ∀ r, w.last = some r → Performs findBlackCenter findSkinCenter r w e

end System

/-- The event is no iteration that follows an `off` request. -/
def NotAfterOff (w : World) : Event → Prop
  | .request _ _ _ => True
  | .poll _ => w.det.status = .running → w.last ≠ some .off

/-- `web_source` runs, and no command is waiting. -/
def World.Start (w : World) : Prop :=
  w.web.status = .running ∧ w.web.sd.switchIni = none ∧ w.last = none

/-! ## What `web_source` makes of the two requests -/

theorem step_on (s : WebSource.State) (hs : s.status = .running) (env : WebSource.Env)
    (hf : env.fopen = true) :
    (WebSource.step s (env, .data Command.on.bytes)).status = .running ∧
      (WebSource.step s (env, .data Command.on.bytes)).sd.switchIni = some (ascii "on" ++ [0]) := by
  have hfile : (WebSource.readBuff Command.on.bytes).take 3 = ascii "on" ++ [0] := by rfl
  rw [WebSource.step_data s hs, WebSource.receive_eq, WebSource.recognise_bytes]
  simp [WebSource.kind, WebSource.onCommand, hf, WebSource.State.emit, hs, hfile]

/-- The request `off` is not recognised. -/
theorem step_off (s : WebSource.State) (hs : s.status = .running) (env : WebSource.Env) :
    (WebSource.step s (env, .data Command.off.bytes)).status = .running ∧
      (WebSource.step s (env, .data Command.off.bytes)).sd = s.sd := by
  rw [WebSource.step_data s hs, WebSource.receive_eq, WebSource.recognise_bytes]
  simp [WebSource.kind, hs]

/-! ## Runs of the system -/

/-- `switch.ini` holds at most the command `on`, and holds it after such a
request. -/
structure Inv (w : World) : Prop where
  running : w.web.status = .running
  file : w.web.sd.switchIni = none ∨ w.web.sd.switchIni = some (ascii "on" ++ [0])
  last_on : w.last = some .on → w.web.sd.switchIni = some (ascii "on" ++ [0])

variable {findBlackCenter findSkinCenter : DiffDitect.FindCenter}

theorem inv_of_start (w : World) (hw : w.Start) : Inv w := by
  obtain ⟨hr, hsw, hl⟩ := hw
  exact ⟨hr, .inl hsw, by simp [hl]⟩

theorem inv_step (w : World) (ev : Event) (h : Inv w) :
    Inv (step findBlackCenter findSkinCenter w ev) := by
  cases ev with
  | request r env stored =>
    cases r with
    | on =>
      obtain ⟨hr, hfile⟩ := step_on w.web h.running env stored
      exact ⟨hr, .inr hfile, fun _ => hfile⟩
    | off =>
      obtain ⟨hr, hsd⟩ := step_off w.web h.running env
      have hweb : (step findBlackCenter findSkinCenter w (.request .off env stored)).web.sd =
          w.web.sd := hsd
      refine ⟨hr, ?_, by simp [step, switchRequest, Switch.type]⟩
      rw [hweb]
      exact h.file
  | poll e =>
    refine ⟨h.running, ?_, by simp [step]⟩
    by_cases hs : w.det.status = .running
    · left
      simp [step, DiffDitect.iterate_sd _ _ w.det hs]
    · simpa [step, DiffDitect.iterate, hs] using h.file

/-- With `on` in the file the iteration switches the fence on. -/
theorem performs_on (w : World) (hs : w.det.status = .running) (e : DiffDitect.Surroundings)
    (hfile : w.web.sd.switchIni = some (ascii "on" ++ [0])) :
    Performs findBlackCenter findSkinCenter .on w e := by
  have hp : DiffDitect.poll w.web.sd.switchIni e.cbuff = .on := by
    rw [hfile]
    exact DiffDitect.poll_on e.cbuff
  refine ⟨hp, ?_, ?_⟩
  · simp [step, DiffDitect.iterate, hs, hp, DiffDitect.State.next, Switch.fence]
  · simp [step, DiffDitect.iterate, hs, hp, DiffDitect.State.next]

/-- No file that the requests leave makes an iteration switch the fence off. -/
theorem not_performs_off (w : World) (h : Inv w) (e : DiffDitect.Surroundings) :
    ¬ Performs findBlackCenter findSkinCenter .off w e := by
  rintro ⟨hp, -⟩
  rcases h.file with hnone | hon
  · rw [hnone] at hp
    cases hp
  · rw [hon, DiffDitect.poll_on] at hp
    cases hp

theorem pollObeys_iff (w : World) (ev : Event) (h : Inv w) :
    PollObeys findBlackCenter findSkinCenter w ev ↔ NotAfterOff w ev := by
  cases ev with
  | request r env stored => exact Iff.rfl
  | poll e =>
    constructor
    · intro hobeys hs hoff
      exact not_performs_off w h e (hobeys hs .off hoff)
    · intro hnot hs r hr
      cases r with
      | on => exact performs_on w hs e (h.last_on hr)
      | off => exact absurd hr (hnot hs)

/-- In a run of requests and iterations every iteration performs the request
before it exactly when none of them follows an `off` request. -/
theorem forced_switch_iff (findBlackCenter findSkinCenter : DiffDitect.FindCenter) (w : World)
    (hw : w.Start) (events : List Event) :
    EveryStep (step findBlackCenter findSkinCenter) (PollObeys findBlackCenter findSkinCenter) w
      events ↔
    EveryStep (step findBlackCenter findSkinCenter) NotAfterOff w events :=
  everyStep_iff_everyStep Inv (fun w ev h _ => inv_step w ev h) pollObeys_iff w (inv_of_start w hw)
    events

/-- Both programs at the head of their loops, on an empty card, with a camera
that never answers. -/
def quietWorld : World := ⟨.fresh, .init none [], none⟩

def quietSurroundings : DiffDitect.Surroundings := ⟨[1, 2, 3, 4, 5], rfl, false, none⟩

def noCenter : DiffDitect.FindCenter := fun _ _ => (-1, -1)

theorem forced_switch_on :
    EveryStep (step noCenter noCenter) (PollObeys noCenter noCenter) quietWorld
      [.request .on .noCamera rfl, .poll quietSurroundings] :=
  (forced_switch_iff noCenter noCenter quietWorld ⟨rfl, rfl, rfl⟩ _).mpr
    ⟨trivial, fun _ h => (by cases h), trivial⟩

/-- After `on` was performed, the request `off` is followed by an iteration
that does not switch the fence off. -/
theorem off_request_not_performed :
    let events : List Event := [.request .on .noCamera rfl, .poll quietSurroundings,
      .request .off .noCamera rfl, .poll quietSurroundings]
    ¬ EveryStep (step noCenter noCenter) (PollObeys noCenter noCenter) quietWorld events ∧
      (run (step noCenter noCenter) quietWorld events).det.isOn = true := by
  refine ⟨?_, by decide +kernel⟩
  rintro ⟨-, -, -, hpoll, -⟩
  have hperforms := hpoll (by decide +kernel) .off rfl
  have hp : DiffDitect.poll none quietSurroundings.cbuff = .off := hperforms.1
  cases hp

end Sprefence.ForcedSwitch

import Sprefence.Video.SingleBuffer

/-! The camera that `diff_ditect` and `web_source` share. Both open `/dev/video`, and the
driver has one queue for all of them. `diff_ditect` streams with one buffer; `web_source`
prepares the camera when a picture is asked for, at any time. What a program does in the
driver is cut where its critical sections end, so that the other one and the interrupt come
also between the parts of `change_video_state`; a `memcpy` is one step. -/

namespace Sprefence.VideoDriver

open VideoFramebuff

/-! ## The programs -/

/-- Where `diff_ditect` is in its loop. -/
inductive Place
  /-- Before `set_camimage`. -/
  | setCamimage
  | got (container : Nat)
  | copied (container : Nat)
  | queued
  /-- `video_qbuf` has seen a stream that waits for a buffer. -/
  | checked
  | changing (change : Change)
  /-- Before `get_camimage`. -/
  | getCamimage
  | found
  | started
  | waiting
  | dequeued (container : Nat)
  | returned (container : Nat) (buf : V4l2Buffer)
  /-- `VIDIOC_QBUF` has failed, and `main` returns. -/
  | ended
  deriving DecidableEq

/-- Where `web_source` is in its `camera_prepare`. -/
inductive Client
  | closed
  | opened
  | requested
  | format0
  | format1
  | prepared
  /-- An `ioctl` has failed, and the device is to be closed. -/
  | failed
  deriving DecidableEq, Repr

/-- What a `VIDIOC_REQBUFS` of `web_source` has done to the queue of `diff_ditect`. -/
inductive Fate
  | whole
  /-- The buffer was taken out of the queue before `change_video_state` looked for it. -/
  | lost
  /-- It was taken out of the queue inside of `change_video_state`, which starts the camera. -/
  | struck
  deriving DecidableEq, Repr

/-- One round of `diff_ditect`, from its `VIDIOC_QBUF` on. -/
structure Round where
  /-- The address in the container was cleared. -/
  cleared : Bool
  fate : Fate
  deriving DecidableEq, Repr

structure Shared where
  driver : Driver
  detector : Place
  webSource : Client
  round : Round
  /-- What `get_camimage` returned, and whether it was cleared in its round. -/
  frames : List (Nat × Bool)

inductive Turn
  | detector
  | webSource
  | complete (errCode : Bool) (datasize : Nat)

/-- `camera_prepare` of `diff_ditect`, with its memory allocated. -/
def cameraPrepare (validate : List Format → Except Errno Unit) (sensor : Except Errno Unit)
    (malloc : Bool) (d : Driver) : Option (Driver × Except Errno Unit) := do
  let (d, ret) := d.videoOpen sensor
  match ret with
  | .error e => some (d, .error e)
  | .ok () =>
    let (d, ret) ← d.videoReqbufs .ring 1 malloc
    match ret with
    | .error e => some (d.videoClose, .error e)
    | .ok () =>
      let (d, ret) := d.videoSFmt validate ⟨320, 240, .uyvy⟩
      match ret with
      | .error e => some (d.videoClose, .error e)
      | .ok () =>
        let (d, ret) ← d.videoStreamon
        match ret with
        | .error e => some (d.videoClose, .error e)
        | .ok () => some (d, .ok ())

namespace Shared

/-- `diff_ditect` is prepared. -/
def init (d : Driver) : Shared := ⟨d, .setCamimage, .closed, ⟨false, .whole⟩, []⟩

/-- `frameMem` is the address of the only buffer. -/
def stepDetector (frameMem : Nat) (s : Shared) : Option Shared :=
  match s.detector with
  | .setCamimage => s.driver.qbufGet.map fun (d, container) =>
    match container with
    | some c => { s with driver := d, detector := .got c, round := ⟨false, .whole⟩ }
    | none => { s with driver := d.videoClose, detector := .ended }
  | .got c => (s.driver.qbufCopy c ⟨frameMem, 320 * 240 * 2, 0, false⟩).map fun d =>
    { s with driver := d, detector := .copied c }
  | .copied c => (s.driver.qbufQueue c).map fun d => { s with driver := d, detector := .queued }
  | .queued =>
    some { s with detector := if s.driver.state = .streamon then .checked else .getCamimage }
  | .checked =>
    let (d, change) := s.driver.changeBegin
      (estimateNextVideoState s.driver.state false .videoStart)
    some { s with driver := d, detector := .changing change }
  | .changing (.start c) => (s.driver.startCapture c).map fun d =>
    { s with driver := d, detector := .changing (.finish .capture) }
  | .changing (.finish next) =>
    some { s with driver := s.driver.changeEnd next, detector := .getCamimage }
  | .getCamimage => s.driver.dqbufGet.map fun (d, container) =>
    match container with
    | some c => { s with driver := d, detector := .dequeued c }
    | none => { s with driver := d, detector := .found }
  | .found => s.driver.dqbufStart.map fun d => { s with driver := d, detector := .started }
  | .started => some { s with driver := s.driver.dqbufWait, detector := .waiting }
  | .waiting => s.driver.dqbufWake.map fun (d, c) => { s with driver := d, detector := .dequeued c }
  | .dequeued c => (s.driver.dqbufCopy c).map fun buf => { s with detector := .returned c buf }
  | .returned c buf => (s.driver.dqbufFree c).map fun d =>
    { s with
      driver := d
      detector := .setCamimage
      frames := s.frames ++ [(buf.userptr, s.round.cleared)] }
  | .ended => some s

/-- What it means for the round that the buffers are requested anew. -/
def hitBy (s : Shared) : Round :=
  match s.detector with
  | .copied _ => { s.round with cleared := true }
  | .queued => { s.round with fate := .lost }
  | .checked => { s.round with fate := .lost }
  | .changing (.start _) => ⟨true, .struck⟩
  | .changing (.finish .capture) => { s.round with fate := .struck }
  | .waiting => { s.round with cleared := s.round.cleared || decide (0 ≤ s.driver.dqbufWaitFlg) }
  | .dequeued _ => { s.round with cleared := true }
  | _ => s.round

def stepWebSource (validate : List Format → Except Errno Unit) (s : Shared) : Option Shared :=
  match s.webSource with
  | .closed => some { s with driver := (s.driver.videoOpen (.ok ())).1, webSource := .opened }
  | .opened => (s.driver.videoReqbufs .ring 1 true).map fun (d, ret) =>
    match ret with
    | .ok () => { s with driver := d, webSource := .requested, round := s.hitBy }
    | .error _ => { s with driver := d, webSource := .failed }
  | .requested =>
    let (d, ret) := s.driver.videoSFmt validate ⟨640, 480, .jpegWithSubimg⟩
    some { s with driver := d, webSource := if ret = .ok () then .format0 else .failed }
  | .format0 =>
    let (d, ret) := s.driver.videoSFmt validate ⟨320, 240, .subimgUyvy⟩
    some { s with driver := d, webSource := if ret = .ok () then .format1 else .failed }
  | .format1 => s.driver.videoStreamon.map fun (d, ret) =>
    { s with driver := d, webSource := if ret = .ok () then .prepared else .failed }
  | .prepared => some s
  -- video_uninitialize returns at once. The source keeps video_fd and does not open the device
  -- again; here it may, any number of times
  | .failed => some { s with driver := s.driver.videoClose, webSource := .closed }

def step (validate : List Format → Except Errno Unit) (frameMem : Nat) (s : Shared) :
    Turn → Option Shared
  | .detector => s.stepDetector frameMem
  | .webSource => s.stepWebSource validate
  | .complete errCode datasize =>
    (s.driver.videoCompleteCapture errCode datasize).map fun d => { s with driver := d }

/-- A task that waits does not run, and an interrupt comes from a running camera. -/
def Allowed (s : Shared) : Turn → Prop
  | .detector => s.detector = .waiting → 0 ≤ s.driver.dqbufWaitFlg
  | .webSource => True
  | .complete _ _ => s.driver.camera ≠ none

instance Allowed.decidable (s : Shared) : DecidablePred s.Allowed := fun t => by
  cases t <;> (unfold Allowed; infer_instance)

end Shared

/-- The address in the container after what has happened in the round. -/
def Round.address (frameMem : Nat) (r : Round) : Nat := if r.cleared then 0 else frameMem

/-- How far it is to the next frame. -/
def Place.rank : Place → Nat
  | .setCamimage => 12
  | .got _ => 11
  | .copied _ => 10
  | .queued => 9
  | .checked => 8
  | .changing (.start _) => 7
  | .changing (.finish _) => 6
  | .getCamimage => 5
  | .found => 4
  | .started => 3
  | .waiting => 2
  | .dequeued _ => 1
  | .returned _ _ => 0
  | .ended => 0

/-! ## The invariant -/

namespace Shared

/-- The address in the only container is the one of the round. -/
def Addressed (frameMem : Nat) (s : Shared) : Prop :=
  (s.driver.bufinf.buf 0).userptr = s.round.address frameMem

/-- The detector waits, and no frame has come. -/
def Waiting (d : Driver) : Prop := d.dqbufWaitFlg = -1 ∧ d.doneContainer = none

/-- What the driver is in at each place of a round that goes on. -/
def Whole (frameMem : Nat) (s : Shared) : Prop :=
  match s.detector with
  | .setCamimage => Resting s.driver ∧ s.driver.bufinf.vbufEmpty = some 0 ∧ s.driver.Unwaited
  | .got c => c = 0 ∧ Resting s.driver ∧ s.driver.Unwaited ∧ s.round.cleared = false
  | .copied c => c = 0 ∧ Resting s.driver ∧ s.driver.Unwaited ∧ s.Addressed frameMem
  | .queued => Pending s.driver ∧ s.driver.Unwaited ∧ s.Addressed frameMem
  | .checked => Pending s.driver ∧ s.driver.Unwaited ∧ s.Addressed frameMem
  | .changing (.start c) => c = 0 ∧ Pending s.driver ∧ s.driver.bufinf.vbufCurr = some 0 ∧
      s.driver.Unwaited ∧ s.Addressed frameMem
  | .changing (.finish next) => next = .capture ∧ Rolling s.driver ∧ s.driver.state = .streamon ∧
      s.driver.Unwaited ∧ s.Addressed frameMem
  | .waiting =>
      (Rolling s.driver ∧ s.driver.state = .capture ∧ Waiting s.driver ∧ s.Addressed frameMem) ∨
        (Resting s.driver ∧ s.driver.dqbufWaitFlg = 0 ∧ s.driver.doneContainer = some 0 ∧
          s.Addressed frameMem)
  | .dequeued c => c = 0 ∧ Resting s.driver ∧ s.driver.Unwaited ∧ s.Addressed frameMem
  | .returned c buf => c = 0 ∧ Resting s.driver ∧ s.driver.Unwaited ∧
      buf.userptr = s.round.address frameMem
  | .ended => False
  | _ => Rolling s.driver ∧ s.driver.state = .capture ∧ s.driver.Unwaited ∧ s.Addressed frameMem

/-- The detector is on the way to a wait that does not end, or in it. -/
def Waits (s : Shared) : Prop :=
  match s.detector with
  | .getCamimage => s.driver.Unwaited
  | .found => s.driver.Unwaited
  | .started => s.driver.Unwaited
  | .waiting => Waiting s.driver
  | _ => False

/-- No capture is started without a buffer. -/
def Lost (s : Shared) : Prop :=
  Resting s.driver ∧
    match s.detector with
    | .queued => s.driver.Unwaited
    | .checked => s.driver.Unwaited
    | .changing change => change = .finish .streamon ∧ s.driver.Unwaited
    | _ => s.Waits

/-- The camera runs, and there is no buffer that it fills. -/
def Struck (frameMem : Nat) (s : Shared) : Prop :=
  Unqueued s.driver.bufinf ∧ s.driver.bufinf.vbufCurr = none ∧
    match s.detector with
    | .changing (.start c) => c = 0 ∧ s.driver.state = .streamon ∧ s.driver.camera = none ∧
        s.driver.Unwaited ∧ s.Addressed frameMem
    | .changing (.finish next) => next = .capture ∧ s.driver.state = .streamon ∧
        s.driver.camera = some (s.round.address frameMem) ∧ s.driver.Unwaited
    | _ => s.driver.state = .capture ∧ s.driver.camera = some (s.round.address frameMem) ∧ s.Waits

def Detects (frameMem : Nat) (s : Shared) : Prop :=
  match s.round.fate with
  | .whole => s.Whole frameMem
  | .lost => s.Lost
  | .struck => s.Struck frameMem

structure Inv (frameMem : Nat) (s : Shared) : Prop where
  detects : s.Detects frameMem
  openNum : s.driver.openNum = if s.webSource = .closed then 1 else 2
  client : s.webSource ∈ [Client.closed, .opened, .requested, .failed]
  frames : ∀ f ∈ s.frames, f.1 = if f.2 then 0 else frameMem

variable {frameMem : Nat} {s : Shared}

theorem Detects.of_whole (hfate : s.round.fate = .whole) (h : s.Whole frameMem) :
    s.Detects frameMem := by simpa only [Detects, hfate] using h

theorem Detects.of_lost (hfate : s.round.fate = .lost) (h : s.Lost) : s.Detects frameMem := by
  simpa only [Detects, hfate] using h

theorem Detects.of_struck (hfate : s.round.fate = .struck) (h : s.Struck frameMem) :
    s.Detects frameMem := by simpa only [Detects, hfate] using h

theorem Detects.whole (h : s.Detects frameMem) (hfate : s.round.fate = .whole) :
    s.Whole frameMem := by simpa only [Detects, hfate] using h

theorem Detects.lost (h : s.Detects frameMem) (hfate : s.round.fate = .lost) : s.Lost := by
  simpa only [Detects, hfate] using h

theorem Detects.struck (h : s.Detects frameMem) (hfate : s.round.fate = .struck) :
    s.Struck frameMem := by simpa only [Detects, hfate] using h

/-- The number of programs that have the device open does not matter to the stream. -/
theorem Detects.of_openNum (h : s.Detects frameMem) (n : Nat) (b : Client) :
    Detects frameMem { s with driver := { s.driver with openNum := n }, webSource := b } := h

/-! ## The steps of the detector -/

/-- A step on the way to the next frame. -/
structure Advances (s s' : Shared) : Prop where
  frames : s'.frames = s.frames
  fate : s'.round.fate = s.round.fate
  rank : s'.detector.rank < s.detector.rank

/-- The detector goes on within its round. -/
theorem Inv.goes_on (h : Inv frameMem s) (d : Driver) (place : Place)
    (hstep : s.stepDetector frameMem = some { s with driver := d, detector := place })
    (hopen : d.openNum = s.driver.openNum) (hrank : place.rank < s.detector.rank)
    (hdetects : Detects frameMem { s with driver := d, detector := place }) :
    ∃ s', s.stepDetector frameMem = some s' ∧ Inv frameMem s' ∧ s.Advances s' :=
  ⟨_, hstep, ⟨hdetects, hopen.trans h.openNum, h.client, h.frames⟩, rfl, rfl, hrank⟩

section WholeRound

variable (h : Inv frameMem s) (hfate : s.round.fate = .whole)
include h hfate

theorem setCamimage_inv (hplace : s.detector = .setCamimage) :
    ∃ s', s.stepDetector frameMem = some s' ∧ Inv frameMem s' ∧ s.Advances s' := by
  obtain ⟨hrest, hempty, hunwaited⟩ : Resting s.driver ∧ s.driver.bufinf.vbufEmpty = some 0 ∧
      s.driver.Unwaited := by simpa only [Whole, hplace] using h.detects.whole hfate
  obtain ⟨d, hget, hrest', hkeeps⟩ := Driver.qbufGet_resting hrest hempty
  refine ⟨{ s with driver := d, detector := .got 0, round := ⟨false, .whole⟩ }, ?_,
    ⟨.of_whole rfl ⟨rfl, hrest', hunwaited.of_keeps hkeeps, rfl⟩, hkeeps.openNum.trans h.openNum,
      h.client, h.frames⟩, rfl, hfate.symm, ?_⟩
  · simp [stepDetector, hplace, hget]
  · simp [hplace, Place.rank]

theorem got_inv {c : Nat} (hplace : s.detector = .got c) :
    ∃ s', s.stepDetector frameMem = some s' ∧ Inv frameMem s' ∧ s.Advances s' := by
  obtain ⟨rfl, hrest, hunwaited, hclean⟩ : c = 0 ∧ Resting s.driver ∧ s.driver.Unwaited ∧
      s.round.cleared = false := by simpa only [Whole, hplace] using h.detects.whole hfate
  obtain ⟨d, hcopy, hrest', hbuf, hopen, hunwaited'⟩ :=
    Driver.qbufCopy_resting hrest ⟨frameMem, 320 * 240 * 2, 0, false⟩
  have hptr : Addressed frameMem { s with driver := d, detector := .copied 0 } := by
    simp [Addressed, hbuf, Round.address, hclean]
  refine h.goes_on d (.copied 0) ?_ hopen (by simp [hplace, Place.rank])
    (.of_whole hfate ⟨rfl, hrest', hunwaited' hunwaited, hptr⟩)
  simp only [stepDetector, hplace, hcopy, Option.map_some]

theorem copied_inv {c : Nat} (hplace : s.detector = .copied c) :
    ∃ s', s.stepDetector frameMem = some s' ∧ Inv frameMem s' ∧ s.Advances s' := by
  obtain ⟨rfl, hrest, hunwaited, hptr⟩ : c = 0 ∧ Resting s.driver ∧ s.driver.Unwaited ∧
      s.Addressed frameMem := by simpa only [Whole, hplace] using h.detects.whole hfate
  obtain ⟨d, hqueue, hpending, hkeeps⟩ := Driver.qbufQueue_resting hrest
  have hptr' : Addressed frameMem { s with driver := d, detector := .queued } := by
    simpa only [Addressed, hkeeps.buf] using hptr
  refine h.goes_on d .queued ?_ hkeeps.openNum (by simp [hplace, Place.rank])
    (.of_whole hfate ⟨hpending, hunwaited.of_keeps hkeeps, hptr'⟩)
  simp only [stepDetector, hplace, hqueue, Option.map_some]

theorem queued_inv (hplace : s.detector = .queued) :
    ∃ s', s.stepDetector frameMem = some s' ∧ Inv frameMem s' ∧ s.Advances s' := by
  have hwhole : Pending s.driver ∧ s.driver.Unwaited ∧ s.Addressed frameMem := by
    simpa only [Whole, hplace] using h.detects.whole hfate
  refine h.goes_on s.driver .checked ?_ rfl (by simp [hplace, Place.rank])
    (.of_whole hfate hwhole)
  simp only [stepDetector, hplace, hwhole.1.2.1, if_true]

theorem checked_inv (hplace : s.detector = .checked) :
    ∃ s', s.stepDetector frameMem = some s' ∧ Inv frameMem s' ∧ s.Advances s' := by
  obtain ⟨hpending, hunwaited, hptr⟩ : Pending s.driver ∧ s.driver.Unwaited ∧
      s.Addressed frameMem := by simpa only [Whole, hplace] using h.detects.whole hfate
  refine h.goes_on { s.driver with bufinf := { s.driver.bufinf with vbufCurr := some 0 } }
    (.changing (.start 0)) ?_ rfl (by simp [hplace, Place.rank])
    (.of_whole hfate ⟨rfl, ⟨hpending.1.of_curr (some 0), hpending.2⟩, rfl, hunwaited, hptr⟩)
  simp [stepDetector, hplace, estimateNextVideoState, Driver.changeBegin_pending hpending]

theorem start_inv {c : Nat} (hplace : s.detector = .changing (.start c)) :
    ∃ s', s.stepDetector frameMem = some s' ∧ Inv frameMem s' ∧ s.Advances s' := by
  obtain ⟨rfl, ⟨hchained, hstate, -⟩, hcurr, hunwaited, hptr⟩ : c = 0 ∧ Pending s.driver ∧
      s.driver.bufinf.vbufCurr = some 0 ∧ s.driver.Unwaited ∧ s.Addressed frameMem := by
    simpa only [Whole, hplace] using h.detects.whole hfate
  refine h.goes_on { s.driver with camera := some (s.driver.bufinf.buf 0).userptr }
    (.changing (.finish .capture)) ?_ rfl (by simp [hplace, Place.rank])
    (.of_whole hfate ⟨rfl, ⟨hchained, hcurr, rfl⟩, hstate, hunwaited, hptr⟩)
  simp only [stepDetector, hplace, Driver.startCapture_single hchained.single, Option.map_some]

theorem finish_inv {next : VideoState} (hplace : s.detector = .changing (.finish next)) :
    ∃ s', s.stepDetector frameMem = some s' ∧ Inv frameMem s' ∧ s.Advances s' := by
  obtain ⟨rfl, hrolling, -, hunwaited, hptr⟩ : next = .capture ∧ Rolling s.driver ∧
      s.driver.state = .streamon ∧ s.driver.Unwaited ∧ s.Addressed frameMem := by
    simpa only [Whole, hplace] using h.detects.whole hfate
  refine h.goes_on (s.driver.changeEnd .capture) .getCamimage ?_ rfl
    (by simp [hplace, Place.rank]) (.of_whole hfate ⟨hrolling, rfl, hunwaited, hptr⟩)
  simp only [stepDetector, hplace]

theorem getCamimage_inv (hplace : s.detector = .getCamimage) :
    ∃ s', s.stepDetector frameMem = some s' ∧ Inv frameMem s' ∧ s.Advances s' := by
  have hwhole : Rolling s.driver ∧ s.driver.state = .capture ∧ s.driver.Unwaited ∧
      s.Addressed frameMem := by simpa only [Whole, hplace] using h.detects.whole hfate
  have htop : s.driver.bufinf.vbufTop = s.driver.bufinf.vbufNext := by
    rw [hwhole.1.1.top, hwhole.1.1.next]
  refine h.goes_on s.driver .found ?_ rfl (by simp [hplace, Place.rank])
    (.of_whole hfate hwhole)
  simp only [stepDetector, hplace, Driver.dqbufGet_single htop, Option.map_some]

theorem found_inv (hplace : s.detector = .found) :
    ∃ s', s.stepDetector frameMem = some s' ∧ Inv frameMem s' ∧ s.Advances s' := by
  have hwhole : Rolling s.driver ∧ s.driver.state = .capture ∧ s.driver.Unwaited ∧
      s.Addressed frameMem := by simpa only [Whole, hplace] using h.detects.whole hfate
  refine h.goes_on s.driver .started ?_ rfl (by simp [hplace, Place.rank])
    (.of_whole hfate hwhole)
  simp only [stepDetector, hplace, Driver.dqbufStart_capture hwhole.2.1, Option.map_some]

theorem started_inv (hplace : s.detector = .started) :
    ∃ s', s.stepDetector frameMem = some s' ∧ Inv frameMem s' ∧ s.Advances s' := by
  obtain ⟨hrolling, hstate, hunwaited, hptr⟩ : Rolling s.driver ∧ s.driver.state = .capture ∧
      s.driver.Unwaited ∧ s.Addressed frameMem := by
    simpa only [Whole, hplace] using h.detects.whole hfate
  refine h.goes_on (s.driver.dqbufWait) .waiting ?_ rfl
    (by simp [hplace, Place.rank])
    (.of_whole hfate (.inl ⟨hrolling, hstate, ⟨?_, hunwaited.2⟩, hptr⟩))
  · simp only [stepDetector, hplace]
  · simp [Driver.dqbufWait, hunwaited.1]

theorem waiting_inv (hplace : s.detector = .waiting) (hflg : 0 ≤ s.driver.dqbufWaitFlg) :
    ∃ s', s.stepDetector frameMem = some s' ∧ Inv frameMem s' ∧ s.Advances s' := by
  have hwhole := h.detects.whole hfate
  simp only [Whole, hplace] at hwhole
  obtain ⟨-, -, ⟨hneg, -⟩, -⟩ | ⟨hrest, hzero, hdone, hptr⟩ := hwhole
  · omega
  · refine h.goes_on { s.driver with doneContainer := none } (.dequeued 0) ?_ rfl
      (by simp [hplace, Place.rank]) (.of_whole hfate ⟨rfl, hrest, ⟨hzero, rfl⟩, hptr⟩)
    simp [stepDetector, hplace, Driver.dqbufWake, hdone]

theorem dequeued_inv {c : Nat} (hplace : s.detector = .dequeued c) :
    ∃ s', s.stepDetector frameMem = some s' ∧ Inv frameMem s' ∧ s.Advances s' := by
  obtain ⟨rfl, hrest, hunwaited, hptr⟩ : c = 0 ∧ Resting s.driver ∧ s.driver.Unwaited ∧
      s.Addressed frameMem := by simpa only [Whole, hplace] using h.detects.whole hfate
  refine h.goes_on s.driver (.returned 0 (s.driver.bufinf.buf 0)) ?_ rfl
    (by simp [hplace, Place.rank]) (.of_whole hfate ⟨rfl, hrest, hunwaited, hptr⟩)
  simp [stepDetector, hplace, Driver.dqbufCopy, Framebuff.deref_some, hrest.1.single.pos]

/-- The place where a round ends with a frame. -/
theorem returned_inv {c : Nat} {buf : V4l2Buffer} (hplace : s.detector = .returned c buf) :
    ∃ s', s.stepDetector frameMem = some s' ∧ Inv frameMem s' ∧
      s'.frames = s.frames ++ [(buf.userptr, s.round.cleared)] := by
  obtain ⟨rfl, hrest, hunwaited, hptr⟩ : c = 0 ∧ Resting s.driver ∧ s.driver.Unwaited ∧
      buf.userptr = s.round.address frameMem := by
    simpa only [Whole, hplace] using h.detects.whole hfate
  obtain ⟨d, hfree, hrest', hempty, hkeeps⟩ := Driver.dqbufFree_resting hrest
  refine ⟨{ s with
    driver := d
    detector := .setCamimage
    frames := s.frames ++ [(buf.userptr, s.round.cleared)] }, ?_,
    ⟨.of_whole hfate ⟨hrest', hempty, hunwaited.of_keeps hkeeps⟩, hkeeps.openNum.trans h.openNum,
      h.client, ?_⟩, rfl⟩
  · simp only [stepDetector, hplace, hfree, Option.map_some]
  · intro f hf
    obtain hf | rfl : f ∈ s.frames ∨ f = (buf.userptr, s.round.cleared) := by
      simpa only [List.mem_append, List.mem_singleton] using hf
    · exact h.frames f hf
    · exact hptr

/-- In a round that goes on the detector comes to its frame. -/
theorem whole_inv (ht : s.Allowed .detector) :
    (∃ s', s.stepDetector frameMem = some s' ∧ Inv frameMem s' ∧ s.Advances s') ∨
      ∃ s', s.stepDetector frameMem = some s' ∧ Inv frameMem s' ∧ s'.frames ≠ s.frames := by
  cases hplace : s.detector with
  | setCamimage => exact .inl (setCamimage_inv h hfate hplace)
  | got c => exact .inl (got_inv h hfate hplace)
  | copied c => exact .inl (copied_inv h hfate hplace)
  | queued => exact .inl (queued_inv h hfate hplace)
  | checked => exact .inl (checked_inv h hfate hplace)
  | changing change =>
    cases change with
    | start c => exact .inl (start_inv h hfate hplace)
    | finish next => exact .inl (finish_inv h hfate hplace)
  | getCamimage => exact .inl (getCamimage_inv h hfate hplace)
  | found => exact .inl (found_inv h hfate hplace)
  | started => exact .inl (started_inv h hfate hplace)
  | waiting => exact .inl (waiting_inv h hfate hplace (ht hplace))
  | dequeued c => exact .inl (dequeued_inv h hfate hplace)
  | returned c buf =>
    obtain ⟨s', hs', hinv, hframes⟩ := returned_inv h hfate hplace
    exact .inr ⟨s', hs', hinv, by simp [hframes]⟩
  | ended =>
    have hwhole := h.detects.whole hfate
    simp only [Whole, hplace] at hwhole

end WholeRound

/-- Without its buffer the detector goes on to its wait. -/
theorem lost_inv (h : Inv frameMem s) (hfate : s.round.fate = .lost) (ht : s.Allowed .detector) :
    ∃ s', s.stepDetector frameMem = some s' ∧ Inv frameMem s' ∧ s.Advances s' := by
  obtain ⟨hrest, hplaces⟩ := h.detects.lost hfate
  have hrest' : Resting { s.driver with bufinf := { s.driver.bufinf with vbufCurr := none } } :=
    ⟨hrest.1.of_curr none, hrest.2⟩
  have htop : s.driver.bufinf.vbufTop = s.driver.bufinf.vbufNext := by
    rw [hrest.1.top, hrest.1.next]
  cases hplace : s.detector <;> simp only [Waits, hplace] at hplaces
  case queued =>
    refine h.goes_on s.driver .checked ?_ rfl (by simp [hplace, Place.rank])
      (.of_lost hfate ⟨hrest, hplaces⟩)
    simp only [stepDetector, hplace, hrest.2.1, if_true]
  case checked =>
    refine h.goes_on { s.driver with bufinf := { s.driver.bufinf with vbufCurr := none } }
      (.changing (.finish .streamon)) ?_ rfl (by simp [hplace, Place.rank])
      (.of_lost hfate ⟨hrest', rfl, hplaces⟩)
    simp [stepDetector, hplace, estimateNextVideoState, Driver.changeBegin_resting hrest]
  case changing change =>
    obtain ⟨rfl, hunwaited⟩ := hplaces
    refine h.goes_on (s.driver.changeEnd .streamon) .getCamimage ?_ rfl
      (by simp [hplace, Place.rank]) (.of_lost hfate ⟨⟨hrest.1, rfl, hrest.2.2⟩, hunwaited⟩)
    simp only [stepDetector, hplace]
  case getCamimage =>
    refine h.goes_on s.driver .found ?_ rfl (by simp [hplace, Place.rank])
      (.of_lost hfate ⟨hrest, hplaces⟩)
    simp only [stepDetector, hplace, Driver.dqbufGet_single htop, Option.map_some]
  case found =>
    refine h.goes_on { s.driver with bufinf := { s.driver.bufinf with vbufCurr := none } }
      .started ?_ rfl (by simp [hplace, Place.rank])
      (.of_lost hfate ⟨hrest', hplaces⟩)
    simp only [stepDetector, hplace, Driver.dqbufStart_resting hrest, Option.map_some]
  case started =>
    refine h.goes_on (s.driver.dqbufWait) .waiting ?_ rfl
      (by simp [hplace, Place.rank]) (.of_lost hfate ⟨hrest, ?_, hplaces.2⟩)
    · simp only [stepDetector, hplace]
    · simp [Driver.dqbufWait, hplaces.1]
  case waiting =>
    have hflg := ht hplace
    rw [hplaces.1] at hflg
    omega

/-- The camera is started, and the detector goes on to its wait. -/
theorem struck_inv (h : Inv frameMem s) (hfate : s.round.fate = .struck)
    (ht : s.Allowed .detector) :
    ∃ s', s.stepDetector frameMem = some s' ∧ Inv frameMem s' ∧ s.Advances s' := by
  obtain ⟨hunqueued, hcurr, hplaces⟩ := h.detects.struck hfate
  have htop : s.driver.bufinf.vbufTop = s.driver.bufinf.vbufNext := by
    rw [hunqueued.top, hunqueued.next]
  cases hplace : s.detector <;> simp only [Waits, hplace, and_false] at hplaces
  case changing change =>
    cases change with
    | start c =>
      obtain ⟨rfl, hstate, -, hunwaited, hptr⟩ := hplaces
      refine h.goes_on { s.driver with camera := some (s.driver.bufinf.buf 0).userptr }
        (.changing (.finish .capture)) ?_ rfl (by simp [hplace, Place.rank])
        (.of_struck hfate ⟨hunqueued, hcurr, rfl, hstate, congrArg some hptr, hunwaited⟩)
      simp only [stepDetector, hplace, Driver.startCapture_single hunqueued.single, Option.map_some]
    | finish next =>
      obtain ⟨rfl, -, hcamera, hunwaited⟩ := hplaces
      refine h.goes_on (s.driver.changeEnd .capture) .getCamimage ?_ rfl
        (by simp [hplace, Place.rank])
        (.of_struck hfate ⟨hunqueued, hcurr, rfl, hcamera, hunwaited⟩)
      simp only [stepDetector, hplace]
  case getCamimage =>
    refine h.goes_on s.driver .found ?_ rfl (by simp [hplace, Place.rank])
      (.of_struck hfate ⟨hunqueued, hcurr, hplaces⟩)
    simp only [stepDetector, hplace, Driver.dqbufGet_single htop, Option.map_some]
  case found =>
    refine h.goes_on s.driver .started ?_ rfl (by simp [hplace, Place.rank])
      (.of_struck hfate ⟨hunqueued, hcurr, hplaces⟩)
    simp only [stepDetector, hplace, Driver.dqbufStart_capture hplaces.1, Option.map_some]
  case started =>
    obtain ⟨hstate, hcamera, hunwaited⟩ := hplaces
    refine h.goes_on (s.driver.dqbufWait) .waiting ?_ rfl
      (by simp [hplace, Place.rank])
      (.of_struck hfate ⟨hunqueued, hcurr, hstate, hcamera, ?_, hunwaited.2⟩)
    · simp only [stepDetector, hplace]
    · simp [Driver.dqbufWait, hunwaited.1]
  case waiting =>
    have hflg := ht hplace
    rw [hplaces.2.2.1] at hflg
    omega

/-- A round that was broken off gets no frame. -/
theorem broken_inv (h : Inv frameMem s) (hfate : s.round.fate ≠ .whole) (ht : s.Allowed .detector) :
    ∃ s', s.stepDetector frameMem = some s' ∧ Inv frameMem s' ∧ s.Advances s' := by
  cases hcase : s.round.fate with
  | whole => exact absurd hcase hfate
  | lost => exact lost_inv h hcase ht
  | struck => exact struck_inv h hcase ht

/-! ## The requests of `web_source` -/

/-- The container is the only one, and the stream is on. -/
theorem Detects.streaming (h : s.Detects frameMem) :
    Single s.driver.bufinf ∧ (s.driver.state = .streamon ∨ s.driver.state = .capture) := by
  cases hfate : s.round.fate with
  | lost =>
    obtain ⟨hrest, -⟩ := h.lost hfate
    exact ⟨hrest.1.single, .inl hrest.2.1⟩
  | struck =>
    obtain ⟨hunqueued, -, hplaces⟩ := h.struck hfate
    refine ⟨hunqueued.single, ?_⟩
    split at hplaces
    · exact .inl hplaces.2.1
    · exact .inl hplaces.2.1
    · exact .inr hplaces.1
  | whole =>
    have hwhole := h.whole hfate
    rw [Whole] at hwhole
    split at hwhole
    · exact ⟨hwhole.1.1.single, .inl hwhole.1.2.1⟩
    · exact ⟨hwhole.2.1.1.single, .inl hwhole.2.1.2.1⟩
    · exact ⟨hwhole.2.1.1.single, .inl hwhole.2.1.2.1⟩
    · exact ⟨hwhole.1.1.single, .inl hwhole.1.2.1⟩
    · exact ⟨hwhole.1.1.single, .inl hwhole.1.2.1⟩
    · exact ⟨hwhole.2.1.1.single, .inl hwhole.2.1.2.1⟩
    · exact ⟨hwhole.2.1.1.single, .inl hwhole.2.2.1⟩
    · obtain ⟨hrolling, hstate, -⟩ | ⟨hrest, -⟩ := hwhole
      · exact ⟨hrolling.1.single, .inr hstate⟩
      · exact ⟨hrest.1.single, .inl hrest.2.1⟩
    · exact ⟨hwhole.2.1.1.single, .inl hwhole.2.1.2.1⟩
    · exact ⟨hwhole.2.1.1.single, .inl hwhole.2.1.2.1⟩
    · exact hwhole.elim
    · exact ⟨hwhole.1.1.single, .inr hwhole.2.1⟩

/-- The buffers are requested anew while the stream waits for one. -/
def renewed (s : Shared) : Shared :=
  { s with driver := s.driver.renewed, webSource := .requested, round := s.hitBy }

theorem Whole.renewed (h : s.Whole frameMem) (hfate : s.round.fate = .whole)
    (hstate : s.driver.state = .streamon) : s.renewed.Detects frameMem := by
  have hsingle : Single s.driver.bufinf := (Detects.of_whole hfate h).streaming.1
  have hunqueued := Driver.renewed_unqueued hsingle
  have hcapture : s.driver.state ≠ .capture := by simp [hstate]
  have hwhole : ∀ r, s.hitBy = r → r.fate = .whole →
      Whole frameMem { s with driver := s.driver.renewed, webSource := .requested, round := r } →
      s.renewed.Detects frameMem := by
    rintro r rfl hr h
    exact .of_whole hr h
  have hclear : ∀ r : Round, r.cleared = true →
      Addressed frameMem { s with driver := s.driver.renewed, webSource := .requested, round := r } := by
    intro r hr
    simp [Addressed, Driver.renewed, V4l2Buffer.zero, Round.address, hr]
  cases hplace : s.detector <;> simp only [Whole, hplace] at h
  case setCamimage =>
    refine hwhole s.round (by simp only [hitBy, hplace]) hfate ?_
    simpa only [Whole, hplace] using ⟨⟨hunqueued, h.1.2⟩, rfl, h.2.2⟩
  case got c =>
    refine hwhole s.round (by simp only [hitBy, hplace]) hfate ?_
    simpa only [Whole, hplace] using ⟨h.1, ⟨hunqueued, h.2.1.2⟩, h.2.2⟩
  case copied c =>
    refine hwhole { s.round with cleared := true } (by simp only [hitBy, hplace]) hfate ?_
    simpa only [Whole, hplace] using ⟨h.1, ⟨hunqueued, h.2.1.2⟩, h.2.2.1, hclear _ rfl⟩
  case queued =>
    have hround : s.hitBy = { s.round with fate := .lost } := by simp only [hitBy, hplace]
    refine .of_lost (congrArg Round.fate hround) ⟨⟨hunqueued, h.1.2⟩, ?_⟩
    simp only [Shared.renewed, hplace]
    exact h.2.1
  case checked =>
    have hround : s.hitBy = { s.round with fate := .lost } := by simp only [hitBy, hplace]
    refine .of_lost (congrArg Round.fate hround) ⟨⟨hunqueued, h.1.2⟩, ?_⟩
    simp only [Shared.renewed, hplace]
    exact h.2.1
  case changing change =>
    cases change with
    | start c =>
      have hround : s.hitBy = ⟨true, .struck⟩ := by simp only [hitBy, hplace]
      refine .of_struck (congrArg Round.fate hround) ⟨hunqueued, rfl, ?_⟩
      simpa only [Shared.renewed, hround, hplace] using
        ⟨h.1, h.2.1.2.1, h.2.1.2.2, h.2.2.2.1, hclear _ rfl⟩
    | finish next =>
      obtain ⟨rfl, ⟨-, -, hcamera⟩, -, hunwaited, hptr⟩ := h
      have hround : s.hitBy = { s.round with fate := .struck } := by simp only [hitBy, hplace]
      refine .of_struck (congrArg Round.fate hround) ⟨hunqueued, rfl, ?_⟩
      simpa only [Shared.renewed, hround, hplace] using
        ⟨trivial, hstate, hcamera.trans (congrArg some hptr), hunwaited⟩
  case getCamimage => exact absurd h.2.1 hcapture
  case found => exact absurd h.2.1 hcapture
  case started => exact absurd h.2.1 hcapture
  case waiting =>
    obtain ⟨-, hstate', -⟩ | ⟨hrest, hflg, hdone, -⟩ := h
    · exact absurd hstate' hcapture
    · have hround : s.hitBy = { s.round with cleared := true } := by simp [hitBy, hplace, hflg]
      refine hwhole { s.round with cleared := true } hround hfate ?_
      simpa only [Whole, hplace] using .inr ⟨⟨hunqueued, hrest.2⟩, hflg, hdone, hclear _ rfl⟩
  case dequeued c =>
    refine hwhole { s.round with cleared := true } (by simp only [hitBy, hplace]) hfate ?_
    simpa only [Whole, hplace] using ⟨h.1, ⟨hunqueued, h.2.1.2⟩, h.2.2.1, hclear _ rfl⟩
  case returned c buf =>
    refine hwhole s.round (by simp only [hitBy, hplace]) hfate ?_
    simpa only [Whole, hplace] using ⟨h.1, ⟨hunqueued, h.2.1.2⟩, h.2.2⟩

theorem Lost.renewed (frameMem : Nat) (h : s.Lost) (hfate : s.round.fate = .lost) :
    s.renewed.Detects frameMem ∧ s.hitBy.fate = .lost := by
  obtain ⟨hrest, hplaces⟩ := h
  have hrest' : Resting s.driver.renewed := ⟨Driver.renewed_unqueued hrest.1.single, hrest.2⟩
  suffices hround : s.hitBy.fate = .lost from ⟨.of_lost hround ⟨hrest', hplaces⟩, hround⟩
  cases hplace : s.detector <;> simp only [Waits, hplace] at hplaces <;>
    simp only [hitBy, hplace, hfate]
  case changing change =>
    obtain ⟨rfl, -⟩ := hplaces
    exact hfate

theorem Struck.renewed (h : s.Struck frameMem)
    (hstate : s.driver.state = .streamon) :
    s.renewed.Detects frameMem ∧ s.hitBy.fate = .struck := by
  obtain ⟨hunqueued, hcurr, hplaces⟩ := h
  have hunqueued' := Driver.renewed_unqueued hunqueued.single
  split at hplaces
  next c hplace =>
    have hround : s.hitBy = ⟨true, .struck⟩ := by simp only [hitBy, hplace]
    refine ⟨.of_struck (congrArg Round.fate hround) ⟨hunqueued', rfl, ?_⟩, congrArg Round.fate hround⟩
    simpa only [Shared.renewed, hround, hplace] using
      ⟨hplaces.1, hstate, hplaces.2.2.1, hplaces.2.2.2.1, rfl⟩
  next next hplace =>
    obtain ⟨rfl, -, hcamera, hunwaited⟩ := hplaces
    have hround : s.hitBy = { s.round with fate := .struck } := by simp only [hitBy, hplace]
    refine ⟨.of_struck (congrArg Round.fate hround) ⟨hunqueued', rfl, ?_⟩, congrArg Round.fate hround⟩
    simpa only [Shared.renewed, hround, hplace] using ⟨trivial, hstate, hcamera, hunwaited⟩
  · rw [hplaces.1] at hstate
    simp at hstate

/-- The buffers are requested anew; a round that was broken off stays so. -/
theorem Detects.renewed (h : s.Detects frameMem) (hstate : s.driver.state = .streamon) :
    s.renewed.Detects frameMem ∧ (s.round.fate ≠ .whole → s.hitBy.fate ≠ .whole) := by
  cases hfate : s.round.fate with
  | whole => exact ⟨(h.whole hfate).renewed hfate hstate, fun h => absurd rfl h⟩
  | lost =>
    obtain ⟨hdetects, hround⟩ := (h.lost hfate).renewed frameMem hfate
    exact ⟨hdetects, fun _ => by simp [hround]⟩
  | struck =>
    obtain ⟨hdetects, hround⟩ := (h.struck hfate).renewed hstate
    exact ⟨hdetects, fun _ => by simp [hround]⟩

theorem videoSFmt_busy (validate : List Format → Except Errno Unit) {d : Driver}
    (hstate : d.state ≠ .streamoff) (fmt : Format) :
    ∃ e, d.videoSFmt validate fmt = (d, .error e) := by
  rw [Driver.videoSFmt]
  split
  next e _ => exact ⟨e, rfl⟩
  · exact ⟨.ebusy, by rw [if_pos hstate]⟩

theorem Detects.state_ne (h : s.Detects frameMem) : s.driver.state ≠ .streamoff := by
  obtain ⟨-, hstate | hstate⟩ := h.streaming <;> simp [hstate]

theorem webSource_inv (validate : List Format → Except Errno Unit) (h : Inv frameMem s) :
    ∃ s', s.stepWebSource validate = some s' ∧ Inv frameMem s' ∧ s'.frames = s.frames ∧
      (s.round.fate ≠ .whole → s'.round.fate ≠ .whole) := by
  have hopen := h.openNum
  have hclient := h.client
  simp only [List.mem_cons, List.not_mem_nil, or_false] at hclient
  obtain hb | hb | hb | hb := hclient
  · refine ⟨{ s with driver := { s.driver with openNum := 2 }, webSource := .opened }, ?_,
      ⟨h.detects.of_openNum 2 .opened, rfl, by simp, h.frames⟩, rfl, id⟩
    simp only [hb, if_true] at hopen
    simp [stepWebSource, hb, Driver.videoOpen, hopen]
  · rw [if_neg (by simp [hb])] at hopen
    obtain ⟨hsingle, hstate | hstate⟩ := h.detects.streaming
    · obtain ⟨hdetects, hfate⟩ := h.detects.renewed hstate
      refine ⟨s.renewed, ?_, ⟨hdetects, hopen, by simp [Shared.renewed], h.frames⟩, rfl, hfate⟩
      simp [stepWebSource, hb, Driver.videoReqbufs_single hsingle hstate, Shared.renewed]
    · refine ⟨{ s with webSource := .failed }, ?_,
        ⟨h.detects.of_openNum _ _, hopen, by simp, h.frames⟩, rfl, id⟩
      simp [stepWebSource, hb, Driver.videoReqbufs_capture hstate]
  · rw [if_neg (by simp [hb])] at hopen
    obtain ⟨e, he⟩ := videoSFmt_busy validate h.detects.state_ne ⟨640, 480, .jpegWithSubimg⟩
    refine ⟨{ s with webSource := .failed }, ?_,
      ⟨h.detects.of_openNum _ _, hopen, by simp, h.frames⟩, rfl, id⟩
    simp [stepWebSource, hb, he]
  · refine ⟨{ s with driver := { s.driver with openNum := 1 }, webSource := .closed }, ?_,
      ⟨h.detects.of_openNum 1 .closed, rfl, by simp, h.frames⟩, rfl, id⟩
    rw [if_neg (by simp [hb])] at hopen
    simp [stepWebSource, hb, Driver.videoClose, hopen]

/-! ## The interrupt -/

/-- Where the detector is while the camera fills its buffer. -/
theorem Whole.rolling (h : s.Whole frameMem) (hcamera : s.driver.camera ≠ none) :
    Rolling s.driver ∧ s.Addressed frameMem ∧
      (s.driver.Unwaited ∧
        (∀ d, Rolling d → d.state = s.driver.state → d.Unwaited →
          Addressed frameMem { s with driver := d } → Whole frameMem { s with driver := d }) ∨
        s.detector = .waiting ∧ Waiting s.driver) := by
  cases hplace : s.detector <;> simp only [Whole, hplace] at h
  case setCamimage => exact absurd h.1.2.2 hcamera
  case got c => exact absurd h.2.1.2.2 hcamera
  case copied c => exact absurd h.2.1.2.2 hcamera
  case queued => exact absurd h.1.2.2 hcamera
  case checked => exact absurd h.1.2.2 hcamera
  case changing change =>
    cases change with
    | start c => exact absurd h.2.1.2.2 hcamera
    | finish next =>
      obtain ⟨rfl, hrolling, hstate, hunwaited, hptr⟩ := h
      refine ⟨hrolling, hptr, .inl ⟨hunwaited, fun d hd hd' hd'' hptr' => ?_⟩⟩
      simpa only [Whole, hplace] using ⟨trivial, hd, hd'.trans hstate, hd'', hptr'⟩
  case getCamimage =>
    refine ⟨h.1, h.2.2.2, .inl ⟨h.2.2.1, fun d hd hd' hd'' hptr' => ?_⟩⟩
    simpa only [Whole, hplace] using ⟨hd, hd'.trans h.2.1, hd'', hptr'⟩
  case found =>
    refine ⟨h.1, h.2.2.2, .inl ⟨h.2.2.1, fun d hd hd' hd'' hptr' => ?_⟩⟩
    simpa only [Whole, hplace] using ⟨hd, hd'.trans h.2.1, hd'', hptr'⟩
  case started =>
    refine ⟨h.1, h.2.2.2, .inl ⟨h.2.2.1, fun d hd hd' hd'' hptr' => ?_⟩⟩
    simpa only [Whole, hplace] using ⟨hd, hd'.trans h.2.1, hd'', hptr'⟩
  case waiting =>
    obtain ⟨hrolling, -, hwaiting, hptr⟩ | ⟨hrest, -⟩ := h
    · exact ⟨hrolling, hptr, .inr ⟨rfl, hwaiting⟩⟩
    · exact absurd hrest.2.2 hcamera
  case dequeued c => exact absurd h.2.1.2.2 hcamera
  case returned c buf => exact absurd h.2.1.2.2 hcamera

theorem complete_inv (h : Inv frameMem s) (hfate : s.round.fate = .whole)
    (hcamera : s.driver.camera ≠ none) (errCode : Bool) (datasize : Nat) :
    ∃ d, s.driver.videoCompleteCapture errCode datasize = some d ∧
      Inv frameMem { s with driver := d } ∧ (Waiting s.driver → d.dqbufWaitFlg = 0) := by
  obtain ⟨hrolling, hptr, ⟨hunwaited, hstill⟩ | ⟨hplace, hflg, hdone⟩⟩ :=
    (h.detects.whole hfate).rolling hcamera
  · obtain ⟨d, hd, hrolling', hstate, hptr', hopen, hunwaited'⟩ :=
      Driver.videoCompleteCapture_again hrolling hunwaited errCode datasize
    have hwhole := hstill d hrolling' hstate hunwaited' (hptr'.trans hptr)
    exact ⟨d, hd, ⟨.of_whole hfate hwhole, hopen.trans h.openNum, h.client, h.frames⟩,
      fun _ => hunwaited'.1⟩
  · obtain ⟨d, hd, hrest, hptr', hopen, hflg', hdone'⟩ :=
      Driver.videoCompleteCapture_posts hrolling (by omega) errCode datasize
    have hzero : d.dqbufWaitFlg = 0 := by omega
    have hwhole : Whole frameMem { s with driver := d } := by
      simpa only [Whole, hplace] using .inr ⟨hrest, hzero, hdone', hptr'.trans hptr⟩
    exact ⟨d, hd, ⟨.of_whole hfate hwhole, hopen.trans h.openNum, h.client, h.frames⟩,
      fun _ => hzero⟩

/-- An interrupt after the queue was taken away from a running camera follows a null pointer,
and nothing else does. -/
theorem step_eq_none_iff (validate : List Format → Except Errno Unit) (h : Inv frameMem s) {t : Turn}
    (ht : s.Allowed t) :
    s.step validate frameMem t = none ↔
      s.round.fate = .struck ∧ ∃ errCode datasize, t = .complete errCode datasize := by
  cases t with
  | detector =>
    have hstep : ∃ s', s.stepDetector frameMem = some s' := by
      by_cases hfate : s.round.fate = .whole
      · obtain ⟨s', hs', -⟩ | ⟨s', hs', -⟩ := whole_inv h hfate ht <;> exact ⟨s', hs'⟩
      · obtain ⟨s', hs', -⟩ := broken_inv h hfate ht
        exact ⟨s', hs'⟩
    obtain ⟨s', hs'⟩ := hstep
    simp [step, hs']
  | webSource =>
    obtain ⟨s', hs', -⟩ := webSource_inv validate h
    simp [step, hs']
  | complete errCode datasize =>
    cases hfate : s.round.fate with
    | whole =>
      obtain ⟨d, hd, -⟩ := complete_inv h hfate ht errCode datasize
      simp [step, hd]
    | lost => exact absurd (h.detects.lost hfate).1.2.2 ht
    | struck =>
      have hnone := Driver.videoCompleteCapture_none (h.detects.struck hfate).2.1 errCode datasize
      simp [step, hnone]

theorem step_inv (validate : List Format → Except Errno Unit) (s : Shared) (t : Turn) (s' : Shared)
    (h : Inv frameMem s) (ht : s.Allowed t) (hstep : s.step validate frameMem t = some s') :
    Inv frameMem s' ∧ (s.round.fate ≠ .whole → s'.round.fate ≠ .whole ∧ s'.frames = s.frames) := by
  cases t with
  | detector =>
    by_cases hfate : s.round.fate = .whole
    · refine ⟨?_, fun hbroken => absurd hfate hbroken⟩
      obtain ⟨u, hu, hinv, -⟩ | ⟨u, hu, hinv, -⟩ := whole_inv h hfate ht <;>
        exact Option.some.inj (hu.symm.trans hstep) ▸ hinv
    · obtain ⟨u, hu, hinv, hadvances⟩ := broken_inv h hfate ht
      obtain rfl : u = s' := Option.some.inj (hu.symm.trans hstep)
      exact ⟨hinv, fun _ => ⟨hadvances.fate ▸ hfate, hadvances.frames⟩⟩
  | webSource =>
    obtain ⟨u, hu, hinv, hframes, hfate⟩ := webSource_inv validate h
    obtain rfl : u = s' := Option.some.inj (hu.symm.trans hstep)
    exact ⟨hinv, fun hbroken => ⟨hfate hbroken, hframes⟩⟩
  | complete errCode datasize =>
    obtain ⟨d, hd, rfl⟩ := Option.map_eq_some_iff.mp hstep
    by_cases hfate : s.round.fate = .whole
    · obtain ⟨d', hd', hinv, -⟩ := complete_inv h hfate ht errCode datasize
      obtain rfl : d' = d := Option.some.inj (hd'.symm.trans hd)
      exact ⟨hinv, fun hbroken => absurd hfate hbroken⟩
    · have hstep' : s.step validate frameMem (.complete errCode datasize) ≠ none := by
        simp [step, hd]
      have hlost : s.round.fate = .lost := by
        cases hcase : s.round.fate with
        | whole => exact absurd hcase hfate
        | lost => rfl
        | struck => exact absurd ((step_eq_none_iff validate h ht).mpr ⟨hcase, _, _, rfl⟩) hstep'
      exact absurd (h.detects.lost hlost).1.2.2 ht

/-! ## Whole runs -/

/-- The driver behind a successful `camera_prepare`. -/
def preparedDriver : Driver :=
  { Driver.initial 1 with
    state := .streamon
    fmtMain := ⟨320, 240, .uyvy⟩
    bufinf := { Framebuff.init with
      containerSize := 1
      vbufAlloced := true
      vbufEmpty := some 0
      next := fun i => if i + 1 < 1 then some (i + 1) else none } }

theorem cameraPrepare_ok {validate : List Format → Except Errno Unit} {sensor : Except Errno Unit}
    {malloc : Bool} {d : Driver}
    (h : cameraPrepare validate sensor malloc (.initial 0) = some (d, .ok ())) :
    d = preparedDriver := by
  cases sensor with
  | error e => simp [cameraPrepare, Driver.videoOpen, Driver.initial] at h
  | ok u =>
    cases malloc with
    | false =>
      simp [cameraPrepare, Driver.videoOpen, Driver.initial, Driver.videoReqbufs,
        Framebuff.changeMode, Framebuff.init, Framebuff.reallocContainer, reqbufsCountMax] at h
    | true =>
      cases hvalidate : validate [⟨320, 240, .uyvy⟩] with
      | error e =>
        simp [cameraPrepare, Driver.videoOpen, Driver.initial, Driver.videoReqbufs,
          Framebuff.changeMode, Framebuff.init, Framebuff.reallocContainer, reqbufsCountMax,
          Driver.videoSFmt, Driver.videoTryFmt, hvalidate] at h
      | ok u =>
        simp [cameraPrepare, Driver.videoOpen, Driver.initial, Driver.videoReqbufs,
          Framebuff.changeMode, Framebuff.init, Framebuff.reallocContainer, reqbufsCountMax,
          Framebuff.cleanupContainer, Driver.videoSFmt, Driver.videoTryFmt, hvalidate,
          Driver.videoStreamon, estimateNextVideoState, Driver.changeVideoState,
          Driver.changeBegin, Driver.changeEnd, Framebuff.getVacantContainer] at h
        rw [← h]
        simp [preparedDriver, Driver.initial, Framebuff.init]

theorem cameraPrepare_accepted :
    cameraPrepare (fun _ => .ok ()) (.ok ()) true (.initial 0) = some (preparedDriver, .ok ()) := rfl

theorem inv_prepared (frameMem : Nat) : Inv frameMem (init preparedDriver) := by
  refine ⟨.of_whole rfl ⟨⟨⟨⟨rfl, rfl, rfl, .inr rfl, .inl rfl⟩, rfl, rfl, rfl⟩, rfl, rfl⟩, rfl, rfl, rfl⟩,
    rfl, ?_, ?_⟩
  · simp [init]
  · simp [init]

section Runs

variable {validate : List Format → Except Errno Unit} {sensor : Except Errno Unit} {malloc : Bool}
  {d : Driver}

theorem run_inv (hprepare : cameraPrepare validate sensor malloc (.initial 0) = some (d, .ok ()))
    {es : List Turn} (hes : PartialRuns.Legal (step validate frameMem) Allowed (init d) es)
    (hrun : PartialRuns.run (step validate frameMem) (init d) es = some s) : Inv frameMem s := by
  rw [cameraPrepare_ok hprepare] at hes hrun
  exact PartialRuns.run_preserves (Inv frameMem)
    (fun s t s' h ht hs' => (step_inv validate s t s' h ht hs').1) (inv_prepared frameMem) hes hrun

/-- A whole round of the detector, up to its next `set_camimage`. -/
def roundTurns : List Turn :=
  List.replicate 10 .detector ++ [.complete false 153600, .detector, .detector, .detector]

/-- `web_source` has opened the device and requests buffers behind the first `n` steps of the
detector. -/
def requestAfter (n : Nat) : List Turn :=
  .webSource :: List.replicate n .detector ++ [.webSource]

/-- In a round that goes on the detector gets its frame, if it is left alone. -/
theorem frame_reachable (validate : List Format → Except Errno Unit) (h : Inv frameMem s)
    (hfate : s.round.fate = .whole) :
    ∃ ts t, PartialRuns.Legal (step validate frameMem) Allowed s ts ∧
      PartialRuns.run (step validate frameMem) s ts = some t ∧ t.frames ≠ s.frames := by
  induction hrank : s.detector.rank using Nat.strong_induction_on generalizing s with
  | _ n ih =>
    -- one step of the detector, where it does not wait for the camera
    have hgo : ∀ u : Shared, Inv frameMem u → u.round.fate = .whole → u.Allowed .detector →
        u.detector.rank = n →
        ∃ ts t, PartialRuns.Legal (step validate frameMem) Allowed u ts ∧
          PartialRuns.run (step validate frameMem) u ts = some t ∧ t.frames ≠ u.frames := by
      intro u hu hufate hallowed hn
      obtain ⟨u', hu', hinv, hadvances⟩ | ⟨u', hu', hinv, hframes⟩ := whole_inv hu hufate hallowed
      · have hstep : u.step validate frameMem .detector = some u' := hu'
        obtain ⟨ts, t, hlegal, hrun, hframes⟩ :=
          ih _ (hn ▸ hadvances.rank) hinv (hadvances.fate.trans hufate) rfl
        exact ⟨.detector :: ts, t, (PartialRuns.legal_cons hstep).mpr ⟨hallowed, hlegal⟩,
          by rw [PartialRuns.run_cons, hstep, Option.bind_some, hrun], hadvances.frames ▸ hframes⟩
      · have hstep : u.step validate frameMem .detector = some u' := hu'
        exact ⟨[.detector], u', (PartialRuns.legal_cons hstep).mpr ⟨hallowed, trivial⟩,
          by rw [PartialRuns.run_cons, hstep, Option.bind_some, PartialRuns.run_nil], hframes⟩
    by_cases hallowed : s.Allowed .detector
    · exact hgo s h hfate hallowed hrank
    · obtain ⟨hplace, hflg⟩ : s.detector = .waiting ∧ ¬ 0 ≤ s.driver.dqbufWaitFlg := by
        simpa only [Allowed, Classical.not_imp] using hallowed
      have hwhole := h.detects.whole hfate
      simp only [Whole, hplace] at hwhole
      obtain ⟨hrolling, -, hwaiting, -⟩ | ⟨-, hzero, -⟩ := hwhole
      · -- the capture comes first
        have hcamera : s.driver.camera ≠ none := by simp [hrolling.2.2]
        obtain ⟨d, hd, hinv, hzero⟩ := complete_inv h hfate hcamera false 0
        have hstep : s.step validate frameMem (.complete false 0) = some { s with driver := d } := by
          simp only [step, hd, Option.map_some]
        obtain ⟨ts, t, hlegal, hrun, hframes⟩ :=
          hgo { s with driver := d } hinv hfate (fun _ => Int.le_of_eq (hzero hwaiting).symm) hrank
        exact ⟨.complete false 0 :: ts, t, (PartialRuns.legal_cons hstep).mpr ⟨hcamera, hlegal⟩,
          by rw [PartialRuns.run_cons, hstep, Option.bind_some, hrun], hframes⟩
      · omega

/-- The detector never gets another frame exactly if `web_source` requested buffers between
the queueing of its buffer and the end of the `change_video_state` behind it. -/
theorem detector_stuck_iff (frameMem : Nat)
    (hprepare : cameraPrepare validate sensor malloc (.initial 0) = some (d, .ok ()))
    (es : List Turn) (hes : PartialRuns.Legal (step validate frameMem) Allowed (init d) es)
    (s : Shared) (hrun : PartialRuns.run (step validate frameMem) (init d) es = some s) :
    (∀ ts t, PartialRuns.Legal (step validate frameMem) Allowed s ts →
      PartialRuns.run (step validate frameMem) s ts = some t → t.frames = s.frames) ↔
      s.round.fate ≠ .whole := by
  have hinv := run_inv hprepare hes hrun
  constructor
  · intro hstuck hfate
    obtain ⟨ts, t, hlegal, ht, hframes⟩ := frame_reachable validate hinv hfate
    exact hframes (hstuck ts t hlegal ht)
  · intro hfate ts t hlegal ht
    have hstep : ∀ u e u', (Inv frameMem u ∧ u.round.fate ≠ .whole ∧ u.frames = s.frames) →
        Allowed u e → u.step validate frameMem e = some u' →
        Inv frameMem u' ∧ u'.round.fate ≠ .whole ∧ u'.frames = s.frames := by
      rintro u e u' ⟨hu, hbroken, hframes⟩ he hu'
      obtain ⟨hinv', hkeeps⟩ := step_inv validate u e u' hu he hu'
      exact ⟨hinv', (hkeeps hbroken).1, (hkeeps hbroken).2.trans hframes⟩
    exact (PartialRuns.run_preserves
      (fun u => Inv frameMem u ∧ u.round.fate ≠ .whole ∧ u.frames = s.frames) hstep
      ⟨hinv, hfate, rfl⟩ hlegal ht).2.2

/-- A round with its frame, and a request inside of `change_video_state` in the next one. -/
theorem detector_stuck_iff_struck :
    let es := roundTurns ++ requestAfter 6
    ∃ s, PartialRuns.run (step (fun _ => .ok ()) 4096) (init preparedDriver) es = some s ∧
      s.round.fate = .struck ∧ s.driver.camera = some 4096 ∧ s.frames = [(4096, false)] ∧
      ∀ ts t, PartialRuns.Legal (step (fun _ => .ok ()) 4096) Allowed s ts →
        PartialRuns.run (step (fun _ => .ok ()) 4096) s ts = some t → t.frames = s.frames := by
  intro es
  have hend : (PartialRuns.run (step (fun _ => .ok ()) 4096) (init preparedDriver) es).map
      (fun s => (s.round.fate, s.driver.camera, s.frames)) =
        some (.struck, some 4096, [(4096, false)]) := by decide +kernel
  obtain ⟨s, hrun, hview⟩ := Option.map_eq_some_iff.mp hend
  simp only [Prod.mk.injEq] at hview
  refine ⟨s, hrun, hview.1, hview.2.1, hview.2.2, ?_⟩
  exact (detector_stuck_iff 4096 cameraPrepare_accepted es (by decide +kernel) s hrun).mpr
    (by simp [hview.1])

end Runs

end Shared

end Sprefence.VideoDriver

import Sprefence.Video.Refinement

/-! The video driver of the device, `video.c`, as far as the programs call it: one stream of
the type `V4L2_BUF_TYPE_VIDEO_CAPTURE`. What is cut by a critical section or by a wait is a
function of its own, since the camera's interrupt and other programs may come in between;
outside of a critical section `change_video_state` has three such parts. A function is
undefined where the code follows a pointer that leads nowhere. -/

namespace Sprefence.VideoDriver

open VideoFramebuff

/-- `enum video_state_e`. -/
inductive VideoState
  | streamoff
  | streamon
  | capture
  deriving DecidableEq, Repr

/-- `enum video_state_transition_cause`. -/
inductive Cause
  | videoStop
  | videoStart
  | videoDqbuf
  | stillStop
  | stillStart
  deriving DecidableEq, Repr

def estimateNextVideoState (current : VideoState) (isTakingStillPicture : Bool) : Cause → VideoState
  | .videoStop => .streamoff
  | .videoStart => if isTakingStillPicture then .streamon else .capture
  | .stillStop => if current = .streamon then .capture else current
  | .stillStart => if current = .capture then .streamon else current
  | .videoDqbuf => if current = .streamon ∧ !isTakingStillPicture then .capture else current

/-- What `change_video_state` has still to do. -/
inductive Change
  | start (container : Nat)
  | finish (next : VideoState)
  deriving DecidableEq, Repr

inductive PixelFormat
  | uyvy
  | rgb565
  | jpeg
  | jpegWithSubimg
  | subimgUyvy
  | subimgRgb565
  | other
  deriving DecidableEq, Repr

structure Format where
  width : Nat
  height : Nat
  pixelformat : PixelFormat
  deriving DecidableEq, Repr

/-- `struct video_mng_s` with its `video_inf`, and the camera behind it. No program takes
still pictures, so `still_inf` stays as it is initialised. -/
structure Driver where
  openNum : Nat
  state : VideoState
  nrFmt : Nat
  fmtMain : Format
  fmtSub : Format
  bufinf : Framebuff
  /-- The count of the semaphore; it is negative while a task waits. -/
  dqbufWaitFlg : Int
  doneContainer : Option Nat
  /-- The memory that the camera writes to, from `start_capture` to `stop_capture`. -/
  camera : Option Nat

/-- `initialize_streamresources`. -/
def Driver.initial (openNum : Nat) : Driver where
  openNum := openNum
  state := .streamoff
  nrFmt := 1
  fmtMain := ⟨320, 240, .uyvy⟩
  fmtSub := ⟨0, 0, .other⟩
  bufinf := .init
  dqbufWaitFlg := 0
  doneContainer := none
  camera := none

namespace Driver

/-- `sensor` is what the initialisation of the sensor and of the camera interface returns. -/
def videoOpen (d : Driver) (sensor : Except Errno Unit) : Driver × Except Errno Unit :=
  if d.openNum = 0 then
    match sensor with
    | .ok () => (.initial 1, .ok ())
    | .error e => (d, .error e)
  else ({ d with openNum := d.openNum + 1 }, .ok ())

/-- `video_close`; the last one releases everything, and the next `video_open` sets it up
again. -/
def videoClose (d : Driver) : Driver :=
  if d.openNum = 0 then d
  else if d.openNum = 1 then .initial 0
  else { d with openNum := d.openNum - 1 }

/-- `change_video_state` up to the start of the camera. -/
def changeBegin (d : Driver) (next : VideoState) : Driver × Change :=
  if d.state ≠ .capture ∧ next = .capture then
    let (bufinf, container) := d.bufinf.getVacantContainer
    match container with
    | some container => ({ d with bufinf := bufinf }, .start container)
    | none => ({ d with bufinf := bufinf }, .finish .streamon)
  else if d.state = .capture ∧ next ≠ .capture then ({ d with camera := none }, .finish next)
  else (d, .finish next)

/-- `start_capture` with the address in the container. -/
def startCapture (d : Driver) (container : Nat) : Option Driver :=
  (d.bufinf.deref (some container)).map fun c =>
    { d with camera := some (d.bufinf.buf c).userptr }

/-- The state is stored at the end. -/
def changeEnd (d : Driver) (next : VideoState) : Driver := { d with state := next }

/-- `change_video_state` in a critical section, or where nothing else runs. -/
def changeVideoState (d : Driver) (next : VideoState) : Option Driver :=
  match d.changeBegin next with
  | (d, .start container) => (d.startCapture container).map (·.changeEnd .capture)
  | (d, .finish next) => some (d.changeEnd next)

def videoStreamon (d : Driver) : Option (Driver × Except Errno Unit) :=
  if d.state ≠ .streamoff then some (d, .error .eperm)
  else (d.changeVideoState (estimateNextVideoState d.state false .videoStart)).map (·, .ok ())

def videoStreamoff (d : Driver) : Option (Driver × Except Errno Unit) :=
  if d.state = .streamoff then some (d, .error .eperm)
  else (d.changeVideoState (estimateNextVideoState d.state false .videoStop)).map (·, .ok ())

def videoReqbufs (d : Driver) (mode : Mode) (count : Nat) (malloc : Bool) :
    Option (Driver × Except Errno Unit) :=
  if d.state = .capture then some (d, .error .eperm)
  else
    (d.bufinf.changeMode mode).map fun bufinf =>
      let (bufinf, ret) := bufinf.reallocContainer count malloc
      ({ d with bufinf := bufinf }, ret)

/-- `validate` is `validate_frame_setting`: what sensor and camera interface say to the main
format and the one of the sub-image. -/
def videoTryFmt (d : Driver) (validate : List Format → Except Errno Unit) (fmt : Format) :
    Except Errno Unit :=
  match fmt.pixelformat with
  | .subimgUyvy =>
    if d.fmtMain.pixelformat ≠ .jpegWithSubimg then .error .eperm
    else validate [d.fmtMain, { fmt with pixelformat := .uyvy }]
  | .subimgRgb565 =>
    if d.fmtMain.pixelformat ≠ .jpegWithSubimg then .error .eperm
    else validate [d.fmtMain, { fmt with pixelformat := .rgb565 }]
  | .other => .error .einval
  | _ => validate [fmt]

def videoSFmt (d : Driver) (validate : List Format → Except Errno Unit) (fmt : Format) :
    Driver × Except Errno Unit :=
  match d.videoTryFmt validate fmt with
  | .error e => (d, .error e)
  | .ok () =>
    if d.state ≠ .streamoff then (d, .error .ebusy)
    else
      match fmt.pixelformat with
      | .subimgUyvy => ({ d with fmtSub := { fmt with pixelformat := .uyvy }, nrFmt := 2 }, .ok ())
      | .subimgRgb565 => ({ d with fmtSub := { fmt with pixelformat := .rgb565 }, nrFmt := 2 }, .ok ())
      | _ => ({ d with fmtMain := fmt, nrFmt := 1 }, .ok ())

/-- The first step of `video_qbuf`: a container, if there is one. -/
def qbufGet (d : Driver) : Option (Driver × Option Nat) :=
  d.bufinf.getContainer.map fun (bufinf, container) => ({ d with bufinf := bufinf }, container)

/-- Its `memcpy` into the container. -/
def qbufCopy (d : Driver) (container : Nat) (buf : V4l2Buffer) : Option Driver := do
  let c ← d.bufinf.deref (some container)
  some { d with bufinf := { d.bufinf with buf := Function.update d.bufinf.buf c buf } }

/-- The container is queued. -/
def qbufQueue (d : Driver) (container : Nat) : Option Driver :=
  (d.bufinf.queueContainer container).map fun bufinf => { d with bufinf := bufinf }

/-- The first step of `video_dqbuf`: the oldest frame, if there is one. -/
def dqbufGet (d : Driver) : Option (Driver × Option Nat) :=
  d.bufinf.dqValidContainer.map fun (bufinf, container) => ({ d with bufinf := bufinf }, container)

/-- Its `memcpy` out of the container. -/
def dqbufCopy (d : Driver) (container : Nat) : Option V4l2Buffer :=
  (d.bufinf.deref (some container)).map d.bufinf.buf

/-- The container is given back. -/
def dqbufFree (d : Driver) (container : Nat) : Option Driver :=
  (d.bufinf.freeContainer container).map fun bufinf => { d with bufinf := bufinf }

/-- Without a frame a stream that waits for a buffer goes on. -/
def dqbufStart (d : Driver) : Option Driver :=
  d.changeVideoState (estimateNextVideoState d.state false .videoDqbuf)

/-- `nxsem_wait_uninterruptible`; the task goes on when the count is not negative. -/
def dqbufWait (d : Driver) : Driver := { d with dqbufWaitFlg := d.dqbufWaitFlg - 1 }

/-- `video_dqbuf` behind its wait. Without a cancellation the cause is always a capture. -/
def dqbufWake (d : Driver) : Option (Driver × Nat) :=
  d.doneContainer.map fun container => ({ d with doneContainer := none }, container)

/-- `video_complete_capture` stores what the camera says of the buffer. -/
def completeStore (d : Driver) (errCode : Bool) (datasize : Nat) : Option Driver := do
  let c ← d.bufinf.deref d.bufinf.vbufCurr
  let buf := { d.bufinf.buf c with error := errCode, bytesused := datasize }
  let bufinf ← { d.bufinf with buf := Function.update d.bufinf.buf c buf }.captureDone
  some { d with bufinf := bufinf }

/-- It gives the oldest frame to a task that waits. -/
def completePost (d : Driver) : Option Driver :=
  if d.dqbufWaitFlg < 0 then do
    let (bufinf, container) ← d.bufinf.popCurrContainer
    some { d with
      bufinf := bufinf
      doneContainer := container
      dqbufWaitFlg := d.dqbufWaitFlg + 1 }
  else some d

/-- It goes on with the next buffer. -/
def completeNext (d : Driver) : Option Driver :=
  let (bufinf, container) := d.bufinf.getVacantContainer
  match container with
  | none => some { d with bufinf := bufinf, camera := none, state := .streamon }
  | some container => do
    let c ← bufinf.deref (some container)
    some { d with bufinf := bufinf, camera := some (bufinf.buf c).userptr }

/-- The interrupt of the camera. The number of remaining captures of a video stream is
infinite. -/
def videoCompleteCapture (d : Driver) (errCode : Bool) (datasize : Nat) : Option Driver := do
  let d ← d.completeStore errCode datasize
  let d ← d.completePost
  d.completeNext

/-! ## What the functions do to the queue -/

/-- The camera fills the first of the buffers to be filled. -/
def Films (d : Driver) (q : Queue) : Prop :=
  ∀ p, d.camera = some p →
    ∃ c vs, q.vacant = c :: vs ∧ d.bufinf.vbufCurr = some c ∧ p = (d.bufinf.buf c).userptr

/-- The state tells whether the camera may run. -/
def Steady (d : Driver) : Prop := d.camera ≠ none → d.state = .capture

/-- What holds between the parts of `change_video_state`. -/
def Ready (d : Driver) (q : Queue) : Change → Prop
  | .start c => d.camera = none ∧ d.bufinf.vbufCurr = some c ∧ ∃ vs, q.vacant = c :: vs
  | .finish next => d.camera ≠ none → next = .capture

/-- The buffers and the wait are left alone. -/
structure Keeps (d d' : Driver) : Prop where
  openNum : d'.openNum = d.openNum
  buf : d'.bufinf.buf = d.bufinf.buf
  dqbufWaitFlg : d'.dqbufWaitFlg = d.dqbufWaitFlg
  doneContainer : d'.doneContainer = d.doneContainer

/-- No task waits, and no frame is handed over. -/
def Unwaited (d : Driver) : Prop := d.dqbufWaitFlg = 0 ∧ d.doneContainer = none

variable {d : Driver} {q : Queue}

theorem Keeps.trans {d' d'' : Driver} (h : d.Keeps d') (h' : d'.Keeps d'') : d.Keeps d'' :=
  ⟨h'.openNum.trans h.openNum, h'.buf.trans h.buf, h'.dqbufWaitFlg.trans h.dqbufWaitFlg,
    h'.doneContainer.trans h.doneContainer⟩

theorem Unwaited.of_keeps {d' : Driver} (h : d.Unwaited) (hkeeps : d.Keeps d') : d'.Unwaited :=
  ⟨hkeeps.dqbufWaitFlg.trans h.1, hkeeps.doneContainer.trans h.2⟩

theorem films_of_none (h : d.camera = none) : d.Films q := by
  intro p hp
  rw [h] at hp
  cases hp

theorem Steady.camera_eq_none (h : d.Steady) (hstate : d.state ≠ .capture) : d.camera = none :=
  not_not.mp fun hcamera => hstate (h hcamera)

/-- The camera gets the first of the buffers to be filled. -/
theorem getVacant_cases (h : Rep d.bufinf q) :
    (q.vacant = [] ∧ d.bufinf.getVacantContainer = ({ d.bufinf with vbufCurr := none }, none)) ∨
    ∃ c vs, q.vacant = c :: vs ∧
      d.bufinf.getVacantContainer = ({ d.bufinf with vbufCurr := some c }, some c) ∧
      c < d.bufinf.containerSize := by
  have hget := getVacantContainer_eq h
  match hvacant : q.vacant with
  | [] => exact .inl ⟨rfl, by simpa [hvacant] using hget⟩
  | c :: vs =>
    have hc : c ∈ q.queued := List.mem_append_right _ (hvacant ▸ List.mem_cons_self)
    exact .inr ⟨c, vs, rfl, by simpa [hvacant] using hget, h.lt_of_queued hc⟩

theorem changeBegin_eq (h : Rep d.bufinf q) (hfilms : d.Films q) (hsteady : d.Steady)
    (next : VideoState) :
    ∃ d' change, d.changeBegin next = (d', change) ∧ Rep d'.bufinf q ∧ d'.Films q ∧ d.Keeps d' ∧
      d'.Ready q change := by
  by_cases hstart : d.state ≠ .capture ∧ next = .capture
  · have hcamera := hsteady.camera_eq_none hstart.1
    obtain ⟨-, hget⟩ | ⟨c, vs, hvacant, hget, -⟩ := getVacant_cases h
    · refine ⟨{ d with bufinf := { d.bufinf with vbufCurr := none } }, .finish .streamon, ?_,
        h.of_curr none, films_of_none hcamera, ⟨rfl, rfl, rfl, rfl⟩, fun h => absurd hcamera h⟩
      rw [changeBegin, if_pos hstart, hget]
    · refine ⟨{ d with bufinf := { d.bufinf with vbufCurr := some c } }, .start c, ?_,
        h.of_curr (some c), films_of_none hcamera, ⟨rfl, rfl, rfl, rfl⟩, hcamera, rfl, vs, hvacant⟩
      rw [changeBegin, if_pos hstart, hget]
  · by_cases hstop : d.state = .capture ∧ next ≠ .capture
    · refine ⟨{ d with camera := none }, .finish next, ?_, h, films_of_none rfl,
        ⟨rfl, rfl, rfl, rfl⟩, fun h => absurd rfl h⟩
      rw [changeBegin, if_neg hstart, if_pos hstop]
    · refine ⟨d, .finish next, ?_, h, hfilms, ⟨rfl, rfl, rfl, rfl⟩, fun hcamera => ?_⟩
      · rw [changeBegin, if_neg hstart, if_neg hstop]
      · exact not_not.mp fun hnext => hstop ⟨hsteady hcamera, hnext⟩

theorem startCapture_eq (h : Rep d.bufinf q) {c : Nat} (hready : d.Ready q (.start c)) :
    ∃ d', d.startCapture c = some d' ∧ Rep d'.bufinf q ∧ d'.Films q ∧ d.Keeps d' ∧
      d'.Ready q (.finish .capture) := by
  obtain ⟨-, hcurr, vs, hvacant⟩ := hready
  have hc : c ∈ q.queued := List.mem_append_right _ (hvacant ▸ List.mem_cons_self)
  refine ⟨{ d with camera := some (d.bufinf.buf c).userptr }, ?_, h, ?_, ⟨rfl, rfl, rfl, rfl⟩,
    fun _ => rfl⟩
  · rw [startCapture, Framebuff.deref_some (h.lt_of_queued hc), Option.map_some]
  · rintro p hp
    exact ⟨c, vs, hvacant, hcurr, (Option.some.inj hp).symm⟩

theorem changeVideoState_eq (h : Rep d.bufinf q) (hfilms : d.Films q) (hsteady : d.Steady)
    (next : VideoState) :
    ∃ d', d.changeVideoState next = some d' ∧ Rep d'.bufinf q ∧ d'.Films q ∧ d.Keeps d' ∧
      d'.Steady := by
  obtain ⟨d₁, change, hbegin, hrep, hfilms₁, hkeeps, hready⟩ := changeBegin_eq h hfilms hsteady next
  cases change with
  | finish next =>
    exact ⟨d₁.changeEnd next, by rw [changeVideoState, hbegin], hrep, hfilms₁,
      ⟨hkeeps.openNum, hkeeps.buf, hkeeps.dqbufWaitFlg, hkeeps.doneContainer⟩, hready⟩
  | start c =>
    obtain ⟨d₂, hstart, hrep₂, hfilms₂, hkeeps₂, hready₂⟩ := startCapture_eq hrep hready
    have hboth := hkeeps.trans hkeeps₂
    exact ⟨d₂.changeEnd .capture, by simp only [changeVideoState, hbegin, hstart, Option.map_some],
      hrep₂, hfilms₂,
      ⟨hboth.openNum, hboth.buf, hboth.dqbufWaitFlg, hboth.doneContainer⟩, hready₂⟩

/-! ### The interrupt -/

/-- What the camera leaves in the container that it has filled. -/
def filled (buf : Nat → V4l2Buffer) (c : Nat) (errCode : Bool) (datasize : Nat) : Nat → V4l2Buffer :=
  Function.update buf c { buf c with error := errCode, bytesused := datasize }

theorem completeStore_eq (h : Rep d.bufinf q) {x : Nat} (hcurr : d.bufinf.vbufCurr = some x)
    (hx : x ∈ q.queued) (errCode : Bool) (datasize : Nat) :
    ∃ bufinf, d.completeStore errCode datasize = some { d with bufinf := bufinf } ∧
      Rep bufinf q.captureDone ∧ bufinf.buf = filled d.bufinf.buf x errCode datasize := by
  obtain ⟨bufinf, hdone, hrep, hfin⟩ :=
    captureDone_eq (h.of_buf (filled d.bufinf.buf x errCode datasize))
  refine ⟨bufinf, ?_, hrep, hfin.buf⟩
  rw [completeStore, hcurr, Framebuff.deref_some (h.lt_of_queued hx), Option.bind_eq_bind,
    Option.bind_some]
  rw [filled] at hdone
  simp only [hdone, Option.bind_eq_bind, Option.bind_some]

/-- The state is left alone while the camera goes on. -/
theorem completeNext_eq (h : Rep d.bufinf q) :
    ∃ d', d.completeNext = some d' ∧ Rep d'.bufinf q ∧ d'.Films q ∧ d.Keeps d' ∧
      (d'.camera ≠ none → d'.state = d.state) := by
  rcases getVacant_cases h with ⟨-, hget⟩ | ⟨c, vs, hvacant, hget, hc⟩
  · refine ⟨{ d with
      bufinf := { d.bufinf with vbufCurr := none }
      camera := none
      state := .streamon }, ?_, h.of_curr none, films_of_none rfl, ⟨rfl, rfl, rfl, rfl⟩,
      fun h => absurd rfl h⟩
    simp [completeNext, hget]
  · refine ⟨{ d with
      bufinf := { d.bufinf with vbufCurr := some c }
      camera := some (d.bufinf.buf c).userptr }, ?_, h.of_curr (some c), ?_, ⟨rfl, rfl, rfl, rfl⟩,
      fun _ => rfl⟩
    · simp [completeNext, hget, Framebuff.deref_some, hc]
    · intro p hp
      exact ⟨c, vs, hvacant, rfl, (Option.some.inj hp).symm⟩

end Driver

/-- The frames after the capture into `x`. A task that waits has popped the oldest one. -/
structure Completes (q : Queue) (x : Nat) (popped : List Nat) (q' : Queue) : Prop where
  held : q'.held = popped ++ q.held
  frames : (popped ++ q'.valid).IsSuffix (q.valid ++ [x])
  queued : (popped ++ q'.queued).Perm q.queued

theorem advance_suffix (mode : Mode) (valid : List Nat) (x : Nat) (vs : List Nat) :
    (Queue.advance mode valid (x :: vs)).1.IsSuffix (valid ++ [x]) := by
  match mode, valid, vs with
  | _, valid, _ :: _ => exact List.suffix_refl _
  | .fifo, valid, [] => exact List.suffix_refl _
  | .ring, [], [] => exact List.nil_suffix
  | .ring, t :: rest, [] => exact List.suffix_cons t _

theorem advance_nil (mode : Mode) (valid : List Nat) (x : Nat) (vs : List Nat)
    (h : (Queue.advance mode valid (x :: vs)).1 = []) :
    valid = [] ∧ (Queue.advance mode valid (x :: vs)).2 = [x] := by
  match mode, valid, vs with
  | _, valid, _ :: _ => simp [Queue.advance] at h
  | .fifo, valid, [] => simp [Queue.advance] at h
  | .ring, [], [] => exact ⟨rfl, rfl⟩
  | .ring, t :: rest, [] => simp [Queue.advance] at h

theorem captureDone_vacant {q : Queue} {x : Nat} {vs : List Nat} (hvacant : q.vacant = x :: vs) :
    q.captureDone.valid = (Queue.advance q.mode q.valid (x :: vs)).1 ∧
      q.captureDone.vacant = (Queue.advance q.mode q.valid (x :: vs)).2 := by
  rw [← hvacant]
  exact ⟨rfl, rfl⟩

theorem captureDone_queued (q : Queue) : q.captureDone.queued.Perm q.queued :=
  List.perm_iff_count.mpr fun a => by
    simp only [Queue.queued, Queue.captureDone, List.count_append, Queue.count_advance]

namespace Driver

variable {d : Driver} {q : Queue}

/-- Without a task that waits the frame stays in the queue. -/
theorem completes_unwaited {x : Nat} {vs : List Nat} (hvacant : q.vacant = x :: vs) :
    Completes q x [] q.captureDone := by
  refine ⟨rfl, ?_, captureDone_queued q⟩
  rw [List.nil_append, (captureDone_vacant hvacant).1]
  exact advance_suffix q.mode q.valid x vs

/-- A task that waits gets the oldest frame, also from a ring of one buffer. -/
theorem completePost_waited {q₀ : Queue} {x : Nat} {vs : List Nat} (hvacant : q₀.vacant = x :: vs)
    (h : Rep d.bufinf q₀.captureDone) (hflg : d.dqbufWaitFlg < 0) :
    ∃ bufinf q' c, d.completePost = some { d with
        bufinf := bufinf
        doneContainer := some c
        dqbufWaitFlg := d.dqbufWaitFlg + 1 } ∧
      Rep bufinf q' ∧ bufinf.buf = d.bufinf.buf ∧ Completes q₀ x [c] q' := by
  have hframes : q₀.captureDone.valid.IsSuffix (q₀.valid ++ [x]) :=
    (completes_unwaited hvacant).frames
  match hvalid : q₀.captureDone.valid with
  | [] =>
    have hsingle : q₀.valid = [] ∧ q₀.captureDone.vacant = [x] := by
      rw [(captureDone_vacant hvacant).1] at hvalid
      rw [(captureDone_vacant hvacant).2]
      exact advance_nil _ _ _ _ hvalid
    obtain ⟨bufinf, hpop, hrep, hkeeps⟩ := popCurrContainer_single h hvalid hsingle.2
    refine ⟨bufinf, _, x, ?_, hrep, hkeeps.buf, rfl, ?_, ?_⟩
    · simp [completePost, hflg, hpop]
    · simp [Queue.drain, hvalid, hsingle.1]
    · have hqueued := captureDone_queued q₀
      rw [Queue.queued, hvalid, hsingle.2] at hqueued
      simpa [Queue.queued, Queue.drain, hvalid] using hqueued
  | v :: vs' =>
    obtain ⟨bufinf, hpop, hrep, hkeeps⟩ := popCurrContainer_some h hvalid
    refine ⟨bufinf, _, v, ?_, hrep, hkeeps.buf, rfl, ?_, ?_⟩
    · simp [completePost, hflg, hpop]
    · rw [hvalid] at hframes
      exact hframes
    · have hqueued := captureDone_queued q₀
      rw [Queue.queued, hvalid] at hqueued
      simpa [Queue.queued, Queue.dequeue] using hqueued

theorem completePost_unwaited (hflg : ¬ d.dqbufWaitFlg < 0) : d.completePost = some d := by
  rw [completePost, if_neg hflg]

theorem videoCompleteCapture_eq (h : Rep d.bufinf q) (hfilms : d.Films q) (hcamera : d.camera ≠ none)
    (errCode : Bool) (datasize : Nat) :
    ∃ d' x vs popped q', d.videoCompleteCapture errCode datasize = some d' ∧
      q.vacant = x :: vs ∧ Completes q x popped q' ∧ Rep d'.bufinf q' ∧ d'.Films q' ∧
      d'.bufinf.buf = filled d.bufinf.buf x errCode datasize ∧
      (d'.camera ≠ none → d'.state = d.state) ∧
      if d.dqbufWaitFlg < 0 then
        ∃ c, popped = [c] ∧ d'.doneContainer = some c ∧ d'.dqbufWaitFlg = d.dqbufWaitFlg + 1
      else popped = [] ∧ d'.doneContainer = d.doneContainer ∧ d'.dqbufWaitFlg = d.dqbufWaitFlg := by
  obtain ⟨p, hp⟩ := Option.ne_none_iff_exists'.mp hcamera
  obtain ⟨x, vs, hvacant, hcurr, -⟩ := hfilms p hp
  have hx : x ∈ q.queued := List.mem_append_right _ (hvacant ▸ List.mem_cons_self)
  obtain ⟨bufinf, hstore, hrep, hbuf⟩ := completeStore_eq h hcurr hx errCode datasize
  by_cases hflg : d.dqbufWaitFlg < 0
  · obtain ⟨bufinf', q', c, hpost, hrep', hbuf', hcompletes⟩ :=
      completePost_waited (d := { d with bufinf := bufinf }) hvacant hrep hflg
    obtain ⟨d', hnext, hrep'', hfilms', hkeeps, hstate⟩ := completeNext_eq (d := { d with
      bufinf := bufinf'
      doneContainer := some c
      dqbufWaitFlg := d.dqbufWaitFlg + 1 }) hrep'
    refine ⟨d', x, vs, [c], q', ?_, hvacant, hcompletes, hrep'', hfilms', ?_, hstate, ?_⟩
    · simp only [videoCompleteCapture, hstore, hpost, hnext, Option.bind_eq_bind, Option.bind_some]
    · rw [hkeeps.buf, hbuf', hbuf]
    · rw [if_pos hflg]
      exact ⟨c, rfl, hkeeps.doneContainer, hkeeps.dqbufWaitFlg⟩
  · obtain ⟨d', hnext, hrep'', hfilms', hkeeps, hstate⟩ :=
      completeNext_eq (d := { d with bufinf := bufinf }) hrep
    refine ⟨d', x, vs, [], q.captureDone, ?_, hvacant, completes_unwaited hvacant, hrep'', hfilms',
      ?_, hstate, ?_⟩
    · simp only [videoCompleteCapture, hstore, completePost_unwaited (d := { d with bufinf := bufinf })
        hflg, hnext, Option.bind_eq_bind, Option.bind_some]
    · rw [hkeeps.buf, hbuf]
    · rw [if_neg hflg]
      exact ⟨rfl, hkeeps.doneContainer, hkeeps.dqbufWaitFlg⟩

end Driver

end Sprefence.VideoDriver

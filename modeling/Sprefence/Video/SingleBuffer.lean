import Sprefence.Video.Driver

/-! The driver with a ring of one buffer, as all programs request it. The functions are told
for the states of the only container: at rest, queued, taken for the camera, and filled by
it. They hold also where two programs have the container at once. -/

namespace Sprefence.VideoDriver

open VideoFramebuff

/-- The only container is linked to nothing or to itself. -/
structure Single (f : Framebuff) : Prop where
  mode : f.mode = .ring
  size : f.containerSize = 1
  alloced : f.vbufAlloced = true
  empty : f.vbufEmpty = none ∨ f.vbufEmpty = some 0
  link : f.next 0 = none ∨ f.next 0 = some 0

/-- The container is not in the queue. -/
structure Unqueued (f : Framebuff) : Prop where
  single : Single f
  top : f.vbufTop = none
  tail : f.vbufTail = none
  next : f.vbufNext = none

/-- The container is in the queue. -/
structure Chained (f : Framebuff) : Prop where
  single : Single f
  top : f.vbufTop = some 0
  tail : f.vbufTail = some 0
  next : f.vbufNext = some 0
  ring : f.next 0 = some 0

/-- The stream waits for a buffer. -/
def Resting (d : Driver) : Prop := Unqueued d.bufinf ∧ d.state = .streamon ∧ d.camera = none

/-- The stream still waits, with the container in the queue. -/
def Pending (d : Driver) : Prop := Chained d.bufinf ∧ d.state = .streamon ∧ d.camera = none

/-- The camera fills the container. -/
def Rolling (d : Driver) : Prop :=
  Chained d.bufinf ∧ d.bufinf.vbufCurr = some 0 ∧ d.camera = some (d.bufinf.buf 0).userptr

/-- The buffers are requested anew. -/
def Driver.renewed (d : Driver) : Driver :=
  { d with bufinf := { d.bufinf with
      buf := fun _ => .zero
      vbufEmpty := some 0
      vbufNext := none
      vbufCurr := none
      vbufTop := none
      vbufTail := none
      next := fun i => if i + 1 < d.bufinf.containerSize then some (i + 1) else none } }

theorem Single.pos {f : Framebuff} (h : Single f) : 0 < f.containerSize := by simp [h.size]

theorem Single.of_curr {f : Framebuff} (h : Single f) (c : Option Nat) :
    Single { f with vbufCurr := c } :=
  ⟨h.mode, h.size, h.alloced, h.empty, h.link⟩

theorem Unqueued.of_curr {f : Framebuff} (h : Unqueued f) (c : Option Nat) :
    Unqueued { f with vbufCurr := c } :=
  ⟨h.single.of_curr c, h.top, h.tail, h.next⟩

theorem Chained.of_curr {f : Framebuff} (h : Chained f) (c : Option Nat) :
    Chained { f with vbufCurr := c } :=
  ⟨h.single.of_curr c, h.top, h.tail, h.next, h.ring⟩

namespace Driver

variable {d : Driver}

/-! ## Requests -/

theorem videoReqbufs_capture (hstate : d.state = .capture) (mode : Mode) (count : Nat) (malloc : Bool) :
    d.videoReqbufs mode count malloc = some (d, .error .eperm) := by
  rw [videoReqbufs, if_pos hstate]

theorem videoReqbufs_single (h : Single d.bufinf) (hstate : d.state = .streamon) (malloc : Bool) :
    d.videoReqbufs .ring 1 malloc = some (d.renewed, .ok ()) := by
  have hmode : d.bufinf.changeMode .ring = some d.bufinf := by simp [Framebuff.changeMode, h.mode]
  have hmax : ¬ 1 > reqbufsCountMax := by decide
  simp [videoReqbufs, hstate, hmode, Framebuff.reallocContainer, hmax, h.alloced, h.size,
    Framebuff.cleanupContainer, renewed]

theorem renewed_unqueued (h : Single d.bufinf) : Unqueued d.renewed.bufinf :=
  ⟨⟨h.mode, h.size, h.alloced, .inr rfl, .inl (by simp [renewed, h.size])⟩, rfl, rfl, rfl⟩

/-! ## Queueing the buffer -/

theorem qbufGet_resting (h : Resting d) (hempty : d.bufinf.vbufEmpty = some 0) :
    ∃ d', d.qbufGet = some (d', some 0) ∧ Resting d' ∧ d.Keeps d' := by
  obtain ⟨⟨hsingle, htop, htail, hnext⟩, hstate, hcamera⟩ := h
  refine ⟨{ d with bufinf := { d.bufinf with
    vbufEmpty := d.bufinf.next 0
    next := Function.update d.bufinf.next 0 none } }, ?_, ?_, rfl, rfl, rfl, rfl⟩
  · simp [qbufGet, Framebuff.getContainer, hempty, Framebuff.getNext_some, Framebuff.setNext_some,
      hsingle.size]
  · exact ⟨⟨⟨hsingle.mode, hsingle.size, hsingle.alloced, hsingle.link, .inl (by simp)⟩, htop, htail,
      hnext⟩, hstate, hcamera⟩

theorem qbufCopy_resting (h : Resting d) (buf : V4l2Buffer) :
    ∃ d', d.qbufCopy 0 buf = some d' ∧ Resting d' ∧ d'.bufinf.buf 0 = buf ∧
      d'.openNum = d.openNum ∧ (d.Unwaited → d'.Unwaited) := by
  obtain ⟨⟨hsingle, htop, htail, hnext⟩, hstate, hcamera⟩ := h
  refine ⟨{ d with bufinf := { d.bufinf with buf := Function.update d.bufinf.buf 0 buf } }, ?_, ?_,
    by simp, rfl, id⟩
  · simp [qbufCopy, Framebuff.deref_some, hsingle.size]
  · exact ⟨⟨⟨hsingle.mode, hsingle.size, hsingle.alloced, hsingle.empty, hsingle.link⟩, htop, htail,
      hnext⟩, hstate, hcamera⟩

theorem qbufQueue_resting (h : Resting d) :
    ∃ d', d.qbufQueue 0 = some d' ∧ Pending d' ∧ d.Keeps d' := by
  obtain ⟨⟨hsingle, htop, htail, hnext⟩, hstate, hcamera⟩ := h
  have hqueue := Framebuff.queueContainer_first htop hsingle.pos
  rw [if_pos hsingle.mode] at hqueue
  refine ⟨{ d with bufinf := { d.bufinf with
    vbufTop := some 0
    vbufTail := some 0
    vbufNext := some 0
    next := Function.update d.bufinf.next 0 (some 0) } }, ?_, ?_, rfl, rfl, rfl, rfl⟩
  · rw [qbufQueue, hqueue, Option.map_some]
  · exact ⟨⟨⟨hsingle.mode, hsingle.size, hsingle.alloced, hsingle.empty, .inr (by simp)⟩, rfl, rfl,
      rfl, by simp⟩, hstate, hcamera⟩

/-! ## Starting the camera -/

theorem changeBegin_pending (h : Pending d) :
    d.changeBegin .capture =
      ({ d with bufinf := { d.bufinf with vbufCurr := some 0 } }, .start 0) := by
  obtain ⟨hchained, hstate, -⟩ := h
  simp [changeBegin, hstate, Framebuff.getVacantContainer, hchained.next]

/-- Without a queued buffer no capture starts. -/
theorem changeBegin_resting (h : Resting d) :
    d.changeBegin .capture =
      ({ d with bufinf := { d.bufinf with vbufCurr := none } }, .finish .streamon) := by
  obtain ⟨hunqueued, hstate, -⟩ := h
  simp [changeBegin, hstate, Framebuff.getVacantContainer, hunqueued.next]

theorem startCapture_single (h : Single d.bufinf) :
    d.startCapture 0 = some { d with camera := some (d.bufinf.buf 0).userptr } := by
  simp [startCapture, Framebuff.deref_some, h.pos]

/-! ## Waiting for a frame -/

/-- The only buffer is never found as a frame. -/
theorem dqbufGet_single (h : d.bufinf.vbufTop = d.bufinf.vbufNext) :
    d.dqbufGet = some (d, none) := by
  simp [dqbufGet, Framebuff.dqValidContainer, h]

theorem dqbufStart_capture (hstate : d.state = .capture) : d.dqbufStart = some d := by
  have hd : { d with state := .capture } = d := by rw [← hstate]
  simp [dqbufStart, estimateNextVideoState, changeVideoState, changeBegin, changeEnd, hstate, hd]

theorem dqbufStart_resting (h : Resting d) :
    d.dqbufStart = some { d with bufinf := { d.bufinf with vbufCurr := none } } := by
  have hnext : estimateNextVideoState d.state false .videoDqbuf = .capture := by
    simp [estimateNextVideoState, h.2.1]
  have hd : { d with bufinf := { d.bufinf with vbufCurr := none }, state := .streamon } =
      { d with bufinf := { d.bufinf with vbufCurr := none } } := by rw [← h.2.1]
  rw [dqbufStart, hnext, changeVideoState, changeBegin_resting h]
  exact congrArg some hd

theorem dqbufFree_resting (h : Resting d) :
    ∃ d', d.dqbufFree 0 = some d' ∧ Resting d' ∧ d'.bufinf.vbufEmpty = some 0 ∧ d.Keeps d' := by
  obtain ⟨⟨hsingle, htop, htail, hnext⟩, hstate, hcamera⟩ := h
  refine ⟨{ d with bufinf := { d.bufinf with
    vbufEmpty := some 0
    next := Function.update d.bufinf.next 0 d.bufinf.vbufEmpty } }, ?_, ?_, rfl, rfl, rfl, rfl, rfl⟩
  · simp [dqbufFree, Framebuff.freeContainer, Framebuff.setNext_some, hsingle.size]
  · refine ⟨⟨⟨hsingle.mode, hsingle.size, hsingle.alloced, .inr rfl, ?_⟩, htop, htail, hnext⟩, hstate,
      hcamera⟩
    simpa using hsingle.empty

/-! ## The interrupt -/

/-- Without a container to be filled the interrupt follows the null pointer. -/
theorem videoCompleteCapture_none (h : d.bufinf.vbufCurr = none) (errCode : Bool) (datasize : Nat) :
    d.videoCompleteCapture errCode datasize = none := by
  simp [videoCompleteCapture, completeStore, h, Framebuff.deref]

/-- The capture leaves the only buffer in the queue. -/
theorem completeStore_rolling (h : Rolling d) (errCode : Bool) (datasize : Nat) :
    ∃ d', d.completeStore errCode datasize = some d' ∧ Chained d'.bufinf ∧ d'.state = d.state ∧
      (d'.bufinf.buf 0).userptr = (d.bufinf.buf 0).userptr ∧
      d'.openNum = d.openNum ∧ d'.dqbufWaitFlg = d.dqbufWaitFlg ∧
      d'.doneContainer = d.doneContainer := by
  obtain ⟨hchained, hcurr, -⟩ := h
  have hsingle := hchained.single
  have hdone := Framebuff.captureDone_turn
    (f := { d.bufinf with buf := filled d.bufinf.buf 0 errCode datasize }) hchained.next hsingle.pos
    hchained.top hsingle.pos hchained.ring hchained.tail hsingle.pos
  refine ⟨{ d with bufinf := { d.bufinf with
    buf := filled d.bufinf.buf 0 errCode datasize
    vbufCurr := none
    vbufNext := some 0
    vbufTop := some 0
    vbufTail := some 0 } }, ?_, ?_, rfl, ?_, rfl, rfl, rfl⟩
  · rw [filled, hchained.ring] at hdone
    rw [completeStore, hcurr, Framebuff.deref_some hsingle.pos, Option.bind_eq_bind, Option.bind_some]
    simp only [hdone, Option.bind_eq_bind, Option.bind_some, filled]
  · exact ⟨⟨hsingle.mode, hsingle.size, hsingle.alloced, hsingle.empty, hsingle.link⟩, rfl, rfl, rfl,
      hchained.ring⟩
  · simp [filled]

/-- The interrupt while no task waits: the camera fills the same buffer again. -/
theorem videoCompleteCapture_again (h : Rolling d) (hunwaited : d.Unwaited) (errCode : Bool)
    (datasize : Nat) :
    ∃ d', d.videoCompleteCapture errCode datasize = some d' ∧ Rolling d' ∧ d'.state = d.state ∧
      (d'.bufinf.buf 0).userptr = (d.bufinf.buf 0).userptr ∧ d'.openNum = d.openNum ∧
      d'.Unwaited := by
  obtain ⟨d₁, hstore, hchained, hstate, hptr, hopen, hflg, hdone⟩ :=
    completeStore_rolling h errCode datasize
  have hzero : ¬ d₁.dqbufWaitFlg < 0 := by simp [hflg, hunwaited.1]
  refine ⟨{ d₁ with
    bufinf := { d₁.bufinf with vbufCurr := some 0 }
    camera := some (d₁.bufinf.buf 0).userptr }, ?_, ?_, hstate, hptr, hopen,
    hflg.trans hunwaited.1, hdone.trans hunwaited.2⟩
  · simp [videoCompleteCapture, hstore, completePost_unwaited hzero, completeNext,
      Framebuff.getVacantContainer, hchained.next, Framebuff.deref_some, hchained.single.pos]
  · exact ⟨hchained.of_curr (some 0), rfl, rfl⟩

/-- The interrupt while a task waits: it gets the buffer, and the camera stops. -/
theorem videoCompleteCapture_posts (h : Rolling d) (hflg : d.dqbufWaitFlg < 0) (errCode : Bool)
    (datasize : Nat) :
    ∃ d', d.videoCompleteCapture errCode datasize = some d' ∧ Resting d' ∧
      (d'.bufinf.buf 0).userptr = (d.bufinf.buf 0).userptr ∧
      d'.openNum = d.openNum ∧ d'.dqbufWaitFlg = d.dqbufWaitFlg + 1 ∧ d'.doneContainer = some 0 := by
  obtain ⟨d₁, hstore, hchained, -, hptr, hopen, hflg₁, -⟩ := completeStore_rolling h errCode datasize
  have hsingle := hchained.single
  have hpop := Framebuff.dequeueVbufUnsafe_last hchained.top hchained.tail
  refine ⟨{ d₁ with
    bufinf := { d₁.bufinf with vbufTop := none, vbufTail := none, vbufNext := none, vbufCurr := none }
    doneContainer := some 0
    dqbufWaitFlg := d₁.dqbufWaitFlg + 1
    camera := none
    state := .streamon }, ?_, ?_, hptr, hopen, by rw [hflg₁], rfl⟩
  · simp [videoCompleteCapture, hstore, completePost, hflg₁, hflg, Framebuff.popCurrContainer,
      hchained.top, hpop, completeNext, Framebuff.getVacantContainer]
  · exact ⟨⟨⟨hsingle.mode, hsingle.size, hsingle.alloced, hsingle.empty, hsingle.link⟩, rfl, rfl, rfl⟩,
      rfl, rfl⟩

end Driver

end Sprefence.VideoDriver

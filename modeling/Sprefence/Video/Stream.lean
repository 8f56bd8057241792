import Sprefence.Video.Driver

/-! A program that uses the video driver, in any interleaving with the interrupts of the
camera. The program lends its memory to the driver; the camera only writes to memory that
is lent, and the frames come back in the order of their captures. -/

namespace Sprefence.VideoDriver

open VideoFramebuff

/-- Where the program is. -/
inductive Phase
  /-- Outside of `ioctl`. -/
  | idle
  /-- In `VIDIOC_QBUF` with a container, before `memcpy`. -/
  | got (container : Nat) (buf : V4l2Buffer)
  | copied (container : Nat) (buf : V4l2Buffer)
  | queued
  /-- In `VIDIOC_STREAMON` or `VIDIOC_QBUF`, before `change_video_state`. -/
  | checked
  | changing (change : Change)
  /-- In `VIDIOC_DQBUF`, which has found no frame. -/
  | found
  | started
  | waiting
  /-- In `VIDIOC_DQBUF` with a container, before `memcpy`. -/
  | dequeued (container : Nat)
  | returned (container : Nat) (buf : V4l2Buffer)
  deriving DecidableEq, Repr

/-- The frame that `VIDIOC_DQBUF` has taken. -/
def Phase.taken : Phase → List Nat
  | .dequeued c => [c]
  | .returned c _ => [c]
  | _ => []

/-- The driver with its program, and what has passed between them. -/
structure System where
  driver : Driver
  phase : Phase
  /-- The memory of the buffers that were queued. -/
  queued : List Nat
  /-- That which the driver still has. -/
  lent : List Nat
  /-- That which the driver has given up at a `VIDIOC_REQBUFS`. -/
  dropped : List Nat
  /-- What each interrupt of the camera said. -/
  captures : List (Bool × Nat)
  /-- The buffers that `VIDIOC_DQBUF` returned. -/
  frames : List V4l2Buffer

inductive Event
  | reqbufs (mode : Mode) (count : Nat) (malloc : Bool)
  | sFmt (fmt : Format)
  | streamon
  | streamoff
  | qbuf (buf : V4l2Buffer)
  | dqbuf
  /-- The call that the program is in goes on to its next part. -/
  | goOn
  | complete (errCode : Bool) (datasize : Nat)

/-- What a capture says of a buffer. -/
def info (buf : V4l2Buffer) : Bool × Nat := (buf.error, buf.bytesused)

namespace System

/-- The device is open, and nothing was done with it. -/
def init : System := ⟨.initial 1, .idle, [], [], [], [], []⟩

/-- The next part of the call that the program is in. -/
def goOn (s : System) : Option System :=
  match s.phase with
  | .idle => some s
  | .got c buf =>
    (s.driver.qbufCopy c buf).map fun d => { s with driver := d, phase := .copied c buf }
  | .copied c buf => (s.driver.qbufQueue c).map fun d =>
    { s with
      driver := d
      phase := .queued
      queued := s.queued ++ [buf.userptr]
      lent := buf.userptr :: s.lent }
  | .queued => some { s with phase := if s.driver.state = .streamon then .checked else .idle }
  | .checked =>
    let (d, change) := s.driver.changeBegin
      (estimateNextVideoState s.driver.state false .videoStart)
    some { s with driver := d, phase := .changing change }
  | .changing (.start c) => (s.driver.startCapture c).map fun d =>
    { s with driver := d, phase := .changing (.finish .capture) }
  | .changing (.finish next) => some { s with driver := s.driver.changeEnd next, phase := .idle }
  | .found => s.driver.dqbufStart.map fun d => { s with driver := d, phase := .started }
  | .started => some { s with driver := s.driver.dqbufWait, phase := .waiting }
  | .waiting => s.driver.dqbufWake.map fun (d, c) => { s with driver := d, phase := .dequeued c }
  | .dequeued c => (s.driver.dqbufCopy c).map fun buf => { s with phase := .returned c buf }
  | .returned c buf => (s.driver.dqbufFree c).map fun d =>
    { s with
      driver := d
      phase := .idle
      lent := s.lent.erase buf.userptr
      frames := s.frames ++ [buf] }

def step (validate : List Format → Except Errno Unit) (s : System) : Event → Option System
  | .reqbufs mode count malloc =>
    (s.driver.videoReqbufs mode count malloc).map fun (d, ret) =>
      match ret with
      | .ok () => { s with driver := d, lent := [], dropped := s.dropped ++ s.lent }
      | .error _ => { s with driver := d }
  | .sFmt fmt => some { s with driver := (s.driver.videoSFmt validate fmt).1 }
  | .streamon => some { s with phase := if s.driver.state = .streamoff then .checked else .idle }
  | .streamoff => s.driver.videoStreamoff.map fun r => { s with driver := r.1 }
  | .qbuf buf =>
    s.driver.qbufGet.map fun (d, container) =>
      match container with
      | some c => { s with driver := d, phase := .got c buf }
      | none => { s with driver := d }
  | .dqbuf =>
    s.driver.dqbufGet.map fun (d, container) =>
      match container with
      | some c => { s with driver := d, phase := .dequeued c }
      | none => { s with driver := d, phase := .found }
  | .goOn => s.goOn
  | .complete errCode datasize =>
    (s.driver.videoCompleteCapture errCode datasize).map fun d =>
      { s with driver := d, captures := s.captures ++ [(errCode, datasize)] }

/-- The program is in one call at a time, and a task that waits does not run. A request is for
at least one buffer and gets its memory. An interrupt comes from a running camera. -/
def Allowed (s : System) : Event → Prop
  | .reqbufs _ count malloc => s.phase = .idle ∧ 0 < count ∧ malloc = true
  | .sFmt _ => s.phase = .idle
  | .streamon => s.phase = .idle
  | .streamoff => s.phase = .idle
  | .qbuf _ => s.phase = .idle
  | .dqbuf => s.phase = .idle
  | .goOn => s.phase = .waiting → 0 ≤ s.driver.dqbufWaitFlg
  | .complete _ _ => s.driver.camera ≠ none

/-! ## The invariant -/

/-- The container that the program holds, and its wait. -/
def Holds (s : System) (q : Queue) : Prop :=
  match s.phase with
  | .got c _ => q.held = [c] ∧ s.driver.Unwaited
  | .copied c buf => q.held = [c] ∧ s.driver.Unwaited ∧ s.driver.bufinf.buf c = buf
  | .waiting => (q.held = [] ∧ s.driver.dqbufWaitFlg = -1 ∧ s.driver.doneContainer = none) ∨
      ∃ c, q.held = [c] ∧ s.driver.dqbufWaitFlg = 0 ∧ s.driver.doneContainer = some c
  | .dequeued c => q.held = [c] ∧ s.driver.Unwaited
  | .returned c buf => q.held = [c] ∧ s.driver.Unwaited ∧ s.driver.bufinf.buf c = buf
  | _ => q.held = [] ∧ s.driver.Unwaited

/-- Whether the camera may run. -/
def Starts (s : System) (q : Queue) : Prop :=
  match s.phase with
  | .changing change => s.driver.Ready q change
  | _ => s.driver.Steady

/-- The containers of the frames, the oldest first. -/
def frameContainers (s : System) (q : Queue) : List Nat :=
  s.phase.taken ++ s.driver.doneContainer.toList ++ q.valid

structure Inv (s : System) (q : Queue) : Prop where
  rep : Rep s.driver.bufinf q
  holds : s.Holds q
  starts : s.Starts q
  films : s.driver.Films q
  lent : s.lent.Perm
    ((s.frameContainers q ++ q.vacant).map fun c => (s.driver.bufinf.buf c).userptr)
  passed : s.queued.Perm (s.frames.map V4l2Buffer.userptr ++ s.lent ++ s.dropped)
  order : (s.frames.map info ++
    (s.frameContainers q).map fun c => info (s.driver.bufinf.buf c)).Sublist s.captures

variable {s : System} {q : Queue}

theorem inv_init : Inv init (.fresh .ring 0) :=
  ⟨rep_init, ⟨rfl, rfl, rfl⟩, fun h => absurd rfl h, Driver.films_of_none rfl, .refl _, .refl _,
    List.Sublist.refl _⟩

/-- The program goes on to another place with its containers. -/
theorem Inv.of_keeps (h : Inv s q) {d : Driver} {phase : Phase} (hrep : Rep d.bufinf q)
    (hfilms : d.Films q) (hkeeps : s.driver.Keeps d)
    (hholds : Holds { s with driver := d, phase := phase } q)
    (hstarts : Starts { s with driver := d, phase := phase } q)
    (htaken : phase.taken = s.phase.taken) :
    Inv { s with driver := d, phase := phase } q := by
  refine ⟨hrep, hholds, hstarts, hfilms, ?_, h.passed, ?_⟩
  · simpa only [frameContainers, hkeeps.buf, hkeeps.doneContainer, htaken] using h.lent
  · simpa only [frameContainers, hkeeps.buf, hkeeps.doneContainer, htaken] using h.order

theorem Inv.idle (h : Inv s q) (hphase : s.phase = .idle) :
    q.held = [] ∧ s.driver.Unwaited ∧ s.driver.Steady := by
  have hholds : q.held = [] ∧ s.driver.Unwaited := by simpa only [Holds, hphase] using h.holds
  exact ⟨hholds.1, hholds.2, by simpa only [Starts, hphase] using h.starts⟩

theorem frameContainers_unwaited (h : s.driver.Unwaited) :
    s.frameContainers q = s.phase.taken ++ q.valid := by
  rw [frameContainers, h.2, Option.toList_none, List.append_nil]

theorem frameContainers_untaken (h : s.driver.Unwaited) (htaken : s.phase.taken = []) :
    s.frameContainers q = q.valid := by
  rw [frameContainers_unwaited h, htaken, List.nil_append]

theorem map_update_of_notMem {A : Type*} (g : V4l2Buffer → A) (buf : Nat → V4l2Buffer) {c : Nat}
    (b : V4l2Buffer) {l : List Nat} (hc : c ∉ l) :
    (l.map fun a => g (Function.update buf c b a)) = l.map fun a => g (buf a) :=
  List.map_congr_left fun a ha => by rw [Function.update_of_ne (ne_of_mem_of_not_mem ha hc)]

/-! ## One step -/

variable {validate : List Format → Except Errno Unit}

theorem changeMode_queued (q : Queue) (mode : Mode) :
    (q.changeMode mode).held = q.held ∧ (q.changeMode mode).queued = q.queued ∧
      (q.changeMode mode).valid.Sublist q.valid := by
  rw [Queue.changeMode]
  split_ifs
  · exact ⟨rfl, rfl, List.Sublist.refl _⟩
  · exact ⟨rfl, rfl, List.nil_sublist _⟩

/-- The mode is changed also where the number of buffers is refused. -/
theorem reqbufs_refused (h : Inv s q) (hphase : s.phase = .idle) {mode : Mode} {count : Nat}
    {malloc : Bool} (hstate : s.driver.state ≠ .capture) (hmax : count > reqbufsCountMax) :
    ∃ s', s.step validate (.reqbufs mode count malloc) = some s' ∧ Inv s' (q.changeMode mode) := by
  obtain ⟨bufinf, hmode, hrep, hkeeps⟩ := changeMode_eq h.rep mode
  obtain ⟨hheld, hqueued, hvalid⟩ := changeMode_queued q mode
  obtain ⟨hnone, hunwaited, hsteady⟩ := h.idle hphase
  refine ⟨{ s with driver := { s.driver with bufinf := bufinf } }, ?_, hrep, ?_, ?_,
    Driver.films_of_none (hsteady.camera_eq_none hstate), ?_, h.passed, ?_⟩
  · simp [step, Driver.videoReqbufs, hstate, hmode, Framebuff.reallocContainer, hmax]
  · simpa only [Holds, hphase] using ⟨hheld.trans hnone, hunwaited⟩
  · simp only [Starts, hphase]
    exact hsteady
  · have hlent := h.lent
    rw [frameContainers_untaken hunwaited (congrArg Phase.taken hphase), ← Queue.queued] at hlent
    rw [frameContainers_untaken (by exact hunwaited) (by exact congrArg Phase.taken hphase),
      ← Queue.queued, hqueued, hkeeps.buf]
    exact hlent
  · have horder := h.order
    rw [frameContainers_unwaited hunwaited] at horder
    rw [frameContainers_unwaited (by exact hunwaited), hkeeps.buf]
    exact (((hvalid.append_left _).map _).append_left _).trans horder

theorem reqbufs_accepted (h : Inv s q) (hphase : s.phase = .idle) {mode : Mode} {count : Nat}
    (hcount : 0 < count) (hstate : s.driver.state ≠ .capture) (hmax : count ≤ reqbufsCountMax) :
    ∃ s' q', s.step validate (.reqbufs mode count true) = some s' ∧ Inv s' q' := by
  obtain ⟨bufinf, hmode, -, -⟩ := changeMode_eq h.rep mode
  obtain ⟨hret, hrep, -⟩ := reallocContainer_ok bufinf count hcount hmax
  obtain ⟨-, hunwaited, hsteady⟩ := h.idle hphase
  refine ⟨{ s with
    driver := { s.driver with bufinf := (bufinf.reallocContainer count true).1 }
    lent := []
    dropped := s.dropped ++ s.lent }, .fresh bufinf.mode count, ?_, hrep, ?_, ?_,
    Driver.films_of_none (hsteady.camera_eq_none hstate), ?_, ?_, ?_⟩
  · simp [step, Driver.videoReqbufs, hstate, hmode, hret]
  · simpa only [Holds, hphase] using ⟨rfl, hunwaited⟩
  · simp only [Starts, hphase]
    exact hsteady
  · rw [frameContainers_untaken (by exact hunwaited) (by exact congrArg Phase.taken hphase)]
    exact .refl _
  · refine h.passed.trans ?_
    rw [List.append_nil, List.append_assoc]
    exact List.perm_append_comm.append_left _
  · rw [frameContainers_untaken (by exact hunwaited) (by exact congrArg Phase.taken hphase),
      Queue.fresh, List.map_nil, List.append_nil]
    exact (List.sublist_append_left _ _).trans h.order

theorem reqbufs_inv (h : Inv s q) (hphase : s.phase = .idle) (mode : Mode) {count : Nat}
    (hcount : 0 < count) :
    ∃ s' q', s.step validate (.reqbufs mode count true) = some s' ∧ Inv s' q' := by
  by_cases hstate : s.driver.state = .capture
  · exact ⟨s, q, by simp [step, Driver.videoReqbufs, hstate], h⟩
  · by_cases hmax : count > reqbufsCountMax
    · obtain ⟨s', hs', hinv⟩ := reqbufs_refused h hphase hstate hmax
      exact ⟨s', _, hs', hinv⟩
    · exact reqbufs_accepted h hphase hcount hstate (Nat.not_lt.mp hmax)

/-- A format changes nothing about the buffers. -/
theorem sFmt_inv (h : Inv s q) (hphase : s.phase = .idle) (fmt : Format) :
    ∃ s' q', s.step validate (.sFmt fmt) = some s' ∧ Inv s' q' := by
  have hidle := h.idle hphase
  have hfmt : ∀ d : Driver, s.driver.Keeps d → d.bufinf = s.driver.bufinf →
      d.camera = s.driver.camera → d.state = s.driver.state → Inv { s with driver := d } q := by
    intro d hkeeps hbufinf hcamera hstate
    refine h.of_keeps (hbufinf ▸ h.rep) ?_ hkeeps ?_ ?_ rfl
    · simpa only [Driver.Films, hbufinf, hcamera] using h.films
    · simpa only [Holds, hphase] using ⟨hidle.1, hidle.2.1.of_keeps hkeeps⟩
    · simpa only [Starts, hphase, Driver.Steady, hcamera, hstate] using hidle.2.2
  refine ⟨_, q, rfl, ?_⟩
  rw [Driver.videoSFmt]
  split
  · exact h
  · split_ifs
    · exact h
    · split <;> exact hfmt _ ⟨rfl, rfl, rfl, rfl⟩ rfl rfl rfl

theorem streamon_inv (h : Inv s q) (hphase : s.phase = .idle) :
    ∃ s' q', s.step validate .streamon = some s' ∧ Inv s' q' := by
  obtain ⟨hheld, hunwaited, hsteady⟩ := h.idle hphase
  refine ⟨_, q, rfl, h.of_keeps h.rep h.films ⟨rfl, rfl, rfl, rfl⟩ ?_ ?_ ?_⟩
  · split_ifs <;> exact ⟨hheld, hunwaited⟩
  · split_ifs <;> exact hsteady
  · rw [hphase]
    split_ifs <;> rfl

theorem streamoff_inv (h : Inv s q) (hphase : s.phase = .idle) :
    ∃ s' q', s.step validate .streamoff = some s' ∧ Inv s' q' := by
  obtain ⟨hheld, hunwaited, hsteady⟩ := h.idle hphase
  by_cases hstate : s.driver.state = .streamoff
  · exact ⟨s, q, by simp [step, Driver.videoStreamoff, hstate], h⟩
  · obtain ⟨d, hd, hrep, hfilms, hkeeps, hsteady'⟩ := Driver.changeVideoState_eq h.rep h.films hsteady
      (estimateNextVideoState s.driver.state false .videoStop)
    refine ⟨{ s with driver := d }, q, ?_, h.of_keeps hrep hfilms hkeeps ?_ ?_ rfl⟩
    · rw [step, Driver.videoStreamoff, if_neg hstate, hd]
      rfl
    · simpa only [Holds, hphase] using ⟨hheld, hunwaited.of_keeps hkeeps⟩
    · simpa only [Starts, hphase] using hsteady'

/-! ### Queueing a buffer -/

theorem qbuf_inv (h : Inv s q) (hphase : s.phase = .idle) (buf : V4l2Buffer) :
    ∃ s' q', s.step validate (.qbuf buf) = some s' ∧ Inv s' q' := by
  match hempty : q.empty with
  | [] => exact ⟨s, q, by simp [step, Driver.qbufGet, getContainer_none h.rep hempty], h⟩
  | c :: e =>
    obtain ⟨bufinf, hget, hrep, hkeeps⟩ := getContainer_some h.rep hempty
    obtain ⟨hnone, hunwaited, hsteady⟩ := h.idle hphase
    refine ⟨{ s with driver := { s.driver with bufinf := bufinf }, phase := .got c buf },
      q.take c e hempty, ?_, hrep, ?_, hsteady, ?_, ?_, h.passed, ?_⟩
    · simp [step, Driver.qbufGet, hget]
    · exact ⟨by simp [Queue.take, hnone], hunwaited⟩
    · simpa only [Driver.Films, Queue.take, hkeeps.buf, hkeeps.curr] using h.films
    · have hlent := h.lent
      rw [frameContainers, hphase] at hlent
      simpa only [frameContainers, Phase.taken, Queue.take, hkeeps.buf] using hlent
    · have horder := h.order
      rw [frameContainers, hphase] at horder
      simpa only [frameContainers, Phase.taken, Queue.take, hkeeps.buf] using horder

theorem copy_inv (h : Inv s q) {c : Nat} {buf : V4l2Buffer} (hphase : s.phase = .got c buf) :
    ∃ s' q', s.goOn = some s' ∧ Inv s' q' := by
  obtain ⟨hheld, hunwaited⟩ : q.held = [c] ∧ s.driver.Unwaited := by
    simpa only [Holds, hphase] using h.holds
  have hsteady : s.driver.Steady := by simpa only [Starts, hphase] using h.starts
  have hc : c ∈ q.held := by simp [hheld]
  have hqueued : c ∉ q.valid ++ q.vacant := q.not_queued_of_held hc
  have hframes : c ∉ q.valid := fun hv => hqueued (List.mem_append_left _ hv)
  refine ⟨{ s with
    driver := { s.driver with bufinf := { s.driver.bufinf with
      buf := Function.update s.driver.bufinf.buf c buf } }
    phase := .copied c buf }, q, ?_, h.rep.of_buf _, ?_, hsteady, ?_, ?_, h.passed, ?_⟩
  · simp [goOn, hphase, Driver.qbufCopy, Framebuff.deref_some (h.rep.lt_of_held hc)]
  · exact ⟨hheld, hunwaited, Function.update_self ..⟩
  · intro p hp
    obtain ⟨x, vs, hvacant, hcurr, hptr⟩ := h.films p hp
    have hx : x ≠ c := by
      rintro rfl
      exact hqueued (by simp [hvacant])
    exact ⟨x, vs, hvacant, hcurr, by simpa only [Function.update_of_ne hx] using hptr⟩
  · have hlent := h.lent
    rw [frameContainers_untaken hunwaited (congrArg Phase.taken hphase)] at hlent
    rw [frameContainers_untaken (by exact hunwaited) rfl, map_update_of_notMem _ _ _ hqueued]
    exact hlent
  · have horder := h.order
    rw [frameContainers_untaken hunwaited (congrArg Phase.taken hphase)] at horder
    rw [frameContainers_untaken (by exact hunwaited) rfl, map_update_of_notMem _ _ _ hframes]
    exact horder

theorem queue_inv (h : Inv s q) {c : Nat} {buf : V4l2Buffer} (hphase : s.phase = .copied c buf) :
    ∃ s' q', s.goOn = some s' ∧ Inv s' q' := by
  obtain ⟨hheld, hunwaited, hbuf⟩ :
      q.held = [c] ∧ s.driver.Unwaited ∧ s.driver.bufinf.buf c = buf := by
    simpa only [Holds, hphase] using h.holds
  have hsteady : s.driver.Steady := by simpa only [Starts, hphase] using h.starts
  have hc : c ∈ q.held := by simp [hheld]
  obtain ⟨bufinf, hqueue, hrep, hkeeps⟩ := queueContainer_eq h.rep hc
  refine ⟨{ s with
    driver := { s.driver with bufinf := bufinf }
    phase := .queued
    queued := s.queued ++ [buf.userptr]
    lent := buf.userptr :: s.lent }, q.enqueue c hc, ?_, hrep, ?_, hsteady, ?_, ?_, ?_, ?_⟩
  · simp [goOn, hphase, Driver.qbufQueue, hqueue]
  · exact ⟨by simp [Queue.enqueue, hheld], hunwaited⟩
  · intro p hp
    obtain ⟨x, vs, hvacant, hcurr, hptr⟩ := h.films p hp
    exact ⟨x, vs ++ [c], by simp [Queue.enqueue, hvacant], by simpa only [hkeeps.curr] using hcurr,
      by simpa only [hkeeps.buf] using hptr⟩
  · have hlent := h.lent.cons buf.userptr
    rw [frameContainers, hphase] at hlent
    simp only [frameContainers, Phase.taken, Queue.enqueue, hkeeps.buf, ← hbuf] at hlent ⊢
    refine hlent.trans ?_
    simp only [List.map_append, List.map_cons, List.map_nil, ← List.append_assoc]
    exact (List.perm_append_singleton _ _).symm
  · refine (h.passed.append_right _).trans ?_
    refine (List.perm_append_singleton _ _).trans ?_
    rw [List.append_assoc, List.append_assoc, List.cons_append]
    exact List.perm_middle.symm
  · have horder := h.order
    rw [frameContainers, hphase] at horder
    simpa only [frameContainers, Phase.taken, hkeeps.buf, Queue.enqueue] using horder

theorem check_inv (h : Inv s q) (hphase : s.phase = .queued) :
    ∃ s' q', s.goOn = some s' ∧ Inv s' q' := by
  have hholds : q.held = [] ∧ s.driver.Unwaited := by simpa only [Holds, hphase] using h.holds
  have hsteady : s.driver.Steady := by simpa only [Starts, hphase] using h.starts
  refine ⟨_, q, by rw [goOn, hphase], h.of_keeps h.rep h.films ⟨rfl, rfl, rfl, rfl⟩ ?_ ?_ ?_⟩
  · split_ifs <;> exact hholds
  · split_ifs <;> exact hsteady
  · rw [hphase]
    split_ifs <;> rfl

/-! ### Starting the camera -/

theorem begin_inv (h : Inv s q) (hphase : s.phase = .checked) :
    ∃ s' q', s.goOn = some s' ∧ Inv s' q' := by
  have hholds : q.held = [] ∧ s.driver.Unwaited := by simpa only [Holds, hphase] using h.holds
  have hsteady : s.driver.Steady := by simpa only [Starts, hphase] using h.starts
  obtain ⟨d, change, hbegin, hrep, hfilms, hkeeps, hready⟩ := Driver.changeBegin_eq h.rep h.films
    hsteady (estimateNextVideoState s.driver.state false .videoStart)
  refine ⟨{ s with driver := d, phase := .changing change }, q, ?_, h.of_keeps hrep hfilms hkeeps
    ⟨hholds.1, hholds.2.of_keeps hkeeps⟩ hready (by rw [hphase]; rfl)⟩
  simp only [goOn, hphase, hbegin]

theorem start_inv (h : Inv s q) {c : Nat} (hphase : s.phase = .changing (.start c)) :
    ∃ s' q', s.goOn = some s' ∧ Inv s' q' := by
  have hholds : q.held = [] ∧ s.driver.Unwaited := by simpa only [Holds, hphase] using h.holds
  have hready : s.driver.Ready q (.start c) := by simpa only [Starts, hphase] using h.starts
  obtain ⟨d, hstart, hrep, hfilms, hkeeps, hready'⟩ := Driver.startCapture_eq h.rep hready
  refine ⟨{ s with driver := d, phase := .changing (.finish .capture) }, q, ?_,
    h.of_keeps hrep hfilms hkeeps ⟨hholds.1, hholds.2.of_keeps hkeeps⟩ hready'
    (by rw [hphase]; rfl)⟩
  simp only [goOn, hphase, hstart, Option.map_some]

theorem finish_inv (h : Inv s q) {next : VideoState} (hphase : s.phase = .changing (.finish next)) :
    ∃ s' q', s.goOn = some s' ∧ Inv s' q' := by
  have hholds : q.held = [] ∧ s.driver.Unwaited := by simpa only [Holds, hphase] using h.holds
  have hready : s.driver.Ready q (.finish next) := by simpa only [Starts, hphase] using h.starts
  refine ⟨{ s with driver := s.driver.changeEnd next, phase := .idle }, q, by rw [goOn, hphase],
    h.of_keeps h.rep h.films ⟨rfl, rfl, rfl, rfl⟩ hholds hready (by rw [hphase]; rfl)⟩

/-! ### Dequeueing a frame -/

theorem dqbuf_inv (h : Inv s q) (hphase : s.phase = .idle) :
    ∃ s' q', s.step validate .dqbuf = some s' ∧ Inv s' q' := by
  obtain ⟨hheld, hunwaited, hsteady⟩ := h.idle hphase
  match hvalid : q.valid with
  | [] =>
    refine ⟨{ s with phase := .found }, q, ?_, h.of_keeps h.rep h.films ⟨rfl, rfl, rfl, rfl⟩
      ⟨hheld, hunwaited⟩ hsteady (by rw [hphase]; rfl)⟩
    simp [step, Driver.dqbufGet, dqValidContainer_none h.rep hvalid]
  | v :: vs =>
    obtain ⟨f, hdq, hrep, hkeeps⟩ := dqValidContainer_some h.rep hvalid
    refine ⟨{ s with driver := { s.driver with bufinf := f }, phase := .dequeued v },
      q.dequeue v vs hvalid, ?_, hrep, ⟨?_, hunwaited⟩, hsteady, ?_, ?_, h.passed, ?_⟩
    · simp [step, Driver.dqbufGet, hdq]
    · simp [Queue.dequeue, hheld]
    · simpa only [Driver.Films, Queue.dequeue, hkeeps.buf, hkeeps.curr] using h.films
    · have hlent := h.lent
      rw [frameContainers_unwaited hunwaited, hphase, hvalid] at hlent
      rw [frameContainers_unwaited (by exact hunwaited), hkeeps.buf]
      exact hlent
    · have horder := h.order
      rw [frameContainers_unwaited hunwaited, hphase, hvalid] at horder
      rw [frameContainers_unwaited (by exact hunwaited), hkeeps.buf]
      exact horder

theorem dqbufStart_inv (h : Inv s q) (hphase : s.phase = .found) :
    ∃ s' q', s.goOn = some s' ∧ Inv s' q' := by
  have hholds : q.held = [] ∧ s.driver.Unwaited := by simpa only [Holds, hphase] using h.holds
  have hsteady : s.driver.Steady := by simpa only [Starts, hphase] using h.starts
  obtain ⟨d, hd, hrep, hfilms, hkeeps, hsteady'⟩ := Driver.changeVideoState_eq h.rep h.films hsteady
    (estimateNextVideoState s.driver.state false .videoDqbuf)
  refine ⟨{ s with driver := d, phase := .started }, q, ?_, h.of_keeps hrep hfilms hkeeps
    ⟨hholds.1, hholds.2.of_keeps hkeeps⟩ hsteady' (by rw [hphase]; rfl)⟩
  simp only [goOn, hphase, Driver.dqbufStart, hd, Option.map_some]

theorem wait_inv (h : Inv s q) (hphase : s.phase = .started) :
    ∃ s' q', s.goOn = some s' ∧ Inv s' q' := by
  obtain ⟨hheld, hflg, hdone⟩ : q.held = [] ∧ s.driver.Unwaited := by
    simpa only [Holds, hphase] using h.holds
  have hsteady : s.driver.Steady := by simpa only [Starts, hphase] using h.starts
  have hlent := h.lent
  have horder := h.order
  rw [frameContainers, hphase] at hlent horder
  refine ⟨{ s with driver := s.driver.dqbufWait, phase := .waiting }, q, by rw [goOn, hphase], h.rep,
    .inl ⟨hheld, ?_, hdone⟩, hsteady, h.films, hlent, h.passed, horder⟩
  simp [Driver.dqbufWait, hflg]

theorem wake_inv (h : Inv s q) (hphase : s.phase = .waiting) (hflg : 0 ≤ s.driver.dqbufWaitFlg) :
    ∃ s' q', s.goOn = some s' ∧ Inv s' q' := by
  have hholds : (q.held = [] ∧ s.driver.dqbufWaitFlg = -1 ∧ s.driver.doneContainer = none) ∨
      ∃ c, q.held = [c] ∧ s.driver.dqbufWaitFlg = 0 ∧ s.driver.doneContainer = some c := by
    simpa only [Holds, hphase] using h.holds
  have hsteady : s.driver.Steady := by simpa only [Starts, hphase] using h.starts
  have hlent := h.lent
  have horder := h.order
  obtain ⟨-, hneg, -⟩ | ⟨c, hheld, hzero, hdone⟩ := hholds
  · omega
  · rw [frameContainers, hphase, hdone] at hlent horder
    refine ⟨{ s with driver := { s.driver with doneContainer := none }, phase := .dequeued c }, q, ?_,
      h.rep, ⟨hheld, hzero, rfl⟩, hsteady, h.films, hlent, h.passed, horder⟩
    simp only [goOn, hphase, Driver.dqbufWake, hdone, Option.map_some]

theorem return_inv (h : Inv s q) {c : Nat} (hphase : s.phase = .dequeued c) :
    ∃ s' q', s.goOn = some s' ∧ Inv s' q' := by
  obtain ⟨hheld, hunwaited⟩ : q.held = [c] ∧ s.driver.Unwaited := by
    simpa only [Holds, hphase] using h.holds
  have hsteady : s.driver.Steady := by simpa only [Starts, hphase] using h.starts
  have hc := h.rep.lt_of_held (show c ∈ q.held by simp [hheld])
  refine ⟨{ s with phase := .returned c (s.driver.bufinf.buf c) }, q, ?_, h.of_keeps h.rep h.films
    ⟨rfl, rfl, rfl, rfl⟩ ⟨hheld, hunwaited, rfl⟩ hsteady (by rw [hphase]; rfl)⟩
  simp only [goOn, hphase, Driver.dqbufCopy, Framebuff.deref_some hc, Option.map_some]

theorem free_inv (h : Inv s q) {c : Nat} {buf : V4l2Buffer} (hphase : s.phase = .returned c buf) :
    ∃ s' q', s.goOn = some s' ∧ Inv s' q' := by
  obtain ⟨hheld, hunwaited, hbuf⟩ :
      q.held = [c] ∧ s.driver.Unwaited ∧ s.driver.bufinf.buf c = buf := by
    simpa only [Holds, hphase] using h.holds
  have hsteady : s.driver.Steady := by simpa only [Starts, hphase] using h.starts
  have hc : c ∈ q.held := by simp [hheld]
  obtain ⟨f, hfree, hrep, hkeeps⟩ := freeContainer_eq h.rep hc
  have hlent := h.lent
  rw [frameContainers_unwaited hunwaited, hphase, Phase.taken, List.singleton_append,
    List.cons_append, List.map_cons, hbuf] at hlent
  have horder := h.order
  rw [frameContainers_unwaited hunwaited, hphase, Phase.taken, List.singleton_append,
    List.map_cons, hbuf] at horder
  refine ⟨{ s with
    driver := { s.driver with bufinf := f }
    phase := .idle
    lent := s.lent.erase buf.userptr
    frames := s.frames ++ [buf] }, q.release c hc, ?_, hrep, ⟨?_, hunwaited⟩, hsteady, ?_, ?_, ?_, ?_⟩
  · simp only [goOn, hphase, Driver.dqbufFree, hfree, Option.map_some]
  · simp [Queue.release, hheld]
  · simpa only [Driver.Films, Queue.release, hkeeps.buf, hkeeps.curr] using h.films
  · rw [frameContainers_untaken (by exact hunwaited) rfl, hkeeps.buf]
    have herase := hlent.erase buf.userptr
    rwa [List.erase_cons_head] at herase
  · have hcons := List.perm_cons_erase (hlent.mem_iff.mpr List.mem_cons_self)
    refine h.passed.trans ?_
    simp only [List.map_append, List.map_cons, List.map_nil, List.append_assoc, List.cons_append,
      List.nil_append]
    exact (hcons.append_right _).append_left _
  · rw [frameContainers_untaken (by exact hunwaited) rfl, hkeeps.buf]
    simpa only [Queue.release, List.map_append, List.map_cons, List.map_nil, List.append_assoc, List.cons_append,
      List.nil_append] using horder

/-- What the program's own steps do, wherever it is. -/
theorem goOn_inv (h : Inv s q) (hwait : s.phase = .waiting → 0 ≤ s.driver.dqbufWaitFlg) :
    ∃ s' q', s.goOn = some s' ∧ Inv s' q' := by
  match hphase : s.phase with
  | .idle => exact ⟨s, q, by rw [goOn, hphase], h⟩
  | .got c buf => exact copy_inv h hphase
  | .copied c buf => exact queue_inv h hphase
  | .queued => exact check_inv h hphase
  | .checked => exact begin_inv h hphase
  | .changing (.start c) => exact start_inv h hphase
  | .changing (.finish next) => exact finish_inv h hphase
  | .found => exact dqbufStart_inv h hphase
  | .started => exact wait_inv h hphase
  | .waiting => exact wake_inv h hphase (hwait hphase)
  | .dequeued c => exact return_inv h hphase
  | .returned c buf => exact free_inv h hphase

/-! ### The interrupt -/

theorem userptr_filled (buf : Nat → V4l2Buffer) (x : Nat) (errCode : Bool) (datasize c : Nat) :
    (Driver.filled buf x errCode datasize c).userptr = (buf c).userptr := by
  rw [Driver.filled]
  by_cases hc : c = x
  · rw [hc, Function.update_self]
  · rw [Function.update_of_ne hc]

/-- A frame that its program has taken is no longer queued. -/
theorem Inv.notMem_taken (h : Inv s q) {x : Nat} (hx : x ∈ q.queued) :
    x ∉ s.phase.taken ++ s.driver.doneContainer.toList := by
  intro hmem
  refine q.not_queued_of_held ?_ hx
  have hholds := h.holds
  rw [Holds] at hholds
  split at hholds
  all_goals simp_all [Driver.Unwaited, Phase.taken]

theorem Inv.waited (h : Inv s q) (hflg : s.driver.dqbufWaitFlg < 0) :
    s.phase = .waiting ∧ q.held = [] ∧ s.driver.dqbufWaitFlg = -1 ∧ s.driver.doneContainer = none := by
  have hholds := h.holds
  rw [Holds] at hholds
  split at hholds
  case h_3 hphase =>
    obtain hwaits | ⟨c, -, hzero, -⟩ := hholds
    · exact ⟨hphase, hwaits⟩
    · omega
  all_goals
    obtain ⟨-, hunwaited⟩ := hholds
    simp only [Driver.Unwaited] at hunwaited
    omega

/-- A capture leaves the program where it is, unless it waits for it. -/
theorem Inv.holds_completed (h : Inv s q) {d : Driver} {q' : Queue} {x : Nat} {popped : List Nat}
    (hx : x ∈ q.queued) (hcompletes : Completes q x popped q') {errCode : Bool} {datasize : Nat}
    (hbuf : d.bufinf.buf = Driver.filled s.driver.bufinf.buf x errCode datasize)
    (hpost : if s.driver.dqbufWaitFlg < 0 then
        ∃ c, popped = [c] ∧ d.doneContainer = some c ∧ d.dqbufWaitFlg = s.driver.dqbufWaitFlg + 1
      else popped = [] ∧ d.doneContainer = s.driver.doneContainer ∧
        d.dqbufWaitFlg = s.driver.dqbufWaitFlg) :
    Holds { s with driver := d } q' ∧
      d.doneContainer.toList = s.driver.doneContainer.toList ++ popped := by
  have hheld := hcompletes.held
  split_ifs at hpost with hflg
  · obtain ⟨c, rfl, hdone, hpost⟩ := hpost
    obtain ⟨hphase, hnone, hwaits, hdone'⟩ := h.waited hflg
    refine ⟨?_, by rw [hdone, hdone']; rfl⟩
    simp only [Holds, hphase]
    exact .inr ⟨c, by rw [hheld, hnone]; rfl, by omega, hdone⟩
  · obtain ⟨rfl, hdone, hpost⟩ := hpost
    rw [List.nil_append] at hheld
    refine ⟨?_, by rw [hdone, List.append_nil]⟩
    -- the camera does not write to a container that the program holds
    have hcopied : ∀ c buf, q.held = [c] → s.driver.bufinf.buf c = buf → d.bufinf.buf c = buf := by
      intro c buf hc hcbuf
      have hcx : c ≠ x := by
        rintro rfl
        exact q.not_queued_of_held (by simp [hc]) hx
      rw [hbuf, Driver.filled, Function.update_of_ne hcx, hcbuf]
    have hholds := h.holds
    cases hphase : s.phase with
    | copied c buf | returned c buf =>
      simp only [Holds, hphase, Driver.Unwaited, hheld, hdone, hpost] at hholds ⊢
      exact ⟨hholds.1, hholds.2.1, hcopied c buf hholds.1 hholds.2.2⟩
    | idle | got _ _ | queued | checked | changing _ | found | started | waiting | dequeued _ =>
      simpa only [Holds, hphase, Driver.Unwaited, hheld, hdone, hpost] using hholds

/-- The state is not touched while the camera goes on. -/
theorem Inv.starts_completed (h : Inv s q) (hcamera : s.driver.camera ≠ none) {d : Driver} (q' : Queue)
    (hstate : d.camera ≠ none → d.state = s.driver.state) : Starts { s with driver := d } q' := by
  have hstarts := h.starts
  match hphase : s.phase with
  | .changing (.start c) =>
    simp only [Starts, hphase] at hstarts
    exact absurd hstarts.1 hcamera
  | .changing (.finish next) =>
    simp only [Starts, hphase] at hstarts ⊢
    exact fun _ => hstarts hcamera
  | .idle | .got _ _ | .copied _ _ | .queued | .checked | .found | .started | .waiting
  | .dequeued _ | .returned _ _ =>
    simp only [Starts, hphase] at hstarts ⊢
    exact fun hcamera' => (hstate hcamera').trans (hstarts hcamera)

theorem complete_inv (h : Inv s q) (hcamera : s.driver.camera ≠ none) (errCode : Bool)
    (datasize : Nat) :
    ∃ s' q', s.step validate (.complete errCode datasize) = some s' ∧ Inv s' q' := by
  obtain ⟨d, x, vs, popped, q', hd, hvacant, hcompletes, hrep, hfilms, hbuf, hstate, hpost⟩ :=
    Driver.videoCompleteCapture_eq h.rep h.films hcamera errCode datasize
  have hx : x ∈ q.queued := List.mem_append_right _ (hvacant ▸ List.mem_cons_self)
  obtain ⟨hholds, hdone⟩ := h.holds_completed hx hcompletes hbuf hpost
  refine ⟨{ s with driver := d, captures := s.captures ++ [(errCode, datasize)] }, q', ?_, hrep,
    hholds, h.starts_completed hcamera q' hstate, hfilms, ?_, h.passed, ?_⟩
  · simp only [step, hd, Option.map_some]
  · refine h.lent.trans ?_
    simp only [frameContainers, hdone, hbuf, userptr_filled]
    refine List.Perm.map _ ?_
    simp only [List.append_assoc]
    exact ((hcompletes.queued.symm).append_left _).append_left _
  · -- the frames that are left are the newest ones, and the last of them is this capture
    have hfresh : x ∉ s.frameContainers q := by
      rw [frameContainers, List.mem_append, not_or]
      refine ⟨h.notMem_taken hx, fun hvalid => ?_⟩
      have hnodup := q.nodup_queued
      rw [Queue.queued, List.nodup_append] at hnodup
      exact hnodup.2.2 x hvalid x (by simp [hvacant]) rfl
    have hinfo : ((s.frameContainers q ++ [x]).map fun c => info (d.bufinf.buf c)) =
        ((s.frameContainers q).map fun c => info (s.driver.bufinf.buf c)) ++
          [(errCode, datasize)] := by
      rw [List.map_append, hbuf, Driver.filled, map_update_of_notMem _ _ _ hfresh]
      simp [info]
    have hsub : (s.phase.taken ++ (s.driver.doneContainer.toList ++ popped) ++ q'.valid).Sublist
        (s.frameContainers q ++ [x]) := by
      rw [frameContainers, List.append_assoc, List.append_assoc, List.append_assoc, List.append_assoc]
      exact (hcompletes.frames.sublist.append_left _).append_left _
    rw [frameContainers, hdone]
    refine ((hsub.map _).append_left _).trans ?_
    rw [hinfo, ← List.append_assoc]
    exact h.order.append_right _

/-! ## Whole runs -/

theorem step_inv (s : System) (e : Event) (h : ∃ q, Inv s q) (he : s.Allowed e) :
    ∃ s', s.step validate e = some s' ∧ ∃ q, Inv s' q := by
  obtain ⟨q, h⟩ := h
  have hstep : ∃ s' q', s.step validate e = some s' ∧ Inv s' q' := by
    cases e with
    | reqbufs mode count malloc =>
      obtain ⟨hphase, hcount, rfl⟩ := he
      exact reqbufs_inv h hphase mode hcount
    | sFmt fmt => exact sFmt_inv h he fmt
    | streamon => exact streamon_inv h he
    | streamoff => exact streamoff_inv h he
    | qbuf buf => exact qbuf_inv h he buf
    | dqbuf => exact dqbuf_inv h he
    | goOn => exact goOn_inv h he
    | complete errCode datasize => exact complete_inv h he errCode datasize
  obtain ⟨s', q', hs', hinv⟩ := hstep
  exact ⟨s', hs', q', hinv⟩

end System

end Sprefence.VideoDriver

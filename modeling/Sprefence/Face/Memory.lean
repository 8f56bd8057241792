import Sprefence.Face.Capture
import Sprefence.Lib.PartialRuns

/-! The two blocks of `tf_face_image_provider.c` from call to call of `spresense_getfaceimage`.
The allocator may return any address that is not in use. To free an address that is not in use is
undefined. -/

namespace Sprefence.FaceDetect

open PartialRuns

/-! ## The code -/

/-- How `camera_prepare` is answered; `none` is the null pointer of a failed `memalign`. -/
structure Prepare where
  /-- `VIDIOC_REQBUFS`. -/
  reqbufs : Bool
  /-- `VIDIOC_S_FMT`. -/
  sFmt : Bool
  frameMem : Option Nat
  clipMem : Option Nat
  /-- `VIDIOC_STREAMON`. -/
  streamon : Bool
  deriving DecidableEq, Repr

/-- How the driver, the allocator and the image processor answer during one call. -/
structure Request where
  videoInitialize : Bool
  openVideo : Bool
  prepare : Prepare
  qbuf : Bool
  dqbuf : Option CameraFrame
  clipAndResize : Bool
  deriving DecidableEq, Repr

/-- The static data of the file, the addresses in use and the addresses that `VIDIOC_QBUF` took,
the latest first. -/
structure Memory where
  live : List Nat
  videoFd : Bool
  frameMem : Option Nat
  clipMem : Option Nat
  queued : List (Option Nat)
  deriving DecidableEq, Repr

/-- `free`. -/
def free (live : List Nat) : Option Nat → Option (List Nat)
  | none => some live
  | some address => if address ∈ live then some (live.erase address) else none

namespace Memory

/-- `free(frame_mem)`. The pointer keeps its value. -/
def freeFrameMem (m : Memory) : Option Memory :=
  (free m.live m.frameMem).map fun live => { m with live := live }

/-- `camera_prepare`, with whether it returns 0. -/
def cameraPrepare (m : Memory) (p : Prepare) : Option (Bool × Memory) :=
  if !p.reqbufs then some (false, m)
  else if !p.sFmt then some (false, m)
  else
    let m := { m with frameMem := p.frameMem, live := p.frameMem.toList ++ m.live }
    if m.frameMem.isNone then some (false, m)
    else
      let m := { m with clipMem := p.clipMem, live := p.clipMem.toList ++ m.live }
      if m.clipMem.isNone then m.freeFrameMem.map fun m => (false, m)
      -- clip_mem is not freed here
      else if !p.streamon then m.freeFrameMem.map fun m => (false, m)
      else some (true, m)

/-- `init_video`, with whether it returns 0. -/
def initVideo (m : Memory) (r : Request) : Option (Bool × Memory) :=
  if m.videoFd then some (true, m)
  else if !r.videoInitialize then some (false, m)
  else if !r.openVideo then some (false, m)
  else
    (m.cameraPrepare r.prepare).bind fun (ok, m) =>
      if ok then some (true, { m with videoFd := true })
      else m.freeFrameMem.map fun m => (false, m)

/-- `set_camimage`. -/
def setCamimage (m : Memory) (r : Request) : Memory :=
  if r.qbuf then { m with queued := m.frameMem :: m.queued } else m

/-- `spresense_getfaceimage`. What follows `set_camimage` neither allocates nor frees. -/
def spresenseGetfaceimage (m : Memory) (r : Request) : Option Memory :=
  (m.initVideo r).map fun (ok, m) => if ok then m.setCamimage r else m

/-- Before the first call; `others` are the blocks of the other parts of the program. -/
def init (others : List Nat) : Memory := ⟨others, false, none, none, []⟩

end Memory

/-! ## The attempts -/

namespace Request

/-- `camera_prepare` returns 0. -/
def prepares (r : Request) : Bool :=
  r.prepare.reqbufs && r.prepare.sFmt && r.prepare.frameMem.isSome && r.prepare.clipMem.isSome &&
    r.prepare.streamon

/-- The call as the captures see it. -/
def driver (r : Request) : Driver :=
  ⟨r.videoInitialize, r.openVideo, r.prepares, r.qbuf, r.dqbuf, r.clipAndResize⟩

/-- `init_video` gets to the first `memalign` and this succeeds. -/
def getsBlock (r : Request) : Bool :=
  r.videoInitialize && r.openVideo && r.prepare.reqbufs && r.prepare.sFmt &&
    r.prepare.frameMem.isSome

/-- The call opens the camera if it is not open yet. -/
def opens (r : Request) : Bool := FaceDetect.initVideo false r.driver

theorem isSome_of_opens {r : Request} (h : r.opens) :
    r.prepare.frameMem.isSome ∧ r.prepare.clipMem.isSome := by
  have hprepares : r.prepares := by
    by_contra hnot
    simp [opens, driver, FaceDetect.initVideo, hnot] at h
  simp only [prepares, Bool.and_eq_true] at hprepares
  exact ⟨hprepares.1.1.2, hprepares.1.2⟩

/-- The allocator returns addresses that are not in use. -/
def Fresh (m : Memory) (r : Request) : Prop :=
  (r.prepare.frameMem.toList ++ r.prepare.clipMem.toList ++ m.live).Nodup

end Request

namespace Memory

/-- The camera is not open and the pointer is null. -/
structure Closed (others : List Nat) (m : Memory) : Prop where
  live : m.live = others
  videoFd : m.videoFd = false
  frameMem : m.frameMem = none
  queued : m.queued = []

/-- The camera is open, and has only got the frame. -/
structure Open (others : List Nat) (frame clip : Nat) (m : Memory) : Prop where
  live : m.live = clip :: frame :: others
  videoFd : m.videoFd = true
  frameMem : m.frameMem = some frame
  queued : ∀ address ∈ m.queued, address = some frame

variable {others : List Nat} {m : Memory} {r : Request} {frame clip : Nat}

theorem Open.setCamimage (h : Open others frame clip m) (r : Request) :
    Open others frame clip (m.setCamimage r) := by
  unfold Memory.setCamimage
  split_ifs
  · exact ⟨h.live, h.videoFd, h.frameMem, List.forall_mem_cons.mpr ⟨h.frameMem, h.queued⟩⟩
  · exact h

theorem Open.run (h : Open others frame clip m) (rs : List Request) :
    ∃ m', PartialRuns.run spresenseGetfaceimage m rs = some m' ∧ Open others frame clip m' := by
  induction rs generalizing m with
  | nil => exact ⟨m, rfl, h⟩
  | cons r rs ih =>
    have hstep : m.spresenseGetfaceimage r = some (m.setCamimage r) := by
      rw [spresenseGetfaceimage, initVideo, if_pos h.videoFd]
      rfl
    rw [run_cons, hstep]
    exact ih (h.setCamimage r)

/-- The second `free` of the same block is undefined, since the first one ended its use. -/
theorem freeFrameMem_twice {α : Type} (f : Memory → α) (h : m.live.Nodup)
    (hm : m.frameMem = some frame) :
    (m.freeFrameMem.bind fun m => m.freeFrameMem.map f) = none := by
  rw [freeFrameMem, hm, free]
  split_ifs with hlive
  · rw [Option.map_some, Option.bind_some, freeFrameMem]
    show ((free (m.live.erase frame) (some frame)).map _).map f = none
    rw [free, if_neg (List.Nodup.not_mem_erase h), Option.map_none, Option.map_none]
  · rfl

theorem Closed.initVideo_eq (h : Closed others m) (hfresh : r.Fresh m) :
    m.initVideo r =
      if r.getsBlock then
        if r.opens then
          some (true, { m with
            videoFd := true, frameMem := r.prepare.frameMem, clipMem := r.prepare.clipMem,
            live := r.prepare.clipMem.toList ++ (r.prepare.frameMem.toList ++ others) })
        else none
      else some (false, m) := by
  obtain ⟨live, fd, frameMem, clipMem, queued⟩ := m
  obtain ⟨rfl, rfl, rfl, rfl⟩ := h
  obtain ⟨videoInitialize, openVideo, ⟨reqbufs, sFmt, frameMem, clipMem, streamon⟩, _, _, _⟩ := r
  -- the failures in the order of the code; only the last two come after the first block
  cases videoInitialize with
  | false => rfl
  | true =>
  cases openVideo with
  | false => rfl
  | true =>
  cases reqbufs with
  | false => rfl
  | true =>
  cases sFmt with
  | false => rfl
  | true =>
  cases frameMem with
  | none => rfl
  | some frame =>
  cases clipMem with
  | none => exact Option.bind_map.trans (freeFrameMem_twice _ hfresh rfl)
  | some clip =>
  cases streamon with
  | false =>
    have hswap := (List.Perm.swap clip frame live).nodup hfresh
    exact Option.bind_map.trans (freeFrameMem_twice _ hswap rfl)
  | true => rfl

theorem Closed.step_opens (h : Closed others m) (hfresh : r.Fresh m) (hblock : r.getsBlock)
    (hopens : r.opens) :
    ∃ frame clip m', m.spresenseGetfaceimage r = some m' ∧ Open others frame clip m' := by
  obtain ⟨frame, hframe⟩ := Option.isSome_iff_exists.mp (Request.isSome_of_opens hopens).1
  obtain ⟨clip, hclip⟩ := Option.isSome_iff_exists.mp (Request.isSome_of_opens hopens).2
  have hopen : Open others frame clip
      { m with videoFd := true, frameMem := some frame, clipMem := some clip,
               live := clip :: frame :: others } :=
    ⟨rfl, rfl, rfl, by rw [h.queued]; exact List.forall_mem_nil _⟩
  refine ⟨frame, clip, _, ?_, hopen.setCamimage r⟩
  rw [spresenseGetfaceimage, h.initVideo_eq hfresh, if_pos hblock, if_pos hopens,
    hframe, hclip]
  rfl

theorem Closed.run (h : Closed others m) {rs : List Request}
    (hrs : Legal spresenseGetfaceimage (fun m r => r.Fresh m) m rs) :
    match rs.find? Request.getsBlock with
    | none => PartialRuns.run spresenseGetfaceimage m rs = some m
    | some r =>
      if r.opens then
        ∃ frame clip m',
          PartialRuns.run spresenseGetfaceimage m rs = some m' ∧ Open others frame clip m'
      else PartialRuns.run spresenseGetfaceimage m rs = none := by
  induction rs with
  | nil => rfl
  | cons r rs ih =>
    cases hblock : r.getsBlock with
    | false =>
      have hstep : m.spresenseGetfaceimage r = some m := by
        rw [spresenseGetfaceimage, h.initVideo_eq hrs.1, hblock]
        rfl
      rw [List.find?_cons_of_neg (by simp [hblock]), run_cons, hstep]
      exact ih ((legal_cons hstep).mp hrs).2
    | true =>
      rw [List.find?_cons_of_pos hblock, run_cons]
      dsimp only
      split_ifs with hopens
      · obtain ⟨frame, clip, m', hstep, hopen⟩ := h.step_opens hrs.1 hblock hopens
        rw [hstep]
        exact ⟨frame, clip, hopen.run rs⟩
      · have hstep : m.spresenseGetfaceimage r = none := by
          rw [spresenseGetfaceimage, h.initVideo_eq hrs.1, if_pos hblock,
            if_neg hopens, Option.map_none]
        rw [hstep]
        rfl

/-- The first call that gets a block decides. If its `camera_prepare` fails later on, the block is
freed by `camera_prepare` and once more by `init_video`. If it succeeds, no later call allocates or
frees, the blocks of the others are untouched, and the driver only ever gets the frame. The calls
before it, and all calls if there is none, leave the memory as it was. -/
theorem first_block_decides (others : List Nat) (rs : List Request)
    (hrs : Legal spresenseGetfaceimage (fun m r => r.Fresh m) (init others) rs) :
    match rs.find? Request.getsBlock with
    | none => PartialRuns.run spresenseGetfaceimage (init others) rs = some (init others)
    | some r =>
      if r.opens then
        ∃ frame clip m', PartialRuns.run spresenseGetfaceimage (init others) rs = some m' ∧
          Open others frame clip m'
      else PartialRuns.run spresenseGetfaceimage (init others) rs = none :=
  Closed.run ⟨rfl, rfl, rfl, rfl⟩ hrs

/-- A call whose format is refused, and one that is served. -/
def refused : Request := ⟨true, true, ⟨true, false, none, none, false⟩, false, none, false⟩
def served : Request := ⟨true, true, ⟨true, true, some 1, some 2, true⟩, true, some [], true⟩
/-- A call whose stream does not start. -/
def notStarted : Request := ⟨true, true, ⟨true, true, some 1, some 2, false⟩, false, none, false⟩

theorem first_block_decides_not_started :
    (∃ frame clip m', PartialRuns.run spresenseGetfaceimage (init [7]) [refused, served] = some m' ∧
      Open [7] frame clip m') ∧
    PartialRuns.run spresenseGetfaceimage (init [7]) [refused, notStarted] = none := by
  have hlegal : ∀ r : Request, r.Fresh (init [7]) →
      Legal spresenseGetfaceimage (fun m r => r.Fresh m) (init [7]) [refused, r] :=
    fun r hr => (legal_cons rfl).mpr ⟨List.nodup_singleton 7, hr, fun _ _ => trivial⟩
  have hfresh : served.Fresh (init [7]) ∧ notStarted.Fresh (init [7]) := by
    unfold Request.Fresh
    decide
  exact ⟨first_block_decides [7] [refused, served] (hlegal served hfresh.1),
    first_block_decides [7] [refused, notStarted] (hlegal notStarted hfresh.2)⟩

end Memory

end Sprefence.FaceDetect

import Mathlib.Tactic.Common

/-! The camera of `web_source`: the static `video_fd`, the video driver behind
it, and the three functions that prepare the device and take a picture. The
driver's answers to one command are data; a call on a descriptor that is not
open fails whatever the driver would answer. -/

namespace Sprefence.WebSource

/-- A dequeued buffer: `v4l2_buf.m.userptr` and `v4l2_buf.bytesused`. -/
structure Frame where
  mem : List UInt8
  bytesused : Nat

/-- What the driver calls of one command return on an open device. -/
structure Driver where
  /-- `video_initialize` returns 0. -/
  initOk : Bool
  /-- The value of `open("/dev/video", 0)`. -/
  fd : Int
  reqbufs : Bool
  sFmt0 : Bool
  sFmt1 : Bool
  streamon : Bool
  qbuf : Bool
  /-- The captured frame, if `VIDIOC_DQBUF` succeeds. -/
  dqbuf : Option Frame

/-- No driver call on an open, initialised device fails. -/
def Driver.Succeeds (d : Driver) : Prop :=
  d.initOk = true ∧ 0 ≤ d.fd ∧ d.reqbufs = true ∧ d.sFmt0 = true ∧ d.sFmt1 = true ∧
    d.streamon = true ∧ d.qbuf = true ∧ d.dqbuf.isSome = true

structure Video where
  videoFd : Int
  /-- The descriptor under which `/dev/video` is open. -/
  opened : Option Int
  isInitialized : Bool
  /-- Calls of `ioctl` on a descriptor that was not open. -/
  closedIoctls : Nat
  deriving DecidableEq, Repr

def Video.init : Video := ⟨-1, none, false, 0⟩

/-- `/dev/video` is open and initialised. -/
def Video.Ready (v : Video) : Prop := v.opened.isSome = true ∧ v.isInitialized = true

instance (v : Video) : Decidable v.Ready := inferInstanceAs (Decidable (_ ∧ _))

/-- `ioctl(video_fd, ..)`, where `ok` is the driver's answer. -/
def Video.ioctl (v : Video) (ok : Bool) : Video × Int :=
  if v.opened = some v.videoFd then (v, if ok then 0 else -1)
  else ({ v with closedIoctls := v.closedIoctls + 1 }, -1)

/-- `close(video_fd)`. -/
def Video.close (v : Video) : Video :=
  if v.opened = some v.videoFd then { v with opened := none } else v

/-- `video_uninitialize()`. The driver's own test is the wrong way round: it
returns at once when the driver is initialised. -/
def Video.uninit (v : Video) : Video :=
  if v.isInitialized then v else { v with isInitialized := false }

/-- An `ioctl` of `camera_prepare`, which closes the device when it fails. -/
def Video.ioctlOrClose (v : Video) (ok : Bool) : Except (Video × Int) Video :=
  let (v, ret) := v.ioctl ok
  if ret < 0 then .error (v.close.uninit, ret) else .ok v

def cameraPrepare (d : Driver) (v : Video) : Video × Int :=
  if v.videoFd ≥ 0 then (v, 0)
  else if d.initOk = false then (v, -1)
  else
    let v : Video := { v with
      isInitialized := true
      videoFd := d.fd
      opened := if d.fd < 0 then v.opened else some d.fd }
    if v.videoFd < 0 then (v.uninit, -1)
    else
      let prepared : Except (Video × Int) Video := do
        let v ← v.ioctlOrClose d.reqbufs
        let v ← v.ioctlOrClose d.sFmt0
        let v ← v.ioctlOrClose d.sFmt1
        v.ioctlOrClose d.streamon
      match prepared with
      | .error failed => failed
      | .ok v => (v, 0)

/-- `memalign` tells whether the frame buffer could be allocated. -/
def setCamimage (memalign : Bool) (d : Driver) (v : Video) : Video × Int :=
  if memalign = false then (v.close.uninit, -1)
  else
    let (v, ret) := v.ioctl d.qbuf
    if ret ≠ 0 then (v.close.uninit, -1) else (v, 0)

/-- `none` is the null pointer. -/
def getCamimage (d : Driver) (v : Video) : Video × Option Frame :=
  let (v, ret) := v.ioctl d.dqbuf.isSome
  if ret ≠ 0 then (v, none) else (v, d.dqbuf)

/-! ## On an open device -/

theorem Video.ioctl_opened (v : Video) (ok : Bool) (h : v.opened = some v.videoFd) :
    v.ioctl ok = (v, if ok then 0 else -1) := by
  simp [ioctl, h]

theorem Video.ioctl_closed (v : Video) (ok : Bool) (h : v.opened = none) :
    v.ioctl ok = ({ v with closedIoctls := v.closedIoctls + 1 }, -1) := by
  simp [ioctl, h]

@[simp] theorem Video.uninit_eq (v : Video) : v.uninit = v := by
  unfold uninit
  cases h : v.isInitialized with
  | true => rfl
  | false => simp [← h]

theorem Video.close_opened (v : Video) (h : v.opened = some v.videoFd) :
    v.close = { v with opened := none } := by
  simp [close, h]

/-- The state in which a successful `camera_prepare` leaves a closed camera. -/
def Video.prepared (d : Driver) (v : Video) : Video :=
  { v with isInitialized := true, videoFd := d.fd, opened := some d.fd }

theorem cameraPrepare_succeeds (d : Driver) (hd : d.Succeeds) (v : Video) (hv : v.videoFd < 0) :
    cameraPrepare d v = (v.prepared d, 0) := by
  obtain ⟨hi, hfd, h1, h2, h3, h4, _, _⟩ := hd
  have hn : ¬ v.videoFd ≥ 0 := by omega
  have hn' : ¬ d.fd < 0 := by omega
  have hok : (v.prepared d).ioctlOrClose true = .ok (v.prepared d) := by
    simp [Video.ioctlOrClose, Video.ioctl_opened (v.prepared d) true rfl]
  unfold Video.prepared at hok ⊢
  simp only [cameraPrepare, hn, hi, hn', h1, h2, h3, h4, if_false, Bool.true_eq_false, hok, bind,
    Except.bind]

/-- A `camera_prepare` that does not fail opens the device under the new
`video_fd`. -/
theorem cameraPrepare_ok (d : Driver) (v : Video) (hv : v.videoFd < 0)
    (h : ¬ (cameraPrepare d v).2 < 0) : 0 ≤ d.fd ∧ (cameraPrepare d v).1 = v.prepared d := by
  have hn : ¬ v.videoFd ≥ 0 := by omega
  have hioctl : ∀ ok, (v.prepared d).ioctlOrClose ok =
      if ok then .ok (v.prepared d) else .error ((v.prepared d).close.uninit, -1) := by
    intro ok
    cases ok <;> simp [Video.ioctlOrClose, Video.ioctl_opened (v.prepared d) _ rfl]
  unfold Video.prepared at hioctl ⊢
  cases hi : d.initOk with
  | false => simp [cameraPrepare, hn, hi] at h
  | true =>
    by_cases hfd : d.fd < 0
    · simp [cameraPrepare, hn, hi, hfd] at h
    · refine ⟨by omega, ?_⟩
      simp only [cameraPrepare, hn, hi, hfd, if_false, Bool.true_eq_false, hioctl, bind,
        Except.bind] at h ⊢
      cases h1 : d.reqbufs <;> cases h2 : d.sFmt0 <;> cases h3 : d.sFmt1 <;>
        cases h4 : d.streamon <;> simp_all

theorem cameraPrepare_again (d : Driver) (v : Video) (hv : 0 ≤ v.videoFd) :
    cameraPrepare d v = (v, 0) := by
  simp [cameraPrepare, hv]

theorem setCamimage_succeeds (d : Driver) (hd : d.Succeeds) (v : Video)
    (hv : v.opened = some v.videoFd) : setCamimage true d v = (v, 0) := by
  obtain ⟨_, _, _, _, _, _, hq, _⟩ := hd
  simp [setCamimage, hq, v.ioctl_opened true hv]

theorem setCamimage_ok (memalign : Bool) (d : Driver) (v : Video)
    (hv : v.opened = some v.videoFd) (h : ¬ (setCamimage memalign d v).2 < 0) :
    (setCamimage memalign d v).1 = v := by
  cases memalign with
  | false => simp [setCamimage] at h
  | true =>
    cases hq : d.qbuf with
    | false => simp [setCamimage, hq, v.ioctl_opened _ hv] at h
    | true => simp [setCamimage, hq, v.ioctl_opened _ hv]

/-- Queueing a buffer on the closed descriptor fails. -/
theorem setCamimage_closed (memalign : Bool) (d : Driver) (v : Video) (hv : v.opened = none) :
    (setCamimage memalign d v).2 = -1 := by
  cases memalign with
  | false => rfl
  | true => simp [setCamimage, v.ioctl_closed d.qbuf hv]

theorem getCamimage_opened (d : Driver) (v : Video) (hv : v.opened = some v.videoFd) :
    getCamimage d v = (v, d.dqbuf) := by
  cases hdq : d.dqbuf with
  | none => simp [getCamimage, v.ioctl_opened _ hv, hdq]
  | some f => simp [getCamimage, v.ioctl_opened _ hv, hdq]

end Sprefence.WebSource

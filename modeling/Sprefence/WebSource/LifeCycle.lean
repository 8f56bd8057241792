import Sprefence.WebSource.Main

/-! The camera of `web_source` over a whole run of commands, when every call
of the driver on an open device succeeds. `camera_prepare` takes a
non-negative `video_fd` for a prepared camera, and nothing ever makes
`video_fd` negative again. The last section is about any driver. -/

namespace Sprefence.WebSource

open CBytes Runs

/-- A command that is received in one read. -/
def receiveStep (s : State) (i : Env × List UInt8) : State := step s (i.1, .data i.2)

def IsCamera (i : Env × List UInt8) : Prop := recognise i.2 = .camera

instance (i : Env × List UInt8) : Decidable (IsCamera i) := inferInstanceAs (Decidable (_ = _))

/-- Before the command `video_fd` tells whether the camera is ready; the command
calls no `ioctl` on a closed descriptor; if it is `camera`, it is answered with
the captured picture and the loop goes on. -/
def LifeCycle (s : State) (i : Env × List UInt8) : Prop :=
  s.status = .running →
    (0 ≤ s.video.videoFd ↔ s.video.Ready) ∧
    (receiveStep s i).video.closedIoctls = s.video.closedIoctls ∧
    (IsCamera i → (receiveStep s i).status = .running ∧
      ∃ f, i.1.driver.dqbuf = some f ∧
        (receiveStep s i).log = s.log ++ [(s.consumed, .picture (sendPicture f.mem f.bytesused))])

/-- A `camera` command that is received is the last command, and there is
memory for its frame and a file for its picture. -/
def CameraLast (s : State) (inputs : List (Env × List UInt8)) : Prop :=
  ∀ pre i post, inputs = pre ++ i :: post → (run receiveStep s pre).status = .running →
    IsCamera i → post = [] ∧ i.1.memalign = true ∧ i.1.fopen = true

/-! ## One command -/

/-- The camera has not been used yet. -/
def Unused (v : Video) : Prop := v.videoFd < 0 ∧ v.opened = none

theorem Unused.fd_iff_ready {v : Video} (h : Unused v) : 0 ≤ v.videoFd ↔ v.Ready := by
  obtain ⟨hfd, hopen⟩ := h
  simp only [Video.Ready, hopen, Option.isSome_none, Bool.false_eq_true, false_and, iff_false]
  omega

theorem receive_video (env : Env) (s : State) (bytes : List UInt8)
    (h : recognise bytes ≠ .camera) : (receive env s bytes).video = s.video := by
  rw [receive_eq]
  cases hr : recognise bytes with
  | camera => exact absurd hr h
  | set =>
    simp only [setCommand]
    split_ifs <;> rfl
  | on =>
    simp only [onCommand]
    split_ifs <;> rfl
  | nothing => rfl

theorem receiveStep_ended (s : State) (hs : s.status ≠ .running) (i : Env × List UInt8) :
    receiveStep s i = s := step_ended s hs _

theorem receiveStep_video (s : State) (i : Env × List UInt8) (h : ¬ IsCamera i) :
    (receiveStep s i).video = s.video := by
  by_cases hs : s.status = .running
  · rw [receiveStep, step_data s hs]
    dsimp only
    split_ifs
    · exact receive_video i.1 s i.2 h
    · exact receive_video i.1 s i.2 h
  · rw [receiveStep_ended s hs]

section FirstCamera

variable (env : Env) (hd : env.driver.Succeeds) (s : State) (hv : Unused s.video)
include hd hv

/-- The first `camera` command takes a picture and closes the device, but keeps
`video_fd`. -/
theorem cameraCommand_unused (hm : env.memalign = true) (hf : env.fopen = true) :
    ∃ f, env.driver.dqbuf = some f ∧
      (cameraCommand env s).status = s.status ∧
      (cameraCommand env s).video = { s.video.prepared env.driver with opened := none } ∧
      (cameraCommand env s).log =
        s.log ++ [(s.consumed, .picture (sendPicture f.mem f.bytesused))] := by
  have hprepare := cameraPrepare_succeeds env.driver hd s.video hv.1
  have hopened : (s.video.prepared env.driver).opened =
      some (s.video.prepared env.driver).videoFd := rfl
  have hset := setCamimage_succeeds env.driver hd _ hopened
  have hget := getCamimage_opened env.driver _ hopened
  have hclose := Video.close_opened _ hopened
  obtain ⟨-, -, -, -, -, -, -, hdq⟩ := hd
  obtain ⟨f, hframe⟩ := Option.isSome_iff_exists.mp hdq
  refine ⟨f, hframe, ?_⟩
  simp [cameraCommand, hprepare, hm, hset, hget, hframe, hf, State.emit, hclose]

theorem cameraCommand_unused_running (hs : (cameraCommand env s).status = .running) :
    env.memalign = true ∧ env.fopen = true := by
  have hprepare := cameraPrepare_succeeds env.driver hd s.video hv.1
  cases hm : env.memalign with
  | false => simp [cameraCommand, hprepare, hm, setCamimage, State.finish] at hs
  | true =>
    cases hf : env.fopen with
    | true => exact ⟨rfl, rfl⟩
    | false =>
      have hopened : (s.video.prepared env.driver).opened =
          some (s.video.prepared env.driver).videoFd := rfl
      have hset := setCamimage_succeeds env.driver hd _ hopened
      have hget := getCamimage_opened env.driver _ hopened
      obtain ⟨-, -, -, -, -, -, -, hdq⟩ := hd
      obtain ⟨f, hframe⟩ := Option.isSome_iff_exists.mp hdq
      simp [cameraCommand, hprepare, hm, hset, hget, hframe, hf, State.finish] at hs

end FirstCamera

/-- A command that is not `camera` meets and keeps an unused camera. -/
theorem lifeCycle_of_not_camera (s : State) (hv : Unused s.video) (i : Env × List UInt8)
    (hi : ¬ IsCamera i) : LifeCycle s i := by
  intro _
  exact ⟨hv.fd_iff_ready, by rw [receiveStep_video s i hi], fun h => absurd h hi⟩

theorem receiveStep_camera (s : State) (hs : s.status = .running) (i : Env × List UInt8)
    (hi : IsCamera i) :
    receiveStep s i =
      let s := cameraCommand i.1 s
      if s.status = .running then { s with consumed := s.consumed + i.2.length } else s := by
  rw [receiveStep, step_data s hs, receive_eq, show recognise i.2 = .camera from hi]

theorem lifeCycle_of_camera_iff (s : State) (hs : s.status = .running) (hv : Unused s.video)
    (i : Env × List UInt8) (hd : i.1.driver.Succeeds) (hi : IsCamera i) :
    LifeCycle s i ↔ i.1.memalign = true ∧ i.1.fopen = true := by
  have hstep := receiveStep_camera s hs i hi
  constructor
  · intro h
    obtain ⟨-, -, hcamera⟩ := h hs
    have hrunning := (hcamera hi).1
    refine cameraCommand_unused_running i.1 hd s hv ?_
    rw [hstep] at hrunning
    dsimp only at hrunning
    split_ifs at hrunning with h
    · exact h
    · exact absurd hrunning h
  · rintro ⟨hm, hf⟩ -
    obtain ⟨f, hframe, hstatus, hvideo, hlog⟩ := cameraCommand_unused i.1 hd s hv hm hf
    rw [hs] at hstatus
    rw [hstep]
    dsimp only
    rw [if_pos hstatus]
    exact ⟨hv.fd_iff_ready, by rw [hvideo]; rfl, fun _ => ⟨hstatus, f, hframe, hlog⟩⟩

/-- After a `camera` command `video_fd` is not negative and the device is
closed, so that a further command finds the invariant broken. -/
theorem not_lifeCycle_after_camera (s : State) (hs : s.status = .running) (hv : Unused s.video)
    (i : Env × List UInt8) (hd : i.1.driver.Succeeds) (hi : IsCamera i)
    (hm : i.1.memalign = true) (hf : i.1.fopen = true) (j : Env × List UInt8) :
    ¬ LifeCycle (receiveStep s i) j := by
  obtain ⟨f, -, hstatus, hvideo, -⟩ := cameraCommand_unused i.1 hd s hv hm hf
  rw [hs] at hstatus
  rw [receiveStep_camera s hs i hi]
  dsimp only
  rw [if_pos hstatus]
  intro h
  obtain ⟨hready, -, -⟩ := h hstatus
  rw [hvideo] at hready
  have hfd : 0 ≤ i.1.driver.fd := hd.2.1
  have hopen := (hready.mp hfd).1
  cases hopen

/-! ## Runs -/

theorem everyStep_lifeCycle_ended (s : State) (hs : s.status ≠ .running)
    (inputs : List (Env × List UInt8)) : EveryStep receiveStep LifeCycle s inputs :=
  everyStep_of_fixed s (receiveStep_ended s hs) (fun _ h => absurd h hs) inputs

theorem cameraLast_nil (s : State) : CameraLast s [] := by
  intro pre i post hsplit
  simp at hsplit

theorem cameraLast_cons (s : State) (i : Env × List UInt8) (inputs : List (Env × List UInt8)) :
    CameraLast s (i :: inputs) ↔
      (s.status = .running → IsCamera i →
        inputs = [] ∧ i.1.memalign = true ∧ i.1.fopen = true) ∧
      CameraLast (receiveStep s i) inputs := by
  constructor
  · intro h
    refine ⟨fun hs hi => h [] i inputs rfl hs hi, fun pre j post hsplit hs hj => ?_⟩
    exact h (i :: pre) j post (by rw [hsplit, List.cons_append]) hs hj
  · rintro ⟨hhead, htail⟩ pre j post hsplit hs hj
    cases pre with
    | nil =>
      obtain ⟨rfl, rfl⟩ := List.cons.inj hsplit
      exact hhead hs hj
    | cons k pre =>
      obtain ⟨rfl, hsplit'⟩ := List.cons.inj hsplit
      exact htail pre j post hsplit' hs hj

theorem cameraLast_ended (s : State) (hs : s.status ≠ .running)
    (inputs : List (Env × List UInt8)) : CameraLast s inputs := by
  intro pre i post _ hrunning _
  rw [run_of_fixed s (receiveStep_ended s hs) pre] at hrunning
  exact absurd hrunning hs

/-- While no `camera` command was received the camera is unused; the first one
decides. -/
theorem everyStep_lifeCycle_iff (s : State) (hv : Unused s.video)
    (inputs : List (Env × List UInt8)) (hd : ∀ i ∈ inputs, i.1.driver.Succeeds) :
    EveryStep receiveStep LifeCycle s inputs ↔ CameraLast s inputs := by
  induction inputs generalizing s with
  | nil => exact iff_of_true trivial (cameraLast_nil s)
  | cons i inputs ih =>
    by_cases hs : s.status = .running
    · have hdi := hd i List.mem_cons_self
      rw [cameraLast_cons, EveryStep]
      by_cases hi : IsCamera i
      · rw [lifeCycle_of_camera_iff s hs hv i hdi hi]
        constructor
        · rintro ⟨⟨hm, hf⟩, hrest⟩
          cases inputs with
          | nil => exact ⟨fun _ _ => ⟨rfl, hm, hf⟩, cameraLast_nil _⟩
          | cons j inputs => exact absurd hrest.1 (not_lifeCycle_after_camera s hs hv i hdi hi hm hf j)
        · rintro ⟨hhead, -⟩
          obtain ⟨rfl, hm, hf⟩ := hhead hs hi
          exact ⟨⟨hm, hf⟩, trivial⟩
      · have hvideo : Unused (receiveStep s i).video := by
          rw [receiveStep_video s i hi]
          exact hv
        have hrest := ih (receiveStep s i) hvideo (fun j hj => hd j (List.mem_cons_of_mem _ hj))
        rw [hrest]
        constructor
        · rintro ⟨-, h⟩
          exact ⟨fun _ h' => absurd h' hi, h⟩
        · rintro ⟨-, h⟩
          exact ⟨lifeCycle_of_not_camera s hv i hi, h⟩
    · exact iff_of_true (everyStep_lifeCycle_ended s hs _) (cameraLast_ended s hs _)

/-- With a driver that never fails on an open device, the camera's life cycle is
right exactly if a `camera` command that is received is the last command and
finds memory for its frame and a file for its picture. -/
theorem life_cycle_iff (ret : Int) (ret_ok : ret = 0 ∨ ret = -1) (sd : SdCard)
    (inputs : List (Env × List UInt8)) (hd : ∀ i ∈ inputs, i.1.driver.Succeeds) :
    EveryStep receiveStep LifeCycle (.init ret ret_ok sd) inputs ↔
      CameraLast (.init ret ret_ok sd) inputs :=
  everyStep_lifeCycle_iff _ ⟨show (-1 : Int) < 0 by decide, rfl⟩ inputs hd

/-- A camera that always works and has captured an empty JPEG part. -/
def Env.working : Env :=
  ⟨⟨true, 3, true, true, true, true, true, some ⟨[], yuvSize⟩⟩, true, true⟩

theorem working_succeeds : Env.working.driver.Succeeds :=
  ⟨rfl, by decide, rfl, rfl, rfl, rfl, rfl, rfl⟩

theorem life_cycle_one_picture :
    EveryStep receiveStep LifeCycle .fresh [(.working, ascii "on"), (.working, ascii "camera")] := by
  refine (life_cycle_iff 0 (.inl rfl) ⟨none, none, none⟩ _ ?_).mpr ?_
  · intro i hi
    have henv : i.1 = .working := by
      simp only [List.mem_cons, List.not_mem_nil, or_false] at hi
      rcases hi with rfl | rfl <;> rfl
    rw [henv]
    exact working_succeeds
  · refine (cameraLast_cons _ _ _).mpr ⟨fun _ h => absurd h (by decide), ?_⟩
    exact (cameraLast_cons _ _ _).mpr ⟨fun _ _ => ⟨rfl, rfl, rfl⟩, cameraLast_nil _⟩

/-- The second of two `camera` commands queues a buffer on the closed descriptor
and ends the program without a picture. -/
theorem second_camera_fails :
    let inputs : List (Env × List UInt8) :=
      [(.working, ascii "camera"), (.working, ascii "camera")]
    ¬ EveryStep receiveStep LifeCycle .fresh inputs ∧
      (run receiveStep .fresh inputs).video.closedIoctls = 1 ∧
      (run receiveStep .fresh inputs).status = .returned (-1) ∧
      (run receiveStep .fresh inputs).log =
        [(0, .picture (sendPicture [] yuvSize)), (6, .ended)] := by
  refine ⟨?_, by decide +kernel, by decide +kernel, by decide +kernel⟩
  rintro ⟨-, hsecond, -⟩
  have hcamera := (hsecond (by decide +kernel)).2.1
  revert hcamera
  decide +kernel

/-! ## Pictures -/

def Effect.isPicture : Effect → Bool
  | .picture _ => true
  | _ => false

/-- How many pictures have been sent. -/
def State.pictures (s : State) : Nat := s.log.countP fun x => x.2.isPicture

/-- The device was closed after use, under a `video_fd` that stays. -/
def Used (v : Video) : Prop := 0 ≤ v.videoFd ∧ v.opened = none

/-- A `camera` command that the program survives leaves the camera used. -/
theorem cameraCommand_used (env : Env) (s : State) (hv : Unused s.video)
    (hs : (cameraCommand env s).status = .running) : Used (cameraCommand env s).video := by
  by_cases hprepare : (cameraPrepare env.driver s.video).2 < 0
  · simp [cameraCommand, hprepare, State.finish] at hs
  · obtain ⟨hfd, hvideo⟩ := cameraPrepare_ok env.driver s.video hv.1 hprepare
    have hopened : (s.video.prepared env.driver).opened =
      some (s.video.prepared env.driver).videoFd := rfl
    by_cases hset : (setCamimage env.memalign env.driver (s.video.prepared env.driver)).2 < 0
    · simp [cameraCommand, hprepare, hvideo, hset, State.finish] at hs
    · have hsame := setCamimage_ok env.memalign env.driver _ hopened hset
      have hget := getCamimage_opened env.driver _ hopened
      cases hdq : env.driver.dqbuf with
      | none =>
        simp only [cameraCommand, hprepare, hvideo, hset, hsame, hget, hdq, if_false] at hs
        split_ifs at hs <;> cases hs
      | some f =>
        cases hf : env.fopen with
        | false =>
          simp [cameraCommand, hprepare, hvideo, hset, hsame, hget, hdq, hf, State.finish] at hs
        | true =>
          have hclose := Video.close_opened _ hopened
          simp [cameraCommand, hprepare, hvideo, hset, hsame, hget, hdq, hf, State.emit, hclose,
            Used]
          exact hfd

theorem cameraCommand_closed (env : Env) (s : State) (hv : Used s.video) :
    (cameraCommand env s).status = .returned (-1) ∧
      (cameraCommand env s).pictures = s.pictures := by
  have hprepare := cameraPrepare_again env.driver s.video hv.1
  have hset := setCamimage_closed env.memalign env.driver s.video hv.2
  simp [cameraCommand, hprepare, hset, State.finish, State.emit, State.pictures, Effect.isPicture]

theorem cameraCommand_pictures_le (env : Env) (s : State) :
    (cameraCommand env s).pictures ≤ s.pictures + 1 := by
  unfold cameraCommand
  dsimp only
  split
  · simp [State.finish, State.emit, State.pictures, Effect.isPicture]
  · split
    · simp [State.finish, State.emit, State.pictures, Effect.isPicture]
    · split
      · split
        · simp [State.crash, State.emit, State.pictures, Effect.isPicture]
        · split
          · simp [State.crash, State.emit, State.pictures, Effect.isPicture]
          · simp [State.finish, State.emit, State.pictures, Effect.isPicture]
      · split
        · simp [State.emit, State.pictures, Effect.isPicture]
        · simp [State.finish, State.emit, State.pictures, Effect.isPicture]

theorem setCommand_pictures (env : Env) (buff : List UInt8) (s : State) :
    (setCommand env buff s).pictures = s.pictures := by
  unfold setCommand
  split_ifs
  · simp [State.emit, State.pictures, Effect.isPicture]
  · simp [State.finish, State.emit, State.pictures, Effect.isPicture]

theorem onCommand_pictures (env : Env) (buff : List UInt8) (s : State) :
    (onCommand env buff s).pictures = s.pictures := by
  unfold onCommand
  split_ifs
  · simp [State.emit, State.pictures, Effect.isPicture]
  · simp [State.finish, State.emit, State.pictures, Effect.isPicture]

/-- Before the first picture the camera is unused; after it the camera is used
or the program has ended. -/
structure PictureInv (s : State) : Prop where
  camera : s.status = .running → Unused s.video ∧ s.pictures = 0 ∨ Used s.video
  pictures_le : s.pictures ≤ 1

theorem pictureInv_receive (env : Env) (s : State) (hs : s.status = .running) (h : PictureInv s)
    (bytes : List UInt8) : PictureInv (receive env s bytes) := by
  by_cases hr : recognise bytes = .camera
  · rw [receive_eq, hr]
    dsimp only
    rcases h.camera hs with ⟨hunused, hnone⟩ | hused
    · refine ⟨fun hrunning => .inr (cameraCommand_used env s hunused hrunning), ?_⟩
      have hle := cameraCommand_pictures_le env s
      omega
    · obtain ⟨hstatus, hsame⟩ := cameraCommand_closed env s hused
      refine ⟨fun hrunning => ?_, hsame ▸ h.pictures_le⟩
      rw [hstatus] at hrunning
      cases hrunning
  · have hvideo := receive_video env s bytes hr
    have hsame : (receive env s bytes).pictures = s.pictures := by
      rw [receive_eq]
      cases hk : recognise bytes with
      | camera => exact absurd hk hr
      | set => exact setCommand_pictures env _ s
      | on => exact onCommand_pictures env _ s
      | nothing => rfl
    refine ⟨fun _ => ?_, hsame ▸ h.pictures_le⟩
    rw [hvideo, hsame]
    exact h.camera hs

theorem pictureInv_step (s : State) (i : Env × Read) (h : PictureInv s) :
    PictureInv (step s i) := by
  obtain ⟨env, r⟩ := i
  by_cases hs : s.status = .running
  · cases r with
    | error => simpa [step, hs] using h
    | data bytes =>
      have hreceive := pictureInv_receive env s hs h bytes
      rw [step_data s hs]
      dsimp only
      split_ifs
      · exact ⟨hreceive.camera, hreceive.pictures_le⟩
      · exact hreceive
  · rw [step_ended s hs]
    exact h

end Sprefence.WebSource

import Sprefence.Face.FaceLoop

/-! The input of the network from call to call of `FaceLoop`. A failed capture is
printed by `Run`, which goes on with what the input tensor still holds. Floats are exact
rationals; the network is any function of its input tensor. -/

namespace Sprefence.FaceDetect

open Runs

/-! ## The code -/

/-- What lies behind the pointer of `get_camimage`. -/
abbrev CameraFrame := List UInt8

/-- `FACE_IMG_DATASIZE_SAMPLE_REQUIRED`. -/
def dataSize : Nat := 128 * 128 * 3

/-- `f_input->data.f`. -/
abbrev InputTensor := Fin dataSize → Rat

/-- How the driver and the image processor answer during one call. -/
structure Driver where
  videoInitialize : Bool
  openVideo : Bool
  cameraPrepare : Bool
  /-- `VIDIOC_QBUF`. -/
  qbuf : Bool
  /-- `VIDIOC_DQBUF`, with the frame. -/
  dqbuf : Option CameraFrame
  clipAndResize : Bool
  deriving DecidableEq, Repr

/-- One call of `FaceLoop`. -/
structure Call where
  type : Int
  driver : Driver
  deriving DecidableEq, Repr

/-- What the code gets from the libraries. -/
structure Platform where
  /-- `clip_mem` after the frame was clipped, resized and converted. What lies behind the
  128 x 120 converted pixels is never written and stays as it was allocated. -/
  imageproc : CameraFrame → Conversion → Nat → UInt8
  sqrt : Rat → Rat
  sort : (bb : List Detection) → SortedScores bb

/-- The interpreter: the output tensors for an input, and what `Invoke` leaves in the
memory of the input. -/
structure Network where
  outputs : InputTensor → RawBoxes × RawScores
  leaves : InputTensor → InputTensor

/-- The loops over `out_data`: the picture between two margins. -/
def Conversion.outData (cv : Conversion) (clipMem : Nat → UInt8) : InputTensor := fun i =>
  if (i : Int) < cv.pad then -1
  else if (i : Int) < dataSize - cv.pad then (clipMem (i - cv.pad).toNat).toNat / 128 - 1
  else -1

/-- `init_video`: whether `video_fd` is open afterwards, which is whether it returns 0. -/
def initVideo (videoFd : Bool) (d : Driver) : Bool :=
  if videoFd then true
  else if !d.videoInitialize then false
  else if !d.openVideo then false
  else if !d.cameraPrepare then false
  else true

/-- `spresense_getfaceimage`: the image, or a return value other than 0. -/
def spresenseGetfaceimage (pf : Platform) (videoFd : Bool) (c : Call) : Option InputTensor :=
  if !initVideo videoFd c.driver then none
  else if !c.driver.qbuf then none
  else do
    let mem ← c.driver.dqbuf
    let cv ← getFaceImage c.type
    if c.driver.clipAndResize then some (cv.outData (pf.imageproc mem cv)) else none

/-- The static data between the calls. -/
structure Buffers where
  videoFd : Bool
  input : InputTensor
  o0 : RawBoxes
  o1 : RawScores

/-- `Run`. -/
def Buffers.run (pf : Platform) (net : Network) (s : Buffers) (c : Call) : Buffers :=
  let input := (spresenseGetfaceimage pf s.videoFd c).getD s.input
  let (o0, o1) := net.outputs input
  { videoFd := initVideo s.videoFd c.driver, input := net.leaves input, o0 := o0, o1 := o1 }

/-- What a call of `FaceLoop` stores. -/
def Buffers.report (pf : Platform) (net : Network) (s : Buffers) (c : Call) : Option Report :=
  faceLoop pf.sqrt pf.sort c.type (s.run pf net c).o0 (s.run pf net c).o1

/-! ## Stale images -/

/-- A face is reported from an image that was captured in the same call and with its
type; without one, no face is. -/
structure Honest (pf : Platform) (net : Network) (s : Buffers) (c : Call) : Prop where
  captured : ∀ r ∈ s.report pf net c, r ≠ .noFace →
    ∃ image, spresenseGetfaceimage pf s.videoFd c = some image ∧
      faceLoop pf.sqrt pf.sort c.type (net.outputs image).1 (net.outputs image).2 = some r
  failed : spresenseGetfaceimage pf s.videoFd c = none → s.report pf net c = some .noFace

theorem report_of_captured (pf : Platform) (net : Network) (s : Buffers) (c : Call)
    (image : InputTensor) (h : spresenseGetfaceimage pf s.videoFd c = some image) :
    s.report pf net c =
      faceLoop pf.sqrt pf.sort c.type (net.outputs image).1 (net.outputs image).2 := by
  simp only [Buffers.report, Buffers.run, h, Option.getD_some]

/-- A failed capture leaves the tensor as the last call left it, and this is decoded. -/
theorem report_of_failed (pf : Platform) (net : Network) (s : Buffers) (c : Call)
    (h : spresenseGetfaceimage pf s.videoFd c = none) :
    s.report pf net c =
      faceLoop pf.sqrt pf.sort c.type (net.outputs s.input).1 (net.outputs s.input).2 := by
  simp only [Buffers.report, Buffers.run, h, Option.getD_none]

theorem honest_of_captured (pf : Platform) (net : Network) (s : Buffers) (c : Call)
    (h : spresenseGetfaceimage pf s.videoFd c ≠ none) : Honest pf net s c := by
  obtain ⟨image, himage⟩ := Option.ne_none_iff_exists'.mp h
  refine ⟨fun r hr _ => ⟨image, himage, ?_⟩, fun hnone => absurd hnone h⟩
  rw [← report_of_captured pf net s c image himage]
  exact hr

/-! ## A network that always finds a face -/

def alwaysFace : Network where
  outputs := fun _ => (lowLeftBoxes, lowLeftScores)
  leaves := id

theorem neg_192_le_xOffset (type : Int) : -192 ≤ xOffset type := by
  have h := Int.lt_tmod_of_pos (type - 3) (show (0 : Int) < 4 by decide)
  unfold xOffset
  split_ifs <;> omega

theorem scale_nonneg (type : Int) : 0 ≤ scale type := by
  unfold scale
  split_ifs <;> decide

/-- A detection in the input is not taken for the report without a face. -/
theorem reportFirst_ne_noFace (type : Int) (d : Detection) (ds : List Detection) (hd : 0 ≤ d.x) :
    reportFirst type (d :: ds) ≠ .noFace := by
  intro heq
  have hx : (d.x * scale type + xOffset type) / 320 = -100 := congrArg Report.x heq
  have hoffset : (-192 : Rat) ≤ xOffset type := by exact_mod_cast neg_192_le_xOffset type
  have hscale : (0 : Rat) ≤ scale type := by exact_mod_cast scale_nonneg type
  have hmul : 0 ≤ d.x * scale type := mul_nonneg hd hscale
  rw [div_eq_iff (by norm_num)] at hx
  linarith

/-- The only detection of the network, merged with itself. -/
theorem merge_low_left :
    let d : Detection := ⟨5 / 32, 25 / 32, 1 / 8, 1 / 8, 9 / 10, 0⟩
    merge ⟨d, companions [d] d⟩ = ⟨5 / 32, 15 / 32, 1 / 8, -1 / 2, 9 / 10, 0⟩ := by
  decide +kernel

theorem faceLoop_low_left (sqrt : Rat → Rat) (sort : (bb : List Detection) → SortedScores bb)
    (type : Int) :
    ∃ others, faceLoop sqrt sort type lowLeftBoxes lowLeftScores =
      some (reportFirst type (⟨5 / 32, 15 / 32, 1 / 8, -1 / 2, 9 / 10, 0⟩ :: others)) := by
  have hdetected := low_left_detected sqrt
  have hperm := (sort [⟨5 / 32, 25 / 32, 1 / 8, 1 / 8, 9 / 10, 0⟩]).detections_perm
  have hsorted := List.perm_singleton.mp hperm
  obtain ⟨others, hnms⟩ := nonMaxSuppression_first _ (sort _)
    ⟨5 / 32, 25 / 32, 1 / 8, 1 / 8, 9 / 10, 0⟩ (by rw [hsorted]; rfl)
  rw [hsorted, merge_low_left] at hnms
  exact ⟨others, faceLoop_eq type hdetected hnms⟩

theorem honest_alwaysFace_iff (pf : Platform) (s : Buffers) (c : Call) :
    Honest pf alwaysFace s c ↔ spresenseGetfaceimage pf s.videoFd c ≠ none := by
  refine ⟨fun h hnone => ?_, honest_of_captured pf alwaysFace s c⟩
  obtain ⟨others, hloop⟩ := faceLoop_low_left pf.sqrt pf.sort c.type
  have hreport := h.failed hnone
  rw [report_of_failed pf alwaysFace s c hnone] at hreport
  refine reportFirst_ne_noFace c.type _ others ?_ (Option.some.inj (hloop.symm.trans hreport))
  norm_num

/-- No stale image is reported, whatever the network, exactly if no capture fails. -/
theorem stale_images_iff (pf : Platform) (s : Buffers) (cs : List Call) :
    (∀ net, EveryStep (Buffers.run pf net) (Honest pf net) s cs) ↔
      EveryStep (fun videoFd c => initVideo videoFd c.driver)
        (fun videoFd c => spresenseGetfaceimage pf videoFd c ≠ none) s.videoFd cs := by
  have hpart : ∀ net : Network,
      EveryStep (Buffers.run pf net) (fun s c => spresenseGetfaceimage pf s.videoFd c ≠ none) s cs ↔
        EveryStep (fun videoFd c => initVideo videoFd c.driver)
          (fun videoFd c => spresenseGetfaceimage pf videoFd c ≠ none) s.videoFd cs :=
    fun net => everyStep_part Buffers.videoFd (fun _ _ => rfl)
      (fun videoFd c => spresenseGetfaceimage pf videoFd c ≠ none) s cs
  constructor
  · intro h
    rw [← hpart alwaysFace]
    exact (h alwaysFace).imp fun s c => (honest_alwaysFace_iff pf s c).mp
  · intro h net
    exact ((hpart net).mpr h).imp (honest_of_captured pf net)

/-! ## A stale face -/

def Driver.working : Driver := ⟨true, true, true, true, some [], true⟩

/-- The driver does not take the buffer. -/
def Driver.stuck : Driver := { Driver.working with qbuf := false }

def plainPlatform : Platform where
  imageproc := fun _ _ _ => 0
  sqrt := id
  sort := SortedScores.stable

/-- A network that finds a face in the images with a margin. -/
def seesMargin : Network where
  outputs := fun input =>
    if input ⟨0, by decide⟩ = -1 then (lowLeftBoxes, lowLeftScores)
    else (Vector.replicate _ 0, Vector.replicate _ 0)
  leaves := id

/-- Before the first call. -/
def Buffers.init : Buffers := ⟨false, fun _ => 0, Vector.replicate _ 0, Vector.replicate _ 0⟩

/-- After a picture of the type 0. -/
def oneCapture : Buffers := Buffers.init.run plainPlatform seesMargin ⟨0, .working⟩

theorem outputs_oneCapture : seesMargin.outputs oneCapture.input = (lowLeftBoxes, lowLeftScores) := by
  have hmargin : oneCapture.input ⟨0, by decide⟩ = -1 := by decide +kernel
  simp only [seesMargin, hmargin, if_true]

theorem report_oneCapture (c : Call) (h : spresenseGetfaceimage plainPlatform true c = none) :
    oneCapture.report plainPlatform seesMargin c =
      some (reportFirst c.type [⟨5 / 32, 15 / 32, 1 / 8, -1 / 2, 9 / 10, 0⟩]) := by
  rw [report_of_failed plainPlatform seesMargin oneCapture c h, outputs_oneCapture]
  exact faceLoop_eq c.type (low_left_detected id) low_left_nms

/-- The face of the first picture is reported again by a call whose capture fails, and at
another place: for a driver error, and for the type 16, which is rejected. -/
theorem stale_face_reported :
    (∀ c ∈ [⟨5, .stuck⟩, ⟨16, .working⟩],
      spresenseGetfaceimage plainPlatform oneCapture.videoFd c = none ∧
        oneCapture.report plainPlatform seesMargin c =
          some (reportFirst c.type [⟨5 / 32, 15 / 32, 1 / 8, -1 / 2, 9 / 10, 0⟩])) ∧
      ¬ EveryStep (Buffers.run plainPlatform seesMargin) (Honest plainPlatform seesMargin) .init
        [⟨0, .working⟩, ⟨16, .working⟩] := by
  have hcalls : ∀ c ∈ [⟨5, .stuck⟩, (⟨16, .working⟩ : Call)],
      spresenseGetfaceimage plainPlatform true c = none := by
    intro c hc
    simp only [List.mem_cons, List.not_mem_nil, or_false] at hc
    rcases hc with rfl | rfl <;> rfl
  refine ⟨fun c hc => ⟨hcalls c hc, report_oneCapture c (hcalls c hc)⟩, ?_⟩
  rintro ⟨-, hhonest, -⟩
  have hnone := hcalls ⟨16, .working⟩ (by simp)
  have hreport := (report_oneCapture ⟨16, .working⟩ hnone).symm.trans (hhonest.failed hnone)
  exact reportFirst_ne_noFace 16 _ [] (by norm_num) (Option.some.inj hreport)

end Sprefence.FaceDetect

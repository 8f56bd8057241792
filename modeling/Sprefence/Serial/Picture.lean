import Sprefence.PictureCodec
import Sprefence.Serial.Delivery

/-! The calls with which `web_source` sends a picture, and what the host gets of them. -/

namespace Sprefence.Cdcacm.Tx

open Blocks WebSource Server

/-- A call of the program. -/
inductive Req
  | write (buffer : List UInt8)
  | drain
  deriving DecidableEq, Repr

def Req.bytes : Req → List UInt8
  | .write buffer => buffer
  | .drain => []

def Done.req : Done → Req
  | .write call _ => .write call.buffer
  | .drain _ => .drain

/-- The call has written everything, or has waited until everything is sent. -/
def Done.Complete : Done → Prop
  | .write call result => result = .ok call.buffer.length
  | .drain result => result = .ok ()

instance : DecidablePred Done.Complete
  | .write _ _ => inferInstanceAs (Decidable (_ = _))
  | .drain _ => inferInstanceAs (Decidable (_ = _))

/-- The calls for one picture: the groups with a `tcdrain` behind every 75th, and the marker. -/
def pictureCalls (mem : List UInt8) (usedLen : Nat) : List Req :=
  let jpgLen := usedLen - yuvSize
  (List.range (blockCount jpgLen 7)).flatMap (fun i =>
      .write (encodeGroup mem jpgLen i) :: if i % 75 = 74 then [.drain] else []) ++
    [.write endOfFile, .drain]

theorem pictureCalls_eq (f : Capture) :
    pictureCalls f.mem f.usedLen =
      (List.range (blockCount f.jpg.length 7)).flatMap (fun i =>
          .write (packGroup (block f.jpg 7 i)) :: if i % 75 = 74 then [.drain] else []) ++
        [.write endOfFile, .drain] := by
  simp only [pictureCalls, Capture.usedLen_sub, encodeGroup_eq]

theorem bytes_groups (mem : List UInt8) (jpgLen : Nat) (is : List Nat) :
    (is.flatMap fun i =>
        Req.write (encodeGroup mem jpgLen i) :: if i % 75 = 74 then [.drain] else []).flatMap
      Req.bytes = is.flatMap (encodeGroup mem jpgLen) := by
  rw [List.flatMap_assoc]
  refine List.flatMap_congr fun i _ => ?_
  split_ifs <;> simp [Req.bytes]

theorem bytes_pictureCalls (mem : List UInt8) (usedLen : Nat) :
    (pictureCalls mem usedLen).flatMap Req.bytes = sendPicture mem usedLen := by
  have hend (marker : List UInt8) : [Req.write marker, .drain].flatMap Req.bytes = marker := by
    simp [Req.bytes]
  rw [pictureCalls, List.flatMap_append, bytes_groups, hend, sendPicture, encodeLoop_flatMap]

namespace System

/-- A complete write stores the bytes as they are. -/
theorem stored_of_complete {oflag : Nat} (hraw : oflag &&& opost = 0) {call : Write}
    (h : (Done.write call (.ok call.buffer.length)).Returned oflag) : call.stored = call.buffer := by
  obtain ⟨-, part, hstored, -, hpart⟩ := h.stored
  rw [hpart rfl, List.append_nil] at hstored
  have hid : outputChars oflag = fun ch => [ch] := funext (outputChars_raw hraw)
  rw [hstored, hid, written, List.take_length, List.flatMap_singleton']

/-- A program whose calls end with a complete `tcdrain`. -/
theorem getLast?_of_complete {log : List Done} (hcomplete : ∀ d ∈ log, d.Complete)
    (hlast : (log.map Done.req).getLast? = some .drain) :
    log.getLast? = some (.drain (.ok ())) := by
  rw [List.getLast?_map, Option.map_eq_some_iff] at hlast
  obtain ⟨d, hd, hreq⟩ := hlast
  cases d with
  | write call result => cases hreq
  | drain result =>
    have hresult : result = .ok () := hcomplete _ (List.mem_of_getLast? hd)
    rw [hd, hresult]

/-- The calls for a picture return completely over one connection that is not suspended, with a
controller that takes every request and ends none with an error, whatever else the host and the
interrupts do between their steps. The host has then got the picture as the encoder writes it, and
the server decodes it to the JPEG data if this has a multiple of seven bytes. -/
theorem picture_delivered (ctl : Controller) (hsubmit : ∀ n, ctl.submit n true = true) (oflag : Nat)
    (hraw : oflag &&& opost = 0) (f : Capture) (es : List Event) (s : System)
    (hs : PartialRuns.run (step ctl oflag) init es = some s) (hes : ∀ e ∈ es, disturbs e = false)
    (hreturned : s.thread = none) (hcalls : s.log.map Done.req = pictureCalls f.mem f.usedLen)
    (hcomplete : ∀ d ∈ s.log, d.Complete) :
    s.host = sendPicture f.mem f.usedLen ∧
      (7 ∣ f.jpg.length → ∀ stale, decodeLoop (s.host ++ stale) s.host.length = some f.jpg) := by
  obtain ⟨hinv, hflow⟩ := run_undisturbed hsubmit hes hs
  have hdrained : s.log.getLast? = some (.drain (.ok ())) := by
    refine getLast?_of_complete hcomplete ?_
    rw [hcalls, pictureCalls]
    simp
  have hputs : s.host = s.puts := by
    rw [hflow.flow.puts, run_drained hs hreturned hdrained, List.append_nil]
    rfl
  have hstored : s.log.flatMap Done.stored = (s.log.map Done.req).flatMap Req.bytes := by
    rw [List.flatMap_map]
    refine List.flatMap_congr fun d hd => ?_
    cases d with
    | write call result =>
      have hcall := hinv.log _ hd
      rw [show result = .ok call.buffer.length from hcomplete _ hd] at hcall
      exact stored_of_complete hraw hcall
    | drain result => rfl
  have hhost : s.host = sendPicture f.mem f.usedLen := by
    rw [hputs, puts, hreturned, hstored, hcalls, bytes_pictureCalls]
    exact List.append_nil _
  refine ⟨hhost, fun h7 stale => ?_⟩
  rw [hhost]
  exact PictureCodec.decodeLoop_full f stale h7

/-- A picture of seven bytes. -/
def small : Capture where
  yuv := List.replicate yuvSize 128
  jpg := [255, 216, 0, 128, 127, 255, 217]
  yuv_length := List.length_replicate

/-- Its two writes and its `tcdrain`, during which the host takes both requests. -/
def smallSent : List Event :=
  [.write (packGroup small.jpg) false] ++ List.replicate 35 .run ++
    [.write endOfFile false] ++ List.replicate 43 .run ++
    [.drain, .run, .run, .complete, .run, .run, .run, .complete, .run]

theorem pictureCalls_small :
    pictureCalls small.mem small.usedLen =
      [.write (packGroup small.jpg), .write endOfFile, .drain] := by
  rw [pictureCalls_eq]
  rfl

theorem picture_delivered_small :
    ∃ s, PartialRuns.run (step .faultless 0) init smallSent = some s ∧
      ∀ stale, decodeLoop (s.host ++ stale) s.host.length = some small.jpg := by
  have hreqs : (PartialRuns.run (step .faultless 0) init smallSent).map
      (fun s => (s.thread, s.log.map Done.req)) =
        some (none, [.write (packGroup small.jpg), .write endOfFile, .drain]) := by decide +kernel
  have hdone : (PartialRuns.run (step .faultless 0) init smallSent).map
      (fun s => decide (∀ d ∈ s.log, d.Complete)) = some true := by decide +kernel
  obtain ⟨s, hs, hview⟩ := Option.map_eq_some_iff.mp hreqs
  rw [hs] at hdone
  obtain ⟨hreturned, hcalls⟩ := Prod.ext_iff.mp hview
  have hcomplete := of_decide_eq_true (Option.some.inj hdone)
  exact ⟨s, hs, (picture_delivered .faultless (fun _ => rfl) 0 rfl small smallSent s hs (by decide)
    hreturned (hcalls.trans pictureCalls_small.symm) hcomplete).2 (by decide)⟩

end System

end Sprefence.Cdcacm.Tx

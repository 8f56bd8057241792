import Mathlib.Data.List.TakeWhile
import Sprefence.Arrival
import Sprefence.Server.Run

/-! One picture after another in the same `m_buffer`, which is never cleared. What
lies behind the received bytes is neither looked at by `isEnd` nor decoded, so a
picture says nothing about those before it. -/

namespace Sprefence.Isolation

open Blocks Runs Server WebServer

/-! ## The decoder -/

/-- What the decoder makes of the received bytes. -/
def picture (received : List UInt8) : List UInt8 :=
  (List.range (blockCount (received.length - 10) 8)).flatMap fun i => unpackGroup (block received 8 i)

theorem block_of_front {received bytes : List UInt8} (h : received <+: bytes) (i : Nat)
    (hi : i * 8 + 8 ≤ received.length) : block bytes 8 i = block received 8 i := by
  obtain ⟨stale, rfl⟩ := h
  rw [block, block, List.drop_append_of_le_length (by omega), List.take_append_of_le_length]
  rw [List.length_drop]
  omega

/-- The last group ends in front of the last bytes of the marker. -/
theorem decodeLoop_front {received bytes : List UInt8} (h : received <+: bytes) :
    decodeLoop bytes received.length = some (picture received) := by
  rw [decodeLoop_eq bytes received.length h.length_le, picture]
  refine congrArg some (List.flatMap_congr fun i hi => ?_)
  have hi' := (lt_blockCount (by decide) _ _).mp (List.mem_range.mp hi)
  rw [block_of_front h i (by omega)]

/-! ## The receive loop -/

/-- The bytes that are read until a read completes a marker. -/
def receivedFrom (received : List UInt8) : List (List UInt8) → List UInt8
  | [] => received
  | r :: reads => if endWord <:+ received ++ r then received ++ r else receivedFrom (received ++ r) reads

theorem length_le_receivedFrom (received : List UInt8) (reads : List (List UInt8)) :
    received.length ≤ (receivedFrom received reads).length := by
  induction reads generalizing received with
  | nil => exact Nat.le_refl _
  | cons r reads ih =>
    have hle : received.length ≤ (received ++ r).length := by simp
    rw [receivedFrom]
    split_ifs
    · exact hle
    · exact hle.trans (ih _)

theorem length_append_le_receivedFrom (received r : List UInt8) (reads : List (List UInt8)) :
    (received ++ r).length ≤ (receivedFrom received (r :: reads)).length := by
  rw [receivedFrom]
  split_ifs
  · exact Nat.le_refl _
  · exact length_le_receivedFrom _ _

/-- Whatever the buffer held, the loop ends with the received bytes in front of it, or
with an exception if they do not fit. -/
theorem receiveLoop_received {m_buffer : Buffer} {received : List UInt8}
    (hm : m_buffer.Holds received) (reads : List (List UInt8)) (hne : reads ≠ [])
    (h10 : 10 ≤ (received ++ reads.headD []).length) (hend : endWord <:+ received ++ reads.flatten) :
    if (receivedFrom received reads).length ≤ bufferSize then
      ∃ b rest, receiveLoop m_buffer received.length reads =
        .done b (receivedFrom received reads).length rest ∧ b.Holds (receivedFrom received reads)
    else ∃ b e, receiveLoop m_buffer received.length reads = .threw b e := by
  induction reads generalizing m_buffer received with
  | nil => exact absurd rfl hne
  | cons r reads ih =>
    rw [List.headD_cons] at h10
    by_cases hfit : (received ++ r).length ≤ bufferSize
    · obtain ⟨b, hb, hstep⟩ := receiveLoop_cons hm r reads h10 hfit
      rw [hstep, receivedFrom]
      by_cases hnow : endWord <:+ received ++ r
      · rw [if_pos hnow, if_pos hnow, if_pos hfit]
        exact ⟨b, reads, rfl, hb⟩
      · rw [if_neg hnow, if_neg hnow]
        have hassoc : received ++ (r :: reads).flatten = (received ++ r) ++ reads.flatten := by simp
        rw [hassoc] at hend
        refine ih hb ?_ ?_ hend
        · rintro rfl
          exact hnow (by simpa using hend)
        · exact h10.trans (List.prefix_append _ _).length_le
    · have hbig := length_append_le_receivedFrom received r reads
      rw [if_neg (by omega)]
      exact ⟨m_buffer, .argument, receiveLoop_full m_buffer _ r reads
        (by rw [← List.length_append]; omega)⟩

/-! ## A sequence of pictures -/

/-- A request for a picture, and a reply that ends with the marker and of which the first
read finds at least ten bytes. -/
structure CameraRequest where
  request : Request
  path : request.requestPath = some "/camera.jpg"
  first_read : 10 ≤ (request.reads.headD []).length
  marker : endWord <:+ request.reads.flatten

namespace CameraRequest

def received (r : CameraRequest) : List UInt8 := receivedFrom [] r.request.reads

/-- The reply has its place in `m_buffer`. -/
def Fits (r : CameraRequest) : Prop := r.received.length ≤ bufferSize

instance : DecidablePred Fits := fun r => inferInstanceAs (Decidable (r.received.length ≤ bufferSize))

/-- The response as a function of the received bytes. -/
def response (r : CameraRequest) : Response := ⟨200, picture r.received⟩

theorem receiveLoop_eq (r : CameraRequest) (m_buffer : Buffer) :
    if r.Fits then
      ∃ b rest, receiveLoop m_buffer 0 r.request.reads = .done b r.received.length rest ∧
        b.Holds r.received
    else ∃ b e, receiveLoop m_buffer 0 r.request.reads = .threw b e := by
  refine receiveLoop_received m_buffer.holds_nil r.request.reads ?_ r.first_read r.marker
  intro hnil
  have h10 := r.first_read
  simp [hnil] at h10

theorem camera_fits (r : CameraRequest) (hfits : r.Fits) (s : State) (hs : s.status = .running)
    (path : String) :
    (s.camera path r.request.reads).status = .running ∧
      (s.camera path r.request.reads).responses = s.responses ++ [r.response] := by
  have hloop := r.receiveLoop_eq s.m_buffer
  rw [if_pos hfits] at hloop
  obtain ⟨b, rest, hdone, hholds⟩ := hloop
  simp only [State.camera, State.write, hdone, decodeLoop_front hholds]
  exact ⟨hs, rfl⟩

theorem camera_not_fits (r : CameraRequest) (hfits : ¬ r.Fits) (s : State) (path : String) :
    (s.camera path r.request.reads).status ≠ .running ∧
      (s.camera path r.request.reads).responses = s.responses := by
  have hloop := r.receiveLoop_eq s.m_buffer
  rw [if_neg hfits] at hloop
  obtain ⟨b, e, hthrew⟩ := hloop
  simp only [State.camera, State.write, hthrew]
  exact ⟨Status.noConfusion, rfl⟩

end CameraRequest

section Site

variable (site : Site) (hsite : "/camera.jpg" ∉ site.m_contents)
include hsite

theorem serve_camera (r : CameraRequest) (s : State) (hs : s.status = .running) :
    serve site s r.request = s.camera "/camera.jpg" r.request.reads := by
  simp only [serve, hs, r.path, hsite, ne_eq, not_true_eq_false, if_false, if_true]

/-- Each request gets the picture of its own bytes, until a reply does not fit. -/
theorem responses_eq (rs : List CameraRequest) (s : State) (hs : s.status = .running) :
    (run (serve site) s (rs.map CameraRequest.request)).responses =
      s.responses ++ (rs.takeWhile fun r => r.Fits).map CameraRequest.response := by
  induction rs generalizing s with
  | nil => simp
  | cons r rs ih =>
    rw [List.map_cons, run_cons, serve_camera site hsite r s hs]
    by_cases hfits : r.Fits
    · obtain ⟨hrunning, hresponses⟩ := r.camera_fits hfits s hs "/camera.jpg"
      have htake : (r :: rs).takeWhile (fun r => r.Fits) = r :: rs.takeWhile fun r => r.Fits :=
        List.takeWhile_cons_of_pos (decide_eq_true hfits)
      rw [ih _ hrunning, hresponses, htake, List.map_cons, List.append_assoc]
      rfl
    · obtain ⟨hended, hresponses⟩ := r.camera_not_fits hfits s "/camera.jpg"
      have hended' : ∀ q, serve site (s.camera "/camera.jpg" r.request.reads) q =
          s.camera "/camera.jpg" r.request.reads := fun q => if_pos hended
      have hfixed := run_of_fixed _ hended' (rs.map CameraRequest.request)
      have htake : (r :: rs).takeWhile (fun r => r.Fits) = [] :=
        List.takeWhile_cons_of_neg (by simpa using hfits)
      rw [hfixed, hresponses, htake, List.map_nil, List.append_nil]

end Site

/-- The request behind `pre` is still served exactly if nothing was too long so far. -/
theorem getElem?_takeWhile_fits (pre post : List CameraRequest) (r : CameraRequest) :
    ((pre ++ r :: post).takeWhile fun q => q.Fits)[pre.length]? =
      if ∀ q ∈ pre ++ [r], q.Fits then some r else none := by
  have hsplit : pre ++ r :: post = (pre ++ [r]) ++ post := by simp
  split_ifs with hall
  · have htake : ((pre ++ [r]) ++ post).takeWhile (fun q => q.Fits) =
        (pre ++ [r]) ++ post.takeWhile fun q => q.Fits :=
      List.takeWhile_append_of_pos fun q hq => decide_eq_true (hall q hq)
    rw [hsplit, htake, List.getElem?_append_left (by simp), List.getElem?_concat_length]
  · rw [List.getElem?_eq_none_iff]
    by_contra hlong
    refine hall fun q hq => ?_
    -- as many as are taken are taken from the front
    have hfront : pre ++ [r] <+: (pre ++ r :: post).takeWhile fun q => q.Fits := by
      refine List.prefix_of_prefix_length_le ⟨post, hsplit.symm⟩ (List.takeWhile_prefix _) ?_
      rw [List.length_append, List.length_singleton]
      omega
    have hfits := List.mem_takeWhile_imp (hfront.subset hq)
    exact of_decide_eq_true hfits

/-- The response to a request after any others: a function of its own bytes, as long as
no reply was too long for the buffer. Two runs can only tell the same picture, and
every access is to the bytes in front of `size`. -/
theorem pictures_isolated (site : Site) (hsite : "/camera.jpg" ∉ site.m_contents)
    (r : CameraRequest) :
    (∀ pre post : List CameraRequest,
      (run (serve site) .init ((pre ++ r :: post).map CameraRequest.request)).responses[pre.length]? =
        if ∀ q ∈ pre ++ [r], q.Fits then some ⟨200, picture r.received⟩ else none) ∧
      (∀ (pre pre' post post' : List CameraRequest) (image image' : Response),
        (run (serve site) .init ((pre ++ r :: post).map CameraRequest.request)).responses[pre.length]? =
            some image →
          (run (serve site) .init
              ((pre' ++ r :: post').map CameraRequest.request)).responses[pre'.length]? =
            some image' → image = image') ∧
      ∀ m_buffer : Buffer,
        (∀ a ∈ Arrival.accesses m_buffer 0 r.request.reads, 0 ≤ a.2 ∧ a.2 < a.1) ∧
          ∀ b size rest, receiveLoop m_buffer 0 r.request.reads = .done b size rest →
            decodeLoop (b.bytes.take size) size = some (picture r.received) := by
  have hresponse : ∀ pre post : List CameraRequest,
      (run (serve site) .init ((pre ++ r :: post).map CameraRequest.request)).responses[pre.length]? =
        if ∀ q ∈ pre ++ [r], q.Fits then some r.response else none := by
    intro pre post
    rw [responses_eq site hsite _ .init rfl]
    change (List.map _ _)[pre.length]? = _
    rw [List.getElem?_map, getElem?_takeWhile_fits]
    exact apply_ite (Option.map CameraRequest.response) _ _ _
  refine ⟨hresponse, ?_, fun m_buffer => ⟨?_, ?_⟩⟩
  · intro pre pre' post post' image image' himage himage'
    have honly : ∀ (pre post : List CameraRequest) (image : Response),
        (run (serve site) .init
          ((pre ++ r :: post).map CameraRequest.request)).responses[pre.length]? = some image →
          image = r.response := by
      intro pre post image h
      rw [hresponse] at h
      split_ifs at h
      exact (Option.some.inj h).symm
    rw [honly pre post image himage, honly pre' post' image' himage']
  · exact Arrival.accesses_in_range m_buffer 0 r.request.reads (by simpa using r.first_read)
  · intro b size rest hdone
    have hloop := r.receiveLoop_eq m_buffer
    split_ifs at hloop with hfits
    · obtain ⟨b', rest', hdone', hholds⟩ := hloop
      rw [hdone'] at hdone
      cases hdone
      exact decodeLoop_front (List.prefix_take_iff.mpr ⟨hholds, Nat.le_refl _⟩)
    · obtain ⟨b', e, hthrew⟩ := hloop
      rw [hthrew] at hdone
      cases hdone

/-- A reply of eight characters and the marker, in one read. -/
def shortRequest (c : UInt8) : CameraRequest where
  request := ⟨some "/camera.jpg", "GET", "", [List.replicate 8 c ++ endWord]⟩
  path := rfl
  first_read := by
    rw [List.headD_cons, List.length_append, length_endWord]
    omega
  marker := by
    rw [List.flatten_singleton]
    exact List.suffix_append _ _

theorem received_shortRequest (c : UInt8) :
    (shortRequest c).received = List.replicate 8 c ++ endWord := by
  have hend : endWord <:+ [] ++ (List.replicate 8 c ++ endWord) := List.suffix_append _ _
  rw [CameraRequest.received, shortRequest, receivedFrom, if_pos hend, List.nil_append]

theorem fits_shortRequest (c : UInt8) : (shortRequest c).Fits := by
  rw [CameraRequest.Fits, received_shortRequest, List.length_append, List.length_replicate,
    length_endWord]
  decide

/-- The picture of the second request, with other characters in the buffer before it. -/
theorem pictures_isolated_short :
    (run (serve emptySite) .init
      [(shortRequest 200).request, (shortRequest 33).request]).responses[1]? =
        some ⟨200, [1, 1, 1, 1, 1, 1, 129]⟩ := by
  have h := (pictures_isolated emptySite List.not_mem_nil (shortRequest 33)).1 [shortRequest 200] []
  have hpicture : picture (shortRequest 33).received = [1, 1, 1, 1, 1, 1, 129] := by
    rw [received_shortRequest]
    decide
  rw [hpicture, if_pos] at h
  · exact h
  · intro q hq
    simp only [List.cons_append, List.nil_append, List.mem_cons, List.not_mem_nil, or_false] at hq
    rcases hq with rfl | rfl
    · exact fits_shortRequest 200
    · exact fits_shortRequest 33

end Sprefence.Isolation

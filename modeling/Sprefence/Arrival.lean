import Sprefence.EndMarker

/-! How the reply of the device may arrive. The reads of the receive loop find
whatever has been buffered, possibly nothing; `isEnd` looks back ten bytes in any
case. -/

namespace Sprefence.Arrival

open CBytes WebServer WebSource

/-! ## What is looked at -/

/-- The indices of `m_buffer` that the loop of `isEnd` looks at from `i` on. -/
def indicesFrom (m_buffer : Buffer) (size : Nat) : Nat → List UInt8 → List Int
  | _, [] => []
  | i, c :: word =>
    ((size : Int) - 10 + i) ::
      if 10 ≤ size + i ∧ m_buffer.bytes[size + i - 10]? = some c then
        indicesFrom m_buffer size (i + 1) word
      else []

def indices (m_buffer : Buffer) (size : Nat) : List Int := indicesFrom m_buffer size 0 endWord

/-- All accesses of the receive loop, each with the `size` that `isEnd` is called with. -/
def accesses (m_buffer : Buffer) (size : Nat) : List (List UInt8) → List (Nat × Int)
  | [] => []
  | r :: reads =>
    if h : size + r.length ≤ bufferSize then
      (indices (m_buffer.write size r h) (size + r.length)).map (size + r.length, ·) ++
        match isEnd (m_buffer.write size r h) (size + r.length) with
        | some false => accesses (m_buffer.write size r h) (size + r.length) reads
        | _ => []
    else []

theorem mem_indicesFrom (m_buffer : Buffer) (size : Nat) (word : List UInt8) (i : Nat)
    (hw : i + word.length = 10) :
    ∀ n ∈ indicesFrom m_buffer size i word, (size : Int) - 10 ≤ n ∧ n < size := by
  induction word generalizing i with
  | nil => exact fun n hn => nomatch hn
  | cons c word ih =>
    intro n hn
    rw [List.length_cons] at hw
    rcases List.mem_cons.mp hn with rfl | hrest
    · omega
    · split_ifs at hrest
      · exact ih (i + 1) (by omega) n hrest
      · cases hrest

/-- Once ten bytes are there, every access is to received bytes. -/
theorem accesses_in_range (m_buffer : Buffer) (size : Nat) (reads : List (List UInt8))
    (h10 : 10 ≤ size + (reads.headD []).length) :
    ∀ a ∈ accesses m_buffer size reads, 0 ≤ a.2 ∧ a.2 < a.1 := by
  induction reads generalizing m_buffer size with
  | nil => exact fun a ha => nomatch ha
  | cons r reads ih =>
    intro a ha
    rw [List.headD_cons] at h10
    rw [accesses] at ha
    split_ifs at ha with hfit
    · rcases List.mem_append.mp ha with hnow | hlater
      · obtain ⟨n, hn, rfl⟩ := List.mem_map.mp hnow
        have hrange := mem_indicesFrom _ _ endWord 0 rfl n hn
        dsimp only
        omega
      · split at hlater
        · exact ih _ _ (by omega) a hlater
        · cases hlater
    · cases ha

/-- With fewer bytes the first access is in front of the buffer. -/
theorem accesses_short (m_buffer : Buffer) (r : List UInt8) (reads : List (List UInt8))
    (h : r.length < 10) : (r.length, (r.length : Int) - 10) ∈ accesses m_buffer 0 (r :: reads) := by
  have hfit : 0 + r.length ≤ bufferSize := (Nat.zero_add _).symm ▸ h.le.trans (by decide)
  have hcons : endWord = 69 :: endWord.tail := by decide
  rw [accesses, dif_pos hfit, Nat.zero_add, indices, hcons]
  refine List.mem_append_left _ (List.mem_map.mpr ⟨(r.length : Int) - 10 + (0 : Nat), ?_, by simp⟩)
  exact List.mem_cons_self

/-! ## Every arrival -/

/-- A picture in the frame buffer of the device. -/
structure DeviceFrame extends Capture where
  fits : toCapture.mem.length ≤ fSize

def DeviceFrame.reply (f : DeviceFrame) : List UInt8 := sendPicture f.mem f.usedLen

/-- What successive reads find of a stream. -/
structure Cut (stream : List UInt8) where
  reads : List (List UInt8)
  flatten_reads : reads.flatten = stream

/-- No access outside of the received bytes, no exception, and the loop goes on to the
end of the stream. -/
def Safe (m_buffer : Buffer) {stream : List UInt8} (cut : Cut stream) : Prop :=
  (∀ a ∈ accesses m_buffer 0 cut.reads, 0 ≤ a.2 ∧ a.2 < a.1) ∧
    (∀ b e, receiveLoop m_buffer 0 cut.reads ≠ .threw b e) ∧
    ∃ b rest, receiveLoop m_buffer 0 cut.reads = .done b stream.length rest ∧ b.Holds stream ∧
      rest.flatten = []

/-- The loop is safe exactly if the first read finds at least ten bytes. -/
theorem receive_safe_iff (f : DeviceFrame) (m_buffer : Buffer) (cut : Cut f.reply) :
    Safe m_buffer cut ↔ 10 ≤ (cut.reads.headD []).length := by
  constructor
  · rintro ⟨-, -, b, rest, hdone, -, -⟩
    exact ((receiveLoop_done_iff m_buffer cut.reads).mp ⟨b, _, rest, hdone⟩).1
  · intro h10
    obtain ⟨b, rest, hdone, hholds, hrest⟩ := EndMarker.receiveLoop_sendPicture f.mem f.usedLen m_buffer
      cut.reads cut.flatten_reads h10 (EndMarker.length_sendPicture_le f.toCapture f.fits)
    refine ⟨accesses_in_range m_buffer 0 cut.reads (by omega), ?_, b, rest, hdone, hholds, hrest⟩
    intro b' e hthrew
    rw [hdone] at hthrew
    cases hthrew

theorem length_mem (f : Capture) : f.mem.length = yuvSize + f.jpg.length := by
  rw [Capture.mem, List.length_append, f.yuv_length]

def oneByteCapture : Capture where
  yuv := List.replicate yuvSize 0
  jpg := [0xff]
  yuv_length := List.length_replicate

def oneByteFrame : DeviceFrame where
  toCapture := oneByteCapture
  fits := (length_mem oneByteCapture).trans_le (by decide)

/-- Nothing when the quiet period ends, and then all at once. -/
def lateCut (stream : List UInt8) : Cut stream where
  reads := [[], stream]
  flatten_reads := by simp

theorem late_access (m_buffer : Buffer) (stream : List UInt8) :
    (0, -10) ∈ accesses m_buffer 0 (lateCut stream).reads :=
  accesses_short m_buffer [] [stream] (by decide)

theorem late_throws (m_buffer : Buffer) (stream : List UInt8) :
    ∃ b, receiveLoop m_buffer 0 (lateCut stream).reads = .threw b .indexOutOfRange :=
  receiveLoop_short m_buffer 0 [] [stream] (by decide)

/-- The camera starts late: nothing has been received, and `isEnd` looks at index -10. -/
theorem late_reply_throws :
    (0, -10) ∈ accesses Buffer.init 0 (lateCut oneByteFrame.reply).reads ∧
      ∃ b, receiveLoop Buffer.init 0 (lateCut oneByteFrame.reply).reads =
        .threw b .indexOutOfRange :=
  ⟨late_access Buffer.init oneByteFrame.reply, late_throws Buffer.init oneByteFrame.reply⟩

end Sprefence.Arrival

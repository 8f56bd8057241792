import Sprefence.Server.Receive
import Sprefence.WebSource.Encoder

/-! The end marker of a picture, between the encoder of `web_source` and the
receive loop of `WebServer.Run`. The characters of the picture are printable, so
the NUL of the marker is the only one in the stream. -/

namespace Sprefence.EndMarker

open Blocks CBytes WebServer WebSource

/-- Printable, or above the C1 control characters. -/
def IsPrintable (c : UInt8) : Prop := (32 ≤ c ∧ c ≤ 126) ∨ (160 ≤ c ∧ c ≤ 192)

instance (c : UInt8) : Decidable (IsPrintable c) := inferInstanceAs (Decidable (_ ∨ _))

theorem isPrintable_shiftChar (c : UInt8) (hc : c < 128) : IsPrintable (shiftChar c) := by
  cases c with
  | ofBitVec c =>
    cases c with
    | ofFin c =>
      revert c
      decide +kernel

theorem IsPrintable.ne_zero {c : UInt8} (h : IsPrintable c) : c ≠ 0 := by
  rintro rfl
  revert h
  decide

/-! ## The stream -/

theorem isPrintable_encodeGroup (mem : List UInt8) (jpgLen i : Nat) :
    ∀ c ∈ encodeGroup mem jpgLen i, IsPrintable c := by
  intro c hc
  have hsize : groupSize jpgLen i ≤ 7 := by
    unfold groupSize
    split_ifs <;> omega
  rw [encodeGroup_groupLoop, List.mem_append, List.mem_singleton] at hc
  rcases hc with hdata | rfl
  · rw [groupLoop_fst, List.mem_map] at hdata
    obtain ⟨k, -, rfl⟩ := hdata
    exact isPrintable_shiftChar _ (low_lt _)
  · exact isPrintable_shiftChar _ (groupLoop_snd_lt _ _ _ hsize)

theorem isPrintable_encodeLoop (mem : List UInt8) (usedLen : Nat) :
    ∀ c ∈ encodeLoop mem usedLen, IsPrintable c := by
  intro c hc
  rw [encodeLoop_flatMap] at hc
  obtain ⟨i, -, hi⟩ := List.mem_flatMap.mp hc
  exact isPrintable_encodeGroup mem _ i c hi

/-- The stream ends with its only NUL. -/
theorem sendPicture_eq (mem : List UInt8) (usedLen : Nat) :
    ∃ chars, (0 : UInt8) ∉ chars ∧ sendPicture mem usedLen = chars ++ [0] := by
  refine ⟨encodeLoop mem usedLen ++ ascii "EndOfFile", ?_, (List.append_assoc _ _ _).symm⟩
  intro h
  rcases List.mem_append.mp h with hpicture | hmarker
  · exact (isPrintable_encodeLoop mem usedLen 0 hpicture).ne_zero rfl
  · simp [ascii] at hmarker

theorem endWord_suffix_sendPicture (mem : List UInt8) (usedLen : Nat) :
    endWord <:+ sendPicture mem usedLen := List.suffix_append _ _

/-- No shorter part of the stream ends with the marker. -/
theorem eq_of_endWord_suffix (mem : List UInt8) (usedLen : Nat) (p : List UInt8)
    (hp : p <+: sendPicture mem usedLen) (hend : endWord <:+ p) : p = sendPicture mem usedLen := by
  obtain ⟨chars, hzero, hstream⟩ := sendPicture_eq mem usedLen
  have hmem : (0 : UInt8) ∈ p := hend.subset (by simp [endWord])
  rw [hstream] at hp ⊢
  rcases List.prefix_concat_iff.mp hp with heq | hshort
  · exact heq
  · exact absurd (hshort.subset hmem) hzero

theorem length_encodeLoop_le (f : Capture) :
    (encodeLoop f.mem f.usedLen).length ≤ blockCount f.jpg.length 7 * 8 := by
  rw [encodeLoop_eq]
  refine length_flatMap_range_le _ 8 _ fun i _ => ?_
  rw [length_packGroup]
  exact Nat.succ_le_succ (List.length_take_le _ _)

/-- A picture from the frame buffer of the device fits into `m_buffer`. -/
theorem length_sendPicture_le (f : Capture) (hf : f.mem.length ≤ fSize) :
    (sendPicture f.mem f.usedLen).length ≤ bufferSize := by
  have hjpg : f.jpg.length ≤ 153600 := by
    rw [Capture.mem, List.length_append, f.yuv_length] at hf
    unfold yuvSize WebSource.fSize at hf
    omega
  have hloop := length_encodeLoop_le f
  rw [sendPicture, List.length_append]
  unfold blockCount at hloop
  unfold bufferSize
  change _ + 10 ≤ _
  omega

/-! ## The receiver -/

theorem isEnd_sendPicture (mem : List UInt8) (usedLen : Nat) (m_buffer : Buffer) (n : Nat)
    (h10 : 10 ≤ n) (hn : n ≤ (sendPicture mem usedLen).length)
    (hm : m_buffer.Holds ((sendPicture mem usedLen).take n)) :
    isEnd m_buffer n = some (decide (n = (sendPicture mem usedLen).length)) := by
  have hlen : ((sendPicture mem usedLen).take n).length = n := List.length_take_of_le hn
  have hiff : endWord <:+ (sendPicture mem usedLen).take n ↔ n = (sendPicture mem usedLen).length := by
    constructor
    · intro hend
      rw [← hlen, eq_of_endWord_suffix mem usedLen _ (List.take_prefix _ _) hend]
    · intro hall
      rw [hall, List.take_length]
      exact endWord_suffix_sendPicture mem usedLen
  have hend := isEnd_eq_some m_buffer _ hm (hlen.symm ▸ h10)
  rw [hlen] at hend
  rw [hend, decide_eq_decide.mpr hiff]

/-- The loop reads to the end of the stream. -/
theorem receiveLoop_sendPicture (mem : List UInt8) (usedLen : Nat) (m_buffer : Buffer)
    (reads : List (List UInt8)) (hcut : reads.flatten = sendPicture mem usedLen)
    (h10 : 10 ≤ (reads.headD []).length) (hfit : (sendPicture mem usedLen).length ≤ bufferSize) :
    ∃ b rest, receiveLoop m_buffer 0 reads = .done b (sendPicture mem usedLen).length rest ∧
      b.Holds (sendPicture mem usedLen) ∧ rest.flatten = [] := by
  obtain ⟨b, size, rest, hdone⟩ := (receiveLoop_done_iff m_buffer reads).mpr ⟨h10, reads.length, le_rfl,
    by rw [List.take_length, hcut]; exact hfit,
    by rw [List.take_length, hcut]; exact endWord_suffix_sendPicture mem usedLen⟩
  obtain ⟨read, rfl, -, hholds, hsize, hend⟩ := receiveLoop_done m_buffer.holds_nil reads hdone
  rw [List.nil_append] at hholds hsize hend
  rw [List.flatten_append] at hcut
  have hall := eq_of_endWord_suffix mem usedLen read.flatten ⟨rest.flatten, hcut⟩ hend
  refine ⟨b, rest, ?_, hall ▸ hholds, ?_⟩
  · rw [hdone, hsize, hall]
  · rw [hall] at hcut
    exact List.append_right_eq_self.mp hcut

/-- The characters of a picture are printable, `isEnd` finds the marker behind the
whole stream and nowhere else, and the receive loop reads exactly the stream. Every
picture from the frame buffer of the device fits into `m_buffer`. -/
theorem end_marker_unambiguous (f : Capture) :
    (∀ c ∈ encodeLoop f.mem f.usedLen, (32 ≤ c ∧ c ≤ 126) ∨ (160 ≤ c ∧ c ≤ 192)) ∧
    (∀ (m_buffer : Buffer) (n : Nat), 10 ≤ n → n ≤ (sendPicture f.mem f.usedLen).length →
      m_buffer.Holds ((sendPicture f.mem f.usedLen).take n) →
      isEnd m_buffer n = some (decide (n = (sendPicture f.mem f.usedLen).length))) ∧
    (∀ (m_buffer : Buffer) (reads : List (List UInt8)),
      reads.flatten = sendPicture f.mem f.usedLen → 10 ≤ (reads.headD []).length →
      (sendPicture f.mem f.usedLen).length ≤ bufferSize →
      ∃ b rest, receiveLoop m_buffer 0 reads = .done b (sendPicture f.mem f.usedLen).length rest ∧
        b.Holds (sendPicture f.mem f.usedLen) ∧ rest.flatten = []) ∧
    (f.mem.length ≤ fSize → (sendPicture f.mem f.usedLen).length ≤ bufferSize) :=
  ⟨isPrintable_encodeLoop f.mem f.usedLen, isEnd_sendPicture f.mem f.usedLen,
    receiveLoop_sendPicture f.mem f.usedLen, length_sendPicture_le f⟩

end Sprefence.EndMarker

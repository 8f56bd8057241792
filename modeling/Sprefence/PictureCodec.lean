import Mathlib.Data.Rat.Floor
import Sprefence.Server.Decoder
import Sprefence.WebSource.Encoder

/-! The camera picture on its way from the device to the browser: what the
decoder of `WebServer.Run` makes of the characters that `web_source` sends. -/

namespace Sprefence.PictureCodec

open Blocks WebSource Server

theorem unshiftChar_shiftChar (x : UInt8) (hx : x < 128) :
    unshiftChar (shiftChar x) = x.toBitVec.setWidth 32 := by
  cases x with
  | ofBitVec x =>
    cases x with
    | ofFin x =>
      revert x
      decide +kernel

/-- The low bits of `b` and the bit of `append` that came from `b` give `b`. -/
theorem joinBits_eq (a b : UInt8) (j : Nat) (hj : j < 7)
    (h : a.toBitVec.getLsbD (6 - j) = b.toBitVec.getLsbD 7) :
    joinBits ((0x7f &&& b).toBitVec.setWidth 32) (a.toBitVec.setWidth 32) j = b := by
  apply UInt8.eq_of_toBitVec_eq
  apply BitVec.eq_of_getLsbD_eq
  intro m hm
  have h128 : (128#32).getLsbD m = decide (m = 7) := by
    revert hm
    revert m
    decide
  have h32 : m < 32 := by omega
  simp only [joinBits, UInt8.toBitVec_ofBitVec, BitVec.getLsbD_setWidth, BitVec.getLsbD_or,
    BitVec.getLsbD_and, UInt8.toBitVec_and, BitVec.getLsbD_shiftLeft, bit_0x7f, hm, h128]
  by_cases h7 : m = 7
  · subst h7
    have hi : 7 - (j + 1) = 6 - j := by omega
    have hn : ¬ 7 < j + 1 := by omega
    have hi32 : 6 - j < 32 := by omega
    simp [hi, hn, hi32, h]
  · have hlt : m < 7 := by omega
    simp [h7, hlt, h32]

/-- A group of up to seven bytes survives packing and unpacking. -/
theorem unpackGroup_packGroup (bs : List UInt8) (hbs : bs.length ≤ 7) :
    unpackGroup (packGroup bs) = bs := by
  apply List.ext_getElem
  · simp
  intro j hj hj'
  have hlow : (packGroup bs).getD j 0 = shiftChar (0x7f &&& bs[j]) := by
    simp [packGroup, groupLoop_fst, List.getElem?_append_left, hj']
  have hhigh : (packGroup bs).getD bs.length 0 = shiftChar (groupLoop bs 0 bs.length).2 := by
    simp [packGroup, groupLoop_fst]
  have hbit : (groupLoop bs 0 bs.length).2.toBitVec.getLsbD (6 - j) = bs[j].toBitVec.getLsbD 7 := by
    have h6 : 6 - (6 - j) = j := by omega
    have h7 : 6 - j < 7 := by omega
    rw [groupLoop_snd_bit _ _ _ _ hbs, h6]
    simp [h7, hj']
  simp only [unpackGroup, List.getElem_map, List.getElem_range, length_packGroup,
    Nat.add_sub_cancel, hlow, hhigh, unshiftChar_shiftChar _ (low_lt _),
    unshiftChar_shiftChar _ (groupLoop_snd_lt _ _ _ hbs)]
  exact joinBits_eq _ _ j (by omega) hbit

/-- Whatever was received, the decoder returns whole groups of seven bytes. -/
theorem decodeLoop_length (m_buffer : List UInt8) (size : Nat) (hs : size ≤ m_buffer.length)
    (res : List UInt8) (hres : decodeLoop m_buffer size = some res) :
    res.length = 7 * blockCount (size - 10) 8 := by
  rw [decodeLoop_eq m_buffer size hs] at hres
  cases hres
  rw [length_flatMap_range _ 7, Nat.mul_comm]
  intro i hi
  have hi' := (lt_blockCount (by decide) _ _).mp hi
  simp only [length_unpackGroup, block, List.length_take, List.length_drop]
  omega

/-- Full groups only: every block of eight characters is one packed group. -/
theorem decodeLoop_full (f : Capture) (stale : List UInt8) (h7 : 7 ∣ f.jpg.length) :
    decodeLoop (sendPicture f.mem f.usedLen ++ stale) (sendPicture f.mem f.usedLen).length =
      some f.jpg := by
  obtain ⟨q, hq⟩ := h7
  have hcount : blockCount f.jpg.length 7 = q := by
    unfold blockCount
    omega
  have hgroup : ∀ i, i < q → (block f.jpg 7 i).length = 7 := by
    intro i hi
    simp only [block, List.length_take, List.length_drop]
    omega
  have hpack : ∀ i, i < q → (packGroup (block f.jpg 7 i)).length = 8 := by
    intro i hi
    rw [length_packGroup, hgroup i hi]
  have hsend : sendPicture f.mem f.usedLen =
      ((List.range q).flatMap fun i => packGroup (block f.jpg 7 i)) ++ endOfFile := by
    rw [sendPicture, encodeLoop_eq, hcount]
  have hsize : blockCount ((sendPicture f.mem f.usedLen).length - 10) 8 = q := by
    have hlen : (sendPicture f.mem f.usedLen).length = 8 * q + 10 := by
      rw [hsend, List.length_append, length_flatMap_range _ 8 q hpack, Nat.mul_comm]
      rfl
    rw [hlen]
    unfold blockCount
    omega
  rw [decodeLoop_eq _ _ (by simp), hsize, hsend, List.append_assoc]
  have hdec : (List.range q).flatMap (fun i => unpackGroup (block
      (((List.range q).flatMap fun i => packGroup (block f.jpg 7 i)) ++ (endOfFile ++ stale)) 8 i)) =
      (List.range q).flatMap (block f.jpg 7) := by
    apply List.flatMap_congr
    intro i hi
    have hi' := List.mem_range.mp hi
    rw [block_flatMap _ 8 q hpack _ i hi',
      unpackGroup_packGroup _ (by rw [hgroup i hi'])]
  rw [hdec, ← hcount, flatMap_block (by decide)]

/-- The picture comes back as it was taken exactly when its length is a
multiple of seven: the decoder does not see a shorter last group. -/
theorem picture_round_trip_iff (f : Capture) (stale : List UInt8) :
    decodeLoop (sendPicture f.mem f.usedLen ++ stale) (sendPicture f.mem f.usedLen).length =
      some f.jpg ↔ 7 ∣ f.jpg.length := by
  constructor
  · intro h
    have hlen := decodeLoop_length _ _ (by simp) _ h
    exact ⟨_, hlen⟩
  · exact decodeLoop_full f stale

/-- One JPEG byte `0xff` comes back as seven: the decoder reads the last
character of the group from inside the marker. -/
theorem one_byte_picture_not_returned :
    let f : Capture := ⟨List.replicate yuvSize 0, [0xff], List.length_replicate⟩
    decodeLoop (sendPicture f.mem f.usedLen) (sendPicture f.mem f.usedLen).length ≠
      some f.jpg := by
  intro f
  have hsend : sendPicture f.mem f.usedLen = [192, 96] ++ endOfFile := by
    rw [sendPicture, encodeLoop_eq]
    decide
  rw [hsend]
  decide

/-! ## Different pictures -/

theorem packGroup_inj {bs bs' : List UInt8} (hbs : bs.length ≤ 7) (hbs' : bs'.length ≤ 7)
    (h : packGroup bs = packGroup bs') : bs = bs' := by
  rw [← unpackGroup_packGroup bs hbs, h, unpackGroup_packGroup bs' hbs']

theorem length_encodeLoop (f : Capture) :
    (encodeLoop f.mem f.usedLen).length = f.jpg.length + blockCount f.jpg.length 7 := by
  rw [encodeLoop_eq, length_flatMap_block_succ (by decide) f.jpg packGroup length_packGroup]

/-- The number of characters tells the number of bytes, and then each group is read back. -/
theorem jpg_eq_of_encodeLoop_eq (f g : Capture)
    (h : encodeLoop f.mem f.usedLen = encodeLoop g.mem g.usedLen) : f.jpg = g.jpg := by
  have hlen : f.jpg.length = g.jpg.length := by
    have hlen := congrArg List.length h
    rw [length_encodeLoop, length_encodeLoop] at hlen
    unfold blockCount at hlen
    omega
  have hblock : ∀ i, (block f.jpg 7 i).length = (block g.jpg 7 i).length := by
    intro i
    simp only [block, List.length_take, List.length_drop, hlen]
  rw [encodeLoop_eq, encodeLoop_eq, hlen] at h
  have hgroup := flatMap_range_inj (fun i _ => by simp only [length_packGroup, hblock]) h
  rw [← flatMap_block (d := 7) (by decide) f.jpg, ← flatMap_block (d := 7) (by decide) g.jpg, hlen]
  refine List.flatMap_congr fun i hi => ?_
  exact packGroup_inj (List.length_take_le _ _) (List.length_take_le _ _)
    (hgroup i (List.mem_range.mp hi))

theorem blockCount_eq_ceil (n : Nat) : blockCount n 7 = ⌈(n : Rat) / 7⌉₊ := by
  refine eq_of_forall_ge_iff fun k => ?_
  have hk : (n : Rat) / 7 ≤ k ↔ n ≤ k * 7 := by
    rw [div_le_iff₀ (by norm_num)]
    exact_mod_cast Iff.rfl
  rw [Nat.ceil_le, hk, ← not_lt, lt_blockCount (by decide), not_lt]

/-- What the encoder loop reads, for the data behind the sub-image. -/
def reads (f : Capture) : List Nat := (encodeLoopReads f.mem f.usedLen []).2

/-- Different pictures are sent as different characters, every seven bytes cost one
more character, and the bytes of a picture are read in order: each of them for its
low bits, then again for its high bit, and no other byte at all. -/
theorem wire_format_lossless (f : Capture) :
    (∀ g : Capture, encodeLoop f.mem f.usedLen = encodeLoop g.mem g.usedLen ↔ f.jpg = g.jpg) ∧
      reads f = (List.range f.jpg.length).flatMap (fun k => [yuvSize + k, yuvSize + k]) ∧
      (encodeLoop f.mem f.usedLen).length = f.jpg.length + ⌈(f.jpg.length : Rat) / 7⌉₊ := by
  refine ⟨fun g => ⟨jpg_eq_of_encodeLoop_eq f g, fun h => ?_⟩, ?_, ?_⟩
  · rw [encodeLoop_eq, encodeLoop_eq, h]
  · rw [reads, encodeLoopReads_eq, f.usedLen_sub, readTwice, List.flatMap_map]
  · rw [length_encodeLoop, blockCount_eq_ceil]

/-- The byte of a picture of one byte is read twice. -/
theorem one_byte_read_twice :
    let f : Capture := ⟨List.replicate yuvSize 0, [0xff], List.length_replicate⟩
    ¬ ((∀ g : Capture, encodeLoop f.mem f.usedLen = encodeLoop g.mem g.usedLen ↔ f.jpg = g.jpg) ∧
      reads f = (List.range f.jpg.length).map (yuvSize + ·) ∧
      (encodeLoop f.mem f.usedLen).length = f.jpg.length + ⌈(f.jpg.length : Rat) / 7⌉₊) := by
  rintro f ⟨-, honce, -⟩
  rw [reads, encodeLoopReads_eq, f.usedLen_sub] at honce
  have hlength := congrArg List.length honce
  exact absurd hlength (by decide)

end Sprefence.PictureCodec

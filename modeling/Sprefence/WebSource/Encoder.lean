import Sprefence.Lib.Blocks
import Sprefence.Lib.Bytes

/-! The picture encoder of `web_source`. The JPEG part of the captured buffer
goes out in groups of seven bytes, each as the low seven bits of its bytes and
one character that collects their high bits; every character is moved out of
the control ranges, and the literal `EndOfFile` with its NUL closes the
picture. -/

namespace Sprefence.WebSource

open CBytes Blocks

/-- `YUVSIZE`: the QVGA sub-image in front of the JPEG data. -/
def yuvSize : Nat := 320 * 240 * 2

/-- `FSIZE`: the frame buffer handed to the driver. -/
def fSize : Nat := 320 * 240 * 2 * 2

/-- `tmp += 32; if (tmp >= 127) tmp += 33;` on an `unsigned char`. -/
def shiftChar (tmp : UInt8) : UInt8 :=
  if tmp + 32 ≥ 127 then tmp + 32 + 33 else tmp + 32

/-- A read of `mem[k]`, which is written down. -/
def readByte (mem : List UInt8) (k : Nat) : StateM (List Nat) UInt8 :=
  fun log => (mem.getD k 0, log ++ [k])

/-- The inner loop: `wbuf` and `append` after the first `j` bytes of the group
whose bytes start at `mem[start]`. Each byte is read for its low bits and once
more for its high bit. -/
def groupReads (mem : List UInt8) (start : Nat) : Nat → StateM (List Nat) (List UInt8 × UInt8)
  | 0 => pure ([], 0)
  | j + 1 => do
    let (wbuf, append) ← groupReads mem start j
    let tmp ← readByte mem (start + j)
    let high ← readByte mem (start + j)
    pure (wbuf ++ [shiftChar (0x7f &&& tmp)],
      append ||| ((0x80 &&& high) >>> UInt8.ofNat (j + 1)))

/-- One iteration of the outer loop: the bytes of one `write`. -/
def encodeGroupReads (mem : List UInt8) (jpgLen i : Nat) : StateM (List Nat) (List UInt8) := do
  let wSize := if jpgLen - i * 7 > 7 then 7 else jpgLen - i * 7
  let (wbuf, append) ← groupReads mem (i * 7 + yuvSize) wSize
  pure (wbuf ++ [shiftChar append])

/-- The outer loop for `jpgLen` bytes. -/
def encodeGroupsReads (mem : List UInt8) (jpgLen : Nat) : StateM (List Nat) (List UInt8) := do
  let groups ← (List.range (blockCount jpgLen 7)).mapM (encodeGroupReads mem jpgLen)
  pure groups.flatten

/-- The outer loop. A `usedLen` below `YUVSIZE` makes `jpgLen` negative in the
source, and the loop then runs no iteration, as it does for zero. -/
def encodeLoopReads (mem : List UInt8) (usedLen : Nat) : StateM (List Nat) (List UInt8) :=
  encodeGroupsReads mem (usedLen - yuvSize)

/-- The inner loop without its reads. -/
def groupLoop (mem : List UInt8) (start j : Nat) : List UInt8 × UInt8 := (groupReads mem start j []).1

def encodeGroup (mem : List UInt8) (jpgLen i : Nat) : List UInt8 :=
  (encodeGroupReads mem jpgLen i []).1

def encodeLoop (mem : List UInt8) (usedLen : Nat) : List UInt8 := (encodeLoopReads mem usedLen []).1

/-- `write(rwfd, "EndOfFile", 10)`: the literal with its terminating NUL. -/
def endOfFile : List UInt8 := ascii "EndOfFile" ++ [0]

/-- Everything written to the serial line for one picture. -/
def sendPicture (mem : List UInt8) (usedLen : Nat) : List UInt8 :=
  encodeLoop mem usedLen ++ endOfFile

/-- A filled frame buffer: the sub-image, then the JPEG data. -/
structure Capture where
  yuv : List UInt8
  jpg : List UInt8
  yuv_length : yuv.length = yuvSize

def Capture.mem (f : Capture) : List UInt8 := f.yuv ++ f.jpg

/-- `v4l2_buf.bytesused`. -/
def Capture.usedLen (f : Capture) : Nat := f.mem.length

@[simp] theorem Capture.usedLen_sub (f : Capture) : f.usedLen - yuvSize = f.jpg.length := by
  simp [usedLen, mem, f.yuv_length]

theorem Capture.getD_mem (f : Capture) (k : Nat) :
    f.mem.getD (k + yuvSize) 0 = f.jpg.getD k 0 := by
  simp only [mem, List.getD_eq_getElem?_getD]
  rw [List.getElem?_append_right (by rw [f.yuv_length]; omega), f.yuv_length,
    Nat.add_sub_cancel]

/-! ## Reads -/

/-- The two reads of each of the given bytes. -/
def readTwice (ks : List Nat) : List Nat := ks.flatMap fun k => [k, k]

theorem groupLoop_zero (mem : List UInt8) (start : Nat) : groupLoop mem start 0 = ([], 0) := rfl

theorem groupLoop_succ (mem : List UInt8) (start j : Nat) :
    groupLoop mem start (j + 1) =
      ((groupLoop mem start j).1 ++ [shiftChar (0x7f &&& mem.getD (start + j) 0)],
        (groupLoop mem start j).2 |||
          ((0x80 &&& mem.getD (start + j) 0) >>> UInt8.ofNat (j + 1))) := rfl

/-- The log does not matter to what the inner loop computes. -/
theorem groupReads_eq (mem : List UInt8) (start j : Nat) (log : List Nat) :
    groupReads mem start j log =
      (groupLoop mem start j, log ++ readTwice ((List.range j).map (start + ·))) := by
  induction j with
  | zero => simp [groupLoop_zero, groupReads, stateM_pure, readTwice]
  | succ j ih =>
    simp only [groupLoop_succ, groupReads, readByte, stateM_bind, stateM_pure, ih,
      List.range_succ, List.map_append, List.map_cons, List.map_nil, readTwice, List.flatMap_append,
      List.flatMap_cons, List.flatMap_nil, List.append_assoc, List.cons_append, List.nil_append]

/-- The size of the group of iteration `i`. -/
def groupSize (jpgLen i : Nat) : Nat := if jpgLen - i * 7 > 7 then 7 else jpgLen - i * 7

theorem encodeGroup_groupLoop (mem : List UInt8) (n i : Nat) :
    encodeGroup mem n i = (groupLoop mem (i * 7 + yuvSize) (groupSize n i)).1 ++
      [shiftChar (groupLoop mem (i * 7 + yuvSize) (groupSize n i)).2] := rfl

/-- A block of the indices is read by one iteration of the outer loop. -/
theorem encodeGroupReads_eq (mem : List UInt8) (n i : Nat) (log : List Nat) :
    encodeGroupReads mem n i log =
      (encodeGroup mem n i, log ++ readTwice ((block (List.range n) 7 i).map (yuvSize + ·))) := by
  have hblock : (block (List.range n) 7 i).map (yuvSize + ·) =
      (List.range (groupSize n i)).map (i * 7 + yuvSize + ·) := by
    apply List.ext_getElem
    · simp only [block, groupSize, List.length_map, List.length_take, List.length_drop,
        List.length_range]
      split <;> omega
    · intro k hk hk'
      simp only [block, List.getElem_map, List.getElem_take, List.getElem_drop, List.getElem_range]
      omega
  rw [hblock, encodeGroup_groupLoop]
  simp only [encodeGroupReads, stateM_bind, stateM_pure, groupReads_eq, groupSize]

/-- The groups of `n` bytes read them twice each, from the first to the last. -/
theorem encodeGroupsReads_eq (mem : List UInt8) (n : Nat) :
    encodeGroupsReads mem n [] =
      ((List.range (blockCount n 7)).flatMap (encodeGroup mem n),
        readTwice ((List.range n).map (yuvSize + ·))) := by
  have hgroups := mapM_log (l := List.range (blockCount n 7))
    (fun i _ => encodeGroupReads_eq mem n i) []
  have hblocks := flatMap_block (d := 7) (by decide) (List.range n)
  rw [List.length_range] at hblocks
  have hreads : (List.range (blockCount n 7)).flatMap
      (fun i => readTwice ((block (List.range n) 7 i).map (yuvSize + ·))) =
        readTwice ((List.range n).map (yuvSize + ·)) := by
    unfold readTwice
    rw [← List.flatMap_assoc, ← List.map_flatMap, hblocks]
  rw [List.nil_append, hreads] at hgroups
  simp only [encodeGroupsReads, stateM_bind, stateM_pure, hgroups, List.flatMap_def]

theorem encodeLoop_flatMap (mem : List UInt8) (usedLen : Nat) :
    encodeLoop mem usedLen =
      (List.range (blockCount (usedLen - yuvSize) 7)).flatMap
        (encodeGroup mem (usedLen - yuvSize)) := by
  rw [encodeLoop, encodeLoopReads, encodeGroupsReads_eq]

theorem encodeLoopReads_eq (mem : List UInt8) (usedLen : Nat) :
    encodeLoopReads mem usedLen [] =
      (encodeLoop mem usedLen, readTwice ((List.range (usedLen - yuvSize)).map (yuvSize + ·))) := by
  rw [encodeLoop_flatMap, encodeLoopReads, encodeGroupsReads_eq]

/-! ## Groups -/

/-- The characters sent for a group of bytes. -/
def packGroup (bs : List UInt8) : List UInt8 :=
  let (wbuf, append) := groupLoop bs 0 bs.length
  wbuf ++ [shiftChar append]

/-- The inner loop only looks at the bytes of its own group. -/
theorem groupLoop_congr (mem mem' : List UInt8) (s s' j : Nat)
    (h : ∀ k, k < j → mem.getD (s + k) 0 = mem'.getD (s' + k) 0) :
    groupLoop mem s j = groupLoop mem' s' j := by
  induction j with
  | zero => rfl
  | succ j ih =>
    simp only [groupLoop_succ, ih (fun k hk => h k (by omega)), h j (by omega)]

theorem groupLoop_fst (mem : List UInt8) (s j : Nat) :
    (groupLoop mem s j).1 =
      (List.range j).map fun k => shiftChar (0x7f &&& mem.getD (s + k) 0) := by
  induction j with
  | zero => rfl
  | succ j ih => simp [groupLoop_succ, ih, List.range_succ]

@[simp] theorem length_packGroup (bs : List UInt8) :
    (packGroup bs).length = bs.length + 1 := by
  simp [packGroup, groupLoop_fst]

/-- One iteration of the outer loop sends the next seven bytes of the JPEG
data, or what is left of them. -/
theorem encodeGroup_eq (f : Capture) (i : Nat) :
    encodeGroup f.mem f.jpg.length i = packGroup (block f.jpg 7 i) := by
  have hlen : (block f.jpg 7 i).length = groupSize f.jpg.length i := by
    simp only [block, groupSize, List.length_take, List.length_drop]
    split <;> omega
  have hgroup : groupLoop f.mem (i * 7 + yuvSize) (block f.jpg 7 i).length =
      groupLoop (block f.jpg 7 i) 0 (block f.jpg 7 i).length := by
    refine groupLoop_congr f.mem (block f.jpg 7 i) (i * 7 + yuvSize) 0 _ fun k hk => ?_
    have h7 : k < 7 := lt_of_lt_of_le hk (List.length_take_le _ _)
    rw [Nat.add_right_comm, f.getD_mem, Nat.zero_add]
    simp [block, h7, List.getElem?_drop]
  rw [encodeGroup_groupLoop, ← hlen, hgroup]
  rfl

theorem encodeLoop_eq (f : Capture) :
    encodeLoop f.mem f.usedLen =
      (List.range (blockCount f.jpg.length 7)).flatMap fun i => packGroup (block f.jpg 7 i) := by
  have hg : encodeGroup f.mem f.jpg.length = fun i => packGroup (block f.jpg 7 i) :=
    funext (encodeGroup_eq f)
  rw [encodeLoop_flatMap, Capture.usedLen_sub, hg]

/-! ## Bits -/

theorem bit_0x80 (n : Nat) : (0x80 : UInt8).toBitVec.getLsbD n = decide (n = 7) := by
  by_cases h : n < 8
  · revert h
    revert n
    decide
  · rw [BitVec.getLsbD_of_ge _ _ (by omega)]
    simp
    omega

theorem bit_0x7f (n : Nat) : (0x7f : UInt8).toBitVec.getLsbD n = decide (n < 7) := by
  by_cases h : n < 8
  · revert h
    revert n
    decide
  · rw [BitVec.getLsbD_of_ge _ _ (by omega)]
    simp
    omega

/-- `(0x80 & b) >> (j + 1)` puts the high bit of `b` at bit `6 - j`. -/
theorem highBit_shift (b : UInt8) (j m : Nat) (hj : j < 7) :
    ((0x80 &&& b) >>> UInt8.ofNat (j + 1)).toBitVec.getLsbD m =
      (decide (m + j = 6) && b.toBitVec.getLsbD 7) := by
  have hs : ((UInt8.ofNat (j + 1)).toBitVec % 8).toNat = j + 1 := by
    simp [BitVec.toNat_umod]
    omega
  rw [UInt8.toBitVec_shiftRight, BitVec.ushiftRight_eq', BitVec.getLsbD_ushiftRight, hs,
    UInt8.toBitVec_and, BitVec.getLsbD_and, bit_0x80]
  by_cases hm : m + j = 6
  · have h7 : j + 1 + m = 7 := by omega
    simp [hm, h7]
  · have h7 : ¬ j + 1 + m = 7 := by omega
    simp [hm, h7]

/-- Bit `6 - k` of `append` is the high bit of the group's byte `k`. -/
theorem groupLoop_snd_bit (mem : List UInt8) (s j m : Nat) (hj : j ≤ 7) :
    (groupLoop mem s j).2.toBitVec.getLsbD m =
      (decide (m < 7 ∧ 6 - m < j) && (mem.getD (s + (6 - m)) 0).toBitVec.getLsbD 7) := by
  induction j with
  | zero => simp [groupLoop_zero]
  | succ j ih =>
    simp only [groupLoop_succ, UInt8.toBitVec_or, BitVec.getLsbD_or, ih (by omega),
      highBit_shift _ j m (by omega)]
    by_cases hm : m + j = 6
    · have h6 : 6 - m = j := by omega
      have h7 : m < 7 := by omega
      simp [h6, h7, hm]
    · have h : (m < 7 ∧ 6 - m < j + 1) ↔ (m < 7 ∧ 6 - m < j) := by omega
      rw [decide_eq_decide.mpr h, decide_eq_false hm, Bool.false_and, Bool.or_false]

theorem low_lt (b : UInt8) : 0x7f &&& b < 128 := by
  rw [UInt8.lt_iff_toNat_lt, UInt8.toNat_and]
  exact lt_of_le_of_lt Nat.and_le_left (by decide)

theorem groupLoop_snd_lt (mem : List UInt8) (s j : Nat) (hj : j ≤ 7) :
    (groupLoop mem s j).2 < 128 := by
  rw [UInt8.lt_iff_toNat_lt]
  apply Nat.lt_pow_two_of_testBit (n := 7)
  intro m hm
  have h := groupLoop_snd_bit mem s j m hj
  rw [BitVec.getLsbD] at h
  simpa [show ¬ m < 7 by omega] using h

end Sprefence.WebSource

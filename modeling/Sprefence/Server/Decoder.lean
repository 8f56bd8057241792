import Mathlib.Data.List.GetD
import Sprefence.Lib.Blocks

/-! The picture decoder of `WebServer.Run`. The received characters lie in
`m_buffer[0 .. size - 1]`, the end marker included; an index outside the
buffer throws, which is `none` here. -/

namespace Sprefence.Server

open Blocks

/-- `m_buffer[k] - 32`, and `-= 33` from 127 on, as a 32-bit `int`. -/
def unshiftChar (c : UInt8) : BitVec 32 :=
  let byte := c.toBitVec.setWidth 32 - 32#32
  if (127#32).sle byte then byte - 33#32 else byte

/-- `(byte)(d_byte | (0b_1000_0000 & (a_byte << (j + 1))))`. -/
def joinBits (d_byte a_byte : BitVec 32) (j : Nat) : UInt8 :=
  UInt8.ofBitVec ((d_byte ||| (0b10000000#32 &&& (a_byte <<< (j + 1)))).setWidth 8)

/-- One iteration of the outer loop: the bytes added to `res`. -/
def decodeGroup (m_buffer : List UInt8) (size i : Nat) : Option (List UInt8) := do
  let len := if size - i * 8 > 8 then 8 else size - i * 8
  let a ← m_buffer[8 * i + len - 1]?
  let a_byte := unshiftChar a
  (List.range (len - 1)).mapM fun j => do
    let d ← m_buffer[8 * i + j]?
    let d_byte := unshiftChar d
    some (joinBits d_byte a_byte j)

/-- The decoder loop, which runs while `i < (size - 10) / 8.0`. -/
def decodeLoop (m_buffer : List UInt8) (size : Nat) : Option (List UInt8) := do
  let groups ← (List.range (blockCount (size - 10) 8)).mapM (decodeGroup m_buffer size)
  some groups.flatten

/-- The bytes decoded from the eight characters of a group. -/
def unpackGroup (cs : List UInt8) : List UInt8 :=
  (List.range (cs.length - 1)).map fun j =>
    joinBits (unshiftChar (cs.getD j 0)) (unshiftChar (cs.getD (cs.length - 1) 0)) j

@[simp] theorem length_unpackGroup (cs : List UInt8) :
    (unpackGroup cs).length = cs.length - 1 := by
  simp [unpackGroup]

/-- The test `len > 8` counts the ten bytes of the marker, so it succeeds in
every iteration: each group has eight characters, the last one too. -/
theorem decodeGroup_eq (m_buffer : List UInt8) (size i : Nat) (hs : size ≤ m_buffer.length)
    (hi : i < blockCount (size - 10) 8) :
    decodeGroup m_buffer size i = some (unpackGroup (block m_buffer 8 i)) := by
  have hi' := (lt_blockCount (by decide) _ _).mp hi
  have hlen : (block m_buffer 8 i).length = 8 := by
    simp only [block, List.length_take, List.length_drop]
    omega
  have hget : ∀ j, j < 8 → m_buffer[8 * i + j]? = some ((block m_buffer 8 i).getD j 0) := by
    intro j hj
    have hj' : j < (block m_buffer 8 i).length := by omega
    rw [List.getD_eq_getElem _ _ hj', ← List.getElem?_eq_getElem hj', block,
      List.getElem?_take_of_lt hj, List.getElem?_drop, Nat.mul_comm]
  have h8 : size - i * 8 > 8 := by omega
  have h7 : m_buffer[8 * i + 8 - 1]? = some ((block m_buffer 8 i).getD 7 0) := hget 7 (by decide)
  simp only [decodeGroup, if_pos h8, h7, Option.bind_eq_bind, Option.bind_some, unpackGroup, hlen]
  apply mapM_eq_some
  intro j hj
  rw [hget j (by have := List.mem_range.mp hj; omega), Option.bind_some]

theorem decodeLoop_eq (m_buffer : List UInt8) (size : Nat) (hs : size ≤ m_buffer.length) :
    decodeLoop m_buffer size =
      some ((List.range (blockCount (size - 10) 8)).flatMap fun i =>
        unpackGroup (block m_buffer 8 i)) := by
  have hg := mapM_eq_some (l := List.range (blockCount (size - 10) 8))
    (fun i hi => decodeGroup_eq m_buffer size i hs (List.mem_range.mp hi))
  simp only [decodeLoop, hg, Option.bind_eq_bind, Option.bind_some, List.flatMap_def]

end Sprefence.Server

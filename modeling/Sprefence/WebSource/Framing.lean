import Sprefence.Lib.Cuts
import Sprefence.WebSource.Recognise

/-! The serial line between the server and `web_source`. The server writes
commands one after the other without a delimiter, and a `read` of the device
returns any piece of that stream. The surroundings of an iteration depend on
the number of bytes received before it. -/

namespace Sprefence.WebSource

open CBytes Cuts Runs
open Server (Command)

/-- An iteration that reads `bytes`. -/
def stepAt (env : Nat → Env) (s : State) (bytes : List UInt8) : State :=
  step s (env s.consumed, .data bytes)

section Piece

variable (c : Command) (rest b : List UInt8) (hb : b <+: c.bytes ++ rest) (env : Env) (s : State)
include hb

end Piece

/-! ## Iterations -/

variable {env : Nat → Env}

/-- The reads from `reads` on, the first of which begins at `k`, cut the stream
that follows the place of `t`. -/
structure Position (t : State) (stream : List UInt8) (k : Nat) (reads : List (List UInt8)) :
    Prop where
  le : t.consumed ≤ k
  within : k ≤ t.consumed + stream.length
  flatten : reads.flatten = stream.drop (k - t.consumed)
  ne_nil : ∀ b ∈ reads, b ≠ []

section OneCommand

variable {t : State} {c : Command} {rest : List UInt8} {k : Nat} {reads : List (List UInt8)}

/-- How far it is from `k` to the end of the command. -/
def left (t : State) (c : Command) (k : Nat) : Nat := c.bytes.length - (k - t.consumed)

theorem Position.covers (h : Position t (c.bytes ++ rest) k reads) :
    t.consumed + c.bytes.length ≤ k + (before (left t c k) reads).flatten.length := by
  have hle := h.le
  have hw := h.within
  have hlen := congrArg List.length h.flatten
  simp only [List.length_drop, List.length_append] at hlen hw
  have hb := le_length_before (left t c k) reads (by unfold left; omega)
  unfold left at hb ⊢
  omega

/-- Behind the reads that begin in the command, the rest of the stream is cut. -/
theorem Position.next (h : Position t (c.bytes ++ rest) k reads) (t' : State)
    (ht' : t'.consumed = t.consumed + c.bytes.length) :
    Position t' rest (k + (before (left t c k) reads).flatten.length)
      (behind (left t c k) reads) := by
  have hcov := h.covers
  have hle := h.le
  have hsplit := before_append_behind (left t c k) reads
  have hlen := congrArg List.length h.flatten
  have hsum := congrArg (fun l => l.flatten.length) hsplit
  simp only [List.flatten_append, List.length_append, List.length_drop] at hlen hsum
  refine ⟨by omega, by have := h.within; simp only [List.length_append] at this; omega, ?_, ?_⟩
  · rw [flatten_behind, h.flatten, List.drop_drop, List.drop_append, List.drop_eq_nil_of_le
      (by omega), List.nil_append]
    congr 1
    omega
  · intro b hb
    refine h.ne_nil b ?_
    rw [← hsplit]
    exact List.mem_append_right _ hb

/-- At the start of a command the first read begins with it. -/
theorem Position.head (h : Position t (c.bytes ++ rest) t.consumed reads) :
    ∃ b tail, reads = b :: tail ∧ b <+: c.bytes ++ rest ∧ 1 ≤ b.length ∧
      tail.flatten = (c.bytes ++ rest).drop b.length := by
  have hflat := h.flatten
  rw [Nat.sub_self, List.drop_zero] at hflat
  cases reads with
  | nil =>
    have hpos := c.bytes_pos
    have hlen := congrArg List.length hflat
    simp only [List.flatten_nil, List.length_nil, List.length_append] at hlen
    omega
  | cons b tail =>
    rw [List.flatten_cons] at hflat
    exact ⟨b, tail, rfl, ⟨tail.flatten, hflat⟩,
      List.length_pos_of_ne_nil (h.ne_nil b List.mem_cons_self), by rw [← hflat, List.drop_left]⟩

end OneCommand

/-! ## The whole stream -/

end Sprefence.WebSource

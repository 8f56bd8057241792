import Mathlib.Data.List.Infix
import Sprefence.Lib.Bytes

/-! The receive loop of `/camera.jpg`. Each `port.Read` takes what has arrived,
possibly nothing, and `isEnd` then looks for the marker in front of the index
`size`. -/

namespace Sprefence.WebServer

open CBytes

/-- The exceptions that the code of `Run` can throw. -/
inductive Exn
  | indexOutOfRange
  | argument
  | json
  | invalidOperation
  | nullReference
  deriving DecidableEq, Repr

def bufferSize : Nat := 1024 * 1024

/-- `m_buffer`. -/
structure Buffer where
  bytes : List UInt8
  length_bytes : bytes.length = bufferSize

def Buffer.init : Buffer := ⟨List.replicate bufferSize 0, List.length_replicate⟩

/-- What a `Read` of `data` at `offset` leaves in the buffer. -/
def Buffer.write (m_buffer : Buffer) (offset : Nat) (data : List UInt8)
    (h : offset + data.length ≤ bufferSize) : Buffer where
  bytes := m_buffer.bytes.take offset ++ data ++ m_buffer.bytes.drop (offset + data.length)
  length_bytes := by
    simp only [List.length_append, List.length_take, List.length_drop, m_buffer.length_bytes]
    omega

def endWord : List UInt8 := ascii "EndOfFile" ++ [0]

/-- The loop of `isEnd` from `i` on, `word` being the rest of `endWord`; `none` is
an index outside of the buffer. -/
def isEndFrom (m_buffer : Buffer) (size : Nat) : Nat → List UInt8 → Option Bool
  | _, [] => some true
  | i, c :: word =>
    if size + i < 10 then none
    else do
      let b ← m_buffer.bytes[size + i - 10]?
      if b ≠ c then some false else isEndFrom m_buffer size (i + 1) word

def isEnd (m_buffer : Buffer) (size : Nat) : Option Bool := isEndFrom m_buffer size 0 endWord

inductive Received
  /-- The marker was found; the reads behind it have not been made. -/
  | done (m_buffer : Buffer) (size : Nat) (rest : List (List UInt8))
  /-- The loop goes on after the last of the reads. -/
  | waiting (m_buffer : Buffer) (size : Nat)
  | threw (m_buffer : Buffer) (e : Exn)

/-- The loop on what the reads find. -/
def receiveLoop (m_buffer : Buffer) (size : Nat) : List (List UInt8) → Received
  | [] => .waiting m_buffer size
  | r :: reads =>
    if h : size + r.length ≤ bufferSize then
      match isEnd (m_buffer.write size r h) (size + r.length) with
      | none => .threw (m_buffer.write size r h) .indexOutOfRange
      | some true => .done (m_buffer.write size r h) (size + r.length) reads
      | some false => receiveLoop (m_buffer.write size r h) (size + r.length) reads
    else .threw m_buffer .argument

/-! ## What the buffer holds -/

/-- The buffer starts with the bytes received so far. -/
def Buffer.Holds (m_buffer : Buffer) (received : List UInt8) : Prop := received <+: m_buffer.bytes

theorem Buffer.Holds.length_le {m_buffer : Buffer} {received : List UInt8}
    (h : m_buffer.Holds received) : received.length ≤ bufferSize :=
  m_buffer.length_bytes ▸ List.IsPrefix.length_le h

theorem Buffer.holds_nil (m_buffer : Buffer) : m_buffer.Holds [] := List.nil_prefix

theorem Buffer.Holds.write {m_buffer : Buffer} {received : List UInt8} (hm : m_buffer.Holds received)
    (r : List UInt8) (h : received.length + r.length ≤ bufferSize) :
    (m_buffer.write received.length r h).Holds (received ++ r) := by
  have htake : m_buffer.bytes.take received.length = received := (List.prefix_iff_eq_take.mp hm).symm
  refine ⟨m_buffer.bytes.drop (received.length + r.length), ?_⟩
  change _ = m_buffer.bytes.take received.length ++ r ++ _
  rw [htake]

/-- From index `i` on, `isEnd` compares the bytes in front of `size` with the rest
of the marker. -/
theorem isEndFrom_eq (m_buffer : Buffer) (size : Nat) (hs : size ≤ bufferSize) (word : List UInt8)
    (i : Nat) (hi : 10 ≤ size + i) (hw : i + word.length = 10) :
    isEndFrom m_buffer size i word =
      some (decide ((m_buffer.bytes.take size).drop (size + i - 10) = word)) := by
  induction word generalizing i with
  | nil =>
    have hnil : (m_buffer.bytes.take size).drop (size + i - 10) = [] := by
      apply List.drop_of_length_le
      rw [List.length_take]
      simp only [List.length_nil] at hw
      omega
    simp [isEndFrom, hnil]
  | cons c word ih =>
    simp only [List.length_cons] at hw
    have hlt : size + i - 10 < (m_buffer.bytes.take size).length := by
      rw [List.length_take, m_buffer.length_bytes]
      omega
    have hget : m_buffer.bytes[size + i - 10]? = some (m_buffer.bytes.take size)[size + i - 10] := by
      rw [List.getElem_take, List.getElem?_eq_getElem]
    have hnext : size + (i + 1) - 10 = size + i - 10 + 1 := by omega
    rw [isEndFrom, if_neg (by omega), hget, List.drop_eq_getElem_cons hlt]
    simp only [Option.bind_eq_bind, Option.bind_some, List.cons.injEq, Bool.decide_and]
    by_cases hc : (m_buffer.bytes.take size)[size + i - 10] = c
    · rw [if_neg (not_not.mpr hc), ih (i + 1) (by omega) (by omega), hnext, decide_eq_true hc,
        Bool.true_and]
    · rw [if_pos hc, decide_eq_false hc, Bool.false_and]

theorem length_endWord : endWord.length = 10 := rfl

/-- With fewer than ten bytes received, `isEnd` throws. -/
theorem isEnd_eq_none (m_buffer : Buffer) (size : Nat) (h : size < 10) :
    isEnd m_buffer size = none := by
  have hcons : endWord = 69 :: endWord.tail := by decide
  rw [isEnd, hcons, isEndFrom, if_pos (by omega)]

/-- Otherwise it tells whether they end with the marker. -/
theorem isEnd_eq_some (m_buffer : Buffer) (received : List UInt8) (hm : m_buffer.Holds received)
    (h : 10 ≤ received.length) :
    isEnd m_buffer received.length = some (decide (endWord <:+ received)) := by
  have htake : m_buffer.bytes.take received.length = received := (List.prefix_iff_eq_take.mp hm).symm
  rw [isEnd, isEndFrom_eq m_buffer _ hm.length_le endWord 0 (by omega) rfl, htake]
  simp only [List.suffix_iff_eq_drop, length_endWord, Nat.add_zero, eq_comm]

/-! ## The loop -/

theorem receiveLoop_short (m_buffer : Buffer) (size : Nat) (r : List UInt8) (reads : List (List UInt8))
    (h : size + r.length < 10) :
    ∃ b, receiveLoop m_buffer size (r :: reads) = .threw b .indexOutOfRange := by
  have hfit : size + r.length ≤ bufferSize := h.le.trans (by decide)
  refine ⟨m_buffer.write size r hfit, ?_⟩
  rw [receiveLoop, dif_pos hfit, isEnd_eq_none _ _ h]

theorem receiveLoop_full (m_buffer : Buffer) (size : Nat) (r : List UInt8) (reads : List (List UInt8))
    (h : bufferSize < size + r.length) :
    receiveLoop m_buffer size (r :: reads) = .threw m_buffer .argument := by
  rw [receiveLoop, dif_neg (by omega)]

/-- A read that fits and is not too short either ends the loop or is kept. -/
theorem receiveLoop_cons {m_buffer : Buffer} {received : List UInt8} (hm : m_buffer.Holds received)
    (r : List UInt8) (reads : List (List UInt8))
    (h10 : 10 ≤ (received ++ r).length) (hfit : (received ++ r).length ≤ bufferSize) :
    ∃ b : Buffer, b.Holds (received ++ r) ∧
      receiveLoop m_buffer received.length (r :: reads) =
        if endWord <:+ received ++ r then .done b (received ++ r).length reads
        else receiveLoop b (received ++ r).length reads := by
  have hlen : received.length + r.length = (received ++ r).length := List.length_append.symm
  have hfit' : received.length + r.length ≤ bufferSize := hlen ▸ hfit
  have hb := hm.write r hfit'
  refine ⟨m_buffer.write received.length r hfit', hb, ?_⟩
  rw [receiveLoop, dif_pos hfit', hlen, isEnd_eq_some _ _ hb h10]
  by_cases hend : endWord <:+ received ++ r
  · simp only [hend, decide_true, if_true]
  · simp only [hend, decide_false, if_false]

/-- When the loop ends, it has read up to a marker. -/
theorem receiveLoop_done {m_buffer : Buffer} {received : List UInt8} (hm : m_buffer.Holds received)
    (reads : List (List UInt8)) {b : Buffer} {size : Nat} {rest : List (List UInt8)}
    (h : receiveLoop m_buffer received.length reads = .done b size rest) :
    ∃ read, read ++ rest = reads ∧ 10 ≤ (received ++ read.headD []).length ∧
      b.Holds (received ++ read.flatten) ∧ size = (received ++ read.flatten).length ∧
      endWord <:+ received ++ read.flatten := by
  induction reads generalizing m_buffer received with
  | nil => cases h
  | cons r reads ih =>
    have hlen : (received ++ r).length = received.length + r.length := List.length_append
    by_cases h10 : received.length + r.length < 10
    · obtain ⟨b', hb'⟩ := receiveLoop_short m_buffer _ r reads h10
      rw [hb'] at h
      cases h
    by_cases hfit : bufferSize < received.length + r.length
    · rw [receiveLoop_full m_buffer _ r reads hfit] at h
      cases h
    obtain ⟨b', hb', hstep⟩ := receiveLoop_cons hm r reads (by omega) (by omega)
    rw [hstep] at h
    by_cases hend : endWord <:+ received ++ r
    · rw [if_pos hend] at h
      cases h
      exact ⟨[r], rfl, by simpa using h10, by simpa using hb', by simp, by simpa using hend⟩
    · rw [if_neg hend] at h
      obtain ⟨read, rfl, -, hholds, hsize, hsuffix⟩ := ih hb' h
      refine ⟨r :: read, rfl, by simpa using h10, ?_, ?_, ?_⟩
      · simpa using hholds
      · simpa using hsize
      · simpa using hsuffix

/-- A marker that fits into the buffer ends the loop, if the first read was not too
short. -/
theorem receiveLoop_of_marker {m_buffer : Buffer} {received : List UInt8} (hm : m_buffer.Holds received)
    (read rest : List (List UInt8)) (hne : read ≠ [])
    (h10 : 10 ≤ (received ++ read.headD []).length)
    (hfit : (received ++ read.flatten).length ≤ bufferSize)
    (hend : endWord <:+ received ++ read.flatten) :
    ∃ b size rest', receiveLoop m_buffer received.length (read ++ rest) = .done b size rest' := by
  induction read generalizing m_buffer received with
  | nil => exact absurd rfl hne
  | cons r read ih =>
    have hassoc : received ++ (r :: read).flatten = (received ++ r) ++ read.flatten := by simp
    rw [hassoc] at hfit hend
    have hr : (received ++ r).length ≤ bufferSize :=
      (List.prefix_append _ _).length_le.trans hfit
    obtain ⟨b', hb', hstep⟩ := receiveLoop_cons hm r (read ++ rest) h10 hr
    rw [List.cons_append, hstep]
    by_cases hnow : endWord <:+ received ++ r
    · rw [if_pos hnow]
      exact ⟨b', _, _, rfl⟩
    · rw [if_neg hnow]
      refine ih hb' ?_ ?_ hfit hend
      · rintro rfl
        exact hnow (by simpa using hend)
      · refine le_trans h10 ?_
        simp only [List.headD_cons, List.length_append]
        omega

/-- The loop ends exactly if the first read has at least ten bytes and the reads up
to some point fit into the buffer and end with the marker. -/
theorem receiveLoop_done_iff (m_buffer : Buffer) (reads : List (List UInt8)) :
    (∃ b size rest, receiveLoop m_buffer 0 reads = .done b size rest) ↔
      10 ≤ (reads.headD []).length ∧
        ∃ k ≤ reads.length, (reads.take k).flatten.length ≤ bufferSize ∧
          endWord <:+ (reads.take k).flatten := by
  constructor
  · rintro ⟨b, size, rest, h⟩
    obtain ⟨read, rfl, h10, hholds, -, hend⟩ := receiveLoop_done m_buffer.holds_nil reads h
    simp only [List.nil_append] at h10 hholds hend
    refine ⟨?_, read.length, by simp, ?_, ?_⟩
    · cases read with
      | nil => simp at h10
      | cons r read => exact h10
    · rw [List.take_left]
      exact hholds.length_le
    · rw [List.take_left]
      exact hend
  · rintro ⟨h10, k, -, hfit, hend⟩
    have hne : reads.take k ≠ [] := by
      intro h
      rw [h] at hend
      exact absurd hend.length_le (by decide)
    have hhead : (reads.take k).headD [] = reads.headD [] := by
      cases reads with
      | nil => simp
      | cons r reads =>
        cases k with
        | zero => simp at hne
        | succ k => rfl
    have hdone := receiveLoop_of_marker m_buffer.holds_nil (reads.take k) (reads.drop k) hne
      (by rw [hhead]; exact h10) hfit hend
    rwa [List.take_append_drop] at hdone

end Sprefence.WebServer

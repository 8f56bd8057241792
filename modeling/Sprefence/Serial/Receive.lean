import Mathlib.Data.Nat.Bitwise
import Sprefence.Lib.PartialRuns
import Sprefence.Serial.Driver

/-! A program that reads from `/dev/ttyACM0`, in any interleaving with the packets, the timer
and the connections of the USB bus, and for any USB controller. The bytes are delivered once and
in order, and a program that sleeps has been given all of them. The device stays open: the last
`uart_close`, which resets the semaphores, is not one of the events. -/

namespace Sprefence.Cdcacm

def inlcr : Nat := 64
def igncr : Nat := 128
def icrnl : Nat := 256

/-- The input processing of `uart_read`. The second test joins a truth value and a flag bit
by bit. -/
def inputChar (iflag : Nat) (ch : UInt8) : Option UInt8 :=
  if iflag &&& (inlcr ||| igncr ||| icrnl) ≠ 0 then
    let ch := if ch = 10 ∧ iflag &&& inlcr ≠ 0 then 13
      else if ch = 13 ∧ iflag &&& icrnl ≠ 0 then 10 else ch
    if (if ch = 13 then 1 else 0) &&& (iflag &&& igncr) ≠ 0 then none else some ch
  else some ch

/-- What a byte is read as. -/
def translate (iflag : Nat) (ch : UInt8) : UInt8 :=
  if ch = 10 ∧ iflag &&& inlcr ≠ 0 then 13
  else if ch = 13 ∧ iflag &&& icrnl ≠ 0 then 10 else ch

/-- No byte is left out, whatever the flags are. -/
theorem inputChar_eq (iflag : Nat) (ch : UInt8) :
    inputChar iflag ch = some (translate iflag ch) := by
  have hcr : ∀ b : Prop, [Decidable b] → (if b then 1 else 0) &&& (iflag &&& igncr) = 0 := by
    intro b _
    split_ifs
    · rw [Nat.and_comm, Nat.and_assoc]
      exact Nat.and_zero iflag
    · exact Nat.zero_and _
  unfold inputChar
  by_cases hflags : iflag &&& (inlcr ||| igncr ||| icrnl) = 0
  · rw [if_neg (not_not_intro hflags)]
    rw [Nat.and_or_distrib_left, Nat.and_or_distrib_left, Nat.or_eq_zero_iff,
      Nat.or_eq_zero_iff] at hflags
    simp [translate, hflags]
  · rw [if_pos hflags]
    dsimp only
    rw [if_neg (not_not_intro (hcr _))]
    rfl

/-- The arguments of a `read` and the bytes it has stored. -/
structure Call where
  buflen : Nat
  nonblock : Bool
  got : List UInt8
  deriving DecidableEq, Repr

/-- Where the program is in `uart_read`. -/
inductive Pc
  /-- The condition of the loop. -/
  | loop
  | test
  /-- Bytes were found; the local variable is `tail`. -/
  | take (tail : Nat)
  | advance (tail : Nat) (ch : UInt8)
  /-- Before the critical section. -/
  | block
  /-- Behind it, with the receive interrupt still disabled. -/
  | rearm
  | asleep
  /-- Behind the semaphore, which may have failed. -/
  | woken (failed : Bool)
  | leave (err : Option Errno)
  deriving DecidableEq, Repr

/-- The driver with a program that reads, and what has passed between them. -/
structure System where
  dev : Dev
  thread : Option (Call × Pc)
  /-- The bytes of the packets. -/
  sent : List UInt8
  /-- The lengths and the results of the reads. -/
  reads : List (Nat × Except Errno (List UInt8))

inductive Event
  | packet (bytes : List UInt8)
  | badPacket
  /-- The controller ends a request without a packet. -/
  | shutdown
  | timeout
  | disconnect
  | suspend
  | resume
  | setconfig (config : Nat)
  | signal
  | read (buflen : Nat) (nonblock : Bool)
  /-- The program goes on with its read. -/
  | run

namespace System

def init : System := ⟨.opened, none, [], []⟩

def goto (s : System) (call : Call) (pc : Pc) : System := { s with thread := some (call, pc) }

section Code

variable (ctl : Controller)

/-- One step of `uart_read`. The flags are those of the device; nobody changes them. -/
def uartRead (iflag : Nat) (s : System) (call : Call) : Pc → Option System
  | .loop => some (s.goto call (
      if call.got.length < call.buflen then
        if s.dev.disconnected then .leave (if call.got = [] then some .enotconn else none) else .test
      else .leave none))
  | .test => some (s.goto call (
      if s.dev.recv.head ≠ s.dev.recv.tail then .take s.dev.recv.tail
      else if call.got ≠ [] then .leave none
      else if call.nonblock then .leave (some .eagain)
      else .block))
  | .take tail => s.dev.recv.buffer[tail]?.map fun ch => s.goto call (.advance tail ch)
  | .advance tail ch =>
    let recv := { s.dev.recv with tail := s.dev.recv.next tail }
    let s := { s with dev := { s.dev with recv := recv } }
    match inputChar iflag ch with
    | none => some (s.goto call .loop)
    | some ch => some (s.goto { call with got := call.got ++ [ch] } .loop)
  | .block =>
    let dev := s.dev.cdcuartRxint ctl false
    if dev.recv.head = dev.recv.tail then
      let dev := dev.cdcuartRxint ctl true
      if dev.recv.head ≠ dev.recv.tail then some ({ s with dev := dev }.goto call .loop)
      else if dev.disconnected then some ({ s with dev := dev }.goto call (.woken true))
      else some ({ s with dev := { dev with recvwaiting := true } }.goto call .asleep)
    else some ({ s with dev := dev }.goto call .rearm)
  | .rearm => some ({ s with dev := s.dev.cdcuartRxint ctl true }.goto call .loop)
  | .asleep =>
    if 0 < s.dev.recvsem then
      some ({ s with dev := { s.dev with recvsem := s.dev.recvsem - 1 } }.goto call (.woken false))
    else none
  | .woken failed => some (s.goto call (
      if failed || s.dev.disconnected then
        .leave (some (if s.dev.disconnected then .enotconn else .eintr))
      else .loop))
  | .leave err =>
    let result := match err with
      | none => .ok call.got
      | some errno => .error errno
    some { s with
      dev := s.dev.cdcuartRxint ctl true
      thread := none
      reads := s.reads ++ [(call.buflen, result)] }

def step (iflag : Nat) (s : System) : Event → Option System
  | .packet bytes => some { s with
      dev := s.dev.cdcacmRdcomplete ctl (.done bytes), sent := s.sent ++ bytes }
  | .badPacket => some { s with dev := s.dev.cdcacmRdcomplete ctl .error }
  | .shutdown => some { s with dev := s.dev.cdcacmRdcomplete ctl .shutdown }
  | .timeout => some { s with dev := s.dev.cdcacmRxtimeout ctl }
  | .disconnect => some { s with dev := s.dev.cdcacmDisconnect ctl }
  | .suspend => some { s with dev := s.dev.cdcacmSuspend }
  | .resume => some { s with dev := s.dev.cdcacmResume }
  | .setconfig config => (s.dev.cdcacmSetconfig ctl config).map fun dev => { s with dev := dev }
  | .signal =>
    match s.thread with
    | some (call, .asleep) => some (s.goto call (.woken true))
    | _ => none
  | .read buflen nonblock => some (s.goto ⟨buflen, nonblock, []⟩ .loop)
  | .run => s.thread.bind fun (call, pc) => uartRead ctl iflag s call pc

/-- The program can go on: a semaphore it waits for has been posted. -/
def runnable (d : Dev) : Option (Call × Pc) → Bool
  | none => false
  | some (_, .asleep) => 0 < d.recvsem
  | some _ => true

def sleeping : Option (Call × Pc) → Bool
  | some (_, .asleep) => true
  | _ => false

/-- The endpoint needs a request for a packet, and the semaphore a post to go on; the
configuration must not meet the assertion. -/
def Allowed (s : System) : Event → Prop
  | .packet _ | .badPacket | .shutdown => 0 < s.dev.submitted
  | .timeout => s.dev.rxfailsafe = true
  | .disconnect | .suspend | .resume => True
  | .setconfig config => (s.dev.cdcacmSetconfig ctl config).isSome
  | .signal => sleeping s.thread
  | .read _ _ => s.thread = none
  | .run => runnable s.dev s.thread

instance (s : System) : DecidablePred (s.Allowed ctl)
  | .packet _ | .badPacket | .shutdown => Nat.decLt 0 s.dev.submitted
  | .timeout => inferInstanceAs (Decidable (s.dev.rxfailsafe = true))
  | .disconnect | .suspend | .resume => .isTrue trivial
  | .setconfig config => inferInstanceAs (Decidable ((s.dev.cdcacmSetconfig ctl config).isSome = true))
  | .signal => inferInstanceAs (Decidable (sleeping s.thread = true))
  | .read _ _ => inferInstanceAs (Decidable (s.thread = none))
  | .run => inferInstanceAs (Decidable (runnable s.dev s.thread = true))

end Code

/-- The bytes of a read that succeeded. -/
def bytes : Nat × Except Errno (List UInt8) → List UInt8
  | (_, .ok got) => got
  | (_, .error _) => []

/-- What holds of the driver at each place of `uart_read`. -/
def Good (d : Dev) (call : Call) : Pc → Prop
  | .loop => d.rxenabled = true ∧ call.got.length ≤ call.buflen
  | .test => d.rxenabled = true ∧ call.got.length < call.buflen
  | .take tail => d.rxenabled = true ∧ call.got.length < call.buflen ∧ tail = d.recv.tail ∧
      d.recv.contents ≠ []
  | .advance tail ch => d.rxenabled = true ∧ call.got.length < call.buflen ∧ tail = d.recv.tail ∧
      d.recv.contents.head? = some ch
  | .block => d.rxenabled = true ∧ call.got = []
  | .rearm => call.got = []
  -- no post is on its way, so the next byte will find the reader waiting
  | .asleep => d.rxenabled = true ∧ call.got = [] ∧ (d.recvsem = 0 →
      d.recvwaiting = true ∧ d.recv.contents = [] ∧ d.disconnected = false)
  | .woken _ => d.rxenabled = true ∧ call.got = []
  | .leave none => d.rxenabled = true ∧ call.got.length ≤ call.buflen ∧
      (0 < call.buflen → call.got ≠ [])
  | .leave (some _) => d.rxenabled = true ∧ call.got = []

/-- A read that succeeds has some bytes, and not more than the program asked for. -/
def Returned (r : Nat × Except Errno (List UInt8)) : Prop :=
  ∀ got, r.2 = .ok got → got.length ≤ r.1 ∧ (0 < r.1 → got ≠ [])

/-- The bytes that the running read has stored. -/
def got (s : System) : List UInt8 := (s.thread.map fun t => t.1.got).getD []

/-- The bytes that the program has been given, those of the running read included. -/
def delivered (s : System) : List UInt8 := s.reads.flatMap bytes ++ s.got

/-- What holds of the program and of the bytes on their way to it. -/
structure Flow (iflag : Nat) (s : System) : Prop where
  thread : ∀ t ∈ s.thread, Good s.dev t.1 t.2
  outside : s.thread = none → s.dev.rxenabled = true
  fifo : ∃ taken, s.sent = taken ++ (s.dev.recv.contents ++ s.dev.pending) ∧
    s.delivered = taken.map (translate iflag)
  reads : ∀ r ∈ s.reads, Returned r

/-- A read that has taken bytes makes room, which is used when it returns if not before. -/
structure Inv (iflag : Nat) (s : System) : Prop where
  dev : s.dev.Inv
  blocked : s.got = [] → s.dev.rxenabled = true → s.dev.Blocked
  flow : Flow iflag s

/-! ## The events of the bus -/

variable {ctl : Controller} {iflag : Nat}

theorem Good.released {d d' : Dev} {copied : List UInt8} (h : Dev.Released ctl d d' copied) {call : Call}
    {pc : Pc} (hg : Good d call pc) : Good d' call pc := by
  cases pc with
  | loop | test | block | woken failed =>
    exact ⟨h.rxenabled.trans hg.1, hg.2⟩
  | rearm => exact hg
  | take tail =>
    refine ⟨h.rxenabled.trans hg.1, hg.2.1, hg.2.2.1.trans h.tail.symm, ?_⟩
    rw [h.contents]
    exact List.append_ne_nil_of_left_ne_nil hg.2.2.2 _
  | advance tail ch =>
    refine ⟨h.rxenabled.trans hg.1, hg.2.1, hg.2.2.1.trans h.tail.symm, ?_⟩
    rw [h.contents, List.head?_append, hg.2.2.2]
    rfl
  | asleep =>
    refine ⟨h.rxenabled.trans hg.1, hg.2.1, fun hsem => ?_⟩
    rw [h.recvsem] at hsem
    obtain ⟨hw, hempty, hconn⟩ := hg.2.2 (by omega)
    -- a byte would have been announced by a post
    have hcopied : copied = [] := by
      cases copied with
      | nil => rfl
      | cons c cs => rw [hw] at hsem; exact absurd hsem (Nat.succ_ne_zero _)
    rw [h.recvwaiting, h.contents, h.disconnected, hw, hempty, hconn, hcopied]
    exact ⟨rfl, rfl, rfl⟩
  | leave err =>
    cases err with
    | none => exact ⟨h.rxenabled.trans hg.1, hg.2⟩
    | some e => exact ⟨h.rxenabled.trans hg.1, hg.2⟩

/-- The driver moves bytes on. -/
theorem Flow.released {s : System} (h : Flow iflag s) {d : Dev} {copied : List UInt8}
    (hrel : Dev.Released ctl s.dev d copied) (hdev : d.Inv) : Inv iflag { s with dev := d } := by
  obtain ⟨taken, hsent, hdel⟩ := h.fifo
  refine ⟨hdev, fun _ hon => hrel.full hon, fun t ht => (h.thread t ht).released hrel,
    fun ht => hrel.rxenabled.trans (h.outside ht), ⟨taken, ?_, ?_⟩, h.reads⟩
  · rw [hsent, hrel.pending, hrel.contents]
    simp only [List.append_assoc]
  · exact hdel

theorem packet_inv {s : System} (h : Inv iflag s) (packet : List UInt8) (hsub : 0 < s.dev.submitted) :
    Inv iflag { s with
      dev := s.dev.cdcacmRdcomplete ctl (.done packet), sent := s.sent ++ packet } := by
  obtain ⟨taken, hsent, hdel⟩ := h.flow.fifo
  -- the packet is pending before the driver moves any bytes on
  have hadded : Flow iflag { s with
      dev := { s.dev with
        submitted := s.dev.submitted - 1, rxpending := s.dev.rxpending ++ [Rdreq.mk packet 0] }
      sent := s.sent ++ packet } := by
    refine ⟨h.flow.thread, h.flow.outside, ⟨taken, ?_, hdel⟩, h.flow.reads⟩
    simp only [Dev.pending, hsent, List.flatMap_append, List.flatMap_singleton, Rdreq.unread,
      List.drop_zero, List.append_assoc]
  obtain ⟨copied, hrel⟩ := Dev.cdcacmReleaseRxpending_spec ctl { s.dev with
    submitted := s.dev.submitted - 1
    rxpending := s.dev.rxpending ++ [Rdreq.mk packet 0] } h.dev.valid
  exact hadded.released hrel (Dev.cdcacmRdcomplete_done_inv ctl h.dev hsub packet)

theorem timeout_inv (ctl : Controller) {s : System} (h : Inv iflag s) :
    Inv iflag { s with dev := s.dev.cdcacmRxtimeout ctl } := by
  obtain ⟨copied, hrel⟩ := Dev.cdcacmReleaseRxpending_spec ctl s.dev h.dev.valid
  exact h.flow.released hrel (Dev.cdcacmRxtimeout_inv ctl h.dev)

/-- Requests and connections come and go. -/
theorem Good.rewired {d d' : Dev} (h : d.Rewired d') {call : Call} {pc : Pc} (hg : Good d call pc) :
    Good d' call pc := by
  cases pc with
  | asleep =>
    obtain ⟨hon, hgot, hpost⟩ := hg
    refine ⟨h.rxenabled.trans hon, hgot, fun hsem => ?_⟩
    obtain ⟨hsem₀, hwait⟩ := h.roused hsem
    obtain ⟨hw, hempty, hconn⟩ := hpost hsem₀
    rw [h.recv]
    exact ⟨(hwait ⟨hw, hconn⟩).1, hempty, (hwait ⟨hw, hconn⟩).2⟩
  | loop | test | block | woken failed => exact ⟨h.rxenabled.trans hg.1, hg.2⟩
  | rearm => exact hg
  | take tail | advance tail ch =>
    obtain ⟨hon, hlen, htail, hcont⟩ := hg
    rw [← h.recv] at htail hcont
    exact ⟨h.rxenabled.trans hon, hlen, htail, hcont⟩
  | leave err =>
    cases err with
    | none => exact ⟨h.rxenabled.trans hg.1, hg.2⟩
    | some e => exact ⟨h.rxenabled.trans hg.1, hg.2⟩

theorem rewired_inv {s : System} (h : Inv iflag s) {d : Dev} (hd : s.dev.Rewired d) :
    Inv iflag { s with dev := d } := by
  obtain ⟨taken, hsent, hdel⟩ := h.flow.fifo
  refine ⟨hd.inv h.dev, fun hgot hon => ?_, fun t ht => (h.flow.thread t ht).rewired hd,
    fun ht => hd.rxenabled.trans (h.flow.outside ht), ⟨taken, ?_, hdel⟩, h.flow.reads⟩
  · have hblocked := h.blocked hgot (hd.rxenabled.symm.trans hon)
    rw [Dev.Blocked, ← hd.rxpending, ← hd.recv] at hblocked
    exact hblocked
  · rw [Dev.pending, ← hd.rxpending, ← hd.recv] at hsent
    exact hsent

/-! ## The steps of the program -/

theorem got_eq {s : System} {call : Call} {pc : Pc} (h : s.thread = some (call, pc)) :
    s.got = call.got := by
  rw [got, h]
  rfl

/-- The program goes to another place, and no bytes move. -/
theorem Flow.goto {s : System} (h : Flow iflag s) {call : Call} {pc pc' : Pc}
    (ht : s.thread = some (call, pc)) {d : Dev} (hrecv : d.recv = s.dev.recv)
    (hpending : d.rxpending = s.dev.rxpending) (hg : Good d call pc') :
    Flow iflag (System.goto { s with dev := d } call pc') := by
  refine ⟨fun t ht' => ?_, ?_, ?_, h.reads⟩
  · obtain rfl : (call, pc') = t := Option.some.inj ht'
    exact hg
  · exact fun hnone => absurd hnone (by simp [System.goto])
  · obtain ⟨taken, hsent, hdel⟩ := h.fifo
    refine ⟨taken, ?_, ?_⟩
    · show s.sent = taken ++ (d.recv.contents ++ d.rxpending.flatMap Rdreq.unread)
      rw [hrecv, hpending]
      exact hsent
    · rw [← hdel, delivered, delivered, got_eq ht]
      rfl

theorem goto_inv {s : System} (h : Inv iflag s) {call : Call} {pc pc' : Pc}
    (ht : s.thread = some (call, pc)) (hg : Good s.dev call pc') : Inv iflag (s.goto call pc') :=
  ⟨h.dev, fun hgot => h.blocked ((got_eq ht).trans hgot), h.flow.goto ht rfl rfl hg⟩

/-- The receive interrupt is enabled. -/
theorem rxint_inv (ctl : Controller) {s : System} (hdev : s.dev.Inv)
    (h : Flow iflag { s with dev := { s.dev with rxenabled := true } }) :
    Inv iflag { s with dev := s.dev.cdcuartRxint ctl true } := by
  obtain ⟨copied, hrel⟩ := Dev.cdcacmReleaseRxpending_spec ctl { s.dev with rxenabled := true } hdev.valid
  exact h.released hrel (Dev.cdcuartRxint_inv ctl hdev)

section Thread

variable {s : System} {call : Call} (h : Inv iflag s)
include h

theorem loop_inv (ht : s.thread = some (call, .loop)) :
    ∃ s', uartRead ctl iflag s call .loop = some s' ∧ Inv iflag s' := by
  obtain ⟨hon, hlen⟩ : Good s.dev call .loop := h.flow.thread _ ht
  refine ⟨_, rfl, goto_inv h ht ?_⟩
  by_cases hmore : call.got.length < call.buflen
  · rw [if_pos hmore]
    split_ifs with hconn hgot
    · exact ⟨hon, hgot⟩
    · exact ⟨hon, hlen, fun _ => hgot⟩
    · exact ⟨hon, hmore⟩
  · rw [if_neg hmore]
    refine ⟨hon, hlen, fun hpos hgot => ?_⟩
    rw [hgot] at hmore
    exact hmore hpos

theorem test_inv (ht : s.thread = some (call, .test)) :
    ∃ s', uartRead ctl iflag s call .test = some s' ∧ Inv iflag s' := by
  obtain ⟨hon, hlen⟩ : Good s.dev call .test := h.flow.thread _ ht
  refine ⟨_, rfl, goto_inv h ht ?_⟩
  split_ifs with hempty hgot hnonblock
  · exact ⟨hon, hlen, rfl, fun hnil => hempty ((CircularBuffer.contents_eq_nil_iff h.dev.valid).mp hnil)⟩
  · exact ⟨hon, Nat.le_of_lt hlen, fun _ => hgot⟩
  · exact ⟨hon, not_not.mp hgot⟩
  · exact ⟨hon, not_not.mp hgot⟩

theorem take_inv {tail : Nat} (ht : s.thread = some (call, .take tail)) :
    ∃ s', uartRead ctl iflag s call (.take tail) = some s' ∧ Inv iflag s' := by
  obtain ⟨hon, hlen, rfl, hne⟩ : Good s.dev call (.take tail) := h.flow.thread _ ht
  obtain ⟨ch, hch, hcont⟩ := CircularBuffer.contents_drop h.dev.valid
    (mt (CircularBuffer.contents_eq_nil_iff h.dev.valid).mpr hne)
  refine ⟨s.goto call (.advance s.dev.recv.tail ch), ?_, goto_inv h ht ⟨hon, hlen, rfl, ?_⟩⟩
  · rw [uartRead, hch]
    rfl
  · rw [hcont]
    rfl

theorem advance_inv {tail : Nat} {ch : UInt8} (ht : s.thread = some (call, .advance tail ch)) :
    ∃ s', uartRead ctl iflag s call (.advance tail ch) = some s' ∧ Inv iflag s' := by
  obtain ⟨hon, hlen, rfl, hhead⟩ : Good s.dev call (.advance tail ch) := h.flow.thread _ ht
  have hne : s.dev.recv.contents ≠ [] := by
    intro hnil
    rw [hnil] at hhead
    exact absurd hhead (by simp)
  obtain ⟨x, hx, hcont⟩ := CircularBuffer.contents_drop h.dev.valid
    (mt (CircularBuffer.contents_eq_nil_iff h.dev.valid).mpr hne)
  obtain rfl : x = ch := by
    rw [hcont] at hhead
    exact Option.some.inj hhead
  obtain ⟨taken, hsent, hdel⟩ := h.flow.fifo
  have hstep : uartRead ctl iflag s call (.advance s.dev.recv.tail x) = some (goto
      { s with dev := { s.dev with recv := s.dev.recv.drop } }
      { call with got := call.got ++ [translate iflag x] } .loop) := by
    rw [uartRead]
    dsimp only
    rw [inputChar_eq]
    rfl
  refine ⟨_, hstep, ⟨h.dev.valid.drop, h.dev.size, h.dev.rxfailsafe, h.dev.unread, h.dev.requests,
    h.dev.connected⟩,
    ?_, ?_, ?_, ⟨taken ++ [x], ?_, ?_⟩, h.flow.reads⟩
  · exact fun hnil => absurd hnil (by simp [got, goto])
  · intro t ht'
    obtain rfl := Option.some.inj ht'
    refine ⟨hon, ?_⟩
    rw [List.length_append]
    exact hlen
  · exact fun hnone => absurd hnone (by simp [goto])
  · rw [hsent, hcont]
    simp only [List.append_assoc, List.cons_append]
    rfl
  · show s.reads.flatMap bytes ++ (call.got ++ [translate iflag x]) =
      (taken ++ [x]).map (translate iflag)
    rw [List.map_append, ← hdel, delivered, got_eq ht, List.append_assoc]
    rfl

theorem block_inv (ht : s.thread = some (call, .block)) :
    ∃ s', uartRead ctl iflag s call .block = some s' ∧ Inv iflag s' := by
  obtain ⟨hon, hgot⟩ : Good s.dev call .block := h.flow.thread _ ht
  rw [uartRead]
  dsimp only
  rw [Dev.cdcuartRxint_off_on hon]
  split_ifs with hempty hmore hconn
  · obtain ⟨hon', -⟩ : Good (s.dev.cdcacmRxtimeout ctl) call .block := (timeout_inv ctl h).flow.thread _ ht
    refine ⟨_, rfl, goto_inv (timeout_inv ctl h) ht ⟨hon', ?_⟩⟩
    rw [hgot]
    exact Nat.zero_le _
  · obtain ⟨hon', -⟩ : Good (s.dev.cdcacmRxtimeout ctl) call .block := (timeout_inv ctl h).flow.thread _ ht
    exact ⟨_, rfl, goto_inv (timeout_inv ctl h) ht ⟨hon', hgot⟩⟩
  · -- nothing was pending either, and the next byte will find the reader waiting
    have hinv := timeout_inv ctl h
    obtain ⟨hon', -⟩ : Good (s.dev.cdcacmRxtimeout ctl) call .block := hinv.flow.thread _ ht
    refine ⟨_, rfl, ⟨hinv.dev.valid, hinv.dev.size, hinv.dev.rxfailsafe, hinv.dev.unread,
      hinv.dev.requests, hinv.dev.connected⟩, fun hnil => hinv.blocked ((got_eq ht).trans hnil),
      hinv.flow.goto ht rfl rfl ⟨hon', hgot, fun _ => ⟨rfl, ?_, ?_⟩⟩⟩
    · exact (CircularBuffer.contents_eq_nil_iff hinv.dev.valid).mpr (not_not.mp hmore)
    · exact Bool.eq_false_iff.mpr hconn
  · exact ⟨_, rfl, Dev.cdcuartRxint_off_inv ctl h.dev, fun _ hoff => absurd hoff Bool.false_ne_true,
      h.flow.goto ht rfl rfl hgot⟩

theorem rearm_inv (ht : s.thread = some (call, .rearm)) :
    ∃ s', uartRead ctl iflag s call .rearm = some s' ∧ Inv iflag s' := by
  have hgot : Good s.dev call .rearm := h.flow.thread _ ht
  refine ⟨_, rfl, rxint_inv ctl (s := s.goto call .loop) h.dev (h.flow.goto ht rfl rfl ⟨rfl, ?_⟩)⟩
  rw [hgot]
  exact Nat.zero_le _

theorem asleep_inv (ht : s.thread = some (call, .asleep)) (hsem : 0 < s.dev.recvsem) :
    ∃ s', uartRead ctl iflag s call .asleep = some s' ∧ Inv iflag s' := by
  obtain ⟨hon, hgot, -⟩ : Good s.dev call .asleep := h.flow.thread _ ht
  rw [uartRead, if_pos hsem]
  exact ⟨_, rfl, ⟨h.dev.valid, h.dev.size, h.dev.rxfailsafe, h.dev.unread, h.dev.requests,
    h.dev.connected⟩,
    fun hnil => h.blocked ((got_eq ht).trans hnil), h.flow.goto ht rfl rfl ⟨hon, hgot⟩⟩

theorem woken_inv {failed : Bool} (ht : s.thread = some (call, .woken failed)) :
    ∃ s', uartRead ctl iflag s call (.woken failed) = some s' ∧ Inv iflag s' := by
  obtain ⟨hon, hgot⟩ : Good s.dev call (.woken failed) := h.flow.thread _ ht
  refine ⟨_, rfl, goto_inv h ht ?_⟩
  split_ifs
  · exact ⟨hon, hgot⟩
  · exact ⟨hon, hgot⟩
  · refine ⟨hon, ?_⟩
    rw [hgot]
    exact Nat.zero_le _

theorem leave_inv {err : Option Errno} (ht : s.thread = some (call, .leave err)) :
    ∃ s', uartRead ctl iflag s call (.leave err) = some s' ∧ Inv iflag s' := by
  have hgood : Good s.dev call (.leave err) := h.flow.thread _ ht
  obtain ⟨taken, hsent, hdel⟩ := h.flow.fifo
  rw [delivered, got_eq ht] at hdel
  refine ⟨_, rfl, rxint_inv ctl (s := { s with thread := none, reads := _ }) h.dev ?_⟩
  refine ⟨fun t ht' => absurd ht' (by simp), fun _ => rfl, ⟨taken, hsent, ?_⟩, ?_⟩
  · rw [← hdel, delivered, List.flatMap_append, List.flatMap_singleton, List.append_assoc]
    cases err with
    | none => exact congrArg _ (List.append_nil _)
    | some errno =>
      rw [hgood.2]
      rfl
  · intro r hr
    rw [List.mem_append, List.mem_singleton] at hr
    obtain hr | rfl := hr
    · exact h.flow.reads r hr
    · cases err with
      | none =>
        rintro got hok
        obtain rfl : call.got = got := Except.ok.inj hok
        exact hgood.2
      | some errno => exact fun got hok => absurd hok (by simp)

theorem uartRead_inv {pc : Pc} (ht : s.thread = some (call, pc))
    (hrun : runnable s.dev s.thread = true) :
    ∃ s', uartRead ctl iflag s call pc = some s' ∧ Inv iflag s' := by
  cases pc with
  | loop => exact loop_inv h ht
  | test => exact test_inv h ht
  | take tail => exact take_inv h ht
  | advance tail ch => exact advance_inv h ht
  | block => exact block_inv h ht
  | rearm => exact rearm_inv h ht
  | asleep =>
    rw [ht] at hrun
    exact asleep_inv h ht (of_decide_eq_true hrun)
  | woken failed => exact woken_inv h ht
  | leave err => exact leave_inv h ht

end Thread

/-! ## Whole runs -/

theorem init_inv (iflag : Nat) : Inv iflag init where
  dev := Dev.opened_inv
  blocked := fun _ _ hne => absurd rfl hne
  flow := ⟨fun t ht => absurd ht (by simp [init]), fun _ => rfl, ⟨[], rfl, rfl⟩, fun r hr =>
    absurd hr List.not_mem_nil⟩

theorem sleeping_iff {thread : Option (Call × Pc)} :
    sleeping thread = true ↔ ∃ call, thread = some (call, .asleep) := by
  constructor
  · intro h
    unfold sleeping at h
    split at h
    · exact ⟨_, rfl⟩
    · exact absurd h Bool.false_ne_true
  · rintro ⟨call, rfl⟩
    rfl

theorem exists_of_runnable {s : System} (h : runnable s.dev s.thread = true) :
    ∃ call pc, s.thread = some (call, pc) := by
  cases ht : s.thread with
  | none =>
    rw [ht] at h
    exact absurd h Bool.false_ne_true
  | some t => exact ⟨t.1, t.2, rfl⟩

theorem step_inv {s : System} (h : Inv iflag s) {e : Event} (he : s.Allowed ctl e) :
    ∃ s', step ctl iflag s e = some s' ∧ Inv iflag s' := by
  cases e with
  | packet bytes => exact ⟨_, rfl, packet_inv h bytes he⟩
  | badPacket => exact ⟨_, rfl, rewired_inv h (Dev.cdcacmRdcomplete_error_rewired ctl he)⟩
  | shutdown => exact ⟨_, rfl, rewired_inv h (Dev.cdcacmRdcomplete_shutdown_rewired ctl he)⟩
  | timeout => exact ⟨_, rfl, timeout_inv ctl h⟩
  | disconnect => exact ⟨_, rfl, rewired_inv h (Dev.cdcacmDisconnect_rewired ctl s.dev)⟩
  | suspend => exact ⟨_, rfl, rewired_inv h (Dev.cdcacmSuspend_rewired s.dev)⟩
  | resume => exact ⟨_, rfl, rewired_inv h (Dev.cdcacmResume_rewired s.dev)⟩
  | setconfig config =>
    obtain ⟨d', hd'⟩ := Option.isSome_iff_exists.mp he
    exact ⟨_, by rw [step, hd']; rfl, rewired_inv h (Dev.cdcacmSetconfig_rewired hd')⟩
  | signal =>
    obtain ⟨call, ht⟩ := sleeping_iff.mp he
    obtain ⟨hon, hgot, -⟩ : Good s.dev call .asleep := h.flow.thread _ ht
    exact ⟨s.goto call (.woken true), by rw [step, ht], goto_inv h ht ⟨hon, hgot⟩⟩
  | read buflen nonblock =>
    have hnone : s.thread = none := he
    have hgot : s.got = [] := by rw [got, hnone]; rfl
    refine ⟨_, rfl, h.dev, fun _ => h.blocked hgot, fun t ht => ?_, ?_, ?_, h.flow.reads⟩
    · obtain rfl := Option.some.inj ht
      exact ⟨h.flow.outside hnone, Nat.zero_le _⟩
    · exact fun hnone' => absurd hnone' (by simp [goto])
    · obtain ⟨taken, hsent, hdel⟩ := h.flow.fifo
      rw [delivered, hgot] at hdel
      exact ⟨taken, hsent, hdel⟩
  | run =>
    obtain ⟨call, pc, ht⟩ := exists_of_runnable he
    obtain ⟨s', hs', hinv⟩ := uartRead_inv h ht he
    exact ⟨s', by rw [step, ht]; exact hs', hinv⟩

theorem run_inv {es : List Event} (hes : PartialRuns.Legal (step ctl iflag) (Allowed ctl) init es) :
    ∃ s, PartialRuns.run (step ctl iflag) init es = some s ∧ Inv iflag s :=
  PartialRuns.run_invariant (Inv iflag) (fun _ _ h he => step_inv h he) (init_inv iflag) hes

/-- For any controller and in any interleaving of packets, timer, connections and signals with the
reads of a program, no byte is lost, doubled or overtaken: those that the program has been given,
those in the circular buffer and those in pending packets are the bytes of all packets, in their
order. A read that succeeds returns at least one byte and at most as many as were asked for, and a
read that fails has taken none. -/
theorem reads_in_order (ctl : Controller) (iflag : Nat) (es : List Event)
    (hes : PartialRuns.Legal (step ctl iflag) (Allowed ctl) init es) :
    ∃ s, PartialRuns.run (step ctl iflag) init es = some s ∧
      (∃ taken, s.sent = taken ++ (s.dev.recv.contents ++ s.dev.pending) ∧
        s.reads.flatMap bytes ++ s.got = taken.map (translate iflag)) ∧
      ∀ n got, (n, .ok got) ∈ s.reads → got.length ≤ n ∧ (0 < n → got ≠ []) := by
  obtain ⟨s, hs, hinv⟩ := run_inv hes
  exact ⟨s, hs, hinv.flow.fifo, fun n got hr => hinv.flow.reads _ hr got rfl⟩

/-- The first byte is read while the bus is suspended and resumed, and then the cable is pulled. -/
def readAndPulled : List Event :=
  [.packet [111, 110], .read 1 false, .suspend, .resume, .run, .run, .run, .run, .run, .run,
    .disconnect, .read 256 false, .run, .run]

/-- The byte is delivered, and the other one is still in the buffer. -/
theorem reads_in_order_pulled :
    ∃ s, PartialRuns.run (step .faultless 0) init readAndPulled = some s ∧
      s.reads = [(1, .ok [111]), (256, .error .enotconn)] ∧ s.sent = [111, 110] ∧
      ∃ taken, s.sent = taken ++ (s.dev.recv.contents ++ s.dev.pending) ∧
        s.reads.flatMap bytes ++ s.got = taken.map (translate 0) := by
  obtain ⟨s, hs, hfifo, -⟩ := reads_in_order .faultless 0 readAndPulled (by decide +kernel)
  have hend : (PartialRuns.run (step .faultless 0) init readAndPulled).map
      (fun s => (s.reads, s.sent)) =
        some ([(1, .ok [111]), (256, .error .enotconn)], [111, 110]) := by decide +kernel
  rw [hs] at hend
  obtain ⟨hreads, hsent⟩ := Prod.ext_iff.mp (Option.some.inj hend)
  exact ⟨s, hs, hreads, hsent, hfifo⟩

/-- No wake-up is lost: when a program sleeps in `read` and no post is on its way to it, it has
been given every byte of every packet, nothing is pending, and the bus is connected. -/
theorem asleep_has_all (ctl : Controller) (iflag : Nat) (es : List Event)
    (hes : PartialRuns.Legal (step ctl iflag) (Allowed ctl) init es) (s : System)
    (hs : PartialRuns.run (step ctl iflag) init es = some s) (call : Call)
    (hasleep : s.thread = some (call, .asleep)) (hsem : s.dev.recvsem = 0) :
    s.reads.flatMap bytes = s.sent.map (translate iflag) ∧ s.dev.rxpending = [] ∧
      s.dev.config = Dev.configid ∧ s.dev.disconnected = false := by
  obtain ⟨t, ht, hinv⟩ := run_inv hes
  obtain rfl : t = s := Option.some.inj (ht.symm.trans hs)
  obtain ⟨hon, hgot, hpost⟩ : Good t.dev call .asleep := hinv.flow.thread _ hasleep
  obtain ⟨-, hempty, hconn⟩ := hpost hsem
  have hnil : t.got = [] := (got_eq hasleep).trans hgot
  have hpending := (hinv.blocked hnil hon).rxpending_eq_nil hinv.dev hempty
  obtain ⟨taken, hsent, hdel⟩ := hinv.flow.fifo
  rw [delivered, hnil, List.append_nil] at hdel
  rw [Dev.pending, hempty, hpending, List.flatMap_nil, List.append_nil, List.append_nil] at hsent
  refine ⟨by rw [hsent, hdel], hpending, ?_, hconn⟩
  obtain hcfg | ⟨-, hdis⟩ := hinv.dev.connected
  · exact hcfg
  · rw [hconn] at hdis
    exact absurd hdis Bool.false_ne_true

/-- A command is read, and the program reads on. -/
def readOn : List Event :=
  [.packet [111, 110], .read 256 false, .run, .run, .run, .run, .run, .run, .run, .run, .run, .run, .run,
    .read 256 false, .run, .run, .run]

theorem legal_readOn : PartialRuns.Legal (step .faultless 0) (Allowed .faultless) init readOn := by
  decide +kernel

theorem reads_readOn :
    (PartialRuns.run (step .faultless 0) init readOn).map System.reads = some [(256, .ok [111, 110])] := by
  decide +kernel

theorem asleep_has_all_command :
    ∃ s, PartialRuns.run (step .faultless 0) init readOn = some s ∧
      s.thread = some (⟨256, false, []⟩, .asleep) ∧ s.dev.recvsem = 0 ∧
      s.reads = [(256, .ok [111, 110])] ∧
      s.reads.flatMap bytes = s.sent.map (translate 0) ∧ s.dev.rxpending = [] ∧
      s.dev.config = Dev.configid ∧ s.dev.disconnected = false := by
  have hend : (PartialRuns.run (step .faultless 0) init readOn).map
      (fun s => (s.thread, s.dev.recvsem)) = some (some (⟨256, false, []⟩, .asleep), 0) := by
    decide +kernel
  obtain ⟨s, hs, hreads⟩ := Option.map_eq_some_iff.mp reads_readOn
  rw [hs] at hend
  obtain ⟨hasleep, hsem⟩ := Prod.ext_iff.mp (Option.some.inj hend)
  exact ⟨s, hs, hasleep, hsem, hreads,
    asleep_has_all .faultless 0 readOn legal_readOn s hs _ hasleep hsem⟩

/-! ## Connections -/

/-- How the driver's requests and its connection are while the program takes a step. -/
structure Kept (ctl : Controller) (d d' : Dev) : Prop where
  config : d'.config = d.config
  nrdq : d'.nrdq = d.nrdq
  wired : ctl.Working → d.Wired → d'.Wired

theorem packet_config (ctl : Controller) {d : Dev} (h : d.recv.Valid) (packet : List UInt8) :
    (d.cdcacmRdcomplete ctl (.done packet)).config = d.config ∧
      (d.cdcacmRdcomplete ctl (.done packet)).nrdq = d.nrdq := by
  obtain ⟨copied, hrel⟩ := Dev.cdcacmReleaseRxpending_spec ctl { d with
    submitted := d.submitted - 1
    rxpending := d.rxpending ++ [Rdreq.mk packet 0] } h
  exact ⟨hrel.config, hrel.nrdq⟩

theorem cdcuartRxint_kept (ctl : Controller) {d : Dev} (h : d.recv.Valid) :
    Kept ctl d (d.cdcuartRxint ctl true) := by
  obtain ⟨copied, hrel⟩ := Dev.cdcacmReleaseRxpending_spec ctl { d with rxenabled := true } h
  exact ⟨hrel.config, hrel.nrdq, hrel.wired⟩

theorem uartRead_kept {s s' : System} (h : s.dev.recv.Valid) {call : Call} {pc : Pc}
    (hs' : uartRead ctl iflag s call pc = some s') : Kept ctl s.dev s'.dev := by
  cases pc with
  | loop | test | woken failed =>
    obtain rfl := Option.some.inj hs'
    exact ⟨rfl, rfl, fun _ => id⟩
  | take tail =>
    obtain ⟨ch, -, rfl⟩ := Option.map_eq_some_iff.mp hs'
    exact ⟨rfl, rfl, fun _ => id⟩
  | advance tail ch =>
    rw [uartRead] at hs'
    dsimp only at hs'
    rw [inputChar_eq] at hs'
    obtain rfl := Option.some.inj hs'
    exact ⟨rfl, rfl, fun _ => id⟩
  | block =>
    have hrx := cdcuartRxint_kept ctl (d := s.dev.cdcuartRxint ctl false) h
    rw [uartRead] at hs'
    dsimp only at hs'
    split_ifs at hs' <;> obtain rfl := Option.some.inj hs'
    · exact ⟨hrx.config, hrx.nrdq, hrx.wired⟩
    · exact ⟨hrx.config, hrx.nrdq, hrx.wired⟩
    · exact ⟨hrx.config, hrx.nrdq, hrx.wired⟩
    · exact ⟨rfl, rfl, fun _ => id⟩
  | rearm | leave err =>
    obtain rfl := Option.some.inj hs'
    exact cdcuartRxint_kept ctl h
  | asleep =>
    rw [uartRead] at hs'
    split_ifs at hs'
    obtain rfl := Option.some.inj hs'
    exact ⟨rfl, rfl, fun _ => id⟩

theorem run_kept {s s' : System} (h : Inv iflag s) (hs' : step ctl iflag s .run = some s') :
    Kept ctl s.dev s'.dev := by
  obtain ⟨⟨call, pc⟩, ht, hstep⟩ := Option.bind_eq_some_iff.mp hs'
  exact uartRead_kept h.dev.valid hstep

theorem signal_dev {s s' : System} (hs' : step ctl iflag s .signal = some s') : s'.dev = s.dev := by
  rw [step] at hs'
  split at hs'
  · obtain rfl := Option.some.inj hs'
    rfl
  · exact absurd hs' (by simp)

/-- With a working controller the requests stay accounted for. -/
theorem step_wired (hctl : ctl.Working) {s s' : System} (h : Inv iflag s) (hw : s.dev.Wired)
    {e : Event} (he : s.Allowed ctl e) (hs' : step ctl iflag s e = some s') : s'.dev.Wired := by
  cases e with
  | packet bytes =>
    obtain rfl := Option.some.inj hs'
    exact hw.cdcacmRdcomplete hctl h.dev.valid he (.done bytes)
  | badPacket =>
    obtain rfl := Option.some.inj hs'
    exact hw.cdcacmRdcomplete hctl h.dev.valid he .error
  | shutdown =>
    obtain rfl := Option.some.inj hs'
    exact hw.cdcacmRdcomplete hctl h.dev.valid he .shutdown
  | timeout =>
    obtain ⟨copied, hrel⟩ := Dev.cdcacmReleaseRxpending_spec ctl s.dev h.dev.valid
    obtain rfl := Option.some.inj hs'
    exact hrel.wired hctl hw
  | disconnect =>
    obtain rfl := Option.some.inj hs'
    exact (hw.cdcacmDisconnect hctl).1
  | suspend =>
    obtain rfl := Option.some.inj hs'
    exact hw.cdcacmSuspend
  | resume =>
    obtain rfl := Option.some.inj hs'
    exact hw.cdcacmResume
  | setconfig config =>
    obtain ⟨d', hd', rfl⟩ := Option.map_eq_some_iff.mp hs'
    exact hw.cdcacmSetconfig hctl h.dev hd'
  | signal => exact signal_dev hs' ▸ hw
  | read buflen nonblock =>
    obtain rfl := Option.some.inj hs'
    exact hw
  | run => exact (run_kept h hs').wired hctl hw

theorem opened_wired : Dev.opened.Wired := .inl ⟨rfl, rfl, rfl⟩

theorem run_wired (hctl : ctl.Working) {es : List Event}
    (hes : PartialRuns.Legal (step ctl iflag) (Allowed ctl) init es) :
    ∃ s, PartialRuns.run (step ctl iflag) init es = some s ∧ Inv iflag s ∧ s.dev.Wired :=
  PartialRuns.run_invariant (fun s => Inv iflag s ∧ s.dev.Wired) (fun s e h he => by
    obtain ⟨s', hs', hinv⟩ := step_inv h.1 he
    exact ⟨s', hs', hinv, step_wired hctl h.1 h.2 he hs'⟩) ⟨init_inv iflag, opened_wired⟩ hes

/-- While the bus is disconnected only the end of a request changes how many are counted. -/
theorem step_disconnected {s s' : System} (h : Inv iflag s) (hoff : s.dev.config = 0) {e : Event}
    (hset : ∀ config, e ≠ .setconfig config) (hshut : e ≠ .shutdown)
    (hs' : step ctl iflag s e = some s') : s'.dev.config = 0 ∧ s'.dev.nrdq = s.dev.nrdq := by
  cases e with
  | packet bytes =>
    obtain ⟨hcfg, hnrdq⟩ := packet_config ctl h.dev.valid bytes
    obtain rfl := Option.some.inj hs'
    exact ⟨hcfg.trans hoff, hnrdq⟩
  | badPacket =>
    obtain rfl := Option.some.inj hs'
    exact ⟨hoff, rfl⟩
  | shutdown => exact absurd rfl hshut
  | timeout =>
    obtain ⟨copied, hrel⟩ := Dev.cdcacmReleaseRxpending_spec ctl s.dev h.dev.valid
    obtain rfl := Option.some.inj hs'
    exact ⟨hrel.config.trans hoff, hrel.nrdq⟩
  | disconnect =>
    obtain rfl := Option.some.inj hs'
    exact Dev.cdcacmDisconnect_off hoff
  | suspend =>
    obtain rfl := Option.some.inj hs'
    exact Dev.cdcacmSuspend_off hoff
  | resume =>
    obtain rfl := Option.some.inj hs'
    exact Dev.cdcacmResume_off hoff
  | setconfig config => exact absurd rfl (hset config)
  | signal =>
    rw [signal_dev hs']
    exact ⟨hoff, rfl⟩
  | read buflen nonblock =>
    obtain rfl := Option.some.inj hs'
    exact ⟨hoff, rfl⟩
  | run =>
    have hkept := run_kept h hs'
    exact ⟨hkept.config.trans hoff, hkept.nrdq⟩

/-- Packets are pending exactly if there are more bytes than the circular buffer can hold. -/
theorem rxpending_ne_nil_iff {s : System} (h : Inv iflag s) (hout : s.thread = none) :
    s.dev.rxpending ≠ [] ↔ 512 + (s.reads.flatMap bytes).length < s.sent.length := by
  have hgot : s.got = [] := by rw [got, hout]; rfl
  have hon := h.flow.outside hout
  obtain ⟨taken, hsent, hdel⟩ := h.flow.fifo
  rw [delivered, hgot, List.append_nil] at hdel
  rw [hsent, hdel, List.length_map, List.length_append, List.length_append]
  constructor
  · intro hne
    have hfull := h.blocked hgot hon hne
    rw [CircularBuffer.full_iff h.dev.valid, h.dev.size, Dev.rxbufsize] at hfull
    cases hp : s.dev.rxpending with
    | nil => exact absurd hp hne
    | cons rd rds =>
      have hpos := List.length_pos_iff.mpr (h.dev.unread hon rd (by rw [hp]; rfl))
      rw [Dev.pending, hp, List.flatMap_cons, List.length_append]
      omega
  · intro hlt hnil
    have hle := CircularBuffer.length_contents_lt h.dev.valid
    rw [h.dev.size, Dev.rxbufsize] at hle
    rw [Dev.pending, hnil, List.flatMap_nil, List.length_nil] at hlt
    omega

/-- The bus is disconnected while the program is outside of `read`. However the system goes on with
a controller without errors, the next connection stops the board exactly if at that time the program
was more than 512 bytes behind the packets. -/
theorem reconnect_stops_iff (ctl : Controller) (hctl : ctl.Working) (iflag : Nat) (es : List Event)
    (hes : PartialRuns.Legal (step ctl iflag) (Allowed ctl) init es) (s : System)
    (hs : PartialRuns.run (step ctl iflag) init es = some s) (hcfg : s.dev.config = Dev.configid)
    (hout : s.thread = none) (fs : List Event) (hset : ∀ config, .setconfig config ∉ fs)
    (hfs : PartialRuns.Legal (step ctl iflag) (Allowed ctl) s (.disconnect :: fs)) (t : System)
    (ht : PartialRuns.run (step ctl iflag) s (.disconnect :: fs) = some t) :
    step ctl iflag t (.setconfig Dev.configid) = none ↔
      512 + (s.reads.flatMap bytes).length < s.sent.length := by
  obtain ⟨s₀, hs₀, hinv, hw⟩ := run_wired hctl hes
  obtain rfl : s₀ = s := Option.some.inj (hs₀.symm.trans hs)
  have hstep : step ctl iflag s₀ .disconnect = some { s₀ with dev := s₀.dev.cdcacmDisconnect ctl } := rfl
  obtain ⟨hw₁, hoff₁, hnrdq₁⟩ := hw.cdcacmDisconnect hctl
  rw [PartialRuns.run_cons, hstep, Option.bind_some] at ht
  have hlegal := PartialRuns.legal_and_forall (hfs.2 _ hstep)
    (P := fun e => ∀ config, e ≠ .setconfig config) (fun e he config heq => hset config (heq ▸ he))
  obtain ⟨t₀, ht₀, -, -, hoff, hn⟩ := PartialRuns.run_invariant
    (fun u => Inv iflag u ∧ u.dev.Wired ∧ u.dev.config = 0 ∧ u.dev.nrdq = s₀.dev.rxpending.length)
    (fun u e hu he => by
      obtain ⟨u', hu', hinv'⟩ := step_inv hu.1 he.1
      have hshut : e ≠ .shutdown := by
        rintro rfl
        exact absurd he.1 (by rw [Allowed, hu.2.1.submitted_eq_zero hu.2.2.1]; decide)
      obtain ⟨hc, hq⟩ := step_disconnected hu.1 hu.2.2.1 he.2 hshut hu'
      exact ⟨u', hu', hinv', step_wired hctl hu.1 hu.2.1 he.1 hu', hc, hq.trans hu.2.2.2⟩)
    ⟨rewired_inv hinv (Dev.cdcacmDisconnect_rewired ctl s₀.dev), hw₁, hoff₁, hnrdq₁ hcfg⟩ hlegal
  obtain rfl : t₀ = t := Option.some.inj (ht₀.symm.trans ht)
  rw [← rxpending_ne_nil_iff hinv hout, step, Option.map_eq_none_iff]
  constructor
  · intro hnone hnil
    rw [hnil] at hn
    rw [Dev.cdcacmSetconfig_off hctl hoff hn] at hnone
    exact absurd hnone (by simp)
  · intro hne
    refine Dev.cdcacmSetconfig_eq_none hctl.configure hoff ?_
    rw [hn]
    exact fun hzero => hne (List.length_eq_zero_iff.mp hzero)

/-- The first packet fits, so its request goes back to the endpoint. -/
theorem legal_packets (hctl : ctl.Working) {p q : List UInt8} (hp : p.length ≤ 512) :
    PartialRuns.Legal (step ctl 0) (Allowed ctl) init [.packet p, .packet q] := by
  have hfirst : PartialRuns.Legal (step ctl 0) (Allowed ctl) init [.packet p] :=
    (PartialRuns.legal_cons rfl).mpr ⟨Nat.zero_lt_succ 3, trivial⟩
  obtain ⟨s, hs, hinv, hw⟩ := run_wired hctl hfirst
  obtain rfl := Option.some.inj hs
  obtain ⟨hcfg, hnrdq⟩ := packet_config ctl Dev.opened_inv.valid p
  have hfits := mt (rxpending_ne_nil_iff hinv rfl).mp (Nat.not_lt.mpr hp)
  refine (PartialRuns.legal_cons rfl).mpr ⟨Nat.zero_lt_succ 3, (PartialRuns.legal_cons rfl).mpr ⟨?_, trivial⟩⟩
  obtain ⟨-, -, hsub⟩ | ⟨hoff, -⟩ := hw
  · rw [not_not.mp hfits] at hsub
    exact Nat.lt_of_lt_of_eq (Nat.zero_lt_succ 3) (hnrdq.symm.trans hsub.symm)
  · exact absurd (hcfg.symm.trans hoff) (by decide)

theorem packets_config {p q : List UInt8} :
    (((Dev.opened.cdcacmRdcomplete ctl (.done p))).cdcacmRdcomplete ctl (.done q)).config =
      Dev.configid := by
  have hdev := Dev.cdcacmRdcomplete_done_inv ctl Dev.opened_inv (Nat.zero_lt_succ 3) p
  exact (packet_config ctl hdev.valid q).1.trans (packet_config ctl Dev.opened_inv.valid p).1

/-- A packet that fills the buffer, and one byte more. Nobody reads them, and the cable is pulled and
put back. -/
theorem reconnect_stops_iff_behind :
    ∃ s t, PartialRuns.run (step .faultless 0) init [.packet (List.replicate 512 0), .packet [0]] = some s ∧
      s.sent = List.replicate 512 0 ++ [0] ∧ s.reads = [] ∧
      PartialRuns.run (step .faultless 0) s [.disconnect] = some t ∧
      step .faultless 0 t (.setconfig Dev.configid) = none := by
  have hctl := Controller.faultless_working
  have hlen : (List.replicate 512 (0 : UInt8)).length = 512 := List.length_replicate
  generalize List.replicate 512 (0 : UInt8) = p at hlen ⊢
  refine ⟨_, _, rfl, rfl, rfl, rfl, (reconnect_stops_iff .faultless hctl 0 [.packet p, .packet [0]]
    (legal_packets hctl (Nat.le_of_eq hlen)) _ rfl packets_config rfl [] (by simp)
    ⟨trivial, fun _ _ => trivial⟩ _ rfl).mpr ?_⟩
  show 512 + 0 < (p ++ [0]).length
  rw [List.length_append, hlen]
  decide

end System

end Sprefence.Cdcacm

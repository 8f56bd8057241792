import Mathlib.Tactic.Common
import Sprefence.Lib.PartialRuns
import Sprefence.Serial.Sender

/-! A program that writes to `/dev/ttyACM0` and waits with `tcdrain`, in any interleaving with
the requests and the connections of the USB bus, and for any USB controller. The device stays open
and bound: the last `uart_close`, which resets the semaphores, is not one of the events. -/

namespace Sprefence.Cdcacm.Tx

open PartialRuns

/-! ## The code -/

def opost : Nat := 1
def onlcr : Nat := 4
def ocrnl : Nat := 8
def onlret : Nat := 32

/-- The output processing of `uart_write`: the characters that a byte is stored as. -/
def outputChars (oflag : Nat) (ch : UInt8) : List UInt8 :=
  if oflag &&& opost ≠ 0 then
    let ch := if ch = 13 ∧ oflag &&& ocrnl ≠ 0 then 10 else ch
    if ch = 10 ∧ oflag &&& (onlcr ||| onlret) ≠ 0 then [13, ch] else [ch]
  else [ch]

/-- What a program does before it waits for `xmitsem`. -/
def awaitRoom (ctl : Controller) (dev : Tx) : Tx :=
  let dev := { dev with xmitwaiting := true }
  dev.cdcuartTxint ctl true

/-- A call of `uart_write`. -/
structure Write where
  buffer : List UInt8
  nonblock : Bool
  /-- The number of the bytes that are done. -/
  done : Nat
  /-- The characters of the next byte that are still to be stored. -/
  chars : List UInt8
  /-- The characters that have been stored. -/
  stored : List UInt8
  deriving DecidableEq, Repr

/-- Where the program is in `uart_write` and `uart_putxmitchar`. -/
inductive Pc
  /-- Before `xmit.sem`. -/
  | start
  /-- The condition of the loop; a call of `uart_putxmitchar` begins with `nexthead`. -/
  | next
  | test (nexthead : Nat)
  | store (nexthead : Nat)
  | advance (nexthead : Nat)
  /-- Before the critical section. -/
  | block (nexthead : Nat)
  | asleep (nexthead : Nat)
  /-- Behind the critical section; waiting may have failed. -/
  | woken (nexthead : Nat) (failed : Bool)
  /-- Behind the loop. -/
  | leave (err : Option Errno)
  deriving DecidableEq, Repr

/-- Where the program is in `uart_tcdrain`. -/
inductive DrainPc
  | start
  | asleep
  /-- The test of the loop with `uart_txempty`. -/
  | poll
  /-- Its `nxsig_usleep`; behind that comes the time-out. -/
  | pause
  deriving DecidableEq, Repr

inductive Thread
  | write (call : Write) (pc : Pc)
  | drain (pc : DrainPc)
  deriving DecidableEq, Repr

/-- A call that has returned. -/
inductive Done
  | write (call : Write) (result : Except Errno Nat)
  | drain (result : Except Errno Unit)
  deriving DecidableEq

/-- The driver with a program that writes, and what has passed between them. -/
structure System where
  tx : Tx
  thread : Option Thread
  /-- The bytes that the host has got over the present connection. -/
  host : List UInt8
  log : List Done

inductive Event
  | write (buffer : List UInt8) (nonblock : Bool)
  | drain
  /-- The program goes on with its call. -/
  | run
  /-- The time of a `tcdrain` is over. -/
  | expire
  | signal
  /-- The host has got the oldest request. -/
  | complete
  /-- The oldest request has ended with an error. -/
  | fail
  | disconnect
  | setconfig (config : Nat)
  | suspend
  | resume
  deriving DecidableEq, Repr

/-- The event is one of the bus that ends or begins a connection. -/
def Event.reconfigures : Event → Bool
  | .disconnect => true
  | .setconfig _ => true
  | _ => false

/-- The event is one of the bus that changes the connection. -/
def Event.rewires : Event → Bool
  | .suspend => true
  | .resume => true
  | e => e.reconfigures

namespace System

def init : System := ⟨.opened, none, [], []⟩

def goto (s : System) (call : Write) (pc : Pc) : System := { s with thread := some (.write call pc) }

/-- The call of the program returns. -/
def finish (s : System) (done : Done) : System := { s with thread := none, log := s.log ++ [done] }

/-- The return value of `uart_write`. -/
def nwritten (call : Write) : Option Errno → Except Errno Nat
  | none => .ok call.buffer.length
  | some err => if 0 < call.done then .ok call.done else .error err

section Code

variable (ctl : Controller)

/-- One step of `uart_write`. The flags are those of the device; nobody changes them. -/
def uartWrite (oflag : Nat) (s : System) (call : Write) : Pc → Option System
  | .start =>
    if s.tx.locked then none
    else if s.tx.disconnected then some (s.finish (.write call (.error .enotconn)))
    else some ({ s with tx := { s.tx with locked := true } }.goto call .next)
  | .next =>
    let nexthead := s.tx.xmit.next s.tx.xmit.head
    if call.chars ≠ [] then some (s.goto call (.test nexthead))
    else
      match call.buffer[call.done]? with
      | none => some (s.goto call (.leave none))
      | some ch => some (s.goto { call with chars := outputChars oflag ch } (.test nexthead))
  | .test nexthead => some (s.goto call (
      if nexthead ≠ s.tx.xmit.tail then .store nexthead
      else if call.nonblock then .leave (some .eagain)
      else .block nexthead))
  | .store nexthead => call.chars.head?.map fun ch =>
      { s with tx := { s.tx with xmit := s.tx.xmit.store ch } }.goto call (.advance nexthead)
  | .advance nexthead =>
    match call.chars with
    | [] => none
    | ch :: chars =>
      let xmit := { s.tx.xmit with head := nexthead }
      some ({ s with tx := { s.tx with xmit := xmit } }.goto
        { call with
          done := if chars = [] then call.done + 1 else call.done
          chars := chars
          stored := call.stored ++ [ch] } .next)
  | .block nexthead =>
    if nexthead ≠ s.tx.xmit.tail then some (s.goto call (.woken nexthead false))
    else if s.tx.disconnected then some (s.goto call (.woken nexthead true))
    else some ({ s with tx := s.tx.awaitRoom ctl }.goto call (.asleep nexthead))
  | .asleep nexthead =>
    if 0 < s.tx.xmitsem then
      let tx := { s.tx with xmitsem := s.tx.xmitsem - 1 }
      some ({ s with tx := tx }.goto call (.woken nexthead false))
    else none
  | .woken nexthead failed => some (s.goto call (
      if s.tx.disconnected then .leave (some .enotconn)
      else if failed then .leave (some .eintr)
      else .test nexthead))
  | .leave err =>
    let tx := if s.tx.xmit.head ≠ s.tx.xmit.tail then s.tx.cdcuartTxint ctl true else s.tx
    some ({ s with tx := { tx with locked := false } }.finish (.write call (nwritten call err)))

/-- The loop of `uart_tcdrain` up to the semaphore. -/
def drainLoop (s : System) : System :=
  if s.tx.xmit.head ≠ s.tx.xmit.tail then
    { s with tx := s.tx.awaitRoom ctl, thread := some (.drain .asleep) }
  else { s with thread := some (.drain .poll) }

/-- One step of `uart_tcdrain`. -/
def uartTcdrain (s : System) : DrainPc → Option System
  | .start =>
    if s.tx.locked then none
    else if s.tx.disconnected then
      some ({ s with tx := { s.tx with xmit := s.tx.xmit.flush } }.finish (.drain (.error .enotconn)))
    else some ({ s with tx := { s.tx with locked := true } }.drainLoop ctl)
  | .asleep =>
    if 0 < s.tx.xmitsem then
      some ({ s with tx := { s.tx with xmitsem := s.tx.xmitsem - 1 } }.drainLoop ctl)
    else none
  | .poll =>
    if s.tx.cdcuartTxempty then
      some ({ s with tx := { s.tx with locked := false } }.finish (.drain (.ok ())))
    else some { s with thread := some (.drain .pause) }
  | .pause => some { s with thread := some (.drain .poll) }

/-- A signal breaks off every wait for a semaphore. -/
def interrupt (s : System) : Thread → Option System
  | .write call .start =>
    if s.tx.locked then some (s.finish (.write call (.error .eintr))) else none
  | .write call (.asleep nexthead) => some (s.goto call (.woken nexthead true))
  | .drain .start => if s.tx.locked then some (s.finish (.drain (.error .eintr))) else none
  | .drain .asleep =>
    some ({ s with tx := { s.tx with locked := false } }.finish (.drain (.error .eintr)))
  | _ => none

def step (oflag : Nat) (s : System) : Event → Option System
  | .write buffer nonblock =>
    if s.thread.isNone then some (s.goto ⟨buffer, nonblock, 0, [], []⟩ .start) else none
  | .drain => if s.thread.isNone then some { s with thread := some (.drain .start) } else none
  | .run => s.thread.bind fun
    | .write call pc => s.uartWrite ctl oflag call pc
    | .drain pc => s.uartTcdrain ctl pc
  | .expire => s.thread.bind fun
    -- xmit.sem is not given back, and uart_txempty is not asked again
    | .drain .pause => some (s.finish (.drain (.error .etimedout)))
    | _ => none
  | .signal => s.thread.bind s.interrupt
  | .complete => s.tx.submitted.head?.map fun bytes =>
      { s with tx := s.tx.cdcacmWrcomplete ctl .ok, host := s.host ++ bytes }
  | .fail => s.tx.submitted.head?.map fun _ => { s with tx := s.tx.cdcacmWrcomplete ctl .error }
  | .disconnect => some { s with tx := s.tx.cdcacmDisconnect ctl, host := [] }
  | .setconfig config => some { s with
      tx := s.tx.cdcacmSetconfig ctl config
      host := if config = s.tx.config then s.host else [] }
  | .suspend => some { s with tx := s.tx.cdcacmSuspend }
  | .resume => some { s with tx := s.tx.cdcacmResume }

end Code

end System

/-! ## What holds of the calls -/

theorem outputChars_ne_nil (oflag : Nat) (ch : UInt8) : outputChars oflag ch ≠ [] := by
  unfold outputChars
  dsimp only
  split_ifs <;> exact List.cons_ne_nil _ _

theorem outputChars_raw {oflag : Nat} (h : oflag &&& opost = 0) (ch : UInt8) :
    outputChars oflag ch = [ch] := if_neg (not_not_intro h)

/-- The characters of the bytes that are done have been stored, and some of the next byte. -/
def Write.Progress (oflag : Nat) (call : Write) : Prop :=
  ∃ part, call.stored = (call.buffer.take call.done).flatMap (outputChars oflag) ++ part ∧
    (part = [] ∧ call.chars = [] ∧ call.done ≤ call.buffer.length ∨
      call.chars ≠ [] ∧ ∃ ch, call.buffer[call.done]? = some ch ∧ outputChars oflag ch = part ++ call.chars)

/-- A character is stored. -/
theorem Write.Progress.advance {oflag : Nat} {call : Write} (h : call.Progress oflag) {ch : UInt8}
    {chars : List UInt8} (hchars : call.chars = ch :: chars) :
    Write.Progress oflag { call with
      done := if chars = [] then call.done + 1 else call.done
      chars := chars
      stored := call.stored ++ [ch] } := by
  obtain ⟨part, hstored, ⟨-, hnil, -⟩ | ⟨-, byte, hbyte, hout⟩⟩ := h
  · exact absurd (hchars.symm.trans hnil) (List.cons_ne_nil _ _)
  rw [hchars] at hout
  obtain ⟨hlt, -⟩ := List.getElem?_eq_some_iff.mp hbyte
  by_cases hlast : chars = []
  · subst hlast
    refine ⟨[], ?_, .inl ⟨rfl, rfl, ?_⟩⟩
    · dsimp only
      rw [if_pos rfl, hstored, List.take_add_one, hbyte, Option.toList_some, List.flatMap_append,
        List.flatMap_singleton, hout, List.append_assoc, List.append_nil]
    · dsimp only
      rw [if_pos rfl]
      exact hlt
  · refine ⟨part ++ [ch], ?_, .inr ⟨hlast, byte, ?_, ?_⟩⟩
    · dsimp only
      rw [if_neg hlast, hstored, List.append_assoc]
    · dsimp only
      rw [if_neg hlast, hbyte]
    · rw [hout, List.append_assoc]
      rfl

/-- A call counts the bytes that are done. -/
def Done.Returned (oflag : Nat) : Done → Prop
  | .write call (.ok n) => call.Progress oflag ∧ n = call.done
  | .write call (.error _) => call.Progress oflag ∧ call.done = 0
  | .drain _ => True

def Done.timedOut : Done := .drain (.error .etimedout)

/-- The program is behind `xmit.sem`. -/
def Thread.inside : Thread → Bool
  | .write _ .start => false
  | .drain .start => false
  | _ => true

/-- A program that sleeps has been woken, or is known to wait. -/
def Roused (d : Tx) : Prop := d.xmitsem = 0 → d.xmitwaiting = true

/-- What holds of the driver at each place of the calls. -/
def Thread.Good (d : Tx) : Thread → Prop
  | .write call .start => call.done = 0
  | .write _ .next => True
  | .write _ (.test nexthead) => nexthead < txbufsize
  | .write _ (.store nexthead) => nexthead < txbufsize
  | .write _ (.advance nexthead) => nexthead < txbufsize
  | .write _ (.block nexthead) => nexthead < txbufsize
  | .write _ (.asleep nexthead) => nexthead < txbufsize ∧ d.Roused
  | .write _ (.woken nexthead _) => nexthead < txbufsize
  | .write call (.leave none) => call.done = call.buffer.length
  | .write _ (.leave (some _)) => True
  | .drain .start => True
  | .drain .asleep => d.Roused
  | .drain .poll => d.xmit.head = d.xmit.tail
  | .drain .pause => d.xmit.head = d.xmit.tail

theorem Thread.Good.mono {d d' : Tx} {t : Thread} (h : t.Good d) (hroused : d.Roused → d'.Roused)
    (hempty : d.xmit.head = d.xmit.tail → d'.xmit.head = d'.xmit.tail) : t.Good d' := by
  cases t with
  | write call pc =>
    cases pc with
    | asleep nexthead => exact ⟨h.1, hroused h.2⟩
    | leave err => cases err <;> exact h
    | start | next | test _ | store _ | advance _ | block _ | woken _ _ => exact h
  | drain pc =>
    cases pc with
    | start => trivial
    | asleep => exact hroused h
    | poll | pause => exact hempty h

namespace System

def inside (s : System) : Bool := s.thread.any Thread.inside

/-- What holds between any two events. `xmit.sem` is taken by a call that has not returned, or by
a `tcdrain` whose time was over. -/
structure Inv (oflag : Nat) (s : System) : Prop where
  tx : s.tx.Inv
  thread : ∀ t ∈ s.thread, t.Good s.tx
  call : ∀ call pc, s.thread = some (.write call pc) → call.Progress oflag
  log : ∀ d ∈ s.log, d.Returned oflag
  locked_inside : s.inside = true → s.tx.locked = true ∧ .timedOut ∉ s.log
  locked_outside : s.inside = false → (s.tx.locked = true ↔ .timedOut ∈ s.log)

theorem init_inv (oflag : Nat) : Inv oflag init where
  tx := opened_inv
  thread := fun t ht => absurd ht (by simp [init])
  call := fun call pc ht => absurd ht (by simp [init])
  log := fun d hd => absurd hd List.not_mem_nil
  locked_inside := fun h => absurd h Bool.false_ne_true
  locked_outside := fun _ => ⟨fun h => absurd h Bool.false_ne_true, fun h => absurd h List.not_mem_nil⟩

variable {ctl : Controller} {oflag : Nat} {s : System}

/-- The driver changes on its own. -/
theorem Inv.bus (h : Inv oflag s) {d : Tx} (hd : d.Inv) (hlocked : d.locked = s.tx.locked)
    (hroused : s.tx.Roused → d.Roused)
    (hempty : s.tx.xmit.head = s.tx.xmit.tail → d.xmit.head = d.xmit.tail) (host : List UInt8) :
    Inv oflag { s with tx := d, host := host } where
  tx := hd
  thread := fun t ht => (h.thread t ht).mono hroused hempty
  call := h.call
  log := h.log
  locked_inside := fun hin => ⟨hlocked.trans (h.locked_inside hin).1, (h.locked_inside hin).2⟩
  locked_outside := fun hout => by
    show d.locked = true ↔ _
    rw [hlocked]
    exact h.locked_outside hout

/-- The program has `xmit.sem`. -/
theorem Inv.enter (h : Inv oflag s) (hlog : .timedOut ∉ s.log) {d : Tx} (hd : d.Inv)
    (hlocked : d.locked = true) {t : Thread} (ht : t.inside = true) (hgood : t.Good d)
    (hcall : ∀ call pc, t = .write call pc → call.Progress oflag) :
    Inv oflag { s with tx := d, thread := some t } where
  tx := hd
  thread := fun t' ht' => by
    obtain rfl := Option.some.inj ht'
    exact hgood
  call := fun call pc ht' => hcall call pc (Option.some.inj ht')
  log := h.log
  locked_inside := fun _ => ⟨hlocked, hlog⟩
  locked_outside := fun hout => absurd (ht.symm.trans hout) (by decide)

/-- A write goes on. -/
theorem Inv.goto (h : Inv oflag s) (hin : s.inside = true) {d : Tx} (hd : d.Inv)
    (hlocked : d.locked = s.tx.locked) {call : Write} {pc : Pc} (hpc : (Thread.write call pc).inside = true)
    (hgood : (Thread.write call pc).Good d) (hcall : call.Progress oflag) :
    Inv oflag ({ s with tx := d }.goto call pc) := by
  obtain ⟨hs, hlog⟩ := h.locked_inside hin
  refine h.enter hlog hd (hlocked.trans hs) hpc hgood fun call' pc' heq => ?_
  obtain ⟨rfl, -⟩ := Thread.write.inj heq
  exact hcall

/-- A call returns, and has given `xmit.sem` back. -/
theorem Inv.finish (h : Inv oflag s) {d : Tx} (hd : d.Inv)
    (hlocked : d.locked = true ↔ .timedOut ∈ s.log) {done : Done} (hdone : done.Returned oflag)
    (hne : done ≠ .timedOut) : Inv oflag ({ s with tx := d }.finish done) where
  tx := hd
  thread := fun t ht => absurd ht (by simp [System.finish])
  call := fun call pc ht => absurd ht (by simp [System.finish])
  log := fun d' hd' => by
    rw [System.finish, List.mem_append, List.mem_singleton] at hd'
    obtain hd' | rfl := hd'
    · exact h.log d' hd'
    · exact hdone
  locked_inside := fun hin => absurd hin Bool.false_ne_true
  locked_outside := fun _ => by
    show d.locked = true ↔ .timedOut ∈ s.log ++ [done]
    rw [hlocked, List.mem_append, List.mem_singleton]
    exact ⟨.inl, fun hor => hor.resolve_right (Ne.symm hne)⟩

/-! ## The events of the bus -/

theorem roused_sndpacket {d : Tx} (h : d.Inv) (hr : d.Roused) : (d.cdcacmSndpacket ctl).Roused := by
  rw [cdcacmSndpacket_eq ctl h]
  split_ifs with hcase
  · exact hr
  · intro hsem
    obtain ⟨hzero, hwaiting⟩ := Nat.add_eq_zero_iff.mp hsem
    rw [hr hzero] at hwaiting
    exact absurd hwaiting (by decide)

theorem sndpacket_empty {d : Tx} (h : d.Inv) (hempty : d.xmit.head = d.xmit.tail) :
    d.cdcacmSndpacket ctl = d := by
  rw [cdcacmSndpacket_eq ctl h, if_pos (.inr hempty)]

theorem sndpacket_locked {d : Tx} (h : d.Inv) : (d.cdcacmSndpacket ctl).locked = d.locked := by
  rw [cdcacmSndpacket_eq ctl h]
  split_ifs <;> rfl

theorem complete_inv (h : Inv oflag s) (hsub : s.tx.submitted ≠ []) (host : List UInt8) :
    Inv oflag { s with tx := s.tx.cdcacmWrcomplete ctl .ok, host := host } := by
  have hinv := completed_inv h.tx hsub
  refine h.bus (cdcacmSndpacket_inv ctl hinv) (sndpacket_locked hinv)
    (roused_sndpacket (d := s.tx.completed) hinv) (fun hempty => ?_) host
  rw [sndpacket_empty (d := s.tx.completed) hinv hempty]
  exact hempty

theorem fail_inv (h : Inv oflag s) (hsub : s.tx.submitted ≠ []) :
    Inv oflag { s with tx := s.tx.cdcacmWrcomplete ctl .error } :=
  h.bus (completed_inv h.tx hsub) rfl id id s.host

theorem roused_rewired {d d' : Tx} (h : d.Rewired d') (hr : d.Roused) : d'.Roused := by
  intro hsem
  obtain ⟨hsem₀, hwaiting⟩ := h.roused hsem
  exact hwaiting (hr hsem₀)

/-- A connection comes or goes. -/
theorem rewired_inv (h : Inv oflag s) {d : Tx} (hd : s.tx.Rewired d) (host : List UInt8) :
    Inv oflag { s with tx := d, host := host } := by
  refine h.bus (hd.inv h.tx) hd.locked (roused_rewired hd) ?_ host
  rw [hd.xmit]
  exact id

theorem disconnect_inv (h : Inv oflag s) (host : List UInt8) :
    Inv oflag { s with tx := s.tx.cdcacmDisconnect ctl, host := host } := by
  obtain ⟨d, hd, heq⟩ := cdcacmDisconnect_rewired ctl s.tx
  have hroused : s.tx.Roused → d.Roused := roused_rewired hd
  rw [heq]
  exact h.bus (hd.inv h.tx).reset hd.locked hroused (fun _ => rfl) host

/-! ## The steps of the program -/

theorem inside_eq {t : Thread} (ht : s.thread = some t) : s.inside = t.inside := by
  rw [inside, ht]
  rfl

theorem leave_tx {d : Tx} (h : d.Inv) :
    (if d.xmit.head ≠ d.xmit.tail then d.cdcuartTxint ctl true else d) = d.cdcacmSndpacket ctl := by
  split_ifs with hne
  · exact cdcuartTxint_eq ctl d
  · exact (sndpacket_empty h (not_not.mp hne)).symm

theorem awaitRoom_eq (ctl : Controller) (d : Tx) :
    d.awaitRoom ctl = ({ d with xmitwaiting := true } : Tx).cdcacmSndpacket ctl :=
  cdcuartTxint_eq ctl _

theorem awaitRoom_inv {d : Tx} (h : d.Inv) : (d.awaitRoom ctl).Inv := by
  rw [awaitRoom_eq]
  exact cdcacmSndpacket_inv ctl h.waiting

theorem awaitRoom_locked {d : Tx} (h : d.Inv) : (d.awaitRoom ctl).locked = d.locked := by
  rw [awaitRoom_eq]
  exact sndpacket_locked h.waiting

theorem awaitRoom_roused {d : Tx} (h : d.Inv) : (d.awaitRoom ctl).Roused := by
  rw [awaitRoom_eq]
  exact roused_sndpacket h.waiting fun _ => rfl

section Write

variable {call : Write} (h : Inv oflag s)
include h

theorem start_inv (ht : s.thread = some (.write call .start)) {s' : System}
    (hs' : s.uartWrite ctl oflag call .start = some s') : Inv oflag s' := by
  have hgood : call.done = 0 := h.thread _ ht
  have hcall := h.call _ _ ht
  have hout := h.locked_outside (inside_eq ht)
  rw [uartWrite] at hs'
  split_ifs at hs' with hlocked hdis
  · obtain rfl := Option.some.inj hs'
    exact h.finish h.tx hout ⟨hcall, hgood⟩ (by simp [Done.timedOut])
  · obtain rfl := Option.some.inj hs'
    refine h.enter (mt hout.mpr hlocked) (h.tx.locked true) rfl rfl trivial fun call' pc' heq => ?_
    obtain ⟨rfl, -⟩ := Thread.write.inj heq
    exact hcall

theorem next_inv (ht : s.thread = some (.write call .next)) {s' : System}
    (hs' : s.uartWrite ctl oflag call .next = some s') : Inv oflag s' := by
  have hcall := h.call _ _ ht
  have hlt : s.tx.xmit.next s.tx.xmit.head < txbufsize := by
    rw [← h.tx.size]
    exact CircularBuffer.next_lt h.tx.valid _
  rw [uartWrite] at hs'
  split_ifs at hs' with hchars
  · obtain rfl := Option.some.inj hs'
    exact h.goto (inside_eq ht) h.tx rfl rfl hlt hcall
  · obtain ⟨part, hstored, ⟨rfl, hnil, hle⟩ | ⟨hne, -⟩⟩ := hcall
    · cases hch : call.buffer[call.done]? with
      | none =>
        rw [hch] at hs'
        obtain rfl := Option.some.inj hs'
        refine h.goto (inside_eq ht) h.tx rfl rfl ?_ ⟨[], hstored, .inl ⟨rfl, hnil, hle⟩⟩
        exact Nat.le_antisymm hle (List.getElem?_eq_none_iff.mp hch)
      | some ch =>
        rw [hch] at hs'
        obtain rfl := Option.some.inj hs'
        exact h.goto (inside_eq ht) h.tx rfl rfl hlt
          ⟨[], hstored, .inr ⟨outputChars_ne_nil oflag ch, ch, hch, rfl⟩⟩
    · exact absurd hne hchars

theorem test_inv {nexthead : Nat} (ht : s.thread = some (.write call (.test nexthead))) {s' : System}
    (hs' : s.uartWrite ctl oflag call (.test nexthead) = some s') : Inv oflag s' := by
  have hlt : nexthead < txbufsize := h.thread _ ht
  obtain rfl := Option.some.inj hs'
  split_ifs
  · exact h.goto (inside_eq ht) h.tx rfl rfl hlt (h.call _ _ ht)
  · exact h.goto (inside_eq ht) h.tx rfl rfl trivial (h.call _ _ ht)
  · exact h.goto (inside_eq ht) h.tx rfl rfl hlt (h.call _ _ ht)

theorem store_inv {nexthead : Nat} (ht : s.thread = some (.write call (.store nexthead))) {s' : System}
    (hs' : s.uartWrite ctl oflag call (.store nexthead) = some s') : Inv oflag s' := by
  have hlt : nexthead < txbufsize := h.thread _ ht
  obtain ⟨ch, -, rfl⟩ := Option.map_eq_some_iff.mp hs'
  have hinv := h.tx.xmit (h.tx.valid.store ch) (CircularBuffer.store_size s.tx.xmit ch)
  exact h.goto (inside_eq ht) hinv rfl rfl hlt (h.call _ _ ht)

theorem advance_inv {nexthead : Nat} (ht : s.thread = some (.write call (.advance nexthead)))
    {s' : System} (hs' : s.uartWrite ctl oflag call (.advance nexthead) = some s') : Inv oflag s' := by
  have hlt : nexthead < txbufsize := h.thread _ ht
  rw [uartWrite] at hs'
  cases hchars : call.chars with
  | nil =>
    rw [hchars] at hs'
    exact absurd hs' (by simp)
  | cons ch chars =>
    rw [hchars] at hs'
    obtain rfl := Option.some.inj hs'
    have hinv : Tx.Inv { s.tx with xmit := { s.tx.xmit with head := nexthead } } :=
      h.tx.xmit ⟨Nat.lt_of_lt_of_eq hlt h.tx.size.symm, h.tx.valid.tail_lt⟩ rfl
    exact h.goto (inside_eq ht) hinv rfl rfl trivial ((h.call _ _ ht).advance hchars)

theorem block_inv {nexthead : Nat} (ht : s.thread = some (.write call (.block nexthead))) {s' : System}
    (hs' : s.uartWrite ctl oflag call (.block nexthead) = some s') : Inv oflag s' := by
  have hlt : nexthead < txbufsize := h.thread _ ht
  rw [uartWrite] at hs'
  split_ifs at hs'
  · obtain rfl := Option.some.inj hs'
    exact h.goto (inside_eq ht) h.tx rfl rfl hlt (h.call _ _ ht)
  · obtain rfl := Option.some.inj hs'
    exact h.goto (inside_eq ht) h.tx rfl rfl hlt (h.call _ _ ht)
  · obtain rfl := Option.some.inj hs'
    exact h.goto (inside_eq ht) (awaitRoom_inv h.tx) (awaitRoom_locked h.tx) rfl
      ⟨hlt, awaitRoom_roused h.tx⟩ (h.call _ _ ht)

theorem asleep_inv {nexthead : Nat} (ht : s.thread = some (.write call (.asleep nexthead)))
    {s' : System} (hs' : s.uartWrite ctl oflag call (.asleep nexthead) = some s') : Inv oflag s' := by
  obtain ⟨hlt, -⟩ : nexthead < txbufsize ∧ s.tx.Roused := h.thread _ ht
  rw [uartWrite] at hs'
  split_ifs at hs'
  obtain rfl := Option.some.inj hs'
  exact h.goto (inside_eq ht) (h.tx.xmitsem (s.tx.xmitsem - 1)) rfl rfl hlt (h.call _ _ ht)

theorem woken_inv {nexthead : Nat} {failed : Bool}
    (ht : s.thread = some (.write call (.woken nexthead failed))) {s' : System}
    (hs' : s.uartWrite ctl oflag call (.woken nexthead failed) = some s') : Inv oflag s' := by
  have hlt : nexthead < txbufsize := h.thread _ ht
  obtain rfl := Option.some.inj hs'
  split_ifs
  · exact h.goto (inside_eq ht) h.tx rfl rfl trivial (h.call _ _ ht)
  · exact h.goto (inside_eq ht) h.tx rfl rfl trivial (h.call _ _ ht)
  · exact h.goto (inside_eq ht) h.tx rfl rfl hlt (h.call _ _ ht)

theorem leave_inv {err : Option Errno} (ht : s.thread = some (.write call (.leave err))) {s' : System}
    (hs' : s.uartWrite ctl oflag call (.leave err) = some s') : Inv oflag s' := by
  have hgood : (Thread.write call (.leave err)).Good s.tx := h.thread _ ht
  have hcall := h.call _ _ ht
  have hlog := (h.locked_inside (inside_eq ht)).2
  rw [uartWrite, leave_tx h.tx] at hs'
  obtain rfl := Option.some.inj hs'
  refine h.finish ((cdcacmSndpacket_inv ctl h.tx).locked false) ?_ ?_ (by simp [Done.timedOut])
  · exact ⟨fun hfalse => absurd hfalse Bool.false_ne_true, fun hmem => absurd hmem hlog⟩
  · cases err with
    | none => exact ⟨hcall, hgood.symm⟩
    | some err =>
      rw [nwritten]
      split_ifs with hpos
      · exact ⟨hcall, rfl⟩
      · exact ⟨hcall, Nat.eq_zero_of_not_pos hpos⟩

theorem uartWrite_inv {pc : Pc} (ht : s.thread = some (.write call pc)) {s' : System}
    (hs' : s.uartWrite ctl oflag call pc = some s') : Inv oflag s' := by
  cases pc with
  | start => exact start_inv h ht hs'
  | next => exact next_inv h ht hs'
  | test nexthead => exact test_inv h ht hs'
  | store nexthead => exact store_inv h ht hs'
  | advance nexthead => exact advance_inv h ht hs'
  | block nexthead => exact block_inv h ht hs'
  | asleep nexthead => exact asleep_inv h ht hs'
  | woken nexthead failed => exact woken_inv h ht hs'
  | leave err => exact leave_inv h ht hs'

end Write

theorem drainLoop_inv (h : Inv oflag s) (hlog : .timedOut ∉ s.log) {d : Tx} (hd : d.Inv)
    (hlocked : d.locked = true) : Inv oflag (drainLoop ctl { s with tx := d }) := by
  unfold drainLoop
  split_ifs with hne
  · exact h.enter hlog (awaitRoom_inv hd) ((awaitRoom_locked hd).trans hlocked) rfl
      (awaitRoom_roused hd) (fun _ _ heq => by simp at heq)
  · exact h.enter hlog hd hlocked rfl (not_not.mp hne) (fun _ _ heq => by simp at heq)

/-- The loop with `uart_txempty` goes on. -/
theorem polling_inv (h : Inv oflag s) {pc pc' : DrainPc} (ht : s.thread = some (.drain pc))
    (hpc' : (Thread.drain pc').inside = (Thread.drain pc).inside) (hgood : (Thread.drain pc').Good s.tx) :
    Inv oflag { s with thread := some (.drain pc') } where
  tx := h.tx
  thread := fun t ht' => by
    obtain rfl := Option.some.inj ht'
    exact hgood
  call := fun call pc ht' => absurd ht' (by simp)
  log := h.log
  locked_inside := fun hin => h.locked_inside ((inside_eq ht).trans (hpc'.symm.trans hin))
  locked_outside := fun hout => h.locked_outside ((inside_eq ht).trans (hpc'.symm.trans hout))

theorem uartTcdrain_inv (h : Inv oflag s) {pc : DrainPc} (ht : s.thread = some (.drain pc))
    {s' : System} (hs' : s.uartTcdrain ctl pc = some s') : Inv oflag s' := by
  cases pc with
  | start =>
    have hout := h.locked_outside (inside_eq ht)
    rw [uartTcdrain] at hs'
    split_ifs at hs' with hlocked hdis
    · obtain rfl := Option.some.inj hs'
      exact h.finish (h.tx.xmit h.tx.valid.flush rfl) hout trivial (by simp [Done.timedOut])
    · obtain rfl := Option.some.inj hs'
      exact drainLoop_inv h (mt hout.mpr hlocked) (h.tx.locked true) rfl
  | asleep =>
    obtain ⟨hlocked, hlog⟩ := h.locked_inside (inside_eq ht)
    rw [uartTcdrain] at hs'
    split_ifs at hs'
    obtain rfl := Option.some.inj hs'
    exact drainLoop_inv h hlog (h.tx.xmitsem _) hlocked
  | poll =>
    obtain ⟨-, hlog⟩ := h.locked_inside (inside_eq ht)
    have hring : s.tx.xmit.head = s.tx.xmit.tail := h.thread _ ht
    rw [uartTcdrain] at hs'
    split_ifs at hs'
    · obtain rfl := Option.some.inj hs'
      refine h.finish (h.tx.locked false) ?_ trivial (by simp [Done.timedOut])
      exact ⟨fun hfalse => absurd hfalse Bool.false_ne_true, fun hmem => absurd hmem hlog⟩
    · obtain rfl := Option.some.inj hs'
      exact polling_inv h ht rfl hring
  | pause =>
    have hring : s.tx.xmit.head = s.tx.xmit.tail := h.thread _ ht
    obtain rfl := Option.some.inj hs'
    exact polling_inv h ht rfl hring

theorem interrupt_inv (h : Inv oflag s) {t : Thread} (ht : s.thread = some t) {s' : System}
    (hs' : s.interrupt t = some s') : Inv oflag s' := by
  cases t with
  | write call pc =>
    cases pc with
    | start =>
      have hgood : call.done = 0 := h.thread _ ht
      rw [interrupt] at hs'
      split_ifs at hs'
      obtain rfl := Option.some.inj hs'
      exact h.finish h.tx (h.locked_outside (inside_eq ht)) ⟨h.call _ _ ht, hgood⟩
        (by simp [Done.timedOut])
    | asleep nexthead =>
      obtain ⟨hlt, -⟩ : nexthead < txbufsize ∧ s.tx.Roused := h.thread _ ht
      obtain rfl := Option.some.inj hs'
      exact h.goto (inside_eq ht) h.tx rfl rfl hlt (h.call _ _ ht)
    | next | test _ | store _ | advance _ | block _ | woken _ _ | leave _ => exact absurd hs' (by simp [interrupt])
  | drain pc =>
    cases pc with
    | start =>
      rw [interrupt] at hs'
      split_ifs at hs'
      obtain rfl := Option.some.inj hs'
      exact h.finish h.tx (h.locked_outside (inside_eq ht)) trivial (by simp [Done.timedOut])
    | asleep =>
      obtain ⟨-, hlog⟩ := h.locked_inside (inside_eq ht)
      obtain rfl := Option.some.inj hs'
      refine h.finish (h.tx.locked false) ?_ trivial (by simp [Done.timedOut])
      exact ⟨fun hfalse => absurd hfalse Bool.false_ne_true, fun hmem => absurd hmem hlog⟩
    | poll | pause => exact absurd hs' (by simp [interrupt])

/-- The time of a `tcdrain` is over, and it keeps `xmit.sem`. -/
theorem expire_inv (h : Inv oflag s) (ht : s.thread = some (.drain .pause)) :
    Inv oflag (s.finish .timedOut) where
  tx := h.tx
  thread := fun t ht => absurd ht (by simp [System.finish])
  call := fun call pc ht => absurd ht (by simp [System.finish])
  log := fun d hd => by
    rw [System.finish, List.mem_append, List.mem_singleton] at hd
    obtain hd | rfl := hd
    · exact h.log d hd
    · trivial
  locked_inside := fun hin => absurd hin Bool.false_ne_true
  locked_outside := fun _ =>
    ⟨fun _ => List.mem_append_right _ (List.mem_singleton.mpr rfl),
      fun _ => (h.locked_inside (inside_eq ht)).1⟩

/-- A call begins. -/
theorem begin_inv (h : Inv oflag s) (hnone : s.thread = none) {t : Thread} (ht : t.inside = false)
    (hgood : t.Good s.tx) (hcall : ∀ call pc, t = .write call pc → call.Progress oflag) :
    Inv oflag { s with thread := some t } where
  tx := h.tx
  thread := fun t' ht' => by
    obtain rfl := Option.some.inj ht'
    exact hgood
  call := fun call pc ht' => hcall call pc (Option.some.inj ht')
  log := h.log
  locked_inside := fun hin => absurd (ht.symm.trans hin) (by decide)
  locked_outside := fun _ => h.locked_outside (by rw [inside, hnone]; rfl)

theorem step_inv (h : Inv oflag s) {e : Event} {s' : System} (hs' : step ctl oflag s e = some s') :
    Inv oflag s' := by
  cases e with
  | write buffer nonblock =>
    rw [step] at hs'
    split_ifs at hs' with hnone
    obtain rfl := Option.some.inj hs'
    refine begin_inv h (Option.isNone_iff_eq_none.mp hnone) rfl rfl fun call pc heq => ?_
    obtain ⟨rfl, -⟩ := Thread.write.inj heq
    exact ⟨[], rfl, .inl ⟨rfl, rfl, Nat.zero_le _⟩⟩
  | drain =>
    rw [step] at hs'
    split_ifs at hs' with hnone
    obtain rfl := Option.some.inj hs'
    exact begin_inv h (Option.isNone_iff_eq_none.mp hnone) rfl trivial (fun _ _ heq => by simp at heq)
  | run =>
    obtain ⟨t, ht, hrun⟩ := Option.bind_eq_some_iff.mp hs'
    cases t with
    | write call pc => exact uartWrite_inv h ht hrun
    | drain pc => exact uartTcdrain_inv h ht hrun
  | expire =>
    obtain ⟨t, ht, hrun⟩ := Option.bind_eq_some_iff.mp hs'
    cases t with
    | write call pc => exact absurd hrun (by simp)
    | drain pc =>
      cases pc with
      | start | asleep | poll => exact absurd hrun (by simp)
      | pause =>
        obtain rfl := Option.some.inj hrun
        exact expire_inv h ht
  | signal =>
    obtain ⟨t, ht, hrun⟩ := Option.bind_eq_some_iff.mp hs'
    exact interrupt_inv h ht hrun
  | complete =>
    obtain ⟨bytes, hhead, rfl⟩ := Option.map_eq_some_iff.mp hs'
    exact complete_inv h (fun hnil => by simp [hnil] at hhead) _
  | fail =>
    obtain ⟨bytes, hhead, rfl⟩ := Option.map_eq_some_iff.mp hs'
    exact fail_inv h (fun hnil => by simp [hnil] at hhead)
  | disconnect =>
    obtain rfl := Option.some.inj hs'
    exact disconnect_inv h []
  | setconfig config =>
    obtain rfl := Option.some.inj hs'
    exact rewired_inv h (cdcacmSetconfig_rewired ctl s.tx config) _
  | suspend =>
    obtain rfl := Option.some.inj hs'
    exact rewired_inv h (cdcacmSuspend_rewired s.tx) s.host
  | resume =>
    obtain rfl := Option.some.inj hs'
    exact rewired_inv h (cdcacmResume_rewired s.tx) s.host

theorem run_inv (h : Inv oflag s) {es : List Event} {s' : System}
    (hs' : PartialRuns.run (step ctl oflag) s es = some s') : Inv oflag s' :=
  run_preserves (Inv oflag) (fun _ _ _ h _ hs' => step_inv h hs') h
    (legal_of_forall (P := fun _ => True) (fun _ _ => trivial) s) hs'

/-! ## The connection -/

/-- The connection stays as it is. -/
structure Linked (ctl : Controller) (d d' : Tx) : Prop where
  config : d'.config = d.config
  disconnected : d'.disconnected = d.disconnected
  refused : d.refused ≤ d'.refused
  wired : d.Wired ctl → d'.Wired ctl

theorem Linked.refl (d : Tx) : Linked ctl d d := ⟨rfl, rfl, Nat.le_refl _, id⟩

theorem sndpacket_linked (ctl : Controller) {d : Tx} (h : d.Inv) : Linked ctl d (d.cdcacmSndpacket ctl) := by
  refine ⟨?_, ?_, ?_, fun hw => hw.sndpacket h⟩ <;> rw [cdcacmSndpacket_eq ctl h]
  · split_ifs <;> rfl
  · split_ifs <;> rfl
  · split_ifs
    · exact Nat.le_refl _
    · exact Nat.le_add_right _ _

theorem awaitRoom_linked {d : Tx} (h : d.Inv) : Linked ctl d (d.awaitRoom ctl) := by
  rw [awaitRoom_eq]
  have hsnd := sndpacket_linked ctl h.waiting
  exact ⟨hsnd.config, hsnd.disconnected, hsnd.refused, hsnd.wired⟩

theorem uartWrite_linked (h : s.tx.Inv) {call : Write} {pc : Pc} {s' : System}
    (hs' : s.uartWrite ctl oflag call pc = some s') : Linked ctl s.tx s'.tx := by
  cases pc with
  | start =>
    rw [uartWrite] at hs'
    split_ifs at hs' <;> obtain rfl := Option.some.inj hs' <;> exact ⟨rfl, rfl, Nat.le_refl _, id⟩
  | next =>
    rw [uartWrite] at hs'
    split_ifs at hs'
    · obtain rfl := Option.some.inj hs'
      exact .refl _
    · split at hs' <;> obtain rfl := Option.some.inj hs' <;> exact .refl _
  | test nexthead | woken nexthead failed =>
    obtain rfl := Option.some.inj hs'
    exact .refl _
  | store nexthead =>
    obtain ⟨ch, -, rfl⟩ := Option.map_eq_some_iff.mp hs'
    exact ⟨rfl, rfl, Nat.le_refl _, id⟩
  | advance nexthead =>
    rw [uartWrite] at hs'
    split at hs'
    · exact absurd hs' (by simp)
    · obtain rfl := Option.some.inj hs'
      exact ⟨rfl, rfl, Nat.le_refl _, id⟩
  | block nexthead =>
    rw [uartWrite] at hs'
    split_ifs at hs' <;> obtain rfl := Option.some.inj hs'
    · exact .refl _
    · exact .refl _
    · exact awaitRoom_linked h
  | asleep nexthead =>
    rw [uartWrite] at hs'
    split_ifs at hs'
    obtain rfl := Option.some.inj hs'
    exact ⟨rfl, rfl, Nat.le_refl _, id⟩
  | leave err =>
    rw [uartWrite, leave_tx h] at hs'
    obtain rfl := Option.some.inj hs'
    have hsnd := sndpacket_linked ctl h
    exact ⟨hsnd.config, hsnd.disconnected, hsnd.refused, hsnd.wired⟩

theorem drainLoop_linked (ctl : Controller) (s : System) {d : Tx} (h : d.Inv) :
    Linked ctl d (drainLoop ctl { s with tx := d }).tx := by
  unfold drainLoop
  split_ifs
  · exact awaitRoom_linked h
  · exact .refl _

theorem uartTcdrain_linked (h : s.tx.Inv) {pc : DrainPc} {s' : System}
    (hs' : s.uartTcdrain ctl pc = some s') : Linked ctl s.tx s'.tx := by
  cases pc with
  | start =>
    rw [uartTcdrain] at hs'
    split_ifs at hs' <;> obtain rfl := Option.some.inj hs'
    · exact ⟨rfl, rfl, Nat.le_refl _, id⟩
    · have hloop := drainLoop_linked ctl s (h.locked true)
      exact ⟨hloop.config, hloop.disconnected, hloop.refused, hloop.wired⟩
  | asleep =>
    rw [uartTcdrain] at hs'
    split_ifs at hs'
    obtain rfl := Option.some.inj hs'
    have hloop := drainLoop_linked ctl s (h.xmitsem (s.tx.xmitsem - 1))
    exact ⟨hloop.config, hloop.disconnected, hloop.refused, hloop.wired⟩
  | poll =>
    rw [uartTcdrain] at hs'
    split_ifs at hs' <;> obtain rfl := Option.some.inj hs' <;> exact ⟨rfl, rfl, Nat.le_refl _, id⟩
  | pause =>
    obtain rfl := Option.some.inj hs'
    exact .refl _

theorem interrupt_linked {t : Thread} {s' : System} (hs' : s.interrupt t = some s') :
    Linked ctl s.tx s'.tx := by
  unfold interrupt at hs'
  split at hs'
  · split_ifs at hs'
    obtain rfl := Option.some.inj hs'
    exact .refl _
  · obtain rfl := Option.some.inj hs'
    exact .refl _
  · split_ifs at hs'
    obtain rfl := Option.some.inj hs'
    exact .refl _
  · obtain rfl := Option.some.inj hs'
    exact ⟨rfl, rfl, Nat.le_refl _, id⟩
  · exact absurd hs' (by simp)

/-- The bus leaves the connection as it is. -/
theorem step_linked (h : Inv oflag s) {e : Event} (he : e.rewires = false) {s' : System}
    (hs' : step ctl oflag s e = some s') : Linked ctl s.tx s'.tx := by
  cases e with
  | write buffer nonblock | drain =>
    rw [step] at hs'
    split_ifs at hs'
    obtain rfl := Option.some.inj hs'
    exact .refl _
  | run =>
    obtain ⟨t, ht, hrun⟩ := Option.bind_eq_some_iff.mp hs'
    cases t with
    | write call pc => exact uartWrite_linked h.tx hrun
    | drain pc => exact uartTcdrain_linked h.tx hrun
  | expire =>
    obtain ⟨t, ht, hrun⟩ := Option.bind_eq_some_iff.mp hs'
    split at hrun
    · obtain rfl := Option.some.inj hrun
      exact .refl _
    · exact absurd hrun (by simp)
  | signal =>
    obtain ⟨t, ht, hrun⟩ := Option.bind_eq_some_iff.mp hs'
    exact interrupt_linked hrun
  | complete =>
    obtain ⟨bytes, hhead, rfl⟩ := Option.map_eq_some_iff.mp hs'
    have hsub : s.tx.submitted ≠ [] := fun hnil => by simp [hnil] at hhead
    have hsnd := sndpacket_linked ctl (completed_inv h.tx hsub)
    dsimp only
    rw [cdcacmWrcomplete_ok]
    exact ⟨hsnd.config, hsnd.disconnected, hsnd.refused, fun hw => hsnd.wired (hw.completed hsub)⟩
  | fail =>
    obtain ⟨bytes, hhead, rfl⟩ := Option.map_eq_some_iff.mp hs'
    have hsub : s.tx.submitted ≠ [] := fun hnil => by simp [hnil] at hhead
    exact ⟨rfl, rfl, Nat.le_refl _, fun hw => hw.completed hsub⟩
  | disconnect => exact absurd he (by decide)
  | setconfig config => exact absurd he (by simp [Event.rewires, Event.reconfigures])
  | suspend => exact absurd he (by decide)
  | resume => exact absurd he (by decide)

/-- With a controller that has no errors. -/
theorem step_wired (hctl : ctl.Working) (h : Inv oflag s) (hw : s.tx.Wired ctl) {e : Event}
    {s' : System} (hs' : step ctl oflag s e = some s') : s'.tx.Wired ctl := by
  cases he : e.rewires with
  | false => exact (step_linked h he hs').wired hw
  | true =>
    cases e with
    | disconnect =>
      obtain rfl := Option.some.inj hs'
      exact (cdcacmDisconnect_cases hctl h.tx hw).2.2
    | setconfig config =>
      obtain rfl := Option.some.inj hs'
      exact hw.cdcacmSetconfig hctl h.tx config
    | suspend =>
      obtain rfl := Option.some.inj hs'
      exact hw.cdcacmSuspend
    | resume =>
      obtain rfl := Option.some.inj hs'
      exact hw.cdcacmResume
    | _ => exact absurd he Bool.false_ne_true

theorem init_wired (h : ∀ n, ctl.submit n true = true) : init.tx.Wired ctl := by
  rw [init, opened]
  exact .inl ⟨rfl, h⟩

end System

end Sprefence.Cdcacm.Tx

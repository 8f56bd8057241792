import Sprefence.Lib.CircularBuffer

/-! The receiving half of the USB serial device `/dev/ttyACM0`: the read requests of the
CDC/ACM class driver, its list of pending packets and the circular buffer of the serial
driver. `CONFIG_CDCACM_IFLOWCONTROL` is off, so flow control does nothing. The USB controller
is not part of the repository: what its functions return is any sequence of answers. -/

namespace Sprefence.Cdcacm

/-- The USB controller. `n` counts the calls of its functions, so an answer can depend on all
that has happened. The controller ends a request from its interrupt or in `EP_DISABLE`, and
not before `EP_SUBMIT` has returned. -/
structure Controller where
  /-- Whether `EP_SUBMIT` takes a request, for an endpoint that is configured or not. -/
  submit : Nat → Bool → Bool
  /-- Whether `EP_CONFIGURE` succeeds. -/
  configure : Nat → Bool
  /-- How many of the requests that the endpoint has `EP_DISABLE` ends. -/
  disable : Nat → Nat → Nat
  disable_le : ∀ n requests, disable n requests ≤ requests

/-- A controller without errors: an endpoint takes requests while it is configured, and those
that it has are ended when it is disabled. -/
structure Controller.Working (ctl : Controller) : Prop where
  submit : ∀ n configured, ctl.submit n configured = configured
  configure : ∀ n, ctl.configure n = true
  disable : ∀ n requests, ctl.disable n requests = requests

def Controller.faultless : Controller where
  submit _ configured := configured
  configure _ := true
  disable _ requests := requests
  disable_le _ _ := Nat.le_refl _

theorem Controller.faultless_working : faultless.Working :=
  ⟨fun _ _ => rfl, fun _ => rfl, fun _ _ => rfl⟩

/-- `struct uart_buffer_s` -/
abbrev UartBuffer := CircularBuffer UInt8

inductive Errno
  | enospc
  | enotconn
  | eintr
  | eagain
  | einval
  | etimedout
  deriving DecidableEq, Repr

/-- `struct cdcacm_rdreq_s`, with the `xfrd` bytes of its request. -/
structure Rdreq where
  buf : List UInt8
  offset : Nat
  deriving DecidableEq, Repr

/-- Those bytes of the request that are not yet in the circular buffer. -/
def Rdreq.unread (rd : Rdreq) : List UInt8 := rd.buf.drop rd.offset

/-- `struct cdcacm_dev_s` with its `struct uart_dev_s`. -/
structure Dev where
  recv : UartBuffer
  rxpending : List Rdreq
  rxenabled : Bool
  /-- Whether the watchdog timer runs. -/
  rxfailsafe : Bool
  nrdq : Nat
  config : Nat
  /-- Whether the bulk OUT endpoint is configured. -/
  configured : Bool
  /-- The requests that the endpoint has. -/
  submitted : Nat
  /-- The calls of functions of the controller. -/
  calls : Nat
  disconnected : Bool
  recvwaiting : Bool
  /-- The count of the semaphore. -/
  recvsem : Nat
  deriving DecidableEq, Repr

namespace Dev

/-- `CONFIG_CDCACM_RXBUFSIZE` -/
def rxbufsize : Nat := 513

/-- `CONFIG_CDCACM_NRDREQS` -/
def nrdreqs : Nat := 4

def configid : Nat := 1

/-- The device is open and configured, and no byte has arrived. -/
def opened : Dev :=
  ⟨⟨List.replicate rxbufsize 0, 0, 0⟩, [], true, false, nrdreqs, configid, true, nrdreqs, 0, false, false,
    0⟩

section Code

variable (ctl : Controller)

def uartDatareceived (dev : Dev) : Dev :=
  if dev.recvwaiting then { dev with recvwaiting := false, recvsem := dev.recvsem + 1 } else dev

def uartConnected (dev : Dev) (connected : Bool) : Dev :=
  let dev := { dev with disconnected := !connected }
  if !connected && dev.recvwaiting then
    { dev with recvwaiting := false, recvsem := dev.recvsem + 1 }
  else dev

/-- The loop of `cdcacm_recvpacket` with what it leaves of the packet. -/
def recvLoop : List UInt8 → UartBuffer → UartBuffer × List UInt8
  | [], recv => (recv, [])
  | ch :: reqbuf, recv =>
    if recv.next recv.head = recv.tail then (recv, ch :: reqbuf) else recvLoop reqbuf (recv.push ch)

/-- The caller has seen to `rxenabled`. -/
def cdcacmRecvpacket (priv : Dev) (rd : Rdreq) : Dev × Rdreq × Except Errno Unit :=
  let reqlen := rd.unread.length
  let (recv, rest) := recvLoop rd.unread priv.recv
  let nbytes := reqlen - rest.length
  let priv := { priv with recv := recv }
  let priv := if nbytes > 0 then priv.uartDatareceived else priv
  if nbytes < reqlen then (priv, { rd with offset := rd.offset + nbytes }, .error .enospc)
  else (priv, rd, .ok ())

/-- The result of `EP_SUBMIT` is only traced. -/
def cdcacmRequeueRdrequest (priv : Dev) : Dev :=
  let taken := ctl.submit priv.calls priv.configured
  { priv with submitted := priv.submitted + taken.toNat, calls := priv.calls + 1 }

/-- The loop of `cdcacm_release_rxpending`. -/
def releaseLoop (priv : Dev) : List Rdreq → Dev
  | [] => { priv with rxpending := [] }
  | rd :: rds =>
    match priv.cdcacmRecvpacket rd with
    | (priv, rd, .error _) => { priv with rxpending := rd :: rds }
    | (priv, _, .ok ()) => releaseLoop (priv.cdcacmRequeueRdrequest ctl) rds

def cdcacmReleaseRxpending (priv : Dev) : Dev :=
  let priv := if priv.rxenabled then priv.releaseLoop ctl priv.rxpending else priv
  { priv with rxfailsafe := !priv.rxpending.isEmpty }

def cdcacmRxtimeout (priv : Dev) : Dev := priv.cdcacmReleaseRxpending ctl

def cdcuartRxint (priv : Dev) (enable : Bool) : Dev :=
  if enable then
    let priv := { priv with rxenabled := true }
    priv.cdcacmReleaseRxpending ctl
  else { priv with rxenabled := false }

/-- How a request ends. -/
inductive Result
  | done (packet : List UInt8)
  | shutdown
  | error
  deriving DecidableEq, Repr

def cdcacmRdcomplete (priv : Dev) (result : Result) : Dev :=
  let priv := { priv with submitted := priv.submitted - 1 }
  match result with
  | .done packet =>
    let priv := { priv with rxpending := priv.rxpending ++ [Rdreq.mk packet 0] }
    priv.cdcacmReleaseRxpending ctl
  | .shutdown => { priv with nrdq := priv.nrdq - 1 }
  | .error => priv.cdcacmRequeueRdrequest ctl

/-- `n` requests end. -/
def shutdowns : Nat → Dev → Dev
  | 0, priv => priv
  | n + 1, priv => shutdowns n (priv.cdcacmRdcomplete ctl .shutdown)

/-- `EP_DISABLE` of the bulk OUT endpoint. -/
def epDisable (priv : Dev) : Dev :=
  let ended := ctl.disable priv.calls priv.submitted
  shutdowns ctl ended { priv with configured := false, calls := priv.calls + 1 }

def cdcacmResetconfig (priv : Dev) : Dev :=
  if priv.config ≠ 0 then
    let priv := { priv with config := 0 }
    let priv := priv.uartConnected false
    priv.epDisable ctl
  else priv

/-- The loop of `cdcacm_setconfig`, and whether it ended. -/
def submitLoop : Nat → Dev → Dev × Bool
  | 0, priv => (priv, true)
  | n + 1, priv =>
    let taken := ctl.submit priv.calls priv.configured
    let priv := { priv with calls := priv.calls + 1 }
    if taken then submitLoop n { priv with submitted := priv.submitted + 1, nrdq := priv.nrdq + 1 }
    else (priv, false)

/-- A failed `DEBUGASSERT` stops the board. The return value goes into the answer to the host. -/
def cdcacmSetconfig (priv : Dev) (config : Nat) : Option Dev :=
  if config = priv.config then some priv
  else
    let priv := priv.cdcacmResetconfig ctl
    if config = 0 then some priv
    else if config ≠ configid then some priv
    else
      -- the interrupt IN, the bulk IN and the bulk OUT endpoint
      let configures := (List.range 3).all fun i => ctl.configure (priv.calls + i)
      let priv := { priv with calls := priv.calls + 3 }
      if configures then
        let priv := { priv with configured := true }
        if priv.nrdq = 0 then
          match priv.submitLoop ctl nrdreqs with
          | (priv, true) => some ({ priv with config := config }.uartConnected true)
          -- behind `errout` the configuration is the one of `cdcacm_resetconfig` already
          | (priv, false) => some (priv.cdcacmResetconfig ctl)
        else none
      else some (priv.cdcacmResetconfig ctl)

/-- The transmit buffer, which is cleared here too, is another one. -/
def cdcacmDisconnect (priv : Dev) : Dev := (priv.uartConnected false).cdcacmResetconfig ctl

def cdcacmSuspend (priv : Dev) : Dev := priv.uartConnected false

def cdcacmResume (priv : Dev) : Dev := if priv.config ≠ 0 then priv.uartConnected true else priv

end Code

variable {ctl : Controller}

/-! ## What the functions do -/

/-- The bytes that wait for room in the circular buffer. -/
def pending (d : Dev) : List UInt8 := d.rxpending.flatMap Rdreq.unread

theorem recvLoop_spec (cs : List UInt8) (r : UartBuffer) (h : r.Valid) :
    ∃ copied, cs = copied ++ (recvLoop cs r).2 ∧
      (recvLoop cs r).1.contents = r.contents ++ copied ∧ (recvLoop cs r).1.Valid ∧
      (recvLoop cs r).1.size = r.size ∧ (recvLoop cs r).1.tail = r.tail ∧
      ((recvLoop cs r).2 ≠ [] → (recvLoop cs r).1.Full) := by
  induction cs generalizing r with
  | nil => exact ⟨[], rfl, (List.append_nil _).symm, h, rfl, rfl, fun hne => absurd rfl hne⟩
  | cons c cs ih =>
    rw [recvLoop]
    split_ifs with hfull
    · exact ⟨[], rfl, (List.append_nil _).symm, h, rfl, rfl, fun _ => hfull⟩
    · obtain ⟨copied, hcs, hcont, hvalid, hsize, htail, hrest⟩ := ih (r.push c) (h.push c)
      refine ⟨c :: copied, by rw [List.cons_append, ← hcs], ?_, hvalid, ?_, htail, hrest⟩
      · rw [hcont, CircularBuffer.contents_push h hfull, List.append_assoc]
        rfl
      · rw [hsize, CircularBuffer.push_size]

/-- `n` bytes have been added to the circular buffer, which is now `recv`. -/
def stored (d : Dev) (recv : UartBuffer) (n : Nat) : Dev :=
  { d with
    recv := recv
    recvwaiting := d.recvwaiting && n == 0
    recvsem := d.recvsem + (d.recvwaiting && n != 0).toNat }

theorem cdcacmRecvpacket_spec (d : Dev) (rd : Rdreq) (h : d.recv.Valid) :
    ∃ copied recv, recv.contents = d.recv.contents ++ copied ∧ recv.Valid ∧
      recv.size = d.recv.size ∧ recv.tail = d.recv.tail ∧
      (rd.unread = copied ∧ d.cdcacmRecvpacket rd = (d.stored recv copied.length, rd, .ok ()) ∨
        ∃ rd', rd.unread = copied ++ rd'.unread ∧ rd'.unread ≠ [] ∧ recv.Full ∧
          d.cdcacmRecvpacket rd = (d.stored recv copied.length, rd', .error .enospc)) := by
  obtain ⟨copied, hunread, hcont, hvalid, hsize, htail, hfull⟩ := recvLoop_spec rd.unread d.recv h
  refine ⟨copied, _, hcont, hvalid, hsize, htail, ?_⟩
  have hlen := congrArg List.length hunread
  rw [List.length_append] at hlen
  have hstored : (if copied.length > 0 then
      ({ d with recv := (recvLoop rd.unread d.recv).1 } : Dev).uartDatareceived
      else { d with recv := (recvLoop rd.unread d.recv).1 }) =
      d.stored (recvLoop rd.unread d.recv).1 copied.length := by
    unfold stored uartDatareceived
    cases copied with
    | nil => simp
    | cons c cs => cases d.recvwaiting <;> simp
  unfold cdcacmRecvpacket
  dsimp only
  rw [show rd.unread.length - (recvLoop rd.unread d.recv).2.length = copied.length by omega, hstored]
  by_cases hrest : (recvLoop rd.unread d.recv).2 = []
  · rw [hrest, List.append_nil] at hunread
    exact .inl ⟨hunread, if_neg (by rw [hunread]; exact Nat.lt_irrefl _)⟩
  · have hleft : Rdreq.unread { rd with offset := rd.offset + copied.length } =
        (recvLoop rd.unread d.recv).2 := by
      rw [Rdreq.unread, ← List.drop_drop, ← Rdreq.unread]
      nth_rewrite 1 [hunread]
      exact List.drop_left
    have hpos := List.length_pos_iff.mpr hrest
    refine .inr ⟨{ rd with offset := rd.offset + copied.length }, ?_, ?_, hfull hrest, ?_⟩
    · rw [hleft]
      exact hunread
    · rw [hleft]
      exact hrest
    · exact if_pos (by omega)

/-- How the bytes that were pending move on, and what becomes of their requests. -/
structure Released (ctl : Controller) (d d' : Dev) (copied : List UInt8) : Prop where
  pending : d.pending = copied ++ d'.pending
  contents : d'.recv.contents = d.recv.contents ++ copied
  valid : d'.recv.Valid
  size : d'.recv.size = d.recv.size
  tail : d'.recv.tail = d.recv.tail
  blocked : d'.rxenabled = true → ∀ rd ∈ d'.rxpending.head?, d'.recv.Full ∧ rd.unread ≠ []
  requests : d'.submitted + d'.rxpending.length ≤ d.submitted + d.rxpending.length
  taken : ctl.Working → d.configured = true →
    d'.submitted + d'.rxpending.length = d.submitted + d.rxpending.length
  refused : ctl.Working → d.configured = false → d'.submitted = d.submitted
  recvwaiting : d'.recvwaiting = (d.recvwaiting && copied.isEmpty)
  recvsem : d'.recvsem = d.recvsem + (d.recvwaiting && !copied.isEmpty).toNat
  rxenabled : d'.rxenabled = d.rxenabled
  nrdq : d'.nrdq = d.nrdq
  config : d'.config = d.config
  configured : d'.configured = d.configured
  disconnected : d'.disconnected = d.disconnected

theorem releaseLoop_spec (ctl : Controller) (rds : List Rdreq) (d : Dev) (h : d.recv.Valid) :
    ∃ copied, Released ctl { d with rxpending := rds } (d.releaseLoop ctl rds) copied := by
  induction rds generalizing d with
  | nil =>
    refine ⟨[], rfl, (List.append_nil _).symm, h, rfl, rfl, ?_, Nat.le_refl _, fun _ _ => rfl,
      fun _ _ => rfl, ?_, ?_, rfl, rfl, rfl, rfl, rfl⟩
    · exact fun _ rd hrd => absurd hrd (by simp [releaseLoop])
    · simp [releaseLoop]
    · simp [releaseLoop]
  | cons rd rds ih =>
    obtain ⟨copied, recv, hcont, hvalid, hsize, htail, hcase⟩ := cdcacmRecvpacket_spec d rd h
    rw [releaseLoop]
    obtain ⟨hunread, heq⟩ | ⟨rd', hunread, hne, hfull, heq⟩ := hcase
    · -- the packet is used up, and its request goes back to the endpoint
      rw [heq]
      dsimp only
      rw [cdcacmRequeueRdrequest]
      obtain ⟨copied', hrel⟩ := ih { d.stored recv copied.length with
        submitted := d.submitted + (ctl.submit d.calls d.configured).toNat
        calls := d.calls + 1 } hvalid
      have hone := Bool.toNat_le (ctl.submit d.calls d.configured)
      have hrequests := hrel.requests
      refine ⟨copied ++ copied', ?_, ?_, hrel.valid, hrel.size.trans hsize, hrel.tail.trans htail,
        hrel.blocked, ?_, fun hctl hon => ?_, fun hctl hoff => ?_, ?_, ?_, hrel.rxenabled, hrel.nrdq,
        hrel.config, hrel.configured, hrel.disconnected⟩
      · rw [List.append_assoc]
        refine Eq.trans ?_ (congrArg (copied ++ ·) hrel.pending)
        rw [← hunread]
        rfl
      · rw [← List.append_assoc, ← hcont]
        exact hrel.contents
      · refine Nat.le_trans hrequests ?_
        dsimp only
        rw [List.length_cons]
        omega
      · refine (hrel.taken hctl hon).trans ?_
        dsimp only at hon ⊢
        rw [hctl.submit, hon, List.length_cons, Bool.toNat_true]
        omega
      · refine (hrel.refused hctl hoff).trans ?_
        dsimp only at hoff ⊢
        rw [hctl.submit, hoff, Bool.toNat_false]
        rfl
      · refine hrel.recvwaiting.trans ?_
        cases copied <;> simp [stored]
      · refine hrel.recvsem.trans ?_
        cases copied <;> cases hw : d.recvwaiting <;> simp [stored, hw]
    · -- the circular buffer is full
      rw [heq]
      refine ⟨copied, ?_, hcont, hvalid, hsize, htail, ?_, Nat.le_refl _, fun _ _ => rfl,
        fun _ _ => rfl, ?_, ?_, rfl, rfl, rfl, rfl, rfl⟩
      · rw [pending, List.flatMap_cons, hunread, List.append_assoc]
        rfl
      · intro _ rd₀ hrd
        obtain rfl : rd' = rd₀ := Option.some.inj hrd
        exact ⟨hfull, hne⟩
      · cases copied <;> simp [stored]
      · cases copied <;> simp [stored]

theorem cdcacmReleaseRxpending_spec (ctl : Controller) (d : Dev) (h : d.recv.Valid) :
    ∃ copied, Released ctl d (d.cdcacmReleaseRxpending ctl) copied := by
  unfold cdcacmReleaseRxpending
  split
  · obtain ⟨copied, hrel⟩ := releaseLoop_spec ctl d.rxpending d h
    exact ⟨copied, { hrel with }⟩
  · rename_i hoff
    refine ⟨[], rfl, (List.append_nil _).symm, h, rfl, rfl, fun hon => absurd hon hoff, Nat.le_refl _,
      fun _ _ => rfl, fun _ _ => rfl, ?_, ?_, rfl, rfl, rfl, rfl, rfl⟩
    · simp
    · simp

/-- What holds between the functions of the driver. The timer runs while packets are pending, and
every request that the endpoint has or that is pending is counted in `nrdq`. -/
structure Inv (d : Dev) : Prop where
  valid : d.recv.Valid
  size : d.recv.size = rxbufsize
  rxfailsafe : d.rxfailsafe = !d.rxpending.isEmpty
  unread : d.rxenabled = true → ∀ rd ∈ d.rxpending.head?, rd.unread ≠ []
  requests : d.submitted + d.rxpending.length ≤ d.nrdq
  connected : d.config = configid ∨ d.config = 0 ∧ d.disconnected = true

theorem opened_size : opened.recv.size = rxbufsize := List.length_replicate

theorem opened_inv : opened.Inv where
  valid := by
    constructor
    all_goals
      rw [opened_size]
      exact (by decide : 0 < rxbufsize)
  size := opened_size
  rxfailsafe := rfl
  unread := fun _ rd hrd => absurd hrd (by simp [opened])
  requests := Nat.le_refl _
  connected := .inl rfl

/-- Packets are pending only behind a full buffer. -/
def Blocked (d : Dev) : Prop := d.rxpending ≠ [] → d.recv.Full

theorem Released.full {d d' : Dev} {copied : List UInt8} (h : Released ctl d d' copied)
    (hon : d'.rxenabled = true) : d'.Blocked := by
  intro hne
  cases hp : d'.rxpending with
  | nil => exact absurd hp hne
  | cons rd rds => exact (h.blocked hon rd (by rw [hp]; rfl)).1

/-- The buffer is not full while it is empty, so nothing is pending. -/
theorem Blocked.rxpending_eq_nil {d : Dev} (h : d.Blocked) (hinv : d.Inv)
    (hempty : d.recv.contents = []) : d.rxpending = [] := by
  by_contra hne
  have hfull := h hne
  rw [CircularBuffer.full_iff hinv.valid, hempty, hinv.size] at hfull
  exact absurd hfull (by decide)

theorem Released.inv {d d' : Dev} {copied : List UInt8} (h : Released ctl d d' copied)
    (htimer : d'.rxfailsafe = !d'.rxpending.isEmpty) (hsize : d.recv.size = rxbufsize)
    (hrequests : d.submitted + d.rxpending.length ≤ d.nrdq)
    (hconnected : d.config = configid ∨ d.config = 0 ∧ d.disconnected = true) : d'.Inv := by
  refine ⟨h.valid, h.size.trans hsize, htimer, fun hon rd hrd => (h.blocked hon rd hrd).2, ?_, ?_⟩
  · rw [h.nrdq]
    exact Nat.le_trans h.requests hrequests
  · rw [h.config, h.disconnected]
    exact hconnected

/-- Packets that came while the interrupt was disabled are looked at when it is enabled. -/
theorem cdcuartRxint_off_on {d : Dev} (h : d.rxenabled = true) :
    (d.cdcuartRxint ctl false).cdcuartRxint ctl true = d.cdcacmRxtimeout ctl := by
  have hsame : ({ d with rxenabled := true } : Dev) = d := by rw [← h]
  exact congrArg (cdcacmReleaseRxpending ctl) hsame

theorem cdcuartRxint_inv (ctl : Controller) {d : Dev} (h : d.Inv) : (d.cdcuartRxint ctl true).Inv := by
  obtain ⟨copied, hrel⟩ := cdcacmReleaseRxpending_spec ctl { d with rxenabled := true } h.valid
  exact hrel.inv rfl h.size h.requests h.connected

theorem cdcuartRxint_off_inv (ctl : Controller) {d : Dev} (h : d.Inv) : (d.cdcuartRxint ctl false).Inv :=
  ⟨h.valid, h.size, h.rxfailsafe, fun hon => absurd hon Bool.false_ne_true, h.requests, h.connected⟩

theorem cdcacmRxtimeout_inv (ctl : Controller) {d : Dev} (h : d.Inv) : (d.cdcacmRxtimeout ctl).Inv := by
  obtain ⟨copied, hrel⟩ := cdcacmReleaseRxpending_spec ctl d h.valid
  exact hrel.inv rfl h.size h.requests h.connected

theorem cdcacmRdcomplete_done_inv (ctl : Controller) {d : Dev} (h : d.Inv) (hsub : 0 < d.submitted)
    (packet : List UInt8) : (d.cdcacmRdcomplete ctl (.done packet)).Inv := by
  obtain ⟨copied, hrel⟩ := cdcacmReleaseRxpending_spec ctl { d with
    submitted := d.submitted - 1
    rxpending := d.rxpending ++ [Rdreq.mk packet 0] } h.valid
  refine hrel.inv rfl h.size ?_ h.connected
  have hrequests := h.requests
  dsimp only
  rw [List.length_append, List.length_singleton]
  omega

/-- The driver loses or gets requests and a connection, and leaves the bytes alone. -/
structure Rewired (d d' : Dev) : Prop where
  recv : d'.recv = d.recv
  rxpending : d'.rxpending = d.rxpending
  rxenabled : d'.rxenabled = d.rxenabled
  rxfailsafe : d'.rxfailsafe = d.rxfailsafe
  requests : d.submitted + d.rxpending.length ≤ d.nrdq →
    d'.submitted + d'.rxpending.length ≤ d'.nrdq
  connected : d.config = configid ∨ d.config = 0 ∧ d.disconnected = true →
    d'.config = configid ∨ d'.config = 0 ∧ d'.disconnected = true
  /-- A reader that waits is woken when the connection is lost. -/
  roused : d'.recvsem = 0 → d.recvsem = 0 ∧ (d.recvwaiting = true ∧ d.disconnected = false →
    d'.recvwaiting = true ∧ d'.disconnected = false)

theorem Rewired.inv {d d' : Dev} (h : d.Rewired d') (hinv : d.Inv) : d'.Inv := by
  obtain ⟨hvalid, hsize, htimer, hunread, hrequests, hconnected⟩ := hinv
  rw [← h.recv] at hvalid hsize
  rw [← h.rxfailsafe, ← h.rxpending] at htimer
  rw [← h.rxenabled, ← h.rxpending] at hunread
  exact ⟨hvalid, hsize, htimer, hunread, h.requests hrequests, h.connected hconnected⟩

theorem Rewired.refl (d : Dev) : d.Rewired d := ⟨rfl, rfl, rfl, rfl, id, id, fun h => ⟨h, id⟩⟩

theorem Rewired.trans {d d' d'' : Dev} (h : d.Rewired d') (h' : d'.Rewired d'') : d.Rewired d'' :=
  ⟨h'.recv.trans h.recv, h'.rxpending.trans h.rxpending, h'.rxenabled.trans h.rxenabled,
    h'.rxfailsafe.trans h.rxfailsafe, h'.requests ∘ h.requests, h'.connected ∘ h.connected,
    fun hsem => ⟨(h.roused (h'.roused hsem).1).1, (h'.roused hsem).2 ∘ (h.roused (h'.roused hsem).1).2⟩⟩

theorem shutdowns_eq (n : Nat) (d : Dev) :
    shutdowns ctl n d = { d with submitted := d.submitted - n, nrdq := d.nrdq - n } := by
  induction n generalizing d with
  | zero => rfl
  | succ n ih =>
    rw [shutdowns, ih, cdcacmRdcomplete]
    dsimp only
    rw [Nat.sub_sub, Nat.sub_sub, Nat.add_comm 1 n]

theorem uartConnected_false (d : Dev) : d.uartConnected false = { d with
    disconnected := true, recvwaiting := false, recvsem := d.recvsem + d.recvwaiting.toNat } := by
  unfold uartConnected
  cases d.recvwaiting <;> simp

theorem uartConnected_true (d : Dev) : d.uartConnected true = { d with disconnected := false } := by
  simp [uartConnected]

/-- The connection is lost, a reader that waits is woken, and `ended` requests end. -/
def unplugged (d : Dev) (ended : Nat) : Dev :=
  { d with
    config := 0
    disconnected := true
    recvwaiting := false
    recvsem := d.recvsem + d.recvwaiting.toNat
    configured := false
    calls := d.calls + 1
    submitted := d.submitted - ended
    nrdq := d.nrdq - ended }

theorem cdcacmResetconfig_on {d : Dev} (h : d.config ≠ 0) :
    d.cdcacmResetconfig ctl = d.unplugged (ctl.disable d.calls d.submitted) := by
  rw [cdcacmResetconfig, if_pos h]
  dsimp only
  rw [uartConnected_false, epDisable, shutdowns_eq]
  rfl

theorem cdcacmResetconfig_off {d : Dev} (h : d.config = 0) : d.cdcacmResetconfig ctl = d :=
  if_neg (not_not_intro h)

theorem cdcacmRdcomplete_error_rewired (ctl : Controller) {d : Dev} (h : 0 < d.submitted) :
    d.Rewired (d.cdcacmRdcomplete ctl .error) := by
  refine ⟨rfl, rfl, rfl, rfl, fun hrequests => ?_, id, fun h => ⟨h, id⟩⟩
  have hone := Bool.toNat_le (ctl.submit d.calls d.configured)
  show d.submitted - 1 + (ctl.submit d.calls d.configured).toNat + d.rxpending.length ≤ d.nrdq
  omega

theorem cdcacmRdcomplete_shutdown_rewired (ctl : Controller) {d : Dev} (h : 0 < d.submitted) :
    d.Rewired (d.cdcacmRdcomplete ctl .shutdown) := by
  refine ⟨rfl, rfl, rfl, rfl, fun hrequests => ?_, id, fun h => ⟨h, id⟩⟩
  show d.submitted - 1 + d.rxpending.length ≤ d.nrdq - 1
  omega

theorem cdcacmSuspend_rewired (d : Dev) : d.Rewired d.cdcacmSuspend := by
  rw [cdcacmSuspend, uartConnected_false]
  refine ⟨rfl, rfl, rfl, rfl, id, Or.imp_right fun h => ⟨h.1, rfl⟩, fun hsem => ?_⟩
  obtain ⟨hsem₀, hw⟩ := Nat.add_eq_zero_iff.mp hsem
  refine ⟨hsem₀, fun hwait => ?_⟩
  rw [hwait.1] at hw
  exact absurd hw (by decide)

theorem cdcacmResume_rewired (d : Dev) : d.Rewired d.cdcacmResume := by
  unfold cdcacmResume
  split_ifs with hcfg
  · rw [uartConnected_true]
    exact ⟨rfl, rfl, rfl, rfl, id, Or.imp_right fun h => absurd h.1 hcfg, fun hsem =>
      ⟨hsem, fun hwait => ⟨hwait.1, rfl⟩⟩⟩
  · exact .refl d

theorem cdcacmResetconfig_rewired (ctl : Controller) (d : Dev) : d.Rewired (d.cdcacmResetconfig ctl) := by
  by_cases hcfg : d.config = 0
  · rw [cdcacmResetconfig_off hcfg]
    exact .refl d
  · rw [cdcacmResetconfig_on hcfg]
    have hended := ctl.disable_le d.calls d.submitted
    refine ⟨rfl, rfl, rfl, rfl, fun hrequests => ?_, fun _ => .inr ⟨rfl, rfl⟩, ?_⟩
    · show d.submitted - ctl.disable d.calls d.submitted + d.rxpending.length ≤
        d.nrdq - ctl.disable d.calls d.submitted
      omega
    · have hsuspend := (cdcacmSuspend_rewired d).roused
      rw [cdcacmSuspend, uartConnected_false] at hsuspend
      exact hsuspend

theorem cdcacmDisconnect_rewired (ctl : Controller) (d : Dev) : d.Rewired (d.cdcacmDisconnect ctl) :=
  (cdcacmSuspend_rewired d).trans (cdcacmResetconfig_rewired ctl _)

theorem submitLoop_rewired (ctl : Controller) (n : Nat) (d : Dev) : d.Rewired (d.submitLoop ctl n).1 := by
  induction n generalizing d with
  | zero => exact .refl d
  | succ n ih =>
    rw [submitLoop]
    dsimp only
    split_ifs
    · have hone : d.Rewired { d with
          submitted := d.submitted + 1, nrdq := d.nrdq + 1, calls := d.calls + 1 } := by
        refine ⟨rfl, rfl, rfl, rfl, fun hrequests => ?_, id, fun h => ⟨h, id⟩⟩
        dsimp only
        omega
      exact hone.trans (ih _)
    · exact ⟨rfl, rfl, rfl, rfl, id, id, fun h => ⟨h, id⟩⟩

theorem cdcacmSetconfig_rewired {d d' : Dev} {config : Nat}
    (h : d.cdcacmSetconfig ctl config = some d') : d.Rewired d' := by
  have hreset := cdcacmResetconfig_rewired ctl d
  rw [cdcacmSetconfig] at h
  by_cases hsame : config = d.config
  · rw [if_pos hsame] at h
    exact Option.some.inj h ▸ .refl d
  rw [if_neg hsame] at h
  dsimp only at h
  by_cases hzero : config = 0
  · rw [if_pos hzero] at h
    exact Option.some.inj h ▸ hreset
  rw [if_neg hzero] at h
  by_cases hid : config = configid
  · rw [if_neg (not_not_intro hid)] at h
    split_ifs at h with hconfigures hassert
    · have hready : d.Rewired { d.cdcacmResetconfig ctl with
          calls := (d.cdcacmResetconfig ctl).calls + 3, configured := true } :=
        hreset.trans ⟨rfl, rfl, rfl, rfl, id, id, fun h => ⟨h, id⟩⟩
      have hloop := hready.trans (submitLoop_rewired ctl nrdreqs _)
      split at h <;> rename_i priv heq <;> rw [heq] at hloop <;> obtain rfl := Option.some.inj h
      · rw [uartConnected_true]
        exact hloop.trans ⟨rfl, rfl, rfl, rfl, id, fun _ => .inl hid, fun hsem =>
          ⟨hsem, fun hwait => ⟨hwait.1, rfl⟩⟩⟩
      · exact hloop.trans (cdcacmResetconfig_rewired ctl _)
    · obtain rfl := Option.some.inj h
      have hcalls : d.Rewired { d.cdcacmResetconfig ctl with
          calls := (d.cdcacmResetconfig ctl).calls + 3 } :=
        hreset.trans ⟨rfl, rfl, rfl, rfl, id, id, fun h => ⟨h, id⟩⟩
      exact hcalls.trans (cdcacmResetconfig_rewired ctl _)
  · rw [if_pos hid] at h
    exact Option.some.inj h ▸ hreset

/-- The assertion fails. -/
theorem cdcacmSetconfig_eq_none (hconfigure : ∀ n, ctl.configure n = true) {d : Dev}
    (h : d.config = 0) (hcount : d.nrdq ≠ 0) : d.cdcacmSetconfig ctl configid = none := by
  have hconfigures : ((List.range 3).all fun i => ctl.configure (d.calls + i)) = true :=
    List.all_eq_true.mpr fun i _ => hconfigure _
  rw [cdcacmSetconfig, if_neg (by rw [h]; decide), cdcacmResetconfig_off h]
  dsimp only
  rw [if_neg (by decide), if_neg (by decide), if_pos hconfigures, if_neg hcount]

/-! ## A controller without errors -/

/-- Every request is with the endpoint or pending while the device is configured. Those that were
pending when the connection was lost are still counted in `nrdq`. -/
def Wired (d : Dev) : Prop :=
  d.config = configid ∧ d.configured = true ∧ d.submitted + d.rxpending.length = d.nrdq ∨
    d.config = 0 ∧ d.configured = false ∧ d.submitted = 0

theorem Released.wired {d d' : Dev} {copied : List UInt8} (h : Released ctl d d' copied)
    (hctl : ctl.Working) (hd : d.Wired) : d'.Wired := by
  rw [Wired, h.config, h.configured, h.nrdq]
  obtain ⟨hcfg, hon, hsub⟩ | ⟨hcfg, hoff, hsub⟩ := hd
  · exact .inl ⟨hcfg, hon, (h.taken hctl hon).trans hsub⟩
  · exact .inr ⟨hcfg, hoff, (h.refused hctl hoff).trans hsub⟩

theorem Wired.of_submitted {d : Dev} (h : d.Wired) (hsub : 0 < d.submitted) :
    d.config = configid ∧ d.configured = true ∧ d.submitted + d.rxpending.length = d.nrdq := by
  obtain hon | ⟨-, -, hnone⟩ := h
  · exact hon
  · omega

theorem Wired.submitted_eq_zero {d : Dev} (h : d.Wired) (hoff : d.config = 0) : d.submitted = 0 := by
  obtain ⟨hcfg, -⟩ | ⟨-, -, hsub⟩ := h
  · rw [hoff] at hcfg
    exact absurd hcfg (by decide)
  · exact hsub

theorem Wired.cdcacmRdcomplete {d : Dev} (h : d.Wired) (hctl : ctl.Working) (hvalid : d.recv.Valid)
    (hsub : 0 < d.submitted) (result : Result) : (d.cdcacmRdcomplete ctl result).Wired := by
  obtain ⟨hcfg, hon, hreq⟩ := h.of_submitted hsub
  cases result with
  | done packet =>
    obtain ⟨copied, hrel⟩ := cdcacmReleaseRxpending_spec ctl { d with
      submitted := d.submitted - 1
      rxpending := d.rxpending ++ [Rdreq.mk packet 0] } hvalid
    refine hrel.wired hctl (.inl ⟨hcfg, hon, ?_⟩)
    dsimp only
    rw [List.length_append, List.length_singleton]
    omega
  | shutdown =>
    refine .inl ⟨hcfg, hon, ?_⟩
    show d.submitted - 1 + d.rxpending.length = d.nrdq - 1
    omega
  | error =>
    refine .inl ⟨hcfg, hon, ?_⟩
    show d.submitted - 1 + (ctl.submit d.calls d.configured).toNat + d.rxpending.length = d.nrdq
    rw [hctl.submit, hon, Bool.toNat_true]
    omega

theorem Wired.cdcacmResetconfig {d : Dev} (h : d.Wired) (hctl : ctl.Working) :
    (d.cdcacmResetconfig ctl).Wired ∧ (d.cdcacmResetconfig ctl).config = 0 := by
  by_cases hcfg : d.config = 0
  · rw [cdcacmResetconfig_off hcfg]
    exact ⟨h, hcfg⟩
  · rw [cdcacmResetconfig_on hcfg, hctl.disable]
    exact ⟨.inr ⟨rfl, rfl, Nat.sub_self _⟩, rfl⟩

theorem Wired.cdcacmSuspend {d : Dev} (h : d.Wired) : d.cdcacmSuspend.Wired := by
  rw [Dev.cdcacmSuspend, uartConnected_false]
  exact h

theorem Wired.cdcacmResume {d : Dev} (h : d.Wired) : d.cdcacmResume.Wired := by
  unfold Dev.cdcacmResume
  split_ifs
  · rw [uartConnected_true]
    exact h
  · exact h

theorem cdcacmSuspend_off {d : Dev} (h : d.config = 0) :
    d.cdcacmSuspend.config = 0 ∧ d.cdcacmSuspend.nrdq = d.nrdq := by
  rw [cdcacmSuspend, uartConnected_false]
  exact ⟨h, rfl⟩

theorem cdcacmResume_off {d : Dev} (h : d.config = 0) :
    d.cdcacmResume.config = 0 ∧ d.cdcacmResume.nrdq = d.nrdq := by
  rw [cdcacmResume, if_neg (not_not_intro h)]
  exact ⟨h, rfl⟩

theorem cdcacmDisconnect_off {d : Dev} (h : d.config = 0) :
    (d.cdcacmDisconnect ctl).config = 0 ∧ (d.cdcacmDisconnect ctl).nrdq = d.nrdq := by
  obtain ⟨hcfg, hnrdq⟩ := cdcacmSuspend_off h
  rw [cdcacmDisconnect, ← cdcacmSuspend, cdcacmResetconfig_off hcfg]
  exact ⟨hcfg, hnrdq⟩

/-- Behind a disconnection the requests that were pending are the ones that are counted. -/
theorem Wired.cdcacmDisconnect {d : Dev} (h : d.Wired) (hctl : ctl.Working) :
    (d.cdcacmDisconnect ctl).Wired ∧ (d.cdcacmDisconnect ctl).config = 0 ∧
      (d.config = configid → (d.cdcacmDisconnect ctl).nrdq = d.rxpending.length) := by
  obtain ⟨hwired, hoff⟩ := h.cdcacmSuspend.cdcacmResetconfig hctl
  refine ⟨hwired, hoff, fun hcfg => ?_⟩
  have hne : d.config ≠ 0 := by rw [hcfg]; decide
  rw [Dev.cdcacmDisconnect, uartConnected_false, cdcacmResetconfig_on (by exact hne), hctl.disable]
  obtain ⟨-, -, hsub⟩ | ⟨hcfg₀, -⟩ := h
  · show d.nrdq - d.submitted = d.rxpending.length
    omega
  · exact absurd hcfg₀ hne

theorem submitLoop_eq (hctl : ctl.Working) (n : Nat) (d : Dev) (h : d.configured = true) :
    d.submitLoop ctl n = ({ d with
      submitted := d.submitted + n, nrdq := d.nrdq + n, calls := d.calls + n }, true) := by
  induction n generalizing d with
  | zero => rfl
  | succ n ih =>
    rw [submitLoop, hctl.submit, h]
    dsimp only
    rw [if_pos rfl, ih _ rfl]
    simp only [Nat.add_assoc, Nat.add_comm 1 n]

/-- The device is connected. -/
theorem cdcacmSetconfig_off (hctl : ctl.Working) {d : Dev} (h : d.config = 0) (hcount : d.nrdq = 0) :
    d.cdcacmSetconfig ctl configid = some { d with
      config := configid
      disconnected := false
      configured := true
      submitted := d.submitted + nrdreqs
      nrdq := nrdreqs
      calls := d.calls + 3 + nrdreqs } := by
  have hconfigures : ((List.range 3).all fun i => ctl.configure (d.calls + i)) = true :=
    List.all_eq_true.mpr fun i _ => hctl.configure _
  rw [cdcacmSetconfig, if_neg (by rw [h]; decide), cdcacmResetconfig_off h]
  dsimp only
  rw [if_neg (by decide), if_neg (by decide), if_pos hconfigures, if_pos hcount,
    submitLoop_eq hctl _ _ rfl]
  dsimp only
  rw [uartConnected_true, hcount, Nat.zero_add]

theorem Wired.cdcacmSetconfig {d d' : Dev} (h : d.Wired) (hctl : ctl.Working) (hinv : d.Inv)
    {config : Nat} (hd' : d.cdcacmSetconfig ctl config = some d') : d'.Wired := by
  by_cases hsame : config = d.config
  · rw [Dev.cdcacmSetconfig, if_pos hsame] at hd'
    exact Option.some.inj hd' ▸ h
  obtain ⟨hcfg, hon, hsub⟩ | ⟨hcfg, hoff, hsub⟩ := id h
  · -- the configuration that there is was the only one
    rw [Dev.cdcacmSetconfig, if_neg hsame] at hd'
    rw [hcfg] at hsame
    dsimp only at hd'
    split_ifs at hd' <;> exact Option.some.inj hd' ▸ (h.cdcacmResetconfig hctl).1
  · by_cases hid : config = configid
    · have hnrdq : d.nrdq = 0 := by
        by_contra hcount
        rw [hid, cdcacmSetconfig_eq_none hctl.configure hcfg hcount] at hd'
        exact absurd hd' (by simp)
      rw [hid, cdcacmSetconfig_off hctl hcfg hnrdq] at hd'
      obtain rfl := Option.some.inj hd'
      have hrequests := hinv.requests
      refine .inl ⟨rfl, rfl, ?_⟩
      dsimp only
      omega
    · rw [Dev.cdcacmSetconfig, if_neg hsame] at hd'
      dsimp only at hd'
      rw [if_neg (by rw [← hcfg]; exact hsame), if_pos hid] at hd'
      exact Option.some.inj hd' ▸ (h.cdcacmResetconfig hctl).1

end Dev

end Sprefence.Cdcacm

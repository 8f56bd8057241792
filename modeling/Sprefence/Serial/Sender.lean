import Sprefence.Serial.Driver

/-! The sending half of the USB serial device `/dev/ttyACM0`: the circular buffer of the serial
driver, and the write requests of the CDC/ACM class driver with the list of their containers. The
endpoint ends its requests in their order. -/

namespace Sprefence.Cdcacm

/-- `struct cdcacm_dev_s` with its `struct uart_dev_s`. -/
structure Tx where
  xmit : UartBuffer
  /-- Whether somebody has `xmit.sem`. -/
  locked : Bool
  /-- The number of the containers in the list. -/
  txfree : Nat
  nwrq : Nat
  /-- Whether the bulk IN endpoint is configured. -/
  configured : Bool
  /-- The bytes of the requests that the endpoint has. -/
  submitted : List (List UInt8)
  /-- The number of the requests that `EP_SUBMIT` has refused. -/
  refused : Nat
  /-- The calls of functions of the controller. -/
  calls : Nat
  config : Nat
  disconnected : Bool
  xmitwaiting : Bool
  /-- The count of the semaphore. -/
  xmitsem : Nat
  deriving DecidableEq, Repr

namespace Tx

open Dev (configid)

/-- `CONFIG_CDCACM_TXBUFSIZE` -/
def txbufsize : Nat := 769

/-- `CONFIG_CDCACM_NWRREQS` -/
def nwrreqs : Nat := 4

/-- `CONFIG_CDCACM_BULKIN_REQLEN`, which is more than the packets of the endpoint have. -/
def bulkinReqlen : Nat := 768

/-- The device is open and configured, and no byte has been written. -/
def opened : Tx :=
  ⟨⟨List.replicate txbufsize 0, 0, 0⟩, false, nwrreqs, nwrreqs, true, [], 0, 0, configid, false, false,
    0⟩

def uartDatasent (dev : Tx) : Tx :=
  if dev.xmitwaiting then { dev with xmitwaiting := false, xmitsem := dev.xmitsem + 1 } else dev

def uartConnected (dev : Tx) (connected : Bool) : Tx :=
  let dev := { dev with disconnected := !connected }
  if !connected && dev.xmitwaiting then
    { dev with xmitwaiting := false, xmitsem := dev.xmitsem + 1 }
  else dev

/-- The loop of `cdcacm_fillrequest` with the bytes of the request. The indices stay inside the
buffer. -/
def fillLoop : Nat → UartBuffer → UartBuffer × List UInt8
  | 0, xmit => (xmit, [])
  | room + 1, xmit =>
    if xmit.head = xmit.tail then (xmit, [])
    else
      let ch := xmit.buffer.getD xmit.tail 0
      let (xmit, bytes) := fillLoop room xmit.drop
      (xmit, ch :: bytes)

/-- To disable the transmit interrupt does nothing. -/
def cdcacmFillrequest (priv : Tx) (reqlen : Nat) : Tx × List UInt8 :=
  let (xmit, bytes) := fillLoop reqlen priv.xmit
  let priv := { priv with xmit := xmit }
  (if bytes ≠ [] then priv.uartDatasent else priv, bytes)

section Code

variable (ctl : Controller)

/-- The loop of `cdcacm_sndpacket`. -/
def sndLoop : Nat → Tx → Tx
  | 0, priv => priv
  | n + 1, priv =>
    let (priv, bytes) := priv.cdcacmFillrequest bulkinReqlen
    if bytes ≠ [] then
      let priv := { priv with txfree := priv.txfree - 1, nwrq := priv.nwrq - 1 }
      let taken := ctl.submit priv.calls priv.configured
      let priv := { priv with calls := priv.calls + 1 }
      if taken then sndLoop n { priv with submitted := priv.submitted ++ [bytes] }
      -- the container is in no list any more, and the bytes are gone
      else { priv with refused := priv.refused + 1 }
    else priv

def cdcacmSndpacket (priv : Tx) : Tx := sndLoop ctl priv.txfree priv

/-- How a request ends. -/
inductive WrResult
  | ok
  | shutdown
  | error
  deriving DecidableEq, Repr

/-- The oldest request ends. -/
def cdcacmWrcomplete (priv : Tx) (result : WrResult) : Tx :=
  let priv := { priv with
    submitted := priv.submitted.tail, txfree := priv.txfree + 1, nwrq := priv.nwrq + 1 }
  match result with
  | .ok => priv.cdcacmSndpacket ctl
  | .shutdown => priv
  | .error => priv

def cdcuartTxint (priv : Tx) (enable : Bool) : Tx :=
  if enable && priv.xmit.head ≠ priv.xmit.tail then priv.cdcacmSndpacket ctl else priv

def cdcuartTxempty (priv : Tx) : Bool := nwrreqs ≤ priv.nwrq

/-- The `n` oldest requests end. -/
def shutdowns : Nat → Tx → Tx
  | 0, priv => priv
  | n + 1, priv => shutdowns n (priv.cdcacmWrcomplete ctl .shutdown)

/-- `EP_DISABLE` of the bulk IN endpoint. -/
def epDisable (priv : Tx) : Tx :=
  let ended := ctl.disable priv.calls priv.submitted.length
  shutdowns ctl ended { priv with configured := false, calls := priv.calls + 1 }

def cdcacmResetconfig (priv : Tx) : Tx :=
  if priv.config ≠ 0 then
    let priv := { priv with config := 0 }
    let priv := priv.uartConnected false
    priv.epDisable ctl
  else priv

/-- The bulk OUT endpoint is configured and takes the read requests. -/
def readsSubmitted (calls : Nat) : Bool :=
  ctl.configure calls && (List.range Dev.nrdreqs).all fun i => ctl.submit (calls + 1 + i) true

/-- The assertion is about the read requests. -/
def cdcacmSetconfig (priv : Tx) (config : Nat) : Tx :=
  if config = priv.config then priv
  else
    let priv := priv.cdcacmResetconfig ctl
    if config = 0 then priv
    else if config ≠ configid then priv
    else
      -- the interrupt IN and the bulk IN endpoint, and then the bulk OUT endpoint
      let calls := priv.calls
      let priv := { priv with calls := calls + 3 + Dev.nrdreqs }
      if ctl.configure calls && ctl.configure (calls + 1) then
        let priv := { priv with configured := true }
        if readsSubmitted ctl (calls + 2) then { priv with config := config }.uartConnected true
        else priv.cdcacmResetconfig ctl
      else priv.cdcacmResetconfig ctl

def cdcacmDisconnect (priv : Tx) : Tx :=
  let priv := (priv.uartConnected false).cdcacmResetconfig ctl
  { priv with xmit := priv.xmit.reset }

def cdcacmSuspend (priv : Tx) : Tx := priv.uartConnected false

def cdcacmResume (priv : Tx) : Tx := if priv.config ≠ 0 then priv.uartConnected true else priv

end Code

variable {ctl : Controller}

/-! ## What the functions do -/

/-- What holds between the functions of the driver. A container is in the list, with the endpoint,
or lost with a request that was refused. -/
structure Inv (d : Tx) : Prop where
  valid : d.xmit.Valid
  size : d.xmit.size = txbufsize
  nwrq : d.nwrq = d.txfree
  containers : d.txfree + d.submitted.length + d.refused = nwrreqs
  connected : d.config = configid ∨ d.config = 0 ∧ d.disconnected = true

theorem Inv.locked {d : Tx} (h : d.Inv) (locked : Bool) : Inv { d with locked := locked } :=
  ⟨h.valid, h.size, h.nwrq, h.containers, h.connected⟩

theorem Inv.xmitsem {d : Tx} (h : d.Inv) (xmitsem : Nat) : Inv { d with xmitsem := xmitsem } :=
  ⟨h.valid, h.size, h.nwrq, h.containers, h.connected⟩

theorem Inv.waiting {d : Tx} (h : d.Inv) : Inv { d with xmitwaiting := true } :=
  ⟨h.valid, h.size, h.nwrq, h.containers, h.connected⟩

theorem Inv.xmit {d : Tx} (h : d.Inv) {xmit : UartBuffer} (hvalid : xmit.Valid)
    (hsize : xmit.size = d.xmit.size) : Inv { d with xmit := xmit } :=
  ⟨hvalid, hsize.trans h.size, h.nwrq, h.containers, h.connected⟩

/-- A request with room for all bytes gets all of them. -/
theorem fillLoop_eq (room : Nat) (r : UartBuffer) (h : r.Valid) (hroom : r.contents.length ≤ room) :
    fillLoop room r = (r.flush, r.contents) := by
  induction room generalizing r with
  | zero =>
    have hnil := List.length_eq_zero_iff.mp (Nat.le_zero.mp hroom)
    rw [fillLoop, hnil, CircularBuffer.flush_of_empty ((CircularBuffer.contents_eq_nil_iff h).mp hnil)]
  | succ room ih =>
    rw [fillLoop]
    split_ifs with hempty
    · rw [CircularBuffer.flush_of_empty hempty, (CircularBuffer.contents_eq_nil_iff h).mpr hempty]
    · obtain ⟨ch, hch, hcont⟩ := CircularBuffer.contents_drop h hempty
      rw [hcont, List.length_cons] at hroom
      dsimp only
      rw [ih r.drop h.drop (Nat.le_of_succ_le_succ hroom), List.getD_eq_getElem?_getD, hch, hcont]
      rfl

/-- The bytes of the circular buffer have gone into one request. -/
def flushed (d : Tx) (taken : Bool) : Tx :=
  { d with
    xmit := d.xmit.flush
    txfree := d.txfree - 1
    nwrq := d.nwrq - 1
    submitted := if taken then d.submitted ++ [d.xmit.contents] else d.submitted
    refused := d.refused + (!taken).toNat
    calls := d.calls + 1
    xmitwaiting := false
    xmitsem := d.xmitsem + d.xmitwaiting.toNat }

theorem uartDatasent_eq (d : Tx) :
    d.uartDatasent = { d with xmitwaiting := false, xmitsem := d.xmitsem + d.xmitwaiting.toNat } := by
  obtain ⟨_, _, _, _, _, _, _, _, _, _, waiting, _⟩ := d
  cases waiting <;> rfl

theorem sndLoop_of_empty (n : Nat) {d : Tx} (h : d.xmit.head = d.xmit.tail) : sndLoop ctl n d = d := by
  cases n with
  | zero => rfl
  | succ n =>
    have hfill : fillLoop bulkinReqlen d.xmit = (d.xmit, []) := if_pos h
    rw [sndLoop, cdcacmFillrequest, hfill]
    rfl

/-- Since a request has room for the whole buffer, the loop fills one request at most. -/
theorem cdcacmSndpacket_eq (ctl : Controller) {d : Tx} (h : d.Inv) :
    d.cdcacmSndpacket ctl = if d.txfree = 0 ∨ d.xmit.head = d.xmit.tail then d
      else d.flushed (ctl.submit d.calls d.configured) := by
  rw [cdcacmSndpacket]
  split_ifs with hcase
  · obtain hfree | hempty := hcase
    · rw [hfree]
      rfl
    · exact sndLoop_of_empty _ hempty
  · obtain ⟨hfree, hne⟩ := not_or.mp hcase
    obtain ⟨n, hn⟩ := Nat.exists_eq_succ_of_ne_zero hfree
    have hcont : d.xmit.contents ≠ [] := fun hnil =>
      hne ((CircularBuffer.contents_eq_nil_iff h.valid).mp hnil)
    have hroom : d.xmit.contents.length ≤ bulkinReqlen := by
      have hlt := CircularBuffer.length_contents_lt h.valid
      rw [h.size] at hlt
      exact Nat.le_of_lt_succ hlt
    rw [hn, sndLoop, cdcacmFillrequest, fillLoop_eq _ _ h.valid hroom]
    dsimp only
    rw [if_pos hcont, if_pos hcont, uartDatasent_eq]
    dsimp only
    cases htaken : ctl.submit d.calls d.configured with
    | true =>
      rw [if_pos rfl, sndLoop_of_empty n rfl]
      rfl
    | false => rfl

theorem opened_inv : opened.Inv where
  valid := by
    constructor
    all_goals
      show 0 < (List.replicate txbufsize (0 : UInt8)).length
      rw [List.length_replicate]
      decide
  size := List.length_replicate
  nwrq := rfl
  containers := rfl
  connected := .inl rfl

theorem flushed_inv {d : Tx} (h : d.Inv) (hfree : d.txfree ≠ 0) (taken : Bool) :
    (d.flushed taken).Inv := by
  have hcontainers := h.containers
  refine ⟨h.valid.flush, h.size, ?_, ?_, h.connected⟩
  · show d.nwrq - 1 = d.txfree - 1
    rw [h.nwrq]
  · cases taken with
    | true =>
      show d.txfree - 1 + (d.submitted ++ [d.xmit.contents]).length + d.refused = nwrreqs
      rw [List.length_append, List.length_singleton]
      omega
    | false =>
      show d.txfree - 1 + d.submitted.length + (d.refused + 1) = nwrreqs
      omega

theorem cdcacmSndpacket_inv (ctl : Controller) {d : Tx} (h : d.Inv) : (d.cdcacmSndpacket ctl).Inv := by
  rw [cdcacmSndpacket_eq ctl h]
  split_ifs with hcase
  · exact h
  · exact flushed_inv h (not_or.mp hcase).1 _

theorem cdcuartTxint_eq (ctl : Controller) (d : Tx) :
    d.cdcuartTxint ctl true = d.cdcacmSndpacket ctl := by
  rw [cdcuartTxint]
  split_ifs with hne
  · rfl
  · have hempty : d.xmit.head = d.xmit.tail := by simpa using hne
    exact (sndLoop_of_empty _ hempty).symm

/-- The oldest request has ended. -/
def completed (d : Tx) : Tx :=
  { d with submitted := d.submitted.tail, txfree := d.txfree + 1, nwrq := d.nwrq + 1 }

theorem cdcacmWrcomplete_ok (ctl : Controller) (d : Tx) :
    d.cdcacmWrcomplete ctl .ok = d.completed.cdcacmSndpacket ctl := rfl

theorem completed_inv {d : Tx} (h : d.Inv) (hsub : d.submitted ≠ []) : d.completed.Inv := by
  have hpos := List.length_pos_iff.mpr hsub
  have hcontainers := h.containers
  refine ⟨h.valid, h.size, congrArg (· + 1) h.nwrq, ?_, h.connected⟩
  show d.txfree + 1 + d.submitted.tail.length + d.refused = nwrreqs
  rw [List.length_tail]
  omega

theorem shutdowns_eq (n : Nat) (d : Tx) (h : n ≤ d.submitted.length) :
    shutdowns ctl n d = { d with
      submitted := d.submitted.drop n, txfree := d.txfree + n, nwrq := d.nwrq + n } := by
  induction n generalizing d with
  | zero => rfl
  | succ n ih =>
    rw [shutdowns, ih _ (by rw [cdcacmWrcomplete, List.length_tail]; omega), cdcacmWrcomplete]
    dsimp only
    rw [Nat.add_right_comm, Nat.add_right_comm d.nwrq, List.drop_tail]
    rfl

theorem uartConnected_false (d : Tx) : d.uartConnected false = { d with
    disconnected := true, xmitwaiting := false, xmitsem := d.xmitsem + d.xmitwaiting.toNat } := by
  unfold uartConnected
  cases d.xmitwaiting <;> simp

theorem uartConnected_true (d : Tx) : d.uartConnected true = { d with disconnected := false } := by
  simp [uartConnected]

/-- The connection is lost. A writer that waits is woken, and the containers of the `ended` oldest
requests come back. -/
def unplugged (d : Tx) (ended : Nat) : Tx :=
  { d with
    config := 0
    disconnected := true
    xmitwaiting := false
    xmitsem := d.xmitsem + d.xmitwaiting.toNat
    configured := false
    calls := d.calls + 1
    submitted := d.submitted.drop ended
    txfree := d.txfree + ended
    nwrq := d.nwrq + ended }

theorem cdcacmResetconfig_on {d : Tx} (h : d.config ≠ 0) :
    d.cdcacmResetconfig ctl = d.unplugged (ctl.disable d.calls d.submitted.length) := by
  rw [cdcacmResetconfig, if_pos h]
  dsimp only
  rw [uartConnected_false, epDisable]
  dsimp only
  rw [shutdowns_eq _ _ (by exact ctl.disable_le _ _)]
  rfl

theorem cdcacmResetconfig_off {d : Tx} (h : d.config = 0) : d.cdcacmResetconfig ctl = d :=
  if_neg (not_not_intro h)

/-- A connection comes or goes, and the circular buffer stays. -/
structure Rewired (d d' : Tx) : Prop where
  xmit : d'.xmit = d.xmit
  locked : d'.locked = d.locked
  /-- Some of the oldest requests have ended. -/
  submitted : d'.submitted <:+ d.submitted
  containers : d'.txfree + d'.submitted.length = d.txfree + d.submitted.length
  nwrq : d.nwrq = d.txfree → d'.nwrq = d'.txfree
  refused : d'.refused = d.refused
  connected : d.config = configid ∨ d.config = 0 ∧ d.disconnected = true →
    d'.config = configid ∨ d'.config = 0 ∧ d'.disconnected = true
  /-- A writer that waits is woken when the connection is lost. -/
  roused : d'.xmitsem = 0 → d.xmitsem = 0 ∧ (d.xmitwaiting = true → d'.xmitwaiting = true)

theorem Rewired.inv {d d' : Tx} (h : d.Rewired d') (hinv : d.Inv) : d'.Inv := by
  refine ⟨?_, ?_, h.nwrq hinv.nwrq, ?_, h.connected hinv.connected⟩
  · rw [h.xmit]
    exact hinv.valid
  · rw [h.xmit]
    exact hinv.size
  · rw [h.containers, h.refused]
    exact hinv.containers

theorem Rewired.refl (d : Tx) : d.Rewired d :=
  ⟨rfl, rfl, List.suffix_rfl, rfl, id, rfl, id, fun h => ⟨h, id⟩⟩

theorem Rewired.trans {d d' d'' : Tx} (h : d.Rewired d') (h' : d'.Rewired d'') : d.Rewired d'' :=
  ⟨h'.xmit.trans h.xmit, h'.locked.trans h.locked, h'.submitted.trans h.submitted,
    h'.containers.trans h.containers, h'.nwrq ∘ h.nwrq, h'.refused.trans h.refused,
    h'.connected ∘ h.connected,
    fun hsem => ⟨(h.roused (h'.roused hsem).1).1, (h'.roused hsem).2 ∘ (h.roused (h'.roused hsem).1).2⟩⟩

theorem Rewired.called (d : Tx) (configured : Bool) (calls : Nat) :
    d.Rewired { d with configured := configured, calls := calls } :=
  ⟨rfl, rfl, List.suffix_rfl, rfl, id, rfl, id, fun h => ⟨h, id⟩⟩

theorem cdcacmSuspend_rewired (d : Tx) : d.Rewired d.cdcacmSuspend := by
  rw [cdcacmSuspend, uartConnected_false]
  refine ⟨rfl, rfl, List.suffix_rfl, rfl, id, rfl, Or.imp_right fun h => ⟨h.1, rfl⟩, fun hsem => ?_⟩
  obtain ⟨hsem₀, hw⟩ := Nat.add_eq_zero_iff.mp hsem
  refine ⟨hsem₀, fun hwait => ?_⟩
  rw [hwait] at hw
  exact absurd hw (by decide)

theorem cdcacmResume_rewired (d : Tx) : d.Rewired d.cdcacmResume := by
  unfold cdcacmResume
  split_ifs with hcfg
  · rw [uartConnected_true]
    exact ⟨rfl, rfl, List.suffix_rfl, rfl, id, rfl, Or.imp_right fun h => absurd h.1 hcfg,
      fun h => ⟨h, id⟩⟩
  · exact .refl d

theorem cdcacmResetconfig_rewired (ctl : Controller) (d : Tx) : d.Rewired (d.cdcacmResetconfig ctl) := by
  by_cases hcfg : d.config = 0
  · rw [cdcacmResetconfig_off hcfg]
    exact .refl d
  · rw [cdcacmResetconfig_on hcfg]
    have hended := ctl.disable_le d.calls d.submitted.length
    refine ⟨rfl, rfl, List.drop_suffix _ _, ?_, fun h => congrArg (· + _) h, rfl,
      fun _ => .inr ⟨rfl, rfl⟩, ?_⟩
    · show d.txfree + _ + (d.submitted.drop _).length = _
      rw [List.length_drop]
      omega
    · have hsuspend := (cdcacmSuspend_rewired d).roused
      rw [cdcacmSuspend, uartConnected_false] at hsuspend
      exact hsuspend

theorem cdcacmSetconfig_rewired (ctl : Controller) (d : Tx) (config : Nat) :
    d.Rewired (d.cdcacmSetconfig ctl config) := by
  have hreset := cdcacmResetconfig_rewired ctl d
  rw [cdcacmSetconfig]
  by_cases hsame : config = d.config
  · rw [if_pos hsame]
    exact .refl d
  rw [if_neg hsame]
  dsimp only
  by_cases hzero : config = 0
  · rw [if_pos hzero]
    exact hreset
  rw [if_neg hzero]
  by_cases hid : config = configid
  · rw [if_neg (not_not_intro hid)]
    generalize d.cdcacmResetconfig ctl = priv at hreset
    split_ifs
    · rw [uartConnected_true]
      exact hreset.trans ⟨rfl, rfl, List.suffix_rfl, rfl, id, rfl, fun _ => .inl hid, fun h => ⟨h, id⟩⟩
    · exact (hreset.trans (.called priv _ _)).trans (cdcacmResetconfig_rewired ctl _)
    · exact (hreset.trans (.called priv _ _)).trans (cdcacmResetconfig_rewired ctl _)
  · rw [if_pos hid]
    exact hreset

theorem Inv.reset {d : Tx} (h : d.Inv) : Inv { d with xmit := d.xmit.reset } :=
  ⟨h.valid.reset, h.size, h.nwrq, h.containers, h.connected⟩

/-- The cable is pulled, and the circular buffer is cleared. -/
theorem cdcacmDisconnect_rewired (ctl : Controller) (d : Tx) :
    ∃ d', d.Rewired d' ∧ d.cdcacmDisconnect ctl = { d' with xmit := d'.xmit.reset } :=
  ⟨_, (cdcacmSuspend_rewired d).trans (cdcacmResetconfig_rewired ctl _), rfl⟩

/-! ## An endpoint that takes requests exactly while it is connected -/

/-- Over a connection the endpoint takes every request. Without one it takes none, and has none. -/
def Wired (ctl : Controller) (d : Tx) : Prop :=
  d.config = configid ∧ (∀ n, ctl.submit n d.configured = true) ∨
    d.config = 0 ∧ (∀ n, ctl.submit n d.configured = false) ∧ d.submitted = []

theorem Wired.of_submitted {d : Tx} (h : d.Wired ctl) (hsub : d.submitted ≠ []) : d.config ≠ 0 := by
  obtain ⟨hcfg, -⟩ | ⟨-, -, hnone⟩ := h
  · rw [hcfg]
    decide
  · exact absurd hnone hsub

theorem Wired.taken {d : Tx} (h : d.Wired ctl) (hon : d.config ≠ 0) (n : Nat) :
    ctl.submit n d.configured = true := by
  obtain ⟨-, htaken⟩ | ⟨hcfg, -⟩ := h
  · exact htaken n
  · exact absurd hcfg hon

theorem Wired.off {d : Tx} (h : d.Wired ctl) (hoff : d.config = 0) :
    (∀ n, ctl.submit n d.configured = false) ∧ d.submitted = [] := by
  obtain ⟨hcfg, -⟩ | ⟨-, hrest⟩ := h
  · exact absurd (hcfg.symm.trans hoff) (by decide)
  · exact hrest

theorem Wired.sndpacket {d : Tx} (h : d.Wired ctl) (hinv : d.Inv) : (d.cdcacmSndpacket ctl).Wired ctl := by
  rw [cdcacmSndpacket_eq ctl hinv]
  split_ifs
  · exact h
  · obtain hon | ⟨hcfg, hrefused, hsub⟩ := h
    · exact .inl hon
    · refine .inr ⟨hcfg, hrefused, ?_⟩
      rw [hrefused]
      exact hsub

theorem Wired.completed {d : Tx} (h : d.Wired ctl) (hsub : d.submitted ≠ []) : d.completed.Wired ctl := by
  obtain hon | ⟨-, -, hnone⟩ := h
  · exact .inl hon
  · exact absurd hnone hsub

theorem Wired.cdcacmSuspend {d : Tx} (h : d.Wired ctl) : d.cdcacmSuspend.Wired ctl := by
  rw [Tx.cdcacmSuspend, uartConnected_false]
  exact h

theorem Wired.cdcacmResume {d : Tx} (h : d.Wired ctl) : d.cdcacmResume.Wired ctl := by
  unfold Tx.cdcacmResume
  split_ifs
  · rw [uartConnected_true]
    exact h
  · exact h

theorem unplugged_wired (hctl : ctl.Working) (d : Tx) :
    (d.unplugged d.submitted.length).Wired ctl :=
  .inr ⟨rfl, fun n => hctl.submit n false, List.drop_length⟩

/-- The connection begins. -/
def plugged (d : Tx) : Tx :=
  { d with
    config := configid
    disconnected := false
    configured := true
    calls := d.calls + 3 + Dev.nrdreqs }

theorem plugged_wired (hctl : ctl.Working) (d : Tx) : d.plugged.Wired ctl :=
  .inl ⟨rfl, fun n => hctl.submit n true⟩

theorem cdcacmSetconfig_off (hctl : ctl.Working) {d : Tx} (h : d.config = 0) :
    d.cdcacmSetconfig ctl configid = d.plugged := by
  have hreads : readsSubmitted ctl (d.calls + 2) = true := by
    rw [readsSubmitted, hctl.configure, Bool.true_and]
    exact List.all_eq_true.mpr fun i _ => hctl.submit _ true
  rw [cdcacmSetconfig, if_neg (by rw [h]; decide), cdcacmResetconfig_off h]
  dsimp only
  rw [if_neg (by decide), if_neg (by decide), hctl.configure, hctl.configure, Bool.and_self, if_pos rfl,
    if_pos hreads,
    uartConnected_true]
  rfl

/-- What a request for a configuration does with a controller that has no errors. -/
theorem cdcacmSetconfig_cases (hctl : ctl.Working) {d : Tx} (h : d.Inv) (config : Nat) :
    d.cdcacmSetconfig ctl config = d ∨
      d.config = configid ∧ d.cdcacmSetconfig ctl config = d.unplugged d.submitted.length ∨
      d.config = 0 ∧ d.cdcacmSetconfig ctl config = d.plugged := by
  by_cases hsame : config = d.config
  · exact .inl (if_pos hsame)
  obtain hcfg | ⟨hcfg, -⟩ := h.connected
  · have hid : config ≠ configid := by rw [← hcfg]; exact hsame
    refine .inr (.inl ⟨hcfg, ?_⟩)
    rw [cdcacmSetconfig, if_neg hsame, cdcacmResetconfig_on (by rw [hcfg]; decide), hctl.disable]
    dsimp only
    split_ifs <;> rfl
  · by_cases hid : config = configid
    · rw [hid]
      exact .inr (.inr ⟨hcfg, cdcacmSetconfig_off hctl hcfg⟩)
    · refine .inl ?_
      rw [cdcacmSetconfig, if_neg hsame, cdcacmResetconfig_off hcfg]
      dsimp only
      rw [if_neg (by rw [← hcfg]; exact hsame), if_pos hid]

theorem Wired.cdcacmSetconfig {d : Tx} (h : d.Wired ctl) (hctl : ctl.Working) (hinv : d.Inv)
    (config : Nat) : (d.cdcacmSetconfig ctl config).Wired ctl := by
  obtain heq | ⟨-, heq⟩ | ⟨-, heq⟩ := cdcacmSetconfig_cases hctl hinv config <;> rw [heq]
  · exact h
  · exact unplugged_wired hctl d
  · exact plugged_wired hctl d

/-- The cable is pulled. -/
theorem cdcacmDisconnect_cases (hctl : ctl.Working) {d : Tx} (h : d.Inv) (hw : d.Wired ctl) :
    (d.cdcacmDisconnect ctl).xmit = d.xmit.reset ∧ (d.cdcacmDisconnect ctl).config = 0 ∧
      (d.cdcacmDisconnect ctl).Wired ctl := by
  rw [cdcacmDisconnect, uartConnected_false]
  obtain hcfg | ⟨hcfg, -⟩ := h.connected
  · rw [cdcacmResetconfig_on (by show d.config ≠ 0; rw [hcfg]; decide), hctl.disable]
    exact ⟨rfl, rfl, unplugged_wired hctl d⟩
  · rw [cdcacmResetconfig_off (by exact hcfg)]
    exact ⟨rfl, hcfg, hw⟩

end Tx

end Sprefence.Cdcacm

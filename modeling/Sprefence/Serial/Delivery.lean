import Sprefence.Serial.Transmit

/-! The bytes on their way from a program to the host. Over one connection the host gets what was
written, once and in order, unless the cable is pulled in the middle of `uart_putxmitchar` or a
`tcdrain` begins while the bus is suspended. -/

namespace Sprefence.Cdcacm.Tx

open PartialRuns

/-- The bytes that the host is still to get. -/
def queued (d : Tx) : List UInt8 := d.submitted.flatten ++ d.xmit.contents

/-- The characters that a call has stored. -/
def Done.stored : Done → List UInt8
  | .write call _ => call.stored
  | .drain _ => []

def Thread.stored : Thread → List UInt8
  | .write call _ => call.stored
  | .drain _ => []

/-- The program is in the middle of `uart_putxmitchar`. -/
def Thread.putting : Thread → Bool
  | .write _ (.test _) => true
  | .write _ (.store _) => true
  | .write _ (.advance _) => true
  | .write _ (.block _) => true
  | .write _ (.asleep _) => true
  | .write _ (.woken _ _) => true
  | _ => false

/-- The index of the program is the one behind `head`. -/
def Thread.Aimed (d : Tx) : Thread → Prop
  | .write _ (.test nexthead) => nexthead = d.xmit.next d.xmit.head
  | .write _ (.store nexthead) => nexthead = d.xmit.next d.xmit.head ∧ nexthead ≠ d.xmit.tail
  | .write call (.advance nexthead) => nexthead = d.xmit.next d.xmit.head ∧
      nexthead ≠ d.xmit.tail ∧ d.xmit.buffer[d.xmit.head]? = call.chars.head?
  | .write _ (.block nexthead) => nexthead = d.xmit.next d.xmit.head
  | .write _ (.asleep nexthead) => nexthead = d.xmit.next d.xmit.head
  | .write _ (.woken nexthead _) => nexthead = d.xmit.next d.xmit.head
  | _ => True

theorem Thread.Aimed.of_not_putting {d : Tx} {t : Thread} (h : t.putting = false) : t.Aimed d := by
  cases t with
  | write call pc =>
    cases pc with
    | start | next | leave _ => trivial
    | test _ | store _ | advance _ | block _ | asleep _ | woken _ _ =>
      exact absurd h (by simp [Thread.putting])
  | drain pc => trivial

theorem next_ne_head {d : Tx} (h : d.Inv) : d.xmit.next d.xmit.head ≠ d.xmit.head := by
  have hsize := h.size
  unfold txbufsize at hsize
  unfold CircularBuffer.next
  split_ifs <;> omega

/-- The driver keeps the index `head` and the stored characters. -/
structure Kept (d d' : Tx) : Prop where
  buffer : d'.xmit.buffer = d.xmit.buffer
  head : d'.xmit.head = d.xmit.head
  tail : d'.xmit.tail = d.xmit.tail ∨ d'.xmit.tail = d.xmit.head

theorem Kept.aimed {d d' : Tx} (hk : Kept d d') (h : d.Inv) {t : Thread} (ht : t.Aimed d) :
    t.Aimed d' := by
  have hnext : d'.xmit.next d'.xmit.head = d.xmit.next d.xmit.head := by
    rw [CircularBuffer.next, CircularBuffer.size, hk.buffer, hk.head]
    rfl
  have htail : ∀ n, n = d.xmit.next d.xmit.head → n ≠ d.xmit.tail → n ≠ d'.xmit.tail := by
    rintro n rfl hne
    obtain htail | htail := hk.tail
    · rw [htail]
      exact hne
    · rw [htail]
      exact next_ne_head h
  cases t with
  | write call pc =>
    cases pc with
    | start | next | leave _ => trivial
    | test nexthead | block nexthead | asleep nexthead | woken nexthead _ => exact ht.trans hnext.symm
    | store nexthead => exact ⟨ht.1.trans hnext.symm, htail nexthead ht.1 ht.2⟩
    | advance nexthead =>
      refine ⟨ht.1.trans hnext.symm, htail nexthead ht.1 ht.2.1, ?_⟩
      rw [hk.buffer, hk.head]
      exact ht.2.2
  | drain pc => trivial

/-- What `cdcacm_sndpacket` does with the bytes: without a connection they are gone. -/
theorem sndpacket_queued {ctl : Controller} {d : Tx} (h : d.Inv) (hw : d.Wired ctl) :
    Kept d (d.cdcacmSndpacket ctl) ∧ (d.cdcacmSndpacket ctl).config = d.config ∧
      ∃ gone, d.queued = gone ++ (d.cdcacmSndpacket ctl).queued ∧ (d.config ≠ 0 → gone = []) := by
  rw [cdcacmSndpacket_eq ctl h]
  split_ifs with hcase
  · exact ⟨⟨rfl, rfl, .inl rfl⟩, rfl, [], rfl, fun _ => rfl⟩
  · refine ⟨⟨rfl, rfl, .inr rfl⟩, rfl, ?_⟩
    have hcont : ∀ taken, (d.flushed taken).xmit.contents = [] :=
      fun _ => CircularBuffer.contents_flush h.valid
    by_cases hcfg : d.config = 0
    · obtain ⟨hrefused, hsub⟩ := hw.off hcfg
      refine ⟨d.queued, ?_, fun hne => absurd hcfg hne⟩
      have hnone : (d.flushed false).queued = [] := by
        rw [queued, hcont, List.append_nil]
        exact congrArg List.flatten hsub
      rw [hrefused, hnone, List.append_nil]
    · refine ⟨[], ?_, fun _ => rfl⟩
      rw [hw.taken hcfg, List.nil_append, queued, queued, hcont, List.append_nil]
      show d.submitted.flatten ++ d.xmit.contents = (d.submitted ++ [d.xmit.contents]).flatten
      rw [List.flatten_append, List.flatten_singleton]

/-- The bytes that a call returns as written. -/
def written : Except Errno Nat → Nat
  | .ok n => n
  | .error _ => 0

/-- A call has stored the characters of the bytes it returns as written, and at most a carriage
return of the next byte. -/
theorem Done.Returned.stored {oflag : Nat} {call : Write} {result : Except Errno Nat}
    (h : (Done.write call result).Returned oflag) :
    written result ≤ call.buffer.length ∧
      ∃ part, call.stored = (call.buffer.take (written result)).flatMap (outputChars oflag) ++ part ∧
        part.length ≤ 1 ∧ (written result = call.buffer.length → part = []) := by
  obtain ⟨⟨part, hstored, hpart⟩, hdone⟩ : call.Progress oflag ∧ written result = call.done := by
    cases result with
    | ok n => exact h
    | error err => exact ⟨h.1, h.2.symm⟩
  rw [hdone]
  obtain ⟨rfl, -, hle⟩ | ⟨hchars, ch, hch, hout⟩ := hpart
  · exact ⟨hle, [], hstored, Nat.zero_le _, fun _ => rfl⟩
  · obtain ⟨hlt, -⟩ := List.getElem?_eq_some_iff.mp hch
    refine ⟨Nat.le_of_lt hlt, part, hstored, ?_, fun hall => absurd hlt (by omega)⟩
    have htwo : (outputChars oflag ch).length ≤ 2 := by
      unfold outputChars
      dsimp only
      split_ifs <;> simp
    have hpos := List.length_pos_iff.mpr hchars
    rw [hout, List.length_append] at htwo
    omega

namespace System

variable {ctl : Controller} {oflag : Nat} {s s' : System} {missed : List UInt8}

/-- The characters that have been stored. -/
def puts (s : System) : List UInt8 :=
  s.log.flatMap Done.stored ++ (s.thread.map Thread.stored).getD []

/-- The host has got, or is to get, all characters but the first ones. -/
structure Flow (missed : List UInt8) (s : System) : Prop where
  aimed : ∀ t ∈ s.thread, t.Aimed s.tx
  puts : s.puts = missed ++ (s.host ++ s.tx.queued)
  off : s.tx.config = 0 → s.host = []

/-- The bytes move on; over a connection none of them is lost. -/
def Flows (missed : List UInt8) (s s' : System) : Prop :=
  ∃ missed', Flow missed' s' ∧ (s.tx.config ≠ 0 → missed' = missed) ∧ s'.tx.config = s.tx.config

/-- Some bytes that were queued may be gone. -/
theorem Flow.moved (h : Flow missed s) {d : Tx} {gone : List UInt8}
    (hqueued : s.tx.queued = gone ++ d.queued) (hgone : s.tx.config ≠ 0 → gone = [])
    (hcfg : d.config = s.tx.config) {t : Option Thread} {log : List Done}
    (hputs : log.flatMap Done.stored ++ (t.map Thread.stored).getD [] = s.puts)
    (haimed : ∀ t' ∈ t, t'.Aimed d) : Flows missed s ⟨d, t, s.host, log⟩ := by
  refine ⟨missed ++ gone, ⟨haimed, ?_, fun hoff => h.off (hcfg.symm.trans hoff)⟩, fun hon => ?_, hcfg⟩
  · by_cases hon : s.tx.config = 0
    · refine hputs.trans (h.puts.trans ?_)
      rw [hqueued, h.off hon]
      simp only [List.nil_append, List.append_assoc]
    · refine hputs.trans (h.puts.trans ?_)
      rw [hqueued, hgone hon]
      simp only [List.nil_append, List.append_nil]
  · rw [hgone hon, List.append_nil]

/-! ## The steps of the program -/

theorem puts_thread {t : Thread} (ht : s.thread = some t) :
    s.puts = s.log.flatMap Done.stored ++ t.stored := by
  rw [puts, ht]
  rfl

/-- A call goes on. -/
theorem Flow.goOn (h : Flow missed s) {t t' : Thread} (ht : s.thread = some t)
    (hstored : t'.stored = t.stored) {d : Tx} {gone : List UInt8}
    (hqueued : s.tx.queued = gone ++ d.queued) (hgone : s.tx.config ≠ 0 → gone = [])
    (hcfg : d.config = s.tx.config) (haimed : t'.Aimed d) :
    Flows missed s { s with tx := d, thread := some t' } := by
  refine h.moved hqueued hgone hcfg ?_ fun t'' ht'' => ?_
  · rw [puts_thread ht, ← hstored]
    rfl
  · obtain rfl := Option.some.inj ht''
    exact haimed

/-- A write goes on, and no bytes move. -/
theorem Flow.goto (h : Flow missed s) {call call' : Write} {pc pc' : Pc} {d : Tx}
    (ht : s.thread = some (.write call pc)) (haimed : (Thread.write call' pc').Aimed d)
    (hqueued : d.queued = s.tx.queued) (hcfg : d.config = s.tx.config)
    (hstored : call'.stored = call.stored) : Flows missed s ({ s with tx := d }.goto call' pc') :=
  h.goOn ht (by exact hstored) (by rw [hqueued, List.nil_append]) (fun _ => rfl) hcfg haimed

/-- A call returns. -/
theorem Flow.finish (h : Flow missed s) {t : Thread} (ht : s.thread = some t) {done : Done}
    (hstored : done.stored = t.stored) {d : Tx} {gone : List UInt8}
    (hqueued : s.tx.queued = gone ++ d.queued) (hgone : s.tx.config ≠ 0 → gone = [])
    (hcfg : d.config = s.tx.config) : Flows missed s ({ s with tx := d }.finish done) := by
  refine h.moved hqueued hgone hcfg ?_ fun t' ht' => absurd ht' (by simp)
  rw [puts_thread ht, ← hstored, List.flatMap_append, List.flatMap_singleton]
  exact List.append_nil _

theorem awaitRoom_queued {d : Tx} (h : d.Inv) (hw : d.Wired ctl) :
    Kept d (d.awaitRoom ctl) ∧ (d.awaitRoom ctl).config = d.config ∧
      ∃ gone, d.queued = gone ++ (d.awaitRoom ctl).queued ∧ (d.config ≠ 0 → gone = []) := by
  rw [awaitRoom_eq]
  obtain ⟨hkept, hcfg, hgone⟩ := sndpacket_queued h.waiting (by exact hw)
  exact ⟨⟨hkept.buffer, hkept.head, hkept.tail⟩, hcfg, hgone⟩

/-- The character is put into the circular buffer. -/
theorem advance_flow (h : Inv oflag s) (hf : Flow missed s) {call : Write} {nexthead : Nat}
    (ht : s.thread = some (.write call (.advance nexthead)))
    (hs' : s.uartWrite ctl oflag call (.advance nexthead) = some s') : Flows missed s s' := by
  obtain ⟨rfl, hfree, hcell⟩ : _ ∧ _ ∧ _ := hf.aimed _ ht
  rw [uartWrite] at hs'
  split at hs'
  · exact absurd hs' (by simp)
  · rename_i ch chars hchars
    rw [hchars] at hcell
    obtain rfl := Option.some.inj hs'
    have hcontents : CircularBuffer.contents
        { s.tx.xmit with head := s.tx.xmit.next s.tx.xmit.head } = s.tx.xmit.contents ++ [ch] := by
      rw [← CircularBuffer.push_of_stored hcell]
      exact CircularBuffer.contents_push h.tx.valid hfree ch
    refine ⟨missed, ⟨?_, ?_, hf.off⟩, fun _ => rfl, rfl⟩
    · rintro t ht'
      obtain rfl := Option.some.inj ht'
      trivial
    · have hputs : s.log.flatMap Done.stored ++ call.stored = missed ++ (s.host ++ s.tx.queued) :=
        (puts_thread ht).symm.trans hf.puts
      refine Eq.trans ?_ (congrArg (fun contents =>
        missed ++ (s.host ++ (s.tx.submitted.flatten ++ contents))) hcontents.symm)
      show s.log.flatMap Done.stored ++ (call.stored ++ [ch]) = _
      rw [← List.append_assoc, hputs]
      simp only [queued, List.append_assoc]

theorem uartWrite_flow (h : Inv oflag s) (hw : s.tx.Wired ctl) (hf : Flow missed s) {call : Write} {pc : Pc}
    (ht : s.thread = some (.write call pc)) (hs' : s.uartWrite ctl oflag call pc = some s') :
    Flows missed s s' := by
  have haimed := hf.aimed _ ht
  cases pc with
  | start =>
    rw [uartWrite] at hs'
    split_ifs at hs' <;> obtain rfl := Option.some.inj hs'
    · exact hf.finish ht rfl (List.nil_append _).symm (fun _ => rfl) rfl
    · exact hf.goto ht trivial (by rfl) (by rfl) rfl
  | next =>
    rw [uartWrite] at hs'
    split_ifs at hs'
    · obtain rfl := Option.some.inj hs'
      exact hf.goto ht (by rfl) rfl rfl rfl
    · split at hs' <;> obtain rfl := Option.some.inj hs'
      · exact hf.goto ht (by trivial) rfl rfl rfl
      · exact hf.goto ht (by rfl) rfl rfl rfl
  | test nexthead =>
    obtain rfl := Option.some.inj hs'
    refine hf.goto ht ?_ rfl rfl rfl
    split_ifs with hfree
    · exact ⟨haimed, hfree⟩
    · trivial
    · exact haimed
  | store nexthead =>
    obtain ⟨ch, hch, rfl⟩ := Option.map_eq_some_iff.mp hs'
    have hnext : (s.tx.xmit.store ch).next s.tx.xmit.head = s.tx.xmit.next s.tx.xmit.head := by
      rw [CircularBuffer.next, CircularBuffer.store_size]
      rfl
    have hcell : (s.tx.xmit.store ch).buffer[s.tx.xmit.head]? = call.chars.head? := by
      rw [hch]
      exact List.getElem?_set_self h.tx.valid.head_lt
    refine hf.goto ht ⟨haimed.1.trans hnext.symm, haimed.2, hcell⟩ ?_ rfl rfl
    exact congrArg (s.tx.submitted.flatten ++ ·) (CircularBuffer.contents_store ch)
  | advance nexthead => exact advance_flow h hf ht hs'
  | block nexthead =>
    rw [uartWrite] at hs'
    split_ifs at hs' <;> obtain rfl := Option.some.inj hs'
    · exact hf.goto ht (by exact haimed) rfl rfl rfl
    · exact hf.goto ht (by exact haimed) rfl rfl rfl
    · obtain ⟨hkept, hcfg, gone, hqueued, hgone⟩ := awaitRoom_queued h.tx hw
      exact hf.goOn ht (by rfl) hqueued hgone hcfg (hkept.aimed h.tx (by exact haimed))
  | asleep nexthead =>
    rw [uartWrite] at hs'
    split_ifs at hs'
    obtain rfl := Option.some.inj hs'
    exact hf.goto ht (by exact haimed) (by rfl) (by rfl) rfl
  | woken nexthead failed =>
    obtain rfl := Option.some.inj hs'
    refine hf.goto ht ?_ rfl rfl rfl
    split_ifs
    · trivial
    · trivial
    · exact haimed
  | leave err =>
    obtain ⟨hkept, hcfg, gone, hqueued, hgone⟩ := sndpacket_queued h.tx hw
    rw [uartWrite, leave_tx h.tx] at hs'
    obtain rfl := Option.some.inj hs'
    exact hf.finish ht rfl hqueued hgone hcfg

theorem drainLoop_flow (hf : Flow missed s) {pc : DrainPc} (ht : s.thread = some (.drain pc)) {d : Tx}
    (hd : d.Inv) (hw : d.Wired ctl) (hqueued : d.queued = s.tx.queued) (hcfg : d.config = s.tx.config) :
    Flows missed s (drainLoop ctl { s with tx := d }) := by
  unfold drainLoop
  split_ifs
  · obtain ⟨-, hcfg', gone, hq, hgone⟩ := awaitRoom_queued hd hw
    exact hf.goOn ht (by rfl) (hqueued.symm.trans hq) (fun hon => hgone (hcfg.symm ▸ hon))
      (hcfg'.trans hcfg) (by trivial)
  · exact hf.goOn ht (by rfl) (hqueued.symm.trans (List.nil_append _).symm) (fun _ => rfl) hcfg
      (by trivial)

/-- While the bus is suspended a `tcdrain` that begins drops bytes, so none may begin. -/
theorem uartTcdrain_flow (h : Inv oflag s) (hw : s.tx.Wired ctl) (hf : Flow missed s) {pc : DrainPc}
    (ht : s.thread = some (.drain pc))
    (hawake : pc = .start → s.tx.disconnected = true → s.tx.config = 0)
    (hs' : s.uartTcdrain ctl pc = some s') : Flows missed s s' := by
  cases pc with
  | start =>
    rw [uartTcdrain] at hs'
    split_ifs at hs' with hlocked hdis <;> obtain rfl := Option.some.inj hs'
    · -- the buffer is flushed without a connection
      have hcfg := hawake rfl hdis
      have hqueued : s.tx.queued = s.tx.queued ++ queued { s.tx with xmit := s.tx.xmit.flush } := by
        show _ = _ ++ (s.tx.submitted.flatten ++ s.tx.xmit.flush.contents)
        rw [(hw.off hcfg).2, CircularBuffer.contents_flush h.tx.valid]
        exact (List.append_nil _).symm
      exact hf.finish ht rfl hqueued (fun hon => absurd hcfg hon) rfl
    · exact drainLoop_flow hf ht (h.tx.locked true) hw rfl rfl
  | asleep =>
    rw [uartTcdrain] at hs'
    split_ifs at hs'
    obtain rfl := Option.some.inj hs'
    exact drainLoop_flow hf ht (h.tx.xmitsem _) hw rfl rfl
  | poll =>
    rw [uartTcdrain] at hs'
    split_ifs at hs' <;> obtain rfl := Option.some.inj hs'
    · exact hf.finish ht rfl (List.nil_append _).symm (fun _ => rfl) (by rfl)
    · exact hf.goOn ht (by rfl) (List.nil_append _).symm (fun _ => rfl) rfl (by trivial)
  | pause =>
    obtain rfl := Option.some.inj hs'
    exact hf.goOn ht (by rfl) (List.nil_append _).symm (fun _ => rfl) rfl (by trivial)

theorem interrupt_flow (hf : Flow missed s) {t : Thread} (ht : s.thread = some t)
    (hs' : s.interrupt t = some s') : Flows missed s s' := by
  have haimed := hf.aimed t ht
  unfold interrupt at hs'
  split at hs'
  · split_ifs at hs'
    obtain rfl := Option.some.inj hs'
    exact hf.finish ht rfl (List.nil_append _).symm (fun _ => rfl) rfl
  · obtain rfl := Option.some.inj hs'
    exact hf.goto ht (by exact haimed) rfl rfl rfl
  · split_ifs at hs'
    obtain rfl := Option.some.inj hs'
    exact hf.finish ht rfl (List.nil_append _).symm (fun _ => rfl) rfl
  · obtain rfl := Option.some.inj hs'
    exact hf.finish ht rfl (List.nil_append _).symm (fun _ => rfl) (by rfl)
  · exact absurd hs' (by simp)

/-! ## Whole runs -/

/-- No request fails, the cable is not pulled in the middle of `uart_putxmitchar`, and no `tcdrain`
begins while the bus is suspended. -/
def Clean (s : System) : Event → Prop
  | .fail => False
  | .disconnect => ∀ t ∈ s.thread, t.putting = false
  | .run => s.thread = some (.drain .start) → s.tx.disconnected = true → s.tx.config = 0
  | _ => True

instance (s : System) : DecidablePred s.Clean
  | .fail => .isFalse id
  | .disconnect => inferInstanceAs (Decidable (∀ t ∈ s.thread, t.putting = false))
  | .run => inferInstanceAs (Decidable (_ → _))
  | .write _ _ | .drain | .expire | .signal | .complete | .setconfig _ | .suspend | .resume =>
    .isTrue trivial

theorem begin_flow (hf : Flow missed s) (hnone : s.thread = none) {t : Thread} (ht : t.stored = [])
    (haimed : t.Aimed s.tx) : Flows missed s { s with thread := some t } := by
  refine hf.moved (List.nil_append _).symm (fun _ => rfl) rfl ?_ fun t' ht' => ?_
  · rw [puts, hnone]
    exact congrArg (s.log.flatMap Done.stored ++ ·) ht
  · obtain rfl := Option.some.inj ht'
    exact haimed

theorem complete_flow (h : Inv oflag s) (hw : s.tx.Wired ctl) (hf : Flow missed s) {bytes : List UInt8}
    (hhead : s.tx.submitted.head? = some bytes) :
    Flows missed s { s with tx := s.tx.cdcacmWrcomplete ctl .ok, host := s.host ++ bytes } := by
  obtain ⟨rest, hcons⟩ := List.head?_eq_some_iff.mp hhead
  have hsub : s.tx.submitted ≠ [] := by rw [hcons]; exact List.cons_ne_nil _ _
  have hon := hw.of_submitted hsub
  obtain ⟨hkept, hcfg, gone, hqueued, hgone⟩ :=
    sndpacket_queued (completed_inv h.tx hsub) (hw.completed hsub)
  have hkept' : Kept s.tx (s.tx.completed.cdcacmSndpacket ctl) := ⟨hkept.buffer, hkept.head, hkept.tail⟩
  rw [hgone hon, List.nil_append] at hqueued
  have hfirst : s.tx.queued = bytes ++ s.tx.completed.queued := by
    show s.tx.submitted.flatten ++ _ = bytes ++ (s.tx.submitted.tail.flatten ++ _)
    rw [hcons, List.flatten_cons, List.append_assoc]
    rfl
  rw [cdcacmWrcomplete_ok]
  refine ⟨missed, ⟨fun t ht => hkept'.aimed h.tx (hf.aimed t ht), ?_,
    fun hoff => absurd (hcfg.symm.trans hoff) hon⟩, fun _ => rfl, hcfg⟩
  refine hf.puts.trans ?_
  rw [hfirst, hqueued, List.append_assoc]

theorem disconnect_flow (hctl : ctl.Working) (h : Inv oflag s) (hw : s.tx.Wired ctl)
    (hclean : ∀ t ∈ s.thread, t.putting = false) :
    Flow s.puts { s with tx := s.tx.cdcacmDisconnect ctl, host := [] } := by
  obtain ⟨hxmit, hcfg, hw'⟩ := cdcacmDisconnect_cases hctl h.tx hw
  refine ⟨fun t ht => .of_not_putting (hclean t ht), ?_, fun _ => rfl⟩
  have hqueued : (s.tx.cdcacmDisconnect ctl).queued = [] := by
    rw [queued, (hw'.off hcfg).2, hxmit, CircularBuffer.contents_reset h.tx.valid]
    rfl
  show s.puts = s.puts ++ ([] ++ (s.tx.cdcacmDisconnect ctl).queued)
  rw [hqueued, List.append_nil, List.append_nil]

/-- The connection changes, and the endpoint keeps its requests. -/
theorem Flow.rewired (hf : Flow missed s) (h : s.tx.Inv) {d : Tx} (hxmit : d.xmit = s.tx.xmit)
    (hsub : d.submitted = s.tx.submitted) (hcfg : d.config = s.tx.config) :
    Flow missed { s with tx := d } := by
  refine ⟨fun t ht => ?_, ?_, fun hoff => hf.off (hcfg.symm.trans hoff)⟩
  · refine Kept.aimed ⟨?_, ?_, .inl ?_⟩ h (hf.aimed t ht) <;> rw [hxmit]
  · refine hf.puts.trans ?_
    rw [queued, queued, hxmit, hsub]

theorem setconfig_flow (hctl : ctl.Working) (h : Inv oflag s) (hf : Flow missed s) (config : Nat) :
    ∃ missed', Flow missed' { s with
      tx := s.tx.cdcacmSetconfig ctl config
      host := if config = s.tx.config then s.host else [] } := by
  by_cases hsame : config = s.tx.config
  · rw [cdcacmSetconfig, if_pos hsame, if_pos hsame]
    exact ⟨missed, hf⟩
  rw [if_neg hsame]
  obtain heq | ⟨-, heq⟩ | ⟨-, heq⟩ := cdcacmSetconfig_cases hctl h.tx config <;> rw [heq]
  · refine ⟨missed ++ s.host, hf.aimed, ?_, fun _ => rfl⟩
    exact hf.puts.trans (List.append_assoc _ _ _).symm
  · -- what was submitted is gone, and the rest stays in the buffer
    refine ⟨missed ++ s.host ++ s.tx.submitted.flatten, fun t ht => ?_, ?_, fun _ => rfl⟩
    · exact Kept.aimed ⟨rfl, rfl, .inl rfl⟩ h.tx (hf.aimed t ht)
    · refine hf.puts.trans ?_
      simp only [queued, unplugged, List.drop_length, List.flatten_nil, List.nil_append,
        List.append_assoc]
  · refine ⟨missed ++ s.host, fun t ht => ?_, ?_, fun _ => rfl⟩
    · exact Kept.aimed ⟨rfl, rfl, .inl rfl⟩ h.tx (hf.aimed t ht)
    · exact hf.puts.trans (List.append_assoc _ _ _).symm

/-- The bus leaves the configuration as it is. -/
theorem step_flow (h : Inv oflag s) (hw : s.tx.Wired ctl) (hf : Flow missed s) {e : Event}
    (hclean : s.Clean e) (he : e.reconfigures = false) (hs' : step ctl oflag s e = some s') :
    Flows missed s s' := by
  cases e with
  | write buffer nonblock | drain =>
    rw [step] at hs'
    split_ifs at hs' with hnone
    obtain rfl := Option.some.inj hs'
    exact begin_flow hf (Option.isNone_iff_eq_none.mp hnone) rfl trivial
  | run =>
    obtain ⟨t, ht, hrun⟩ := Option.bind_eq_some_iff.mp hs'
    cases t with
    | write call pc => exact uartWrite_flow h hw hf ht hrun
    | drain pc => exact uartTcdrain_flow h hw hf ht (fun hpc => hclean (hpc ▸ ht)) hrun
  | expire =>
    obtain ⟨t, ht, hrun⟩ := Option.bind_eq_some_iff.mp hs'
    split at hrun
    · obtain rfl := Option.some.inj hrun
      exact hf.finish ht rfl (List.nil_append _).symm (fun _ => rfl) rfl
    · exact absurd hrun (by simp)
  | signal =>
    obtain ⟨t, ht, hrun⟩ := Option.bind_eq_some_iff.mp hs'
    exact interrupt_flow hf ht hrun
  | complete =>
    obtain ⟨bytes, hhead, rfl⟩ := Option.map_eq_some_iff.mp hs'
    exact complete_flow h hw hf hhead
  | fail => exact absurd hclean id
  | disconnect => exact absurd he (by decide)
  | setconfig config => exact absurd he (by simp [Event.reconfigures])
  | suspend =>
    obtain rfl := Option.some.inj hs'
    rw [cdcacmSuspend, uartConnected_false]
    exact ⟨missed, hf.rewired h.tx rfl rfl rfl, fun _ => rfl, rfl⟩
  | resume =>
    obtain rfl := Option.some.inj hs'
    rw [cdcacmResume]
    split_ifs
    · rw [uartConnected_true]
      exact ⟨missed, hf.rewired h.tx rfl rfl rfl, fun _ => rfl, rfl⟩
    · exact ⟨missed, hf, fun _ => rfl, rfl⟩

theorem step_flow_exists (hctl : ctl.Working) (h : Inv oflag s) (hw : s.tx.Wired ctl)
    (hf : Flow missed s) {e : Event} (hclean : s.Clean e) (hs' : step ctl oflag s e = some s') :
    ∃ missed', Flow missed' s' := by
  cases he : e.reconfigures with
  | false =>
    obtain ⟨missed', hflow, -⟩ := step_flow h hw hf hclean he hs'
    exact ⟨missed', hflow⟩
  | true =>
    cases e with
    | disconnect =>
      obtain rfl := Option.some.inj hs'
      exact ⟨s.puts, disconnect_flow hctl h hw hclean⟩
    | setconfig config =>
      obtain rfl := Option.some.inj hs'
      exact setconfig_flow hctl h hf config
    | _ => exact absurd he Bool.false_ne_true

theorem run_flow (hctl : ctl.Working) (h : Inv oflag s) (hw : s.tx.Wired ctl) (hf : Flow missed s)
    {es : List Event} (hclean : Legal (step ctl oflag) Clean s es)
    (hs' : PartialRuns.run (step ctl oflag) s es = some s') : ∃ missed', Flow missed' s' := by
  refine (run_preserves (fun u => Inv oflag u ∧ u.tx.Wired ctl ∧ ∃ missed, Flow missed u) ?_
    ⟨h, hw, missed, hf⟩ hclean hs').2.2
  rintro u e u' ⟨hu, hwu, missed, hfu⟩ he hu'
  exact ⟨step_inv hu hu', step_wired hctl hu hwu hu', step_flow_exists hctl hu hwu hfu he hu'⟩

/-- The event fails a request, or changes the connection. -/
def disturbs : Event → Bool
  | .fail => true
  | .disconnect => true
  | .setconfig _ => true
  | .suspend => true
  | _ => false

/-- The bus is connected, and stays so. -/
structure Undisturbed (ctl : Controller) (missed : List UInt8) (s : System) : Prop where
  wired : s.tx.Wired ctl
  config : s.tx.config ≠ 0
  connected : s.tx.disconnected = false
  flow : Flow missed s

theorem step_undisturbed (h : Inv oflag s) (hu : Undisturbed ctl missed s) {e : Event}
    (he : disturbs e = false) (hs' : step ctl oflag s e = some s') : Undisturbed ctl missed s' := by
  have hclean : s.Clean e := by
    cases e with
    | fail | disconnect => exact absurd he (by decide)
    | run => exact fun _ hdis => absurd (hu.connected.symm.trans hdis) (by decide)
    | write buffer nonblock | drain | expire | signal | complete | setconfig config | suspend | resume =>
      trivial
  have hsame : e.reconfigures = false := by
    cases e with
    | disconnect | setconfig config => exact absurd he (by simp [disturbs])
    | _ => rfl
  obtain ⟨missed', hflow, hmissed, hcfg⟩ := step_flow h hu.wired hu.flow hclean hsame hs'
  rw [hmissed hu.config] at hflow
  have hon : s'.tx.config ≠ 0 := hcfg.symm ▸ hu.config
  cases hre : e.rewires with
  | false =>
    have hlinked := step_linked h hre hs'
    exact ⟨hlinked.wired hu.wired, hon, hlinked.disconnected.trans hu.connected, hflow⟩
  | true =>
    cases e with
    | resume =>
      obtain rfl := Option.some.inj hs'
      refine ⟨hu.wired.cdcacmResume, hon, ?_, hflow⟩
      dsimp only
      rw [cdcacmResume, if_pos hu.config, uartConnected_true]
    | disconnect | setconfig config | suspend => exact absurd he (by simp [disturbs])
    | _ => exact absurd hre Bool.false_ne_true

theorem init_flow : Flow [] init := ⟨fun t ht => absurd ht (by simp [init]), rfl, fun _ => rfl⟩

theorem init_undisturbed (hsubmit : ∀ n, ctl.submit n true = true) : Undisturbed ctl [] init :=
  ⟨init_wired hsubmit, by decide, rfl, init_flow⟩

theorem run_undisturbed (hsubmit : ∀ n, ctl.submit n true = true) {es : List Event}
    (hes : ∀ e ∈ es, disturbs e = false) (hs : PartialRuns.run (step ctl oflag) init es = some s) :
    Inv oflag s ∧ Undisturbed ctl [] s := by
  refine run_preserves (fun u => Inv oflag u ∧ Undisturbed ctl [] u) ?_
    ⟨init_inv oflag, init_undisturbed hsubmit⟩ (legal_of_forall hes init) hs
  rintro u e u' ⟨hu, hflow⟩ he hu'
  exact ⟨step_inv hu hu', step_undisturbed hu hflow he hu'⟩

/-! ## What a drained port has sent -/

/-- Behind a `tcdrain` that succeeded nothing is queued. -/
def Drained (s : System) : Prop :=
  s.thread = none → s.log.getLast? = some (.drain (.ok ())) → s.tx.queued = []

theorem drained_of_thread {t : Thread} (ht : s.thread = some t) : Drained s :=
  fun hnone => absurd (ht.symm.trans hnone) (by simp)

theorem drained_of_finish {done : Done} (hdone : done ≠ .drain (.ok ())) : Drained (s.finish done) := by
  intro _ hlast
  rw [finish, List.getLast?_concat] at hlast
  exact absurd (Option.some.inj hlast) hdone

theorem uartWrite_drained {call : Write} {pc : Pc} (hs' : s.uartWrite ctl oflag call pc = some s') :
    Drained s' := by
  cases pc with
  | start =>
    rw [uartWrite] at hs'
    split_ifs at hs' <;> obtain rfl := Option.some.inj hs'
    · exact drained_of_finish (by simp)
    · exact drained_of_thread rfl
  | next =>
    rw [uartWrite] at hs'
    split_ifs at hs'
    · obtain rfl := Option.some.inj hs'
      exact drained_of_thread rfl
    · split at hs' <;> obtain rfl := Option.some.inj hs' <;> exact drained_of_thread rfl
  | test nexthead | woken nexthead failed =>
    obtain rfl := Option.some.inj hs'
    exact drained_of_thread rfl
  | store nexthead =>
    obtain ⟨ch, -, rfl⟩ := Option.map_eq_some_iff.mp hs'
    exact drained_of_thread rfl
  | advance nexthead =>
    rw [uartWrite] at hs'
    split at hs'
    · exact absurd hs' (by simp)
    · obtain rfl := Option.some.inj hs'
      exact drained_of_thread rfl
  | block nexthead =>
    rw [uartWrite] at hs'
    split_ifs at hs' <;> obtain rfl := Option.some.inj hs' <;> exact drained_of_thread rfl
  | asleep nexthead =>
    rw [uartWrite] at hs'
    split_ifs at hs'
    obtain rfl := Option.some.inj hs'
    exact drained_of_thread rfl
  | leave err =>
    obtain rfl := Option.some.inj hs'
    exact drained_of_finish (by simp)

theorem drainLoop_drained (ctl : Controller) (s : System) : Drained (s.drainLoop ctl) := by
  unfold drainLoop
  split_ifs <;> exact drained_of_thread rfl

/-- All containers are in the list, so no request is under way. -/
theorem txempty_queued {d : Tx} (h : d.Inv) (hempty : d.cdcuartTxempty = true)
    (hring : d.xmit.head = d.xmit.tail) : d.queued = [] := by
  have hfree : nwrreqs ≤ d.nwrq := of_decide_eq_true hempty
  have hcontainers := h.containers
  rw [h.nwrq] at hfree
  have hsub : d.submitted = [] := List.length_eq_zero_iff.mp (by omega)
  rw [queued, hsub, (CircularBuffer.contents_eq_nil_iff h.valid).mpr hring]
  rfl

theorem uartTcdrain_drained (h : Inv oflag s) {pc : DrainPc} (ht : s.thread = some (.drain pc))
    (hs' : s.uartTcdrain ctl pc = some s') : Drained s' := by
  cases pc with
  | start =>
    rw [uartTcdrain] at hs'
    split_ifs at hs' <;> obtain rfl := Option.some.inj hs'
    · exact drained_of_finish (by simp)
    · exact drainLoop_drained ctl _
  | asleep =>
    rw [uartTcdrain] at hs'
    split_ifs at hs'
    obtain rfl := Option.some.inj hs'
    exact drainLoop_drained ctl _
  | poll =>
    rw [uartTcdrain] at hs'
    split_ifs at hs' with hempty <;> obtain rfl := Option.some.inj hs'
    · have hqueued := txempty_queued h.tx hempty (h.thread _ ht)
      exact fun _ _ => hqueued
    · exact drained_of_thread rfl
  | pause =>
    obtain rfl := Option.some.inj hs'
    exact drained_of_thread rfl

theorem queued_eq_nil {d : Tx} : d.queued = [] ↔ d.submitted.flatten = [] ∧ d.xmit.contents = [] :=
  List.append_eq_nil_iff

/-- The oldest requests end. -/
theorem queued_of_suffix {d d' : Tx} (h : d.queued = []) (hsub : d'.submitted <:+ d.submitted)
    (hring : d'.xmit.contents = d.xmit.contents) : d'.queued = [] := by
  obtain ⟨hnone, hempty⟩ := queued_eq_nil.mp h
  refine queued_eq_nil.mpr ⟨?_, hring.trans hempty⟩
  rw [List.flatten_eq_nil_iff] at hnone ⊢
  exact fun l hl => hnone l (hsub.subset hl)

theorem sndpacket_of_queued {d : Tx} (hd : d.Inv) (h : d.queued = []) : d.cdcacmSndpacket ctl = d :=
  sndpacket_empty hd ((CircularBuffer.contents_eq_nil_iff hd.valid).mp (queued_eq_nil.mp h).2)

theorem interrupt_drained {t : Thread} (hs' : s.interrupt t = some s') : Drained s' := by
  unfold interrupt at hs'
  split at hs'
  · split_ifs at hs'
    obtain rfl := Option.some.inj hs'
    exact drained_of_finish (by simp)
  · obtain rfl := Option.some.inj hs'
    exact drained_of_thread rfl
  · split_ifs at hs'
    obtain rfl := Option.some.inj hs'
    exact drained_of_finish (by simp)
  · obtain rfl := Option.some.inj hs'
    exact drained_of_finish (by simp)
  · exact absurd hs' (by simp)

theorem Drained.rewired (h : Drained s) {d : Tx} (hd : s.tx.Rewired d) (host : List UInt8) :
    Drained { s with tx := d, host := host } := fun hnone hlast =>
  queued_of_suffix (h hnone hlast) hd.submitted (by rw [hd.xmit])

theorem step_drained (h : Inv oflag s) (hd : Drained s) {e : Event} (hs' : step ctl oflag s e = some s') :
    Drained s' := by
  cases e with
  | write buffer nonblock | drain =>
    rw [step] at hs'
    split_ifs at hs'
    obtain rfl := Option.some.inj hs'
    exact drained_of_thread rfl
  | run =>
    obtain ⟨t, ht, hrun⟩ := Option.bind_eq_some_iff.mp hs'
    cases t with
    | write call pc => exact uartWrite_drained hrun
    | drain pc => exact uartTcdrain_drained h ht hrun
  | expire =>
    obtain ⟨t, ht, hrun⟩ := Option.bind_eq_some_iff.mp hs'
    split at hrun
    · obtain rfl := Option.some.inj hrun
      exact drained_of_finish (by simp)
    · exact absurd hrun (by simp)
  | signal =>
    obtain ⟨t, ht, hrun⟩ := Option.bind_eq_some_iff.mp hs'
    exact interrupt_drained hrun
  | complete =>
    obtain ⟨bytes, hhead, rfl⟩ := Option.map_eq_some_iff.mp hs'
    intro hnone hlast
    have hsub : s.tx.submitted ≠ [] := fun hnil => by simp [hnil] at hhead
    have hqueued : s.tx.completed.queued = [] :=
      queued_of_suffix (hd hnone hlast) (List.tail_suffix _) rfl
    dsimp only
    rw [cdcacmWrcomplete_ok, sndpacket_of_queued (completed_inv h.tx hsub) hqueued]
    exact hqueued
  | fail =>
    obtain ⟨bytes, hhead, rfl⟩ := Option.map_eq_some_iff.mp hs'
    exact fun hnone hlast => queued_of_suffix (hd hnone hlast) (List.tail_suffix _) rfl
  | disconnect =>
    obtain rfl := Option.some.inj hs'
    obtain ⟨d, hre, heq⟩ := cdcacmDisconnect_rewired ctl s.tx
    intro hnone hlast
    dsimp only
    rw [heq]
    refine queued_of_suffix (hd hnone hlast) hre.submitted ?_
    rw [hre.xmit, (queued_eq_nil.mp (hd hnone hlast)).2]
    exact CircularBuffer.contents_reset h.tx.valid
  | setconfig config =>
    obtain rfl := Option.some.inj hs'
    exact hd.rewired (cdcacmSetconfig_rewired ctl s.tx config) _
  | suspend =>
    obtain rfl := Option.some.inj hs'
    exact hd.rewired (cdcacmSuspend_rewired s.tx) s.host
  | resume =>
    obtain rfl := Option.some.inj hs'
    exact hd.rewired (cdcacmResume_rewired s.tx) s.host

theorem run_drained {es : List Event} (hs : PartialRuns.run (step ctl oflag) init es = some s) :
    Drained s := by
  refine (run_preserves (fun u => Inv oflag u ∧ Drained u) ?_
    ⟨init_inv oflag, fun _ hlast => absurd hlast (by simp [init])⟩
    (legal_of_forall (P := fun _ => True) (fun _ _ => trivial) init) hs).2
  rintro u e u' ⟨hu, hd⟩ - hu'
  exact ⟨step_inv hu hu', step_drained hu hd hu'⟩

/-! ## The connection -/

/-- While the connection lasts without being suspended, and no request is refused or fails, no
character is lost, doubled or overtaken: those that the host has got, those in requests and those in
the circular buffer are the characters that were stored, in their order. A call of `write` stores
those of the bytes that it returns as written, and when a `tcdrain` has succeeded the host has got
all of them. -/
theorem sent_in_order (ctl : Controller) (hsubmit : ∀ n, ctl.submit n true = true) (oflag : Nat)
    (es : List Event) (s : System) (hs : PartialRuns.run (step ctl oflag) init es = some s)
    (hes : ∀ e ∈ es, disturbs e = false) :
    s.puts = s.host ++ (s.tx.submitted.flatten ++ s.tx.xmit.contents) ∧
      (∀ call result, .write call result ∈ s.log →
        written result ≤ call.buffer.length ∧
          ∃ part, call.stored = (call.buffer.take (written result)).flatMap (outputChars oflag) ++ part ∧
            part.length ≤ 1 ∧ (written result = call.buffer.length → part = [])) ∧
      (s.thread = none → s.log.getLast? = some (.drain (.ok ())) → s.host = s.puts) := by
  obtain ⟨hinv, hflow⟩ := run_undisturbed hsubmit hes hs
  have hputs := hflow.flow.puts
  refine ⟨hputs, fun call result hmem => (hinv.log _ hmem).stored, fun hnone hlast => ?_⟩
  rw [hputs, run_drained hs hnone hlast, List.append_nil]
  rfl

/-- A byte is written, and the host takes it. -/
def oneByte : List Event :=
  [.write [7] false, .run, .run, .run, .run, .run, .run, .run, .drain, .run, .run, .run, .complete, .run]

theorem sent_in_order_one :
    ∃ s, PartialRuns.run (step .faultless 0) init oneByte = some s ∧ s.puts = [7] ∧ s.host = [7] := by
  have hend : (PartialRuns.run (step .faultless 0) init oneByte).map
      (fun s => (s.thread, s.log.getLast?)) = some (none, some (.drain (.ok ()))) := by decide +kernel
  have hstored : (PartialRuns.run (step .faultless 0) init oneByte).map puts = some [7] := by
    decide +kernel
  obtain ⟨s, hs, hputs⟩ := Option.map_eq_some_iff.mp hstored
  rw [hs] at hend
  obtain ⟨hnone, hlast⟩ := Prod.ext_iff.mp (Option.some.inj hend)
  refine ⟨s, hs, hputs, ?_⟩
  rw [(sent_in_order .faultless (fun _ => rfl) 0 oneByte s hs (by decide)).2.2 hnone hlast]
  exact hputs

/-- The controller has no errors and no request fails. In any interleaving in which the cable is not
pulled in the middle of `uart_putxmitchar` and no `tcdrain` begins while the bus is suspended, what
the host has got over the present connection is a piece of the characters that were stored, without
a gap, and what it is still to get comes next. -/
theorem connection_in_order (ctl : Controller) (hctl : ctl.Working) (oflag : Nat) (es : List Event)
    (s : System) (hs : PartialRuns.run (step ctl oflag) init es = some s)
    (hclean : Legal (step ctl oflag) Clean init es) :
    ∃ missed, s.puts = missed ++ (s.host ++ (s.tx.submitted.flatten ++ s.tx.xmit.contents)) := by
  obtain ⟨missed, hflow⟩ := run_flow hctl (init_inv oflag) (init_wired fun n => hctl.submit n true)
    init_flow hclean hs
  exact ⟨missed, hflow.puts⟩

/-- The first byte is lost with a connection, and the host takes the second over the next one. -/
def lostAndSent : List Event :=
  [.write [7] false] ++ List.replicate 7 .run ++ [.disconnect, .setconfig Dev.configid, .suspend,
    .resume, .write [8] false] ++ List.replicate 7 .run ++ [.complete]

theorem connection_in_order_pulled :
    ∃ s, PartialRuns.run (step .faultless 0) init lostAndSent = some s ∧ s.puts = [7, 8] ∧
      s.host = [8] ∧
      ∃ missed, s.puts = missed ++ (s.host ++ (s.tx.submitted.flatten ++ s.tx.xmit.contents)) := by
  have hend : (PartialRuns.run (step .faultless 0) init lostAndSent).map (fun s => (s.puts, s.host)) =
      some ([7, 8], [8]) := by decide +kernel
  obtain ⟨s, hs, hview⟩ := Option.map_eq_some_iff.mp hend
  obtain ⟨hputs, hhost⟩ := Prod.ext_iff.mp hview
  exact ⟨s, hs, hputs, hhost, connection_in_order .faultless Controller.faultless_working 0 lostAndSent s
    hs (by decide +kernel)⟩

end System

end Sprefence.Cdcacm.Tx

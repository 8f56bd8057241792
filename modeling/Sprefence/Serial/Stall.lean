import Sprefence.Serial.Transmit

/-! How `/dev/ttyACM0` stops sending: a `tcdrain` whose time was over keeps `xmit.sem`, a request
that the controller refuses takes its container with it, and a program can sleep with nobody to wake
it. -/

namespace Sprefence.Cdcacm.Tx

open PartialRuns

/-- The call was broken off by a signal. -/
def Done.brokenOff : Done → Prop
  | .write _ (.error .eintr) => True
  | .drain (.error .eintr) => True
  | _ => False

def Thread.asleep : Thread → Bool
  | .write _ (.asleep _) => true
  | .drain .asleep => true
  | _ => false

theorem Thread.Good.roused {d : Tx} {t : Thread} (h : t.Good d) (hasleep : t.asleep = true) :
    d.Roused := by
  unfold Thread.asleep at hasleep
  split at hasleep
  · exact h.2
  · exact h
  · exact absurd hasleep Bool.false_ne_true

/-- The call can still drop a container: the connection is lost, and the call will look at the
circular buffer once more. -/
def Thread.owing (d : Tx) : Thread → Nat
  | .write _ .start => 0
  | .write _ _ => if d.config = 0 then 1 else 0
  | .drain .asleep => if d.config = 0 ∧ d.xmit.head ≠ d.xmit.tail then 1 else 0
  | .drain _ => 0

theorem Thread.owing_write {d : Tx} {call : Write} {pc : Pc} (h : pc ≠ .start) :
    (Thread.write call pc).owing d = if d.config = 0 then 1 else 0 := by
  cases pc with
  | start => exact absurd rfl h
  | _ => rfl

theorem ite_one_le (p : Prop) [Decidable p] : (if p then 1 else 0) ≤ 1 := by
  split_ifs
  · exact Nat.le_refl 1
  · exact Nat.zero_le 1

theorem ite_one_mono {p q : Prop} [Decidable p] [Decidable q] (h : p → q) :
    (if p then 1 else 0) ≤ if q then 1 else 0 := by
  by_cases hp : p
  · exact Nat.le_of_eq ((if_pos hp).trans (if_pos (h hp)).symm)
  · rw [if_neg hp]
    exact Nat.zero_le _

theorem Thread.owing_le (d : Tx) (t : Thread) : t.owing d ≤ t.inside.toNat := by
  cases t with
  | write call pc =>
    cases pc with
    | start => exact Nat.zero_le _
    | _ => exact ite_one_le _
  | drain pc =>
    cases pc with
    | start | poll | pause => exact Nat.zero_le _
    | asleep => exact ite_one_le _

theorem Thread.owing_connected {d : Tx} (h : d.config ≠ 0) (t : Thread) : t.owing d = 0 := by
  cases t with
  | write call pc =>
    by_cases hpc : pc = .start
    · rw [hpc]
      rfl
    · rw [owing_write hpc, if_neg h]
  | drain pc =>
    cases pc with
    | start | poll | pause => rfl
    | asleep => exact if_neg fun hand => h hand.1

theorem Thread.owing_mono {d d' : Tx} (t : Thread) (hoff : d'.config = 0 → d.config = 0)
    (hring : d'.xmit.head ≠ d'.xmit.tail → d.xmit.head ≠ d.xmit.tail) : t.owing d' ≤ t.owing d := by
  cases t with
  | write call pc =>
    by_cases hpc : pc = .start
    · rw [hpc]
      exact Nat.le_refl _
    · rw [owing_write hpc, owing_write hpc]
      exact ite_one_mono hoff
  | drain pc =>
    cases pc with
    | start | poll | pause => exact Nat.le_refl _
    | asleep => exact ite_one_mono fun hd => ⟨hoff hd.1, hring hd.2⟩

/-- The containers that are in the list or with the endpoint. -/
def containers (d : Tx) : Nat := d.txfree + d.submitted.length

namespace System

variable {ctl : Controller} {oflag : Nat} {s s' : System}

/-! ## The calls that return -/

/-- What a step adds to the calls that have returned. -/
structure Logged (s s' : System) (new : List Done) : Prop where
  log : s'.log = s.log ++ new
  drained : .drain (.ok ()) ∈ new → s.tx.cdcuartTxempty = true
  locked : s.inside = false → s.tx.locked = true → ∀ d ∈ new, d.brokenOff

theorem Logged.nothing (h : s'.log = s.log) : Logged s s' [] :=
  ⟨h.trans (List.append_nil _).symm, fun hd => absurd hd List.not_mem_nil,
    fun _ _ _ hd => absurd hd List.not_mem_nil⟩

theorem Logged.one {d : Done} (h : s'.log = s.log ++ [d])
    (hdrained : d = .drain (.ok ()) → s.tx.cdcuartTxempty = true)
    (hlocked : s.inside = false → s.tx.locked = true → d.brokenOff) : Logged s s' [d] :=
  ⟨h, fun hd => hdrained (List.mem_singleton.mp hd).symm, fun hout hl d' hd' => by
    rw [List.mem_singleton.mp hd']
    exact hlocked hout hl⟩

theorem uartWrite_logged {call : Write} {pc : Pc} (ht : s.thread = some (.write call pc))
    (hs' : s.uartWrite ctl oflag call pc = some s') : ∃ new, Logged s s' new := by
  have hin := inside_eq ht
  cases pc with
  | start =>
    rw [uartWrite] at hs'
    split_ifs at hs' with hlocked <;> obtain rfl := Option.some.inj hs'
    · exact ⟨_, .one rfl (by simp) (fun _ hl => absurd hl hlocked)⟩
    · exact ⟨[], .nothing rfl⟩
  | next =>
    rw [uartWrite] at hs'
    split_ifs at hs'
    · obtain rfl := Option.some.inj hs'
      exact ⟨[], .nothing rfl⟩
    · split at hs' <;> obtain rfl := Option.some.inj hs' <;> exact ⟨[], .nothing rfl⟩
  | test nexthead | woken nexthead failed =>
    obtain rfl := Option.some.inj hs'
    exact ⟨[], .nothing rfl⟩
  | store nexthead =>
    obtain ⟨ch, -, rfl⟩ := Option.map_eq_some_iff.mp hs'
    exact ⟨[], .nothing rfl⟩
  | advance nexthead =>
    rw [uartWrite] at hs'
    split at hs'
    · exact absurd hs' (by simp)
    · obtain rfl := Option.some.inj hs'
      exact ⟨[], .nothing rfl⟩
  | block nexthead =>
    rw [uartWrite] at hs'
    split_ifs at hs' <;> obtain rfl := Option.some.inj hs' <;> exact ⟨[], .nothing rfl⟩
  | asleep nexthead =>
    rw [uartWrite] at hs'
    split_ifs at hs'
    obtain rfl := Option.some.inj hs'
    exact ⟨[], .nothing rfl⟩
  | leave err =>
    obtain rfl := Option.some.inj hs'
    exact ⟨_, .one rfl (by simp) (fun hout => absurd (hin.symm.trans hout) (by simp [Thread.inside]))⟩

theorem drainLoop_log (ctl : Controller) (s : System) : (s.drainLoop ctl).log = s.log := by
  unfold drainLoop
  split_ifs <;> rfl

theorem uartTcdrain_logged {pc : DrainPc} (ht : s.thread = some (.drain pc))
    (hs' : s.uartTcdrain ctl pc = some s') : ∃ new, Logged s s' new := by
  have hin := inside_eq ht
  cases pc with
  | start =>
    rw [uartTcdrain] at hs'
    split_ifs at hs' with hlocked <;> obtain rfl := Option.some.inj hs'
    · exact ⟨_, .one rfl (by simp) (fun _ hl => absurd hl hlocked)⟩
    · exact ⟨[], .nothing (drainLoop_log ctl _)⟩
  | asleep =>
    rw [uartTcdrain] at hs'
    split_ifs at hs'
    obtain rfl := Option.some.inj hs'
    exact ⟨[], .nothing (drainLoop_log ctl _)⟩
  | poll =>
    rw [uartTcdrain] at hs'
    split_ifs at hs' with hempty <;> obtain rfl := Option.some.inj hs'
    · exact ⟨_, .one rfl (fun _ => hempty)
        (fun hout => absurd (hin.symm.trans hout) (by simp [Thread.inside]))⟩
    · exact ⟨[], .nothing rfl⟩
  | pause =>
    obtain rfl := Option.some.inj hs'
    exact ⟨[], .nothing rfl⟩

theorem interrupt_logged {t : Thread} (hs' : s.interrupt t = some s') : ∃ new, Logged s s' new := by
  unfold interrupt at hs'
  split at hs'
  · split_ifs at hs'
    obtain rfl := Option.some.inj hs'
    exact ⟨_, .one rfl (by simp) (fun _ _ => trivial)⟩
  · obtain rfl := Option.some.inj hs'
    exact ⟨[], .nothing rfl⟩
  · split_ifs at hs'
    obtain rfl := Option.some.inj hs'
    exact ⟨_, .one rfl (by simp) (fun _ _ => trivial)⟩
  · obtain rfl := Option.some.inj hs'
    exact ⟨_, .one rfl (by simp) (fun _ _ => trivial)⟩
  · exact absurd hs' (by simp)

theorem step_logged {e : Event} (hs' : step ctl oflag s e = some s') : ∃ new, Logged s s' new := by
  cases e with
  | write buffer nonblock | drain =>
    rw [step] at hs'
    split_ifs at hs'
    obtain rfl := Option.some.inj hs'
    exact ⟨[], .nothing rfl⟩
  | run =>
    obtain ⟨t, ht, hrun⟩ := Option.bind_eq_some_iff.mp hs'
    cases t with
    | write call pc => exact uartWrite_logged ht hrun
    | drain pc => exact uartTcdrain_logged ht hrun
  | expire =>
    obtain ⟨t, ht, hrun⟩ := Option.bind_eq_some_iff.mp hs'
    have hin := inside_eq ht
    split at hrun
    · obtain rfl := Option.some.inj hrun
      exact ⟨_, .one rfl (by simp) (fun hout => absurd (hin.symm.trans hout) (by simp [Thread.inside]))⟩
    · exact absurd hrun (by simp)
  | signal =>
    obtain ⟨t, ht, hrun⟩ := Option.bind_eq_some_iff.mp hs'
    exact interrupt_logged hrun
  | complete | fail =>
    obtain ⟨bytes, -, rfl⟩ := Option.map_eq_some_iff.mp hs'
    exact ⟨[], .nothing rfl⟩
  | disconnect | setconfig config | suspend | resume =>
    obtain rfl := Option.some.inj hs'
    exact ⟨[], .nothing rfl⟩

/-- After a `tcdrain` whose time was over, no call of `write` or `tcdrain` returns as long as the
device stays open, whatever the controller and the host do, except those that a signal breaks off
before they begin. -/
theorem timed_out_for_good (ctl : Controller) (oflag : Nat) (es : List Event) (s : System)
    (hs : PartialRuns.run (step ctl oflag) init es = some s) (htimeout : .timedOut ∈ s.log)
    (fs : List Event) (t : System) (ht : PartialRuns.run (step ctl oflag) s fs = some t) :
    ∃ new, t.log = s.log ++ new ∧ ∀ d ∈ new, d.brokenOff := by
  have hinv := run_inv (init_inv oflag) hs
  refine (run_preserves (fun u => Inv oflag u ∧ ∃ new, u.log = s.log ++ new ∧ ∀ d ∈ new, d.brokenOff)
    ?_ ⟨hinv, [], (List.append_nil _).symm, fun d hd => absurd hd List.not_mem_nil⟩
    (legal_of_forall (P := fun _ => True) (fun _ _ => trivial) s) ht).2
  rintro u e u' ⟨hu, new, hlog, hbroken⟩ - hu'
  have hmem : Done.timedOut ∈ u.log := by
    rw [hlog]
    exact List.mem_append_left _ htimeout
  have hout : u.inside = false := by
    cases hin : u.inside with
    | false => rfl
    | true => exact absurd hmem (hu.locked_inside hin).2
  obtain ⟨more, hmore⟩ := step_logged hu'
  refine ⟨step_inv hu hu', new ++ more, by rw [hmore.log, hlog, List.append_assoc], fun d hd => ?_⟩
  obtain hd | hd := List.mem_append.mp hd
  · exact hbroken d hd
  · exact hmore.locked hout ((hu.locked_outside hout).mpr hmem) d hd

/-- The host takes the byte during the last pause. -/
def slowHost : List Event :=
  [.write [7] false, .run, .run, .run, .run, .run, .run, .run, .drain, .run, .run, .complete, .expire]

theorem timed_out_for_good_slow :
    ∃ s, PartialRuns.run (step .faultless 0) init slowHost = some s ∧ .timedOut ∈ s.log ∧
      s.host = [7] ∧ ∀ fs t, PartialRuns.run (step .faultless 0) s fs = some t →
        ∃ new, t.log = s.log ++ new ∧ ∀ d ∈ new, d.brokenOff := by
  have hend : (PartialRuns.run (step .faultless 0) init slowHost).map
      (fun s => (decide (.timedOut ∈ s.log), s.host)) = some (true, [7]) := by decide +kernel
  obtain ⟨s, hs, hview⟩ := Option.map_eq_some_iff.mp hend
  obtain ⟨hlog, hhost⟩ := Prod.ext_iff.mp hview
  exact ⟨s, hs, of_decide_eq_true hlog, hhost,
    timed_out_for_good .faultless 0 slowHost s hs (of_decide_eq_true hlog)⟩

/-! ## The containers -/

/-- A container is dropped by a request that is filled without a connection. -/
theorem sndpacket_containers {d : Tx} (h : d.Inv) (hw : d.Wired ctl) :
    (d.cdcacmSndpacket ctl).containers +
        (if d.config = 0 ∧ d.txfree ≠ 0 ∧ d.xmit.head ≠ d.xmit.tail then 1 else 0) = d.containers ∧
      (d.cdcacmSndpacket ctl).config = d.config ∧
      (d.txfree ≠ 0 →
        (d.cdcacmSndpacket ctl).xmit.head = (d.cdcacmSndpacket ctl).xmit.tail) := by
  rw [cdcacmSndpacket_eq ctl h]
  unfold containers
  split_ifs with hcase hall hall
  · exact absurd hcase (not_or.mpr hall.2)
  · refine ⟨rfl, rfl, fun hfree => hcase.resolve_left hfree⟩
  · refine ⟨?_, rfl, fun _ => rfl⟩
    rw [(hw.off hall.1).1]
    show d.txfree - 1 + d.submitted.length + 1 = _
    omega
  · have hcfg : d.config ≠ 0 := fun hzero => hall ⟨hzero, not_or.mp hcase⟩
    refine ⟨?_, rfl, fun _ => rfl⟩
    rw [hw.taken hcfg]
    show d.txfree - 1 + (d.submitted ++ [d.xmit.contents]).length + 0 = _
    have hfree := (not_or.mp hcase).1
    rw [List.length_append, List.length_singleton]
    omega

theorem awaitRoom_containers {d : Tx} (h : d.Inv) (hw : d.Wired ctl) :
    (d.awaitRoom ctl).containers +
        (if d.config = 0 ∧ d.txfree ≠ 0 ∧ d.xmit.head ≠ d.xmit.tail then 1 else 0) = d.containers ∧
      (d.awaitRoom ctl).config = d.config ∧
      (d.txfree ≠ 0 → (d.awaitRoom ctl).xmit.head = (d.awaitRoom ctl).xmit.tail) := by
  rw [awaitRoom_eq]
  exact sndpacket_containers h.waiting (by exact hw)

/-- The program can still drop a container. -/
def owing (s : System) : Nat := (s.thread.map (Thread.owing s.tx)).getD 0

/-- The connection is lost in the middle of a call. -/
def lost (s s' : System) : Bool := s.inside && s.tx.config ≠ 0 && s'.tx.config = 0

/-- The number of the connections that a run loses in the middle of a call. -/
def losses (ctl : Controller) (oflag : Nat) : System → List Event → Nat
  | _, [] => 0
  | s, e :: es =>
    ((step ctl oflag s e).map fun s' => (s.lost s').toNat + losses ctl oflag s' es).getD 0

/-- Containers are dropped only where one is owed. -/
def Balanced (s s' : System) (n : Nat) : Prop :=
  s.tx.containers + s'.owing ≤ s'.tx.containers + s.owing + n

theorem owing_eq {t : Thread} (ht : s.thread = some t) : s.owing = t.owing s.tx := by
  rw [owing, ht]
  rfl

/-- A write goes on. -/
theorem Balanced.goto {call call' : Write} {pc pc' : Pc} (ht : s.thread = some (.write call pc))
    (hpc : pc ≠ .start) (hpc' : pc' ≠ .start) {d : Tx} (hd : d.containers = s.tx.containers)
    (hcfg : d.config = s.tx.config) : Balanced s ({ s with tx := d }.goto call' pc') 0 := by
  have howing : (Thread.write call' pc').owing d = s.owing := by
    rw [owing_eq ht, Thread.owing_write hpc, Thread.owing_write hpc', hcfg]
  show _ + (Thread.write call' pc').owing d ≤ d.containers + _ + 0
  rw [howing, hd]
  exact Nat.le_refl _

theorem config_ne_zero {d : Tx} (h : d.Inv) (hdis : ¬ d.disconnected = true) : d.config ≠ 0 := by
  obtain hcfg | ⟨-, hdis'⟩ := h.connected
  · rw [hcfg]
    decide
  · exact absurd hdis' hdis

theorem uartWrite_balanced (h : Inv oflag s) (hw : s.tx.Wired ctl) {call : Write} {pc : Pc}
    (ht : s.thread = some (.write call pc)) (hs' : s.uartWrite ctl oflag call pc = some s') :
    Balanced s s' 0 := by
  cases pc with
  | start =>
    have howing : s.owing = 0 := owing_eq ht
    rw [uartWrite] at hs'
    split_ifs at hs' with hlocked hdis <;> obtain rfl := Option.some.inj hs'
    · exact Nat.le_add_right _ _
    · have hconn : (Thread.write call .next).owing { s.tx with locked := true } = 0 :=
        Thread.owing_connected (config_ne_zero (h.tx.locked true) hdis) _
      show s.tx.containers + (Thread.write call .next).owing { s.tx with locked := true } ≤ _
      rw [hconn]
      exact Nat.le_add_right _ _
  | next =>
    rw [uartWrite] at hs'
    split_ifs at hs'
    · obtain rfl := Option.some.inj hs'
      exact .goto ht (by decide) (by simp) rfl rfl
    · split at hs' <;> obtain rfl := Option.some.inj hs' <;> exact .goto ht (by decide) (by simp) rfl rfl
  | test nexthead | woken nexthead failed =>
    obtain rfl := Option.some.inj hs'
    refine .goto ht (by simp) ?_ rfl rfl
    split_ifs <;> simp
  | store nexthead =>
    obtain ⟨ch, -, rfl⟩ := Option.map_eq_some_iff.mp hs'
    exact .goto ht (by simp) (by simp) rfl rfl
  | advance nexthead =>
    rw [uartWrite] at hs'
    split at hs'
    · exact absurd hs' (by simp)
    · obtain rfl := Option.some.inj hs'
      exact .goto ht (by simp) (by simp) rfl rfl
  | block nexthead =>
    rw [uartWrite] at hs'
    split_ifs at hs' with hfull hdis <;> obtain rfl := Option.some.inj hs'
    · exact .goto ht (by simp) (by simp) rfl rfl
    · exact .goto ht (by simp) (by simp) rfl rfl
    · obtain ⟨hcont, hcfg, -⟩ := awaitRoom_containers h.tx hw
      rw [if_neg (fun hand => config_ne_zero h.tx hdis hand.1)] at hcont
      exact .goto ht (by simp) (by simp) hcont hcfg
  | asleep nexthead =>
    rw [uartWrite] at hs'
    split_ifs at hs'
    obtain rfl := Option.some.inj hs'
    exact .goto ht (by simp) (by simp) rfl rfl
  | leave err =>
    obtain ⟨hcont, -⟩ := sndpacket_containers h.tx hw
    have howing := (owing_eq ht).trans (Thread.owing_write (by simp))
    rw [uartWrite, leave_tx h.tx] at hs'
    obtain rfl := Option.some.inj hs'
    show s.tx.containers + 0 ≤ (s.tx.cdcacmSndpacket ctl).containers + s.owing + 0
    rw [howing, ← hcont]
    split_ifs <;> omega

theorem drainLoop_balanced (s : System) {d : Tx} (hd : d.Inv) (hw : d.Wired ctl)
    (hcont : d.containers = s.tx.containers) (howing : (Thread.drain .asleep).owing d ≤ s.owing) :
    Balanced s (drainLoop ctl { s with tx := d }) 0 := by
  obtain ⟨hsnd, hcfg, hemptied⟩ := awaitRoom_containers hd hw
  unfold drainLoop
  split_ifs with hne
  · show s.tx.containers + (Thread.drain .asleep).owing (d.awaitRoom ctl) ≤
      (d.awaitRoom ctl).containers + s.owing + 0
    rw [← hcont, ← hsnd]
    by_cases hoff : d.config = 0
    · have hone : (Thread.drain .asleep).owing d = 1 := if_pos ⟨hoff, hne⟩
      rw [hone] at howing
      by_cases hfree : d.txfree = 0
      · -- no container is left that could be dropped
        rw [if_neg (fun hand => hand.2.1 hfree)]
        have := Thread.owing_le (d.awaitRoom ctl) (.drain .asleep)
        exact Nat.add_le_add_left (Nat.le_trans this howing) _
      · have hzero : (Thread.drain .asleep).owing (d.awaitRoom ctl) = 0 :=
          if_neg fun hand => hand.2 (hemptied hfree)
        rw [if_pos ⟨hoff, hfree, hne⟩, hzero]
        exact Nat.add_le_add_left howing _
    · rw [if_neg (fun hand => hoff hand.1), Thread.owing_connected (by rw [hcfg]; exact hoff)]
      exact Nat.le_add_right _ _
  · show s.tx.containers + 0 ≤ d.containers + s.owing + 0
    omega

theorem uartTcdrain_balanced (h : Inv oflag s) (hw : s.tx.Wired ctl) {pc : DrainPc}
    (ht : s.thread = some (.drain pc)) (hs' : s.uartTcdrain ctl pc = some s') : Balanced s s' 0 := by
  cases pc with
  | start =>
    rw [uartTcdrain] at hs'
    split_ifs at hs' with hlocked hdis <;> obtain rfl := Option.some.inj hs'
    · exact Nat.le_add_right _ _
    · have hconn := Thread.owing_connected (config_ne_zero (h.tx.locked true) hdis) (.drain .asleep)
      exact drainLoop_balanced s (h.tx.locked true) hw rfl (hconn ▸ Nat.zero_le _)
  | asleep =>
    rw [uartTcdrain] at hs'
    split_ifs at hs'
    obtain rfl := Option.some.inj hs'
    exact drainLoop_balanced s (h.tx.xmitsem _) hw rfl (Nat.le_of_eq (owing_eq ht).symm)
  | poll =>
    rw [uartTcdrain] at hs'
    split_ifs at hs' <;> obtain rfl := Option.some.inj hs' <;> exact Nat.le_add_right _ _
  | pause =>
    obtain rfl := Option.some.inj hs'
    exact Nat.le_add_right _ _

theorem interrupt_balanced {t : Thread} (ht : s.thread = some t) (hs' : s.interrupt t = some s') :
    Balanced s s' 0 := by
  unfold interrupt at hs'
  split at hs'
  · split_ifs at hs'
    obtain rfl := Option.some.inj hs'
    exact Nat.le_add_right _ _
  · obtain rfl := Option.some.inj hs'
    exact .goto ht (by simp) (by simp) rfl rfl
  · split_ifs at hs'
    obtain rfl := Option.some.inj hs'
    exact Nat.le_add_right _ _
  · obtain rfl := Option.some.inj hs'
    exact Nat.le_add_right _ _
  · exact absurd hs' (by simp)

/-- The driver changes on its own, and keeps the containers. -/
theorem Balanced.bus {d : Tx} (hd : d.containers = s.tx.containers) {n : Nat}
    (howing : ({ s with tx := d } : System).owing ≤ s.owing + n) (host : List UInt8) :
    Balanced s { s with tx := d, host := host } n := by
  show s.tx.containers + ({ s with tx := d } : System).owing ≤ d.containers + s.owing + n
  rw [hd, Nat.add_assoc]
  exact Nat.add_le_add_left howing _

theorem owing_le_inside (s : System) : s.owing ≤ s.inside.toNat := by
  cases ht : s.thread with
  | none =>
    rw [owing, ht]
    exact Nat.zero_le _
  | some t =>
    rw [owing_eq ht, inside_eq ht]
    exact t.owing_le s.tx

theorem owing_connected (h : s.tx.config ≠ 0) : s.owing = 0 := by
  cases ht : s.thread with
  | none =>
    rw [owing, ht]
    rfl
  | some t => exact (owing_eq ht).trans (Thread.owing_connected h t)

theorem completed_containers {d : Tx} (hsub : d.submitted ≠ []) : d.completed.containers = d.containers := by
  have hpos := List.length_pos_iff.mpr hsub
  show d.txfree + 1 + d.submitted.tail.length = d.txfree + d.submitted.length
  rw [List.length_tail]
  omega

theorem owing_mono {d : Tx} (hoff : d.config = 0 → s.tx.config = 0)
    (hring : d.xmit.head ≠ d.xmit.tail → s.tx.xmit.head ≠ s.tx.xmit.tail) :
    ({ s with tx := d } : System).owing ≤ s.owing := by
  show (s.thread.map (Thread.owing d)).getD 0 ≤ (s.thread.map (Thread.owing s.tx)).getD 0
  cases s.thread with
  | none => exact Nat.le_refl _
  | some t => exact t.owing_mono hoff hring

/-- A call can owe a container without a connection only, and owes one at most. -/
theorem owing_of_lost {d : Tx} (host : List UInt8)
    (hring : s.tx.config = 0 → d.xmit.head ≠ d.xmit.tail → s.tx.xmit.head ≠ s.tx.xmit.tail) :
    ({ s with tx := d } : System).owing ≤
      s.owing + (s.lost { s with tx := d, host := host }).toNat := by
  by_cases hcfg : d.config = 0
  · by_cases hoff : s.tx.config = 0
    · -- there was no connection before either
      exact Nat.le_trans (owing_mono (fun _ => hoff) (hring hoff)) (Nat.le_add_right _ _)
    · refine Nat.le_trans (owing_le_inside _) (Nat.le_trans (Nat.le_of_eq ?_) (Nat.le_add_left _ _))
      show s.inside.toNat = (s.inside && decide (s.tx.config ≠ 0) && decide (d.config = 0)).toNat
      rw [decide_eq_true hoff, decide_eq_true hcfg, Bool.and_true, Bool.and_true]
  · rw [owing_connected (by exact hcfg)]
    exact Nat.zero_le _

/-- A connection comes or goes. -/
theorem Balanced.rewired {d : Tx} (hd : s.tx.Rewired d) (host : List UInt8) :
    Balanced s { s with tx := d, host := host } (s.lost { s with tx := d, host := host }).toNat := by
  refine .bus hd.containers (owing_of_lost host fun _ => ?_) host
  rw [hd.xmit]
  exact id

theorem Balanced.weaken {n : Nat} (h : Balanced s s' 0) : Balanced s s' n :=
  Nat.le_trans h (Nat.add_le_add_left (Nat.zero_le n) _)

theorem step_balanced (h : Inv oflag s) (hw : s.tx.Wired ctl) {e : Event}
    (hs' : step ctl oflag s e = some s') : Balanced s s' (s.lost s').toNat := by
  cases e with
  | write buffer nonblock | drain =>
    rw [step] at hs'
    split_ifs at hs'
    obtain rfl := Option.some.inj hs'
    exact Balanced.weaken (Nat.le_add_right _ _)
  | run =>
    obtain ⟨t, ht, hrun⟩ := Option.bind_eq_some_iff.mp hs'
    cases t with
    | write call pc => exact (uartWrite_balanced h hw ht hrun).weaken
    | drain pc => exact (uartTcdrain_balanced h hw ht hrun).weaken
  | expire =>
    obtain ⟨t, ht, hrun⟩ := Option.bind_eq_some_iff.mp hs'
    split at hrun
    · obtain rfl := Option.some.inj hrun
      exact Balanced.weaken (Nat.le_add_right _ _)
    · exact absurd hrun (by simp)
  | signal =>
    obtain ⟨t, ht, hrun⟩ := Option.bind_eq_some_iff.mp hs'
    exact (interrupt_balanced ht hrun).weaken
  | complete =>
    obtain ⟨bytes, hhead, rfl⟩ := Option.map_eq_some_iff.mp hs'
    have hsub : s.tx.submitted ≠ [] := fun hnil => by simp [hnil] at hhead
    have hcfg := hw.of_submitted hsub
    obtain ⟨hcont, hconfig, -⟩ := sndpacket_containers (completed_inv h.tx hsub) (hw.completed hsub)
    rw [if_neg (fun hand => hcfg hand.1), completed_containers hsub] at hcont
    refine .bus hcont ?_ _
    rw [owing_connected (by exact hconfig.symm ▸ hcfg)]
    exact Nat.zero_le _
  | fail =>
    obtain ⟨bytes, hhead, rfl⟩ := Option.map_eq_some_iff.mp hs'
    have hsub : s.tx.submitted ≠ [] := fun hnil => by simp [hnil] at hhead
    have hcfg := hw.of_submitted hsub
    refine .bus (completed_containers hsub) ?_ _
    rw [owing_connected (by exact hcfg)]
    exact Nat.zero_le _
  | disconnect =>
    obtain rfl := Option.some.inj hs'
    obtain ⟨d, hd, heq⟩ := cdcacmDisconnect_rewired ctl s.tx
    have hcont : containers { d with xmit := d.xmit.reset } = s.tx.containers := hd.containers
    rw [heq]
    exact .bus hcont (owing_of_lost [] fun _ hne => absurd rfl hne) []
  | setconfig config =>
    obtain rfl := Option.some.inj hs'
    exact .rewired (cdcacmSetconfig_rewired ctl s.tx config) _
  | suspend =>
    obtain rfl := Option.some.inj hs'
    exact .rewired (cdcacmSuspend_rewired s.tx) s.host
  | resume =>
    obtain rfl := Option.some.inj hs'
    exact .rewired (cdcacmResume_rewired s.tx) s.host

theorem run_balanced (hctl : ctl.Working) (h : Inv oflag s) (hw : s.tx.Wired ctl) {es : List Event}
    (hs' : PartialRuns.run (step ctl oflag) s es = some s') :
    Balanced s s' (losses ctl oflag s es) := by
  induction es generalizing s with
  | nil =>
    obtain rfl := Option.some.inj hs'
    exact Nat.le_refl _
  | cons e es ih =>
    obtain ⟨t, ht, hrun⟩ := Option.bind_eq_some_iff.mp hs'
    have hone : _ ≤ _ := step_balanced h hw ht
    have hrest : _ ≤ _ := ih (step_inv h ht) (step_wired hctl h hw ht) hrun
    have hlosses : losses ctl oflag s (e :: es) = (s.lost t).toNat + losses ctl oflag t es := by
      rw [losses, ht]
      rfl
    rw [Balanced, hlosses]
    omega

/-- With a controller that has no errors, over any run, the containers that have been dropped are at
most as many as the connections that were lost in the middle of a call. -/
theorem containers_dropped_le (ctl : Controller) (hctl : ctl.Working) (oflag : Nat) (es : List Event)
    (s : System) (hs : PartialRuns.run (step ctl oflag) init es = some s) :
    nwrreqs ≤ s.tx.txfree + s.tx.submitted.length + losses ctl oflag init es := by
  have howed : _ ≤ _ := run_balanced hctl (init_inv oflag) (init_wired fun n => hctl.submit n true) hs
  exact Nat.le_trans (Nat.le_add_right _ _) howed

/-- The cable is pulled in a write, and put back. -/
def pulled : List Event :=
  [.write [7] false, .run, .disconnect, .run, .run, .run, .run, .run, .run, .setconfig Dev.configid]

theorem containers_dropped_le_pulled :
    ∃ s, PartialRuns.run (step .faultless 0) init pulled = some s ∧
      s.tx.txfree + s.tx.submitted.length = 3 ∧ losses .faultless 0 init pulled = 1 ∧
      nwrreqs ≤ s.tx.txfree + s.tx.submitted.length + losses .faultless 0 init pulled := by
  have hend : (PartialRuns.run (step .faultless 0) init pulled).map
      (fun s => s.tx.txfree + s.tx.submitted.length) = some 3 := by decide +kernel
  obtain ⟨s, hs, hthree⟩ := Option.map_eq_some_iff.mp hend
  exact ⟨s, hs, hthree, by decide +kernel,
    containers_dropped_le .faultless Controller.faultless_working 0 pulled s hs⟩

/-- The event wakes a program that sleeps, whatever it sleeps for. -/
def rouses : Event → Bool
  | .signal => true
  | .disconnect => true
  | .setconfig _ => true
  | .suspend => true
  | _ => false

/-- Nothing that the host does wakes the program. -/
structure Stuck (oflag : Nat) (t : Thread) (s : System) : Prop where
  inv : Inv oflag s
  thread : s.thread = some t
  asleep : t.asleep = true
  xmitsem : s.tx.xmitsem = 0
  cause : s.tx.xmit.head = s.tx.xmit.tail ∨ s.tx.submitted = []

theorem cdcacmResume_xmitsem (d : Tx) : d.cdcacmResume.xmitsem = d.xmitsem := by
  unfold cdcacmResume
  split_ifs
  · rw [uartConnected_true]
  · rfl

theorem Stuck.not_run {t : Thread} (h : Stuck oflag t s) : step ctl oflag s .run = none := by
  have hsem : ¬ 0 < s.tx.xmitsem := by rw [h.xmitsem]; exact Nat.lt_irrefl 0
  rw [step, h.thread, Option.bind_some]
  have hasleep := h.asleep
  unfold Thread.asleep at hasleep
  split at hasleep
  · exact if_neg hsem
  · exact if_neg hsem
  · exact absurd hasleep Bool.false_ne_true

theorem Stuck.step {t : Thread} (h : Stuck oflag t s) {e : Event} (he : rouses e = false) (hs' : step ctl oflag s e = some s') : Stuck oflag t s' := by
  have hinv := step_inv h.inv hs'
  cases e with
  | write buffer nonblock | drain =>
    rw [System.step, h.thread] at hs'
    exact absurd hs' (by simp)
  | run =>
    rw [h.not_run] at hs'
    exact absurd hs' (by simp)
  | expire =>
    rw [System.step, h.thread, Option.bind_some] at hs'
    have hasleep := h.asleep
    unfold Thread.asleep at hasleep
    split at hasleep
    · exact absurd hs' (by simp)
    · exact absurd hs' (by simp)
    · exact absurd hasleep Bool.false_ne_true
  | complete =>
    obtain ⟨bytes, hhead, rfl⟩ := Option.map_eq_some_iff.mp hs'
    have hsub : s.tx.submitted ≠ [] := fun hnil => by simp [hnil] at hhead
    have hempty := h.cause.resolve_right hsub
    have hsame : s.tx.cdcacmWrcomplete ctl .ok = s.tx.completed :=
      sndpacket_empty (completed_inv h.inv.tx hsub) hempty
    refine ⟨hinv, h.thread, h.asleep, ?_, .inl ?_⟩ <;> dsimp only <;> rw [hsame]
    · exact h.xmitsem
    · exact hempty
  | fail =>
    obtain ⟨bytes, hhead, rfl⟩ := Option.map_eq_some_iff.mp hs'
    have hsub : s.tx.submitted ≠ [] := fun hnil => by simp [hnil] at hhead
    exact ⟨hinv, h.thread, h.asleep, h.xmitsem, .inl (h.cause.resolve_right hsub)⟩
  | resume =>
    obtain rfl := Option.some.inj hs'
    have hre := cdcacmResume_rewired s.tx
    refine ⟨hinv, h.thread, h.asleep, ?_, h.cause.imp (by dsimp only; rw [hre.xmit]; exact id) fun hnone => ?_⟩
    · dsimp only
      rw [cdcacmResume_xmitsem]
      exact h.xmitsem
    · have hsuffix := hre.submitted
      rw [hnone] at hsuffix
      exact List.suffix_nil.mp hsuffix
  | signal | disconnect | suspend => exact absurd he (by decide)
  | setconfig config => exact absurd he (by simp [rouses])

/-- A program that has been woken goes on. -/
theorem step_run_of_post {t : Thread} (ht : s.thread = some t) (hasleep : t.asleep = true)
    (hpost : 0 < s.tx.xmitsem) (hempty : s.tx.xmit.head = s.tx.xmit.tail) :
    ∃ u, step ctl oflag s .run = some u ∧ u.thread ≠ some t := by
  rw [step, ht, Option.bind_some]
  unfold Thread.asleep at hasleep
  split at hasleep
  · refine ⟨_, if_pos hpost, ?_⟩
    simp [goto]
  · refine ⟨_, if_pos hpost, ?_⟩
    rw [drainLoop, if_neg (not_not_intro hempty)]
    simp
  · exact absurd hasleep Bool.false_ne_true

/-- With bytes in the buffer and a request under way, the host wakes the program. -/
theorem wakes (h : Inv oflag s) {t : Thread} (ht : s.thread = some t) (hasleep : t.asleep = true)
    (hsem : s.tx.xmitsem = 0) (hne : s.tx.xmit.head ≠ s.tx.xmit.tail) (hsub : s.tx.submitted ≠ []) :
    ∃ u, PartialRuns.run (step ctl oflag) s [.complete, .run] = some u ∧ u.thread ≠ some t := by
  obtain ⟨bytes, rest, hcons⟩ := List.exists_cons_of_ne_nil hsub
  have hsnd : s.tx.cdcacmWrcomplete ctl .ok =
      s.tx.completed.flushed (ctl.submit s.tx.calls s.tx.configured) := by
    refine (cdcacmSndpacket_eq ctl (completed_inv h.tx hsub)).trans (if_neg (not_or.mpr ⟨?_, hne⟩))
    exact Nat.succ_ne_zero _
  generalize ctl.submit s.tx.calls s.tx.configured = taken at hsnd
  have hfirst : step ctl oflag s .complete =
      some { s with tx := s.tx.completed.flushed taken, host := s.host ++ bytes } := by
    rw [step, hcons, ← hsnd]
    rfl
  have hpost : 0 < (s.tx.completed.flushed taken).xmitsem := by
    show 0 < s.tx.xmitsem + s.tx.xmitwaiting.toNat
    rw [(h.thread t ht).roused hasleep hsem]
    exact Nat.succ_pos _
  obtain ⟨u, hu, hne⟩ : ∃ u, step ctl oflag
      { s with tx := s.tx.completed.flushed taken, host := s.host ++ bytes } .run = some u ∧
      u.thread ≠ some t := step_run_of_post ht hasleep hpost rfl
  exact ⟨u, by rw [run_cons, hfirst, Option.bind_some, run_cons, hu]; rfl, hne⟩

/-- A program that sleeps in `write` or `tcdrain` without a post on its way. Whatever the host and
the controller do, it sleeps until the connection is lost or suspended or a signal comes, exactly if
the circular buffer is empty or no request is under way. -/
theorem sleeper_stuck_iff (ctl : Controller) (oflag : Nat) (es : List Event) (s : System)
    (hs : PartialRuns.run (step ctl oflag) init es = some s) (t : Thread) (ht : s.thread = some t)
    (hasleep : t.asleep = true) (hsem : s.tx.xmitsem = 0) :
    (∀ fs u, (∀ e ∈ fs, rouses e = false) →
        PartialRuns.run (step ctl oflag) s fs = some u → u.thread = some t) ↔
      s.tx.xmit.head = s.tx.xmit.tail ∨ s.tx.submitted = [] := by
  have hinv := run_inv (init_inv oflag) hs
  constructor
  · intro hstuck
    by_contra hcause
    obtain ⟨hne, hsub⟩ := not_or.mp hcause
    obtain ⟨u, hu, hwoken⟩ := wakes hinv ht hasleep hsem hne hsub
    exact hwoken (hstuck [.complete, .run] u (by decide) hu)
  · intro hcause fs u hfs hu
    exact (run_preserves (Stuck oflag t) (fun _ _ _ h he => h.step he)
      ⟨hinv, ht, hasleep, hsem, hcause⟩ (legal_of_forall hfs s) hu).thread

/-- The cable is pulled in four writes. The next byte stays in the buffer. -/
def pulledFourTimes : List Event :=
  pulled ++ pulled ++ pulled ++ pulled ++
    [.write [7] false, .run, .run, .run, .run, .run, .run, .run, .drain, .run]

theorem sleeper_stuck_iff_pulled :
    ∃ s, PartialRuns.run (step .faultless 0) init pulledFourTimes = some s ∧
      s.thread = some (.drain .asleep) ∧
      ∀ fs u, (∀ e ∈ fs, rouses e = false) →
        PartialRuns.run (step .faultless 0) s fs = some u → u.thread = some (.drain .asleep) := by
  have hend : (PartialRuns.run (step .faultless 0) init pulledFourTimes).map
      (fun s => (s.thread, s.tx.xmitsem, s.tx.submitted)) =
        some (some (.drain .asleep), 0, []) := by decide +kernel
  obtain ⟨s, hs, hview⟩ := Option.map_eq_some_iff.mp hend
  obtain ⟨hthread, hrest⟩ := Prod.ext_iff.mp hview
  obtain ⟨hsem, hsub⟩ := Prod.ext_iff.mp hrest
  exact ⟨s, hs, hthread,
    (sleeper_stuck_iff .faultless 0 pulledFourTimes s hs _ hthread rfl hsem).mpr (.inr hsub)⟩

/-! ## Old characters -/

end System

end Sprefence.Cdcacm.Tx

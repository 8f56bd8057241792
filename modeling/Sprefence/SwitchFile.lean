import Sprefence.Detector.Main
import Sprefence.Server.Commands

/-! The file `switch.ini` between its writer, the `on` branch of `web_source`,
and its poller, the head of the `diff_ditect` loop. Each library call on the
file is one step, and the two programs take their steps in any order. A file
that was removed lives on for the program that has it open. -/

namespace Sprefence.SwitchFile

open CBytes Runs

/-- What `web_source` writes for the command `on`. -/
def onFile : List UInt8 := (WebSource.readBuff Server.Command.on.bytes).take 3

/-- `command` is the number of the write that left the contents, if they are
complete. -/
structure File where
  bytes : List UInt8
  command : Option Nat
  deriving DecidableEq

/-- The next call of the writer: `fopen`, `fwrite` or `fclose`. -/
inductive Writer
  | idle
  | opened (file : Nat)
  | written (file : Nat)
  deriving DecidableEq

/-- The next call of the poller: `fopen`, `fread`, the fence, `fclose` or
`remove`. -/
inductive Poller
  | idle
  | opened (file : Nat)
  | read (cbuff : List UInt8) (command : Option Nat)
  | acted
  | closed
  deriving DecidableEq

structure State where
  /-- The file with the name `switch.ini`. -/
  dir : Option Nat
  files : Nat → File
  created : Nat
  writer : Writer
  poller : Poller
  /-- No `fread` since the file was last created or truncated. -/
  fresh : Bool
  round : Nat
  completed : List Nat
  acted : List Nat
  overwritten : List Nat

def State.init : State := ⟨none, fun _ => ⟨[], none⟩, 0, .idle, .idle, true, 0, [], [], []⟩

def State.setFile (s : State) (n : Nat) (f : File) : State :=
  { s with files := fun m => if m = n then f else s.files m }

/-- `fopen("switch.ini", "w")`. -/
def State.truncate (s : State) : State :=
  match s.dir with
  | some n =>
    { s.setFile n ⟨[], none⟩ with
      writer := .opened n
      fresh := true
      overwritten := s.overwritten ++ (s.files n).command.toList }
  | none =>
    { s.setFile s.created ⟨[], none⟩ with
      dir := some s.created
      created := s.created + 1
      writer := .opened s.created
      fresh := true }

/-- The `fclose` of the writer: the contents become visible. -/
def State.publish (s : State) (n : Nat) : State :=
  { s.setFile n ⟨onFile, some s.round⟩ with
    writer := .idle
    round := s.round + 1
    completed := s.completed ++ [s.round] }

def State.write (s : State) : State :=
  match s.writer with
  | .idle => s.truncate
  | .opened n => { s with writer := .written n }
  | .written n => s.publish n

/-- `fopen("switch.ini", "r")`; without the file the round ends. -/
def State.openFile (s : State) : State :=
  match s.dir with
  | none => s
  | some n => { s with poller := .opened n }

def State.readFile (s : State) (n : Nat) (stack : List UInt8) : State :=
  { s with
    poller := .read (fread stack 5 (s.files n).bytes) (s.files n).command
    fresh := false }

/-- The fence is switched if `cbuff` holds a command. -/
def State.act (s : State) (cbuff : List UInt8) (command : Option Nat) : State :=
  match DiffDitect.switchCommand cbuff with
  | .on | .off => { s with poller := .acted, acted := s.acted ++ command.toList }
  | _ => { s with poller := .acted }

/-- `remove` goes by the name of the file. -/
def State.remove (s : State) : State := { s with poller := .idle, dir := none }

/-- The stack bytes matter only to the `fread`. -/
def State.poll (s : State) (stack : List UInt8) : State :=
  match s.poller with
  | .idle => s.openFile
  | .opened n => s.readFile n stack
  | .read cbuff command => s.act cbuff command
  | .acted => { s with poller := .closed }
  | .closed => s.remove

/-- The program that takes the next step. -/
inductive Pick
  | writer
  | poller (stack : List UInt8)

def step (s : State) : Pick → State
  | .writer => s.write
  | .poller stack => s.poll stack

/-! ## Safety -/

/-- `fread` meets a complete command. -/
def ReadsComplete (s : State) : Pick → Prop
  | .writer => True
  | .poller _ => ∀ n, s.poller = .opened n → ∃ k, (s.files n).command = some k

/-- `remove` meets a complete command that was acted on. -/
def RemovesActed (s : State) : Pick → Prop
  | .writer => True
  | .poller _ => s.poller = .closed →
      ∀ n, s.dir = some n → ∃ k, (s.files n).command = some k ∧ k ∈ s.acted

/-- Each command that was completely written has been acted on or overwritten,
or waits in the file. -/
def NoneLost (s : State) : Prop :=
  ∀ k ∈ s.completed, k ∈ s.acted ∨ k ∈ s.overwritten ∨
    ∃ n, s.dir = some n ∧ (s.files n).command = some k

def StepSafe (s : State) (p : Pick) : Prop :=
  ReadsComplete s p ∧ RemovesActed s p ∧ NoneLost (step s p)

/-- No `fread` during a write, and no `remove` when a write began since the
`fread`. -/
def InTurn (s : State) : Pick → Prop
  | .writer => True
  | .poller _ => (∀ n, s.poller = .opened n → s.writer = .idle) ∧
      (s.poller = .closed → s.fresh = false)

/-! ## The invariant -/

/-- The named file is the one the writer has open, truncated, or it holds a
complete command. -/
def WriterOk (s : State) : Prop :=
  match s.writer with
  | .idle => ∀ n, s.dir = some n → ∃ k < s.round, s.files n = ⟨onFile, some k⟩
  | .opened n | .written n => s.dir = some n ∧ s.files n = ⟨[], none⟩

/-- What the poller holds of the command `k` that it has read: the file has it
too, unless it was opened for writing again. -/
def Holds (s : State) (k : Nat) : Prop :=
  k < s.round ∧ ∃ n, s.dir = some n ∧ (s.fresh = false → (s.files n).command = some k) ∧
    (s.fresh = true → (s.files n).command ≠ some k)

def PollerOk (s : State) : Prop :=
  match s.poller with
  | .idle => s.dir.isSome = true → s.fresh = true
  | .opened n => s.dir = some n ∧ s.fresh = true
  | .read cbuff command => DiffDitect.switchCommand cbuff = .on ∧ ∃ k, command = some k ∧ Holds s k
  | .acted | .closed => ∃ k ∈ s.acted, Holds s k

structure Inv (s : State) : Prop where
  writer : WriterOk s
  poller : PollerOk s
  acted_lt : ∀ k ∈ s.acted, k < s.round
  /-- A file that was not read since it was opened for writing holds no
  command that was acted on. -/
  fresh : s.fresh = true → ∀ n k, s.dir = some n → (s.files n).command = some k → k ∉ s.acted
  noneLost : NoneLost s

theorem inv_init : Inv State.init := by
  refine ⟨?_, ?_, ?_, ?_, ?_⟩ <;> simp [State.init, WriterOk, PollerOk, NoneLost]

/-! ### What the invariant says in each phase -/

section Phases

variable {s : State} (h : Inv s)
include h

theorem Inv.opened {n : Nat} (hp : s.poller = .opened n) : s.dir = some n ∧ s.fresh = true := by
  simpa only [PollerOk, hp] using h.poller

theorem Inv.read {cbuff : List UInt8} {command : Option Nat}
    (hp : s.poller = .read cbuff command) :
    DiffDitect.switchCommand cbuff = .on ∧ ∃ k, command = some k ∧ Holds s k := by
  simpa only [PollerOk, hp] using h.poller

theorem Inv.closed (hp : s.poller = .closed) : ∃ k ∈ s.acted, Holds s k := by
  simpa only [PollerOk, hp] using h.poller

theorem Inv.file_of_idle (hw : s.writer = .idle) {n : Nat} (hd : s.dir = some n) :
    ∃ k < s.round, s.files n = ⟨onFile, some k⟩ := by
  have hwriter := h.writer
  simp only [WriterOk, hw] at hwriter
  exact hwriter n hd

/-- A writer that has the file open has emptied it. -/
theorem Inv.idle_of_command {n k : Nat} (hd : s.dir = some n)
    (hk : (s.files n).command = some k) : s.writer = .idle := by
  have hwriter := h.writer
  unfold WriterOk at hwriter
  cases hw : s.writer with
  | idle => rfl
  | opened m | written m =>
    simp only [hw] at hwriter
    obtain rfl : n = m := Option.some.inj (hd.symm.trans hwriter.1)
    simp [hwriter.2] at hk

end Phases

/-! ### The steps of the writer -/

/-- A step of the writer keeps what the poller relies on. -/
theorem PollerOk.of_write {s t : State} (h : PollerOk s) (hp : t.poller = s.poller)
    (ha : t.acted = s.acted) (hidle : s.poller = .idle → t.dir.isSome = true → t.fresh = true)
    (hdir : ∀ n, s.dir = some n → t.dir = some n) (hfresh : s.fresh = true → t.fresh = true)
    (hholds : ∀ k, Holds s k → Holds t k) : PollerOk t := by
  unfold PollerOk at h ⊢
  rw [hp, ha]
  cases hs : s.poller with
  | idle => exact hidle hs
  | opened n =>
    simp only [hs] at h
    exact ⟨hdir n h.1, hfresh h.2⟩
  | read cbuff command =>
    simp only [hs] at h
    obtain ⟨hon, k, hk, hh⟩ := h
    exact ⟨hon, k, hk, hholds k hh⟩
  | acted =>
    simp only [hs] at h
    obtain ⟨k, hk, hh⟩ := h
    exact ⟨k, hk, hholds k hh⟩
  | closed =>
    simp only [hs] at h
    obtain ⟨k, hk, hh⟩ := h
    exact ⟨k, hk, hholds k hh⟩

theorem inv_truncate (s : State) (h : Inv s) : Inv s.truncate := by
  cases hd : s.dir with
  | some n =>
    have ht : s.truncate = { s.setFile n ⟨[], none⟩ with
        writer := .opened n
        fresh := true
        overwritten := s.overwritten ++ (s.files n).command.toList } := by
      simp [State.truncate, hd]
    rw [ht]
    refine ⟨⟨hd, by simp [State.setFile]⟩, ?_, h.acted_lt, ?_, ?_⟩
    · refine h.poller.of_write rfl rfl (fun _ _ => rfl) (fun _ hn => hn) (fun _ => rfl) ?_
      rintro k ⟨hk, m, hm, -⟩
      obtain rfl : n = m := Option.some.inj (hd.symm.trans hm)
      exact ⟨hk, n, hd, by simp, by simp [State.setFile]⟩
    · intro _ m k hm hk
      obtain rfl : n = m := Option.some.inj (hd.symm.trans hm)
      simp [State.setFile] at hk
    · intro k hk
      rcases h.noneLost k hk with hacted | hover | ⟨m, hm, hwait⟩
      · exact .inl hacted
      · exact .inr (.inl (List.mem_append_left _ hover))
      · obtain rfl : n = m := Option.some.inj (hd.symm.trans hm)
        exact .inr (.inl (List.mem_append_right _ (by simp [hwait])))
  | none =>
    have ht : s.truncate = { s.setFile s.created ⟨[], none⟩ with
        dir := some s.created
        created := s.created + 1
        writer := .opened s.created
        fresh := true } := by
      simp [State.truncate, hd]
    rw [ht]
    refine ⟨⟨rfl, by simp [State.setFile]⟩, ?_, h.acted_lt, ?_, ?_⟩
    · refine h.poller.of_write rfl rfl (fun _ _ => rfl) (fun n hn => ?_) (fun _ => rfl) ?_
      · simp [hd] at hn
      · rintro k ⟨-, m, hm, -⟩
        simp [hd] at hm
    · rintro _ m k hm hk
      obtain rfl : s.created = m := Option.some.inj hm
      simp [State.setFile] at hk
    · intro k hk
      rcases h.noneLost k hk with hacted | hover | ⟨m, hm, -⟩
      · exact .inl hacted
      · exact .inr (.inl hover)
      · simp [hd] at hm

theorem inv_publish (s : State) (h : Inv s) (n : Nat) (hw : s.writer = .written n) :
    Inv (s.publish n) := by
  obtain ⟨hd, hn⟩ : s.dir = some n ∧ s.files n = ⟨[], none⟩ := by
    simpa only [WriterOk, hw] using h.writer
  refine ⟨?_, ?_, ?_, ?_, ?_⟩
  · intro m hm
    obtain rfl : n = m := Option.some.inj (hd.symm.trans hm)
    exact ⟨s.round, Nat.lt_succ_self _, by simp [State.publish, State.setFile]⟩
  · refine h.poller.of_write rfl rfl ?_ (fun _ hm => hm) (fun hf => hf) ?_
    · intro hidle hsome
      have hp := h.poller
      simp only [PollerOk, hidle] at hp
      exact hp hsome
    · rintro k ⟨hk, m, hm, hread, -⟩
      obtain rfl : n = m := Option.some.inj (hd.symm.trans hm)
      refine ⟨Nat.lt_succ_of_lt hk, n, hd, fun hf => ?_, fun _ => ?_⟩
      · -- a command that was read is not in the truncated file
        have := hread hf
        simp [hn] at this
      · simp [State.publish, State.setFile]
        omega
  · intro k hk
    exact Nat.lt_succ_of_lt (h.acted_lt k hk)
  · rintro - m k hm hk hacted
    obtain rfl : n = m := Option.some.inj (hd.symm.trans hm)
    obtain rfl : s.round = k := by simpa [State.publish, State.setFile] using hk
    exact absurd (h.acted_lt _ hacted) (Nat.lt_irrefl _)
  · intro k hk
    rcases List.mem_append.mp hk with hold | hnew
    · rcases h.noneLost k hold with hacted | hover | ⟨m, hm, hwait⟩
      · exact .inl hacted
      · exact .inr (.inl hover)
      · obtain rfl : n = m := Option.some.inj (hd.symm.trans hm)
        simp [hn] at hwait
    · obtain rfl := List.mem_singleton.mp hnew
      exact .inr (.inr ⟨n, hd, by simp [State.publish, State.setFile]⟩)

theorem inv_write (s : State) (h : Inv s) : Inv s.write := by
  cases hw : s.writer with
  | idle => simpa only [State.write, hw] using inv_truncate s h
  | opened n =>
    simp only [State.write, hw]
    have hwriter := h.writer
    simp only [WriterOk, hw] at hwriter
    exact ⟨hwriter, h.poller, h.acted_lt, h.fresh, h.noneLost⟩
  | written n => simpa only [State.write, hw] using inv_publish s h n hw

/-! ### The steps of the poller -/

theorem inv_openFile (s : State) (h : Inv s) (hp : s.poller = .idle) : Inv s.openFile := by
  cases hd : s.dir with
  | none => simpa [State.openFile, hd] using h
  | some n =>
    have hopen : s.openFile = { s with poller := .opened n } := by simp [State.openFile, hd]
    have hpoller := h.poller
    simp only [PollerOk, hp] at hpoller
    have hf := hpoller (by simp [hd])
    rw [hopen]
    exact ⟨h.writer, ⟨hd, hf⟩, h.acted_lt, h.fresh, h.noneLost⟩

theorem inv_readFile (s : State) (h : Inv s) (n : Nat) (hp : s.poller = .opened n)
    (hw : s.writer = .idle) (stack : List UInt8) : Inv (s.readFile n stack) := by
  obtain ⟨hd, -⟩ := h.opened hp
  obtain ⟨k, hk, hfile⟩ := h.file_of_idle hw hd
  have hon : DiffDitect.switchCommand (fread stack 5 (s.files n).bytes) = .on := by
    rw [hfile]
    exact DiffDitect.switchCommand_on stack
  refine ⟨h.writer, ⟨hon, k, by rw [hfile], hk, n, hd, fun _ => ?_, by simp [State.readFile]⟩,
    h.acted_lt, by simp [State.readFile], h.noneLost⟩
  show (s.files n).command = some k
  rw [hfile]

theorem inv_act (s : State) (h : Inv s) (cbuff : List UInt8) (command : Option Nat)
    (hp : s.poller = .read cbuff command) : Inv (s.act cbuff command) := by
  obtain ⟨hon, k, rfl, hholds⟩ := h.read hp
  simp only [State.act, hon, Option.toList_some]
  refine ⟨h.writer, ⟨k, by simp, hholds⟩, ?_, ?_, ?_⟩
  · intro j hj
    rcases List.mem_append.mp hj with hold | hnew
    · exact h.acted_lt j hold
    · obtain rfl := List.mem_singleton.mp hnew
      exact hholds.1
  · intro hf n j hd hj hacted
    rcases List.mem_append.mp hacted with hold | hnew
    · exact h.fresh hf n j hd hj hold
    · obtain rfl := List.mem_singleton.mp hnew
      obtain ⟨-, m, hm, -, hne⟩ := hholds
      obtain rfl : n = m := Option.some.inj (hd.symm.trans hm)
      exact hne hf hj
  · intro j hj
    rcases h.noneLost j hj with hacted | hrest
    · exact .inl (List.mem_append_left _ hacted)
    · exact .inr hrest

theorem inv_remove (s : State) (h : Inv s) (hp : s.poller = .closed) (hf : s.fresh = false) :
    Inv s.remove := by
  obtain ⟨k, hk, -, n, hd, hread, -⟩ := h.closed hp
  have hcommand := hread hf
  have hw := h.idle_of_command hd hcommand
  refine ⟨by simp [WriterOk, State.remove, hw], by simp [PollerOk, State.remove], h.acted_lt,
    by simp [State.remove], ?_⟩
  intro j hj
  rcases h.noneLost j hj with hacted | hover | ⟨m, hm, hwait⟩
  · exact .inl hacted
  · exact .inr (.inl hover)
  · obtain rfl : n = m := Option.some.inj (hd.symm.trans hm)
    obtain rfl : k = j := Option.some.inj (hcommand.symm.trans hwait)
    exact .inl hk

theorem inv_poll (s : State) (h : Inv s) (stack : List UInt8) (ht : InTurn s (.poller stack)) :
    Inv (s.poll stack) := by
  unfold State.poll
  cases hp : s.poller with
  | idle => exact inv_openFile s h hp
  | opened n => exact inv_readFile s h n hp (ht.1 n hp) stack
  | read cbuff command => exact inv_act s h cbuff command hp
  | acted =>
    have hpoller := h.poller
    simp only [PollerOk, hp] at hpoller
    exact ⟨h.writer, hpoller, h.acted_lt, h.fresh, h.noneLost⟩
  | closed => exact inv_remove s h hp (ht.2 hp)

theorem inv_step (s : State) (p : Pick) (h : Inv s) (ht : InTurn s p) : Inv (step s p) := by
  cases p with
  | writer => exact inv_write s h
  | poller stack => exact inv_poll s h stack ht

/-! ## Runs -/

theorem readsComplete_iff (s : State) (h : Inv s) (stack : List UInt8) :
    ReadsComplete s (.poller stack) ↔ ∀ n, s.poller = .opened n → s.writer = .idle := by
  constructor
  · intro hreads n hp
    obtain ⟨k, hk⟩ := hreads n hp
    exact h.idle_of_command (h.opened hp).1 hk
  · intro hidle n hp
    obtain ⟨k, -, hfile⟩ := h.file_of_idle (hidle n hp) (h.opened hp).1
    exact ⟨k, by rw [hfile]⟩

theorem removesActed_iff (s : State) (h : Inv s) (stack : List UInt8) :
    RemovesActed s (.poller stack) ↔ (s.poller = .closed → s.fresh = false) := by
  constructor
  · intro hremoves hp
    obtain ⟨-, -, -, n, hd, -⟩ := h.closed hp
    obtain ⟨k, hk, hacted⟩ := hremoves hp n hd
    cases hf : s.fresh with
    | false => rfl
    | true => exact absurd hacted (h.fresh hf n k hd hk)
  · intro hfresh hp n hd
    obtain ⟨k, hk, -, m, hm, hread, -⟩ := h.closed hp
    obtain rfl : n = m := Option.some.inj (hd.symm.trans hm)
    exact ⟨k, hread (hfresh hp), hk⟩

theorem stepSafe_iff (s : State) (p : Pick) (h : Inv s) : StepSafe s p ↔ InTurn s p := by
  cases p with
  | writer => exact ⟨fun _ => trivial, fun _ => ⟨trivial, trivial, (inv_write s h).noneLost⟩⟩
  | poller stack =>
    unfold StepSafe
    rw [readsComplete_iff s h stack, removesActed_iff s h stack]
    constructor
    · rintro ⟨hread, hremove, -⟩
      exact ⟨hread, hremove⟩
    · rintro ⟨hread, hremove⟩
      exact ⟨hread, hremove, (inv_poll s h stack ⟨hread, hremove⟩).noneLost⟩

/-- An interleaving loses no command, removes none that was not acted on and
reads no unfinished file exactly when no `fread` falls into a write and no
write begins between a poll's `fread` and its `remove`. -/
theorem switch_file_safe_iff (picks : List Pick) :
    EveryStep step StepSafe State.init picks ↔ EveryStep step InTurn State.init picks :=
  everyStep_iff_everyStep Inv (fun s p h hs => inv_step s p h ((stepSafe_iff s p h).mp hs))
    stepSafe_iff State.init inv_init picks

/-- A second command is written while the fence is being switched on for the
first: the `remove` that follows deletes it. -/
theorem second_command_removed :
    let picks : List Pick := [.writer, .writer, .writer, .poller [], .poller [], .poller [],
      .writer, .writer, .writer, .poller [], .poller []]
    ¬ EveryStep step StepSafe State.init picks ∧
      (run step State.init picks).completed = [0, 1] ∧
      (run step State.init picks).acted = [0] ∧
      (run step State.init picks).overwritten = [0] ∧
      (run step State.init picks).dir = none := by
  refine ⟨?_, by decide +kernel, by decide +kernel, by decide +kernel, by decide +kernel⟩
  rintro ⟨-, -, -, -, -, -, -, -, -, -, ⟨-, -, hlost⟩, -⟩
  rcases hlost 1 (by decide +kernel) with hacted | hover | ⟨n, hd, -⟩
  · revert hacted
    decide +kernel
  · revert hover
    decide +kernel
  · cases hd

end Sprefence.SwitchFile

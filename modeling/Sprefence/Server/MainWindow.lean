import Sprefence.Lib.Runs

/-! The window of the server: the buttons, the serial port, and the `WebServer`
with its listener, its cancellation source and the tasks of `Run`. The source is
created once, and a cancelled one stays cancelled. The serial port opens and
closes without errors, and the tasks are idle except for their start. -/

namespace Sprefence.MainWindow

open Runs

/-- The box `Port` on its `Ports`; WPF keeps the index in range. -/
structure ComboBox where
  items : List String
  selectedIndex : Int
  inRange : -1 ≤ selectedIndex ∧ selectedIndex < items.length

/-- `Ports[SelectedIndex]`; `none` is an exception. -/
def ComboBox.selected (b : ComboBox) : Option String :=
  if b.selectedIndex < 0 then none else b.items[b.selectedIndex.toNat]?

def ComboBox.fill (items : List String) : ComboBox := ⟨items, -1, by omega⟩

def ComboBox.select (b : ComboBox) (i : Nat) : ComboBox :=
  if h : i < b.items.length then ⟨b.items, i, by omega⟩ else b

inductive Listener
  | stopped
  | started
  | closed
  deriving DecidableEq, Repr

/-- A task of `Run`. -/
inductive Task
  /-- `Task.Run` was called, and the token is not tested yet. -/
  | starting
  /-- `GetContextAsync` is pending. -/
  | waiting
  | ended
  deriving DecidableEq, Repr

/-- A text that is added to `LogBox`. The text of an exception is its library's. -/
inductive Note
  | text (s : String)
  | failed
  deriving DecidableEq, Repr

structure Window where
  /-- An exception left a handler. -/
  crashed : Bool
  searchEnabled : Bool
  connectEnabled : Bool
  disconnectEnabled : Bool
  portEnabled : Bool
  port : ComboBox
  serialOpen : Bool
  listener : Listener
  /-- `m_source` is cancelled. -/
  cancelled : Bool
  tasks : List Task
  /-- What was added to the text of `LogBox`. -/
  log : List Note

/-- The window as `MainWindow.xaml` and the constructors leave it. -/
def Window.init : Window where
  crashed := false
  searchEnabled := true
  connectEnabled := false
  disconnectEnabled := false
  portEnabled := true
  port := .fill []
  serialOpen := false
  listener := .stopped
  cancelled := false
  tasks := []
  log := []

def Window.note (w : Window) (n : Note) : Window := { w with log := w.log ++ [n] }

/-- A pending `GetContextAsync` fails when the listener stops. -/
def Task.fail : Task → Task
  | .waiting => .ended
  | t => t

/-- `WebServer.Open`; `none` is the exception of `Start` on a closed listener. -/
def Window.serverOpen (w : Window) : Option Window :=
  match w.listener with
  | .closed => none
  | _ => some { w with listener := .started, tasks := w.tasks ++ [.starting] }

/-- `WebServer.Close`; `none` is the exception of `Stop` on a closed listener. -/
def Window.serverClose (w : Window) : Option Window :=
  match w.listener with
  | .closed => none
  | _ => some { w with listener := .stopped, tasks := w.tasks.map Task.fail, cancelled := true }

/-- The head of the loop in `Run`, for a task that starts. -/
def Window.runTask (w : Window) (k : Nat) : Window :=
  match w.tasks[k]? with
  | some .starting =>
    if w.cancelled then
      { w with listener := .closed, tasks := (w.tasks.set k .ended).map Task.fail }.note
        (.text "\nServer closed")
    else if w.listener = .started then { w with tasks := w.tasks.set k .waiting }
    else { w with tasks := w.tasks.set k .ended }
  | _ => w

def Window.searchClick (w : Window) (ports : List String) : Window :=
  { w with port := .fill ports, connectEnabled := w.connectEnabled || !ports.isEmpty }

/-- The buttons have changed before `Open` is called, and its exception is caught. -/
def Window.connectClick (w : Window) : Window :=
  match w.port.selected with
  | none => w.note (.text "\nError : Portが指定されていません．")
  | some name =>
    let w := { w.note (.text ("Connect : " ++ name)) with
      serialOpen := true
      searchEnabled := false
      connectEnabled := false
      portEnabled := false
      disconnectEnabled := true }
    match w.serverOpen with
    | none => w.note .failed
    | some w => w

def Window.disconnectClick (w : Window) : Window :=
  let w := { w with serialOpen := false }
  match w.port.selected with
  | none => { w with crashed := true }
  | some name =>
    let w := w.note (.text ("\nDisconnect : " ++ name))
    match w.serverClose with
    | none => { w with crashed := true }
    | some w =>
      { w with
        portEnabled := true
        searchEnabled := true
        connectEnabled := w.connectEnabled || !w.port.items.isEmpty
        disconnectEnabled := false }

inductive Click
  | search (ports : List String)
  | select (i : Nat)
  | connect
  | disconnect
  /-- The thread pool runs a task. -/
  | task (k : Nat)
  deriving DecidableEq, Repr

/-- A disabled control does nothing. -/
def click (w : Window) (c : Click) : Window :=
  if w.crashed then w
  else
    match c with
    | .search ports => if w.searchEnabled then w.searchClick ports else w
    | .select i => if w.portEnabled then { w with port := w.port.select i } else w
    | .connect => if w.connectEnabled then w.connectClick else w
    | .disconnect => if w.disconnectEnabled then w.disconnectClick else w
    | .task k => w.runTask k

/-- The window when all tasks have started. -/
def Window.settle (w : Window) : Window := run Window.runTask w (List.range w.tasks.length)

/-- While it can be disconnected, the server listens and a task waits for requests,
once it has started. -/
def Window.Serves (w : Window) : Prop :=
  w.disconnectEnabled = true → w.settle.listener = .started ∧ .waiting ∈ w.settle.tasks

def Window.ValidIndex (w : Window) : Prop :=
  w.disconnectEnabled = true → 0 ≤ w.port.selectedIndex ∧ w.port.selectedIndex < w.port.items.length

/-- `Connect` is clicked with a port selected. -/
def Connects (w : Window) (c : Click) : Prop :=
  c = .connect ∧ w.crashed = false ∧ w.connectEnabled = true ∧ 0 ≤ w.port.selectedIndex

instance (w : Window) (c : Click) : Decidable (Connects w c) := inferInstanceAs (Decidable (_ ∧ _))

/-- How often the window is connected. -/
def connects : Window → List Click → Nat
  | _, [] => 0
  | w, c :: cs => (if Connects w c then 1 else 0) + connects (click w c) cs

/-! ## Tasks -/

theorem selected_eq_none_iff (b : ComboBox) : b.selected = none ↔ b.selectedIndex < 0 := by
  unfold ComboBox.selected
  split_ifs with h
  · exact iff_of_true rfl h
  · have hlt : b.selectedIndex.toNat < b.items.length := by
      have := b.inRange.2
      omega
    exact iff_of_false (by simp [hlt]) h

theorem runTask_cancelled (w : Window) (k : Nat) : (w.runTask k).cancelled = w.cancelled := by
  unfold Window.runTask
  split
  · split_ifs <;> rfl
  · rfl

theorem runTask_buttons (w : Window) (k : Nat) :
    (w.runTask k).crashed = w.crashed ∧ (w.runTask k).disconnectEnabled = w.disconnectEnabled ∧
      (w.runTask k).searchEnabled = w.searchEnabled ∧
      (w.runTask k).portEnabled = w.portEnabled ∧ (w.runTask k).port = w.port := by
  unfold Window.runTask
  split
  · split_ifs <;> exact ⟨rfl, rfl, rfl, rfl, rfl⟩
  · exact ⟨rfl, rfl, rfl, rfl, rfl⟩

theorem runTask_closed (w : Window) (h : w.listener = .closed) (k : Nat) :
    (w.runTask k).listener = .closed := by
  unfold Window.runTask
  split
  · split_ifs
    · rfl
    · exact h
    · exact h
  · exact h

theorem runTask_starting (w : Window) (k m : Nat) (hk : k ≠ m) (h : w.tasks[m]? = some .starting) :
    (w.runTask k).tasks[m]? = some .starting := by
  unfold Window.runTask
  split
  · split_ifs
    · simp [Window.note, List.getElem?_set_ne hk, h, Task.fail]
    · simp [List.getElem?_set_ne hk, h]
    · simp [List.getElem?_set_ne hk, h]
  · exact h

theorem settle_closed (w : Window) (h : w.listener = .closed) : w.settle.listener = .closed :=
  run_invariant Window.runTask (fun w => w.listener = .closed)
    (fun w k hw => runTask_closed w hw k) w h _

/-- A task that starts when the source is cancelled closes the listener. -/
theorem settle_cancelled (w : Window) (hc : w.cancelled = true) (ts : List Task)
    (ht : w.tasks = ts ++ [.starting]) : w.settle.listener = .closed := by
  have hrun : ∀ n ≤ ts.length, (run Window.runTask w (List.range n)).cancelled = true ∧
      (run Window.runTask w (List.range n)).tasks[ts.length]? = some .starting := by
    intro n hn
    induction n with
    | zero => exact ⟨hc, by simp [ht]⟩
    | succ n ih =>
      obtain ⟨ihc, iht⟩ := ih (by omega)
      rw [List.range_succ, run_append]
      exact ⟨(runTask_cancelled _ n).trans ihc, runTask_starting _ n _ (by omega) iht⟩
  obtain ⟨hlast, hstart⟩ := hrun ts.length (Nat.le_refl _)
  have hlen : w.tasks.length = ts.length + 1 := by simp [ht]
  rw [Window.settle, hlen, List.range_succ, run_append, run_cons, run_nil, Window.runTask, hstart]
  simp only [hlast, if_true]
  rfl

/-! ## Phases -/

/-- The window was never connected. -/
structure Window.Fresh (w : Window) : Prop where
  crashed : w.crashed = false
  disconnect : w.disconnectEnabled = false
  listener : w.listener = .stopped
  cancelled : w.cancelled = false
  tasks : w.tasks = []

/-- The window is connected for the first time. -/
structure Window.Connected (w : Window) : Prop where
  crashed : w.crashed = false
  search : w.searchEnabled = false
  connect : w.connectEnabled = false
  disconnect : w.disconnectEnabled = true
  port : w.portEnabled = false
  index : 0 ≤ w.port.selectedIndex
  listener : w.listener = .started
  cancelled : w.cancelled = false
  tasks : w.tasks = [.starting] ∨ w.tasks = [.waiting]

/-- The window was disconnected, and not connected since. -/
structure Window.Disconnected (w : Window) : Prop where
  crashed : w.crashed = false
  disconnect : w.disconnectEnabled = false
  cancelled : w.cancelled = true

theorem Window.Connected.serves {w : Window} (h : w.Connected) : w.Serves := by
  intro _
  rcases h.tasks with ht | ht
  · simp [Window.settle, ht, Window.runTask, h.cancelled, h.listener]
  · simp [Window.settle, ht, Window.runTask, h.listener]

/-- The buttons that are enabled without a connection leave the server alone. -/
structure Window.SameServer (w v : Window) : Prop where
  crashed : v.crashed = w.crashed
  disconnect : v.disconnectEnabled = w.disconnectEnabled
  listener : v.listener = w.listener
  cancelled : v.cancelled = w.cancelled
  tasks : v.tasks = w.tasks

theorem Window.SameServer.refl (w : Window) : w.SameServer w := ⟨rfl, rfl, rfl, rfl, rfl⟩

theorem connectClick_sameServer (w : Window) (h : w.port.selectedIndex < 0) :
    w.SameServer w.connectClick := by
  rw [Window.connectClick, (selected_eq_none_iff w.port).mpr h]
  exact ⟨rfl, rfl, rfl, rfl, rfl⟩

theorem click_sameServer (w : Window) (hw : w.crashed = false) (hd : w.disconnectEnabled = false)
    (c : Click) (hc : ¬ Connects w c) (ht : ∀ k, c ≠ .task k) : w.SameServer (click w c) := by
  unfold click
  rw [if_neg (by simp [hw])]
  cases c with
  | search ports =>
    dsimp only
    split_ifs
    · exact ⟨rfl, rfl, rfl, rfl, rfl⟩
    · exact .refl w
  | select i =>
    dsimp only
    split_ifs
    · exact ⟨rfl, rfl, rfl, rfl, rfl⟩
    · exact .refl w
  | connect =>
    dsimp only
    split_ifs with hen
    · refine connectClick_sameServer w ?_
      by_contra hindex
      exact hc ⟨rfl, hw, hen, by omega⟩
    · exact .refl w
  | disconnect =>
    dsimp only
    rw [if_neg (by simp [hd])]
    exact .refl w
  | task k => exact absurd rfl (ht k)

theorem Window.Fresh.click {w : Window} (h : w.Fresh) (c : Click) (hc : ¬ Connects w c) :
    (click w c).Fresh := by
  by_cases ht : ∃ k, c = .task k
  · obtain ⟨k, rfl⟩ := ht
    have hsame : MainWindow.click w (.task k) = w := by
      simp [MainWindow.click, Window.runTask, h.tasks]
    rw [hsame]
    exact h
  · have hs := click_sameServer w h.crashed h.disconnect c hc (fun k hk => ht ⟨k, hk⟩)
    exact ⟨hs.crashed.trans h.crashed, hs.disconnect.trans h.disconnect,
      hs.listener.trans h.listener, hs.cancelled.trans h.cancelled, hs.tasks.trans h.tasks⟩

theorem Window.Disconnected.click {w : Window} (h : w.Disconnected) (c : Click)
    (hc : ¬ Connects w c) : (click w c).Disconnected := by
  by_cases ht : ∃ k, c = .task k
  · obtain ⟨k, rfl⟩ := ht
    have hclick : MainWindow.click w (.task k) = w.runTask k := by simp [MainWindow.click, h.crashed]
    obtain ⟨hcrashed, hdisconnect, -⟩ := runTask_buttons w k
    rw [hclick]
    exact ⟨hcrashed.trans h.crashed, hdisconnect.trans h.disconnect,
      (runTask_cancelled w k).trans h.cancelled⟩
  · have hs := click_sameServer w h.crashed h.disconnect c hc (fun k hk => ht ⟨k, hk⟩)
    exact ⟨hs.crashed.trans h.crashed, hs.disconnect.trans h.disconnect,
      hs.cancelled.trans h.cancelled⟩

/-- A connection changes the buttons of `w`, and then starts the server if the
listener is not closed. -/
structure Window.Connecting (w v : Window) : Prop where
  crashed : v.crashed = false
  search : v.searchEnabled = false
  connect : v.connectEnabled = false
  disconnect : v.disconnectEnabled = true
  portEnabled : v.portEnabled = false
  port : v.port = w.port
  cancelled : v.cancelled = w.cancelled
  server : (w.listener = .closed ∧ v.listener = .closed) ∨
    (w.listener ≠ .closed ∧ v.listener = .started ∧ v.tasks = w.tasks ++ [.starting])

theorem click_connecting (w : Window) (c : Click) (hc : Connects w c) : w.Connecting (click w c) := by
  obtain ⟨rfl, hcrashed, hen, hindex⟩ := hc
  have hclick : click w .connect = w.connectClick := by simp [click, hcrashed, hen]
  obtain ⟨name, hname⟩ := Option.ne_none_iff_exists'.mp
    (mt (selected_eq_none_iff w.port).mp (by omega))
  rw [hclick, Window.connectClick, hname]
  cases hl : w.listener with
  | closed =>
    simp only [Window.serverOpen, Window.note, hl]
    exact ⟨hcrashed, rfl, rfl, rfl, rfl, rfl, rfl, .inl ⟨hl, rfl⟩⟩
  | stopped | started =>
    simp only [Window.serverOpen, Window.note, hl]
    exact ⟨hcrashed, rfl, rfl, rfl, rfl, rfl, rfl, .inr ⟨by simp [hl], rfl, rfl⟩⟩

theorem Window.Fresh.connect {w : Window} (h : w.Fresh) (c : Click) (hc : Connects w c) :
    (MainWindow.click w c).Connected := by
  have hv := click_connecting w c hc
  rcases hv.server with ⟨hclosed, -⟩ | ⟨-, hstarted, htasks⟩
  · rw [h.listener] at hclosed
    cases hclosed
  · exact ⟨hv.crashed, hv.search, hv.connect, hv.disconnect, hv.portEnabled, hv.port ▸ hc.2.2.2,
      hstarted, hv.cancelled.trans h.cancelled, .inl (by rw [htasks, h.tasks]; rfl)⟩

/-- The second connection finds the source cancelled. -/
theorem Window.Disconnected.not_serves {w : Window} (h : w.Disconnected) (c : Click)
    (hc : Connects w c) : ¬ (MainWindow.click w c).Serves := by
  have hv := click_connecting w c hc
  intro hserves
  have hstarted := (hserves hv.disconnect).1
  rcases hv.server with ⟨-, hclosed⟩ | ⟨-, -, htasks⟩
  · rw [settle_closed _ hclosed] at hstarted
    cases hstarted
  · rw [settle_cancelled _ (hv.cancelled.trans h.cancelled) _ htasks] at hstarted
    cases hstarted

theorem Window.Connected.not_connects {w : Window} (h : w.Connected) (c : Click) :
    ¬ Connects w c := by
  rintro ⟨-, -, hen, -⟩
  rw [h.connect] at hen
  cases hen

theorem Window.Connected.runTask {w : Window} (h : w.Connected) (k : Nat) :
    (w.runTask k).Connected := by
  rcases h.tasks with ht | ht
  · cases k with
    | zero =>
      have hrun : w.runTask 0 = { w with tasks := [.waiting] } := by
        simp [Window.runTask, ht, h.cancelled, h.listener]
      rw [hrun]
      exact ⟨h.crashed, h.search, h.connect, h.disconnect, h.port, h.index, h.listener,
        h.cancelled, .inr rfl⟩
    | succ k =>
      have hrun : w.runTask (k + 1) = w := by simp [Window.runTask, ht]
      rwa [hrun]
  · have hrun : w.runTask k = w := by
      cases k <;> simp [Window.runTask, ht]
    rwa [hrun]

theorem Window.Connected.disconnectClick {w : Window} (h : w.Connected) :
    w.disconnectClick.Disconnected := by
  obtain ⟨name, hname⟩ := Option.ne_none_iff_exists'.mp
    (mt (selected_eq_none_iff w.port).mp (by have := h.index; omega))
  simp only [Window.disconnectClick, hname, Window.note, Window.serverClose, h.listener]
  exact ⟨h.crashed, rfl, rfl⟩

/-- A connected window stays connected until it is disconnected. -/
theorem Window.Connected.click {w : Window} (h : w.Connected) (c : Click) :
    (MainWindow.click w c).Connected ∨ (MainWindow.click w c).Disconnected := by
  cases c with
  | search ports => exact .inl (by simpa [MainWindow.click, h.crashed, h.search] using h)
  | select i => exact .inl (by simpa [MainWindow.click, h.crashed, h.port] using h)
  | connect => exact .inl (by simpa [MainWindow.click, h.crashed, h.connect] using h)
  | disconnect =>
    exact .inr (by simpa [MainWindow.click, h.crashed, h.disconnect] using h.disconnectClick)
  | task k => exact .inl (by simpa [MainWindow.click, h.crashed] using h.runTask k)

/-! ## Runs -/

/-- A window that can be disconnected has a port selected, and nothing can change
that. -/
def Window.Locked (w : Window) : Prop :=
  w.disconnectEnabled = true →
    w.searchEnabled = false ∧ w.portEnabled = false ∧ 0 ≤ w.port.selectedIndex

theorem Window.Locked.disconnectClick {w : Window} (h : w.Locked) : w.disconnectClick.Locked := by
  unfold Window.disconnectClick
  dsimp only
  split
  · exact h
  · split
    · exact h
    · exact fun hen => nomatch hen

theorem Window.Locked.click {w : Window} (h : w.Locked) (c : Click) : (click w c).Locked := by
  by_cases hc : Connects w c
  · have hv := click_connecting w c hc
    exact fun _ => ⟨hv.search, hv.portEnabled, hv.port ▸ hc.2.2.2⟩
  unfold MainWindow.click
  by_cases hw : w.crashed = true
  · rwa [if_pos hw]
  rw [if_neg hw]
  cases c with
  | search ports =>
    dsimp only
    split_ifs with hen
    · exact fun hd => absurd ((h hd).1.symm.trans hen) Bool.false_ne_true
    · exact h
  | select i =>
    dsimp only
    split_ifs with hen
    · exact fun hd => absurd ((h hd).2.1.symm.trans hen) Bool.false_ne_true
    · exact h
  | connect =>
    dsimp only
    split_ifs with hen
    · have hindex : w.port.selectedIndex < 0 := by
        by_contra hindex
        exact hc ⟨rfl, by simpa using hw, hen, by omega⟩
      rw [Window.connectClick, (selected_eq_none_iff w.port).mpr hindex]
      exact h
    · exact h
  | disconnect =>
    dsimp only
    split_ifs
    · exact h.disconnectClick
    · exact h
  | task k =>
    obtain ⟨-, hd, hs, hp, hb⟩ := runTask_buttons w k
    unfold Window.Locked
    rw [hd, hs, hp, hb]
    exact h

/-- The index is valid in every run, also after a second connection. -/
theorem run_validIndex (cs : List Click) : (run click .init cs).ValidIndex := by
  have hlocked : (run click .init cs).Locked :=
    run_invariant click Window.Locked (fun w c h => h.click c) .init (fun hen => nomatch hen) cs
  exact fun hen => ⟨(hlocked hen).2.2, (run click .init cs).port.inRange.2⟩

/-- What is asked of the window after each click. -/
def Window.Fine (w : Window) : Prop := w.Serves ∧ w.ValidIndex

theorem Window.Connected.fine {w : Window} (h : w.Connected) : w.Fine :=
  ⟨h.serves, fun _ => ⟨h.index, w.port.inRange.2⟩⟩

theorem fine_of_disabled {w : Window} (h : w.disconnectEnabled = false) : w.Fine :=
  ⟨fun hen => absurd (h.symm.trans hen) Bool.false_ne_true,
    fun hen => absurd (h.symm.trans hen) Bool.false_ne_true⟩

/-- After the first connection there must be no other. -/
theorem everyStep_fine_iff_connects (w : Window) (h : w.Connected ∨ w.Disconnected)
    (cs : List Click) :
    EveryStep click (fun w c => (click w c).Fine) w cs ↔ connects w cs = 0 := by
  induction cs generalizing w with
  | nil => exact iff_of_true trivial rfl
  | cons c cs ih =>
    rw [EveryStep, connects, Nat.add_eq_zero_iff]
    rcases h with h | h
    · have hfine : (click w c).Fine := by
        rcases h.click c with hnext | hnext
        · exact hnext.fine
        · exact fine_of_disabled hnext.disconnect
      rw [if_neg (h.not_connects c), ih _ (h.click c)]
      exact and_congr_left fun _ => iff_of_true hfine rfl
    · by_cases hc : Connects w c
      · rw [if_pos hc]
        exact iff_of_false (fun hrun => h.not_serves c hc hrun.1.1) fun hzero => Nat.one_ne_zero hzero.1
      · have hnext := h.click c hc
        rw [if_neg hc, ih _ (.inr hnext)]
        exact and_congr_left fun _ => iff_of_true (fine_of_disabled hnext.disconnect) rfl

theorem everyStep_fine_iff_fresh (w : Window) (h : w.Fresh) (cs : List Click) :
    EveryStep click (fun w c => (click w c).Fine) w cs ↔ connects w cs ≤ 1 := by
  induction cs generalizing w with
  | nil => exact iff_of_true trivial (Nat.zero_le 1)
  | cons c cs ih =>
    rw [EveryStep, connects]
    by_cases hc : Connects w c
    · have hnext := h.connect c hc
      rw [if_pos hc, everyStep_fine_iff_connects _ (.inl hnext) cs]
      constructor
      · rintro ⟨-, hzero⟩
        omega
      · intro hle
        exact ⟨hnext.fine, by omega⟩
    · have hnext := h.click c hc
      rw [if_neg hc, ih _ hnext, Nat.zero_add]
      exact and_iff_right (fine_of_disabled hnext.disconnect)

/-- The server listens and serves while the window is connected, and the index is
valid, exactly if the window is connected at most once. -/
theorem server_life_cycle_iff (cs : List Click) :
    EveryStep click (fun w c => (click w c).Serves ∧ (click w c).ValidIndex) .init cs ↔
      connects .init cs ≤ 1 :=
  everyStep_fine_iff_fresh .init ⟨rfl, rfl, rfl, rfl, rfl⟩ cs

/-- A port is found, selected, connected, disconnected, and connected again. -/
theorem reconnect_not_served :
    let cs : List Click := [.search ["COM3"], .select 0, .connect, .task 0, .disconnect, .connect]
    ¬ EveryStep click (fun w c => (click w c).Serves ∧ (click w c).ValidIndex) .init cs ∧
      (run click .init cs).disconnectEnabled = true ∧
      (run click .init cs).settle.listener = .closed := by
  intro cs
  have hen : (run click .init cs).disconnectEnabled = true := by decide
  have hclosed : (run click .init cs).settle.listener = .closed := by decide
  refine ⟨fun h => ?_, hen, hclosed⟩
  have hlast : (run click .init cs).Serves :=
    ((everyStep_iff_split _ _ _).mp h (cs.take 5) .connect [] rfl).1
  have hstarted := (hlast hen).1
  rw [hclosed] at hstarted
  cases hstarted

end Sprefence.MainWindow

import Sprefence.Lib.Runs
import Sprefence.Server.Calibration

/-! The page of `calibration.js`. Four clicks on the canvas are collected, a timer
asks whether they are right, and the answer sends them or starts again; `flowchart.txt`
describes the same. Clicks go on between the fourth one and the question. Coordinates
are exact rationals. -/

namespace Sprefence.CalibrationPage

open Runs WebServer

/-! ## The code -/

/-- A timer of `setTimeout`: the points of the `obj` that its function sends. -/
structure Timer where
  points : List Point
  due : Nat

structure Page where
  /-- In milliseconds. -/
  now : Nat
  count : Nat
  /-- `loc_ls`, `none` where it is undefined. -/
  locLs : Nat → Option Point
  timers : List Timer
  /-- The points of the open `confirm` dialog. -/
  dialog : Option (List Point)
  /-- The bodies of the requests to `/sethazard`, in order. -/
  posts : List (List Point)

def Page.init : Page := ⟨0, 0, fun _ => none, [], none, []⟩

inductive Event
  /-- A click on the canvas, with the corner of its bounding rectangle. -/
  | click (clientX clientY left top : Rat)
  | wait (ms : Nat)
  /-- The timer with this number fires. -/
  | fire (k : Nat)
  | answer (accept : Bool)
  /-- The page is loaded again. -/
  | load
  deriving DecidableEq

/-- `[x / 640, y / 480]`. -/
def relative (clientX clientY left top : Rat) : Point :=
  let x := clientX - left
  let y := clientY - top
  ⟨x / 640, y / 480⟩

/-- The listener. An undefined entry of `loc_ls` would end it before the timer is set. -/
def Page.click (s : Page) (p : Point) : Page :=
  let s := { s with
    locLs := fun k => if k = s.count then some p else s.locLs k
    count := s.count + 1 }
  if s.count = 4 then
    match (List.range 4).mapM s.locLs with
    | none => s
    | some points => { s with timers := s.timers ++ [⟨points, s.now + 100⟩] }
  else s

/-- The function of the timer up to the dialog. -/
def Page.fire (s : Page) (k : Nat) : Page :=
  match s.timers[k]? with
  | none => s
  | some t => { s with timers := s.timers.eraseIdx k, dialog := some t.points }

/-- The function of the timer from the dialog on. Setting `window.location.href` does
not end the page at once, so events may still follow. -/
def Page.answer (s : Page) (accept : Bool) : Page :=
  match s.dialog with
  | none => s
  | some points =>
    if accept then { s with dialog := none, posts := s.posts ++ [points] }
    else { s with dialog := none, locLs := fun _ => none, count := 0 }

def step (s : Page) : Event → Page
  | .click clientX clientY left top => s.click (relative clientX clientY left top)
  | .wait ms => { s with now := s.now + ms }
  | .fire k => s.fire k
  | .answer accept => s.answer accept
  | .load => { Page.init with now := s.now, posts := s.posts }

/-- A timer fires when it is due, and an answer needs a question. -/
def Enabled (s : Page) : Event → Prop
  | .fire k => s.dialog = none ∧ ∃ t, s.timers[k]? = some t ∧ t.due ≤ s.now
  | .answer _ => s.dialog ≠ none
  | _ => True

/-- Events in an order in which they can happen. -/
structure Trace where
  events : List Event
  enabled : EveryStep step Enabled Page.init events

/-! ## What the page is for -/

/-- The clicks since the page was loaded or last declined, and what was sent. -/
structure Ledger where
  clicks : List Point
  posts : List (List Point)

def Ledger.init : Ledger := ⟨[], []⟩

def Ledger.step (a : Ledger) : Event → Ledger
  | .click clientX clientY left top =>
    { a with clicks := a.clicks ++ [⟨(clientX - left) / 640, (clientY - top) / 480⟩] }
  | .wait _ => a
  | .fire _ => a
  | .answer true => { a with posts := a.posts ++ [a.clicks.take 4] }
  | .answer false => { a with clicks := [] }
  | .load => { a with clicks := [] }

/-! ## The invariant -/

/-- The confirmations that are on their way or on the screen. -/
def Page.pending (s : Page) : Nat := s.timers.length + s.dialog.toList.length

/-- Where the page is in its course, after these clicks. -/
inductive Phase (s : Page) (clicks : List Point) : Prop
  | collecting (few : clicks.length < 4) (timers : s.timers = []) (dialog : s.dialog = none)
  | waiting (due : Nat) (four : 4 ≤ clicks.length) (timers : s.timers = [⟨clicks.take 4, due⟩])
    (dialog : s.dialog = none)
  | asking (four : 4 ≤ clicks.length) (timers : s.timers = []) (dialog : s.dialog = some (clicks.take 4))
  | spent (four : 4 ≤ clicks.length) (timers : s.timers = []) (dialog : s.dialog = none)

structure Tracks (s : Page) (a : Ledger) : Prop where
  count : s.count = a.clicks.length
  locLs : ∀ k, s.locLs k = a.clicks[k]?
  posts : s.posts = a.posts
  four : ∀ points ∈ a.posts, points.length = 4
  phase : Phase s a.clicks

/-- A dialog is only open in one phase. -/
theorem Phase.asking_of_dialog {s : Page} {clicks : List Point} (h : Phase s clicks)
    (hdialog : s.dialog ≠ none) :
    4 ≤ clicks.length ∧ s.timers = [] ∧ s.dialog = some (clicks.take 4) := by
  cases h with
  | collecting _ _ dialog => exact absurd dialog hdialog
  | waiting _ _ _ dialog => exact absurd dialog hdialog
  | asking four timers dialog => exact ⟨four, timers, dialog⟩
  | spent _ _ dialog => exact absurd dialog hdialog

theorem Page.answer_of_dialog {s : Page} {points : List Point} (h : s.dialog = some points)
    (accept : Bool) :
    s.answer accept = if accept then { s with dialog := none, posts := s.posts ++ [points] }
      else { s with dialog := none, locLs := fun _ => none, count := 0 } := by
  simp only [Page.answer, h]

theorem tracks_init : Tracks .init .init :=
  ⟨rfl, fun _ => rfl, rfl, fun _ h => absurd h List.not_mem_nil,
    .collecting (Nat.succ_pos 3) rfl rfl⟩

theorem locLs_click (clicks : List Point) (p : Point) (k : Nat) :
    (if k = clicks.length then some p else clicks[k]?) = (clicks ++ [p])[k]? := by
  split_ifs with h
  · rw [h, List.getElem?_concat_length]
  · rcases Nat.lt_or_gt_of_ne h with hlt | hgt
    · rw [List.getElem?_append_left hlt]
    · rw [List.getElem?_eq_none (Nat.le_of_lt hgt), List.getElem?_eq_none]
      rw [List.length_append, List.length_singleton]
      omega

/-- The loop over `loc_ls` at the fourth click. -/
theorem mapM_locLs {clicks : List Point} (h : clicks.length = 4) :
    (List.range 4).mapM (fun k => clicks[k]?) = some (clicks.take 4) := by
  match clicks, h with
  | [_, _, _, _], _ => rfl

theorem tracks_click {s : Page} {a : Ledger} (h : Tracks s a) (p : Point) :
    Tracks (s.click p) { a with clicks := a.clicks ++ [p] } := by
  have hlen : (a.clicks ++ [p]).length = a.clicks.length + 1 := by simp
  have hloc : (fun k => if k = a.clicks.length then some p else s.locLs k) =
      fun k => (a.clicks ++ [p])[k]? := by
    funext k
    rw [h.locLs k, locLs_click]
  simp only [Page.click, h.count, hloc]
  by_cases hfour : a.clicks.length + 1 = 4
  · rw [if_pos hfour, mapM_locLs (hlen.trans hfour)]
    refine ⟨hlen.symm, fun _ => rfl, h.posts, h.four, ?_⟩
    have hless : a.clicks.length < 4 := by omega
    cases h.phase with
    | collecting _ timers dialog =>
      exact .waiting (s.now + 100) (by dsimp only; omega) (by rw [timers]; rfl) dialog
    | waiting _ four => omega
    | asking four => omega
    | spent four => omega
  · rw [if_neg hfour]
    refine ⟨hlen.symm, fun _ => rfl, h.posts, h.four, ?_⟩
    have htake (four : 4 ≤ a.clicks.length) : (a.clicks ++ [p]).take 4 = a.clicks.take 4 :=
      List.take_append_of_le_length four
    cases h.phase with
    | collecting few timers dialog => exact .collecting (by dsimp only; omega) timers dialog
    | waiting due four timers dialog =>
      exact .waiting due (by dsimp only; omega) (by rw [htake four]; exact timers) dialog
    | asking four timers dialog =>
      exact .asking (by dsimp only; omega) timers (by rw [htake four]; exact dialog)
    | spent four timers dialog => exact .spent (by dsimp only; omega) timers dialog

theorem tracks_fire {s : Page} {a : Ledger} (h : Tracks s a) (k : Nat)
    (he : Enabled s (.fire k)) : Tracks (s.fire k) a := by
  obtain ⟨-, t, ht, -⟩ := he
  cases h.phase with
  | waiting due four timers dialog =>
    rw [timers] at ht
    cases k with
    | zero =>
      cases ht
      have hfire : s.fire 0 = { s with timers := [], dialog := some (a.clicks.take 4) } := by
        simp only [Page.fire, timers]
        rfl
      rw [hfire]
      exact ⟨h.count, h.locLs, h.posts, h.four, .asking four rfl rfl⟩
    | succ k => cases ht
  | collecting _ timers => rw [timers] at ht; cases ht
  | asking _ timers => rw [timers] at ht; cases ht
  | spent _ timers => rw [timers] at ht; cases ht

theorem tracks_answer {s : Page} {a : Ledger} (h : Tracks s a) (accept : Bool)
    (he : Enabled s (.answer accept)) : Tracks (s.answer accept) (a.step (.answer accept)) := by
  obtain ⟨four, timers, dialog⟩ := h.phase.asking_of_dialog he
  rw [Page.answer_of_dialog dialog]
  cases accept with
  | true =>
    refine ⟨h.count, h.locLs, congrArg (· ++ [a.clicks.take 4]) h.posts, ?_,
      .spent four timers rfl⟩
    intro points hpoints
    rcases List.mem_append.mp hpoints with hold | hnew
    · exact h.four points hold
    · rw [List.mem_singleton.mp hnew]
      exact List.length_take_of_le four
  | false => exact ⟨rfl, fun _ => rfl, h.posts, h.four, .collecting (Nat.succ_pos 3) timers rfl⟩

/-- Every event keeps the page in step with the ledger. -/
theorem tracks_step (s : Page) (a : Ledger) (e : Event) (h : Tracks s a) (he : Enabled s e) :
    Tracks (step s e) (a.step e) := by
  cases e with
  | click clientX clientY left top => exact tracks_click h (relative clientX clientY left top)
  | wait ms =>
    refine ⟨h.count, h.locLs, h.posts, h.four, ?_⟩
    cases h.phase with
    | collecting few timers dialog => exact .collecting few timers dialog
    | waiting due four timers dialog => exact .waiting due four timers dialog
    | asking four timers dialog => exact .asking four timers dialog
    | spent four timers dialog => exact .spent four timers dialog
  | fire k => exact tracks_fire h k he
  | answer accept => exact tracks_answer h accept he
  | load => exact ⟨rfl, fun _ => rfl, h.posts, h.four, .collecting (Nat.succ_pos 3) rfl rfl⟩

theorem tracks_run (t : Trace) : Tracks (run step .init t.events) (run Ledger.step .init t.events) :=
  run_simulation Tracks tracks_step tracks_init t.enabled

theorem Tracks.pending_le_one {s : Page} {a : Ledger} (h : Tracks s a) : s.pending ≤ 1 := by
  unfold Page.pending
  cases h.phase with
  | collecting _ timers dialog => simp [timers, dialog]
  | waiting _ _ timers dialog => simp [timers, dialog]
  | asking _ timers dialog => simp [timers, dialog]
  | spent _ timers dialog => simp [timers, dialog]

/-! ## After an accepted dialog -/

/-- Nothing is asked any more, and the next click is not the fourth. -/
structure Spent (s : Page) : Prop where
  count : 4 ≤ s.count
  timers : s.timers = []
  dialog : s.dialog = none

theorem Tracks.spent_of_accept {s : Page} {a : Ledger} (h : Tracks s a)
    (he : Enabled s (.answer true)) : Spent (step s (.answer true)) := by
  obtain ⟨four, timers, dialog⟩ := h.phase.asking_of_dialog he
  rw [step, Page.answer_of_dialog dialog]
  exact ⟨h.count ▸ four, timers, rfl⟩

theorem Spent.step {s : Page} (h : Spent s) (e : Event) (he : e ≠ .load) :
    Spent (CalibrationPage.step s e) := by
  cases e with
  | click clientX clientY left top =>
    have hcount : ¬ s.count + 1 = 4 := by
      have := h.count
      omega
    simp only [CalibrationPage.step, Page.click, if_neg hcount]
    exact ⟨Nat.le_succ_of_le h.count, h.timers, h.dialog⟩
  | wait ms => exact ⟨h.count, h.timers, h.dialog⟩
  | fire k =>
    have hfire : s.fire k = s := by simp [Page.fire, h.timers]
    rwa [CalibrationPage.step, hfire]
  | answer accept =>
    have hanswer : s.answer accept = s := by simp only [Page.answer, h.dialog]
    rwa [CalibrationPage.step, hanswer]
  | load => exact absurd rfl he

theorem Spent.run {s : Page} (h : Spent s) (es : List Event) (hes : .load ∉ es) :
    Spent (Runs.run CalibrationPage.step s es) := by
  induction es generalizing s with
  | nil => exact h
  | cons e es ih =>
    rw [List.mem_cons, not_or] at hes
    exact ih (h.step e (Ne.symm hes.1)) hes.2

/-- Between two accepted dialogs the page is loaded. -/
theorem load_between_accepts (t : Trace) (pre mid post : List Event)
    (h : t.events = pre ++ .answer true :: (mid ++ .answer true :: post)) : .load ∈ mid := by
  have henabled := t.enabled
  rw [h, everyStep_append] at henabled
  obtain ⟨hpre, haccept, hrest⟩ := henabled
  have hspent := (tracks_run ⟨pre, hpre⟩).spent_of_accept haccept
  by_contra hload
  rw [everyStep_append] at hrest
  exact hrest.2.1 (hspent.run mid hload).dialog

theorem Tracks.four_points {s : Page} {a : Ledger} (h : Tracks s a) :
    ∀ points ∈ s.posts, points.length = 4 := h.posts ▸ h.four

/-- What the page sends is what the ledger says: always four points, the first clicks
since the page was loaded or declined. Never more than one confirmation is pending,
and after an accepted one nothing is sent before the page is loaded again. -/
theorem calibration_page_correct (t : Trace) :
    (run step .init t.events).posts = (run Ledger.step .init t.events).posts ∧
      (∀ points ∈ (run step .init t.events).posts, points.length = 4) ∧
      (run step .init t.events).pending ≤ 1 ∧
      ∀ pre mid post, t.events = pre ++ .answer true :: (mid ++ .answer true :: post) →
        .load ∈ mid := by
  have h := tracks_run t
  exact ⟨h.posts, h.four_points, h.pending_le_one, load_between_accepts t⟩

/-- Five clicks, of which the last comes before the question. -/
def fiveClicks : Trace where
  events := [.click 72 56 8 8, .click 584 56 8 8, .click 72 440 8 8, .click 584 440 8 8,
    .click 328 248 8 8, .wait 100, .fire 0, .answer true]
  enabled := by
    refine ⟨trivial, trivial, trivial, trivial, trivial, trivial, ⟨rfl, ?_⟩, ?_, trivial⟩
    · exact ⟨_, rfl, Nat.le_refl _⟩
    · exact Option.some_ne_none _

theorem calibration_page_five_clicks :
    (run step .init fiveClicks.events).posts =
        [[⟨1 / 10, 1 / 10⟩, ⟨9 / 10, 1 / 10⟩, ⟨1 / 10, 9 / 10⟩, ⟨9 / 10, 9 / 10⟩]] ∧
      (run step .init fiveClicks.events).pending ≤ 1 := by
  have h := calibration_page_correct fiveClicks
  refine ⟨h.1.trans ?_, h.2.2.1⟩
  decide +kernel

end Sprefence.CalibrationPage

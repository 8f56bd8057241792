import Sprefence.Detector.Fence

/-! The reference picture of the `diff_ditect` loop. `load_pic` runs while no
picture is loaded and whenever the index is zero, and its result goes into `pic`
also when it fails; an iteration that finds `switch.ini` moves the index on
without loading. -/

namespace Sprefence.DiffDitect

open CBytes Runs
open WebSource (SdCard)

/-- The argument `pic` of the calls of `find_black_center` and
`find_skin_center`, if the iteration makes them. -/
def pictureArgument (s : State) (i : SdCard × Surroundings) : Option Pic :=
  if s.status = .running ∧ i.1.switchIni = none then do
    let t ← s.reload i.1.uyvyYuv
    if i.2.qbuf = true then some t.pic else none
  else none

/-- The two functions get the buffer of a successful `load_pic`. -/
def ValidPicture (s : State) (i : SdCard × Surroundings) : Prop :=
  ∀ p, pictureArgument s i = some p → p = .picMem

/-- `load_pic` fails although a picture was loaded before. -/
def FailedReload (s : State) (i : SdCard × Surroundings) : Prop :=
  s.status = .running ∧ s.isLoaded = true ∧ s.i = 0 ∧ i.1.switchIni = none ∧ i.1.uyvyYuv = none

section Loop

variable (findBlackCenter findSkinCenter : FindCenter)

/-- Between a failed reload and the next iteration that does not find
`switch.ini` and can queue its buffer, the number of iterations that find it is
a multiple of 60. -/
def ReloadsInTime (s : State) (is : List (SdCard × Surroundings)) : Prop :=
  ∀ pre f sw c post, is = pre ++ f :: (sw ++ c :: post) →
    FailedReload (run (stepOn findBlackCenter findSkinCenter) s pre) f →
    (∀ e ∈ sw, e.1.switchIni ≠ none) → c.1.switchIni = none → c.2.qbuf = true →
    60 ∣ sw.length

/-! ## One iteration -/

theorem stepOn_switch (s : State) (hs : s.status = .running) (i : SdCard × Surroundings)
    (hi : i.1.switchIni ≠ none) :
    (stepOn findBlackCenter findSkinCenter s i).status = .running ∧
      (stepOn findBlackCenter findSkinCenter s i).pic = s.pic ∧
      (stepOn findBlackCenter findSkinCenter s i).isLoaded = s.isLoaded ∧
      (stepOn findBlackCenter findSkinCenter s i).i = (s.i + 1) % 60 := by
  have hp : poll i.1.switchIni i.2.cbuff ≠ .absent := by
    rw [Ne, poll_eq_absent_iff]
    exact hi
  cases h : poll i.1.switchIni i.2.cbuff with
  | absent => exact absurd h hp
  | on => simp [stepOn, iterate, hs, h, State.next, State.fenceOn, State.gpioWrite]
  | off => simp [stepOn, iterate, hs, h, State.next, State.fenceOff, State.gpioWrite]
  | other => simp [stepOn, iterate, hs, h, State.next]

/-- Only a failed `load_pic` asks for it again. -/
theorem reload_eq_none_iff (s : State) (uyvyYuv : Option (List UInt8)) :
    s.reload uyvyYuv = none ↔ (s.isLoaded = false ∨ s.i = 0) ∧ uyvyYuv = none := by
  unfold State.reload
  split_ifs with h
  · cases uyvyYuv <;> simp [h]
  · simp [h]

/-- Before the comparison a picture is in the buffer, or `pic` is what it was. -/
theorem reload_pic (s t : State) (uyvyYuv : Option (List UInt8))
    (h : s.reload uyvyYuv = some t) : t.pic = .picMem ∨ (t = s ∧ s.isLoaded = true ∧ s.i ≠ 0) := by
  unfold State.reload at h
  split_ifs at h with hneeded
  · cases uyvyYuv with
    | none => cases h
    | some file =>
      cases h
      exact .inl rfl
  · cases h
    push Not at hneeded
    exact .inr ⟨rfl, by simpa using hneeded.1, hneeded.2⟩

theorem pictureArgument_eq_some_iff (s : State) (i : SdCard × Surroundings) (p : Pic) :
    pictureArgument s i = some p ↔ s.status = .running ∧ i.1.switchIni = none ∧
      i.2.qbuf = true ∧ ∃ t, s.reload i.1.uyvyYuv = some t ∧ t.pic = p := by
  by_cases hrun : s.status = .running ∧ i.1.switchIni = none
  · cases hr : s.reload i.1.uyvyYuv with
    | none => simp [pictureArgument, hrun, hr]
    | some t => simp [pictureArgument, hrun, hr]
  · simp only [pictureArgument, if_neg hrun, reduceCtorEq, false_iff]
    rintro ⟨hs, hi, -⟩
    exact hrun ⟨hs, hi⟩

/-- Off index zero a loaded picture is not loaded again. -/
theorem pictureArgument_of_loaded (s : State) (hs : s.status = .running)
    (hloaded : s.isLoaded = true) (hne : s.i ≠ 0) (i : SdCard × Surroundings)
    (hi : i.1.switchIni = none) (hq : i.2.qbuf = true) : pictureArgument s i = some s.pic := by
  have hreload : s.reload i.1.uyvyYuv = some s := by
    simp [State.reload, hloaded, hne]
  exact (pictureArgument_eq_some_iff s i s.pic).mpr ⟨hs, hi, hq, s, hreload, rfl⟩

/-- Only a comparison with a valid picture is survived. -/
theorem compareFrame_running (t : State) (e : Surroundings)
    (h : (t.compareFrame findBlackCenter findSkinCenter e).status = .running) :
    (t.compareFrame findBlackCenter findSkinCenter e).pic = .picMem := by
  cases hq : e.qbuf with
  | false => simp [State.compareFrame, hq] at h
  | true =>
    cases hcam : e.cam with
    | none => simp [State.compareFrame, hq, hcam] at h
    | some cam =>
      cases hpic : t.pic with
      | unset => simp [State.compareFrame, hq, hcam, hpic] at h
      | null => simp [State.compareFrame, hq, hcam, hpic] at h
      | picMem => simp [State.compareFrame, hq, hcam, hpic, decideFence_eq, State.next]

/-! ## Runs -/

/-- The iterations that find `switch.ini` only move the index on. -/
theorem run_switches (s : State) (hs : s.status = .running) (hlt : s.i < 60)
    (sw : List (SdCard × Surroundings)) (hsw : ∀ e ∈ sw, e.1.switchIni ≠ none) :
    let t := run (stepOn findBlackCenter findSkinCenter) s sw
    t.status = .running ∧ t.pic = s.pic ∧ t.isLoaded = s.isLoaded ∧
      t.i = (s.i + sw.length) % 60 := by
  induction sw generalizing s with
  | nil => exact ⟨hs, rfl, rfl, (Nat.mod_eq_of_lt hlt).symm⟩
  | cons e sw ih =>
    obtain ⟨hstatus, hpic, hloaded, hi⟩ :=
      stepOn_switch findBlackCenter findSkinCenter s hs e (hsw e List.mem_cons_self)
    obtain ⟨hstatus', hpic', hloaded', hi'⟩ := ih _ hstatus (by omega) fun d hd =>
      hsw d (List.mem_cons_of_mem _ hd)
    refine ⟨hstatus', hpic'.trans hpic, hloaded'.trans hloaded, ?_⟩
    rw [run_cons, hi', hi, List.length_cons]
    omega

/-- A loaded picture is in the buffer unless a reload has failed and only
iterations with `switch.ini` came since. -/
theorem failed_of_invalid (s : State) (hs : s.isLoaded = false) (is : List (SdCard × Surroundings))
    (hrun : (run (stepOn findBlackCenter findSkinCenter) s is).status = .running)
    (hloaded : (run (stepOn findBlackCenter findSkinCenter) s is).isLoaded = true)
    (hpic : (run (stepOn findBlackCenter findSkinCenter) s is).pic ≠ .picMem) :
    ∃ pre f sw, is = pre ++ f :: sw ∧
      FailedReload (run (stepOn findBlackCenter findSkinCenter) s pre) f ∧
      ∀ e ∈ sw, e.1.switchIni ≠ none := by
  induction is using List.reverseRecOn with
  | nil =>
    rw [run_nil, hs] at hloaded
    cases hloaded
  | append_singleton is e ih =>
    rw [run_append, run_cons, run_nil] at hrun hloaded hpic
    have hbefore : (run (stepOn findBlackCenter findSkinCenter) s is).status = .running := by
      by_contra hended
      simp [stepOn, iterate, hended] at hrun
    by_cases he : e.1.switchIni = none
    · rw [stepOn_detect findBlackCenter findSkinCenter _ hbefore e
        ((poll_eq_absent_iff _ _).mpr he)] at hrun hloaded hpic
      cases hr : (run (stepOn findBlackCenter findSkinCenter) s is).reload e.1.uyvyYuv with
      | none =>
        rw [hr] at hloaded
        obtain ⟨hneeded, hnone⟩ := (reload_eq_none_iff _ _).mp hr
        have hzero : (run (stepOn findBlackCenter findSkinCenter) s is).i = 0 := by
          rcases hneeded with hunloaded | hzero
          · rw [hunloaded] at hloaded
            cases hloaded
          · exact hzero
        exact ⟨is, e, [], rfl, ⟨hbefore, hloaded, hzero, he, hnone⟩, by simp⟩
      | some t =>
        rw [hr] at hrun hpic
        exact absurd (compareFrame_running findBlackCenter findSkinCenter t e.2 hrun) hpic
    · obtain ⟨-, hsame, hsame', -⟩ := stepOn_switch findBlackCenter findSkinCenter _ hbefore e he
      rw [hsame'] at hloaded
      rw [hsame] at hpic
      obtain ⟨pre, f, sw, rfl, hf, hsw⟩ := ih hbefore hloaded hpic
      refine ⟨pre, f, sw ++ [e], by simp, hf, ?_⟩
      intro d hd
      rcases List.mem_append.mp hd with hold | hnew
      · exact hsw d hold
      · obtain rfl := List.mem_singleton.mp hnew
        exact he

/-- After a failed reload and `sw` more iterations with `switch.ini`. -/
theorem run_failedReload (s : State) (f : SdCard × Surroundings) (hf : FailedReload s f)
    (sw : List (SdCard × Surroundings)) (hsw : ∀ e ∈ sw, e.1.switchIni ≠ none) :
    let t := run (stepOn findBlackCenter findSkinCenter) s (f :: sw)
    t.status = .running ∧ t.pic = .null ∧ t.isLoaded = true ∧ t.i = sw.length % 60 := by
  obtain ⟨hs, hloaded, hzero, hnoswitch, hnofile⟩ := hf
  have hreload : s.reload f.1.uyvyYuv = none :=
    (reload_eq_none_iff _ _).mpr ⟨.inr hzero, hnofile⟩
  have hstep : stepOn findBlackCenter findSkinCenter s f = { s with pic := .null } := by
    rw [stepOn_detect findBlackCenter findSkinCenter s hs f ((poll_eq_absent_iff _ _).mpr hnoswitch),
      hreload]
  have hlt : s.i < 60 := by omega
  obtain ⟨hstatus, hpic, hloaded', hi⟩ :=
    run_switches findBlackCenter findSkinCenter { s with pic := .null } hs hlt sw hsw
  have hlength : (s.i + sw.length) % 60 = sw.length % 60 := by rw [hzero, Nat.zero_add]
  rw [run_cons, hstep]
  exact ⟨hstatus, hpic, hloaded'.trans hloaded, hi.trans hlength⟩

/-- The two functions always get a valid picture exactly if no failed reload is
followed, before the next frame, by a number of iterations with `switch.ini`
that takes the index off zero. -/
theorem reference_picture_iff (hazardIni : Option (List UInt8)) (picMem : List UInt8)
    (is : List (SdCard × Surroundings)) :
    EveryStep (stepOn findBlackCenter findSkinCenter) ValidPicture (.init hazardIni picMem) is ↔
      ReloadsInTime findBlackCenter findSkinCenter (.init hazardIni picMem) is := by
  rw [everyStep_iff_split]
  constructor
  · intro h pre f sw c post hsplit hf hsw hc hq
    have hvalid := h (pre ++ f :: sw) c post (by simp [hsplit])
    obtain ⟨hstatus, hpic, hloaded, hi⟩ :=
      run_failedReload findBlackCenter findSkinCenter _ f hf sw hsw
    rw [run_append] at hvalid
    by_contra h60
    have hne : (run (stepOn findBlackCenter findSkinCenter) (run (stepOn findBlackCenter
        findSkinCenter) (.init hazardIni picMem) pre) (f :: sw)).i ≠ 0 := by
      rw [hi]
      exact fun hzero => h60 (Nat.dvd_of_mod_eq_zero hzero)
    have hnull := hvalid _ (pictureArgument_of_loaded _ hstatus hloaded hne c hc hq)
    rw [hpic] at hnull
    cases hnull
  · intro h pre' c post hsplit p hp
    obtain ⟨hs, hc, hq, t, hr, rfl⟩ := (pictureArgument_eq_some_iff _ c p).mp hp
    rcases reload_pic _ _ _ hr with hvalid | ⟨rfl, hloaded, hne⟩
    · exact hvalid
    · by_contra hinvalid
      obtain ⟨pre, f, sw, rfl, hf, hsw⟩ := failed_of_invalid findBlackCenter findSkinCenter
        (.init hazardIni picMem) rfl pre' hs hloaded hinvalid
      have h60 := h pre f sw c post (by simp [hsplit]) hf hsw hc hq
      obtain ⟨-, -, -, hi⟩ := run_failedReload findBlackCenter findSkinCenter _ f hf sw hsw
      rw [run_append] at hne
      exact hne (hi.trans (Nat.mod_eq_zero_of_dvd h60))

end Loop

/-- A minute with a picture, then the picture is gone, a command comes, and the
next frame is compared with the null pointer. -/
theorem null_picture_compared :
    let noCenter : FindCenter := fun _ _ => (-1, -1)
    let frame (uyvyYuv switchIni : Option (List UInt8)) : SdCard × Surroundings :=
      (⟨none, switchIni, uyvyYuv⟩, ⟨[0, 0, 0, 0, 0], rfl, true, some []⟩)
    let is := List.replicate 60 (frame (some []) none) ++
      [frame none none, frame none (some (ascii "on" ++ [0])), frame none none]
    ¬ EveryStep (stepOn noCenter noCenter) ValidPicture (.init none []) is ∧
      (run (stepOn noCenter noCenter) (.init none []) is).status = .crashed := by
  intro noCenter frame is
  refine ⟨?_, by decide +kernel⟩
  rw [everyStep_iff_split]
  intro h
  have hnull := h (is.take 62) (frame none none) [] rfl .null (by decide +kernel)
  cases hnull

end Sprefence.DiffDitect

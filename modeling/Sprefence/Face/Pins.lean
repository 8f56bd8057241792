import Sprefence.Face.Main

/-! The pins of the fence over whole runs of `face_detect`. -/

namespace Sprefence.FaceDetect

open Runs

/-- The last value that was written to the pin. -/
def lastWrite (writes : List (Pin × Int)) (pin : Pin) : Option Int :=
  ((writes.filter fun w => w.1 = pin).getLast?).map Prod.snd

theorem lastWrite_append (writes ws : List (Pin × Int)) (pin : Pin) :
    lastWrite (writes ++ ws) pin = (lastWrite ws pin).or (lastWrite writes pin) := by
  rw [lastWrite, List.filter_append, List.getLast?_append, Option.map_or]
  rfl

/-- A face was reported. -/
def Report.isFace (r : Report) : Bool := decide (¬ r.boxSize < 0)

/-- The face is beside the strip between the two vertical lines. -/
def Report.isBeside (r : Report) : Bool := decide (r.x < 1 / 4 ∨ 3 / 4 < r.x)

theorem isHazard_default (r : Report) : Hazard.default.isHazard r.x r.y = r.isBeside := by
  have hedge : ∀ a : Rat, edge (.finite a) (.finite a) r.y = .finite a := by
    intro a
    rw [edge, Number.sub_finite, sub_self]
    exact if_pos ⟨by decide +kernel, by decide +kernel⟩
  rw [Hazard.isHazard, Hazard.default, hedge, hedge, Report.isBeside, Bool.decide_or]
  simp only [Number.finite_lt]
  split_ifs with hl hr
  · rw [decide_eq_true hl, Bool.true_or]
  · rw [decide_eq_true hr, Bool.or_true]
  · rw [decide_eq_false hl, decide_eq_false hr, Bool.or_false]

/-- The writes of an iteration. -/
def writesOf (r : Report) : List (Pin × Int) :=
  if r.isFace then
    if r.isBeside then [(.spi4Sck, 1), (.spi4Miso, 1), (.spi4Miso, 0)] else [(.spi4Sck, 0)]
  else []

theorem lastWrite_writesOf (r : Report) :
    lastWrite (writesOf r) .spi4Sck =
      (if r.isFace then some (if r.isBeside then 1 else 0) else none) ∧
    lastWrite (writesOf r) .spi4Miso = (if r.isFace && r.isBeside then some 0 else none) ∧
    (writesOf r).count (.spi4Miso, 1) = (if r.isFace && r.isBeside then 1 else 0) := by
  unfold writesOf
  cases r.isFace <;> cases r.isBeside <;> exact ⟨rfl, rfl, rfl⟩

theorem iterate_hazard (s : State) (r : Report) : (iterate s r).hazard = s.hazard := by
  unfold iterate State.notFound State.found State.fenceOn State.fenceOff
  dsimp only
  split_ifs <;> rfl

theorem iterate_writes (s : State) (r : Report) (hs : s.hazard = .default) :
    (iterate s r).writes = s.writes ++ writesOf r := by
  unfold iterate writesOf Report.isFace
  dsimp only
  by_cases hface : r.boxSize < 0
  · rw [if_pos hface, if_neg (by simpa using hface), List.append_nil]
    unfold State.notFound
    split_ifs <;> rfl
  · rw [if_neg hface, if_pos (by simpa using hface)]
    unfold State.found
    dsimp only
    rw [hs, isHazard_default]
    cases r.isBeside <;> rfl

theorem run_writes (rs : List Report) (s : State) (hs : s.hazard = .default) :
    (run iterate s rs).writes = s.writes ++ rs.flatMap writesOf := by
  induction rs generalizing s with
  | nil => exact (List.append_nil _).symm
  | cons r rs ih =>
    rw [run_cons, ih _ ((iterate_hazard s r).trans hs), iterate_writes s r hs, List.flatMap_cons,
      List.append_assoc]

/-- The fence over a whole run: its pin is set exactly if the last face that was found was beside
the strip of the default setting, however long ago that was and whatever the card says. The other
pin is set once for each such face, also if the fence is on already, and is clear at the end of
every iteration. -/
theorem fence_follows_last_face (rs : List Report) :
    lastWrite (run iterate .init rs).writes .spi4Sck =
      some (((rs.filter Report.isFace).getLast?.map fun r => if r.isBeside then 1 else 0).getD 0) ∧
    lastWrite (run iterate .init rs).writes .spi4Miso = some 0 ∧
    (run iterate .init rs).writes.count (.spi4Miso, 1) =
      (rs.filter fun r => r.isFace && r.isBeside).length := by
  rw [run_writes rs .init rfl]
  induction rs using List.reverseRecOn with
  | nil => exact ⟨rfl, rfl, rfl⟩
  | append_singleton rs r ih =>
    obtain ⟨hsck, hmiso, hcount⟩ := ih
    obtain ⟨rsck, rmiso, rcount⟩ := lastWrite_writesOf r
    rw [List.flatMap_append, List.flatMap_singleton, ← List.append_assoc,
      lastWrite_append _ (writesOf r), lastWrite_append _ (writesOf r), List.count_append, hsck,
      hmiso, hcount, rsck, rmiso, rcount, List.filter_append, List.filter_append]
    -- only a found face moves the pins, and only one beside the strip the second of them
    cases hface : r.isFace <;> cases hbeside : r.isBeside <;>
      simp [hface, hbeside]

end Sprefence.FaceDetect

import Mathlib.Data.Rat.Floor
import Mathlib.Tactic.IntervalCases
import Sprefence.Detector.Setting
import Sprefence.Face.Provider
import Sprefence.Lib.Runs

/-! The main loop of `face_detect`. Each iteration asks `FaceLoop` for a face in
one crop of the frame and chooses the crop for the next iteration. What
`FaceLoop` reports is the input of the loop; floats are exact rationals. -/

namespace Sprefence.FaceDetect

open Runs

/-- What `FaceLoop` stores in `x`, `y` and `boxSize`. -/
structure Report where
  x : Rat
  y : Rat
  boxSize : Rat
  deriving DecidableEq, Repr

/-- The report of a call without a face. -/
def Report.noFace : Report := ⟨-100, -100, -1⟩

structure State where
  nextType : Int
  state : Int
  x : Rat
  y : Rat
  boxSize : Rat
  hazard : Hazard
  /-- The calls of `board_gpio_write`, in order. -/
  writes : List (Pin × Int)
  deriving DecidableEq

/-- The head of the loop for the first time, after `GPIOInit`. The setting is
never loaded. -/
def State.init : State where
  nextType := 0
  state := -1
  x := -10
  y := -10
  boxSize := -10
  hazard := Hazard.default
  writes := [(.spi4Sck, 0), (.spi4Miso, 0)]

def State.fenceOn (s : State) : State :=
  { s with writes := s.writes ++ [(.spi4Sck, 1), (.spi4Miso, 1), (.spi4Miso, 0)] }

def State.fenceOff (s : State) : State := { s with writes := s.writes ++ [(.spi4Sck, 0)] }

/-- The half resolution crop around an earlier position. -/
def halfType (beforeX : Rat) : Int :=
  if beforeX < 33 / 100 then 1
  else if beforeX < 67 / 100 then 0
  else 2

/-- The crop for a small face. -/
def gridType (x y : Rat) : Int :=
  let idxX := x * 4
  let idxY := y * 3
  let idxX := if idxX < 0 then 0 else idxX
  let idxX := if idxX > 4 then 4 else idxX
  let idxY := if idxY < 0 then 0 else idxY
  let idxY := if idxY > 3 then 3 else idxY
  ⌊idxY⌋ * 4 + ⌊idxX⌋

/-- The branch for no face. The remainder in `(state + 1 % 3)` is that of 1. -/
def State.notFound (s : State) (beforeX : Rat) : State :=
  if s.state < 0 ∧ s.nextType > 2 then { s with nextType := halfType beforeX }
  else
    let state := (s.state + 1).tmod 3
    { s with state := state, nextType := state + Int.tmod 1 3 }

/-- The branch for a face. -/
def State.found (s : State) (beforeX : Rat) : State :=
  let s := { s with
    state := -1
    nextType := if s.boxSize < 55 / 100 then gridType s.x s.y else halfType beforeX }
  if s.hazard.isHazard s.x s.y then s.fenceOn else s.fenceOff

/-- One iteration, in which `FaceLoop` is called with `s.nextType`. -/
def iterate (s : State) (r : Report) : State :=
  let beforeX := s.x
  let s := { s with x := r.x, y := r.y, boxSize := r.boxSize }
  if s.boxSize < 0 then s.notFound beforeX else s.found beforeX

/-! ## What an iteration chooses -/

theorem iterate_notFound (s : State) (r : Report) (hr : r.boxSize < 0) :
    (iterate s r).state = (if s.state < 0 ∧ s.nextType > 2 then s.state
      else (s.state + 1).tmod 3) ∧
    (iterate s r).nextType = (if s.state < 0 ∧ s.nextType > 2 then halfType s.x
      else (s.state + 1).tmod 3 + 1) := by
  simp only [iterate, hr, if_true, State.notFound]
  split_ifs <;> exact ⟨rfl, rfl⟩

theorem iterate_found (s : State) (r : Report) (hr : ¬ r.boxSize < 0) :
    (iterate s r).state = -1 ∧
    (iterate s r).nextType =
      (if r.boxSize < 55 / 100 then gridType r.x r.y else halfType s.x) := by
  simp only [iterate, hr, if_false, State.found]
  split_ifs <;> exact ⟨rfl, rfl⟩

end Sprefence.FaceDetect

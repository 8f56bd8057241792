import Sprefence.Detector.Setting
import Sprefence.WebSource.Main

/-! The main loop of `diff_ditect`. An iteration polls `switch.ini` and obeys
the command it finds there; without the file it compares a camera frame with
the reference picture. The two functions that look for the centre of the
change are parameters of the loop. -/

namespace Sprefence.DiffDitect

open CBytes
open WebSource (SdCard)

/-- The pointer `pic` of the loop. -/
inductive Pic
  /-- Not assigned yet. -/
  | unset
  | null
  | picMem
  deriving DecidableEq, Repr

inductive Status
  | running
  | returned (ret : Int)
  /-- A buffer is read through a null pointer. -/
  | crashed
  deriving DecidableEq, Repr

structure State where
  status : Status
  hazard : Hazard
  picMem : List UInt8
  pic : Pic
  isLoaded : Bool
  isOn : Bool
  i : Nat
  bx : Int
  by_ : Int
  sx : Int
  sy : Int
  /-- The calls of `board_gpio_write`, in order. -/
  writes : List (Pin × Int)
  deriving DecidableEq

/-- What an iteration meets besides the files of the card. -/
structure Surroundings where
  /-- The bytes on the stack where `cbuff` lies. -/
  cbuff : List UInt8
  cbuff_length : cbuff.length = 5
  /-- `VIDIOC_QBUF` succeeds. -/
  qbuf : Bool
  /-- The frame of `get_camimage`; `none` is the null pointer. -/
  cam : Option (List UInt8)

/-- `find_black_center` or `find_skin_center`: from the picture and the frame
to the centre, negative if there is none. -/
abbrev FindCenter := List UInt8 → List UInt8 → Int × Int

def fSize : Nat := 320 * 240 * 2

def State.gpioWrite (s : State) (pin : Pin) (value : Int) : State :=
  { s with writes := s.writes ++ [(pin, value)] }

def State.gpioInit (s : State) : State :=
  (s.gpioWrite .spi4Sck 1).gpioWrite .spi4Miso 1

def State.fenceOn (s : State) : State :=
  ((((s.gpioWrite .spi4Sck 0).gpioWrite .spi4Miso 0).gpioWrite .spi4Miso 1).gpioWrite
    .spi4Miso 0).gpioWrite .spi4Miso 1

def State.fenceOff (s : State) : State := s.gpioWrite .spi4Sck (-1)

/-- The head of the loop for the first time, the camera being prepared. -/
def State.init (hazardIni : Option (List UInt8)) (picMem : List UInt8) : State :=
  State.gpioInit
    { status := .running
      hazard := (loadSetting hazardIni Hazard.default).1
      picMem := picMem
      pic := .unset
      isLoaded := false
      isOn := false
      i := 0
      bx := -1
      by_ := -1
      sx := -1
      sy := -1
      writes := [] }

/-- What the poll of `switch.ini` finds. -/
inductive Polled
  | absent
  | on
  | off
  /-- The file holds no command. -/
  | other
  deriving DecidableEq, Repr

/-- The comparisons of `cbuff` with the two commands. -/
def switchCommand (cbuff : List UInt8) : Polled :=
  if strncmp cbuff (ascii "on") 3 = 0 then .on
  else if strncmp cbuff (ascii "off") 4 = 0 then .off
  else .other

def poll (switchIni : Option (List UInt8)) (cbuff : List UInt8) : Polled :=
  match switchIni with
  | none => .absent
  | some file => switchCommand (fread cbuff 5 file)

/-- The state with the new `pic`, and `err`. -/
def State.loadPic (s : State) (uyvyYuv : Option (List UInt8)) : State × Int :=
  match uyvyYuv with
  | none => ({ s with pic := .null }, -1)
  | some file => ({ s with pic := .picMem, picMem := fread s.picMem fSize file }, 0)

/-- The centre that the two results are combined to; zero if neither is one. -/
def combine (bx by_ sx sy : Int) : Int × Int :=
  if bx < 0 ∧ sx < 0 then (0, 0)
  else if bx < 0 then (sx, sy)
  else if sx < 0 then (bx, by_)
  else ((bx + sx).tdiv 2, (by_ + sy).tdiv 2)

/-- `IsHazard` gets the centre in pixels. -/
def State.decideFence (s : State) : State :=
  let (x, y) := combine s.bx s.by_ s.sx s.sy
  if s.bx ≥ 0 ∨ s.sx ≥ 0 then
    if s.hazard.isHazard x y then
      { (if s.isOn then s else s.fenceOn) with isOn := true }
    else
      { (if s.isOn then s.fenceOff else s) with isOn := false }
  else s

/-- The end of the loop's body. -/
def State.next (s : State) : State := { s with i := (s.i + 1) % 60 }

section Loop

variable (findBlackCenter findSkinCenter : FindCenter)

/-- The iteration from `set_camimage` on. -/
def State.compareFrame (s : State) (e : Surroundings) : State :=
  if e.qbuf = false then { s with status := .returned (-1) }
  else
    match s.pic, e.cam with
    | .picMem, some cam =>
      let (bx, by_) := findBlackCenter s.picMem cam
      let (sx, sy) := findSkinCenter s.picMem cam
      { s with bx := bx, by_ := by_, sx := sx, sy := sy }.decideFence.next
    | _, _ => { s with status := .crashed }

/-- The branch without `switch.ini`. -/
def State.detect (s : State) (e : Surroundings) (uyvyYuv : Option (List UInt8)) : State :=
  if s.isLoaded = false ∨ s.i = 0 then
    let (s, err) := s.loadPic uyvyYuv
    -- `continue` leaves the index as it is
    if err < 0 then s
    else { s with isLoaded := true }.compareFrame findBlackCenter findSkinCenter e
  else s.compareFrame findBlackCenter findSkinCenter e

/-- One iteration on the files of the card. -/
def iterate (s : State) (sd : SdCard) (e : Surroundings) : State × SdCard :=
  if s.status ≠ .running then (s, sd)
  else
    match poll sd.switchIni e.cbuff with
    | .on => ({ s.fenceOn with isOn := true }.next, { sd with switchIni := none })
    | .off => ({ s.fenceOff with isOn := false }.next, { sd with switchIni := none })
    | .other => (s.next, { sd with switchIni := none })
    | .absent => (s.detect findBlackCenter findSkinCenter e sd.uyvyYuv, sd)

end Loop

/-! ## What the poll finds -/

theorem poll_eq_absent_iff (switchIni : Option (List UInt8)) (cbuff : List UInt8) :
    poll switchIni cbuff = .absent ↔ switchIni = none := by
  cases switchIni with
  | none => simp [poll]
  | some file =>
    simp only [poll, switchCommand, reduceCtorEq, iff_false]
    split_ifs <;> simp

/-- A file with the literal `"on"` and its terminator is read as the command,
whatever was on the stack. -/
theorem switchCommand_on (cbuff : List UInt8) :
    switchCommand (fread cbuff 5 (ascii "on" ++ [0])) = .on := by
  have hread : strncmp (fread cbuff 5 (ascii "on" ++ [0])) (ascii "on") 3 = 0 := by
    refine (strncmp_terminated_iff (ascii "on") (by simp [ascii]) _).mpr ⟨?_, ?_⟩
    · simp [fread, store, ascii]
    · simp [fread, store, ascii]
  simp [switchCommand, hread]

theorem poll_on (cbuff : List UInt8) : poll (some (ascii "on" ++ [0])) cbuff = .on :=
  switchCommand_on cbuff

section Loop

variable (findBlackCenter findSkinCenter : FindCenter)

/-- An iteration leaves no `switch.ini` and touches no other file. -/
theorem iterate_sd (s : State) (hs : s.status = .running) (sd : SdCard) (e : Surroundings) :
    (iterate findBlackCenter findSkinCenter s sd e).2 = { sd with switchIni := none } := by
  unfold iterate
  rw [if_neg (by simp [hs])]
  cases hp : poll sd.switchIni e.cbuff with
  | on => rfl
  | off => rfl
  | other => rfl
  | absent => simp only [← (poll_eq_absent_iff _ _).mp hp]

end Loop

end Sprefence.DiffDitect

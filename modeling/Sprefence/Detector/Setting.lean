import Sprefence.Lib.Decimal

/-! What the two detectors share: the pins of the fence, and the hazard setting
with the test it is made for. `Load_setting` of `diff_ditect` and `LoadSetting`
of `face_detect` are the same text, and so are the two `IsHazard`; `fscanf`
assigns the converted items one by one and stops at the first failure. -/

namespace Sprefence

open Decimal

inductive Pin
  | spi4Sck
  | spi4Miso
  deriving DecidableEq, Repr

/-- `hazardLT`, `hazardRT`, `hazardLB` and `hazardRB`. -/
structure Hazard (α : Type := Number) where
  lt : α
  rt : α
  lb : α
  rb : α
  deriving DecidableEq, Repr

def Hazard.default : Hazard := ⟨.finite (1 / 4), .finite (3 / 4), .finite (1 / 4), .finite (3 / 4)⟩

/-- `fscanf(fp, "%lf %lf %lf %lf", &hazardLT, &hazardRT, &hazardLB, &hazardRB)`. -/
def Hazard.scan (h : Hazard) (file : List UInt8) : Hazard :=
  let items := scanItems 4 file
  ⟨items.getD 0 h.lt, items.getD 1 h.rt, items.getD 2 h.lb, items.getD 3 h.rb⟩

/-- The settings after the call, and its return value. -/
def readSetting (hazardIni : Option (List UInt8)) (h : Hazard) : Hazard × Int :=
  match hazardIni with
  | none => (h, -1)
  | some file => (h.scan file, 0)

def DiffDitect.loadSetting : Option (List UInt8) → Hazard → Hazard × Int := readSetting

def FaceDetect.loadSetting : Option (List UInt8) → Hazard → Hazard × Int := readSetting

/-- `lX` and `rX` of `IsHazard`: the edge of the strip at height `y`. -/
def edge (top bottom : Number) (y : Rat) : Number :=
  let d := top - bottom
  if d > .finite (-1 / 1000) ∧ d < .finite (1 / 1000) then bottom
  else
    let grad := 1 / d
    bottom + grad * y

def Hazard.isHazard (h : Hazard) (x y : Rat) : Bool :=
  if .finite x < edge h.lt h.lb y then true
  else if edge h.rt h.rb y < .finite x then true
  else false

/-! ## Loading -/

def Hazard.toList {α : Type} (h : Hazard α) : List α := [h.lt, h.rt, h.lb, h.rb]

/-- The numbers that were read, and behind them what was there before. -/
theorem Hazard.toList_scan (h : Hazard) (file : List UInt8) :
    (h.scan file).toList = scanItems 4 file ++ h.toList.drop (scanItems 4 file).length := by
  have hlen := length_scanItems_le 4 file
  simp only [Hazard.scan, toList]
  generalize scanItems 4 file = items at hlen
  match items, hlen with
  | [], _ => rfl
  | [_], _ => rfl
  | [_, _], _ => rfl
  | [_, _, _], _ => rfl
  | [_, _, _, _], _ => rfl
  | _ :: _ :: _ :: _ :: _ :: _, hlen =>
    simp only [List.length_cons] at hlen
    omega

/-- Either the four numbers of the file are taken over with the result 0, or nothing
is with a negative one. -/
def AllOrNothing (load : Option (List UInt8) → Hazard → Hazard × Int) (file : List UInt8)
    (old : Hazard) : Prop :=
  (∃ new : Hazard, scanItems 4 file = new.toList ∧ load (some file) old = (new, 0)) ∨
    (load (some file) old).1 = old ∧ (load (some file) old).2 < 0

theorem readSetting_allOrNothing_iff (file : List UInt8) (old : Hazard) :
    AllOrNothing readSetting file old ↔ (scanItems 4 file).length = 4 := by
  constructor
  · rintro (⟨new, hitems, -⟩ | ⟨-, hneg⟩)
    · rw [hitems]
      rfl
    · exact absurd hneg (Int.lt_irrefl 0)
  · intro hlen
    refine .inl ⟨old.scan file, ?_, rfl⟩
    have hdrop : old.toList.drop 4 = [] := rfl
    rw [Hazard.toList_scan, hlen, hdrop, List.append_nil]

/-- Loading is all or nothing exactly if four numbers can be read. -/
theorem load_all_or_nothing_iff (file : List UInt8) (old : Hazard) :
    (AllOrNothing DiffDitect.loadSetting file old ↔ (scanItems 4 file).length = 4) ∧
      (AllOrNothing FaceDetect.loadSetting file old ↔ (scanItems 4 file).length = 4) :=
  ⟨readSetting_allOrNothing_iff file old, readSetting_allOrNothing_iff file old⟩

example : AllOrNothing DiffDitect.loadSetting (CBytes.ascii "0x10 -INF nan(1) 2.5e-1") .default :=
  (readSetting_allOrNothing_iff _ _).mpr (by decide +kernel)

/-- A file that breaks off behind its second number. -/
def truncatedFile : List UInt8 := CBytes.ascii "0.40 0.60"

theorem scanItems_truncated : scanItems 4 truncatedFile = [.finite (2 / 5), .finite (3 / 5)] := by decide +kernel

/-- New upper bounds and old lower ones are reported as a success. -/
theorem truncated_setting_mixed :
    DiffDitect.loadSetting (some truncatedFile) Hazard.default =
        (⟨.finite (2 / 5), .finite (3 / 5), .finite (1 / 4), .finite (3 / 4)⟩, 0) ∧
      FaceDetect.loadSetting (some truncatedFile) Hazard.default =
        (⟨.finite (2 / 5), .finite (3 / 5), .finite (1 / 4), .finite (3 / 4)⟩, 0) ∧
      ¬ AllOrNothing DiffDitect.loadSetting truncatedFile Hazard.default ∧
      ¬ AllOrNothing FaceDetect.loadSetting truncatedFile Hazard.default := by
  have hload : readSetting (some truncatedFile) Hazard.default =
      (⟨.finite (2 / 5), .finite (3 / 5), .finite (1 / 4), .finite (3 / 4)⟩, 0) := by
    simp only [readSetting, Hazard.scan, scanItems_truncated]
    rfl
  have hnot : ¬ AllOrNothing readSetting truncatedFile Hazard.default := by
    rw [readSetting_allOrNothing_iff, scanItems_truncated]
    decide
  exact ⟨hload, hload, hnot, hnot⟩

end Sprefence

import Sprefence.HazardSetting
import Sprefence.Libc.Scanf

/-! The hazard setting as the device itself reads it, with the `fscanf` of its own library.
A setting whose command was cut by a read of the serial line is stored all the same; the
detectors then have the leading digits of its numbers, and zeros. -/

namespace Sprefence.DeviceSetting

open CBytes Decimal Libc HazardSetting Server WebSource

/-- The variables that `fscanf` has stored, and the others as they were. -/
def store (h : Hazard Float) (items : List (Option Float)) : Hazard Float :=
  ⟨(items.getD 0 none).getD h.lt, (items.getD 1 none).getD h.rt, (items.getD 2 none).getD h.lb,
    (items.getD 3 none).getD h.rb⟩

/-- `Load_setting` and `LoadSetting` on the device. -/
def loadSetting (hazardIni : Option (List UInt8)) (h : Hazard Float) : Hazard Float × Int :=
  match hazardIni with
  | none => (h, -1)
  | some file => (store h (vscanf 4 file), 0)

/-! ## The first characters of a percentage -/

/-- Percentages with a space behind each of them. -/
def text : List Percent → List UInt8
  | [] => []
  | p :: ps => fixed2 p.val ++ 32 :: text ps

end Sprefence.DeviceSetting

import Sprefence.Detector.Setting
import Sprefence.WebSource.Recognise

/-! The hazard setting on its way from the server through the device's file
to the detectors. -/

namespace Sprefence.HazardSetting

open CBytes Decimal Server WebSource

/-- A value of `0.00, 0.01, .., 1.00`. -/
structure Percent where
  n : Nat
  n_le : n ≤ 100
  deriving DecidableEq

def Percent.val (p : Percent) : Rat := p.n / 100

theorem Percent.val_inj (p q : Percent) : p.val = q.val ↔ p.n = q.n := by
  unfold val
  rw [div_left_inj' (by norm_num)]
  exact Nat.cast_inj

theorem Percent.val_nonneg (p : Percent) : ¬ p.val < 0 := by
  unfold val
  exact not_lt.mpr (div_nonneg (Nat.cast_nonneg _) (by norm_num))

theorem Percent.fixed2_val (p : Percent) :
    fixed2 p.val = [digit (p.n / 100), 46, digit (p.n / 10 % 10), digit (p.n % 10)] := by
  have h := p.n_le
  have hn : hundredths p.val = p.n := hundredths_natCast_div p.n
  simp [fixed2, p.val_nonneg, hn, decNat_of_lt (show p.n / 100 < 10 by omega)]

theorem Percent.scanLf_val (p : Percent) (rest : List UInt8) (hr : Stops rest) :
    scanLf (fixed2 p.val ++ rest) = some (.finite p.val, rest) := by
  have hn : hundredths p.val = p.n := hundredths_natCast_div p.n
  rw [scanLf_fixed2 p.val rest hr, if_neg p.val_nonneg, hn, one_mul]
  rfl

/-- The sixteen bytes behind `"set "` end with the first digit of the fourth
number. -/
theorem setCommand_file (lt lb rt rb : Percent) :
    ((readBuff (Command.set lt.val lb.val rt.val rb.val).bytes).drop 4).take 16 =
      fixed2 lt.val ++ 32 :: (fixed2 lb.val ++ 32 :: (fixed2 rt.val ++
        32 :: [digit (rb.n / 100)])) := by
  rw [readBuff_slice _ 4 16 (by simp [Command.bytes, Percent.fixed2_val, ascii])]
  simp [Command.bytes, Percent.fixed2_val, ascii]

/-- What the detectors read back: the second and third number change places,
and of the fourth only the part before the decimal point is left. -/
theorem scanItems_file (lt lb rt rb : Percent) :
    scanItems 4 (fixed2 lt.val ++ 32 :: (fixed2 lb.val ++ 32 :: (fixed2 rt.val ++
      32 :: [digit (rb.n / 100)]))) =
        [.finite lt.val, .finite lb.val, .finite rt.val, .finite (rb.n / 100 : Nat)] := by
  have hrb : rb.n / 100 < 10 := by
    have := rb.n_le
    omega
  have hlast : scanLf [digit (rb.n / 100)] = some (.finite (rb.n / 100 : Nat), []) := by
    have h := scanLf_integer [digit (rb.n / 100)] [] (by simp [isDigit_digit hrb]) (by simp) stops_nil
    simpa [digitsVal, digit_toNat hrb] using h
  simp only [scanItems, Percent.scanLf_val _ _ (stops_space _), scanLf_space, hlast]

theorem stored_file (lt lb rt rb : Percent) (s : State) (hs : s.status = .running) (env : Env)
    (hf : env.fopen = true) :
    (step s (env, .data (Command.set lt.val lb.val rt.val rb.val).bytes)).sd.hazardIni =
      some (fixed2 lt.val ++ 32 :: (fixed2 lb.val ++ 32 :: (fixed2 rt.val ++
        32 :: [digit (rb.n / 100)]))) := by
  rw [step_data s hs, receive_eq, recognise_bytes]
  simp [kind, setCommand, hf, State.emit, hs, setCommand_file]

/-- The part of a percentage before the decimal point is the whole value only
for 0.00 and 1.00. -/
theorem Percent.whole_eq_val_iff (p : Percent) :
    ((p.n / 100 : Nat) : Rat) = p.val ↔ p.n = 0 ∨ p.n = 100 := by
  have hle := p.n_le
  have hcast : ((p.n / 100 : Nat) : Rat) = p.val ↔ p.n / 100 * 100 = p.n := by
    unfold val
    rw [eq_div_iff (by norm_num)]
    exact_mod_cast Iff.rfl
  rw [hcast]
  omega

/-- What the detectors hold after a setting was sent: the second and third
number have changed places, and of the fourth only the whole part is left. -/
theorem readSetting_stored (lt lb rt rb : Percent) (s : State) (hs : s.status = .running)
    (env : Env) (hf : env.fopen = true) (old : Hazard) :
    readSetting (step s (env, .data (Command.set lt.val lb.val rt.val rb.val).bytes)).sd.hazardIni
      old = (⟨lt.val, lb.val, rt.val, .finite (rb.n / 100 : Nat)⟩, 0) := by
  rw [stored_file lt lb rt rb s hs env hf]
  simp only [readSetting, Hazard.scan, scanItems_file, List.getD_cons_zero, List.getD_cons_succ]

theorem readSetting_of_mem_loads (load : Option (List UInt8) → Hazard → Hazard × Int)
    (h : load ∈ [DiffDitect.loadSetting, FaceDetect.loadSetting]) : load = readSetting := by
  simp only [List.mem_cons, List.not_mem_nil, or_false] at h
  rcases h with rfl | rfl <;> rfl

/-- A setting survives the way to a detector exactly when it does not tell the
left bottom from the right top and its right bottom is a whole number. -/
theorem hazard_round_trip_iff (lt lb rt rb : Percent) (s : State) (hs : s.status = .running)
    (env : Env) (hf : env.fopen = true) (old : Hazard) :
    ∀ load ∈ [DiffDitect.loadSetting, FaceDetect.loadSetting],
      (load (step s (env, .data (Command.set lt.val lb.val rt.val rb.val).bytes)).sd.hazardIni
        old = (⟨lt.val, rt.val, lb.val, rb.val⟩, 0) ↔
      lb.n = rt.n ∧ (rb.n = 0 ∨ rb.n = 100)) := by
  intro load hload
  rw [readSetting_of_mem_loads load hload, readSetting_stored lt lb rt rb s hs env hf,
    ← Percent.val_inj, ← rb.whole_eq_val_iff]
  simp only [Prod.mk.injEq, Hazard.mk.injEq, Number.finite.injEq, true_and, and_true]
  constructor
  · rintro ⟨hlb, _, hrb⟩
    exact ⟨hlb, hrb⟩
  · rintro ⟨hlb, hrb⟩
    exact ⟨hlb, hlb.symm, hrb⟩

theorem hazard_round_trip_whole :
    DiffDitect.loadSetting
      (step .fresh (.noCamera, .data
        (Command.set (Percent.mk 0 (by decide)).val (Percent.mk 50 (by decide)).val
          (Percent.mk 50 (by decide)).val (Percent.mk 100 (by decide)).val).bytes)).sd.hazardIni
      Hazard.default =
    (⟨(Percent.mk 0 (by decide)).val, (Percent.mk 50 (by decide)).val,
      (Percent.mk 50 (by decide)).val, (Percent.mk 100 (by decide)).val⟩, 0) :=
  (hazard_round_trip_iff ⟨0, by decide⟩ ⟨50, by decide⟩ ⟨50, by decide⟩ ⟨100, by decide⟩
    .fresh rfl .noCamera rfl Hazard.default
    DiffDitect.loadSetting (List.mem_cons_self)).mpr ⟨rfl, .inr rfl⟩

/-- `hazard.ini` after the detectors' own default was sent from the server. -/
def defaultSent : Option (List UInt8) :=
  (step .fresh (.noCamera, .data
    (Command.set (1 / 4) (1 / 4) (3 / 4) (3 / 4)).bytes)).sd.hazardIni

/-- The default, sent from the server, is read back as LT 0.25, RT 0.25, LB 0.75
and RB 0. -/
theorem default_setting_not_returned :
    DiffDitect.loadSetting defaultSent Hazard.default =
        (⟨.finite (1 / 4), .finite (1 / 4), .finite (3 / 4), .finite 0⟩, 0) ∧
      FaceDetect.loadSetting defaultSent Hazard.default =
        (⟨.finite (1 / 4), .finite (1 / 4), .finite (3 / 4), .finite 0⟩, 0) ∧
      (⟨.finite (1 / 4), .finite (1 / 4), .finite (3 / 4), .finite 0⟩ : Hazard) ≠ Hazard.default := by
  have h := readSetting_stored ⟨25, by decide⟩ ⟨25, by decide⟩ ⟨75, by decide⟩ ⟨75, by decide⟩
    .fresh rfl .noCamera rfl Hazard.default
  have h25 : (Percent.mk 25 (by decide)).val = 1 / 4 := by decide +kernel
  have h75 : (Percent.mk 75 (by decide)).val = 3 / 4 := by decide +kernel
  rw [h25, h75] at h
  exact ⟨h, h, by decide +kernel⟩

end Sprefence.HazardSetting

import Mathlib.Algebra.Field.Rat
import Mathlib.Algebra.Order.Field.Basic
import Mathlib.Algebra.Order.Ring.Rat
import Mathlib.Tactic.FieldSimp
import Mathlib.Tactic.Linarith
import Mathlib.Tactic.Ring
import Sprefence.Lib.Bytes
import Sprefence.Lib.Number

/-! Decimal numbers as text: printing a rational with two decimals, rounded
half away from zero, and reading one back as `scanf` does for `%lf`: decimal and
hexadecimal numbers, infinities and `nan`. Values are not rounded. -/

namespace Decimal

open CBytes

/-! ## Printing -/

/-- The digit character of `k < 10`. -/
def digit (k : Nat) : UInt8 := UInt8.ofNat (48 + k)

def decNat (n : Nat) : List UInt8 := (Nat.toDigits 10 n).map fun c => UInt8.ofNat c.toNat

/-- `|q|` in hundredths, rounded half up. -/
def hundredths (q : Rat) : Nat := (200 * q.num.natAbs + q.den) / (2 * q.den)

/-- The custom format `0.00`: no sign when nothing but zeros is printed. -/
def fixed2 (q : Rat) : List UInt8 :=
  let h := hundredths q
  (if q < 0 ∧ h ≠ 0 then ascii "-" else []) ++
    (decNat (h / 100) ++ 46 :: [digit (h / 10 % 10), digit (h % 10)])

/-! ## Scanning -/

def isSpace (c : UInt8) : Bool := c = 32 ∨ (9 ≤ c ∧ c ≤ 13)
def isDigit (c : UInt8) : Bool := 48 ≤ c ∧ c ≤ 57

def lower (c : UInt8) : UInt8 := if 65 ≤ c ∧ c ≤ 90 then c + 32 else c

def isHexDigit (c : UInt8) : Bool := isDigit c ∨ (97 ≤ lower c ∧ lower c ≤ 102)

/-- The characters between the brackets of `nan(..)`. -/
def isWordChar (c : UInt8) : Bool := isDigit c ∨ (97 ≤ lower c ∧ lower c ≤ 122) ∨ c = 95

def digitsVal (ds : List UInt8) : Nat := ds.foldl (fun n c => 10 * n + (c.toNat - 48)) 0

def hexDigitVal (c : UInt8) : Nat := if isDigit c then c.toNat - 48 else (lower c).toNat - 87

def hexDigitsVal (ds : List UInt8) : Nat := ds.foldl (fun n c => 16 * n + hexDigitVal c) 0

/-- An optional sign. -/
def scanSign (s : List UInt8) : Bool × List UInt8 :=
  if s.headD 0 = 45 then (true, s.tail)
  else if s.headD 0 = 43 then (false, s.tail)
  else (false, s)

/-- A decimal point and the digits behind it. -/
def scanFraction (isDigit : UInt8 → Bool) (s : List UInt8) : List UInt8 × List UInt8 :=
  if s.headD 0 = 46 then (s.tail.takeWhile isDigit, s.tail.dropWhile isDigit) else ([], s)

/-- An optional exponent; the letter without digits is a matching failure. -/
def scanExponent (letter : UInt8) (s : List UInt8) : Option (Int × List UInt8) :=
  if lower (s.headD 0) = letter then
    let (neg, s) := scanSign s.tail
    let ds := s.takeWhile isDigit
    if ds = [] then none
    else some (if neg then -(digitsVal ds : Int) else digitsVal ds, s.dropWhile isDigit)
  else some (0, s)

def scanDecimal (neg : Bool) (s : List UInt8) : Option (Number × List UInt8) :=
  let ip := s.takeWhile isDigit
  let (fp, s) := scanFraction isDigit (s.dropWhile isDigit)
  if ip = [] ∧ fp = [] then none
  else do
    let (e, s) ← scanExponent 101 s
    let m : Rat := digitsVal (ip ++ fp) / 10 ^ fp.length
    some (.finite ((if neg then -m else m) * 10 ^ e), s)

/-- A number behind `0x`; its exponent is one of two. -/
def scanHexadecimal (neg : Bool) (s : List UInt8) : Option (Number × List UInt8) :=
  let ip := s.takeWhile isHexDigit
  let (fp, s) := scanFraction isHexDigit (s.dropWhile isHexDigit)
  if ip = [] ∧ fp = [] then none
  else do
    let (e, s) ← scanExponent 112 s
    let m : Rat := hexDigitsVal (ip ++ fp) / 16 ^ fp.length
    some (.finite ((if neg then -m else m) * 2 ^ e), s)

/-- How much of a word the text begins with, in letters of any case. -/
def matched : List UInt8 → List UInt8 → Nat
  | w :: word, c :: s => if lower c = w then matched word s + 1 else 0
  | _, _ => 0

/-- `inf` or `infinity`. What is read is the longest text that one of them begins with, and
that has to be the whole of it. -/
def scanInfinity (neg : Bool) (s : List UInt8) : Option (Number × List UInt8) :=
  let k := matched (ascii "infinity") s
  if k = 3 ∨ k = 8 then some (.infinite neg, s.drop k) else none

/-- `nan` or `nan(..)`; a bracket that is not closed is a matching failure. -/
def scanNan (s : List UInt8) : Option (Number × List UInt8) :=
  if matched (ascii "nan") s = 3 then
    let s := s.drop 3
    if s.headD 0 = 40 then
      let s := s.tail.dropWhile isWordChar
      if s.headD 0 = 41 then some (.nan, s.tail) else none
    else some (.nan, s)
  else none

/-- The text begins with `0x`. -/
def isHexadecimal (s : List UInt8) : Bool := s.headD 0 = 48 ∧ lower (s.tail.headD 0) = 120

/-- One `%lf` conversion: the value and the input behind it. -/
def scanLf (s : List UInt8) : Option (Number × List UInt8) :=
  let (neg, s) := scanSign (s.dropWhile isSpace)
  if lower (s.headD 0) = 105 then scanInfinity neg s
  else if lower (s.headD 0) = 110 then scanNan s
  else if isHexadecimal s then scanHexadecimal neg (s.drop 2)
  else scanDecimal neg s

/-- The values of `n` conversions in a row, up to the first that fails. -/
def scanItems : Nat → List UInt8 → List Number
  | 0, _ => []
  | n + 1, s =>
    match scanLf s with
    | none => []
    | some (q, s) => q :: scanItems n s

theorem length_scanItems_le (n : Nat) (s : List UInt8) : (scanItems n s).length ≤ n := by
  induction n generalizing s with
  | zero => exact Nat.le_refl 0
  | succ n ih =>
    rw [scanItems]
    split
    · exact Nat.zero_le _
    · exact Nat.succ_le_succ (ih _)

/-! ## Digits -/

@[simp] theorem isDigit_digit {k : Nat} (hk : k < 10) : isDigit (digit k) = true := by
  revert k
  decide

theorem digit_toNat {k : Nat} (hk : k < 10) : (digit k).toNat = 48 + k := by
  revert k
  decide

theorem isDigit_iff (c : UInt8) : isDigit c = true ↔ 48 ≤ c.toNat ∧ c.toNat ≤ 57 := by
  simp [isDigit, UInt8.le_iff_toNat_le]

theorem not_isSpace_of_isDigit {c : UInt8} (h : isDigit c = true) : isSpace c = false := by
  rw [isDigit_iff] at h
  simp only [isSpace, UInt8.le_iff_toNat_le, ← UInt8.toNat_inj, decide_eq_false_iff_not]
  intro h'
  simp at h'
  omega

theorem char_isDigit_toNat {c : Char} (h : c.isDigit = true) : 48 ≤ c.toNat ∧ c.toNat ≤ 57 := by
  simp only [Char.isDigit, Bool.and_eq_true, decide_eq_true_eq, ge_iff_le,
    UInt32.le_iff_toNat_le] at h
  exact h

theorem decNat_isDigit (n : Nat) : ∀ c ∈ decNat n, isDigit c = true := by
  intro c hc
  obtain ⟨d, hd, rfl⟩ := List.mem_map.mp hc
  have h := char_isDigit_toNat (Nat.isDigit_of_mem_toDigits (by decide) (by decide) hd)
  rw [isDigit_iff, UInt8.toNat_ofNat']
  omega

theorem decNat_ne_nil (n : Nat) : decNat n ≠ [] := by
  simp [decNat]

theorem decNat_of_lt {n : Nat} (hn : n < 10) : decNat n = [digit n] := by
  revert n
  decide

theorem digitsVal_decNat (n : Nat) : digitsVal (decNat n) = n := by
  have h : ∀ (l : List Char) (a : Nat), (∀ c ∈ l, c.isDigit = true) →
      (l.map fun c => UInt8.ofNat c.toNat).foldl (fun n c => 10 * n + (c.toNat - 48)) a =
        Nat.ofDigitChars 10 l a := by
    intro l
    induction l with
    | nil => intro a _; rfl
    | cons c l ih =>
      intro a hl
      have hc := char_isDigit_toNat (hl c (by simp))
      have hc' : (UInt8.ofNat c.toNat).toNat = c.toNat := by
        rw [UInt8.toNat_ofNat']
        omega
      rw [List.map_cons, List.foldl_cons, hc', ih _ (fun d hd => hl d (by simp [hd]))]
      rfl
  rw [digitsVal, decNat, h _ 0 (fun c hc => Nat.isDigit_of_mem_toDigits (by decide) (by decide) hc)]
  exact Nat.ofDigitChars_ten_toDigits

/-! ## The printed text -/

theorem four_le_length_fixed2 (q : Rat) : 4 ≤ (fixed2 q).length := by
  have h := List.length_pos_of_ne_nil (decNat_ne_nil (hundredths q / 100))
  simp only [fixed2, List.length_append, List.length_cons, List.length_nil]
  omega

/-! ## Hundredths -/

theorem hundredths_natCast_div (n : Nat) : hundredths ((n : Rat) / 100) = n := by
  set q : Rat := (n : Rat) / 100 with hq
  have hden := q.den_pos
  have hnum : 100 * q.num = n * q.den := by
    have hd : (q.den : Rat) ≠ 0 := Nat.cast_ne_zero.mpr q.den_nz
    have h : (q.num : Rat) = q * q.den := (div_eq_iff hd).mp (Rat.num_div_den q)
    have h' : (100 : Rat) * q.num = n * q.den := by
      rw [h, hq]
      ring
    exact_mod_cast h'
  have habs : 100 * q.num.natAbs = n * q.den := by
    have h := congrArg Int.natAbs hnum
    simpa [Int.natAbs_mul] using h
  unfold hundredths
  rw [show 200 * q.num.natAbs + q.den = q.den + 2 * q.den * n by linarith,
    Nat.add_mul_div_left _ _ (by omega), Nat.div_eq_of_lt (by omega), Nat.zero_add]

theorem hundredths_le (q : Rat) (h : |q| ≤ 1) : hundredths q ≤ 100 := by
  have hden := q.den_pos
  have hnum : q.num.natAbs ≤ q.den := by
    have hd : (0 : Rat) < q.den := Nat.cast_pos.mpr hden
    rw [← Rat.num_div_den q, abs_div, Nat.abs_cast, div_le_one hd, ← Int.cast_abs,
      Int.abs_eq_natAbs] at h
    exact_mod_cast h
  unfold hundredths
  have hlt : (200 * q.num.natAbs + q.den) / (2 * q.den) < 101 := by
    rw [Nat.div_lt_iff_lt_mul (by omega)]
    omega
  omega

/-- A number from 0 to 1 is printed in four characters. -/
theorem length_fixed2_unit (q : Rat) (h0 : 0 ≤ q) (h1 : q ≤ 1) : (fixed2 q).length = 4 := by
  have hle := hundredths_le q (abs_le.mpr ⟨by linarith, h1⟩)
  rw [fixed2, if_neg fun h => absurd h.1 (not_lt.mpr h0), decNat_of_lt (by omega)]
  rfl

/-! ## Reading a printed number -/

theorem takeWhile_append_of_head {p : UInt8 → Bool} (ds rest : List UInt8)
    (hd : ∀ c ∈ ds, p c = true) (hr : p (rest.headD 0) = false) :
    (ds ++ rest).takeWhile p = ds ∧ (ds ++ rest).dropWhile p = rest := by
  induction ds with
  | nil =>
    cases rest with
    | nil => simp
    | cons c rest =>
      rw [List.headD_cons] at hr
      simp [hr]
  | cons d ds ih =>
    have hd' := hd d (by simp)
    have ih' := ih (fun c hc => hd c (by simp [hc]))
    simpa [hd'] using ih'

/-- What may follow a number without becoming part of it. -/
def Stops (rest : List UInt8) : Prop :=
  isDigit (rest.headD 0) = false ∧ rest.headD 0 ≠ 46 ∧ lower (rest.headD 0) ≠ 101 ∧
    lower (rest.headD 0) ≠ 120

theorem stops_nil : Stops [] := by
  unfold Stops
  decide

theorem stops_space (s : List UInt8) : Stops (32 :: s) := by
  unfold Stops
  simp only [List.headD_cons]
  decide

theorem scanLf_space (s : List UInt8) : scanLf (32 :: s) = scanLf s := by
  rw [scanLf, scanLf, List.dropWhile_cons_of_pos (by decide)]

theorem lower_digit {c : UInt8} (h : isDigit c = true) : lower c = c := by
  rw [isDigit_iff] at h
  rw [lower, if_neg]
  rintro ⟨h65, -⟩
  simp only [UInt8.le_iff_toNat_le] at h65
  simp at h65
  omega

/-- A text that begins with a digit, and not with `0x`, is read as a decimal. -/
theorem scanLf_of_digit (neg : Bool) (s t : List UInt8)
    (hs : scanSign (s.dropWhile isSpace) = (neg, t)) (hdigit : isDigit (t.headD 0) = true)
    (hx : lower (t.tail.headD 0) ≠ 120) : scanLf s = scanDecimal neg t := by
  have hd := (isDigit_iff _).mp hdigit
  have hne : ∀ k : UInt8, 57 < k.toNat → t.headD 0 ≠ k := by
    intro k hk heq
    rw [heq] at hd
    omega
  have hhex : isHexadecimal t = false := by
    rw [isHexadecimal, decide_eq_false_iff_not]
    exact fun h => hx h.2
  simp only [scanLf, hs, lower_digit hdigit, hne 105 (by decide), hne 110 (by decide), if_false, hhex,
    Bool.false_eq_true]

/-- The part of a conversion behind the sign. -/
theorem scanLf_digits (neg : Bool) (sign ip fp rest : List UInt8)
    (hs : scanSign ((sign ++ (ip ++ rest)).dropWhile isSpace) = (neg, ip ++ rest))
    (hip : ∀ c ∈ ip, isDigit c = true) (hne : ip ≠ []) (hd : isDigit (rest.headD 0) = false)
    (hx : lower (rest.headD 0) ≠ 120) (rest' : List UInt8)
    (hf : scanFraction isDigit rest = (fp, rest')) (hr : Stops rest') :
    scanLf (sign ++ (ip ++ rest)) =
      some (.finite ((if neg then -1 else 1) * ((digitsVal (ip ++ fp) : Rat) / 10 ^ fp.length)),
        rest') := by
  have hhead : isDigit ((ip ++ rest).headD 0) = true ∧ lower ((ip ++ rest).tail.headD 0) ≠ 120 := by
    cases ip with
    | nil => exact absurd rfl hne
    | cons c ip =>
      refine ⟨hip c (by simp), ?_⟩
      cases ip with
      | nil => exact hx
      | cons d ip =>
        have hdigit := hip d (by simp)
        intro h
        rw [List.cons_append, List.tail_cons, List.cons_append, List.headD_cons,
          lower_digit hdigit] at h
        rw [h] at hdigit
        exact absurd hdigit (by decide)
  obtain ⟨htake, hdrop⟩ := takeWhile_append_of_head ip rest hip hd
  obtain ⟨_, _, he, _⟩ := hr
  rw [scanLf_of_digit neg _ _ hs hhead.1 hhead.2]
  simp only [scanDecimal, htake, hdrop, hf, hne, false_and, if_false, scanExponent, he,
    Option.bind_eq_bind, Option.bind_some, zpow_zero, mul_one]
  cases neg <;> simp

theorem scanSign_digits (neg : Bool) (ip rest : List UInt8) (hip : ∀ c ∈ ip, isDigit c = true)
    (hne : ip ≠ []) :
    scanSign (((if neg then ascii "-" else []) ++ (ip ++ rest)).dropWhile isSpace) =
      (neg, ip ++ rest) := by
  cases ip with
  | nil => exact absurd rfl hne
  | cons d ip =>
    have hd := hip d (by simp)
    have hd' := (isDigit_iff d).mp hd
    have h45 : d ≠ 45 := by
      rintro rfl
      simp at hd'
    have h43 : d ≠ 43 := by
      rintro rfl
      simp at hd'
    cases neg with
    | true =>
      have hm : ascii "-" = [45] := rfl
      rw [if_pos rfl, hm, List.singleton_append, List.dropWhile_cons_of_neg (by decide)]
      rfl
    | false =>
      rw [if_neg (by decide), List.nil_append, List.cons_append,
        List.dropWhile_cons_of_neg (by simp [not_isSpace_of_isDigit hd])]
      simp [scanSign, h45, h43]

theorem scanLf_integer (ip rest : List UInt8) (hip : ∀ c ∈ ip, isDigit c = true)
    (hne : ip ≠ []) (hr : Stops rest) : scanLf (ip ++ rest) = some (.finite (digitsVal ip), rest) := by
  have hf : scanFraction isDigit rest = ([], rest) := by rw [scanFraction, if_neg hr.2.1]
  have h := scanLf_digits false [] ip [] rest (scanSign_digits false ip rest hip hne) hip hne
    hr.1 hr.2.2.2 rest hf hr
  simpa using h

theorem scanLf_decimal (neg : Bool) (ip fp rest : List UInt8) (hip : ∀ c ∈ ip, isDigit c = true)
    (hne : ip ≠ []) (hfp : ∀ c ∈ fp, isDigit c = true) (hr : Stops rest) :
    scanLf ((if neg then ascii "-" else []) ++ (ip ++ 46 :: (fp ++ rest))) =
      some (.finite ((if neg then -1 else 1) * ((digitsVal (ip ++ fp) : Rat) / 10 ^ fp.length)),
        rest) := by
  obtain ⟨htake, hdrop⟩ := takeWhile_append_of_head fp rest hfp hr.1
  have hf : scanFraction isDigit (46 :: (fp ++ rest)) = (fp, rest) := by
    simp [scanFraction, htake, hdrop]
  exact scanLf_digits neg _ ip fp (46 :: (fp ++ rest)) (scanSign_digits neg ip _ hip hne) hip hne
    (by rw [List.headD_cons]; decide) (by rw [List.headD_cons]; decide) rest hf hr

/-- Reading a printed number gives its value rounded to hundredths. -/
theorem scanLf_fixed2 (q : Rat) (rest : List UInt8) (hr : Stops rest) :
    scanLf (fixed2 q ++ rest) =
      some (.finite ((if q < 0 then -1 else 1) * ((hundredths q : Rat) / 100)), rest) := by
  have hfp : ∀ c ∈ [digit (hundredths q / 10 % 10), digit (hundredths q % 10)],
      isDigit c = true := by
    intro c hc
    simp only [List.mem_cons, List.not_mem_nil, or_false] at hc
    rcases hc with rfl | rfl <;> exact isDigit_digit (Nat.mod_lt _ (by decide))
  have hval : digitsVal (decNat (hundredths q / 100) ++
      [digit (hundredths q / 10 % 10), digit (hundredths q % 10)]) = hundredths q := by
    have h := digitsVal_decNat (hundredths q / 100)
    unfold digitsVal at h ⊢
    rw [List.foldl_append, h]
    simp only [List.foldl_cons, List.foldl_nil, digit_toNat (Nat.mod_lt _ (show 10 > 0 by decide))]
    omega
  have h := scanLf_decimal (decide (q < 0 ∧ hundredths q ≠ 0)) (decNat (hundredths q / 100)) _ rest
    (decNat_isDigit _) (decNat_ne_nil _) hfp hr
  rw [hval] at h
  rw [fixed2]
  simp only [decide_eq_true_eq, List.length_cons, List.length_nil] at h
  rw [List.append_assoc, List.append_assoc, List.cons_append, h]
  by_cases h0 : hundredths q = 0
  · simp [h0]
  · by_cases hq : q < 0 <;> simp [h0, hq] <;> norm_num

end Decimal

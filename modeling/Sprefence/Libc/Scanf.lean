import Mathlib.Data.List.DropRight
import Sprefence.Lib.Decimal

/-! The `fscanf` of the device for `%lf`: `lib_vscanf` and `strtod`, in the arithmetic of
`double`. The variable of a number that is missing is not left alone, it is cleared before
the input is looked at. -/

namespace Sprefence.Libc

open CBytes Decimal

/-! ## The code -/

/-- The flags of the loop that copies a number. -/
structure CopyFlags where
  expnt : Bool
  dot : Bool
  sign : Bool
  deriving DecidableEq, Repr

/-- Whether the loop goes on with a character; `none` is `stopconv`. -/
def CopyFlags.accept (f : CopyFlags) (c : UInt8) : Option CopyFlags :=
  if c = 45 ∨ c = 43 then if f.sign then none else some { f with sign := true }
  else if c = 46 then if f.dot then none else some { f with dot := true, sign := true }
  else if c = 101 ∨ c = 69 then if f.expnt then none else some { f with expnt := true, sign := false }
  else if isDigit c then some { f with sign := true }
  else none

/-- The loop that copies a number of at most `width` characters to `tmp`, and the input
behind it. -/
def copyReal : Nat → CopyFlags → List UInt8 → List UInt8 × List UInt8
  | 0, _, s => ([], s)
  | _ + 1, _, [] => ([], [])
  | width + 1, f, c :: s =>
    match f.accept c with
    | none => ([], c :: s)
    | some f => (c :: (copyReal width f s).1, (copyReal width f s).2)

/-- The `int` of an exponent. -/
def wrapInt (n : Nat) : Int := (n : Int).bmod (2 ^ 32)

/-- The exponent of `strtod`; without digits it is 0. -/
def strtodExponent (s : List UInt8) : Int :=
  if s.headD 0 = 101 ∨ s.headD 0 = 69 then
    let (negative, s) := scanSign s.tail
    let n := wrapInt (digitsVal (s.takeWhile isDigit))
    if negative then -n else n
  else 0

/-- `number = number * 10. + (*p - '0')` over the digits. -/
def strtodDigits (number : Float) (ds : List UInt8) : Float :=
  ds.foldl (fun number c => number * 10 + Float.ofNat (c.toNat - 48)) number

/-- The loop over the bits of `n`, which are those of an `int`. -/
def scaleLoop (negative : Bool) : Nat → Nat → Float → Float → Float
  | 0, _, _, number => number
  | bits + 1, n, p10, number =>
    if n = 0 then number
    else
      let number :=
        if n % 2 = 1 then if negative then number / p10 else number * p10 else number
      scaleLoop negative bits (n / 2) (p10 * p10) number

def infinite : Float := 1 / 0

def isReal (x : Float) : Bool := x < infinite ∧ -infinite ≤ x

/-- `strtod`; `none` is `ERANGE`, which a text without digits gives as well. -/
def strtod (s : List UInt8) : Option Float :=
  let (negative, s) := scanSign (s.dropWhile isSpace)
  let ip := s.takeWhile isDigit
  let (fp, s) := scanFraction isDigit (s.dropWhile isDigit)
  if ip = [] ∧ fp = [] then none
  else
    let number := strtodDigits (strtodDigits 0 ip) fp
    let number := if negative then -number else number
    let exponent := strtodExponent s - fp.length
    if exponent < -1021 ∨ exponent > 1024 then none
    else
      let number := scaleLoop (decide (exponent < 0)) 31 exponent.natAbs 10 number
      if isReal number then some number else none

/-- No character above 0 is left. -/
def atEnd (s : List UInt8) : Bool := s.headD 0 = 0

/-- What `n` conversions of `%lf` in a row store; `none` is a variable that is not reached.
The buffer `tmp` takes 127 characters. -/
def vscanf : Nat → List UInt8 → List (Option Float)
  | 0, _ => []
  | n + 1, s =>
    let s := s.dropWhile isSpace
    if atEnd s then some 0 :: vscanf n s
    else
      let (tmp, s) := copyReal 127 ⟨false, false, false⟩ s
      match strtod tmp with
      | none => some 0 :: List.replicate n none
      | some number => some number :: vscanf n s

/-! ## Copying a number -/

end Sprefence.Libc

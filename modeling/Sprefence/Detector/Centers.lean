import Sprefence.Detector.Main
import Sprefence.Lib.Centroid

/-! `find_black_center` and `find_skin_center` of `diff_ditect`. The pointers
`pic` and `cam` are what lies behind them in memory, `none` where nothing may be
read; arithmetic on `int` fails outside a range, which is that of 32 bits on the
device and unlimited for statements about exact values. -/

namespace Sprefence.DiffDitect

open Centroid Finset Loops

def yWidth : Nat := 320
def yHeight : Nat := 240
def uvWidth : Nat := 320 / 2
def uvHeight : Nat := 240
def uCenter : Int := 157
def vCenter : Int := 110
def uRange : Int := 20
def vRange : Int := 25

/-- What can be read through a pointer. -/
abbrev Memory := Nat → Option UInt8

/-- A picture: 320 x 240 pixels in UYVY. -/
structure Frame where
  bytes : List UInt8
  length_bytes : bytes.length = fSize

def Frame.byte (f : Frame) (k : Nat) : UInt8 := f.bytes.getD k 0

/-- The buffer with the picture; nothing behind it may be read. -/
def Frame.memory (f : Frame) : Memory := fun k => f.bytes[k]?

/-- The range of `int`. -/
def Int32 (n : Int) : Prop := -2147483648 ≤ n ∧ n ≤ 2147483647

instance : DecidablePred Int32 := fun _ => inferInstanceAs (Decidable (_ ∧ _))

/-- The range of exact arithmetic. -/
def Exact (_ : Int) : Prop := True

instance : DecidablePred Exact := fun _ => inferInstanceAs (Decidable True)

/-- An `unsigned char` in an expression is promoted to `int`. -/
def promote (c : UInt8) : Int := c.toNat

section Code

variable (R : Int → Prop) [DecidablePred R] (pic cam : Memory)

/-- The body of the first loop of `find_black_center`. -/
def diffBody (i j : Nat) (diff : Int) : Option Int := do
  let p ← pic (2 * (yWidth * i + j))
  let c ← cam (2 * (yWidth * i + j) + 1)
  let d ← checked R (promote p - promote c)
  checked R (diff + d)

def sumDiff : Option Int :=
  forLoop yHeight (fun i => forLoop yWidth (diffBody R pic cam i)) 0

/-- The body of the second loop. -/
def blackBody (diff : Int) (i j : Nat) (s : Sums) : Option Sums := do
  let c ← cam (2 * (yWidth * i + j) + 1)
  let tmp ← checked R (promote c + diff)
  let p ← pic (2 * (yWidth * i + j) + 1)
  let tmp ← checked R (tmp - promote p)
  let tmp := if tmp < 25 then 0 else tmp
  s.add R tmp i j

def findBlackCenter : Option (Int × Int) := do
  let diff ← sumDiff R pic cam
  let diff := diff.tdiv (yHeight * yWidth)
  let s ← forLoop yHeight (fun i => forLoop yWidth (blackBody R pic cam diff i)) Sums.zero
  if s.weight ≤ 0 then some (-1, -1)
  else some (s.xSum.tdiv s.weight, s.ySum.tdiv s.weight)

/-- The offset of the sample that the skin loop visits. -/
def skinOffset (i j : Nat) : Nat := 4 * (yWidth * i + j)

/-- The body of the loop of `find_skin_center`; `continue` leaves the sums. -/
def skinBody (i j : Nat) (s : Sums) : Option Sums := do
  let u ← cam (skinOffset i j)
  let v ← cam (skinOffset i j + 2)
  if promote u < uCenter - uRange ∨ promote u > uCenter + uRange then some s
  else if promote v < vCenter - vRange ∨ promote v > vCenter + vRange then some s
  else
    let up ← pic (skinOffset i j)
    let vp ← pic (skinOffset i j + 2)
    let du ← checked R ((promote u - promote up) * (promote u - promote up))
    let dv ← checked R ((promote v - promote vp) * (promote v - promote vp))
    let diff ← checked R (du + dv)
    s.add R diff i j

def findSkinCenter : Option (Int × Int) := do
  let s ← forLoop uvHeight (fun i => forLoop uvWidth (skinBody R pic cam i)) Sums.zero
  if s.weight ≤ 0 then some (-1, -1)
  else
    let x ← checked R (s.xSum.tdiv s.weight * 2)
    some (x, s.ySum.tdiv s.weight)

end Code

theorem Frame.memory_eq (f : Frame) (k : Nat) (hk : k < fSize) : f.memory k = some (f.byte k) := by
  have hk' : k < f.bytes.length := by rw [f.length_bytes]; exact hk
  simp [memory, byte, hk']

theorem Frame.memory_eq_none (f : Frame) (k : Nat) (hk : fSize ≤ k) : f.memory k = none := by
  rw [memory, List.getElem?_eq_none]
  rw [f.length_bytes]
  exact hk

theorem luma_lt (i j : Nat) (hi : i < yHeight) (hj : j < yWidth) :
    2 * (yWidth * i + j) + 1 < fSize := by
  unfold yWidth yHeight at *
  unfold fSize
  omega

/-! ## Ranges -/

theorem isRange_int32 : IsRange Int32 33554432 :=
  ⟨fun n h1 h2 => ⟨by omega, by omega⟩, fun m n h0 hmn h => ⟨by have := h.1; omega, hmn.trans h.2⟩⟩

theorem isRange_exact : IsRange Exact 33554432 := ⟨fun _ _ _ => trivial, fun _ _ _ _ _ => trivial⟩

theorem promote_bounds (c : UInt8) : 0 ≤ promote c ∧ promote c ≤ 255 := by
  have := c.toNat_lt
  unfold promote
  omega

/-! ## Exact values -/

section Values

variable (pic cam : Nat → UInt8)

/-- What the first loop adds for a pixel: the picture's byte is the one in front
of its luma byte. -/
def pixelDiff (i j : Nat) : Int :=
  promote (pic (2 * (yWidth * i + j))) - promote (cam (2 * (yWidth * i + j) + 1))

/-- `diff` for the second loop. -/
def meanDiff : Int :=
  (∑ i ∈ range yHeight, ∑ j ∈ range yWidth, pixelDiff pic cam i j).tdiv (yHeight * yWidth)

/-- `tmp` of the second loop. -/
def blackWeight (i j : Nat) : Int :=
  let tmp := promote (cam (2 * (yWidth * i + j) + 1)) + meanDiff pic cam -
    promote (pic (2 * (yWidth * i + j) + 1))
  if tmp < 25 then 0 else tmp

/-- `u` and `v` are in the range of skin. -/
def IsSkin (u v : UInt8) : Prop :=
  137 ≤ promote u ∧ promote u ≤ 177 ∧ 85 ≤ promote v ∧ promote v ≤ 135

instance (u v : UInt8) : Decidable (IsSkin u v) := inferInstanceAs (Decidable (_ ∧ _))

/-- The squared distance of the colours, on skin. -/
def skinDistance (u v up vp : UInt8) : Int :=
  if IsSkin u v then (promote u - promote up) ^ 2 + (promote v - promote vp) ^ 2 else 0

/-- What the skin loop adds for a sample. -/
def skinWeight (i j : Nat) : Int :=
  skinDistance (cam (skinOffset i j)) (cam (skinOffset i j + 2)) (pic (skinOffset i j))
    (pic (skinOffset i j + 2))

def blackSums : Sums := total (blackWeight pic cam) yHeight yWidth

def skinSums : Sums := total (skinWeight pic cam) uvHeight uvWidth

theorem blackWeight_nonneg (i j : Nat) : 0 ≤ blackWeight pic cam i j := by
  unfold blackWeight
  dsimp only
  split_ifs <;> omega

theorem skinDistance_nonneg (u v up vp : UInt8) : 0 ≤ skinDistance u v up vp := by
  unfold skinDistance
  split_ifs
  · positivity
  · exact le_refl 0

/-- A sum of `n` terms between `-c` and `c`. -/
theorem sum_range_bounds (f : Nat → Int) (c : Int) (h : ∀ j, -c ≤ f j ∧ f j ≤ c) (n : Nat) :
    -(c * n) ≤ ∑ j ∈ range n, f j ∧ ∑ j ∈ range n, f j ≤ c * n := by
  induction n with
  | zero => simp
  | succ n ih =>
    have hn := h n
    rw [sum_range_succ, Nat.cast_succ, mul_add, mul_one]
    omega

theorem pixelDiff_bounds (i j : Nat) : -255 ≤ pixelDiff pic cam i j ∧ pixelDiff pic cam i j ≤ 255 := by
  have hp := promote_bounds (pic (2 * (yWidth * i + j)))
  have hc := promote_bounds (cam (2 * (yWidth * i + j) + 1))
  unfold pixelDiff
  omega

theorem rowDiff_bounds (i n : Nat) :
    -(255 * n) ≤ ∑ j ∈ range n, pixelDiff pic cam i j ∧
      ∑ j ∈ range n, pixelDiff pic cam i j ≤ 255 * n :=
  sum_range_bounds (pixelDiff pic cam i) 255 (pixelDiff_bounds pic cam i) n

theorem rowsDiff_bounds (m : Nat) :
    -(81600 * m) ≤ ∑ i ∈ range m, ∑ j ∈ range yWidth, pixelDiff pic cam i j ∧
      ∑ i ∈ range m, ∑ j ∈ range yWidth, pixelDiff pic cam i j ≤ 81600 * m :=
  sum_range_bounds _ 81600 (fun i => rowDiff_bounds pic cam i 320) m

theorem meanDiff_bounds : -255 ≤ meanDiff pic cam ∧ meanDiff pic cam ≤ 255 := by
  obtain ⟨hlo, hhi⟩ := rowsDiff_bounds pic cam 240
  have habs := Int.natAbs_tdiv (∑ i ∈ range yHeight, ∑ j ∈ range yWidth, pixelDiff pic cam i j)
    (yHeight * yWidth)
  change (meanDiff pic cam).natAbs =
    (∑ i ∈ range 240, ∑ j ∈ range yWidth, pixelDiff pic cam i j).natAbs / 76800 at habs
  omega

end Values

/-! ## The loops on readable memory -/

section Readable

variable (R : Int → Prop) [DecidablePred R] (hR : IsRange R 33554432) (pic cam : Memory)
  (p c : Nat → UInt8) (hp : ∀ k < fSize, pic k = some (p k)) (hc : ∀ k < fSize, cam k = some (c k))
include hR hp hc

theorem diffBody_eq (i j : Nat) (hi : i < yHeight) (hj : j < yWidth) (diff : Int)
    (hd : R (diff + pixelDiff p c i j)) :
    diffBody R pic cam i j diff = some (diff + pixelDiff p c i j) := by
  have hkc := luma_lt i j hi hj
  have hkp : 2 * (yWidth * i + j) < fSize := by omega
  have hpixel := pixelDiff_bounds p c i j
  have hr := hR.wide (pixelDiff p c i j) (by omega) (by omega)
  unfold pixelDiff at hd hr ⊢
  simp only [diffBody, hp _ hkp, hc _ hkc, Option.bind_eq_bind, Option.bind_some,
    checked_eq_some hr, checked_eq_some hd]

theorem sumDiff_eq :
    sumDiff R pic cam = some (∑ i ∈ range yHeight, ∑ j ∈ range yWidth, pixelDiff p c i j) := by
  refine forLoop_eq_some yHeight _ (fun m => ∑ i ∈ range m, ∑ j ∈ range yWidth, pixelDiff p c i j)
    fun i hi => ?_
  have hloop := forLoop_eq_some yWidth (diffBody R pic cam i)
    (fun n => (∑ k ∈ range i, ∑ j ∈ range yWidth, pixelDiff p c k j) +
      ∑ j ∈ range n, pixelDiff p c i j) fun n hn => ?_
  · rw [sum_range_zero, add_zero] at hloop
    rw [sum_range_succ]
    exact hloop
  · have hi' : i < 240 := hi
    have hn' : n < 320 := hn
    have hrows := rowsDiff_bounds p c i
    have hcols := rowDiff_bounds p c i (n + 1)
    rw [sum_range_succ, ← add_assoc]
    rw [sum_range_succ] at hcols
    push_cast at hcols
    exact diffBody_eq R hR pic cam p c hp hc i n hi hn _ (hR.wide _ (by omega) (by omega))

theorem blackBody_eq (i j : Nat) (hi : i < yHeight) (hj : j < yWidth) (s : Sums) :
    blackBody R pic cam (meanDiff p c) i j s = s.add R (blackWeight p c i j) i j := by
  have hk := luma_lt i j hi hj
  have hmean := meanDiff_bounds p c
  have hcam := promote_bounds (c (2 * (yWidth * i + j) + 1))
  have hpic := promote_bounds (p (2 * (yWidth * i + j) + 1))
  have hsum := hR.wide (promote (c (2 * (yWidth * i + j) + 1)) + meanDiff p c) (by omega) (by omega)
  have hdiff := hR.wide (promote (c (2 * (yWidth * i + j) + 1)) + meanDiff p c -
    promote (p (2 * (yWidth * i + j) + 1))) (by omega) (by omega)
  simp only [blackBody, blackWeight, hp _ hk, hc _ hk, Option.bind_eq_bind, Option.bind_some,
    checked_eq_some hsum, checked_eq_some hdiff]

/-- `find_black_center` ends without overflow exactly if its sums are in range,
and then divides them. -/
theorem findBlackCenter_eq :
    findBlackCenter R pic cam =
      if (blackSums p c).Ok R then
        some (if (blackSums p c).weight ≤ 0 then (-1, -1)
          else ((blackSums p c).xSum.tdiv (blackSums p c).weight,
            (blackSums p c).ySum.tdiv (blackSums p c).weight))
      else none := by
  have hloop := gridLoop_eq (blackWeight_nonneg p c) hR yHeight yWidth
    (blackBody R pic cam (meanDiff p c)) (hR.wide 0 (by decide) (by decide))
    (fun i hi j hj s _ => blackBody_eq R hR pic cam p c hp hc i j hi hj s)
  simp only [findBlackCenter, sumDiff_eq R hR pic cam p c hp hc, Option.bind_eq_bind,
    Option.bind_some]
  change (forLoop yHeight (fun i => forLoop yWidth (blackBody R pic cam (meanDiff p c) i))
    Sums.zero).bind _ = _
  rw [hloop]
  change (if (blackSums p c).Ok R then some (blackSums p c) else none).bind _ = _
  by_cases hok : (blackSums p c).Ok R
  · rw [if_pos hok, if_pos hok, Option.bind_some]
    exact (apply_ite some _ _ _).symm
  · rw [if_neg hok, if_neg hok, Option.bind_none]

end Readable

section Skin

variable (R : Int → Prop) [DecidablePred R] (hR : IsRange R 33554432) (p c : Nat → UInt8)

theorem square_promote_sub (a b : UInt8) :
    0 ≤ (promote a - promote b) * (promote a - promote b) ∧
      (promote a - promote b) * (promote a - promote b) ≤ 65025 := by
  obtain ⟨ha0, ha⟩ := promote_bounds a
  obtain ⟨hb0, hb⟩ := promote_bounds b
  exact ⟨mul_self_nonneg _, by nlinarith⟩

theorem isSkin_iff (u v : UInt8) :
    IsSkin u v ↔ ¬ (promote u < uCenter - uRange ∨ promote u > uCenter + uRange) ∧
      ¬ (promote v < vCenter - vRange ∨ promote v > vCenter + vRange) := by
  unfold IsSkin uCenter uRange vCenter vRange
  omega

include hR

theorem Sums.add_zero_eq (s : Sums) (hs : s.Ok R) (i j : Nat) : s.add R 0 i j = some s := by
  have h0 : R 0 := hR.wide 0 (by decide) (by decide)
  simp [Sums.add, checked, h0, hs.1, hs.2.1, hs.2.2]

/-- A sample without skin adds nothing. -/
theorem skinBody_eq (i j : Nat) (s : Sums) (hs : s.Ok R) :
    skinBody R (fun k => some (p k)) (fun k => some (c k)) i j s =
      s.add R (skinWeight p c i j) i j := by
  unfold skinBody skinWeight skinDistance
  by_cases hskin : IsSkin (c (skinOffset i j)) (c (skinOffset i j + 2))
  · obtain ⟨hu, hv⟩ := (isSkin_iff _ _).mp hskin
    have hdu := square_promote_sub (c (skinOffset i j)) (p (skinOffset i j))
    have hdv := square_promote_sub (c (skinOffset i j + 2)) (p (skinOffset i j + 2))
    have hru := hR.wide _ (by omega) (hdu.2.trans (by decide))
    have hrv := hR.wide _ (by omega) (hdv.2.trans (by decide))
    have hr := hR.wide _ (by omega) ((add_le_add hdu.2 hdv.2).trans (by decide))
    simp only [Option.bind_eq_bind, Option.bind_some, if_neg hu, if_neg hv, if_pos hskin,
      checked_eq_some hru, checked_eq_some hrv, checked_eq_some hr, pow_two]
  · rw [if_neg hskin, Sums.add_zero_eq R hR s hs]
    rw [isSkin_iff, not_and_or, not_not, not_not] at hskin
    simp only [Option.bind_eq_bind, Option.bind_some]
    rcases hskin with hu | hv
    · rw [if_pos hu]
    · rw [if_pos hv, ite_self]

/-- `find_skin_center` on memory that can be read ends without overflow exactly if
its sums are in range. The doubled quotient is at most 318. -/
theorem findSkinCenter_eq :
    findSkinCenter R (fun k => some (p k)) (fun k => some (c k)) =
      if (skinSums p c).Ok R then
        some (if (skinSums p c).weight ≤ 0 then (-1, -1)
          else ((skinSums p c).xSum.tdiv (skinSums p c).weight * 2,
            (skinSums p c).ySum.tdiv (skinSums p c).weight))
      else none := by
  have hw : ∀ i j, 0 ≤ skinWeight p c i j := fun i j => skinDistance_nonneg _ _ _ _
  have hloop := gridLoop_eq hw hR uvHeight uvWidth
    (skinBody R (fun k => some (p k)) (fun k => some (c k))) (hR.wide 0 (by decide) (by decide))
    (fun i _ j _ s hs => skinBody_eq R hR p c i j s hs)
  unfold findSkinCenter
  rw [hloop]
  change (if (skinSums p c).Ok R then some (skinSums p c) else none).bind _ = _
  by_cases hok : (skinSums p c).Ok R
  · rw [if_pos hok, if_pos hok, Option.bind_some]
    by_cases hpos : (skinSums p c).weight ≤ 0
    · rw [if_pos hpos, if_pos hpos]
    · have hx : (skinSums p c).xSum ≤ 159 * (skinSums p c).weight := total_xSum_le hw uvHeight 159
      have hx0 : 0 ≤ (skinSums p c).xSum := (nonneg_total hw uvHeight uvWidth).xSum
      have hq : 0 ≤ (skinSums p c).xSum.tdiv (skinSums p c).weight ∧
          (skinSums p c).xSum.tdiv (skinSums p c).weight ≤ 159 := by
        rw [Int.tdiv_eq_ediv_of_nonneg hx0]
        exact ⟨Int.ediv_nonneg hx0 (by omega), Int.ediv_le_of_le_mul (by omega) hx⟩
      have hr := hR.wide ((skinSums p c).xSum.tdiv (skinSums p c).weight * 2) (by omega) (by omega)
      rw [if_neg hpos, if_neg hpos, checked_eq_some hr]
      rfl
  · rw [if_neg hok, if_neg hok, Option.bind_none]

end Skin

end Sprefence.DiffDitect

import Mathlib.Algebra.BigOperators.Intervals
import Mathlib.Algebra.BigOperators.Ring.Finset
import Mathlib.Algebra.Order.BigOperators.Group.Finset
import Mathlib.Algebra.Order.Ring.Int
import Mathlib.Tactic.Positivity
import Sprefence.Lib.Loops

/-! The sums of a centre of gravity over a grid, accumulated row by row in
arithmetic that fails outside a range. The weights are not negative, so the
sums only grow and the last of them decides. -/

namespace Centroid

open Finset Loops

/-- The sums of the weights and of the weights times column and row. -/
structure Sums where
  weight : Int
  xSum : Int
  ySum : Int
  deriving DecidableEq, Repr

def Sums.zero : Sums := ⟨0, 0, 0⟩

/-- `weight += t; x_sum += t * j; y_sum += t * i;`. -/
def Sums.add (R : Int → Prop) [DecidablePred R] (s : Sums) (t : Int) (i j : Nat) : Option Sums := do
  let weight ← checked R (s.weight + t)
  let tj ← checked R (t * j)
  let xSum ← checked R (s.xSum + tj)
  let ti ← checked R (t * i)
  let ySum ← checked R (s.ySum + ti)
  some ⟨weight, xSum, ySum⟩

def Sums.Ok (R : Int → Prop) (s : Sums) : Prop := R s.weight ∧ R s.xSum ∧ R s.ySum

instance (R : Int → Prop) [DecidablePred R] : DecidablePred (Sums.Ok R) :=
  fun s => inferInstanceAs (Decidable (R s.weight ∧ R s.xSum ∧ R s.ySum))

/-- The sums over the first `h` rows of `n` columns. -/
def total (w : Nat → Nat → Int) (h n : Nat) : Sums where
  weight := ∑ i ∈ range h, ∑ j ∈ range n, w i j
  xSum := ∑ i ∈ range h, ∑ j ∈ range n, w i j * j
  ySum := ∑ i ∈ range h, ∑ j ∈ range n, w i j * i

/-- The sums `s` with the first `n` columns of row `i` added. -/
def Sums.row (s : Sums) (w : Nat → Nat → Int) (i n : Nat) : Sums where
  weight := s.weight + ∑ j ∈ range n, w i j
  xSum := s.xSum + ∑ j ∈ range n, w i j * j
  ySum := s.ySum + ∑ j ∈ range n, w i j * i

theorem Sums.row_zero (s : Sums) (w : Nat → Nat → Int) (i : Nat) : s.row w i 0 = s := by
  simp [row]

theorem total_zero (w : Nat → Nat → Int) (n : Nat) : total w 0 n = Sums.zero := by
  simp [total, Sums.zero]

theorem total_succ (w : Nat → Nat → Int) (h n : Nat) :
    total w (h + 1) n = (total w h n).row w h n := by
  simp [total, Sums.row, sum_range_succ]

theorem Sums.row_succ (s : Sums) (w : Nat → Nat → Int) (i n : Nat) :
    s.row w i (n + 1) = ⟨(s.row w i n).weight + w i n, (s.row w i n).xSum + w i n * n,
      (s.row w i n).ySum + w i n * i⟩ := by
  simp [row, sum_range_succ, add_assoc]

theorem grid_sum_congr (f g : Nat → Nat → Int) (h n : Nat)
    (hfg : ∀ i < h, ∀ j < n, f i j = g i j) :
    ∑ i ∈ range h, ∑ j ∈ range n, f i j = ∑ i ∈ range h, ∑ j ∈ range n, g i j :=
  sum_congr rfl fun i hi => sum_congr rfl fun j hj =>
    hfg i (mem_range.mp hi) j (mem_range.mp hj)

theorem total_congr (w w' : Nat → Nat → Int) (h n : Nat)
    (hw : ∀ i < h, ∀ j < n, w i j = w' i j) : total w h n = total w' h n := by
  have heq : ∀ g : Nat → Nat → Int, ∑ i ∈ range h, ∑ j ∈ range n, w i j * g i j =
      ∑ i ∈ range h, ∑ j ∈ range n, w' i j * g i j := fun g =>
    grid_sum_congr _ _ h n fun i hi j hj => by rw [hw i hi j hj]
  have hone := heq fun _ _ => 1
  simp only [mul_one] at hone
  simp only [total, hone, heq fun _ j => j, heq fun i _ => i]

/-- A grid of equal weights. -/
theorem total_const (t : Int) (h n : Nat) :
    total (fun _ _ => t) h n =
      ⟨h * n * t, h * ∑ j ∈ range n, t * j, n * ∑ i ∈ range h, t * i⟩ := by
  simp [total, mul_assoc, mul_sum]

/-- A grid with one weight. -/
theorem total_single (t : Int) (a b h n : Nat) (ha : a < h) (hb : b < n) :
    total (fun i j => if i = a ∧ j = b then t else 0) h n = ⟨t, t * b, t * a⟩ := by
  have hsum : ∀ g : Nat → Nat → Int, ∑ i ∈ range h, ∑ j ∈ range n,
      (if i = a ∧ j = b then t else 0) * g i j = t * g a b := by
    intro g
    rw [sum_eq_single_of_mem a (mem_range.mpr ha), sum_eq_single_of_mem b (mem_range.mpr hb)]
    · rw [if_pos ⟨rfl, rfl⟩]
    · intro j _ hj
      rw [if_neg fun h => hj h.2, zero_mul]
    · intro i _ hi
      exact sum_eq_zero fun j _ => by rw [if_neg fun h => hi h.1, zero_mul]
  have hone := hsum fun _ _ => 1
  simp only [mul_one] at hone
  simp only [total, hone, hsum fun _ j => j, hsum fun i _ => i]

structure Sums.Nonneg (s : Sums) : Prop where
  weight : 0 ≤ s.weight
  xSum : 0 ≤ s.xSum
  ySum : 0 ≤ s.ySum

variable {R : Int → Prop} {w : Nat → Nat → Int} (hw : ∀ i j, 0 ≤ w i j)
include hw

theorem Sums.Nonneg.row {s : Sums} (hs : s.Nonneg) (i n : Nat) : (s.row w i n).Nonneg := by
  refine ⟨add_nonneg hs.weight (sum_nonneg fun j _ => hw i j),
    add_nonneg hs.xSum (sum_nonneg fun j _ => ?_), add_nonneg hs.ySum (sum_nonneg fun j _ => ?_)⟩
  · have := hw i j
    positivity
  · have := hw i j
    positivity

theorem nonneg_total (h n : Nat) : (total w h n).Nonneg := by
  induction h with
  | zero => simp only [total_zero, Sums.zero]; exact ⟨le_refl 0, le_refl 0, le_refl 0⟩
  | succ h ih => rw [total_succ]; exact ih.row hw h n

/-- The centre lies in the columns of the grid. -/
theorem total_xSum_le (h n : Nat) : (total w h (n + 1)).xSum ≤ n * (total w h (n + 1)).weight := by
  simp only [total, mul_sum]
  refine sum_le_sum fun i _ => sum_le_sum fun j hj => ?_
  have hj' : (j : Int) ≤ n := by
    have := mem_range.mp hj
    omega
  rw [mul_comm (n : Int)]
  exact mul_le_mul_of_nonneg_left hj' (hw i j)

/-- A comparison of the places that have a weight. -/
theorem grid_sum_le (f g : Nat → Nat → Int) (h n : Nat)
    (hfg : ∀ i < h, ∀ j < n, 0 < w i j → f i j ≤ g i j) :
    ∑ i ∈ range h, ∑ j ∈ range n, w i j * f i j ≤ ∑ i ∈ range h, ∑ j ∈ range n, w i j * g i j := by
  refine sum_le_sum fun i hi => sum_le_sum fun j hj => ?_
  rcases (hw i j).lt_or_eq with hpos | hzero
  · exact mul_le_mul_of_nonneg_left (hfg i (mem_range.mp hi) j (mem_range.mp hj) hpos) hpos.le
  · rw [← hzero, zero_mul, zero_mul]

section Mean

variable (f : Nat → Nat → Int) {h n : Nat} (hpos : 0 < (total w h n).weight)
include hpos

/-- The mean of `f`, rounded down, is not below `f` everywhere. -/
theorem exists_le_mean : ∃ i < h, ∃ j < n, 0 < w i j ∧
    f i j ≤ (∑ i ∈ range h, ∑ j ∈ range n, w i j * f i j) / (total w h n).weight := by
  by_contra hall
  push Not at hall
  have hsum := grid_sum_le hw (fun _ _ => _ + 1) f h n fun i hi j hj hij => hall i hi j hj hij
  simp only [← sum_mul] at hsum
  have hlt := Int.lt_ediv_add_one_mul_self (∑ i ∈ range h, ∑ j ∈ range n, w i j * f i j) hpos
  rw [mul_comm] at hlt
  exact absurd hsum (not_le.mpr hlt)

/-- Nor is it above `f` everywhere. -/
theorem exists_mean_le : ∃ i < h, ∃ j < n, 0 < w i j ∧
    (∑ i ∈ range h, ∑ j ∈ range n, w i j * f i j) / (total w h n).weight ≤ f i j := by
  by_contra hall
  push Not at hall
  have hsum := grid_sum_le hw f (fun _ _ => _ - 1) h n fun i hi j hj hij =>
    Int.le_sub_one_of_lt (hall i hi j hj hij)
  simp only [← sum_mul] at hsum
  have hle := Int.ediv_mul_le (∑ i ∈ range h, ∑ j ∈ range n, w i j * f i j) hpos.ne'
  change _ ≤ (total w h n).weight * _ at hsum
  rw [mul_sub, mul_one, mul_comm] at hsum
  omega

end Mean

section Checked

variable {bound : Int} (hR : IsRange R bound)
include hR

theorem Sums.ok_of_ok_row_succ {s : Sums} (hs : s.Nonneg) (i n : Nat)
    (h : (s.row w i (n + 1)).Ok R) : (s.row w i n).Ok R := by
  have hn := hs.row hw i n
  have ht := hw i n
  rw [row_succ] at h
  refine ⟨hR.mono _ _ hn.weight ?_ h.1, hR.mono _ _ hn.xSum ?_ h.2.1,
    hR.mono _ _ hn.ySum ?_ h.2.2⟩
  · exact le_add_of_nonneg_right ht
  · exact le_add_of_nonneg_right (by positivity)
  · exact le_add_of_nonneg_right (by positivity)

variable [DecidablePred R]

/-- The step of the loop; a product out of range takes its sum with it. -/
theorem Sums.add_row {s : Sums} (hs : s.Nonneg) (i n : Nat) :
    (s.row w i n).add R (w i n) i n =
      if (s.row w i (n + 1)).Ok R then some (s.row w i (n + 1)) else none := by
  have hn := hs.row hw i n
  have ht := hw i n
  rw [row_succ]
  generalize s.row w i n = t at hn
  by_cases hweight : R (t.weight + w i n)
  · by_cases hx : R (t.xSum + w i n * n)
    · have htx := hR.mono (w i n * n) _ (by positivity) (le_add_of_nonneg_left hn.xSum) hx
      by_cases hy : R (t.ySum + w i n * i)
      · have hty := hR.mono (w i n * i) _ (by positivity) (le_add_of_nonneg_left hn.ySum) hy
        simp [add, checked, Ok, hweight, hx, htx, hy, hty]
      · by_cases hty : R (w i n * i) <;> simp [add, checked, Ok, hweight, hx, htx, hy, hty]
    · by_cases htx : R (w i n * n) <;> simp [add, checked, Ok, hweight, hx, htx]
  · simp [add, checked, Ok, hweight]

/-- The two nested loops give the sums over the grid if these are in the range,
and otherwise fail. -/
theorem gridLoop_eq (h n : Nat) (body : Nat → Nat → Sums → Option Sums) (h0 : R 0)
    (hbody : ∀ i < h, ∀ j < n, ∀ s : Sums, s.Ok R → body i j s = s.add R (w i j) i j) :
    forLoop h (fun i => forLoop n (body i)) Sums.zero =
      if (total w h n).Ok R then some (total w h n) else none := by
  have hrow : ∀ i < h, ∀ s : Sums, s.Nonneg → s.Ok R →
      forLoop n (body i) s = if (s.row w i n).Ok R then some (s.row w i n) else none := by
    intro i hi s hs hok
    have hloop := forLoop_eq_ite n (body i) (s.row w i) (Sums.Ok R)
      (by rw [Sums.row_zero]; exact hok) (fun j _ => Sums.ok_of_ok_row_succ hw hR hs i j)
      (fun j hj hj' => by rw [hbody i hi j hj _ hj', Sums.add_row hw hR hs i j])
    rwa [Sums.row_zero] at hloop
  have hmono : ∀ s : Sums, s.Nonneg → ∀ i m, (s.row w i m).Ok R → s.Ok R := by
    intro s hs i m hm
    induction m with
    | zero => rwa [Sums.row_zero] at hm
    | succ m ih => exact ih (Sums.ok_of_ok_row_succ hw hR hs i m hm)
  have hloop := forLoop_eq_ite h (fun i => forLoop n (body i))
    (fun m => total w m n) (Sums.Ok R) (by rw [total_zero]; exact ⟨h0, h0, h0⟩)
    (fun m _ hm => hmono _ (nonneg_total hw m n) m n (by rw [← total_succ]; exact hm))
    (fun m hm hok => by rw [total_succ]; exact hrow m hm _ (nonneg_total hw m n) hok)
  rwa [total_zero] at hloop

end Checked

end Centroid

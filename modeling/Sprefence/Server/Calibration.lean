import Sprefence.Server.Commands
import Sprefence.Server.Receive

/-! The branch of `/sethazard`: four points of the browser become the command with
the ends of the two edges. The objects of the request may be null where the
deserializer allows it, and LINQ throws when it looks at them. Floats are exact
rationals; the reciprocal of an infinite slope is zero, as is `y / 0` here. -/

namespace Sprefence.WebServer

open Server

structure Point where
  x : Rat
  y : Rat
  deriving DecidableEq, Repr

/-- `Points`; `none` is null, also for the elements of the array. -/
structure Points where
  points : Option (List (Option Point))
  deriving DecidableEq, Repr

/-- The points of an array without null. -/
def nonNull : List (Option Point) → Option (List Point)
  | [] => some []
  | none :: _ => none
  | some p :: ps => (nonNull ps).map (p :: ·)

/-- `OrderBy(p => p.y)`: the sort is stable, and asks every element for its key. -/
def orderByY (ps : List (Option Point)) : Except Exn (List Point) :=
  match nonNull ps with
  | none => .error .nullReference
  | some ps => .ok (ps.mergeSort fun p q => p.y ≤ q.y)

/-- `First()` for `k = 0`, and `Skip(k).First()`. -/
def skipFirst (ps : List (Option Point)) (k : Nat) : Except Exn Point := do
  let top ← orderByY ps
  match top[k]? with
  | none => .error .invalidOperation
  | some p => .ok p

/-- `top?.Skip(k).First()`. -/
def topAt (top : Option (List (Option Point))) (k : Nat) : Except Exn (Option Point) :=
  match top with
  | none => .ok none
  | some ps => (skipFirst ps k).map some

/-- `<` on nullable numbers. -/
def liftedLt : Option Rat → Option Rat → Bool
  | some a, some b => a < b
  | _, _ => false

/-- `top?.Skip(i).First().x < top?.Skip(j).First().x` decides between the elements
`k` and `l`. -/
def choose (top : Option (List (Option Point))) (i j k l : Nat) : Except Exn (Option Point) := do
  let a ← topAt top i
  let b ← topAt top j
  if liftedLt (a.map Point.x) (b.map Point.x) then topAt top k else topAt top l

/-- The command from the four corners. The right end at the bottom is computed from
`rt`. -/
def setCommand (lt rt lb rb : Point) : Command :=
  let dlt := (lt.y - lb.y) / (lt.x - lb.x)
  let drt := (rt.y - rb.y) / (rt.x - rb.x)
  let ltp := lt.x + lt.y / dlt
  let lbp := lb.x + (1 - lb.y) / dlt
  let rtp := rt.x + rt.y / drt
  let rbp := rt.x + (1 - rt.y) / drt
  let ltp := if ltp < 0 then 0 else ltp
  let lbp := if lbp < 0 then 0 else lbp
  let rtp := if rtp > 1 then 1 else rtp
  let rbp := if rbp > 1 then 1 else rbp
  .set ltp lbp rtp rbp

/-- The branch on the deserialized body. -/
def setHazard (points : Option Points) : Except Exn Command := do
  let top := points.bind Points.points
  let lt ← choose top 0 1 0 1
  let rt ← choose top 0 1 1 0
  let lb ← choose top 2 3 2 3
  let rb ← choose top 2 3 3 2
  match lt, rt, lb, rb with
  | some lt, some rt, some lb, some rb => .ok (setCommand lt rt lb rb)
  -- they are null together, and then `lt.x` throws
  | _, _, _, _ => .error .nullReference

/-! ## When it throws -/

theorem exists_of_bind_ok {α β : Type} {x : Except Exn α} {f : α → Except Exn β} {b : β}
    (h : (x >>= f) = .ok b) : ∃ a, x = .ok a ∧ f a = .ok b := by
  cases x with
  | error e => cases h
  | ok a => exact ⟨a, rfl, h⟩

theorem nonNull_eq_some_iff (ps : List (Option Point)) (qs : List Point) :
    nonNull ps = some qs ↔ ps = qs.map some := by
  induction ps generalizing qs with
  | nil => cases qs <;> simp [nonNull]
  | cons p ps ih =>
    cases p with
    | none => cases qs <;> simp [nonNull]
    | some p =>
      cases qs with
      | nil => simp [nonNull]
      | cons q qs => simp [nonNull, ih, and_comm]

/-- An element of the sorted array is found exactly if nothing is null and there
are enough elements. -/
theorem skipFirst_ok_iff (ps : List (Option Point)) (k : Nat) :
    (∃ p, skipFirst ps k = .ok p) ↔ ∃ qs : List Point, k < qs.length ∧ ps = qs.map some := by
  constructor
  · rintro ⟨p, hp⟩
    cases hq : nonNull ps with
    | none =>
      simp only [skipFirst, orderByY, hq] at hp
      cases hp
    | some qs =>
      refine ⟨qs, ?_, (nonNull_eq_some_iff ps qs).mp hq⟩
      by_contra hk
      have hnone : (qs.mergeSort fun p q => p.y ≤ q.y)[k]? = none := by
        rw [List.getElem?_eq_none_iff, List.length_mergeSort]
        omega
      simp only [skipFirst, orderByY, hq, bind, Except.bind, hnone] at hp
      cases hp
  · rintro ⟨qs, hk, hps⟩
    have hk' : k < (qs.mergeSort fun p q => p.y ≤ q.y).length := by rwa [List.length_mergeSort]
    refine ⟨(qs.mergeSort fun p q => p.y ≤ q.y)[k], ?_⟩
    simp only [skipFirst, orderByY, (nonNull_eq_some_iff ps qs).mpr hps, bind, Except.bind,
      List.getElem?_eq_getElem hk']

theorem setHazard_none (points : Option Points) (h : points.bind Points.points = none) :
    setHazard points = .error .nullReference := by
  simp only [setHazard, h]
  rfl

section Array

variable (ps : List (Option Point))

theorem choose_ok {i j k l : Nat} {a b p q : Point} (hi : skipFirst ps i = .ok a)
    (hj : skipFirst ps j = .ok b) (hk : skipFirst ps k = .ok p) (hl : skipFirst ps l = .ok q) :
    choose (some ps) i j k l = .ok (some (if a.x < b.x then p else q)) := by
  simp only [choose, topAt, hi, hj, hk, hl, Except.map, bind, Except.bind, Option.map_some, liftedLt,
    decide_eq_true_eq]
  split_ifs <;> rfl

theorem choose_error {i j k l : Nat} (hj : ¬ ∃ b, skipFirst ps j = .ok b) :
    ¬ ∃ p, choose (some ps) i j k l = .ok p := by
  rintro ⟨p, hp⟩
  obtain ⟨a, -, ha⟩ := exists_of_bind_ok hp
  obtain ⟨b, hb, -⟩ := exists_of_bind_ok ha
  cases hj' : skipFirst ps j with
  | error e =>
    rw [topAt, hj'] at hb
    cases hb
  | ok b => exact hj ⟨b, hj'⟩

end Array

/-- The branch ends without an exception exactly for four or more points, none of
them null. -/
theorem setHazard_ok_iff (points : Option Points) :
    (∃ c, setHazard points = .ok c) ↔
      ∃ qs : List Point, 4 ≤ qs.length ∧ points = some ⟨some (qs.map some)⟩ := by
  constructor
  · rintro ⟨c, hc⟩
    cases points with
    | none =>
      rw [setHazard_none none rfl] at hc
      cases hc
    | some points =>
      obtain ⟨points⟩ := points
      cases points with
      | none =>
        rw [setHazard_none _ rfl] at hc
        cases hc
      | some ps =>
        obtain ⟨lt, -, hlt⟩ := exists_of_bind_ok hc
        obtain ⟨rt, -, hrt⟩ := exists_of_bind_ok hlt
        obtain ⟨lb, hlb, -⟩ := exists_of_bind_ok hrt
        have hthree : ∃ p, skipFirst ps 3 = .ok p := by
          by_contra h
          exact choose_error ps h ⟨lb, hlb⟩
        obtain ⟨qs, hqs, rfl⟩ := (skipFirst_ok_iff ps 3).mp hthree
        exact ⟨qs, hqs, rfl⟩
  · rintro ⟨qs, hlen, rfl⟩
    have hat : ∀ k < 4, ∃ p, skipFirst (qs.map some) k = .ok p := fun k hk =>
      (skipFirst_ok_iff _ k).mpr ⟨qs, by omega, rfl⟩
    obtain ⟨a, ha⟩ := hat 0 (by decide)
    obtain ⟨b, hb⟩ := hat 1 (by decide)
    obtain ⟨c, hc⟩ := hat 2 (by decide)
    obtain ⟨d, hd⟩ := hat 3 (by decide)
    refine ⟨setCommand (if a.x < b.x then a else b) (if a.x < b.x then b else a)
      (if c.x < d.x then c else d) (if c.x < d.x then d else c), ?_⟩
    simp only [setHazard, Option.bind_some, choose_ok _ ha hb ha hb, choose_ok _ ha hb hb ha,
      choose_ok _ hc hd hc hd, choose_ok _ hc hd hd hc, bind, Except.bind]

end Sprefence.WebServer

import Mathlib.Algebra.Field.Basic
import Mathlib.Tactic.FieldSimp
import Mathlib.Tactic.LinearCombination
import Mathlib.Tactic.Ring

/-! Affine maps of a line over a field, as they occur when a picture is cropped,
resized and shifted along one axis, and what they do to an interval given by
its centre and its length. -/

/-- The map `u ↦ slope * u + shift`. -/
structure LineMap (K : Type*) where
  slope : K
  shift : K

namespace LineMap

variable {K : Type*} [Field K]

def apply (f : LineMap K) (u : K) : K := f.slope * u + f.shift

/-- First `f`, then `g`. -/
def comp (g f : LineMap K) : LineMap K := ⟨g.slope * f.slope, g.slope * f.shift + g.shift⟩

def scale (a : K) : LineMap K := ⟨a, 0⟩

def translate (b : K) : LineMap K := ⟨1, b⟩

/-- The interval of length `len` that begins at `lo`, onto the one of length
`len'` that begins at 0. -/
def onto (lo len len' : K) : LineMap K := ⟨len' / len, -(lo * (len' / len))⟩

@[simp] theorem apply_comp (g f : LineMap K) (u : K) :
    (g.comp f).apply u = g.apply (f.apply u) := by
  simp only [comp, apply]
  ring

@[simp] theorem slope_comp (g f : LineMap K) : (g.comp f).slope = g.slope * f.slope := rfl

/-- A map takes the edges of one interval to those of another exactly if it
takes the centre to the centre and stretches the length to the length. -/
theorem apply_edges_iff [CharZero K] (f : LineMap K) (c s c' s' : K) :
    (f.apply (c - s / 2) = c' - s' / 2 ∧ f.apply (c + s / 2) = c' + s' / 2) ↔
      f.apply c = c' ∧ f.slope * s = s' := by
  unfold apply
  constructor
  · rintro ⟨hlo, hhi⟩
    constructor
    · linear_combination (hlo + hhi) / 2
    · linear_combination hhi - hlo
  · rintro ⟨hc, hs⟩
    constructor
    · linear_combination hc - hs / 2
    · linear_combination hc + hs / 2

end LineMap

import Mathlib.Data.Rat.Floor
import Sprefence.Lib.Blocks

/-! `GenerateSSDAnchors` of `ssd_anchors.cxx`: the layers of the network, with those
of the same stride merged, each a grid of cells with as many anchors a cell as
the merged layers have scales. The scales themselves are computed and not used,
so the function for their square roots is a parameter. -/

namespace Sprefence.FaceDetect

open Blocks

/-! ## The code -/

def kNumLayers : Nat := 4
def kStridesSize : Nat := 4
def kStrides : List Int := [8, 16, 16, 16]
def kMinScale : Rat := 1484375 / 10000000
def kMaxScale : Rat := 3 / 4
def kAspectRatio : Rat := 1
def kInterpolatedScaleAspectRatio : Rat := 1
def kInputSizeWidth : Int := 128
def kInputSizeHeight : Int := 128
def kAnchorOffsetX : Rat := 1 / 2
def kAnchorOffsetY : Rat := 1 / 2

/-- A `Detection` of which only the box is set. -/
structure Anchor where
  x : Rat
  y : Rat
  w : Rat
  h : Rat
  deriving DecidableEq, Repr

def calculateScale (minScale maxScale : Rat) (strideIndex numStrides : Nat) : Rat :=
  if numStrides = 1 then (minScale + maxScale) * (1 / 2)
  else minScale + (maxScale - minScale) * 1 * strideIndex / (numStrides - 1)

/-- What the inner `while` loop changes. -/
structure SameStride where
  lastSameStrideLayer : Nat
  aspectRatios : List Rat
  scales : List Rat

def mergeLayers (sqrt : Rat → Rat) (layerId : Nat) : Nat → SameStride → Option SameStride
  | 0, _ => none
  | fuel + 1, s =>
    let last := s.lastSameStrideLayer
    if last < kStridesSize ∧ kStrides[last]? = kStrides[layerId]? then
      let scale := calculateScale kMinScale kMaxScale last kStridesSize
      let scaleNext :=
        if last = kStridesSize - 1 then 1
        else calculateScale kMinScale kMaxScale (last + 1) kStridesSize
      mergeLayers sqrt layerId fuel
        { lastSameStrideLayer := last + 1
          aspectRatios := s.aspectRatios ++ [kAspectRatio] ++ [kInterpolatedScaleAspectRatio]
          scales := s.scales ++ [scale] ++ [sqrt (scale * scaleNext)] }
    else some s

/-- `anchor_height` and `anchor_width`. -/
def anchorSizes (sqrt : Rat → Rat) (s : SameStride) : Option (List (Rat × Rat)) :=
  (List.range s.aspectRatios.length).mapM fun i => do
    let ratioSqrts := sqrt (← s.aspectRatios[i]?)
    let scale ← s.scales[i]?
    some (scale / ratioSqrts, scale * ratioSqrts)

def featureMapSize (inputSize stride : Int) : Nat := ⌈(1 : Rat) * inputSize / stride⌉.toNat

def newAnchor (featureMapHeight featureMapWidth y x : Nat) : Anchor where
  x := (x + kAnchorOffsetX) * 1 / featureMapWidth
  y := (y + kAnchorOffsetY) * 1 / featureMapHeight
  w := 1
  h := 1

/-- The three nested loops, with `count` anchors a cell. -/
def gridAnchors (featureMapHeight featureMapWidth count : Nat) : List Anchor :=
  (List.range featureMapHeight).flatMap fun y =>
    (List.range featureMapWidth).flatMap fun x =>
      (List.range count).map fun _ => newAnchor featureMapHeight featureMapWidth y x

def generateLoop (sqrt : Rat → Rat) : Nat → Nat → List Anchor → Option (List Anchor)
  | 0, _, _ => none
  | fuel + 1, layerId, ret =>
    if layerId < kNumLayers then do
      let s ← mergeLayers sqrt layerId (kStridesSize + 1) ⟨layerId, [], []⟩
      let sizes ← anchorSizes sqrt s
      let stride ← kStrides[layerId]?
      let featureMapHeight := featureMapSize kInputSizeHeight stride
      let featureMapWidth := featureMapSize kInputSizeWidth stride
      generateLoop sqrt fuel s.lastSameStrideLayer
        (ret ++ gridAnchors featureMapHeight featureMapWidth sizes.length)
    else some ret

def generateSSDAnchors (sqrt : Rat → Rat) : Option (List Anchor) :=
  generateLoop sqrt (kNumLayers + 1) 0 []

/-! ## The grids -/

theorem length_row (h w n y : Nat) :
    ((List.range w).flatMap fun x => (List.range n).map fun _ => newAnchor h w y x).length = w * n :=
  length_flatMap_range _ n w fun _ _ => by rw [List.length_map, List.length_range]

theorem length_gridAnchors (h w n : Nat) : (gridAnchors h w n).length = h * (w * n) :=
  length_flatMap_range _ (w * n) h fun y _ => length_row h w n y

/-- The anchors go through the cells row by row. -/
theorem getElem?_gridAnchors (h w n i : Nat) (hi : i < h * (w * n)) :
    (gridAnchors h w n)[i]? = some (newAnchor h w (i / n / w) (i / n % w)) := by
  have hwn : 0 < w * n := Nat.pos_of_ne_zero fun h0 => by simp [h0] at hi
  have hn : 0 < n := Nat.pos_of_mul_pos_left hwn
  rw [gridAnchors, getElem?_flatMap_range _ (w * n) h (fun y _ => length_row h w n y) i hi,
    getElem?_flatMap_range _ n w (fun _ _ => by rw [List.length_map, List.length_range]) _
      (Nat.mod_lt i hwn), List.getElem?_map, List.getElem?_range (Nat.mod_lt _ hn), Option.map_some,
    Nat.mul_comm w n, Nat.mod_mul_right_div_self, Nat.div_div_eq_div_mul]

/-- One size for each aspect ratio. -/
theorem anchorSizes_length (sqrt : Rat → Rat) (s : SameStride)
    (h : s.aspectRatios.length = s.scales.length) :
    ∃ sizes, anchorSizes sqrt s = some sizes ∧ sizes.length = s.aspectRatios.length := by
  refine ⟨_, mapM_eq_some (g := fun i => (s.scales.getD i 0 / sqrt (s.aspectRatios.getD i 0),
    s.scales.getD i 0 * sqrt (s.aspectRatios.getD i 0))) fun i hi => ?_, by simp⟩
  have hi : i < s.aspectRatios.length := List.mem_range.mp hi
  have hi' : i < s.scales.length := h ▸ hi
  simp [hi, hi']

/-- The iteration for the layers of one stride. -/
theorem generateLoop_layer (sqrt : Rat → Rat) (fuel layerId : Nat) (ret : List Anchor)
    (s : SameStride) (stride : Int) (hlayer : layerId < kNumLayers)
    (hs : mergeLayers sqrt layerId (kStridesSize + 1) ⟨layerId, [], []⟩ = some s)
    (hlen : s.aspectRatios.length = s.scales.length) (hstride : kStrides[layerId]? = some stride) :
    generateLoop sqrt (fuel + 1) layerId ret =
      generateLoop sqrt fuel s.lastSameStrideLayer
        (ret ++ gridAnchors (featureMapSize 128 stride) (featureMapSize 128 stride)
          s.aspectRatios.length) := by
  obtain ⟨sizes, hsizes, hcount⟩ := anchorSizes_length sqrt s hlen
  rw [generateLoop, if_pos hlayer, hs, Option.bind_eq_bind, Option.bind_some, hsizes,
    Option.bind_eq_bind, Option.bind_some, hstride, ← hcount]
  rfl

/-- Two grids: the first layer alone, and the other three merged. -/
theorem generateSSDAnchors_eq (sqrt : Rat → Rat) :
    generateSSDAnchors sqrt = some (gridAnchors 16 16 2 ++ gridAnchors 8 8 6) := by
  have height : featureMapSize 128 8 = 16 := by decide +kernel
  have hsixteen : featureMapSize 128 16 = 8 := by decide +kernel
  have hfirst := generateLoop_layer sqrt 4 0 [] _ 8 (by decide) rfl rfl rfl
  have hsecond := generateLoop_layer sqrt 3 1 (gridAnchors 16 16 2) _ 16 (by decide) rfl rfl rfl
  rw [height] at hfirst
  rw [hsixteen] at hsecond
  calc generateSSDAnchors sqrt
      = generateLoop sqrt 4 1 (gridAnchors 16 16 2) := hfirst
    _ = generateLoop sqrt 3 4 (gridAnchors 16 16 2 ++ gridAnchors 8 8 6) := hsecond
    _ = some (gridAnchors 16 16 2 ++ gridAnchors 8 8 6) := rfl

/-- The centre of a cell of a square grid, with the cells counted row by row. -/
def cellCentre (size cell : Nat) : Rat × Rat :=
  (((cell % size : Nat) + 1 / 2) / size, ((cell / size : Nat) + 1 / 2) / size)

/-- The cell an anchor belongs to. -/
def anchorCentre (i : Nat) : Rat × Rat :=
  if i < 512 then cellCentre 16 (i / 2) else cellCentre 8 ((i - 512) / 6)

theorem newAnchor_eq (size cell : Nat) :
    newAnchor size size (cell / size) (cell % size) =
      ⟨(cellCentre size cell).1, (cellCentre size cell).2, 1, 1⟩ := by
  simp only [newAnchor, cellCentre, kAnchorOffsetX, kAnchorOffsetY, mul_one]

theorem getElem?_anchors (i : Nat) (hi : i < 896) :
    (gridAnchors 16 16 2 ++ gridAnchors 8 8 6)[i]? =
      some ⟨(anchorCentre i).1, (anchorCentre i).2, 1, 1⟩ := by
  have hlen : (gridAnchors 16 16 2).length = 512 := length_gridAnchors 16 16 2
  unfold anchorCentre
  split_ifs with hlt
  · rw [List.getElem?_append_left (by omega), getElem?_gridAnchors 16 16 2 i (by omega), newAnchor_eq]
  · rw [List.getElem?_append_right (by omega), hlen,
      getElem?_gridAnchors 8 8 6 (i - 512) (by omega), newAnchor_eq]

end Sprefence.FaceDetect

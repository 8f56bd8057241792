import Sprefence.Detector.Centers

/-! The samples that `find_skin_center` looks at. A row of the frame has 640 bytes
with a chroma sample every four, but the loop takes a row for 1280 bytes: it
leaves out every second row and runs out of the buffer after the first half of
its rows. -/

namespace Sprefence.DiffDitect

open Centroid Loops

/-- The offset of the chroma sample `j` of row `i` in a UYVY frame. -/
def sampleOffset (i j : Nat) : Nat := 2 * (yWidth * i + 2 * j)

/-- The offsets that the loop visits, in its order. -/
def skinVisits : List Nat :=
  (List.range uvHeight).flatMap fun i => (List.range uvWidth).map (skinOffset i)

/-- The sums over the chroma samples of the frame. -/
def sampleSums (pic cam : Frame) : Sums :=
  total (fun i j => skinDistance (cam.byte (sampleOffset i j)) (cam.byte (sampleOffset i j + 2))
    (pic.byte (sampleOffset i j)) (pic.byte (sampleOffset i j + 2))) uvHeight uvWidth

/-- The centre of the changed skin. -/
def skinCenter (pic cam : Frame) : Int × Int :=
  let s := sampleSums pic cam
  if s.weight = 0 then (-1, -1) else (2 * (s.xSum / s.weight), s.ySum / s.weight)

/-- What `find_skin_center` is for, in exact arithmetic. -/
structure SkinSpec (pic cam : Frame) : Prop where
  inside : (findSkinCenter Exact pic.memory cam.memory).isSome = true
  once : ∀ i < uvHeight, ∀ j < uvWidth, skinVisits.count (sampleOffset i j) = 1
  result : findSkinCenter Exact pic.memory cam.memory = some (skinCenter pic cam)

theorem mem_skinVisits (k : Nat) :
    k ∈ skinVisits ↔ ∃ i < uvHeight, ∃ j < uvWidth, skinOffset i j = k := by
  simp [skinVisits]

/-- The loop visits the samples of the even rows, and behind the last row goes on
as if there were more of them. -/
theorem skinOffset_eq (i j : Nat) : skinOffset i j = sampleOffset (2 * i) j := by
  unfold skinOffset sampleOffset
  ring

/-- No sample of an odd row is visited. -/
theorem not_mem_skinVisits_odd (i j : Nat) (hj : j < uvWidth) :
    sampleOffset (2 * i + 1) j ∉ skinVisits := by
  rw [mem_skinVisits]
  rintro ⟨a, -, b, hb, heq⟩
  unfold skinOffset sampleOffset yWidth at heq
  unfold uvWidth at hj hb
  omega

/-- The rows from 120 on read behind the frame. -/
theorem skinBody_eq_none (R : Int → Prop) [DecidablePred R] (pic : Memory) (cam : Frame)
    (i j : Nat) (hi : 120 ≤ i) (s : Sums) : skinBody R pic cam.memory i j s = none := by
  have hk : fSize ≤ skinOffset i j := by
    unfold fSize skinOffset yWidth
    omega
  rw [skinBody, cam.memory_eq_none _ hk]
  rfl

/-- `find_skin_center` leaves the buffer for all frames. -/
theorem findSkinCenter_eq_none (R : Int → Prop) [DecidablePred R] (pic : Memory) (cam : Frame) :
    findSkinCenter R pic cam.memory = none := by
  have hloop : forLoop uvHeight (fun i => forLoop uvWidth (skinBody R pic cam.memory i))
      Sums.zero = none := by
    by_contra h
    obtain ⟨s, hs⟩ := Option.ne_none_iff_exists'.mp h
    obtain ⟨a, b, hrow⟩ := exists_body_of_forLoop hs 120 (by decide)
    obtain ⟨c, d, hbody⟩ := exists_body_of_forLoop hrow 0 (by decide)
    rw [skinBody_eq_none R pic cam 120 0 (le_refl 120)] at hbody
    cases hbody
  rw [findSkinCenter, hloop]
  rfl

theorem not_skinSpec (pic cam : Frame) : ¬ SkinSpec pic cam := by
  intro h
  have hinside := h.inside
  rw [findSkinCenter_eq_none] at hinside
  cases hinside

/-- With memory that can be read behind the frames, it reports the centre of the
even rows and of what follows the frames. -/
theorem findSkinCenter_exact (p c : Nat → UInt8) :
    findSkinCenter Exact (fun k => some (p k)) (fun k => some (c k)) =
      let s := total (fun i j => skinDistance (c (sampleOffset (2 * i) j))
        (c (sampleOffset (2 * i) j + 2)) (p (sampleOffset (2 * i) j))
        (p (sampleOffset (2 * i) j + 2))) uvHeight uvWidth
      some (if s.weight ≤ 0 then (-1, -1)
        else (s.xSum.tdiv s.weight * 2, s.ySum.tdiv s.weight)) := by
  have hsums : skinSums p c = total (fun i j => skinDistance (c (sampleOffset (2 * i) j))
      (c (sampleOffset (2 * i) j + 2)) (p (sampleOffset (2 * i) j))
      (p (sampleOffset (2 * i) j + 2))) uvHeight uvWidth :=
    total_congr _ _ _ _ fun i _ j _ => by rw [skinWeight, skinOffset_eq]
  rw [findSkinCenter_eq Exact isRange_exact, if_pos ⟨trivial, trivial, trivial⟩, hsums]

/-- No picture and frame meet the specification, in any of its parts. -/
theorem skin_spec_never (pic cam : Frame) :
    ¬ SkinSpec pic cam ∧
      (findSkinCenter Exact pic.memory cam.memory).isSome = false ∧
      ∀ i < uvHeight, ∀ j < uvWidth, i % 2 = 1 → skinVisits.count (sampleOffset i j) = 0 := by
  refine ⟨not_skinSpec pic cam, ?_, fun i _ j hj hodd => ?_⟩
  · rw [findSkinCenter_eq_none]
    rfl
  · have hi : i = 2 * (i / 2) + 1 := by omega
    rw [hi]
    exact List.count_eq_zero.mpr (not_mem_skinVisits_odd (i / 2) j hj)

def blackFrame : Frame := ⟨List.replicate fSize 0, List.length_replicate⟩

/-- The specification does not hold for a black picture and a black frame. -/
theorem black_frame_not_skin_spec :
    ¬ SkinSpec blackFrame blackFrame ∧
      findSkinCenter Exact blackFrame.memory blackFrame.memory = none :=
  ⟨not_skinSpec blackFrame blackFrame, findSkinCenter_eq_none Exact blackFrame.memory blackFrame⟩

end Sprefence.DiffDitect

import Mathlib.Tactic.Linarith
import Mathlib.Tactic.NormNum
import Sprefence.Face.Main

/-! The crop types that the `face_detect` loop chooses: whether the provider can
make the crop, whether the crop shows the face that was just found, and
whether the whole frame is scanned after a face was lost. -/

namespace Sprefence.FaceDetect

open Runs

/-! ## The types as numbers -/

theorem floor_clamp (u : Rat) (n : Int) (hn : 0 ≤ n) :
    ⌊if (if u < 0 then 0 else u) > (n : Rat) then (n : Rat) else if u < 0 then 0 else u⌋ =
      max 0 (min n ⌊u⌋) := by
  have hn' : (0 : Rat) ≤ n := Int.cast_nonneg hn
  by_cases hneg : u < 0
  · have hu : ⌊u⌋ < 0 := Int.floor_lt.mpr (by simpa using hneg)
    rw [if_pos hneg, if_neg (not_lt.mpr hn'), Int.floor_zero]
    omega
  · have hu : 0 ≤ ⌊u⌋ := Int.floor_nonneg.mpr (not_lt.mp hneg)
    rw [if_neg hneg]
    split_ifs with hbig
    · have : n ≤ ⌊u⌋ := Int.le_floor.mpr hbig.le
      rw [Int.floor_intCast]
      omega
    · have : ⌊u⌋ ≤ n := by
        have := Int.floor_le u
        exact_mod_cast this.trans (not_lt.mp hbig)
      omega

/-- The row and the column of the small-face grid. -/
theorem gridType_eq (x y : Rat) :
    gridType x y = max 0 (min 3 ⌊y * 3⌋) * 4 + max 0 (min 4 ⌊x * 4⌋) := by
  have hx := floor_clamp (x * 4) 4 (by decide)
  have hy := floor_clamp (y * 3) 3 (by decide)
  push_cast at hx hy
  unfold gridType
  dsimp only
  rw [hx, hy]

theorem halfType_mem (beforeX : Rat) : 0 ≤ halfType beforeX ∧ halfType beforeX ≤ 2 := by
  unfold halfType
  split_ifs <;> decide

/-! ## Every crop is made -/

/-- The provider accepts the type, and its rectangle lies in the frame. -/
def TypeOk (type : Int) : Prop := ∃ cv ∈ getFaceImage type, cv.clipRect.InFrame

instance (type : Int) : Decidable (TypeOk type) :=
  inferInstanceAs (Decidable (∃ cv ∈ getFaceImage type, cv.clipRect.InFrame))

theorem getFaceImage_eq_none (type : Int) (h : type < 0 ∨ 15 < type) :
    getFaceImage type = none := by
  simp only [getFaceImage, convertImage3_15]
  rw [if_neg (by omega), if_neg (by omega), if_neg (by omega), if_pos (by omega)]

/-- The type 15 is accepted, but its rectangle reaches beyond the frame. -/
theorem typeOk_iff (type : Int) : TypeOk type ↔ 0 ≤ type ∧ type ≤ 14 := by
  constructor
  · intro hok
    by_contra hrange
    by_cases h15 : type = 15
    · subst h15
      revert hok
      decide
    · obtain ⟨cv, hcv, -⟩ := hok
      rw [getFaceImage_eq_none type (by omega)] at hcv
      cases hcv
  · rintro ⟨hlo, hhi⟩
    have hall : ∀ t : Fin 15, TypeOk t.val := by decide
    have h := hall ⟨type.toNat, by omega⟩
    rwa [Int.toNat_of_nonneg hlo] at h

/-- A small face that is reported below the frame and in its right quarter or
beyond. -/
def Report.BeyondGrid (r : Report) : Prop :=
  0 ≤ r.boxSize ∧ r.boxSize < 55 / 100 ∧ 3 / 4 ≤ r.x ∧ 1 ≤ r.y

theorem typeOk_gridType_iff (x y : Rat) : TypeOk (gridType x y) ↔ ¬ (3 / 4 ≤ x ∧ 1 ≤ y) := by
  have hcol : 3 ≤ ⌊x * 4⌋ ↔ 3 / 4 ≤ x := by
    rw [Int.le_floor]
    push_cast
    constructor <;> intro h <;> linarith
  have hrow : 3 ≤ ⌊y * 3⌋ ↔ 1 ≤ y := by
    rw [Int.le_floor]
    push_cast
    constructor <;> intro h <;> linarith
  rw [typeOk_iff, gridType_eq, ← hcol, ← hrow]
  omega

/-- The state of the loop keeps to the values in its comment. -/
def State.Ok (s : State) : Prop := -1 ≤ s.state ∧ s.state ≤ 2

theorem ok_iterate (s : State) (r : Report) (hs : s.Ok) : (iterate s r).Ok := by
  unfold State.Ok at hs ⊢
  by_cases hr : r.boxSize < 0
  · rw [(iterate_notFound s r hr).1]
    split_ifs
    · exact hs
    · rw [Int.tmod_eq_emod_of_nonneg (by omega)]
      omega
  · rw [(iterate_found s r hr).1]
    decide

/-- Of all reports only one beyond the grid leads to a type that is not ok. -/
theorem typeOk_iterate_iff (s : State) (hs : s.Ok) (r : Report) :
    TypeOk (iterate s r).nextType ↔ ¬ r.BeyondGrid := by
  obtain ⟨hlo, hhi⟩ := hs
  have hhalf : TypeOk (halfType s.x) := by
    have := halfType_mem s.x
    exact (typeOk_iff _).mpr (by omega)
  unfold Report.BeyondGrid
  by_cases hr : r.boxSize < 0
  · rw [(iterate_notFound s r hr).2]
    refine iff_of_true ?_ (fun h => absurd h.1 (not_le.mpr hr))
    split_ifs
    · exact hhalf
    · rw [Int.tmod_eq_emod_of_nonneg (by omega)]
      exact (typeOk_iff _).mpr (by omega)
  · rw [(iterate_found s r hr).2]
    have hfound := not_lt.mp hr
    split_ifs with hsmall
    · rw [typeOk_gridType_iff]
      simp only [hfound, hsmall, true_and]
    · exact iff_of_true hhalf (fun h => hsmall h.2.1)

theorem ok_run (rs : List Report) : (run iterate State.init rs).Ok :=
  run_invariant iterate State.Ok ok_iterate State.init ⟨by decide, by decide⟩ rs

/-- The types passed to `FaceLoop` in a run, the one for the call after the last
report included, are all ok exactly when no report is beyond the grid. -/
theorem types_ok_iff (rs : List Report) :
    (∀ pre, pre <+: rs → TypeOk (run iterate State.init pre).nextType) ↔
      ∀ r ∈ rs, ¬ r.BeyondGrid := by
  constructor
  · intro h r hr
    obtain ⟨pre, post, rfl⟩ := List.append_of_mem hr
    have hok := h (pre ++ [r]) ⟨post, by simp⟩
    rw [run_append] at hok
    exact (typeOk_iterate_iff _ (ok_run pre) r).mp hok
  · intro h pre hpre
    rcases List.eq_nil_or_concat pre with rfl | ⟨pre, r, rfl⟩
    · exact (typeOk_iff 0).mpr (by decide)
    · have hr : r ∈ rs := hpre.subset (by simp)
      rw [List.concat_eq_append, run_append]
      exact (typeOk_iterate_iff _ (ok_run pre) r).mpr (h r hr)

/-- A report at the right bottom corner leads to the type 16, which the provider
rejects, and one a little to the left to a rectangle that ends 56 rows below
the frame. -/
theorem corner_type_not_ok :
    ¬ TypeOk (run iterate State.init [⟨1, 1, 1 / 10⟩]).nextType ∧
      getFaceImage (run iterate State.init [⟨1, 1, 1 / 10⟩]).nextType = none ∧
      (getFaceImage (run iterate State.init [⟨9 / 10, 1, 1 / 10⟩]).nextType).map
        Conversion.clipRect = some ⟨0, 168, 127, 295⟩ := by
  decide +kernel

/-! ## The found face stays in view -/

/-- The crop of the type shows the point of the frame. -/
def InView (type : Int) (x y : Rat) : Prop :=
  ∃ cv ∈ getFaceImage type, cv.clipRect.Contains (320 * x) (240 * y)

instance (type : Int) (x y : Rat) : Decidable (InView type x y) :=
  inferInstanceAs (Decidable (∃ cv ∈ getFaceImage type, cv.clipRect.Contains (320 * x) (240 * y)))

/-- Where the grid's crop shows the face. The first row uses the half resolution
types, so that only the margin of the centre crop and the last column are
lost; in the other rows the types are three too small. -/
def GridShows (px py : Rat) : Prop :=
  px < 240 ∧ ((py < 80 ∧ 32 ≤ px) ∨
    ((80 ≤ py ∧ py < 128 ∨ 160 ≤ py ∧ py < 184) ∧
      (64 ≤ px ∧ px < 80 ∨ 128 ≤ px ∧ px < 160 ∨ 192 ≤ px)))

/-- Where the half resolution crop chosen for `beforeX` shows the face. -/
def HalfShows (beforeX px : Rat) : Prop :=
  if beforeX < 33 / 100 then px < 256
  else if beforeX < 67 / 100 then 32 ≤ px ∧ px < 288
  else 64 ≤ px

theorem inView_iff (type : Int) (r : Rect)
    (h : (getFaceImage type).map Conversion.clipRect = some r) (x y : Rat) :
    InView type x y ↔ r.Contains (320 * x) (240 * y) := by
  obtain ⟨cv, hcv, rfl⟩ := Option.map_eq_some_iff.mp h
  simp [InView, hcv]

section InFrame

variable {x y : Rat} (hx : 0 ≤ x ∧ x < 1) (hy : 0 ≤ y ∧ y < 1)
include hx hy

theorem inView_halfType_iff (beforeX : Rat) :
    InView (halfType beforeX) x y ↔ HalfShows beforeX (320 * x) := by
  obtain ⟨hx0, hx1⟩ := hx
  obtain ⟨hy0, hy1⟩ := hy
  unfold halfType HalfShows
  split_ifs
  · rw [inView_iff 1 ⟨0, 0, 255, 239⟩ rfl]
    norm_num [Rect.Contains]
    grind
  · rw [inView_iff 0 ⟨32, 0, 287, 239⟩ rfl]
    norm_num [Rect.Contains]
    grind
  · rw [inView_iff 2 ⟨64, 0, 319, 239⟩ rfl]
    norm_num [Rect.Contains]
    grind

theorem inView_gridType_iff : InView (gridType x y) x y ↔ GridShows (320 * x) (240 * y) := by
  obtain ⟨hx0, hx1⟩ := hx
  obtain ⟨hy0, hy1⟩ := hy
  obtain ⟨col, hcol⟩ : ∃ col : Int, ⌊x * 4⌋ = col := ⟨_, rfl⟩
  obtain ⟨row, hrow⟩ : ∃ row : Int, ⌊y * 3⌋ = row := ⟨_, rfl⟩
  have hcol' := Int.floor_eq_iff.mp hcol
  have hrow' := Int.floor_eq_iff.mp hrow
  have hc0 : 0 ≤ col := by
    rw [← hcol]
    exact Int.floor_nonneg.mpr (by linarith)
  have hr0 : 0 ≤ row := by
    rw [← hrow]
    exact Int.floor_nonneg.mpr (by linarith)
  have hc3 : col < 4 := by
    rw [← hcol]
    exact Int.floor_lt.mpr (by push_cast; linarith)
  have hr2 : row < 3 := by
    rw [← hrow]
    exact Int.floor_lt.mpr (by push_cast; linarith)
  have htype : gridType x y = row * 4 + col := by
    rw [gridType_eq, hcol, hrow]
    omega
  rw [htype]
  unfold GridShows
  -- the twelve cells, each with the rectangle of its type
  interval_cases row <;> interval_cases col
  all_goals
    rw [inView_iff _ _ rfl]
    simp only [Rect.Contains, convertImage0, convertImage1, convertImage2, sampleWidth,
      sampleHeight, faceImageWidth, faceImageHeight] at hcol' hrow' ⊢
    push_cast at hcol' hrow' ⊢
    grind

end InFrame

/-- In every state, the crop chosen after a face was found shows its centre
exactly where the grid or, for a large face, the half resolution crop for the
position before does. -/
theorem tracking_iff (s : State) (r : Report) (hx : 0 ≤ r.x ∧ r.x < 1) (hy : 0 ≤ r.y ∧ r.y < 1)
    (hfound : 0 ≤ r.boxSize) :
    InView (iterate s r).nextType r.x r.y ↔
      if r.boxSize < 55 / 100 then GridShows (320 * r.x) (240 * r.y)
      else HalfShows s.x (320 * r.x) := by
  rw [(iterate_found s r (not_lt.mpr hfound)).2]
  split_ifs
  · exact inView_gridType_iff hx hy
  · exact inView_halfType_iff hx hy s.x

theorem tracking_top_middle :
    InView (iterate State.init ⟨1 / 2, 1 / 10, 1 / 10⟩).nextType (1 / 2) (1 / 10) :=
  (tracking_iff State.init ⟨1 / 2, 1 / 10, 1 / 10⟩ (by decide +kernel) (by decide +kernel)
    (by decide +kernel)).mpr (by
      rw [if_pos (by decide +kernel)]
      exact ⟨by norm_num, .inl ⟨by norm_num, by norm_num⟩⟩)

/-- A small face at the right top is followed by the crop 3 at the left. -/
theorem right_top_face_lost :
    (iterate State.init ⟨9 / 10, 1 / 10, 1 / 10⟩).nextType = 3 ∧
      ¬ InView (iterate State.init ⟨9 / 10, 1 / 10, 1 / 10⟩).nextType (9 / 10) (1 / 10) := by
  decide +kernel

/-! ## The search after a face was lost -/

/-- The types with which `FaceLoop` is called in a run. -/
def typesUsed : State → List Report → List Int
  | _, [] => []
  | s, r :: rs => s.nextType :: typesUsed (iterate s r) rs

/-- From the third iteration on, any three in a row use the three half
resolution crops once each. -/
def ScansFrame (types : List Int) : Prop :=
  ∀ i, 2 ≤ i → i + 3 ≤ types.length → ((types.drop i).take 3).Perm [0, 1, 2]

/-- The search runs: its types are 1, 2 and 3. -/
def Searching (s : State) : Prop := 0 ≤ s.state ∧ s.state ≤ 2 ∧ s.nextType = s.state + 1

theorem length_typesUsed (s : State) (rs : List Report) :
    (typesUsed s rs).length = rs.length := by
  induction rs generalizing s with
  | nil => rfl
  | cons r rs ih => simp only [typesUsed, List.length_cons, ih]

/-- Without a face the search goes on with the next state. -/
theorem searching_iterate (s : State) (hs : Searching s) (r : Report) (hr : r.boxSize < 0) :
    Searching (iterate s r) ∧ (iterate s r).state = (s.state + 1) % 3 := by
  obtain ⟨hlo, hhi, -⟩ := hs
  obtain ⟨hstate, htype⟩ := iterate_notFound s r hr
  rw [if_neg (by omega), Int.tmod_eq_emod_of_nonneg (by omega)] at hstate htype
  exact ⟨⟨by omega, by omega, by rw [htype, hstate]⟩, hstate⟩

/-- Two iterations without a face start the search, whatever was before. -/
theorem searching_of_two (s : State) (hs : s.Ok) (r r' : Report) (hr : r.boxSize < 0)
    (hr' : r'.boxSize < 0) : Searching (iterate (iterate s r) r') := by
  obtain ⟨hlo, hhi⟩ := hs
  obtain ⟨hstate, htype⟩ := iterate_notFound s r hr
  obtain ⟨hstate', htype'⟩ := iterate_notFound (iterate s r) r' hr'
  have hhalf := halfType_mem s.x
  -- the first iteration may only go back to half resolution
  have hnot : ¬ ((iterate s r).state < 0 ∧ (iterate s r).nextType > 2) := by
    rw [hstate, htype]
    split_ifs
    · omega
    · rw [Int.tmod_eq_emod_of_nonneg (by omega)]
      omega
  have hge : -1 ≤ (iterate s r).state ∧ (iterate s r).state ≤ 2 := by
    rw [hstate]
    split_ifs
    · omega
    · rw [Int.tmod_eq_emod_of_nonneg (by omega)]
      omega
  rw [if_neg hnot, Int.tmod_eq_emod_of_nonneg (by omega)] at hstate' htype'
  exact ⟨by omega, by omega, by rw [htype', hstate']⟩

/-- Three types of the search in a row contain the type 3, a crop of the left
top corner in full resolution. -/
theorem three_mem_of_searching (s : State) (hs : Searching s) (r₁ r₂ : Report)
    (h₁ : r₁.boxSize < 0) (h₂ : r₂.boxSize < 0) :
    3 ∈ [s.nextType, (iterate s r₁).nextType, (iterate (iterate s r₁) r₂).nextType] := by
  obtain ⟨hs₁, hstate₁⟩ := searching_iterate s hs r₁ h₁
  obtain ⟨hs₂, hstate₂⟩ := searching_iterate _ hs₁ r₂ h₂
  obtain ⟨hlo, hhi, htype⟩ := hs
  rw [htype, hs₁.2.2, hs₂.2.2, hstate₂, hstate₁]
  simp only [List.mem_cons, List.not_mem_nil, or_false]
  omega

/-- After any run, a streak of iterations without a face scans the frame exactly
if it is too short for three iterations from the third on. -/
theorem search_scans_iff (before : List Report) (streak : List Report)
    (hlost : ∀ r ∈ streak, r.boxSize < 0) :
    ScansFrame (typesUsed (run iterate State.init before) streak) ↔ streak.length < 5 := by
  constructor
  · intro hscan
    by_contra hlong
    rcases streak with _ | ⟨r₁, _ | ⟨r₂, _ | ⟨r₃, _ | ⟨r₄, _ | ⟨r₅, rest⟩⟩⟩⟩⟩
    all_goals simp at hlong
    have hsearch := searching_of_two _ (ok_run before) r₁ r₂ (hlost _ (by simp))
      (hlost _ (by simp))
    have hmem := three_mem_of_searching _ hsearch r₃ r₄ (hlost _ (by simp)) (hlost _ (by simp))
    have hperm := hscan 2 (le_refl 2) (by rw [length_typesUsed]; simp)
    have h3 := hperm.subset hmem
    revert h3
    decide
  · intro hshort i hi hlen
    rw [length_typesUsed] at hlen
    omega

/-- A large face in the middle is found, and then none in five frames. -/
theorem search_scans_after_face :
    ¬ ScansFrame (typesUsed (run iterate State.init [⟨1 / 2, 1 / 2, 3 / 5⟩])
      (List.replicate 5 .noFace)) := by
  rw [search_scans_iff _ _ (by decide +kernel)]
  decide

/-- A face that is not found from the start: the third to fifth iterations use
the crops 2, 3 and 1, and the centre is left out. -/
theorem centre_not_scanned :
    typesUsed State.init (List.replicate 5 .noFace) = [0, 1, 2, 3, 1] ∧
      ¬ ScansFrame (typesUsed State.init (List.replicate 5 .noFace)) := by
  have htypes : typesUsed State.init (List.replicate 5 .noFace) = [0, 1, 2, 3, 1] := by
    decide +kernel
  refine ⟨htypes, fun h => ?_⟩
  have hperm := h 2 (le_refl 2) (by decide)
  rw [htypes] at hperm
  revert hperm
  decide

end Sprefence.FaceDetect

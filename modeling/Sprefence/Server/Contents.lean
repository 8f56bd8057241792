import Sprefence.Lib.Replace
import Sprefence.Server.Run

/-! The listing of the contents directory in the constructor of `WebServer`. The
leading `contents` of a path is taken off by a replacement in the whole path, and
`Run` puts it back in front of a requested path. -/

namespace Sprefence.WebServer

open Replace

/-! ## The code -/

/-- The name of a file or a directory. -/
structure FileName where
  chars : List Char
  chars_ne_nil : chars ≠ []
  backslash_not_mem : '\\' ∉ chars
  slash_not_mem : '/' ∉ chars

/-- A file under `contents`: the directories on the way and its own name. -/
structure ContentFile where
  directories : List FileName
  name : FileName

def ContentFile.parts (f : ContentFile) : List (List Char) :=
  (f.directories ++ [f.name]).map FileName.chars

def contents : List Char := "contents".toList

/-- What `Directory.GetFiles` returns for the file. -/
def ContentFile.path (f : ContentFile) : List Char := contents ++ joined '\\' f.parts

/-- `p.Replace("contents", "")` and then `p.Replace("\\", "/")`. -/
def listed (p : List Char) : List Char := replaceAll ['\\'] ['/'] (replaceAll contents [] p)

/-- `m_contents` as the constructor sets it. -/
def listing (files : List ContentFile) : List String :=
  files.map fun f => String.ofList (listed f.path)

/-! ## Listed paths -/

/-- Both separators are the same to the file system. -/
def slashed (p : List Char) : List Char := p.map fun c => if c = '\\' then '/' else c

/-- `File.ReadAllBytes` with this path reads the file. -/
def ContentFile.Named (f : ContentFile) (p : List Char) : Prop := slashed p = slashed f.path

/-- Every listed path leads to its file, no two files share one, and what matches
`m_contents` can be read. -/
structure LeadsBack (files : List ContentFile) : Prop where
  named : ∀ f ∈ files, f.Named (contents ++ listed f.path)
  distinct : ∀ f ∈ files, ∀ g ∈ files, listed f.path = listed g.path → f = g
  readable : ∀ p ∈ listing files, ∃ f ∈ files, f.Named (contents ++ p.toList)

theorem slashed_append (p q : List Char) : slashed (p ++ q) = slashed p ++ slashed q :=
  List.map_append

theorem slashed_slashed (p : List Char) : slashed (slashed p) = slashed p := by
  simp only [slashed, List.map_map]
  refine List.map_congr_left fun c _ => ?_
  simp only [Function.comp_apply]
  split_ifs with h h'
  · cases h'
  · rfl
  · rfl

theorem slashed_of_not_mem {p : List Char} (h : '\\' ∉ p) : slashed p = p := by
  have hid : ∀ c ∈ p, (if c = '\\' then '/' else c) = id c := by
    intro c hc
    have hne : c ≠ '\\' := fun heq => h (heq ▸ hc)
    exact if_neg hne
  rw [slashed, List.map_congr_left hid, List.map_id]

theorem slashed_joined (parts : List (List Char)) (h : ∀ a ∈ parts, '\\' ∉ a) :
    slashed (joined '\\' parts) = joined '/' parts := by
  induction parts with
  | nil => rfl
  | cons a parts ih =>
    have ha := slashed_of_not_mem (h a List.mem_cons_self)
    have hparts := ih fun b hb => h b (List.mem_cons_of_mem _ hb)
    rw [joined_cons, joined_cons, ← hparts]
    exact congrArg ('/' :: ·) ((slashed_append _ _).trans (by rw [ha]))

theorem contents_ne_nil : contents ≠ [] := by decide

theorem listed_path (f : ContentFile) :
    listed f.path = slashed (replaceAll contents [] (joined '\\' f.parts)) := by
  rw [listed, ContentFile.path, replaceAll_append [] _ contents_ne_nil, List.nil_append,
    replaceAll_singleton]
  rfl

namespace ContentFile

variable (f : ContentFile)

theorem not_mem_of_mem_parts {a : List Char} (ha : a ∈ f.parts) : '\\' ∉ a ∧ '/' ∉ a := by
  obtain ⟨n, -, rfl⟩ := List.mem_map.mp ha
  exact ⟨n.backslash_not_mem, n.slash_not_mem⟩

theorem infix_joined_parts_iff :
    contents <:+: joined '\\' f.parts ↔ ∃ a ∈ f.parts, contents <:+: a :=
  infix_joined_iff (by decide) contents_ne_nil f.parts

/-- The listed path leads back exactly if nothing but the front was taken off. -/
theorem named_listed_iff :
    f.Named (contents ++ listed f.path) ↔ ¬ contents <:+: joined '\\' f.parts := by
  rw [Named, listed_path, path, slashed_append, slashed_append, slashed_slashed,
    List.append_cancel_left_eq]
  constructor
  · intro heq hinfix
    have hlt := length_replaceAll_lt contents_ne_nil _ hinfix
    have hlen := congrArg List.length heq
    simp only [slashed, List.length_map] at hlen
    omega
  · intro h
    rw [replaceAll_of_absent [] _ h]

theorem listed_eq_joined (h : ¬ contents <:+: joined '\\' f.parts) :
    listed f.path = joined '/' f.parts := by
  rw [listed_path, replaceAll_of_absent [] _ h,
    slashed_joined _ fun a ha => (f.not_mem_of_mem_parts ha).1]

theorem eq_of_parts_eq {f g : ContentFile} (h : f.parts = g.parts) : f = g := by
  have hinj : Function.Injective FileName.chars := by
    rintro ⟨c, _, _, _⟩ ⟨c', _, _, _⟩ (rfl : c = c')
    rfl
  have hnames := List.map_injective_iff.mpr hinj h
  obtain ⟨hdirectories, hname⟩ := List.append_inj' hnames rfl
  cases f
  cases g
  cases hdirectories
  cases hname
  rfl

end ContentFile

/-- The listed paths lead back to their files exactly if no file or directory has
`contents` in its own name. -/
theorem contents_lead_back_iff (files : List ContentFile) :
    LeadsBack files ↔ ∀ f ∈ files, ∀ a ∈ f.parts, ¬ contents <:+: a := by
  have hclean : ∀ f : ContentFile, ¬ contents <:+: joined '\\' f.parts ↔
      ∀ a ∈ f.parts, ¬ contents <:+: a := by
    intro f
    rw [f.infix_joined_parts_iff]
    push Not
    rfl
  simp only [← hclean]
  constructor
  · exact fun h f hf => f.named_listed_iff.mp (h.named f hf)
  · intro h
    refine ⟨fun f hf => f.named_listed_iff.mpr (h f hf), fun f hf g hg heq => ?_, fun p hp => ?_⟩
    · rw [f.listed_eq_joined (h f hf), g.listed_eq_joined (h g hg)] at heq
      exact ContentFile.eq_of_parts_eq (joined_inj (fun a ha => (f.not_mem_of_mem_parts ha).2)
        (fun a ha => (g.not_mem_of_mem_parts ha).2) heq)
    · obtain ⟨f, hf, rfl⟩ := List.mem_map.mp hp
      refine ⟨f, hf, ?_⟩
      rw [String.toList_ofList]
      exact f.named_listed_iff.mpr (h f hf)

/-! ## A directory with the word in its name -/

/-- `contents\my_contents\a.html`. -/
def innerFile : ContentFile where
  directories := [⟨"my_contents".toList, by decide, by decide, by decide⟩]
  name := ⟨"a.html".toList, by decide, by decide, by decide⟩

/-- `contents\my_\a.html`. -/
def otherFile : ContentFile where
  directories := [⟨"my_".toList, by decide, by decide, by decide⟩]
  name := ⟨"a.html".toList, by decide, by decide, by decide⟩

/-- The directory's own name is cut, the path leads to no file, and if the file with
the cut name is there, the two share their path. -/
theorem inner_contents_cut :
    listing [innerFile] = ["/my_/a.html"] ∧
      ¬ (∃ f ∈ [innerFile], f.Named (contents ++ "/my_/a.html".toList)) ∧
      listed innerFile.path = listed otherFile.path ∧ innerFile ≠ otherFile ∧
      ¬ LeadsBack [innerFile] ∧ ¬ LeadsBack [innerFile, otherFile] := by
  have hinner : listed innerFile.path = "/my_/a.html".toList := by decide
  have hother : listed otherFile.path = "/my_/a.html".toList := by decide
  have hne : innerFile ≠ otherFile := by
    intro heq
    have hparts := congrArg ContentFile.parts heq
    revert hparts
    decide
  have hnamed : ¬ innerFile.Named (contents ++ "/my_/a.html".toList) := by
    unfold ContentFile.Named
    decide
  refine ⟨by simp [listing, hinner], ?_, hinner.trans hother.symm, hne, fun h => ?_, fun h => ?_⟩
  · rintro ⟨f, hf, hread⟩
    rw [List.mem_singleton.mp hf] at hread
    exact hnamed hread
  · exact hnamed (hinner ▸ h.named innerFile List.mem_cons_self)
  · exact hne (h.distinct innerFile (by simp) otherFile (by simp) (hinner.trans hother.symm))

end Sprefence.WebServer

import Mathlib.Data.List.Basic
import Mathlib.Data.List.Infix
import Mathlib.Tactic.Common

/-! Byte buffers as C code handles them: string literals, `strncmp`, and the
calls that copy bytes to the start of a buffer and leave its tail alone. A
list that ends stands for a string that is terminated there. -/

namespace CBytes

/-- The bytes of an ASCII literal, without the terminating NUL. -/
def ascii (s : String) : List UInt8 := s.toList.map fun c => UInt8.ofNat c.toNat

/-- `strncmp`: zero when the first `n` bytes agree or agree up to a NUL, and
otherwise the difference of the first two bytes that do not. -/
def strncmp : List UInt8 → List UInt8 → Nat → Int
  | _, _, 0 => 0
  | cs, ct, n + 1 =>
    if cs.headD 0 = ct.headD 0 then
      if cs.headD 0 = 0 then 0 else strncmp cs.tail ct.tail n
    else (cs.headD 0).toNat - (ct.headD 0).toNat

/-- Copy `data` to the start of `buf`; the bytes behind it keep their values. -/
def store (buf data : List UInt8) : List UInt8 := data ++ buf.drop data.length

/-- `fread(buf, 1, n, file)` on a file read from its start. -/
def fread (buf : List UInt8) (n : Nat) (file : List UInt8) : List UInt8 :=
  store buf (file.take n)

@[simp] theorem strncmp_zero (cs ct : List UInt8) : strncmp cs ct 0 = 0 := by
  simp [strncmp]

theorem strncmp_head_ne (cs ct : List UInt8) (n : Nat) (h : cs.headD 0 ≠ ct.headD 0) :
    strncmp cs ct (n + 1) ≠ 0 := by
  rw [strncmp, if_neg h]
  intro h0
  exact h (UInt8.toNat_inj.mp (by omega))

theorem strncmp_head_eq (c : UInt8) (cs ct : List UInt8) (n : Nat) (hc : c ≠ 0) :
    strncmp (c :: cs) (c :: ct) (n + 1) = strncmp cs ct n := by
  simp [strncmp, hc]

/-- Comparing with a whole literal, its NUL not included, is a prefix test. -/
theorem strncmp_literal_iff (w : List UInt8) (hw : ∀ c ∈ w, c ≠ 0) (cs : List UInt8) :
    strncmp cs w w.length = 0 ↔ w <+: cs := by
  induction w generalizing cs with
  | nil => simp
  | cons a w ih =>
    have ha : a ≠ 0 := hw a (by simp)
    have ih' := ih (fun c hc => hw c (List.mem_cons_of_mem a hc))
    cases cs with
    | nil => simpa using strncmp_head_ne [] (a :: w) w.length (Ne.symm ha)
    | cons c cs =>
      by_cases hc : c = a
      · subst hc
        simp [strncmp_head_eq c cs w w.length ha, ih', List.cons_prefix_cons]
      · have hne := strncmp_head_ne (c :: cs) (a :: w) w.length hc
        simp [List.cons_prefix_cons, Ne.symm hc, hne]

/-- Comparing one byte further than a literal also asks for its NUL. -/
theorem strncmp_terminated_iff (w : List UInt8) (hw : ∀ c ∈ w, c ≠ 0) (cs : List UInt8) :
    strncmp cs w (w.length + 1) = 0 ↔ w <+: cs ∧ (cs.drop w.length).headD 0 = 0 := by
  induction w generalizing cs with
  | nil =>
    by_cases hc : cs.headD 0 = 0
    · simp only [strncmp, List.headD_nil, List.length_nil, List.drop_zero, hc, if_true,
        List.nil_prefix, and_self]
    · have hne := strncmp_head_ne cs [] 0 hc
      simp only [List.length_nil, List.drop_zero, List.nil_prefix, true_and, hc, iff_false]
      exact hne
  | cons a w ih =>
    have ha : a ≠ 0 := hw a (by simp)
    have ih' := ih (fun c hc => hw c (List.mem_cons_of_mem a hc))
    cases cs with
    | nil => simpa using strncmp_head_ne [] (a :: w) (w.length + 1) (Ne.symm ha)
    | cons c cs =>
      by_cases hc : c = a
      · subst hc
        rw [List.length_cons, strncmp_head_eq c cs w (w.length + 1) ha, ih']
        simp [List.cons_prefix_cons]
      · have hne := strncmp_head_ne (c :: cs) (a :: w) (w.length + 1) hc
        simp [List.cons_prefix_cons, Ne.symm hc, hne]

/-- Zeros behind the data match no letter of a literal. -/
theorem literal_prefix_append_zeros (w : List UInt8) (hw : ∀ c ∈ w, c ≠ 0)
    (data zeros : List UInt8) (hz : ∀ c ∈ zeros, c = 0) :
    w <+: data ++ zeros ↔ w <+: data := by
  constructor
  · intro h
    induction data generalizing w with
    | nil =>
      cases w with
      | nil => exact List.nil_prefix
      | cons a w => exact absurd (hz a (h.subset (by simp))) (hw a (by simp))
    | cons d data ih =>
      cases w with
      | nil => exact List.nil_prefix
      | cons a w =>
        rw [List.cons_append, List.cons_prefix_cons] at h
        rw [List.cons_prefix_cons]
        exact ⟨h.1, ih w (fun c hc => hw c (by simp [hc])) h.2⟩
  · intro h
    exact h.trans (List.prefix_append _ _)

end CBytes

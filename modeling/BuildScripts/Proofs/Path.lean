import BuildScripts.Path
import Mathlib.Data.List.Induction

namespace BuildScripts

def NoNull (name : String) : Prop :=
  '\x00' ∉ name.toList

namespace Path

variable {p : Path} {name : String} {names names' : List String}

def descend (p : Path) (names : List String) : Path :=
  ⟨p.anchor, p.parts ++ names⟩

@[simp] theorem descend_nil (p : Path) : p.descend [] = p := by
  simp [descend]

theorem child_eq_descend (p : Path) (name : String) : p.child name = p.descend [name] := rfl

@[simp] theorem child_descend (p : Path) (name : String) (names : List String) :
    (p.child name).descend names = p.descend (name :: names) := by
  simp [descend, child]

@[simp] theorem descend_child (p : Path) (names : List String) (name : String) :
    (p.descend names).child name = p.descend (names ++ [name]) := by
  simp [descend, child]

@[simp] theorem name_child (p : Path) (name : String) : (p.child name).name = name := by
  simp [Path.name, child]

theorem name_descend (p : Path) (names : List String) (name : String) :
    (p.descend (names ++ [name])).name = name := by
  rw [← descend_child, name_child]

@[simp] theorem parts_descend (p : Path) (names : List String) :
    (p.descend names).parts = p.parts ++ names := rfl

@[simp] theorem parts_child (p : Path) (name : String) :
    (p.child name).parts = p.parts ++ [name] := rfl

theorem hasNull_eq_false_iff : p.hasNull = false ↔ ∀ part ∈ p.parts, NoNull part := by
  simp [hasNull, NoNull]

theorem hasNull_descend : (p.descend names).hasNull = false ↔
    p.hasNull = false ∧ ∀ name ∈ names, NoNull name := by
  simp only [hasNull_eq_false_iff, parts_descend, List.forall_mem_append]

theorem hasNull_child : (p.child name).hasNull = false ↔ p.hasNull = false ∧ NoNull name := by
  rw [child_eq_descend, hasNull_descend, List.forall_mem_singleton]

theorem toText_of_ne_nil (h : p.parts ≠ []) :
    p.toText = anchorText p.anchor ++ String.intercalate "/" p.parts := by
  obtain ⟨anchor, parts⟩ := p
  cases parts with
  | nil => exact absurd rfl h
  | cons part parts => cases anchor <;> rfl

theorem intercalate_concat (h : names ≠ []) (name : String) :
    String.intercalate "/" (names ++ [name]) = String.intercalate "/" names ++ "/" ++ name := by
  rw [String.intercalate_append_of_ne_nil h (by simp), String.intercalate_singleton]

theorem length_le_intercalate (names : List String) :
    names.length ≤ (String.intercalate "/" names).utf8ByteSize + 1 := by
  induction names using List.reverseRecOn with
  | nil => simp
  | append_singleton names name ih =>
    by_cases h : names = []
    · simp [h]
    · have hslash : ("/" : String).utf8ByteSize = 1 := rfl
      rw [intercalate_concat h, String.utf8ByteSize_append, String.utf8ByteSize_append, hslash,
        List.length_append, List.length_singleton]
      omega

theorem length_parts_le (p : Path) : p.parts.length ≤ p.toText.utf8ByteSize + 1 := by
  by_cases h : p.parts = []
  · simp [h]
  · have hlength := length_le_intercalate p.parts
    rw [toText_of_ne_nil h, String.utf8ByteSize_append]
    omega

end Path

section Absolute

variable {full : Path}

theorem anchorOf_slash (cs : List Char) : Path.anchorOf ('/' :: cs) ≠ .relative := by
  unfold Path.anchorOf
  split <;> simp_all

theorem toText_of_isAbsolute (h : full.isAbsolute = true) :
    ∃ cs, full.toText.toList = '/' :: cs := by
  obtain ⟨anchor, parts⟩ := full
  cases anchor with
  | relative => cases h
  | root => exact ⟨_, by simp [Path.toText, Path.anchorText]; rfl⟩
  | doubleRoot => exact ⟨_, by simp [Path.toText, Path.anchorText]; rfl⟩

theorem isAbsolute_ofText_toText (h : full.isAbsolute = true) :
    (Path.ofText full.toText).isAbsolute = true := by
  obtain ⟨cs, hcs⟩ := toText_of_isAbsolute h
  simp [Path.isAbsolute, Path.ofText, hcs, anchorOf_slash]

end Absolute

end BuildScripts

import BuildScripts.Artifact.Lookup
import BuildScripts.Proofs.Text.LineEnds

namespace BuildScripts

theorem atDots_eq_splitOn (cs : List Char) : atDots cs = cs.splitOn '.' := by
  induction cs with
  | nil => rw [atDots, List.splitOn_nil]
  | cons c cs ih =>
    rw [List.splitOn_cons_eq_if_modifyHead, atDots, ih]
    cases hs : cs.splitOn '.' with
    | nil => exact absurd hs (List.splitOn_ne_nil _ _)
    | cons p ps => simp [beq_iff_eq]

def Undotted (parts : List String) : Prop :=
  ∀ p ∈ parts, '.' ∉ p.toList

theorem Undotted.tail {p : String} {parts : List String} (h : Undotted (p :: parts)) :
    Undotted parts :=
  fun q hq => h q (List.mem_cons_of_mem _ hq)

theorem Undotted.reverse {parts : List String} (h : Undotted parts) : Undotted parts.reverse :=
  fun q hq => h q (List.mem_reverse.1 hq)

theorem undotted_dottedParts (name : String) : Undotted (dottedParts name) := by
  intro p hp
  rw [dottedParts, atDots_eq_splitOn] at hp
  obtain ⟨cs, hcs, rfl⟩ := List.mem_map.1 hp
  rw [String.toList_ofList]
  exact Text.not_mem_of_mem_splitOn hcs

theorem dottedParts_ne_nil (name : String) : dottedParts name ≠ [] := by
  rw [dottedParts, atDots_eq_splitOn]
  simp [List.splitOn_ne_nil]

theorem dotted_dottedParts (name : String) : dotted (dottedParts name) = name := by
  apply String.toList_inj.1
  rw [dotted, String.toList_intercalate, dottedParts, atDots_eq_splitOn, List.map_map]
  have hid : String.toList ∘ String.ofList = id := by
    funext cs
    exact String.toList_ofList
  rw [hid, List.map_id]
  exact List.intercalate_splitOn '.'

theorem dottedParts_dotted {parts : List String} (h : Undotted parts) (hne : parts ≠ []) :
    dottedParts (dotted parts) = parts := by
  rw [dottedParts, atDots_eq_splitOn, dotted, String.toList_intercalate]
  have hsplit : (List.intercalate ".".toList (parts.map String.toList)).splitOn '.' =
      parts.map String.toList := by
    apply List.splitOn_intercalate
    · intro l hl
      obtain ⟨p, hp, rfl⟩ := List.mem_map.1 hl
      exact h p hp
    · simpa using hne
  rw [hsplit, List.map_map]
  have hid : String.ofList ∘ String.toList = id := by
    funext s
    exact String.ofList_toList
  rw [hid, List.map_id]

theorem dotted_append_singleton {parts : List String} (last : String) (hne : parts ≠ []) :
    dotted (parts ++ [last]) = dotted parts ++ "." ++ last := by
  rw [dotted, String.intercalate_append_of_ne_nil hne (by simp), String.intercalate_singleton]
  rfl

end BuildScripts

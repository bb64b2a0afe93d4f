import BuildScripts.Proofs.Disk.Clear
import BuildScripts.Proofs.Disk.Reach
import BuildScripts.Proofs.Slash

/-!
Paths that go up and up. Above the outermost directory there is nothing, so that a walk stays there; but
a relative path keeps the parts that go up when it is resolved. Main statement: behind enough of them
every name is too far away to be found to be a link, and is kept.
-/

namespace BuildScripts

section Climb

open Disk

variable {t : Tree} {d : Disk} {n k count : Nat} {l : Location} {name : String}
  {rest names : List String} {inside : List Reached → Reached → List String → Resolved}
  {pending : List Reached}

def climb (count : Nat) : List String :=
  List.replicate count ".."

theorem climb_succ (count : Nat) : climb (count + 1) = ".." :: climb count := rfl

theorem Tree.Reaches.climbed (count : Nat) (h : t.Reaches n [] rest l k) :
    t.Reaches n [] (climb count ++ rest) l k := by
  induction count with
  | zero => exact h
  | succ count ih => exact .up ih

theorem collapse_climb (count : Nat) : collapse [] (climb count ++ rest) = collapse [] rest := by
  induction count with
  | zero => rfl
  | succ count ih => rw [climb_succ, List.cons_append, collapse_up, List.tail_nil, ih]

theorem resolveParts_climb (n count : Nat) :
    d.resolveParts inside pending ⟨false, climb n⟩ (climb count ++ rest) =
      d.resolveParts inside pending ⟨false, climb (n + count)⟩ rest := by
  induction count generalizing n with
  | zero => rfl
  | succ count ih =>
    have hup : Reached.up ⟨false, climb n⟩ = ⟨false, climb (n + 1)⟩ := by
      cases n <;> rfl
    rw [climb_succ, List.cons_append, resolveParts, if_neg (by decide), if_pos rfl, hup, ih,
      Nat.add_right_comm, Nat.add_assoc]

theorem isPart_of_mem_climb (h : name ∈ climb count) : IsPart name := by
  rw [List.eq_of_mem_replicate h]
  exact ⟨by decide, by decide, by decide⟩

theorem pieces_climb (h : climb count ≠ []) :
    Path.pieces (String.intercalate "/" (climb count)) = climb count :=
  Path.pieces_intercalate h fun _ hm => (isPart_of_mem_climb hm).slashless

theorem size_climb (count : Nat) (hne : names ≠ []) :
    (String.intercalate "/" (climb count ++ names)).utf8ByteSize =
      3 * count + (String.intercalate "/" names).utf8ByteSize := by
  induction count with
  | zero => simp [climb]
  | succ count ih =>
    have hdots : "..".utf8ByteSize = 2 := rfl
    have hslash : "/".utf8ByteSize = 1 := rfl
    obtain ⟨next, rest, hrest⟩ := List.exists_cons_of_ne_nil
      (show climb count ++ names ≠ [] by simp [hne])
    rw [hrest] at ih
    rw [climb_succ, List.cons_append, hrest, String.intercalate_cons_cons, String.utf8ByteSize_append,
      String.utf8ByteSize_append, hdots, hslash, ih]
    omega

theorem linkAt?_climb (hne : names ≠ [])
    (h : longestPath < 3 * count + (String.intercalate "/" names.reverse).utf8ByteSize) :
    d.linkAt? (Reached.toPath ⟨false, names ++ climb count⟩) = none := by
  have hpath : Reached.toPath ⟨false, names ++ climb count⟩ =
      ⟨.relative, climb count ++ names.reverse⟩ := by
    simp [Reached.toPath, climb]
  rw [hpath, linkAt?, seek_of_long]
  rw [Path.toText_of_ne_nil (by simp [hne]), String.utf8ByteSize_append,
    size_climb count (by simpa using hne)]
  omega

theorem resolveParts_past_climb (hn : IsName name) (h : longestPath <
      3 * count + (String.intercalate "/" (name :: names).reverse).utf8ByteSize) :
    d.resolveParts inside pending ⟨false, names ++ climb count⟩ (name :: rest) =
      d.resolveParts inside pending ⟨false, name :: names ++ climb count⟩ rest := by
  have hnone : d.linkAt? (Reached.push ⟨false, names ++ climb count⟩ name).toPath = none :=
    linkAt?_climb (List.cons_ne_nil name names) h
  rw [resolveParts_name hn, hnone]
  rfl

end Climb

end BuildScripts

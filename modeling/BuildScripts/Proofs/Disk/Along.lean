import BuildScripts.Proofs.Disk.Only

/-!
What writing texts leaves on a disk without links. Main statements: a text stands where the parts of
its path lead, and apart from such places nothing changes but that directories are made where a path
passes.
-/

namespace BuildScripts.Disk

open Attempt
open BuildScripts.Text

variable {d d' d'' : Disk} {p q : Path} {l : Location} {text : String} {names : List String}
  {paths later : List Path}

def Passes (d : Disk) (p : Path) (l : Location) : Prop :=
  ∃ front, front <+: p.parts ∧ l = d.place ⟨p.anchor, front⟩

theorem passes_of_here (h : d'.here = d.here) : d'.Passes p l ↔ d.Passes p l := by
  simp only [Passes, place_of_here h]

theorem Passes.of_descend (h : d.Passes (p.descend names) l) (hn : ∀ name ∈ names, IsName name) :
    d.Passes p l ∨ ∃ front, front <+: names ∧ l = front.reverse ++ d.place p := by
  obtain ⟨front, ⟨back, hparts⟩, rfl⟩ := h
  rcases List.append_eq_append_iff.1 hparts with ⟨middle, hp, -⟩ | ⟨middle, rfl, rfl⟩
  · exact .inl ⟨front, ⟨middle, hp.symm⟩, rfl⟩
  · exact .inr ⟨middle, List.prefix_append _ _,
      place_descend p fun name hname => hn name (List.mem_append_left _ hname)⟩

def Holds (d d' : Disk) (p : Path) (text : String) : Prop :=
  d'.find p = .ok (d.place p, filled (d.tree.get? (d.place p)) (Utf8.encode text))

/-- Texts have been written to paths: a place that has changed is where one of them leads, or it was
free and is a directory which the way to one of them passes. -/
structure WroteAlong (paths : List Path) (d d' : Disk) : Prop where
  grew : d.Grew d'
  place : ∀ l, d'.tree.get? l = d.tree.get? l ∨ (∃ p ∈ paths, l = d.place p) ∨
    d.tree.get? l = none ∧ d'.tree.get? l = some .directory ∧ ∃ p ∈ paths, d.Passes p.parent l

namespace WroteAlong

theorem refl (h : d.Proper) : WroteAlong [] d d :=
  ⟨.refl h, fun _ => .inl rfl⟩

theorem trans (h : WroteAlong paths d d') (h' : WroteAlong later d' d'') :
    WroteAlong (paths ++ later) d d'' where
  grew := h.grew.trans h'.grew
  place l := by
    have hfirst : (∃ p ∈ paths, l = d.place p) → ∃ p ∈ paths ++ later, l = d.place p :=
      fun ⟨p, hp, hl⟩ => ⟨p, List.mem_append_left _ hp, hl⟩
    rcases h.place l with hsame | hplace | ⟨hnone, hdir, p, hp, hl⟩
    · rw [← hsame]
      rcases h'.place l with hsame' | ⟨q, hq, hl⟩ | ⟨hnone, hdir, q, hq, hl⟩
      · exact .inl hsame'
      · exact .inr (.inl ⟨q, List.mem_append_right _ hq, hl.trans (place_of_here h.grew.here q)⟩)
      · exact .inr (.inr ⟨hnone, hdir, q, List.mem_append_right _ hq,
          (passes_of_here h.grew.here).1 hl⟩)
    · exact .inr (.inl (hfirst hplace))
    · exact .inr (.inr ⟨hnone, h'.grew.grown.directory l hdir, p, List.mem_append_left _ hp, hl⟩)

theorem sink_iff (h : WroteAlong paths d d') (hl : ∀ p ∈ paths, l ≠ d.place p) :
    d'.tree.get? l = some .sink ↔ d.tree.get? l = some .sink := by
  rcases h.place l with hsame | ⟨p, hp, hplace⟩ | ⟨hnone, hdir, -⟩
  · rw [hsame]
  · exact absurd hplace (hl p hp)
  · simp [hnone, hdir]

theorem get?_eq (h : WroteAlong paths d d') (hl : ∀ p ∈ paths, l ≠ d.place p)
    (hsome : d.tree.get? l ≠ none) : d'.tree.get? l = d.tree.get? l := by
  rcases h.place l with hsame | ⟨p, hp, hplace⟩ | ⟨hnone, -⟩
  · exact hsame
  · exact absurd hplace (hl p hp)
  · exact absurd hnone hsome

end WroteAlong

theorem Holds.after (h' : Holds d' d'' p text) (h : WroteAlong paths d d')
    (hp : ∀ q ∈ paths, d.place p ≠ d.place q) : Holds d d'' p text := by
  rw [Holds, place_of_here h.grew.here] at h'
  rw [Holds, h', filled_congr (h.sink_iff hp)]

theorem Holds.before (h : Holds d d' p text) (hd' : d'.Proper) (hhere : d'.here = d.here)
    (h' : WroteAlong paths d' d'') (hp : ∀ q ∈ paths, d.place p ≠ d.place q) :
    Holds d d'' p text := by
  have hthere := found_of_seek hd'.grounded (hd'.starts p) (find_eq_ok_iff.1 h)
  have hsame : d''.tree.get? (d.place p) = d'.tree.get? (d.place p) := by
    apply h'.get?_eq
    · intro q hq
      rw [place_of_here hhere]
      exact hp q hq
    · simp [hthere]
  exact h'.grew.find_of_get? hd' h (hsame.trans hthere)

section Write

variable (hd : d.Proper) (hfree : d.tree.LinkFree) (hlast : p.parts.getLast? ≠ some "")
  (h : writeWithParents p text d = .ok () d')
include hd hfree hlast h

theorem wroteAlong_of_writeWithParents : WroteAlong [p] d d' := by
  obtain ⟨opened, hmake, hopened, hn, ho, rfl⟩ := writeWithParents_eq_ok hd hfree hlast h
  have hp := hopened.proper
  have hplaces := (made_of_makeDirectories hd.grounded (hd.starts p.parent)).place
  rw [after_of_ok hmake] at hplaces
  have hfilled := filled_of_fill hp.grounded (hp.starts p) ho (Utf8.encode text)
  refine ⟨hopened.trans (.fill hp hn ho _), fun k => ?_⟩
  by_cases hk : k = d.place p
  · exact .inr (.inl ⟨p, List.mem_singleton_self p, hk⟩)
  · rw [hfilled.others k hk]
    rcases hplaces k with hsame | ⟨hnone, hdir, hpasses⟩
    · exact .inl hsame
    · obtain ⟨front, hfront, hplace⟩ := hpasses (hfree.clear _ _)
      exact .inr (.inr ⟨hnone, hdir, p, List.mem_singleton_self p, front, hfront, hplace⟩)

theorem holds_of_writeWithParents : Holds d d' p text := by
  obtain ⟨opened, hmake, hopened, hn, ho, rfl⟩ := writeWithParents_eq_ok hd hfree hlast h
  have hp := hopened.proper
  have hplaces := (made_of_makeDirectories hd.grounded (hd.starts p.parent)).place
  rw [after_of_ok hmake] at hplaces
  have hsink : opened.tree.get? (d.place p) = some .sink ↔ d.tree.get? (d.place p) = some .sink := by
    rcases hplaces (d.place p) with hsame | ⟨hnone, hdir, -⟩
    · rw [hsame]
    · simp [hnone, hdir]
  rw [Holds, find_of_fill hp.grounded (hp.starts p) ho (Utf8.encode text), filled_congr hsink]

end Write

end BuildScripts.Disk

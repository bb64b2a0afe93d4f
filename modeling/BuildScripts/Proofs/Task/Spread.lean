import BuildScripts.Proofs.Task.Visits
import Mathlib.Data.List.Pairwise
import Mathlib.Order.Comparable

namespace BuildScripts

open Attempt

namespace CopyTask

section Spread

variable {overwrite : Bool} {sel : Selection} {source destination : Path} {name : String}
  {names : List String} {rels rels' : List (List String)} {j j₁ j' : CopyJob}

structure Spread (overwrite : Bool) (source destination : Path) (rels : List (List String))
    (j j' : CopyJob) : Prop where
  copies : Copies overwrite source destination rels j j'
  apart : rels.Pairwise (IncompRel (· <+: ·))

theorem incompRel_of_names {rel rel' : List String} {other : String} (hne : name ≠ other)
    (h : [name] <+: rel) (h' : [other] <+: rel') : IncompRel (· <+: ·) rel rel' := by
  obtain ⟨rest, rfl⟩ := h
  obtain ⟨rest', rfl⟩ := h'
  constructor
  · intro hle
    exact hne (List.cons_prefix_cons.1 hle).1
  · intro hle
    exact hne (List.cons_prefix_cons.1 hle).1.symm

namespace Spread

theorem append (h : Spread overwrite source destination rels j j₁)
    (h' : Spread overwrite source destination rels' j₁ j')
    (hbelow : ∀ rel ∈ rels, [name] <+: rel)
    (hothers : ∀ rel ∈ rels', ∃ other ∈ names, [other] <+: rel) (hname : name ∉ names) :
    Spread overwrite source destination (rels ++ rels') j j' where
  copies := h.copies.append h'.copies
  apart := by
    rw [List.pairwise_append]
    refine ⟨h.apart, h'.apart, fun rel hrel rel' hrel' => ?_⟩
    obtain ⟨other, hother, hrel'⟩ := hothers rel' hrel'
    apply incompRel_of_names ?_ (hbelow rel hrel) hrel'
    rintro rfl
    exact hname hother

theorem of_child (hn : Named name)
    (h : Spread overwrite (source.child name) (destination.child name) rels j j') :
    Spread overwrite source destination (rels.map (name :: ·)) j j' where
  copies := h.copies.of_child hn
  apart := by
    rw [List.pairwise_map]
    exact h.apart.imp fun hrel =>
      ⟨fun hle => hrel.1 (List.cons_prefix_cons.1 hle).2,
        fun hle => hrel.2 (List.cons_prefix_cons.1 hle).2⟩

end Spread

section Entries

variable {deeper : Path → Path → Attempt CopyJob Unit}
  (hdeeper : ∀ name j j', j.disk.Proper →
    deeper (source.child name) (destination.child name) j = .ok () j' →
    ∃ rels, Spread overwrite (source.child name) (destination.child name) rels j j')
include hdeeper

theorem spread_of_copyEntry (hn : Named name) (hp : j.disk.Proper)
    (h : copyEntry deeper sel overwrite source destination name j = .ok () j') :
    ∃ rels, Spread overwrite source destination rels j j' ∧ ∀ rel ∈ rels, [name] <+: rel := by
  rcases copyEntry_cases deeper sel overwrite source destination name j with
    ⟨f, -, hrun⟩ | ⟨-, hrun⟩ | ⟨-, ⟨-, hrun⟩ | ⟨-, hrun⟩⟩
  · rw [hrun] at h
    cases h
  · rw [hrun] at h
    obtain ⟨rels, hs⟩ := hdeeper name j j' hp h
    exact ⟨_, hs.of_child hn, by simp⟩
  · rw [hrun] at h
    have hone : Copies overwrite source destination [[name]] j j' := by
      apply Copies.cons [] name (by simpa using hn) ?_ .nil
      rwa [Path.descend_nil]
    exact ⟨_, ⟨hone, List.pairwise_singleton _ _⟩, by simp⟩
  · rw [hrun] at h
    cases h
    exact ⟨[], ⟨.nil, .nil⟩, by simp⟩

theorem spread_of_copyEntries (hnodup : names.Nodup) (hnames : ∀ name ∈ names, Named name)
    (hp : j.disk.Proper)
    (h : copyEntries deeper sel overwrite source destination names j = .ok () j') :
    ∃ rels, Spread overwrite source destination rels j j' ∧
      ∀ rel ∈ rels, ∃ name ∈ names, [name] <+: rel := by
  induction names generalizing j with
  | nil =>
    cases h
    exact ⟨[], ⟨.nil, .nil⟩, by simp⟩
  | cons name names ih =>
    rw [List.nodup_cons] at hnodup
    rw [List.forall_mem_cons] at hnames
    rw [copyEntries_cons] at h
    obtain ⟨_, j₁, hentry, hrest⟩ := bind_eq_ok.1 h
    obtain ⟨rels, hs, hbelow⟩ := spread_of_copyEntry hdeeper hnames.1 hp hentry
    obtain ⟨rels', hs', hothers⟩ := ih hnodup.2 hnames.2 (hs.copies.grew hp).proper hrest
    refine ⟨rels ++ rels', hs.append hs' hbelow hothers hnodup.1, ?_⟩
    rw [List.forall_mem_append]
    constructor
    · intro rel hrel
      exact ⟨name, List.mem_cons_self, hbelow rel hrel⟩
    · intro rel hrel
      obtain ⟨other, hother, hrel⟩ := hothers rel hrel
      exact ⟨other, List.mem_cons_of_mem _ hother, hrel⟩

end Entries

theorem spread_of_copyTree {depth : Nat} (hp : j.disk.Proper)
    (h : copyTree sel overwrite depth source destination j = .ok () j') :
    ∃ rels, Spread overwrite source destination rels j j' := by
  induction depth generalizing source destination j j' with
  | zero => cases h
  | succ depth ih =>
    rw [copyTree] at h
    split at h
    · cases h
      exact ⟨[], .nil, .nil⟩
    · cases hlist : j.disk.list source with
      | error f =>
        rw [bind_of_error (CopyJob.asking_of_error hlist)] at h
        cases h
      | ok names =>
        rw [bind_of_ok (CopyJob.asking_of_ok hlist)] at h
        obtain ⟨-, l, -, rfl⟩ := Disk.list_eq_ok_iff.1 hlist
        have hnodup : (j.disk.tree.sortedNames l).Nodup :=
          (hp.tree.pairwise_sortedNames l).imp String.ne_of_lt
        have hnames : ∀ name ∈ j.disk.tree.sortedNames l, Named name := fun name hname =>
          hp.tree.named name l (Tree.mem_sortedNames_iff.1 hname)
        obtain ⟨rels, hs, -⟩ :=
          spread_of_copyEntries (fun _ _ _ hp h => ih hp h) hnodup hnames hp h
        exact ⟨rels, hs⟩

theorem spread_of_perform {t : CopyTask} (hp : j.disk.Proper)
    (hsource : j.disk.resolve t.source = .ok source) (h : t.perform j = .ok () j') :
    ∃ rels, Spread t.overwrite source t.destination rels (t.begun j) j' := by
  rw [perform_eq] at h
  rcases performWithin_cases deepest t j with ⟨f, -, hf⟩ | ⟨sel, source', -, hsource', hrun⟩
  · rw [h] at hf
    cases hf
  · rw [hsource] at hsource'
    cases hsource'
    have hbegun : (t.begun j).disk.Proper := hp
    rw [h] at hrun
    exact spread_of_copyTree hbegun hrun.symm

end Spread

end CopyTask

end BuildScripts

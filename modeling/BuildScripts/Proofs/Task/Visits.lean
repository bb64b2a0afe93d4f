import BuildScripts.Proofs.Disk.Content
import BuildScripts.Proofs.Task.Runs

/-!
Which files a copying takes, and in which order. Main statement: below a directory without links,
files are copied once each and in the order of their paths, and among them are all that were there
to be copied when the copying began.
-/

namespace BuildScripts

open Attempt

theorem prefix_of_suffix {l : Location} {rel rel' : List String}
    (h : rel.reverse ++ l <:+ rel'.reverse ++ l) : rel <+: rel' := by
  rw [← List.reverse_prefix] at h
  simpa using h

namespace Selection

structure Picks (sel : Selection) (source : Path) (rel : List String) : Prop where
  entered : ∀ front, front <+: rel.dropLast → sel.excludes (source.descend front).toText = false
  taken : sel.takes (source.descend rel).toText = true

variable {sel : Selection} {source : Path} {name : String} {rel : List String}

theorem picks_singleton_iff : sel.Picks source [name] ↔
    sel.excludes source.toText = false ∧ sel.takes (source.child name).toText = true := by
  constructor
  · intro h
    have hsource := h.entered [] List.nil_prefix
    rw [Path.descend_nil] at hsource
    exact ⟨hsource, h.taken⟩
  · rintro ⟨hsource, htaken⟩
    refine ⟨fun front hfront => ?_, htaken⟩
    obtain rfl : front = [] := List.prefix_nil.1 hfront
    rwa [Path.descend_nil]

theorem picks_cons_iff (hrel : rel ≠ []) : sel.Picks source (name :: rel) ↔
    sel.excludes source.toText = false ∧ sel.Picks (source.child name) rel := by
  have hlast : (name :: rel).dropLast = name :: rel.dropLast := List.dropLast_cons_of_ne_nil hrel
  constructor
  · intro h
    have hsource := h.entered [] List.nil_prefix
    rw [Path.descend_nil] at hsource
    refine ⟨hsource, fun front hfront => ?_, ?_⟩
    · rw [Path.child_descend]
      apply h.entered (name :: front)
      rw [hlast]
      exact (List.prefix_cons_inj name).2 hfront
    · rw [Path.child_descend]
      exact h.taken
  · rintro ⟨hsource, h⟩
    refine ⟨fun front hfront => ?_, ?_⟩
    · rw [hlast, List.prefix_cons_iff] at hfront
      rcases hfront with rfl | ⟨front, rfl, hfront⟩
      · rwa [Path.descend_nil]
      · rw [← Path.child_descend]
        exact h.entered front hfront
    · rw [← Path.child_descend]
      exact h.taken

structure Chooses (sel : Selection) (t : Tree) (source : Path) (l : Location) (rel : List String) :
    Prop extends sel.Picks source rel where
  there : t.content? (rel.reverse ++ l) ≠ none

namespace Chooses

variable {t : Tree} {l : Location} {rest : List String}

theorem listed (h : sel.Chooses t source l rel) (hg : t.Grounded) (hl : t.get? l = some .directory) :
    ∃ name rest, rel = name :: rest ∧ name ∈ t.sortedNames l := by
  cases rel with
  | nil => exact absurd (Tree.content?_of_directory hl) h.there
  | cons name rest =>
    refine ⟨name, rest, rfl, Tree.mem_sortedNames_iff.2 ?_⟩
    have hthere := Tree.get?_ne_none_of_content h.there
    rw [List.reverse_cons, List.append_assoc] at hthere
    by_cases hrest : rest = []
    · rwa [hrest] at hthere
    · have hd := hg.of_append hthere (by simpa using hrest)
      change t.get? (name :: l) = _ at hd
      simp [hd]

theorem of_cons (h : sel.Chooses t source l (name :: rest))
    (hd : t.get? (name :: l) = some .directory) :
    sel.Chooses t (source.child name) (name :: l) rest := by
  have hthere := h.there
  rw [List.reverse_cons, List.append_assoc] at hthere
  have hrest : rest ≠ [] := by
    rintro rfl
    exact hthere (Tree.content?_of_directory hd)
  exact ⟨((picks_cons_iff hrest).1 h.toPicks).2, hthere⟩

end Chooses

end Selection

namespace CopyTask

inductive Copies (overwrite : Bool) (source destination : Path) :
    List (List String) → CopyJob → CopyJob → Prop
  | nil {j : CopyJob} : Copies overwrite source destination [] j j
  | cons (way : List String) (name : String) {rels : List (List String)} {j j₁ j' : CopyJob}
      (hnames : ∀ part ∈ way ++ [name], Named part)
      (h : copyOne overwrite (source.descend (way ++ [name])) (destination.descend way) j =
        .ok () j₁)
      (hrest : Copies overwrite source destination rels j₁ j') :
      Copies overwrite source destination ((way ++ [name]) :: rels) j j'

section Copies

variable {overwrite : Bool} {source destination entry : Path} {rels rels' : List (List String)}
  {name : String} {j j₁ j' : CopyJob}

theorem copyOne_eq_ok (h : copyOne overwrite entry destination j = .ok () j') :
    ∃ opened written, Copied overwrite entry destination j opened written ∧
      j' = j.record entry (destination.child entry.name) written := by
  rcases copyOne_cases overwrite entry destination j with ⟨opened, written, hc, hok⟩ | ⟨_, _, he, -⟩
  · rw [h] at hok
    cases hok
    exact ⟨opened, written, hc, rfl⟩
  · rw [h] at he
    cases he

theorem grew_of_copyOne (hp : j.disk.Proper)
    (h : copyOne overwrite entry destination j = .ok () j') : j.disk.Grew j'.disk := by
  obtain ⟨opened, written, hc, rfl⟩ := copyOne_eq_ok h
  exact hc.grew hp

namespace Copies

theorem append (h : Copies overwrite source destination rels j j₁)
    (h' : Copies overwrite source destination rels' j₁ j') :
    Copies overwrite source destination (rels ++ rels') j j' := by
  induction h with
  | nil => exact h'
  | cons way name hnames h _ ih => exact .cons way name hnames h (ih h')

theorem of_child (hn : Named name)
    (h : Copies overwrite (source.child name) (destination.child name) rels j j') :
    Copies overwrite source destination (rels.map (name :: ·)) j j' := by
  induction h with
  | nil => exact .nil
  | cons way last hnames h _ ih =>
    rw [Path.child_descend, Path.child_descend] at h
    exact .cons (name :: way) last (List.forall_mem_cons.2 ⟨hn, hnames⟩) h ih

theorem grew (h : Copies overwrite source destination rels j j') (hp : j.disk.Proper) :
    j.disk.Grew j'.disk := by
  induction h with
  | nil => exact .refl hp
  | cons _ _ _ h _ ih =>
    have hgrew := grew_of_copyOne hp h
    exact hgrew.trans (ih hgrew.proper)

theorem copied_eq (h : Copies overwrite source destination rels j j') :
    j'.copied = j.copied ++ rels.map fun rel => (destination.descend rel).toText := by
  induction h with
  | nil => simp
  | cons way name _ h _ ih =>
    obtain ⟨opened, written, -, rfl⟩ := copyOne_eq_ok h
    rw [ih, CopyJob.record, List.map_cons, List.append_assoc, ← Path.descend_child,
      ← Path.descend_child, Path.name_child]
    rfl

end Copies

end Copies

/-- What a run over some names in a directory has copied: each file once and in order, only files
that are picked, and all of them that were there when the run began. -/
structure Visited (overwrite : Bool) (sel : Selection) (source destination : Path) (l : Location)
    (names : List String) (rels : List (List String)) (j j' : CopyJob) : Prop where
  copies : Copies overwrite source destination rels j j'
  sorted : rels.Pairwise (· < ·)
  picked : ∀ rel ∈ rels, sel.Picks source rel
  listed : ∀ rel ∈ rels, ∃ name ∈ names, ∃ rest, rel = name :: rest
  all : ∀ name ∈ names, ∀ rest, sel.Chooses j.disk.tree source l (name :: rest) →
    name :: rest ∈ rels

section Visited

variable {overwrite : Bool} {sel : Selection} {source destination : Path} {l : Location}
  {name : String} {names : List String} {rel : List String} {rels rels' : List (List String)}
  {j j₁ j' : CopyJob}

namespace Visited

theorem nil : Visited overwrite sel source destination l [] [] j j where
  copies := .nil
  sorted := .nil
  picked := by simp
  listed := by simp
  all := by simp

theorem cons (h : Visited overwrite sel source destination l [name] rels j j₁)
    (h' : Visited overwrite sel source destination l names rels' j₁ j')
    (hlt : ∀ other ∈ names, name < other) (hp : j.disk.Proper) :
    Visited overwrite sel source destination l (name :: names) (rels ++ rels') j j' where
  copies := h.copies.append h'.copies
  sorted := by
    rw [List.pairwise_append]
    refine ⟨h.sorted, h'.sorted, fun rel hrel rel' hrel' => ?_⟩
    obtain ⟨first, hfirst, rest, rfl⟩ := h.listed rel hrel
    obtain ⟨other, hother, rest', rfl⟩ := h'.listed rel' hrel'
    rw [List.mem_singleton.1 hfirst]
    exact List.cons_lt_cons_iff.2 (.inl (hlt other hother))
  picked := by
    rw [List.forall_mem_append]
    exact ⟨h.picked, h'.picked⟩
  listed rel hrel := by
    rcases List.mem_append.1 hrel with hrel | hrel
    · obtain ⟨first, hfirst, hrest⟩ := h.listed rel hrel
      rw [List.mem_singleton.1 hfirst] at hrest
      exact ⟨name, List.mem_cons_self, hrest⟩
    · obtain ⟨first, hfirst, hrest⟩ := h'.listed rel hrel
      exact ⟨first, List.mem_cons_of_mem _ hfirst, hrest⟩
  all first hfirst rest hchosen := by
    rcases List.mem_cons.1 hfirst with rfl | hfirst
    · exact List.mem_append_left _ (h.all _ List.mem_cons_self rest hchosen)
    · have hgrown := (h.copies.grew hp).grown
      apply List.mem_append_right
      exact h'.all first hfirst rest ⟨hchosen.toPicks, hgrown.content?_ne_none hchosen.there⟩

theorem mem_of_chooses (hp : j.disk.Proper) (hl : j.disk.Enters source l)
    (h : Visited overwrite sel source destination l (j.disk.tree.sortedNames l) rels j j')
    (hrel : sel.Chooses j.disk.tree source l rel) : rel ∈ rels := by
  obtain ⟨name, rest, rfl, hname⟩ := hrel.listed hp.grounded (hl.directory hp.grounded (hp.starts _))
  exact h.all name hname rest hrel

theorem of_child (hp : j.disk.Proper) (hn : Named name)
    (hsource : sel.excludes source.toText = false) (hl : j.disk.Enters (source.child name) (name :: l))
    (h : Visited overwrite sel (source.child name) (destination.child name) (name :: l)
      (j.disk.tree.sortedNames (name :: l)) rels j j') :
    Visited overwrite sel source destination l [name] (rels.map (name :: ·)) j j' where
  copies := h.copies.of_child hn
  sorted := by
    rw [List.pairwise_map]
    exact h.sorted.imp fun hlt => List.cons_lt_cons_iff.2 (.inr ⟨rfl, hlt⟩)
  picked := by
    rw [List.forall_mem_map]
    intro rel hrel
    obtain ⟨first, -, rest, rfl⟩ := h.listed rel hrel
    exact (Selection.picks_cons_iff (by simp)).2 ⟨hsource, h.picked _ hrel⟩
  listed := by
    rw [List.forall_mem_map]
    intro rel _
    exact ⟨name, List.mem_cons_self, rel, rfl⟩
  all first hfirst rest hchosen := by
    rw [List.mem_singleton.1 hfirst] at hchosen ⊢
    apply List.mem_map_of_mem
    exact h.mem_of_chooses hp hl (hchosen.of_cons (hl.directory hp.grounded (hp.starts _)))

end Visited

theorem directory_iff {found : Bool} (hl : j.disk.Enters source l) (hn : Named name)
    (hnull : source.hasNull = false) (hfree : j.disk.tree.LinkFreeBelow l)
    (h : j.disk.isDirectory (source.child name) = .ok found) :
    found = true ↔ j.disk.tree.get? (name :: l) = some .directory := by
  have hlink : ∀ target, j.disk.tree.get? (name :: l) ≠ some (.link target) :=
    fun target => hfree _ target (List.suffix_cons name l)
  constructor
  · rintro rfl
    obtain ⟨-, -, l', hl'⟩ := Disk.isDirectory_eq_true_iff.1 h
    exact (hl.child_unique hn.isName hlink hl').2
  · intro hd
    have hnull' : (source.child name).hasNull = false := Path.hasNull_child.2 ⟨hnull, hn.noNull⟩
    rw [Disk.isDirectory, Disk.testEntry, hnull', Disk.find] at h
    rcases hl.seek_child hn.isName .target (.inr hlink) with hs | hs
    · rw [hs] at h
      cases h
    · rw [hs, Tree.at_of_some hd] at h
      cases h
      rfl

theorem chooses_of_file (hp : j.disk.Proper) {rest : List String}
    (hfile : j.disk.tree.get? (name :: l) ≠ some .directory)
    (hchosen : sel.Chooses j.disk.tree source l (name :: rest)) :
    rest = [] ∧ sel.takes (source.child name).toText = true := by
  have hthere := Tree.get?_ne_none_of_content hchosen.there
  rw [List.reverse_cons, List.append_assoc] at hthere
  by_cases hrest : rest = []
  · subst hrest
    exact ⟨rfl, (Selection.picks_singleton_iff.1 hchosen.toPicks).2⟩
  · exact absurd (hp.grounded.of_append hthere (by simpa using hrest)) hfile

namespace Visited

theorem of_copied (hp : j.disk.Proper) (hn : Named name)
    (hsource : sel.excludes source.toText = false)
    (hfile : j.disk.tree.get? (name :: l) ≠ some .directory)
    (htaken : sel.takes (source.child name).toText = true)
    (h : copyOne overwrite (source.child name) destination j = .ok () j') :
    Visited overwrite sel source destination l [name] [[name]] j j' where
  copies := by
    apply Copies.cons [] name
    · simpa using hn
    · rwa [Path.descend_nil]
    · exact .nil
  sorted := List.pairwise_singleton _ _
  picked := by simpa using Selection.picks_singleton_iff.2 ⟨hsource, htaken⟩
  listed := by simp
  all first hfirst rest hchosen := by
    rw [List.mem_singleton.1 hfirst] at hchosen ⊢
    rw [(chooses_of_file hp hfile hchosen).1]
    exact List.mem_cons_self

theorem of_passed (hp : j.disk.Proper)
    (hfile : j.disk.tree.get? (name :: l) ≠ some .directory)
    (hpassed : sel.takes (source.child name).toText = false) :
    Visited overwrite sel source destination l [name] [] j j where
  copies := .nil
  sorted := .nil
  picked := by simp
  listed := by simp
  all first hfirst rest hchosen := by
    rw [List.mem_singleton.1 hfirst] at hchosen
    have htaken := (chooses_of_file hp hfile hchosen).2
    rw [hpassed] at htaken
    cases htaken

end Visited

section Entries

variable {deeper : Path → Path → Attempt CopyJob Unit}
  (hdeeper : ∀ name j j', j.disk.Proper → j.disk.Enters (source.child name) (name :: l) →
    j.disk.tree.LinkFreeBelow (name :: l) →
    deeper (source.child name) (destination.child name) j = .ok () j' →
    ∃ rels, Visited overwrite sel (source.child name) (destination.child name) (name :: l)
      (j.disk.tree.sortedNames (name :: l)) rels j j')
  (hsource : sel.excludes source.toText = false) (hnull : source.hasNull = false)
include hdeeper hsource hnull

theorem visited_of_copyEntry (hthere : j.disk.tree.get? (name :: l) ≠ none) (hp : j.disk.Proper)
    (hl : j.disk.Enters source l) (hfree : j.disk.tree.LinkFreeBelow l)
    (h : copyEntry deeper sel overwrite source destination name j = .ok () j') :
    ∃ rels, Visited overwrite sel source destination l [name] rels j j' := by
  have hn := hp.tree.named name l hthere
  have hnotDirectory : j.disk.isDirectory (source.child name) = .ok false →
      j.disk.tree.get? (name :: l) ≠ some .directory := by
    intro hd hdir
    exact Bool.false_ne_true ((directory_iff hl hn hnull hfree hd).2 hdir)
  rcases copyEntry_cases deeper sel overwrite source destination name j with
    ⟨f, -, hrun⟩ | ⟨hd, hrun⟩ | ⟨hd, ⟨htaken, hrun⟩ | ⟨hpassed, hrun⟩⟩
  · rw [hrun] at h
    cases h
  · rw [hrun] at h
    obtain ⟨-, -, l', hl'⟩ := Disk.isDirectory_eq_true_iff.1 hd
    obtain ⟨rfl, -⟩ := hl.child_unique hn.isName
      (fun target => hfree _ target (List.suffix_cons name l)) hl'
    obtain ⟨rels, hv⟩ := hdeeper name j j' hp hl' (hfree.cons name) h
    exact ⟨_, hv.of_child hp hn hsource hl'⟩
  · rw [hrun] at h
    exact ⟨_, .of_copied hp hn hsource (hnotDirectory hd) htaken h⟩
  · rw [hrun] at h
    cases h
    exact ⟨_, .of_passed hp (hnotDirectory hd) hpassed⟩

theorem visited_of_copyEntries (hsorted : names.Pairwise (· < ·))
    (hthere : ∀ name ∈ names, j.disk.tree.get? (name :: l) ≠ none) (hp : j.disk.Proper)
    (hl : j.disk.Enters source l) (hfree : j.disk.tree.LinkFreeBelow l)
    (h : copyEntries deeper sel overwrite source destination names j = .ok () j') :
    ∃ rels, Visited overwrite sel source destination l names rels j j' := by
  induction names generalizing j with
  | nil =>
    cases h
    exact ⟨[], .nil⟩
  | cons name names ih =>
    rw [List.pairwise_cons] at hsorted
    rw [List.forall_mem_cons] at hthere
    rw [copyEntries_cons] at h
    obtain ⟨_, j₁, hentry, hrest⟩ := bind_eq_ok.1 h
    obtain ⟨rels, hv⟩ := visited_of_copyEntry hdeeper hsource hnull hthere.1 hp hl hfree hentry
    have hgrew := hv.copies.grew hp
    have hthere₁ : ∀ other ∈ names, j₁.disk.tree.get? (other :: l) ≠ none :=
      fun other hother => hgrew.grown.get?_ne_none (hthere.2 other hother)
    obtain ⟨rels', hv'⟩ := ih hsorted.2 hthere₁ hgrew.proper (hgrew.enters hl)
      (hfree.of_grown hgrew.grown) hrest
    exact ⟨rels ++ rels', hv.cons hv' hsorted.1 hp⟩

end Entries

theorem visited_of_copyTree {depth : Nat} (hp : j.disk.Proper) (hl : j.disk.Enters source l)
    (hfree : j.disk.tree.LinkFreeBelow l)
    (h : copyTree sel overwrite depth source destination j = .ok () j') :
    ∃ rels, Visited overwrite sel source destination l (j.disk.tree.sortedNames l) rels j j' := by
  induction depth generalizing source destination l j j' with
  | zero => cases h
  | succ depth ih =>
    rw [copyTree] at h
    split at h
    -- An excluded directory is passed over, and with it all that is below.
    · rename_i hexcluded
      cases h
      refine ⟨[], .nil, .nil, by simp, by simp, fun name _ rest hchosen => ?_⟩
      have hentered := hchosen.entered [] List.nil_prefix
      rw [Path.descend_nil, hexcluded] at hentered
      cases hentered
    · rename_i hexcluded
      cases hlist : j.disk.list source with
      | error f =>
        rw [bind_of_error (CopyJob.asking_of_error hlist)] at h
        cases h
      | ok names =>
        rw [bind_of_ok (CopyJob.asking_of_ok hlist)] at h
        obtain ⟨hnull, l', hfind, rfl⟩ := Disk.list_eq_ok_iff.1 hlist
        obtain rfl := hl.unique (Disk.find_eq_directory_iff.1 hfind).2
        apply visited_of_copyEntries ?_ (Bool.not_eq_true _ ▸ hexcluded) hnull
          (hp.tree.pairwise_sortedNames _) ?_ hp hl hfree h
        · intro name j j' hp hl hfree h
          exact ih hp hl hfree h
        · intro name hname
          exact Tree.mem_sortedNames_iff.1 hname

theorem visited_of_performWithin {t : CopyTask} {limit : Nat} (hp : j.disk.Proper)
    (hsource : j.disk.resolve t.source = .ok source) (hl : j.disk.Enters source l)
    (hfree : j.disk.tree.LinkFreeBelow l) (h : t.performWithin limit j = .ok () j') :
    ∃ sel rels, Selection.ofPatterns t.included t.excluded = .ok sel ∧
      Visited t.overwrite sel source t.destination l (j.disk.tree.sortedNames l) rels (t.begun j)
        j' := by
  rcases performWithin_cases limit t j with ⟨f, -, hf⟩ | ⟨sel, source', hsel, hsource', hrun⟩
  · rw [h] at hf
    cases hf
  · rw [hsource] at hsource'
    cases hsource'
    rw [h] at hrun
    have hbegun : (t.begun j).disk.Proper := hp
    obtain ⟨rels, hv⟩ := visited_of_copyTree hbegun hl hfree hrun.symm
    exact ⟨sel, rels, hsel, hv⟩

end Visited

end CopyTask

end BuildScripts

import BuildScripts.Proofs.Task.Visits

namespace BuildScripts

open Attempt

namespace CopyTask

variable {overwrite : Bool} {source destination entry : Path} {l k : Location}
  {rel : List String} {rels before after : List (List String)} {j j' : CopyJob}

section Step

variable {opened written : Disk}

theorem Copied.content?_opened (h : Copied overwrite entry destination j opened written)
    (hp : j.disk.Proper) (k : Location) : opened.tree.content? k = j.disk.tree.content? k := by
  rcases (h.opens hp).2 k with hsame | ⟨hnone, hdir⟩
  · rw [Tree.content?, hsame, Tree.content?]
  · rw [Tree.content?_of_none hnone, Tree.content?_of_directory hdir]

theorem content?_filled (held : Option Entry) (bytes : ByteArray) :
    (Disk.filled held bytes).content? ≠ none := by
  unfold Disk.filled
  split <;> simp [Entry.content?]

theorem Copied.written_at (h : Copied overwrite entry destination j opened written)
    (hp : j.disk.Proper) : ∃ place,
      (∀ d, written.Grew d → ∃ e,
        d.find (d.goal entry (destination.child entry.name)) = .ok (place, e)) ∧
      ∀ k, k ≠ place → written.tree.content? k = j.disk.tree.content? k := by
  obtain ⟨read, place, -, ho, hgrew, hfilled⟩ := h.writes hp
  have hp' := (h.opens hp).1.proper
  refine ⟨place, fun d hd => ?_, fun k hk => ?_⟩
  · have hlater := hgrew.trans hd
    have hread : d.tree.content? place ≠ none := by
      apply hd.grown.content?_ne_none
      rw [Tree.content?_of_some hfilled.held]
      exact content?_filled _ _
    obtain ⟨e, he⟩ := Option.ne_none_iff_exists'.1 (Tree.get?_ne_none_of_content hread)
    have hfind := Disk.find_of_openForWriting hp'.grounded (hp'.starts _) ho hlater.here
      hlater.grown he
    refine ⟨e, ?_⟩
    -- The target is a directory later on if and only if it was one when it was written.
    by_cases hdir : opened.isDirectoryAt (destination.child entry.name) = true
    · obtain ⟨l, hl⟩ := Disk.isDirectoryAt_eq_true_iff.1 hdir
      obtain ⟨hshort, hl⟩ := Disk.find_eq_directory_iff.1 hl
      have hl' := Disk.find_eq_directory_iff.2 ⟨hshort, hlater.enters hl⟩
      have hdir' : d.isDirectoryAt (destination.child entry.name) = true :=
        Disk.isDirectoryAt_eq_true_iff.2 ⟨l, hl'⟩
      rw [Disk.goal, if_pos hdir] at hfind
      rwa [Disk.goal, if_pos hdir']
    · rw [Disk.goal, if_neg hdir] at hfind
      rwa [Disk.goal_of_not_directory]
      intro l hl
      rw [hfind] at hl
      cases hl
      exact hread (Tree.content?_of_directory he)
  · rw [← h.content?_opened hp, Tree.content?, hfilled.others k hk, Tree.content?]

theorem Copied.content?_source {read : ByteArray}
    (h : Copied overwrite (source.descend rel) destination j opened written) (hp : j.disk.Proper)
    (hl : j.disk.Enters source l) (hfree : j.disk.tree.LinkFreeBelow l)
    (hnames : ∀ part ∈ rel, IsName part)
    (hread : opened.readBytes (source.descend rel) = .ok read) :
    j.disk.tree.content? (rel.reverse ++ l) = some read := by
  obtain ⟨-, k, e, hfind, he⟩ := Disk.readBytes_eq_ok_iff.1 hread
  have hopened := (h.opens hp).1
  have hk := (hopened.enters hl).find_descend (hfree.of_grown hopened.grown) hnames hfind
  have hget := Disk.found_of_seek hopened.proper.grounded (hopened.proper.starts _)
    (Disk.find_eq_ok_iff.1 hfind)
  rw [← hk, ← h.content?_opened hp, Tree.content?_of_some hget, he]

end Step

namespace Copies

theorem written_at (h : Copies overwrite source destination rels j j') (hp : j.disk.Proper)
    (hbefore : j.disk.tree.content? k = none) (hafter : j'.disk.tree.content? k ≠ none) :
    ∃ rel ∈ rels, ∀ d, j'.disk.Grew d → ∃ e,
      d.find (d.goal (source.descend rel) (destination.descend rel)) = .ok (k, e) := by
  induction h with
  | nil => exact absurd hbefore hafter
  | cons way name hnames h hrest ih =>
    obtain ⟨opened, written, hc, rfl⟩ := copyOne_eq_ok h
    obtain ⟨place, hfinds, hothers⟩ := hc.written_at hp
    have hp' := (hc.grew hp).proper
    by_cases hk : k = place
    · subst hk
      refine ⟨_, List.mem_cons_self, fun d hd => ?_⟩
      rw [← Path.descend_child, Path.name_child] at hfinds
      rw [← Path.descend_child, ← Path.descend_child]
      exact hfinds d ((hrest.grew hp').trans hd)
    · have hnone : written.tree.content? k = none := (hothers k hk).trans hbefore
      obtain ⟨rel, hrel, hfind⟩ := ih hp' hnone hafter
      exact ⟨rel, List.mem_cons_of_mem _ hrel, hfind⟩

theorem split (h : Copies overwrite source destination (before ++ rel :: after) j j') :
    ∃ way name j₁ j₂, rel = way ++ [name] ∧ (∀ part ∈ way ++ [name], Named part) ∧
      Copies overwrite source destination before j j₁ ∧
      copyOne overwrite (source.descend (way ++ [name])) (destination.descend way) j₁ = .ok () j₂ ∧
      Copies overwrite source destination after j₂ j' := by
  induction before generalizing j with
  | nil =>
    cases h with
    | cons way name hnames h hrest => exact ⟨way, name, j, _, rfl, hnames, .nil, h, hrest⟩
  | cons first before ih =>
    cases h with
    | cons first last hnames h hrest =>
      obtain ⟨way, name, j₁, j₂, hrel, hnames', hbefore, hone, hafter⟩ := ih hrest
      exact ⟨way, name, j₁, j₂, hrel, hnames', .cons first last hnames h hbefore, hone, hafter⟩

theorem content?_source (h : Copies overwrite source destination (before ++ rel :: after) j j')
    (hp : j.disk.Proper) (hl : j.disk.Enters source l) (hfree : j.disk.tree.LinkFreeBelow l) :
    ∃ j₁, Copies overwrite source destination before j j₁ ∧ j₁.disk.Grew j'.disk ∧
      j₁.disk.tree.content? (rel.reverse ++ l) ≠ none := by
  obtain ⟨way, name, j₁, j₂, rfl, hnames, hbefore, hone, hafter⟩ := h.split
  have hgrew := hbefore.grew hp
  have hgrew₂ := grew_of_copyOne hgrew.proper hone
  refine ⟨j₁, hbefore, hgrew₂.trans (hafter.grew hgrew₂.proper), ?_⟩
  obtain ⟨opened, written, hc, -⟩ := copyOne_eq_ok hone
  obtain ⟨read, -, hread, -⟩ := hc.writes hgrew.proper
  have hcontent := hc.content?_source hgrew.proper (hgrew.enters hl) (hfree.of_grown hgrew.grown)
    (fun part hpart => (hnames part hpart).isName) hread
  rw [hcontent]
  simp

theorem named (h : Copies overwrite source destination rels j j') (hrel : rel ∈ rels) :
    rel ≠ [] ∧ ∀ part ∈ rel, Named part := by
  obtain ⟨before, after, rfl⟩ := List.append_of_mem hrel
  obtain ⟨way, name, -, -, rfl, hnames, -⟩ := h.split
  exact ⟨by simp, hnames⟩

end Copies

/-- A file that a run has taken and written itself: nothing was there when the run began, only the
first directory on the way, and it is where an earlier file was copied. -/
structure Own (source destination : Path) (l : Location) (rels : List (List String)) (d d' : Disk)
    (rel : List String) : Prop where
  absent : d.tree.get? (rel.reverse ++ l) = none
  listed : ∃ name rest, rel = name :: rest ∧ d.tree.get? (name :: l) ≠ none
  earlier : ∃ rel' ∈ rels, rel' < rel ∧ ∃ e,
    d'.find (d'.goal (source.descend rel') (destination.descend rel')) = .ok (rel.reverse ++ l, e)

section Own

variable {sel : Selection} {place : Location} {d d' : Disk}

theorem get?_eq_none_of_grown {t t' : Tree} (hgr : t.Grown t') (h : t.content? k = none)
    (h' : t'.content? k ≠ none) : t.get? k = none := by
  by_contra hsome
  obtain ⟨e, he⟩ := Option.ne_none_iff_exists'.1 hsome
  cases e with
  | directory => exact h' (Tree.content?_of_directory (hgr.directory k he))
  | link target => exact h' (Tree.content?_of_some (hgr.link k target he))
  | file bytes => simp [Tree.content?_of_some he, Entry.content?] at h
  | sink => simp [Tree.content?_of_some he, Entry.content?] at h

theorem Visited.chooses_or_own (hp : j.disk.Proper) (hl : j.disk.Enters source l)
    (hfree : j.disk.tree.LinkFreeBelow l)
    (h : Visited overwrite sel source destination l (j.disk.tree.sortedNames l) rels j j')
    (hrel : rel ∈ rels) :
    sel.Chooses j.disk.tree source l rel ∨ Own source destination l rels j.disk j'.disk rel := by
  obtain ⟨name, hname, rest, hcons⟩ := h.listed rel hrel
  have hpicked := h.picked rel hrel
  obtain ⟨before, after, rfl⟩ := List.append_of_mem hrel
  obtain ⟨j₁, hbefore, hlater, hread⟩ := h.copies.content?_source hp hl hfree
  -- A file that could not be read when the run began is a copy made earlier in the run.
  by_cases hthere : j.disk.tree.content? (rel.reverse ++ l) = none
  · obtain ⟨rel', hrel', hfinds⟩ := hbefore.written_at hp hthere hread
    have hlt : rel' < rel :=
      (List.pairwise_append.1 h.sorted).2.2 rel' hrel' rel List.mem_cons_self
    exact .inr ⟨get?_eq_none_of_grown (hbefore.grew hp).grown hthere hread,
      ⟨name, rest, hcons, Tree.mem_sortedNames_iff.1 hname⟩,
      rel', List.mem_append_left _ hrel', hlt, hfinds _ hlater⟩
  · exact .inl ⟨hpicked, hthere⟩

theorem Own.below_destination (hnames : ∀ rel ∈ rels, rel ≠ [] ∧ ∀ part ∈ rel, Named part)
    (hplace : d'.Enters destination place) (hfree : d'.tree.LinkFreeBelow place)
    (h : Own source destination l rels d d' rel) : place <:+ rel.reverse ++ l := by
  obtain ⟨rel', hrel', -, e, hfind⟩ := h.earlier
  obtain ⟨hne, hparts⟩ := hnames rel' hrel'
  obtain ⟨names, hnames', hgoal⟩ : ∃ names, (∀ part ∈ names, IsName part) ∧
      d'.goal (source.descend rel') (destination.descend rel') = destination.descend names := by
    rw [Disk.goal]
    split
    · obtain rfl | ⟨way, name, rfl⟩ := rel'.eq_nil_or_concat'
      · exact absurd rfl hne
      · rw [Path.name_descend, Path.descend_child]
        refine ⟨_, fun part hpart => ?_, rfl⟩
        rcases List.mem_append.1 hpart with hpart | hpart
        · exact (hparts part hpart).isName
        · rw [List.mem_singleton.1 hpart]
          exact (hparts name (by simp)).isName
    · exact ⟨rel', fun part hpart => (hparts part hpart).isName, rfl⟩
  rw [hgoal] at hfind
  rw [hplace.find_descend hfree hnames' hfind]
  exact List.suffix_append _ _

end Own

/-- A run is the same under all limits that no path reaches, and none of these ends it. If a run
comes to its end, what it has copied are all files that it had to copy from what was there when it
began, and otherwise its own only; where neither directory holds the other, there are none of
these. -/
theorem performWithin_visits (t : CopyTask) (j : CopyJob) (hp : j.disk.Proper) {source : Path}
    {l : Location} (hsource : j.disk.resolve t.source = .ok source) (hl : j.disk.Enters source l)
    (hfree : j.disk.tree.LinkFreeBelow l) :
    (∀ limit, unreached ≤ limit → t.performWithin limit j = t.performWithin unreached j ∧
      ∀ j', t.performWithin limit j ≠ .error .tooDeep j') ∧
    ∀ limit j', t.performWithin limit j = .ok () j' → ∃ sel rels,
      Selection.ofPatterns t.included t.excluded = .ok sel ∧ rels.Pairwise (· < ·) ∧
      j'.copied = rels.map (fun rel => (t.destination.descend rel).toText) ∧
      (∀ rel, sel.Chooses j.disk.tree source l rel → rel ∈ rels) ∧
      (∀ rel ∈ rels, sel.Chooses j.disk.tree source l rel ∨
        Own source t.destination l rels j.disk j'.disk rel) ∧
      ∀ place, j'.disk.Enters t.destination place → j.disk.tree.LinkFreeBelow place →
        ¬place <:+ l → ¬l <:+ place → ∀ rel ∈ rels, sel.Chooses j.disk.tree source l rel := by
  constructor
  · intro limit hlimit
    obtain ⟨hsame, hends⟩ := performWithin_unreached t hlimit
    exact ⟨congrFun hsame j, hends j⟩
  · intro limit j' h
    obtain ⟨sel, rels, hsel, hv⟩ := visited_of_performWithin hp hsource hl hfree h
    have hp' : (t.begun j).disk.Proper := hp
    have hl' : (t.begun j).disk.Enters source l := hl
    have hgrown := (hv.copies.grew hp').grown
    have horigin : ∀ rel ∈ rels, sel.Chooses j.disk.tree source l rel ∨
        Own source t.destination l rels j.disk j'.disk rel :=
      fun _ => hv.chooses_or_own (j := t.begun j) hp' hl' hfree
    refine ⟨sel, rels, hsel, hv.sorted, hv.copies.copied_eq, ?_, horigin, ?_⟩
    · intro rel hrel
      exact hv.mem_of_chooses hp' hl' hrel
    · intro place hplace hfree' hout hin rel hrel
      rcases horigin rel hrel with hchosen | hown
      · exact hchosen
      -- What is the run's own lies below the source and below the destination.
      · have hbelow := hown.below_destination (fun rel => hv.copies.named) hplace
          (hfree'.of_grown hgrown)
        rcases List.suffix_or_suffix_of_suffix hbelow (List.suffix_append rel.reverse l) with
          hsuffix | hsuffix
        · exact absurd hsuffix hout
        · exact absurd hsuffix hin

def nested : CopyJob where
  disk :=
    { tree := ⟨[(["src"], .directory), (["a", "src"], .file (Text.Utf8.encode "1")),
        (["z", "src"], .directory)]⟩
      here := [] }
  messages := []
  copied := []

def nestedTask : CopyTask where
  source := .ofText "src"
  destination := .ofText "src/z"
  overwrite := false
  included := none
  excluded := none

theorem nested_proper : nested.disk.Proper :=
  ⟨Tree.proper_of_isProper (by decide +kernel), rfl⟩

theorem nested_source : nested.disk.resolve nestedTask.source = .ok (.absolute ["src"]) := by
  rfl

theorem nested_chooses {sel : Selection} {rel : List String}
    (h : sel.Chooses nested.disk.tree (.absolute ["src"]) ["src"] rel) : rel = ["a"] := by
  obtain ⟨e, he⟩ := Option.ne_none_iff_exists'.1 (Tree.get?_ne_none_of_content h.there)
  have hmem := Tree.mem_entries_of_get? (by simp) he
  have hread := h.there
  rw [Tree.content?_of_some he] at hread
  simp only [nested, List.mem_cons, Prod.mk.injEq, List.not_mem_nil, or_false] at hmem
  rcases hmem with ⟨-, rfl⟩ | ⟨heq, -⟩ | ⟨-, rfl⟩
  · exact absurd rfl hread
  · have hsame : rel.reverse ++ ["src"] = ["a"] ++ ["src"] := heq
    simpa using congrArg List.reverse (List.append_cancel_right hsame)
  · exact absurd rfl hread

theorem nested_list : nested.disk.list (.absolute ["src"]) = .ok ["a", "z"] :=
  Disk.list_of_pairwise (l := ["src"]) (by decide +kernel) (by rfl) (by decide +kernel)

theorem nested_run (limit : Nat) : nestedTask.performWithin (limit + 1) nested =
    copyEntries (copyTree ⟨none, none⟩ false limit) ⟨none, none⟩ false (.absolute ["src"])
      (.ofText "src/z") ["a", "z"] (nestedTask.begun nested) := by
  rw [performWithin_of_ok rfl nested_source, copyTree, if_neg (by decide +kernel)]
  exact bind_of_ok (CopyJob.asking_of_ok nested_list)

theorem nested_copied : ∃ j', nestedTask.perform nested = .ok () j' ∧
    j'.copied = ["src/z/a", "src/z/z/a"] := by
  have hrun : nestedTask.perform.leaves nested
      (fun j' => decide (j'.copied = ["src/z/a", "src/z/z/a"])) = true := by
    rw [leaves, perform_eq, deepest, nested_run]
    decide +kernel
  obtain ⟨_, j', hok, hcopied⟩ := ok_of_leaves hrun
  exact ⟨j', hok, of_decide_eq_true hcopied⟩

theorem performWithin_visits_nested : nested.disk.Proper ∧
    nested.disk.resolve nestedTask.source = .ok (.absolute ["src"]) ∧
    nested.disk.Enters (.absolute ["src"]) ["src"] ∧ nested.disk.tree.LinkFreeBelow ["src"] ∧
    ∃ j' rels rel, nestedTask.performWithin deepest nested = .ok () j' ∧ rel ∈ rels ∧
      Own (.absolute ["src"]) nestedTask.destination ["src"] rels nested.disk j'.disk rel := by
  have hl : nested.disk.Enters (.absolute ["src"]) ["src"] :=
    (Disk.find_eq_directory_iff.1 (by rfl)).2
  have hfree : nested.disk.tree.LinkFreeBelow ["src"] :=
    fun k target _ => Tree.linkFree_of_isLinkFree (by decide +kernel) k target
  refine ⟨nested_proper, nested_source, hl, hfree, ?_⟩
  obtain ⟨j', hrun, hcopied⟩ := nested_copied
  obtain ⟨sel, rels, -, hsorted, hrels, -, horigin, -⟩ :=
    (performWithin_visits nestedTask nested nested_proper nested_source hl hfree).2 deepest j' hrun
  rw [hcopied] at hrels
  obtain ⟨rel, rel', rfl⟩ : ∃ rel rel', rels = [rel, rel'] := by
    apply List.length_eq_two.1
    simpa using (congrArg List.length hrels).symm
  have hlt : rel < rel' := by simpa using hsorted
  -- There was one file to be copied, so one of the two is the run's own.
  rcases horigin rel (by simp) with hchosen | hown
  · rcases horigin rel' (by simp) with hchosen' | hown
    · rw [nested_chooses hchosen, nested_chooses hchosen'] at hlt
      exact absurd hlt (List.lt_irrefl _)
    · exact ⟨j', _, rel', hrun, by simp, hown⟩
  · exact ⟨j', _, rel, hrun, by simp, hown⟩

theorem perform_nested : ∃ j', nestedTask.perform nested = .ok () j' ∧
    j'.copied = ["src/z/a", "src/z/z/a"] ∧
    ∀ (sel : Selection) rel, sel.Chooses nested.disk.tree (.absolute ["src"]) ["src"] rel →
      rel = ["a"] := by
  obtain ⟨j', hrun, hcopied⟩ := nested_copied
  exact ⟨j', hrun, hcopied, fun _ _ => nested_chooses⟩

end CopyTask

end BuildScripts

import BuildScripts.Proofs.Task.Replaced

namespace BuildScripts

open Attempt

namespace CopyTask

structure Faithful (source destination : Path) (rels : List (List String)) (d d' : Disk) :
    Prop where
  files : ∀ rel ∈ rels, ∃ k bytes, d'.find (destination.descend rel) = .ok (k, .file bytes) ∧
    d'.readBytes (source.descend rel) = .ok bytes
  others : ∀ k, d'.tree.get? k ≠ d.tree.get? k →
    (∃ rel ∈ rels, ∃ e, d'.find (destination.descend rel) = .ok (k, e)) ∨
      d.tree.get? k = none ∧ d'.tree.get? k = some .directory

section Faithful

variable {overwrite : Bool} {source destination : Path} {place : Location}
  {rels : List (List String)} {j j' : CopyJob} {d d' : Disk}

theorem Replaced.faithful (h : Replaced source destination place rels d d')
    (hnot : ∀ rel ∈ rels, d'.tree.get? (rel.reverse ++ place) ≠ some .directory)
    (hp : d'.Proper) : Faithful source destination rels d d' where
  files rel hrel := by
    obtain ⟨e, hfind⟩ := h.found rel hrel
    obtain ⟨bytes, hread, hfile⟩ := h.files rel hrel
    rw [Tree.goalAt_of_not_directory (hnot rel hrel)] at hfile
    have hget := Disk.found_of_seek hp.grounded (hp.starts _) (Disk.find_eq_ok_iff.1 hfind)
    rw [hfile] at hget
    cases hget
    exact ⟨_, bytes, hfind, hread⟩
  others k hk := by
    rcases h.others k hk with ⟨rel, hrel, rfl⟩ | hnew
    · rw [Tree.goalAt_of_not_directory (hnot rel hrel)]
      exact .inl ⟨rel, hrel, h.found rel hrel⟩
    · exact .inr hnew

theorem Faithful.not_directory (h : Faithful source destination rels d d') {rel : List String}
    (hrel : rel ∈ rels) (l : Location) :
    d'.find (destination.descend rel) ≠ .ok (l, .directory) := by
  obtain ⟨k, bytes, hfind, -⟩ := h.files rel hrel
  rw [hfind]
  simp

theorem Replaced.find_of_directory (h : Replaced source destination place rels d d')
    (hp : d'.Proper) {rel : List String} (hrel : rel ∈ rels)
    (hdir : d'.tree.get? (rel.reverse ++ place) = some .directory) :
    d'.find (destination.descend rel) = .ok (rel.reverse ++ place, .directory) := by
  obtain ⟨e, hfind⟩ := h.found rel hrel
  have hget := Disk.found_of_seek hp.grounded (hp.starts _) (Disk.find_eq_ok_iff.1 hfind)
  rw [hdir] at hget
  cases hget
  exact hfind

theorem Spread.directory_before (h : Spread overwrite source destination rels j j')
    (hp : j.disk.Proper) (hup : j.disk.Steady destination) (hparts : destination.Parted)
    (hplace : j'.disk.Enters destination place) (hfree : j.disk.tree.LinkFreeBelow place)
    (hr : Replaced source destination place rels j.disk j'.disk) {rel : List String}
    (hrel : rel ∈ rels) (hdir : j'.disk.tree.get? (rel.reverse ++ place) = some .directory) :
    j.disk.tree.get? (rel.reverse ++ place) = some .directory := by
  by_contra hnot
  have hchanged : j'.disk.tree.get? (rel.reverse ++ place) ≠
      j.disk.tree.get? (rel.reverse ++ place) := by
    rw [hdir]
    exact Ne.symm hnot
  rcases hr.others _ hchanged with ⟨rel', hrel', heq⟩ | ⟨hnone, -⟩
  · obtain ⟨bytes, -, hfile⟩ := hr.files rel' hrel'
    rw [← heq, hdir] at hfile
    cases hfile
  · obtain ⟨way, name, hmem, hk⟩ :=
      h.copies.holds_new_directory hp hup hparts hplace hfree hnone hdir
    have hle : rel <+: way := prefix_of_suffix hk
    have hne : rel ≠ way ++ [name] := by
      rintro rfl
      have hlength := hle.length_le
      rw [List.length_append, List.length_singleton] at hlength
      omega
    exact (h.apart.forall hrel hmem hne).1 (hle.trans (List.prefix_append way [name]))

theorem records_chosen {t : CopyTask} {l : Location} (hp : j.disk.Proper)
    (hsource : j.disk.resolve t.source = .ok source) (hl : j.disk.Enters source l)
    (hfree : j.disk.tree.LinkFreeBelow l) (h : t.perform j = .ok () j') :
    ∃ sel, Selection.ofPatterns t.included t.excluded = .ok sel ∧
      ∀ rel, sel.Chooses j.disk.tree source l rel →
        (t.destination.descend rel).toText ∈ j'.copied := by
  obtain ⟨sel, rels, hsel, hv⟩ := visited_of_performWithin hp hsource hl hfree h
  refine ⟨sel, hsel, fun rel hrel => ?_⟩
  rw [hv.copies.copied_eq]
  apply List.mem_append_right
  exact List.mem_map_of_mem (hv.mem_of_chooses (j := t.begun j) hp hl hrel)

end Faithful

/-- Where files and directories only are below the place of the destination and the source keeps
away from it, a task that comes to its end has recorded all files that it had to copy, and of the
files recorded none is at another one or below it. All of them stand where they are recorded, and
nothing else but new directories has changed, if and only if no path recorded leads to a directory:
into such a directory its file has been copied. If the destination goes up only from directories
that are there, these directories were there before. -/
theorem perform_faithful_iff (t : CopyTask) (j j' : CopyJob) (hp : j.disk.Proper) {source : Path}
    (hsource : j.disk.resolve t.source = .ok source) (h : t.perform j = .ok () j')
    (hplain : ∀ place, j'.disk.Enters t.destination place → j.disk.tree.PlainBelow place)
    (havoids : ∀ place, j'.disk.Enters t.destination place → j'.disk.Avoids source place) :
    (∀ l, j.disk.Enters source l → j.disk.tree.LinkFreeBelow l →
      ∃ sel, Selection.ofPatterns t.included t.excluded = .ok sel ∧
        ∀ rel, sel.Chooses j.disk.tree source l rel →
          (t.destination.descend rel).toText ∈ j'.copied) ∧
    ∃ rels, j'.copied = rels.map (fun rel => (t.destination.descend rel).toText) ∧
      rels.Pairwise (IncompRel (· <+: ·)) ∧ (rels = [] → j'.disk = j.disk) ∧
      (rels ≠ [] → ∃ place, j'.disk.Enters t.destination place) ∧
      (∀ place, j'.disk.Enters t.destination place →
        Replaced source t.destination place rels j.disk j'.disk ∧
          ∀ names, (∀ part ∈ names, IsName part) → ∀ k e,
            j'.disk.find (source.descend names) = .ok (k, e) → e ≠ .directory →
              j.disk.tree.get? k = some e) ∧
      (Faithful source t.destination rels j.disk j'.disk ↔
        ∀ rel ∈ rels, ∀ l, j'.disk.find (t.destination.descend rel) ≠ .ok (l, .directory)) ∧
      (j.disk.Steady t.destination → t.destination.Parted →
        ∀ place, j'.disk.Enters t.destination place →
          (Faithful source t.destination rels j.disk j'.disk ↔
            ∀ rel ∈ rels, j.disk.tree.get? (rel.reverse ++ place) ≠ some .directory)) := by
  obtain ⟨rels, hs⟩ := spread_of_perform hp hsource h
  have hp' : (t.begun j).disk.Proper := hp
  have hgrew : j.disk.Grew j'.disk := hs.copies.grew hp'
  have hreplaced : ∀ place, j'.disk.Enters t.destination place →
      Replaced source t.destination place rels j.disk j'.disk :=
    fun place hplace =>
      hs.copies.replaced hp' hs.apart hplace (hplain place hplace) (havoids place hplace)
  have hempty : rels = [] → j'.disk = j.disk := by
    rintro rfl
    cases hs.copies
    rfl
  have hplaces : rels ≠ [] → ∃ place, j'.disk.Enters t.destination place :=
    hs.copies.enters hp'
  refine ⟨?_, rels, hs.copies.copied_eq, hs.apart, hempty, hplaces, ?_, ?_, ?_⟩
  · intro l hl hfree
    exact records_chosen hp hsource hl hfree h
  · intro place hplace
    have hr := hreplaced place hplace
    refine ⟨hr, fun names hnames k e hfind he => ?_⟩
    exact hr.get?_of_avoids hgrew.proper (havoids place hplace) hnames hfind he
  · constructor
    · intro hf rel hrel l
      exact hf.not_directory hrel l
    · intro hnot
      by_cases hne : rels = []
      · subst hne
        exact ⟨by simp, fun k hk => absurd (by rw [hempty rfl]) hk⟩
      · obtain ⟨place, hplace⟩ := hplaces hne
        have hr := hreplaced place hplace
        apply hr.faithful ?_ hgrew.proper
        intro rel hrel hdir
        exact hnot rel hrel _ (hr.find_of_directory hgrew.proper hrel hdir)
  · intro hup hparts place hplace
    have hr := hreplaced place hplace
    constructor
    · intro hf rel hrel hdir
      exact hf.not_directory hrel _
        (hr.find_of_directory hgrew.proper hrel (hgrew.grown.directory _ hdir))
    · intro hnot
      apply hr.faithful ?_ hgrew.proper
      intro rel hrel hdir
      exact hnot rel hrel
        (hs.directory_before hp' hup hparts hplace (hplain place hplace).linkFree hr hrel hdir)

def standing (e : Entry) : CopyJob where
  disk :=
    { tree := ⟨[(["src"], .directory), (["f", "src"], .file (Text.Utf8.encode "new")),
        (["out"], .directory), (["f", "out"], e)]⟩
      here := [] }
  messages := []
  copied := []

def standingTask : CopyTask where
  source := .ofText "src"
  destination := .ofText "out"
  overwrite := true
  included := none
  excluded := none

def oldFile : Entry := .file (Text.Utf8.encode "old")

theorem standing_plain {e : Entry} (he : e = .directory ∨ e = oldFile) (l : Location) :
    (standing e).disk.tree.PlainBelow l := by
  intro k e' _ hget
  by_cases hk : k = []
  · subst hk
    exact .inl (Option.some.inj hget).symm
  · have hmem := Tree.mem_entries_of_get? hk hget
    simp only [standing, List.mem_cons, Prod.mk.injEq, List.not_mem_nil, or_false] at hmem
    rcases hmem with ⟨-, rfl⟩ | ⟨-, rfl⟩ | ⟨-, rfl⟩ | ⟨-, rfl⟩
    · exact .inl rfl
    · exact .inr ⟨_, rfl⟩
    · exact .inl rfl
    · exact he.imp id fun hfile => ⟨_, hfile⟩

theorem standing_proper {e : Entry} (he : e = .directory ∨ e = oldFile) :
    (standing e).disk.Proper := by
  rcases he with rfl | rfl
  · exact ⟨Tree.proper_of_isProper (by decide +kernel), rfl⟩
  · exact ⟨Tree.proper_of_isProper (by decide +kernel), rfl⟩

def standingTest (goal : Location) (j' : CopyJob) : Bool :=
  j'.copied = ["out/f"] && j'.disk.findsDirectory standingTask.destination ["out"] &&
    j'.disk.findsDirectory (.absolute ["src"]) ["src"] && j'.disk.tree.isLinkFree &&
    j'.disk.tree.holdsFile goal (fun bytes => bytes == Text.Utf8.encode "new")

theorem standing_left {goal : Location} {j' : CopyJob} (h : standingTest goal j' = true) :
    j'.copied = ["out/f"] ∧ j'.disk.Enters standingTask.destination ["out"] ∧
      (∀ place, j'.disk.Enters standingTask.destination place →
        j'.disk.Avoids (.absolute ["src"]) place) ∧
      ∃ bytes, j'.disk.tree.get? goal = some (.file bytes) := by
  simp only [standingTest, Bool.and_eq_true, decide_eq_true_eq] at h
  obtain ⟨⟨⟨⟨hcopied, hout⟩, hsource⟩, hfree⟩, hfile⟩ := h
  have hout' := (Disk.find_eq_directory_iff.1 (Disk.findsDirectory_iff.1 hout)).2
  obtain ⟨bytes, hget, -⟩ := Tree.file_of_holdsFile hfile
  refine ⟨hcopied, hout', fun place hplace => ?_, bytes, hget⟩
  rw [hout'.unique hplace]
  have hl := (Disk.find_eq_directory_iff.1 (Disk.findsDirectory_iff.1 hsource)).2
  exact Disk.avoids_of_linkFree hl
    (fun k target _ => Tree.linkFree_of_isLinkFree hfree k target) (by decide) (by decide)

theorem standing_text {rels : List (List String)} {rel : List String}
    (hrels : ["out/f"] = rels.map fun rel => (standingTask.destination.descend rel).toText)
    (hrel : rel ∈ rels) : (standingTask.destination.descend rel).toText = "out/f" := by
  rw [← List.mem_singleton, hrels]
  exact List.mem_map_of_mem hrel

theorem perform_faithful_iff_standing :
    ((standing .directory).disk.Proper ∧ ∃ j' rels,
      standingTask.perform (standing .directory) = .ok () j' ∧ j'.copied = ["out/f"] ∧
      ["f"] ∈ rels ∧ ¬Faithful (.absolute ["src"]) standingTask.destination rels
        (standing .directory).disk j'.disk) ∧
    (standing oldFile).disk.Proper ∧ ∃ j' rels,
      standingTask.perform (standing oldFile) = .ok () j' ∧ j'.copied = ["out/f"] ∧ rels ≠ [] ∧
      Faithful (.absolute ["src"]) standingTask.destination rels (standing oldFile).disk
        j'.disk := by
  have hparts : standingTask.destination.Parted := Path.parted_ofText _
  have hup : ∀ e, (standing e).disk.Steady standingTask.destination :=
    fun e => Disk.steady_of_no_up (by decide +kernel)
  have hsource : ∀ e, (standing e).disk.resolve standingTask.source = .ok (.absolute ["src"]) := by
    intro e
    rfl
  constructor
  · have hproper := standing_proper (e := .directory) (.inl rfl)
    obtain ⟨_, j', hrun, htest⟩ : ∃ a j', standingTask.perform (standing .directory) = .ok a j' ∧
        standingTest ["f", "f", "out"] j' = true := ok_of_leaves (by decide +kernel)
    obtain ⟨hcopied, hout, havoids, bytes, hfile⟩ := standing_left htest
    obtain ⟨-, rels, hrels, -, -, -, hreplaced, -, hiff⟩ := perform_faithful_iff standingTask _ j'
      hproper (hsource _) hrun (fun place _ => standing_plain (.inl rfl) place) havoids
    have hchanged : j'.disk.tree.get? ["f", "f", "out"] ≠
        (standing .directory).disk.tree.get? ["f", "f", "out"] := by
      rw [hfile]
      exact Option.some_ne_none _
    have hmem : ["f"] ∈ rels := by
      rcases (hreplaced _ hout).1.others _ hchanged with ⟨rel, hrel, hgoal⟩ | ⟨-, hdir⟩
      · have htext := standing_text (hcopied.symm.trans hrels) hrel
        have hrel' : rel = ["f"] ∨ rel = ["f", "f"] := by
          rcases Tree.goalAt_cases j'.disk.tree (rel.reverse ++ ["out"]) with h | ⟨name, h⟩
          · rw [h] at hgoal
            have hreverse : ["f", "f"] = rel.reverse := List.append_cancel_right hgoal
            exact .inr (List.reverse_eq_iff.1 hreverse.symm)
          · rw [h] at hgoal
            have hreverse : ["f"] = rel.reverse :=
              List.append_cancel_right (List.cons.inj hgoal).2
            exact .inl (List.reverse_eq_iff.1 hreverse.symm)
        rcases hrel' with rfl | rfl
        · exact hrel
        · exact absurd htext (by decide +kernel)
      · rw [hfile] at hdir
        cases hdir
    refine ⟨hproper, j', rels, hrun, hcopied, hmem, ?_⟩
    rw [hiff (hup _) hparts _ hout]
    intro hnot
    exact hnot _ hmem rfl
  · have hproper := standing_proper (e := oldFile) (.inr rfl)
    obtain ⟨_, j', hrun, htest⟩ : ∃ a j', standingTask.perform (standing oldFile) = .ok a j' ∧
        standingTest ["f", "out"] j' = true := ok_of_leaves (by decide +kernel)
    obtain ⟨hcopied, hout, havoids, -⟩ := standing_left htest
    obtain ⟨-, rels, hrels, -, -, -, -, -, hiff⟩ := perform_faithful_iff standingTask _ j'
      hproper (hsource _) hrun (fun place _ => standing_plain (.inr rfl) place) havoids
    refine ⟨hproper, j', rels, hrun, hcopied, ?_, ?_⟩
    · rintro rfl
      rw [hcopied] at hrels
      cases hrels
    · rw [hiff (hup _) hparts _ hout]
      intro rel hrel hdir
      have hmem := Tree.mem_entries_of_get? (by simp) hdir
      have hnil : rel = [] := by
        simp only [standing, oldFile, List.mem_cons, Prod.mk.injEq, reduceCtorEq, and_true,
          and_false, List.not_mem_nil, or_false, false_or] at hmem
        rcases hmem with hlast | hlast
        · simpa using congrArg List.getLast? hlast
        · simpa using hlast
      subst hnil
      exact absurd (standing_text (hcopied.symm.trans hrels) hrel) (by decide +kernel)

end CopyTask

end BuildScripts

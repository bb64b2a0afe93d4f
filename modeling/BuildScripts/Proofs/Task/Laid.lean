import BuildScripts.Proofs.Task.Origins

namespace BuildScripts

open Attempt

namespace CopyTask

/-- Files from below one place have been laid below another: they stand where nothing was, in
directories, and nothing else has changed. -/
structure Laid (l place : Location) (rels : List (List String)) (t t' : Tree) : Prop where
  files : ∀ rel ∈ rels, t.get? (rel.reverse ++ place) = none ∧
    ∃ bytes, t.content? (rel.reverse ++ l) = some bytes ∧
      t'.get? (rel.reverse ++ place) = some (.file bytes)
  held : ∀ rel ∈ rels, ∀ k, k <:+ rel.reverse ++ place → k ≠ rel.reverse ++ place →
    t'.get? k = some .directory
  others : ∀ k, t'.get? k ≠ t.get? k →
    t.get? k = none ∧ ∃ rel ∈ rels, k <:+ rel.reverse ++ place

section Laid

variable {t t₁ t' : Tree} {l place k : Location} {rel : List String} {rels : List (List String)}

namespace Laid

theorem nil (l place : Location) (t : Tree) : Laid l place [] t t where
  files := by simp
  held := by simp
  others k hk := absurd rfl hk

theorem get?_eq (h : Laid l place rels t t') (hk : t.get? k ≠ none) : t'.get? k = t.get? k := by
  by_contra hne
  exact hk (h.others k hne).1

theorem get?_source (h : Laid l place rels t t') (hout : ¬place <:+ l) (hin : ¬l <:+ place)
    (hk : l <:+ k) : t'.get? k = t.get? k := by
  by_contra hne
  obtain ⟨-, rel, -, hsuffix⟩ := h.others k hne
  rcases List.suffix_or_suffix_of_suffix (hk.trans hsuffix) (List.suffix_append _ place) with
    hl | hl
  · exact hin hl
  · exact hout hl

theorem cons (h : Laid l place [rel] t t₁) (h' : Laid l place rels t₁ t') (hgr : t.Grown t₁)
    (hout : ¬place <:+ l) (hin : ¬l <:+ place) : Laid l place (rel :: rels) t t' where
  files := by
    rw [List.forall_mem_cons]
    constructor
    · obtain ⟨hfree, bytes, hsource, hfile⟩ := h.files rel List.mem_cons_self
      refine ⟨hfree, bytes, hsource, ?_⟩
      rw [h'.get?_eq (by simp [hfile]), hfile]
    · intro rel' hrel'
      obtain ⟨hfree, bytes, hsource, hfile⟩ := h'.files rel' hrel'
      have hsame := h.get?_source hout hin (List.suffix_append rel'.reverse l)
      refine ⟨?_, bytes, ?_, hfile⟩
      · by_contra hsome
        exact hgr.get?_ne_none hsome hfree
      · rwa [Tree.content?, hsame] at hsource
  held := by
    rw [List.forall_mem_cons]
    refine ⟨fun k hk hne => ?_, h'.held⟩
    have hdir := h.held rel List.mem_cons_self k hk hne
    rw [h'.get?_eq (by simp [hdir]), hdir]
  others k hk := by
    by_cases hfirst : t₁.get? k = t.get? k
    · rw [← hfirst] at hk ⊢
      obtain ⟨hfree, rel', hrel', hsuffix⟩ := h'.others k hk
      exact ⟨hfree, rel', List.mem_cons_of_mem _ hrel', hsuffix⟩
    · obtain ⟨hfree, rel', hrel', hsuffix⟩ := h.others k hfirst
      rw [List.mem_singleton.1 hrel'] at hsuffix
      exact ⟨hfree, rel, List.mem_cons_self, hsuffix⟩

end Laid

end Laid

section Run

variable {source destination : Path} {l place : Location} {way : List String} {name : String}
  {rels : List (List String)} {j j' : CopyJob} {opened written : Disk}

section Copied

variable
  (h : Copied false (source.descend (way ++ [name])) (destination.descend way) j opened written)
  (hp : j.disk.Proper) (hup : j.disk.Steady destination) (hparts : destination.Parted)
  (hnames : ∀ part ∈ way ++ [name], IsName part) (hnull : NoNull name)
  (hplace : ∀ d, j.disk.Grew d → ∀ place', d.Enters destination place' → place' = place)
  (hfree : j.disk.tree.LinkFreeBelow place)
include h hp hup hparts hnames hplace hfree

theorem Copied.opened_at : opened.Enters destination place ∧
    Disk.Opened (way.reverse ++ place) j.disk opened := by
  have hway : ∀ part ∈ way, IsName part := fun part hpart => hnames part (by simp [hpart])
  obtain ⟨l', -, hl', hopened⟩ := Disk.opened_of_makeDirectories hp.grounded (hp.starts _)
    (hup.descend hway) (hparts.descend hway) h.made
  have hgrew := (h.opens hp).1
  obtain ⟨place', hentered⟩ := hl'.of_descend
  obtain rfl := hplace opened hgrew place' hentered
  obtain rfl := hentered.descend_unique hway
    (fun k target hk _ => hfree.of_grown hgrew.grown k target hk) hl'
  exact ⟨hentered, hopened⟩

include hnull

theorem Copied.filled_at : ∃ read,
    opened.readBytes (source.descend (way ++ [name])) = .ok read ∧
      j.disk.tree.get? ((way ++ [name]).reverse ++ place) = none ∧
      written.tree.get? ((way ++ [name]).reverse ++ place) = some (.file read) ∧
      Disk.Filled ((way ++ [name]).reverse ++ place) read opened written := by
  have hway : ∀ part ∈ way, IsName part := fun part hpart => hnames part (by simp [hpart])
  have hentry : (source.descend (way ++ [name])).name = name := Path.name_descend ..
  have hname : Named (source.descend (way ++ [name])).name := by
    rw [hentry]
    exact ⟨hnames name (by simp), hnull⟩
  have hgrew := (h.opens hp).1
  obtain ⟨hentered, -⟩ := h.opened_at hp hup hparts hnames hplace hfree
  obtain ⟨read, k, hread, ho, hfilled, hnone, hnone'⟩ :=
    h.writes_free hp (hup.descend hway) (hparts.descend hway) hname
  have hfind := Disk.find_of_openForWriting hgrew.proper.grounded (hgrew.proper.starts _) ho
    hfilled.here hfilled.grown hfilled.held
  rw [hentry, Path.descend_child] at hfind
  have hk : k = (way ++ [name]).reverse ++ place :=
    (hentered.of_ways hfilled.here hfilled.grown.toWays).find_descend
      ((hfree.of_grown hgrew.grown).of_grown hfilled.grown) hnames hfind
  rw [← hk]
  refine ⟨read, hread, hnone, ?_, hfilled⟩
  rw [hfilled.held, hnone']
  rfl

theorem Copied.laid (hl : j.disk.Enters source l) (hlinks : j.disk.tree.LinkFreeBelow l) :
    Laid l place [way ++ [name]] j.disk.tree written.tree := by
  obtain ⟨-, hopened⟩ := h.opened_at hp hup hparts hnames hplace hfree
  obtain ⟨read, hread, hnone, hfile, hfilled⟩ :=
    h.filled_at hp hup hparts hnames hnull hplace hfree
  refine ⟨?_, ?_, fun k hk => ?_⟩
  · rw [List.forall_mem_singleton]
    exact ⟨hnone, read, h.content?_source hp hl hlinks hnames hread, hfile⟩
  · rw [List.forall_mem_singleton]
    rintro k ⟨names, hk⟩ hne
    have hsome : written.tree.get? (names ++ k) ≠ none := by
      rw [hk, hfile]
      simp
    apply hfilled.grounded.of_append hsome
    rintro rfl
    exact hne hk
  · simp only [List.mem_singleton, exists_eq_left]
    by_cases heq : k = (way ++ [name]).reverse ++ place
    · rw [heq]
      exact ⟨hnone, List.suffix_rfl⟩
    · rw [hfilled.others k heq, hopened.held k] at hk
      split at hk
      · rename_i hmade
        refine ⟨hmade.2, hmade.1.trans ?_⟩
        rw [List.reverse_append]
        exact List.suffix_cons name _
      · exact absurd rfl hk

end Copied

theorem Copies.laid (h : Copies false source destination rels j j') (hp : j.disk.Proper)
    (hup : j.disk.Steady destination) (hparts : destination.Parted)
    (hl : j.disk.Enters source l) (hfree : j.disk.tree.LinkFreeBelow l)
    (hplace : ∀ d, j.disk.Grew d → ∀ place', d.Enters destination place' → place' = place)
    (hfree' : j.disk.tree.LinkFreeBelow place) (hout : ¬place <:+ l) (hin : ¬l <:+ place) :
    Laid l place rels j.disk.tree j'.disk.tree := by
  induction h with
  | nil => exact .nil l place _
  | cons way name hnames h _ ih =>
    obtain ⟨opened, written, hc, rfl⟩ := copyOne_eq_ok h
    have hgrew := hc.grew hp
    have hisName : ∀ part ∈ way ++ [name], IsName part :=
      fun part hpart => (hnames part hpart).isName
    have hnull : NoNull name := (hnames name (by simp)).noNull
    have hfirst := hc.laid hp hup hparts hisName hnull hplace hfree' hl hfree
    apply hfirst.cons ?_ hgrew.grown hout hin
    apply ih hgrew.proper (hgrew.steady hup) (hgrew.enters hl) (hfree.of_grown hgrew.grown) ?_
      (hfree'.of_grown hgrew.grown)
    intro d hd
    exact hplace d (hgrew.trans hd)

theorem Copies.lands (h : Copies false source destination rels j j') (hrels : rels ≠ [])
    (hp : j.disk.Proper) (hup : j.disk.Steady destination) (hparts : destination.Parted) :
    ∃ place, j.disk.Lands destination place ∧ j'.disk.Enters destination place := by
  cases h with
  | nil => exact absurd rfl hrels
  | cons way name hnames h hrest =>
    obtain ⟨opened, written, hc, rfl⟩ := copyOne_eq_ok h
    have hway : ∀ part ∈ way, IsName part :=
      fun part hpart => (hnames part (by simp [hpart])).isName
    obtain ⟨l, hlands, -⟩ := Disk.opened_of_makeDirectories hp.grounded (hp.starts _)
      (hup.descend hway) (hparts.descend hway) hc.made
    obtain ⟨place, hplace⟩ := hlands.of_descend
    obtain ⟨-, -, l', hl'⟩ := Disk.isDirectory_eq_true_iff.1 (hc.isDirectory hp)
    obtain ⟨place', hplace'⟩ := hl'.of_descend
    have hopened := (hc.opens hp).1
    obtain rfl := hplace.enters_unique hp.grounded (hp.starts _) hopened.here hopened.grown hplace'
    obtain ⟨-, -, -, -, hwritten, -⟩ := hc.writes hp
    exact ⟨place', hplace, (hrest.grew hwritten.proper).enters (hwritten.enters hplace')⟩

end Run

/-- If a task that may not overwrite comes to its end, and its source and the place where its
destination lands are apart and without links, the files that were there to be copied have been laid
in order, and nothing else has changed. -/
theorem perform_laid (t : CopyTask) (ht : t.overwrite = false) (hparts : t.destination.Parted)
    (j j' : CopyJob) (hp : j.disk.Proper) {source : Path} {l : Location}
    (hsource : j.disk.resolve t.source = .ok source) (hl : j.disk.Enters source l)
    (hfree : j.disk.tree.LinkFreeBelow l) (hup : j.disk.Steady t.destination)
    (hapart : ∀ place, j.disk.Lands t.destination place →
      j.disk.tree.LinkFreeBelow place ∧ ¬place <:+ l ∧ ¬l <:+ place)
    (h : t.perform j = .ok () j') :
    ∃ sel rels place, Selection.ofPatterns t.included t.excluded = .ok sel ∧
      rels.Pairwise (· < ·) ∧ (∀ rel, rel ∈ rels ↔ sel.Chooses j.disk.tree source l rel) ∧
      j'.copied = rels.map (fun rel => (t.destination.descend rel).toText) ∧
      (rels ≠ [] → j.disk.Lands t.destination place ∧ j'.disk.Enters t.destination place) ∧
      j'.disk.here = j.disk.here ∧ Laid l place rels j.disk.tree j'.disk.tree := by
  obtain ⟨sel, rels, hsel, hv⟩ := visited_of_performWithin hp hsource hl hfree h
  rw [ht] at hv
  have hp' : (t.begun j).disk.Proper := hp
  have hl' : (t.begun j).disk.Enters source l := hl
  have hlaid : ∃ place, (rels ≠ [] → j.disk.Lands t.destination place ∧
      j'.disk.Enters t.destination place) ∧ Laid l place rels j.disk.tree j'.disk.tree := by
    -- Where nothing is copied, it does not matter which place is named.
    by_cases hrels : rels = []
    · have hcopies := hv.copies
      rw [hrels] at hcopies ⊢
      cases hcopies
      exact ⟨l, fun hne => absurd rfl hne, .nil l l _⟩
    · obtain ⟨place, hlands, henters⟩ := hv.copies.lands hrels hp' hup hparts
      obtain ⟨hfree', hout, hin⟩ := hapart place hlands
      refine ⟨place, fun _ => ⟨hlands, henters⟩, ?_⟩
      apply hv.copies.laid hp' hup hparts hl' hfree ?_ hfree' hout hin
      intro d hd place' hplace'
      exact hlands.enters_unique hp.grounded (hp.starts _) hd.here hd.grown hplace'
  obtain ⟨place, hlands, hlaid⟩ := hlaid
  refine ⟨sel, rels, place, hsel, hv.sorted, fun rel => ?_, hv.copies.copied_eq, hlands,
    (hv.copies.grew hp').here, hlaid⟩
  constructor
  · intro hrel
    obtain ⟨-, bytes, hsource, -⟩ := hlaid.files rel hrel
    exact ⟨hv.picked rel hrel, by simp [hsource]⟩
  · intro hrel
    exact hv.mem_of_chooses hp' hl' hrel

def oneFile : CopyJob where
  disk :=
    { tree := ⟨[(["src"], .directory), (["sub", "src"], .directory),
        (["f", "sub", "src"], .file (Text.Utf8.encode "1")), (["out"], .directory),
        (["g", "out"], .file (Text.Utf8.encode "2"))]⟩
      here := [] }
  messages := []
  copied := []

def oneFileTask : CopyTask where
  source := .ofText "src"
  destination := .ofText "out"
  overwrite := false
  included := some "F$"
  excluded := some "[.]"

theorem oneFile_taken :
    (match Selection.ofPatterns oneFileTask.included oneFileTask.excluded with
      | .ok sel => !sel.excludes "/src" && !sel.excludes "/src/sub" && sel.takes "/src/sub/f"
      | .error _ => false) = true := by
  decide +kernel

theorem perform_laid_oneFile : oneFileTask.overwrite = false ∧ oneFileTask.destination.Parted ∧
    oneFile.disk.Proper ∧ oneFile.disk.resolve oneFileTask.source = .ok (.absolute ["src"]) ∧
    oneFile.disk.Enters (.absolute ["src"]) ["src"] ∧ oneFile.disk.tree.LinkFreeBelow ["src"] ∧
    oneFile.disk.Steady oneFileTask.destination ∧
    (∀ place, oneFile.disk.Lands oneFileTask.destination place →
      oneFile.disk.tree.LinkFreeBelow place ∧ ¬place <:+ ["src"] ∧ ¬["src"] <:+ place) ∧
    ∃ j' rels, oneFileTask.perform oneFile = .ok () j' ∧ ["sub", "f"] ∈ rels ∧
      Laid ["src"] ["out"] rels oneFile.disk.tree j'.disk.tree := by
  have hproper : oneFile.disk.Proper := ⟨Tree.proper_of_isProper (by decide +kernel), rfl⟩
  have hparts : oneFileTask.destination.Parted := Path.parted_ofText _
  have hsource : oneFile.disk.resolve oneFileTask.source = .ok (.absolute ["src"]) := by rfl
  have hl : oneFile.disk.Enters (.absolute ["src"]) ["src"] :=
    (Disk.find_eq_directory_iff.1 (by rfl)).2
  have hlinks : oneFile.disk.tree.LinkFree := Tree.linkFree_of_isLinkFree (by decide +kernel)
  have hfree : ∀ l, oneFile.disk.tree.LinkFreeBelow l := fun l k target _ => hlinks k target
  have hup : oneFile.disk.Steady oneFileTask.destination :=
    Disk.steady_of_no_up (by decide +kernel)
  have hout : oneFile.disk.Enters oneFileTask.destination ["out"] :=
    (Disk.find_eq_directory_iff.1 (by rfl)).2
  have hlands : ∀ place, oneFile.disk.Lands oneFileTask.destination place → place = ["out"] :=
    fun place h =>
      (h.enters_unique hproper.grounded (hproper.starts _) rfl (.refl _) hout).symm
  have hapart : ∀ place, oneFile.disk.Lands oneFileTask.destination place →
      oneFile.disk.tree.LinkFreeBelow place ∧ ¬place <:+ ["src"] ∧ ¬["src"] <:+ place := by
    intro place h
    rw [hlands place h]
    exact ⟨hfree _, by decide, by decide⟩
  obtain ⟨j', hrun⟩ : ∃ j', oneFileTask.perform oneFile = .ok () j' :=
    ok_of_gives (by decide +kernel)
  obtain ⟨sel, rels, place, hsel, -, hchosen, -, hplace, -, hlaid⟩ :=
    perform_laid oneFileTask rfl hparts oneFile j' hproper hsource hl (hfree _) hup hapart hrun
  have hmem : ["sub", "f"] ∈ rels := by
    have htaken := oneFile_taken
    rw [hsel] at htaken
    simp only [Bool.and_eq_true, Bool.not_eq_true'] at htaken
    rw [hchosen]
    refine ⟨?_, by decide +kernel⟩
    rw [Selection.picks_cons_iff (by simp), Selection.picks_singleton_iff]
    exact ⟨htaken.1.1, htaken.1.2, htaken.2⟩
  obtain rfl := hlands place (hplace (List.ne_nil_of_mem hmem)).1
  exact ⟨rfl, hparts, hproper, hsource, hl, hfree _, hup, hapart, j', rels, hrun, hmem, hlaid⟩

end CopyTask

end BuildScripts

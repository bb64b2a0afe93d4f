import BuildScripts.Proofs.Task.Runs

namespace BuildScripts

open Attempt

namespace CopyTask

variable {overwrite : Bool} {destination entry : Path} {j : CopyJob} {names : List String}

def KeepsFiles (t t' : Tree) : Prop :=
  ∀ l bytes, t.get? l = some (.file bytes) → t'.get? l = some (.file bytes)

def KeepsFilesBut (l₀ : Location) (t t' : Tree) : Prop :=
  ∀ l bytes, l ≠ l₀ → t.get? l = some (.file bytes) → t'.get? l = some (.file bytes)

variable {t t' t'' : Tree} {l₀ : Location}

theorem KeepsFiles.trans (h : KeepsFiles t t') (h' : KeepsFiles t' t'') : KeepsFiles t t'' :=
  fun l bytes hl => h' l bytes (h l bytes hl)

theorem KeepsFilesBut.trans (h : KeepsFilesBut l₀ t t') (h' : KeepsFiles t' t'') :
    KeepsFilesBut l₀ t t'' :=
  fun l bytes hne hl => h' l bytes (h l bytes hne hl)

theorem keepsFiles_of_makeDirectories {d : Disk} (hp : d.Proper) (p : Path) :
    KeepsFiles d.tree ((Disk.makeDirectories p).after d).tree := by
  intro l bytes hl
  have hmade := Disk.made_of_makeDirectories hp.grounded (hp.starts p)
  rcases hmade.place l with hsame | ⟨hnone, -⟩
  · rw [hsame, hl]
  · rw [hnone] at hl
    cases hl

theorem keepsFiles_of_fault {f : Fault} {j' : CopyJob} (hp : j.disk.Proper)
    (h : copyOne overwrite entry destination j = .error f j') :
    j'.copied = j.copied ∧ j.disk.Grew j'.disk ∧ KeepsFiles j.disk.tree j'.disk.tree := by
  rcases copyOne_cases overwrite entry destination j with ⟨_, _, -, hok⟩ | ⟨g, d, he, -, hd⟩
  · rw [h] at hok
    cases hok
  · rw [h] at he
    cases he
    rcases hd with rfl | rfl
    · exact ⟨rfl, .refl hp, fun _ _ hl => hl⟩
    · exact ⟨rfl, .makeDirectories hp destination, keepsFiles_of_makeDirectories hp destination⟩

theorem keepsFiles_of_copyOne (hp : j.disk.Proper) (hup : j.disk.Steady destination)
    (hparts : destination.Parted) (hn : Named entry.name) :
    j.disk.Grew ((copyOne false entry destination).after j).disk ∧
      KeepsFiles j.disk.tree ((copyOne false entry destination).after j).disk.tree := by
  rcases copyOne_cases false entry destination j with ⟨opened, written, hc, hok⟩ | ⟨g, d, he, -⟩
  · rw [after_of_ok hok]
    refine ⟨hc.grew hp, fun k bytes hk => ?_⟩
    change written.tree.get? k = _
    obtain ⟨read, l, -, -, hfilled, hfree, -⟩ := hc.writes_free hp hup hparts hn
    rw [hfilled.others k (by rintro rfl; rw [hfree] at hk; cases hk)]
    rcases (hc.opens hp).2 k with hsame | ⟨hnone, -⟩
    · rw [hsame, hk]
    · rw [hnone] at hk
      cases hk
  · rw [after_of_error he]
    exact (keepsFiles_of_fault hp he).2

variable {task : CopyTask}

structure Guarded (task : CopyTask) (j j' : CopyJob) : Prop where
  grew : j.disk.Grew j'.disk
  files : (j'.copied = [] ∧ KeepsFiles j.disk.tree j'.disk.tree) ∨
    (j'.copied ≠ [] ∧ (∃ l, j'.disk.Enters task.destination l) ∧
      ∃ l₀, KeepsFilesBut l₀ j.disk.tree j'.disk.tree)

theorem copied_ne_nil (h : j.copied ≠ []) :
    ((copyOne overwrite entry destination).after j).copied ≠ [] := by
  rcases copyOne_cases overwrite entry destination j with ⟨_, _, -, hok⟩ | ⟨_, _, he, -⟩
  · rw [after_of_ok hok]
    exact List.append_ne_nil_of_right_ne_nil _ (List.cons_ne_nil _ _)
  · rw [after_of_error he]
    exact h

theorem guarded_copyOne (hparts : task.destination.Parted) {j' : CopyJob}
    (hnames : ∀ name ∈ names, Named name) (hn : Named entry.name) (h : Guarded task j j') :
    Guarded task j ((copyOne false entry (task.destination.descend names)).after j') := by
  have hp := h.grew.proper
  rcases h.files with ⟨hnil, hkeep⟩ | ⟨hcopied, ⟨l, hl⟩, l₀, hkeep⟩
  · rcases copyOne_cases false entry (task.destination.descend names) j' with
      ⟨opened, written, hc, hok⟩ | ⟨g, d, he, -⟩
    · rw [after_of_ok hok]
      refine ⟨h.grew.trans (hc.grew hp), .inr ⟨?_, ?_, ?_⟩⟩
      · exact List.append_ne_nil_of_right_ne_nil _ (List.cons_ne_nil _ _)
      · obtain ⟨-, -, l, hl⟩ := Disk.isDirectory_eq_true_iff.1 (hc.isDirectory hp)
        obtain ⟨l', hl'⟩ := hl.of_descend
        obtain ⟨-, -, -, -, hwritten, -⟩ := hc.writes hp
        exact ⟨l', hwritten.enters hl'⟩
      · obtain ⟨l₀, hothers⟩ := hc.keeps_others hp
        exact ⟨l₀, fun l bytes hne hfile => hothers l bytes hne (hkeep l bytes hfile)⟩
    · rw [after_of_error he]
      obtain ⟨hsame, hgrew, hkeeps⟩ := keepsFiles_of_fault hp he
      exact ⟨h.grew.trans hgrew, .inl ⟨hsame.trans hnil, hkeep.trans hkeeps⟩⟩
  · -- The destination is there, and so every file that is there now is kept.
    obtain ⟨hgrew, hkeeps⟩ := keepsFiles_of_copyOne hp
      (hl.steady.descend fun name hname => (hnames name hname).isName)
      (hparts.descend fun name hname => (hnames name hname).isName) hn
    exact ⟨h.grew.trans hgrew,
      .inr ⟨copied_ne_nil hcopied, ⟨l, hgrew.enters hl⟩, l₀, hkeep.trans hkeeps⟩⟩

/-- A task that may not overwrite keeps the bytes of all files if its destination goes up only from
directories that are there. In any case it keeps those of all but one, and of all until it has
copied something. -/
theorem execute_keepsFiles (task : CopyTask) (ht : task.overwrite = false)
    (hparts : task.destination.Parted) (j : CopyJob) (hp : j.disk.Proper) :
    (j.disk.Steady task.destination →
      KeepsFiles j.disk.tree (task.execute.after j).disk.tree) ∧
    (∃ l₀, KeepsFilesBut l₀ j.disk.tree (task.execute.after j).disk.tree) ∧
    ((task.execute.after j).copied = [] →
      KeepsFiles j.disk.tree (task.execute.after j).disk.tree) := by
  rw [execute, Task.execute, after_mapFault]
  constructor
  · intro hup
    have hall : j.disk.Grew (task.perform.after j).disk ∧
        (task.perform.after j).disk.Steady task.destination ∧
          KeepsFiles j.disk.tree (task.perform.after j).disk.tree := by
      apply task.perform_preserves (P := fun j' => j.disk.Grew j'.disk ∧
        j'.disk.Steady task.destination ∧ KeepsFiles j.disk.tree j'.disk.tree)
      · intro j' h
        exact h.1.proper
      · rintro names entry j' hnames hn ⟨hgrew, hsteady, hkeep⟩
        rw [ht]
        obtain ⟨hgrew', hkeep'⟩ := keepsFiles_of_copyOne hgrew.proper
          (hsteady.descend fun name hname => (hnames name hname).isName)
          (hparts.descend fun name hname => (hnames name hname).isName) hn
        exact ⟨hgrew.trans hgrew', hgrew'.steady hsteady, hkeep.trans hkeep'⟩
      · exact ⟨.refl hp, hup, fun _ _ hl => hl⟩
    exact hall.2.2
  -- Without the condition one copy may go astray; after it the destination is there to stay.
  · have hall : Guarded task j (task.perform.after j) := by
      apply task.perform_preserves (P := Guarded task j)
      · intro j' h
        exact h.grew.proper
      · intro names entry j' hnames hn h
        rw [ht]
        exact guarded_copyOne hparts hnames hn h
      · exact ⟨.refl hp, .inl ⟨rfl, fun _ _ hl => hl⟩⟩
    rcases hall.files with ⟨hnil, hkeep⟩ | ⟨hcopied, -, l₀, hkeep⟩
    · exact ⟨⟨[], fun l bytes _ hl => hkeep l bytes hl⟩, fun _ => hkeep⟩
    · exact ⟨⟨l₀, hkeep⟩, fun hnil => absurd hnil hcopied⟩

def twoFiles : CopyJob where
  disk :=
    { tree := ⟨[(["src"], .directory), (["f", "src"], .file (Text.Utf8.encode "new")),
        (["g", "src"], .file (Text.Utf8.encode "other")), (["out"], .directory),
        (["f", "out"], .file (Text.Utf8.encode "old")), (["g", "out"], .link "nowhere")]⟩
      here := [] }
  messages := []
  copied := []

def twoFilesTask : CopyTask where
  source := .ofText "src"
  destination := .ofText "out"
  overwrite := false
  included := none
  excluded := none

theorem execute_keepsFiles_twoFiles :
    twoFilesTask.overwrite = false ∧ twoFilesTask.destination.Parted ∧ twoFiles.disk.Proper ∧
      twoFiles.disk.Steady twoFilesTask.destination ∧
      (twoFilesTask.execute.after twoFiles).disk.tree.get? ["f", "out"] =
        some (.file (Text.Utf8.encode "old")) := by
  have hproper : twoFiles.disk.Proper := ⟨Tree.proper_of_isProper (by decide +kernel), rfl⟩
  have hparts : twoFilesTask.destination.Parted := Path.parted_ofText _
  have hsteady : twoFiles.disk.Steady twoFilesTask.destination :=
    Disk.steady_of_no_up (by decide +kernel)
  have hkeeps := (execute_keepsFiles twoFilesTask rfl hparts twoFiles hproper).1 hsteady
  exact ⟨rfl, hparts, hproper, hsteady, hkeeps ["f", "out"] _ rfl⟩

end CopyTask

end BuildScripts

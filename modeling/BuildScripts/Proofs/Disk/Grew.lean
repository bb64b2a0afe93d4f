import BuildScripts.Proofs.Disk.Directories
import BuildScripts.Proofs.Disk.Proper

/-!
Disks that have grown, and texts written to them one after the other. Main statement: where a file
stood, the last of the texts whose path leads there has been left, or else what stood there.
-/

namespace BuildScripts

/-- Entries have been added to a disk, files may have other bytes, and the rest is as it was. -/
structure Disk.Grew (d d' : Disk) : Prop where
  proper : d'.Proper
  here : d'.here = d.here
  grown : d.tree.Grown d'.tree

namespace Disk.Grew

variable {d d' d'' : Disk} {p : Path} {l : Location}

theorem refl (h : d.Proper) : d.Grew d :=
  ⟨h, rfl, .refl _⟩

theorem trans (h : d.Grew d') (h' : d'.Grew d'') : d.Grew d'' :=
  ⟨h'.proper, h'.here.trans h.here, h.grown.trans h'.grown⟩

theorem makeDirectories (h : d.Proper) (p : Path) :
    d.Grew ((Disk.makeDirectories p).after d) := by
  have hmade := made_of_makeDirectories h.grounded (h.starts p)
  exact ⟨h.makeDirectories p, hmade.here, hmade.grown⟩

theorem fill (h : d.Proper) (hn : p.hasNull = false) (ho : d.openForWriting p = .ok l)
    (bytes : ByteArray) : d.Grew (d.fill l bytes) := by
  have hfilled := filled_of_fill h.grounded (h.starts p) ho bytes
  exact ⟨h.fill hn ho bytes, hfilled.here, hfilled.grown⟩

theorem enters (hg : d.Grew d') (h : d.Enters p l) : d'.Enters p l :=
  h.of_ways hg.here hg.grown.toWays

theorem steady (hg : d.Grew d') (h : d.Steady p) : d'.Steady p := by
  intro front rest hparts
  obtain ⟨l, hl⟩ := h front rest hparts
  exact ⟨l, hg.enters hl⟩

theorem find_of_get? (hg : d.Grew d') (hd : d.Proper) {old e : Entry}
    (h : d.find p = .ok (l, old)) (hl : d'.tree.get? l = some e) : d'.find p = .ok (l, e) := by
  have hseek := seek_of_grown hg.grown hd.grounded (start_of_here hg.here p) (hd.starts p)
    (find_eq_ok_iff.1 h)
  rw [Place.location, Tree.at_of_some hl] at hseek
  exact find_eq_ok_iff.2 hseek

theorem find_of_file (hg : d.Grew d') (hd : d.Proper) {old bytes : ByteArray}
    (h : d.find p = .ok (l, .file old)) (hl : d'.tree.get? l = some (.file bytes)) :
    d'.find p = .ok (l, .file bytes) :=
  hg.find_of_get? hd h hl

end Disk.Grew

open BuildScripts.Text

namespace Disk

variable {d d' d'' : Disk} {p : Path} {l : Location} {text : String}

def leadsTo (d : Disk) (p : Path) (l : Location) : Bool :=
  match d.find p with
  | .ok (m, _) => m == l
  | .error _ => false

theorem leadsTo_of_find {m : Location} {e : Entry} (h : d.find p = .ok (m, e)) :
    d.leadsTo p l = (m == l) := by
  rw [leadsTo, h]

def leftAt (d : Disk) (l : Location) : List (Path × String) → ByteArray → ByteArray
  | [], old => old
  | (p, text) :: writes, old =>
    d.leftAt l writes (if d.leadsTo p l then Utf8.encode text else old)

theorem leftAt_append (d : Disk) (l : Location) (first second : List (Path × String))
    (old : ByteArray) :
    d.leftAt l (first ++ second) old = d.leftAt l second (d.leftAt l first old) := by
  induction first generalizing old with
  | nil => rfl
  | cons write first ih =>
    rw [List.cons_append, leftAt, leftAt, ih]

theorem leftAt_of_elsewhere {writes : List (Path × String)}
    (h : ∀ write ∈ writes, d.leadsTo write.1 l = false) (old : ByteArray) :
    d.leftAt l writes old = old := by
  induction writes generalizing old with
  | nil => rfl
  | cons write writes ih =>
    obtain ⟨hwrite, hwrites⟩ := List.forall_mem_cons.1 h
    rw [leftAt, hwrite, if_neg Bool.false_ne_true]
    exact ih hwrites old

/-- Texts have been written to paths, one after the other: the files where none of them leads are as
they were, and each text is left where its path leads from then on. -/
structure Wrote (writes : List (Path × String)) (d d' : Disk) : Prop where
  grew : d.Grew d'
  held : ∀ d'', d'.Grew d'' → ∀ l bytes, d.tree.get? l = some (.file bytes) →
    d'.tree.get? l = some (.file (d''.leftAt l writes bytes))

theorem Wrote.refl (h : d.Proper) : Wrote [] d d :=
  ⟨.refl h, fun _ _ _ _ hl => hl⟩

theorem Wrote.trans {first second : List (Path × String)} (h : Wrote first d d')
    (h' : Wrote second d' d'') : Wrote (first ++ second) d d'' where
  grew := h.grew.trans h'.grew
  held e he l bytes hl := by
    rw [leftAt_append]
    exact h'.held e he l _ (h.held e (h'.grew.trans he) l bytes hl)

def writeWithParents (p : Path) (text : String) : Attempt Disk Unit := do
  makeDirectories p.parent
  writeText p text

theorem Enters.writeWithParents_child {name : String} (h : d.Enters p l) (hn : IsName name)
    (hlen : name.utf8ByteSize ≤ longestName)
    (hshort : (p.child name).toText.utf8ByteSize ≤ longestPath) (hg : d.tree.Grounded)
    (hp : d.Starts (p.child name)) (hnull : (p.child name).hasNull = false)
    (hdir : p.toText.utf8ByteSize ≤ longestPath) (hnone : d.tree.get? (name :: l) = none)
    (text : String) : ∃ d', writeWithParents (p.child name) text d = .ok () d' ∧
      Filled (name :: l) (Utf8.encode text) d d' := by
  obtain ⟨k, hseek⟩ := h.seek_child_eq hn .file hshort
  rw [walk_of_arrived (stride_last hn hlen (.inr fun target => by simp [hnone])),
    Tree.at_of_none hnone] at hseek
  have hopen := openForWriting_eq_ok_iff.2 (.inl hseek)
  have hparent : (p.child name).parent = p := by simp [Path.parent, Path.child]
  have hmade := makeDirectories_of_isDirectory
    (isDirectory_eq_true_iff.2 ⟨(Path.hasNull_child.1 hnull).1, hdir, l, h⟩)
  have hwritten : writeText (p.child name) text d = .ok () (d.fill (name :: l) (Utf8.encode text)) :=
    writeBytes_eq_ok_iff.2 ⟨hnull, _, hopen, rfl⟩
  exact ⟨_, Attempt.bind_eq_ok.2 ⟨(), d, by rwa [hparent], hwritten⟩, filled_of_fill hg hp hopen _⟩

theorem wrote_of_writeWithParents (hd : d.Proper) (h : writeWithParents p text d = .ok () d') :
    Wrote [(p, text)] d d' := by
  obtain ⟨_, opened, hmake, hwrite⟩ := Attempt.bind_eq_ok.1 h
  obtain ⟨hn, m, ho, rfl⟩ := writeBytes_eq_ok_iff.1 hwrite
  have hopened : d.Grew opened := by
    have hgrew := Grew.makeDirectories hd p.parent
    rwa [Attempt.after_of_ok hmake] at hgrew
  have hplaces := (made_of_makeDirectories hd.grounded (hd.starts p.parent)).place
  rw [Attempt.after_of_ok hmake] at hplaces
  have hp := hopened.proper
  have hfill := Grew.fill hp hn ho (Utf8.encode text)
  have hfilled := filled_of_fill hp.grounded (hp.starts p) ho (Utf8.encode text)
  refine ⟨hopened.trans hfill, fun d'' hd'' l bytes hl => ?_⟩
  have hl' : opened.tree.get? l = some (.file bytes) := by
    rcases hplaces l with hsame | ⟨hnone, -⟩
    · rw [hsame, hl]
    · rw [hl] at hnone
      cases hnone
  have hlater := hfill.trans hd''
  have hfind : ∃ e, d''.find p = .ok (m, e) := by
    have hthere : d''.tree.get? m ≠ none :=
      hd''.grown.get?_ne_none (by rw [hfilled.held]; simp)
    obtain ⟨e, he⟩ := Option.ne_none_iff_exists'.1 hthere
    exact ⟨e, find_of_openForWriting hp.grounded (hp.starts p) ho hlater.here hlater.grown he⟩
  obtain ⟨e, he⟩ := hfind
  rw [leftAt, leftAt, leadsTo_of_find he]
  by_cases hm : m = l
  · subst hm
    rw [beq_self_eq_true, if_pos rfl, hfilled.held, hl']
    rfl
  · rw [beq_false_of_ne hm, if_neg Bool.false_ne_true, hfilled.others l (Ne.symm hm), hl']

end Disk

end BuildScripts

import BuildScripts.Proofs.Disk.Grew
import BuildScripts.Task.Copy

namespace BuildScripts

open Attempt

namespace Disk

variable {d d' : Disk} {source destination : Path} {f : Fault}

def isDirectoryAt (d : Disk) (p : Path) : Bool :=
  match d.find p with
  | .ok (_, .directory) => true
  | _ => false

theorem isDirectoryAt_eq_true_iff : d.isDirectoryAt destination = true ↔
    ∃ l, d.find destination = .ok (l, .directory) := by
  rw [isDirectoryAt]
  split
  · rename_i l hf
    simp [hf]
  · rename_i hf
    simpa using fun l hl => hf l hl

def goal (d : Disk) (source destination : Path) : Path :=
  if d.isDirectoryAt destination then destination.child source.name else destination

theorem goal_of_not_directory (h : ∀ l, d.find destination ≠ .ok (l, .directory)) :
    d.goal source destination = destination := by
  rw [goal, if_neg]
  rw [isDirectoryAt_eq_true_iff]
  rintro ⟨l, hf⟩
  exact h l hf

theorem copyFile_of_other (h : d.isSame source (d.goal source destination) = false) :
    copyFile source destination d =
      (Attempt.ofExcept (d.readBytes source) >>= fun bytes =>
        match d.openForWriting (d.goal source destination) with
        | .error .isDirectory => do
          if ← Attempt.ofExcept (d.exists? (d.goal source destination)) then
            throw (.refused .isDirectory (d.goal source destination).toText)
          else throw (.noDirectory (d.goal source destination).toText)
        | _ => writeBytes (d.goal source destination) bytes) d := by
  rw [copyFile, get_bind]
  have hother : ¬d.isSame source (d.goal source destination) = true := by simp [h]
  exact congrFun (if_neg hother) d

theorem copyFile_of_same (h : d.isSame source (d.goal source destination) = true) :
    ∃ label label', copyFile source destination d = .error (.sameFile label label') d := by
  rw [copyFile, get_bind]
  exact ⟨_, _, congrFun (if_pos h) d⟩

theorem copyFile_eq_ok (h : copyFile source destination d = .ok () d') :
    d.isSame source (d.goal source destination) = false ∧
      ∃ bytes l, d.readBytes source = .ok bytes ∧ (d.goal source destination).hasNull = false ∧
        d.openForWriting (d.goal source destination) = .ok l ∧ d' = d.fill l bytes := by
  cases hsame : d.isSame source (d.goal source destination) with
  | true =>
    obtain ⟨_, _, he⟩ := copyFile_of_same hsame
    rw [he] at h
    cases h
  | false =>
    rw [copyFile_of_other hsame] at h
    obtain ⟨bytes, d₁, hr, hrest⟩ := bind_eq_ok.1 h
    cases hb : d.readBytes source with
    | error f =>
      rw [hb] at hr
      cases hr
    | ok read =>
      rw [hb] at hr
      cases hr
      cases ho : d.openForWriting (d.goal source destination) with
      | ok l =>
        rw [ho] at hrest
        obtain ⟨hn, l', ho', rfl⟩ := writeBytes_eq_ok_iff.1 hrest
        rw [ho] at ho'
        cases ho'
        exact ⟨rfl, _, l, rfl, hn, rfl, rfl⟩
      | error why =>
        rw [ho] at hrest
        cases why with
        | isDirectory =>
          obtain ⟨found, d₂, _, hthrow⟩ := bind_eq_ok.1 hrest
          cases found <;> cases hthrow
        | _ =>
          obtain ⟨-, l, ho', -⟩ := writeBytes_eq_ok_iff.1 hrest
          rw [ho] at ho'
          cases ho'

theorem readBytes_fault {p : Path} (h : d.readBytes p = .error f) : f ≠ .tooDeep := by
  rw [readBytes] at h
  split at h
  · cases h
    simp
  · split at h <;> cases h <;> simp

theorem copyFile_fault (h : copyFile source destination d = .error f d') :
    d' = d ∧ f ≠ .tooDeep := by
  cases hsame : d.isSame source (d.goal source destination) with
  | true =>
    obtain ⟨_, _, he⟩ := copyFile_of_same hsame
    rw [he] at h
    cases h
    exact ⟨rfl, by simp⟩
  | false =>
    rw [copyFile_of_other hsame] at h
    cases hb : d.readBytes source with
    | error g =>
      rw [ofExcept_bind_error hb] at h
      cases h
      exact ⟨rfl, readBytes_fault hb⟩
    | ok bytes =>
      rw [ofExcept_bind_ok hb] at h
      have hwrite : ∀ {why}, writeBytes (d.goal source destination) bytes d = .error why d' →
          d' = d ∧ why ≠ .tooDeep := by
        intro why hw
        obtain ⟨rfl, rfl | ⟨_, _, rfl⟩⟩ := writeBytes_fault hw
        · exact ⟨rfl, by simp⟩
        · exact ⟨rfl, by simp⟩
      cases ho : d.openForWriting (d.goal source destination) with
      | ok l =>
        rw [ho] at h
        exact hwrite h
      | error why =>
        rw [ho] at h
        cases why with
        | isDirectory =>
          cases he : d.exists? (d.goal source destination) with
          | error g =>
            simp only [ofExcept_bind_error he] at h
            cases h
            exact ⟨rfl, by simp [testEntry_fault he]⟩
          | ok found =>
            simp only [ofExcept_bind_ok he] at h
            cases found <;> cases h <;> exact ⟨rfl, by simp⟩
        | _ => exact hwrite h

end Disk

namespace CopyJob

variable {α : Type} {j : CopyJob} {d : Disk} {a : α} {f : Fault}

theorem onDisk_of_ok {x : Attempt Disk α} (h : x j.disk = .ok a d) :
    onDisk x j = .ok a { j with disk := d } := by
  rw [onDisk, onPart, h]

theorem onDisk_of_error {x : Attempt Disk α} (h : x j.disk = .error f d) :
    onDisk x j = .error f { j with disk := d } := by
  rw [onDisk, onPart, h]

theorem asking_of_ok {x : Disk → Except Fault α} (h : x j.disk = .ok a) :
    asking x j = .ok a j := by
  have hask : Attempt.asking x j.disk = .ok a j.disk := by rw [Attempt.asking, h, ofExcept_ok]
  exact onDisk_of_ok hask

theorem asking_of_error {x : Disk → Except Fault α} (h : x j.disk = .error f) :
    asking x j = .error f j := by
  have hask : Attempt.asking x j.disk = .error f j.disk := by
    rw [Attempt.asking, h, ofExcept_error]
  exact onDisk_of_error hask

def record (j : CopyJob) (entry target : Path) (d : Disk) : CopyJob where
  disk := d
  messages := j.messages ++
    ["copied file '" ++ entry.toText ++ "' to '" ++ target.toText ++ "'"]
  copied := j.copied ++ [target.toText]

end CopyJob

namespace CopyTask

variable {overwrite : Bool} {entry destination : Path} {j j' : CopyJob} {f : Fault}

structure Copied (overwrite : Bool) (entry destination : Path) (j : CopyJob)
    (opened written : Disk) : Prop where
  allowed : ∃ found, j.disk.exists? (destination.child entry.name) = .ok found ∧
    (found && !overwrite) = false
  made : Disk.makeDirectories destination j.disk = .ok () opened
  copied : Disk.copyFile entry (destination.child entry.name) opened = .ok () written

theorem copyOne_cases (overwrite : Bool) (entry destination : Path) (j : CopyJob) :
    (∃ opened written, Copied overwrite entry destination j opened written ∧
      copyOne overwrite entry destination j =
        .ok () (j.record entry (destination.child entry.name) written)) ∨
    ∃ f d, copyOne overwrite entry destination j = .error f { j with disk := d } ∧ f ≠ .tooDeep ∧
      (d = j.disk ∨ d = (Disk.makeDirectories destination).after j.disk) := by
  rw [copyOne]
  cases he : j.disk.exists? (destination.child entry.name) with
  | error g =>
    rw [bind_of_error (CopyJob.asking_of_error he)]
    exact .inr ⟨g, j.disk, rfl, by simp [Disk.testEntry_fault he], .inl rfl⟩
  | ok found =>
    rw [bind_of_ok (CopyJob.asking_of_ok he)]
    cases hfree : found && !overwrite with
    | true =>
      rw [if_pos rfl]
      exact .inr ⟨_, j.disk, rfl, by simp, .inl rfl⟩
    | false =>
      rw [if_neg (by simp)]
      cases hm : Disk.makeDirectories destination j.disk with
      | error g d₁ =>
        have hg : g ≠ .tooDeep := by
          rcases Disk.makeDirectories_fault hm with rfl | ⟨_, _, rfl⟩ <;> simp
        refine .inr ⟨g, d₁, bind_of_error (CopyJob.onDisk_of_error hm), hg, .inr ?_⟩
        rw [after_of_error hm]
      | ok _ d₁ =>
        cases hc : Disk.copyFile entry (destination.child entry.name) d₁ with
        | error g d₂ =>
          obtain ⟨rfl, hg⟩ := Disk.copyFile_fault hc
          refine .inr ⟨g, d₂, ?_, hg, .inr ?_⟩
          · exact (bind_of_ok (CopyJob.onDisk_of_ok hm)).trans
              (bind_of_error (CopyJob.onDisk_of_error (j := { j with disk := d₂ }) hc))
          · rw [after_of_ok hm]
        | ok _ d₂ =>
          refine .inl ⟨d₁, d₂, ⟨⟨found, he, hfree⟩, hm, hc⟩, ?_⟩
          exact (bind_of_ok (CopyJob.onDisk_of_ok hm)).trans
            ((bind_of_ok (CopyJob.onDisk_of_ok (j := { j with disk := d₁ }) hc)).trans rfl)

theorem copyOne_ne_tooDeep : copyOne overwrite entry destination j ≠ .error .tooDeep j' := by
  intro he
  rcases copyOne_cases overwrite entry destination j with ⟨_, _, -, hok⟩ | ⟨f, d, hf, hne, -⟩
  · rw [hok] at he
    cases he
  · rw [hf] at he
    cases he
    exact hne rfl

section Effect

variable {opened written : Disk} {k : Location} {bytes : ByteArray}

theorem Copied.isDirectory (h : Copied overwrite entry destination j opened written)
    (hp : j.disk.Proper) : opened.isDirectory destination = .ok true :=
  Disk.isDirectory_of_makeDirectories hp.grounded (hp.starts _) h.made

theorem Copied.opens (h : Copied overwrite entry destination j opened written)
    (hp : j.disk.Proper) : j.disk.Grew opened ∧ ∀ k,
      opened.tree.get? k = j.disk.tree.get? k ∨
        j.disk.tree.get? k = none ∧ opened.tree.get? k = some .directory := by
  have hgrew := Disk.Grew.makeDirectories hp destination
  have hmade := Disk.made_of_makeDirectories hp.grounded (hp.starts destination)
  rw [after_of_ok h.made] at hgrew hmade
  refine ⟨hgrew, fun k => ?_⟩
  rcases hmade.place k with hk | ⟨hnone, hdir, -⟩
  · exact .inl hk
  · exact .inr ⟨hnone, hdir⟩

theorem Copied.writes (h : Copied overwrite entry destination j opened written)
    (hp : j.disk.Proper) : ∃ read l, opened.readBytes entry = .ok read ∧
      opened.openForWriting (opened.goal entry (destination.child entry.name)) = .ok l ∧
      opened.Grew written ∧ Disk.Filled l read opened written := by
  obtain ⟨-, read, l, hread, hnull, ho, rfl⟩ := Disk.copyFile_eq_ok h.copied
  have hp' := (h.opens hp).1.proper
  exact ⟨read, l, hread, ho, .fill hp' hnull ho read,
    Disk.filled_of_fill hp'.grounded (hp'.starts _) ho read⟩

theorem Copied.grew (h : Copied overwrite entry destination j opened written)
    (hp : j.disk.Proper) : j.disk.Grew written := by
  obtain ⟨-, -, -, -, hgrew, -⟩ := h.writes hp
  exact (h.opens hp).1.trans hgrew

theorem Copied.keeps_others (h : Copied overwrite entry destination j opened written)
    (hp : j.disk.Proper) : ∃ l, ∀ k bytes, k ≠ l → j.disk.tree.get? k = some (.file bytes) →
      written.tree.get? k = some (.file bytes) := by
  obtain ⟨read, l, -, -, -, hfilled⟩ := h.writes hp
  refine ⟨l, fun k bytes hk hfile => ?_⟩
  rw [hfilled.others k hk]
  rcases (h.opens hp).2 k with hsame | ⟨hnone, -⟩
  · rw [hsame, hfile]
  · rw [hnone] at hfile
    cases hfile

theorem Copied.free_before (h : Copied false entry destination j opened written) :
    ∀ l e, j.disk.find (destination.child entry.name) = .ok (l, e) →
      (destination.child entry.name).hasNull = true := by
  obtain ⟨found, he, hfree⟩ := h.allowed
  intro l e hf
  by_contra hnull
  rw [Bool.not_eq_true] at hnull
  rw [Disk.exists?, Disk.testEntry, hnull, hf] at he
  cases he
  cases hfree

section Free

variable (h : Copied false entry destination j opened written) (hp : j.disk.Proper)
  (hup : j.disk.Steady destination) (hparts : destination.Parted) (hn : Named entry.name)
include h hp hup hparts hn

theorem Copied.free_opened : ∀ l e, opened.find (destination.child entry.name) ≠ .ok (l, e) := by
  have hnull : (destination.child entry.name).hasNull = false := by
    obtain ⟨hd, -⟩ := Disk.testEntry_eq_true_iff.1 (h.isDirectory hp)
    exact Path.hasNull_child.2 ⟨hd, hn.noNull⟩
  obtain ⟨place, hlands, henters, hway⟩ :=
    Disk.opened_of_makeDirectories hp.grounded (hp.starts _) hup hparts h.made
  intro l e hf
  by_cases hplace : j.disk.tree.get? place = none
  · -- The directory is new, and so there is nothing in it.
    have hempty : opened.tree.get? (entry.name :: place) = none := by
      rw [hway.get?_cons]
      exact hp.grounded.get?_eq_none hplace (List.suffix_cons _ _)
    have hat := henters.seek_child_of_ok hn.isName (.inr (by simp [hempty]))
      (Disk.find_eq_ok_iff.1 hf)
    rw [Tree.at_of_none hempty] at hat
    cases hat
  · -- The directory was there, and so nothing has been made.
    have hthere : j.disk.isDirectory destination = .ok true := by
      obtain ⟨hd, hshort, -⟩ := Disk.isDirectory_eq_true_iff.1 (h.isDirectory hp)
      exact Disk.isDirectory_eq_true_iff.2 ⟨hd, hshort, place, hlands.enters hp.grounded hplace⟩
    have hsame := h.made
    rw [Disk.makeDirectories_of_isDirectory hthere] at hsame
    cases hsame
    rw [h.free_before l e hf] at hnull
    cases hnull

theorem Copied.writes_free : ∃ read l, opened.readBytes entry = .ok read ∧
    opened.openForWriting (destination.child entry.name) = .ok l ∧
    Disk.Filled l read opened written ∧ j.disk.tree.get? l = none ∧
    opened.tree.get? l = none := by
  obtain ⟨read, l, hread, ho, -, hfilled⟩ := h.writes hp
  have hnot := h.free_opened hp hup hparts hn
  have hp' := (h.opens hp).1.proper
  rw [Disk.goal_of_not_directory fun l => hnot l _] at ho
  have hfree : opened.tree.get? l = none := by
    rcases Disk.openForWriting_eq_ok_iff.1 ho with hs | ⟨old, hs⟩ | hs
    · exact (Disk.free_of_seek hp'.grounded (hp'.starts _) hs).1
    · exact absurd (Disk.find_eq_ok_iff.2 (Disk.seek_target_of_file hs)) (hnot _ _)
    · exact absurd (Disk.find_eq_ok_iff.2 (Disk.seek_target_of_file hs)) (hnot _ _)
  refine ⟨read, l, hread, ho, hfilled, ?_, hfree⟩
  rcases (h.opens hp).2 l with hsame | ⟨hnone, -⟩
  · rw [← hsame, hfree]
  · exact hnone

end Free

end Effect

end CopyTask

end BuildScripts

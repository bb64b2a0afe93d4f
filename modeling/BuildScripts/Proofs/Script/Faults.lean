import BuildScripts.Proofs.Disk.Lookup
import BuildScripts.Proofs.Script.Analysis
import BuildScripts.Proofs.Script.Reading

namespace BuildScripts

open Attempt
open BuildScripts.Text

variable {σ : Type} {r : Resolver σ} {c : Setting} {inside : Path} {line : String} {s t : σ}
  {f : Fault}

def Fault.Escapes : Fault → Prop
  | .unresolvable _ => False
  | .rejected _ => False
  | _ => True

def Resolver.NeverRejects (r : Resolver σ) : Prop :=
  ∀ d name, FaultsAre (fun f => ∀ rejection, f ≠ .rejected rejection) (r.resolve d name)

/-- The lookup of a file that a script may only name inside a directory ends with a fault: there is
no full path, or the path is too long to be walked. -/
inductive Trips (d : Disk) (inside : Path) (script : Option String) (token : String) : Prop
  | relative {f : Fault} : scriptRelative d script token = .error f → Trips d inside script token
  | full {path : Path} {f : Fault} : scriptRelative d script token = .ok path →
    d.resolve path = .error f → Trips d inside script token
  | long {path full : Path} {f : Fault} : scriptRelative d script token = .ok path →
    d.resolve path = .ok full → full.isBelow inside = true → d.isFile path = .error f →
    Trips d inside script token

theorem escapes_of_resolve {d : Disk} {p : Path} {f : Fault} (h : d.resolve p = .error f) :
    f.Escapes := by
  rcases Disk.resolve_fault h with rfl | ⟨path, rfl⟩ <;> trivial

theorem escapes_of_scriptRelative {d : Disk} {script : Option String} {token : String} {f : Fault}
    (h : scriptRelative d script token = .error f) : f.Escapes := by
  rw [scriptRelative] at h
  split at h
  · cases h
  · split at h <;> exact escapes_of_resolve h

theorem escapes_of_isFile {d : Disk} {p : Path} {f : Fault} (h : d.isFile p = .error f) :
    f.Escapes := by
  rw [Disk.testEntry_fault h]
  trivial

theorem existingFile_fault {d : Disk} {inside : Path} {script : Option String} {token line : String}
    {f : Fault} (h : existingFile d (some inside) script token line = .error f) :
    (∃ reason, f = .unresolvable ⟨token, some line, reason⟩) ∨ f.Escapes ∧ Trips d inside script token := by
  rcases existingFile_eq_error_iff.1 h with hp | ⟨path, hp, hb | ⟨hb, hf | ⟨-, rfl⟩⟩⟩
  · exact .inr ⟨escapes_of_scriptRelative hp, .relative hp⟩
  · rcases checkBelow_eq_error_iff.1 hb with hr | ⟨-, -, -, rfl⟩
    · exact .inr ⟨escapes_of_resolve hr, .full hp hr⟩
    · exact .inl ⟨_, rfl⟩
  · obtain ⟨full, hr, hbelow⟩ := checkBelow_eq_ok_iff.1 hb
    exact .inr ⟨escapes_of_isFile hf, .long hp hr hbelow hf⟩
  · exact .inl ⟨_, rfl⟩

theorem Trips.fault {d : Disk} {inside : Path} {script : Option String} {token : String}
    (h : Trips d inside script token) (line : String) :
    ∃ f, existingFile d (some inside) script token line = .error f ∧ f.Escapes := by
  cases h with
  | relative hp =>
    exact ⟨_, existingFile_eq_error_iff.2 (.inl hp), escapes_of_scriptRelative hp⟩
  | full hp hr =>
    exact ⟨_, existingFile_eq_error_iff.2 (.inr ⟨_, hp, .inl (checkBelow_eq_error_iff.2 (.inl hr))⟩),
      escapes_of_resolve hr⟩
  | long hp hr hbelow hf =>
    exact ⟨_, existingFile_eq_error_iff.2 (.inr ⟨_, hp, .inr
      ⟨checkBelow_eq_ok_iff.2 ⟨_, hr, hbelow⟩, .inl hf⟩⟩), escapes_of_isFile hf⟩

theorem withLine_of_escapes (h : f.Escapes) (name line : String) : withLine name line f = f := by
  cases f with
  | unresolvable v => cases h
  | _ => rfl

/-- Reading a line of a script that may only name files inside a directory ends with a fault other
than that something is not there. -/
inductive Breaks (c : Setting) (inside : Path) (r : Resolver σ) (line : String) (s : σ) : Prop
  | file {token : String} : isFileLine line = true → Directive.payload line = some token →
    Trips c.disk inside c.script token → Breaks c inside r line s
  | reference {name : String} {f : Fault} {t : σ} : referenceName? line = some name →
    r.resolve c.disk name s = .error f t → f.Escapes → Breaks c inside r line s

theorem reference_fault {name : String} (hr : r.NeverRejects) (hn : referenceName? line = some name)
    (h : r.resolve c.disk name s = .error f t) :
    (∃ reason, withLine name line f = .unresolvable ⟨name, some line, reason⟩) ∨
      (withLine name line f).Escapes ∧ Breaks c inside r line s := by
  have hescapes (hesc : f.Escapes) : (withLine name line f).Escapes ∧ Breaks c inside r line s := by
    rw [withLine_of_escapes hesc]
    exact ⟨hesc, .reference hn h hesc⟩
  cases f with
  | unresolvable v => exact .inl ⟨v.reason, rfl⟩
  | rejected rejection => exact absurd rfl (hr c.disk name s _ _ h rejection)
  | _ => exact .inr (hescapes trivial)

theorem yield_fault (hc : c.root = some inside) (hn : referenceName? line = none)
    (h : c.yield line = .error f) :
    (∃ token reason, f = .unresolvable ⟨token, some line, reason⟩) ∨
      f.Escapes ∧ Breaks c inside r line s := by
  cases misses_of_yield h with
  | reference hm hp ha =>
    rw [referenceName?, if_pos hm, hp] at hn
    cases hn
  | @file token _ hl hp hf =>
    rw [Setting.fileOf, hc] at hf
    rcases existingFile_fault hf with ⟨reason, rfl⟩ | ⟨hesc, htrips⟩
    · exact .inl ⟨token, reason, rfl⟩
    · exact .inr ⟨hesc, .file hl hp htrips⟩

theorem read_fault (hr : r.NeverRejects) (hc : c.root = some inside) (h : c.read r line s = .error f t) :
    (∃ token reason, f = .unresolvable ⟨token, some line, reason⟩) ∨
      f.Escapes ∧ Breaks c inside r line s := by
  cases hn : referenceName? line with
  | some name =>
    rw [Setting.read_of_reference hn] at h
    cases hx : r.resolve c.disk name s with
    | ok file u => simp [hx] at h
    | error e u =>
      simp only [hx, EStateM.Result.error.injEq] at h
      obtain ⟨rfl, rfl⟩ := h
      exact (reference_fault hr hn hx).imp_left fun hy => ⟨name, hy⟩
  | none =>
    rw [Setting.read_of_other hn] at h
    cases hy : c.yield line with
    | ok y => simp [hy] at h
    | error e =>
      rw [hy, ofExcept_error, EStateM.Result.error.injEq] at h
      obtain ⟨rfl, rfl⟩ := h
      exact yield_fault hc hn hy

theorem Breaks.fault (hc : c.root = some inside) (h : Breaks c inside r line s) :
    ∃ f t, c.read r line s = .error f t ∧ f.Escapes := by
  cases h with
  | @file token hl hp htrips =>
    obtain ⟨f, hf, hesc⟩ := htrips.fault line
    have hnone : referenceName? line = none := by
      simp only [isFileLine, Bool.or_eq_true] at hl
      rcases hl with hl | hl <;> simp [referenceName?, Directive.marks_eq_decide hl]
    have hyield : c.yield line = .error f := by
      have hfile : c.fileOf line token = .error f := by rw [Setting.fileOf, hc, hf]
      simp only [isFileLine, Bool.or_eq_true] at hl
      rcases hl with hl | hl <;>
        simp [Setting.yield_of_marks hl, hp, Setting.yieldOf, hfile, Except.map]
    refine ⟨f, s, ?_, hesc⟩
    rw [Setting.read_of_other hnone, hyield]
    rfl
  | @reference name f t hn hx hesc =>
    refine ⟨f, t, ?_, hesc⟩
    rw [Setting.read_of_reference hn, hx]
    simp only [withLine_of_escapes hesc]

theorem not_breaks_manifest {listed : Manifest}
    (h : ∀ token, isFileLine line = true → Directive.payload line = some token →
      ¬ Trips c.disk inside c.script token) :
    ¬ Breaks c inside (.manifest listed none) line s := by
  intro hbreaks
  cases hbreaks with
  | file hl hp htrips => exact h _ hl hp htrips
  | @reference name f t _ hx hesc =>
    obtain ⟨_, rfl, hanswer⟩ := Resolver.answers_manifest (σ := σ) listed c.disk name s
    rw [hanswer] at hx
    cases ha : listed.answers name with
    | ok file => simp [ha] at hx
    | error v =>
      simp only [ha, EStateM.Result.error.injEq] at hx
      rw [← hx.1] at hesc
      exact hesc

end BuildScripts

import BuildScripts.Proofs.Disk.Clear
import BuildScripts.Proofs.Path
import BuildScripts.Proofs.Script.Analysis
import BuildScripts.Proofs.Script.Prepared

namespace BuildScripts

open Attempt
open BuildScripts.Text

section Absolute

variable {d : Disk} {full path : Path} {token : String}

theorem baseOf_full (d : Disk) (h : full.isAbsolute = true) :
    baseOf d (some full.toText) = (Path.ofText full.toText).parent := by
  obtain ⟨cs, hcs⟩ := toText_of_isAbsolute h
  have hne : full.toText ≠ "" := fun he => by simp [he] at hcs
  rw [baseOf, if_neg hne]

theorem isAbsolute_base_join (h : full.isAbsolute = true) (p : Path) :
    ((baseOf d (some full.toText)).join p).isAbsolute = true := by
  have habs := isAbsolute_ofText_toText h
  rw [baseOf_full d h]
  obtain ⟨anchor, parts⟩ := p
  cases anchor <;> simp_all [Path.join, Path.isAbsolute, Path.parent]

theorem isAbsolute_of_scriptRelative
    (h : scriptRelative d (some full.toText) token = .ok path) : path.isAbsolute = true := by
  rw [scriptRelative_eq] at h
  split at h
  · rename_i ht
    cases h
    exact ht
  · rw [(Disk.resolve_eq_ok h).2]
    exact Disk.isAbsolute_fullPath d _

end Absolute

section Lookup

variable {c c' : Setting} {line token : String}

namespace Setting

def lookup (c : Setting) (line token : String) : Except Fault Path := do
  let path ← scriptRelative c.disk c.script token
  checkBelow c.disk c.root token line path
  return path

def LooksUp (c : Setting) (line : String) (path : Path) : Prop :=
  isFileLine line = true ∧ ∃ token, Directive.payload line = some token ∧
    c.lookup line token = .ok path

def fileAt (c : Setting) (line token : String) (path : Path) : Except Fault String :=
  match c.disk.isFile path with
  | .ok true => .ok path.toText
  | .ok false => .error (.unresolvable ⟨token, some line, "file not found: " ++ path.toText⟩)
  | .error f => .error f

theorem lookup_eq_ok_iff {path : Path} : c.lookup line token = .ok path ↔
    scriptRelative c.disk c.script token = .ok path ∧
      checkBelow c.disk c.root token line path = .ok () := by
  constructor
  · intro h
    obtain ⟨path', hp, h⟩ := except_bind_eq_ok.1 h
    obtain ⟨⟨⟩, hb, h⟩ := except_bind_eq_ok.1 h
    cases h
    exact ⟨hp, hb⟩
  · rintro ⟨hp, hb⟩
    exact except_bind_eq_ok.2 ⟨path, hp, except_bind_eq_ok.2 ⟨(), hb, rfl⟩⟩

theorem fileOf_of_lookup {path : Path} (h : c.lookup line token = .ok path) :
    c.fileOf line token = c.fileAt line token path := by
  obtain ⟨hp, hb⟩ := lookup_eq_ok_iff.1 h
  simp only [fileOf, existingFile, hp, hb, bind, Except.bind, fileAt]
  cases c.disk.isFile path with
  | error f => rfl
  | ok found => cases found <;> rfl

theorem fileOf_of_lookup_error {f : Fault} (h : c.lookup line token = .error f) :
    c.fileOf line token = .error f := by
  rcases except_bind_eq_error.1 h with hp | ⟨path, hp, h⟩
  · exact existingFile_eq_error_iff.2 (.inl hp)
  rcases except_bind_eq_error.1 h with hb | ⟨⟨⟩, -, h⟩
  · exact existingFile_eq_error_iff.2 (.inr ⟨path, hp, .inl hb⟩)
  · cases h

theorem yield_of_looksUp {path : Path} (h : c.LooksUp line path) :
    ∃ token f, c.yield line = (c.fileAt line token path).map f := by
  obtain ⟨hm, token, hp, hl⟩ := h
  simp only [isFileLine, Bool.or_eq_true] at hm
  rcases hm with hm | hm
  · exact ⟨token, .reference, by rw [yield_of_marks hm, hp, ← fileOf_of_lookup hl]; rfl⟩
  · exact ⟨token, .sourceFile, by rw [yield_of_marks hm, hp, ← fileOf_of_lookup hl]; rfl⟩

def Blames (line : String) : Fault → Prop
  | .unresolvable u => u.line = some line
  | .rejected _ => False
  | _ => True

theorem blames_of_resolve {d : Disk} {p : Path} {f : Fault} (h : d.resolve p = .error f) :
    Blames line f := by
  rcases Disk.resolve_fault h with rfl | ⟨path, rfl⟩ <;> trivial

theorem blames_of_scriptRelative {d : Disk} {script : Option String} {f : Fault}
    (h : scriptRelative d script token = .error f) : Blames line f := by
  rw [scriptRelative_eq] at h
  split at h
  · cases h
  · exact blames_of_resolve h

theorem blames_of_checkBelow {d : Disk} {root : Option Path} {path : Path} {f : Fault}
    (h : checkBelow d root token line path = .error f) : Blames line f := by
  cases root with
  | none => cases h
  | some inside =>
    rcases checkBelow_eq_error_iff.1 h with hr | ⟨-, -, -, rfl⟩
    · exact blames_of_resolve hr
    · rfl

theorem blames_of_fileOf {f : Fault} (h : c.fileOf line token = .error f) : Blames line f := by
  rcases existingFile_eq_error_iff.1 h with hp | ⟨path, -, hb | ⟨-, hf | ⟨-, rfl⟩⟩⟩
  · exact blames_of_scriptRelative hp
  · exact blames_of_checkBelow hb
  · rw [Disk.testEntry_fault hf]
    trivial
  · rfl

theorem blames_of_yield {f : Fault} (h : c.yield line = .error f) : Blames line f := by
  cases misses_of_yield h with
  | reference hm hp ha => rfl
  | file hl hp hf => exact blames_of_fileOf hf

theorem yield_congr (ha : c'.answers = c.answers)
    (hf : ∀ token, isFileLine line = true → Directive.payload line = some token →
      c'.fileOf line token = c.fileOf line token) : c'.yield line = c.yield line := by
  cases hd : Directive.of? line with
  | none => rw [yield_of_body hd, yield_of_body hd]
  | some dir =>
    have hm := Directive.of?_eq_some_iff.1 hd
    rw [yield_of_marks hm, yield_of_marks hm]
    cases hp : Directive.payload line with
    | none => rfl
    | some token =>
      cases dir with
      | reference => simp only [yieldOf, ha]
      | assembly => simp only [yieldOf, hf token (by simp [isFileLine, hm]) hp]
      | sourceFile => simp only [yieldOf, hf token (by simp [isFileLine, hm]) hp]
      | package => rfl

end Setting

end Lookup

section Changed

variable {d d' : Disk} {full : Path} {listed : Manifest} {inside : Path} {line token : String}

def Disk.SamePaths (d d' : Disk) : Prop :=
  ∀ p : Path, p.isAbsolute = true → d'.resolve p = d.resolve p

theorem scriptRelative_of_samePaths (h : d.SamePaths d') (hf : full.isAbsolute = true)
    (token : String) :
    scriptRelative d' (some full.toText) token = scriptRelative d (some full.toText) token := by
  have hbase : baseOf d' (some full.toText) = baseOf d (some full.toText) := by
    rw [baseOf_full d' hf, baseOf_full d hf]
  have hjoin := isAbsolute_base_join (d := d) hf (Path.ofText token)
  rw [scriptRelative_eq, scriptRelative_eq, hbase, h _ hjoin]

theorem checkBelow_of_samePaths (h : d.SamePaths d') {path : Path} (hp : path.isAbsolute = true)
    (root : Option Path) (token line : String) :
    checkBelow d' root token line path = checkBelow d root token line path := by
  cases root with
  | none => rfl
  | some r => rw [checkBelow, checkBelow, h path hp]

theorem lookup_of_samePaths (h : d.SamePaths d') (hf : full.isAbsolute = true) :
    (listed.setting inside d' full).lookup line token =
      (listed.setting inside d full).lookup line token := by
  have hrel := scriptRelative_of_samePaths h hf token
  simp only [Setting.lookup, Manifest.setting]
  rw [hrel]
  cases hp : scriptRelative d (some full.toText) token with
  | error e => simp only [bind, Except.bind]
  | ok path =>
    have hbelow := checkBelow_of_samePaths h (isAbsolute_of_scriptRelative hp) (some inside)
      token line
    simp only [bind, Except.bind, hbelow]

theorem yield_of_samePaths (h : d.SamePaths d') (hf : full.isAbsolute = true)
    (hfile : ∀ path, (listed.setting inside d full).LooksUp line path →
      d'.isFile path = d.isFile path) :
    (listed.setting inside d' full).yield line = (listed.setting inside d full).yield line := by
  refine Setting.yield_congr rfl fun token hm hp => ?_
  cases hl : (listed.setting inside d full).lookup line token with
  | error f =>
    rw [Setting.fileOf_of_lookup_error hl,
      Setting.fileOf_of_lookup_error ((lookup_of_samePaths h hf).trans hl)]
  | ok path =>
    rw [Setting.fileOf_of_lookup hl,
      Setting.fileOf_of_lookup ((lookup_of_samePaths h hf).trans hl)]
    simp only [Setting.fileAt, Manifest.setting, hfile path ⟨hm, token, hp, hl⟩]

theorem yields_of_files (h : d.SamePaths d') (hf : full.isAbsolute = true)
    (hfile : ∀ p : Path, p.isAbsolute = true → d.isFile p = .ok true → d'.isFile p = .ok true)
    {lines : List String} {ys : List Yield}
    (hy : (listed.setting inside d full).yields lines = .ok ys) :
    (listed.setting inside d' full).yields lines = .ok ys := by
  rw [Setting.yields_eq_ok_iff] at hy ⊢
  refine hy.imp fun line y hy => (yield_of_samePaths h hf fun path hlook => ?_).trans hy
  obtain ⟨token, f, hyield⟩ := Setting.yield_of_looksUp hlook
  obtain ⟨-, _, -, hl⟩ := hlook
  have habs := isAbsolute_of_scriptRelative (Setting.lookup_eq_ok_iff.1 hl).1
  rw [hyield] at hy
  cases hfound : d.isFile path with
  | error e => simp [Setting.fileAt, Manifest.setting, hfound, Except.map] at hy
  | ok found =>
    cases found with
    | false => simp [Setting.fileAt, Manifest.setting, hfound, Except.map] at hy
    | true => exact hfile path habs hfound

end Changed

end BuildScripts

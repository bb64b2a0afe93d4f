import BuildScripts.Proofs.Attempts
import BuildScripts.Script.Analyser
import Mathlib.Data.List.Forall2

/-!
What one line adds to an analysis, as a function of the line and of what it is read with.
-/

namespace BuildScripts

open Attempt

inductive Yield
  | body
  | nothing
  | reference (file : String)
  | sourceFile (file : String)
  | package (p : Package)
  deriving DecidableEq, Repr

namespace Yield

def reference? : Yield → Option String
  | .reference file => some file
  | _ => none

def sourceFile? : Yield → Option String
  | .sourceFile file => some file
  | _ => none

def package? : Yield → Option Package
  | .package p => some p
  | _ => none

end Yield

def Metadata.record (m : Metadata) : Yield → Metadata
  | .reference file => m.addReference file
  | .sourceFile file => m.addSourceFile file
  | .package p => m.addPackage p
  | _ => m

namespace Directive

def of? (line : String) : Option Directive :=
  [Directive.reference, .assembly, .sourceFile, .package].find? (·.marks line)

theorem marks_eq_decide {dir : Directive} {line : String} (h : dir.marks line = true)
    (e : Directive) : e.marks line = decide (e = dir) := by
  by_cases he : e = dir
  · simpa [he] using h
  · rw [decide_eq_false he]
    by_contra hc
    exact he (eq_of_marks (by simpa using hc) h)

theorem of?_eq_some_iff {line : String} {dir : Directive} :
    of? line = some dir ↔ dir.marks line = true := by
  constructor
  · intro h
    exact List.find?_some (p := fun e : Directive => e.marks line) h
  · intro h
    cases dir <;> simp [of?, List.find?, marks_eq_decide h]

theorem of?_eq_none_iff {line : String} :
    of? line = none ↔ ∀ dir : Directive, dir.marks line = false := by
  constructor
  · intro h dir
    by_contra hc
    rw [of?_eq_some_iff.2 (by simpa using hc)] at h
    cases h
  · intro h
    simp [of?, h]

end Directive

/-- A resolver whose answers depend only on the name; `R` bounds what it does to its state. -/
def Resolver.Answers {σ : Type} (r : Resolver σ) (answers : String → Except Unresolvable String)
    (R : σ → σ → Prop) : Prop :=
  ∀ d name s, ∃ s', R s s' ∧ r.resolve d name s =
    match answers name with
    | .ok file => .ok file s'
    | .error u => .error (.unresolvable u) s'

theorem Resolver.Answers.mono {σ : Type} {r : Resolver σ}
    {answers : String → Except Unresolvable String} {R S : σ → σ → Prop} (h : r.Answers answers R)
    (hRS : ∀ {a b}, R a b → S a b) : r.Answers answers S := by
  intro d name s
  obtain ⟨s', hs, he⟩ := h d name s
  exact ⟨s', hRS hs, he⟩

def Manifest.answers (listed : Manifest) (name : String) : Except Unresolvable String :=
  match listed.lookup name with
  | some file => .ok file
  | none => .error ⟨name, none, "not listed in the reference manifest"⟩

theorem Resolver.answers_manifest {σ : Type} (listed : Manifest) :
    (Resolver.manifest listed none : Resolver σ).Answers listed.answers Eq := by
  intro d name s
  refine ⟨s, rfl, ?_⟩
  simp only [Resolver.manifest, Manifest.answers]
  cases listed.lookup name <;> rfl

structure Setting where
  answers : String → Except Unresolvable String
  disk : Disk
  root : Option Path
  script : Option String

namespace Setting

def fileOf (c : Setting) (line token : String) : Except Fault String :=
  existingFile c.disk c.root c.script token line

def yieldOf (c : Setting) (line token : String) : Directive → Except Fault Yield
  | .reference =>
    match c.answers token with
    | .ok file => .ok (.reference file)
    | .error u => .error (.unresolvable ⟨token, some line, u.reason⟩)
  | .assembly => (c.fileOf line token).map .reference
  | .sourceFile => (c.fileOf line token).map .sourceFile
  | .package =>
    let p := Directive.readPackage token
    .ok (if p.name.isEmpty then .nothing else .package p)

def yield (c : Setting) (line : String) : Except Fault Yield :=
  match Directive.of? line with
  | none => .ok .body
  | some dir =>
    match Directive.payload line with
    | none => .ok .nothing
    | some token => c.yieldOf line token dir

def yields (c : Setting) (lines : List String) : Except Fault (List Yield) :=
  lines.mapM c.yield

theorem yield_of_body {c : Setting} {line : String} (h : Directive.of? line = none) :
    c.yield line = .ok .body := by
  simp [yield, h]

theorem yield_of_marks {c : Setting} {line : String} {dir : Directive}
    (h : dir.marks line = true) : c.yield line =
      match Directive.payload line with
      | none => .ok .nothing
      | some token => c.yieldOf line token dir := by
  simp [yield, Directive.of?_eq_some_iff.2 h]

inductive Gives (c : Setting) (line : String) : Yield → Prop
  | noPayload {dir : Directive} (hm : dir.marks line = true)
      (hp : Directive.payload line = none) : Gives c line .nothing
  | reference {token file : String} (hm : Directive.reference.marks line = true)
      (hp : Directive.payload line = some token) (hf : c.answers token = .ok file) :
      Gives c line (.reference file)
  | assembly {token file : String} (hm : Directive.assembly.marks line = true)
      (hp : Directive.payload line = some token) (hf : c.fileOf line token = .ok file) :
      Gives c line (.reference file)
  | sourceFile {token file : String} (hm : Directive.sourceFile.marks line = true)
      (hp : Directive.payload line = some token) (hf : c.fileOf line token = .ok file) :
      Gives c line (.sourceFile file)
  | noName {token : String} (hm : Directive.package.marks line = true)
      (hp : Directive.payload line = some token)
      (hn : (Directive.readPackage token).name.isEmpty = true) : Gives c line .nothing
  | package {token : String} (hm : Directive.package.marks line = true)
      (hp : Directive.payload line = some token)
      (hn : (Directive.readPackage token).name.isEmpty = false) :
      Gives c line (.package (Directive.readPackage token))

theorem gives_of_yield {c : Setting} {line : String} {y : Yield} {dir : Directive}
    (hm : dir.marks line = true) (h : c.yield line = .ok y) : c.Gives line y := by
  rw [yield_of_marks hm] at h
  cases hp : Directive.payload line with
  | none =>
    simp only [hp, Except.ok.injEq] at h
    subst h
    exact .noPayload hm hp
  | some token =>
    simp only [hp] at h
    cases dir with
    | reference =>
      cases hf : c.answers token with
      | error u => simp [yieldOf, hf] at h
      | ok file =>
        simp only [yieldOf, hf, Except.ok.injEq] at h
        subst h
        exact .reference hm hp hf
    | assembly =>
      obtain ⟨file, hf, rfl⟩ := map_eq_ok.1 h
      exact .assembly hm hp hf
    | sourceFile =>
      obtain ⟨file, hf, rfl⟩ := map_eq_ok.1 h
      exact .sourceFile hm hp hf
    | package =>
      simp only [yieldOf, Except.ok.injEq] at h
      cases hn : (Directive.readPackage token).name.isEmpty with
      | true =>
        rw [hn] at h
        subst h
        exact .noName hm hp hn
      | false =>
        rw [hn] at h
        subst h
        exact .package hm hp hn

theorem yieldOf_ne_body {c : Setting} {line token : String} {dir : Directive} :
    c.yieldOf line token dir ≠ .ok .body := by
  cases dir with
  | reference => cases h : c.answers token <;> simp [yieldOf, h]
  | assembly => cases h : c.fileOf line token <;> simp [yieldOf, h, Except.map]
  | sourceFile => cases h : c.fileOf line token <;> simp [yieldOf, h, Except.map]
  | package => simp only [yieldOf]; split <;> simp

theorem yield_eq_body_iff {c : Setting} {line : String} :
    c.yield line = .ok .body ↔ Directive.of? line = none := by
  constructor
  · intro h
    cases hd : Directive.of? line with
    | none => rfl
    | some dir =>
      rw [yield_of_marks (Directive.of?_eq_some_iff.1 hd)] at h
      cases hp : Directive.payload line with
      | none => simp [hp] at h
      | some token => exact absurd (by simpa [hp] using h) yieldOf_ne_body
  · exact yield_of_body

theorem yields_nil (c : Setting) : c.yields [] = .ok [] := rfl

theorem yields_cons (c : Setting) (line : String) (lines : List String) :
    c.yields (line :: lines) =
      match c.yield line with
      | .ok y => (c.yields lines).map (y :: ·)
      | .error e => .error e := by
  simp only [yields, List.mapM_cons]
  cases c.yield line with
  | error e => rfl
  | ok y => cases List.mapM c.yield lines <;> rfl

theorem yields_eq_ok_iff {c : Setting} {lines : List String} {ys : List Yield} :
    c.yields lines = .ok ys ↔ List.Forall₂ (fun line y => c.yield line = .ok y) lines ys := by
  induction lines generalizing ys with
  | nil =>
    rw [yields_nil, List.forall₂_nil_left_iff]
    exact ⟨fun h => by cases h; rfl, fun h => by rw [h]⟩
  | cons line lines ih =>
    rw [yields_cons, List.forall₂_cons_left_iff]
    constructor
    · intro h
      cases hy : c.yield line with
      | error e => simp [hy] at h
      | ok y =>
        simp only [hy] at h
        obtain ⟨zs, hl, hys⟩ := map_eq_ok.1 h
        exact ⟨y, zs, rfl, ih.1 hl, hys.symm⟩
    · rintro ⟨y, zs, hy, hzs, rfl⟩
      simp [hy, ih.2 hzs, Except.map]

theorem yields_eq_error_iff {c : Setting} {lines : List String} {e : Fault} :
    c.yields lines = .error e ↔ ∃ before line after, lines = before ++ line :: after ∧
      (∀ l ∈ before, ∃ y, c.yield l = .ok y) ∧ c.yield line = .error e := by
  induction lines with
  | nil => simp [yields_nil]
  | cons line lines ih =>
    rw [yields_cons]
    constructor
    · intro h
      cases hy : c.yield line with
      | error f =>
        simp only [hy, Except.error.injEq] at h
        exact ⟨[], line, lines, rfl, by simp, h ▸ hy⟩
      | ok y =>
        simp only [hy] at h
        obtain ⟨before, l, after, rfl, hb, he⟩ := ih.1 (map_eq_error.1 h)
        refine ⟨line :: before, l, after, rfl, ?_, he⟩
        simp only [List.forall_mem_cons]
        exact ⟨⟨y, hy⟩, hb⟩
    · rintro ⟨before, l, after, hsplit, hb, he⟩
      cases before with
      | nil =>
        simp only [List.nil_append, List.cons.injEq] at hsplit
        obtain ⟨rfl, rfl⟩ := hsplit
        rw [he]
      | cons b before =>
        simp only [List.cons_append, List.cons.injEq] at hsplit
        obtain ⟨rfl, rfl⟩ := hsplit
        simp only [List.forall_mem_cons] at hb
        obtain ⟨⟨y, hy⟩, hb⟩ := hb
        simp [hy, ih.2 ⟨before, l, after, rfl, hb, he⟩, Except.map]

theorem yields_isOk_iff {c : Setting} {lines : List String} :
    (∃ ys, c.yields lines = .ok ys) ↔ ∀ line ∈ lines, ∃ y, c.yield line = .ok y := by
  constructor
  · rintro ⟨ys, h⟩
    have hall := yields_eq_ok_iff.1 h
    clear h
    induction hall with
    | nil => simp
    | cons hy _ ih =>
      simp only [List.forall_mem_cons]
      exact ⟨⟨_, hy⟩, ih⟩
  · intro h
    cases hy : c.yields lines with
    | ok ys => exact ⟨ys, rfl⟩
    | error e =>
      obtain ⟨before, line, after, rfl, -, he⟩ := yields_eq_error_iff.1 hy
      obtain ⟨y, hy'⟩ := h line (by simp)
      rw [he] at hy'
      cases hy'

theorem yields_congr {c c' : Setting} {lines : List String}
    (h : ∀ before line after, lines = before ++ line :: after →
      (∀ l ∈ before, ∃ y, c.yield l = .ok y) → (∀ l ∈ before, ∃ y, c'.yield l = .ok y) →
        c'.yield line = c.yield line) : c'.yields lines = c.yields lines := by
  induction lines with
  | nil => rfl
  | cons line lines ih =>
    have hline := h [] line lines rfl (by simp) (by simp)
    rw [yields_cons, yields_cons, hline]
    cases hy : c.yield line with
    | error e => rfl
    | ok y =>
      simp only [ih fun before l after hsplit hb hb' => h (line :: before) l after
        (by rw [hsplit, List.cons_append]) (List.forall_mem_cons.2 ⟨⟨y, hy⟩, hb⟩)
        (List.forall_mem_cons.2 ⟨⟨y, hline.trans hy⟩, hb'⟩)]

end Setting

end BuildScripts

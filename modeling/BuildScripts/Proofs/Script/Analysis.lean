import BuildScripts.Proofs.Script.Scan
import BuildScripts.Proofs.Text.Trim

/-!
What an analysis means, said of the lines of the text alone. Main statement: it succeeds exactly
when every line with a marker and a payload names something, holds one entry for each such line in
the order of the lines, and otherwise reports the first line that names nothing.
-/

namespace BuildScripts

open Attempt
open BuildScripts.Text

variable {σ : Type}

def baseOf (d : Disk) : Option String → Path
  | none => d.currentPath
  | some s => if s = "" then d.currentPath else (Path.ofText s).parent

def Leads (d : Disk) (script : Option String) (token : String) (path : Path) : Prop :=
  if (Path.ofText token).isAbsolute then path = Path.ofText token
  else d.resolve ((baseOf d script).join (Path.ofText token)) = .ok path

theorem scriptRelative_eq (d : Disk) (script : Option String) (token : String) :
    scriptRelative d script token =
      if (Path.ofText token).isAbsolute then .ok (Path.ofText token)
      else d.resolve ((baseOf d script).join (Path.ofText token)) := by
  cases script with
  | none => rfl
  | some s =>
    by_cases hs : s = ""
    · subst hs
      rfl
    · have he : (!s.isEmpty) = true := by simpa [String.isEmpty_iff] using hs
      simp only [scriptRelative, Option.filter, he, if_true, baseOf, if_neg hs]

theorem scriptRelative_eq_ok_iff {d : Disk} {script : Option String} {token : String}
    {path : Path} : scriptRelative d script token = .ok path ↔ Leads d script token path := by
  rw [scriptRelative_eq, Leads]
  split <;> simp [eq_comm]

def NamesFile (d : Disk) (script : Option String) (token file : String) : Prop :=
  ∃ path, Leads d script token path ∧ d.isFile path = .ok true ∧ file = path.toText

def LookupEnds (d : Disk) (script : Option String) (token : String) : Prop :=
  ∃ path found, Leads d script token path ∧ d.isFile path = .ok found

def isFileLine (line : String) : Bool :=
  Directive.assembly.marks line || Directive.sourceFile.marks line

def asksReference (line : String) : Bool :=
  (Directive.reference.marks line || Directive.assembly.marks line) &&
    (Directive.payload line).isSome

def asksSourceFile (line : String) : Bool :=
  Directive.sourceFile.marks line && (Directive.payload line).isSome

def declaresPackage (line : String) : Bool :=
  Directive.package.marks line && (Directive.payload line).any fun token =>
    (Directive.cutAtComma token.toList).1.any (!isBlank ·)

def LineNames (answers : String → Except Unresolvable String) (d : Disk) (script : Option String)
    (line file : String) : Prop :=
  ∃ token, Directive.payload line = some token ∧
    (Directive.reference.marks line = true ∧ answers token = .ok file ∨
      isFileLine line = true ∧ NamesFile d script token file)

def Satisfied (answers : String → Except Unresolvable String) (d : Disk) (script : Option String)
    (line : String) : Prop :=
  asksReference line = true ∨ asksSourceFile line = true → ∃ file, LineNames answers d script line file

section Files

variable {d : Disk} {script : Option String} {inside path : Path} {line token file : String} {f : Fault}

theorem checkBelow_eq_ok_iff : checkBelow d (some inside) token line path = .ok () ↔
    ∃ full, d.resolve path = .ok full ∧ full.isBelow inside = true := by
  rw [checkBelow, except_bind_eq_ok]
  refine exists_congr fun full => and_congr_right fun _ => ?_
  cases full.isBelow inside <;> simp

theorem checkBelow_eq_error_iff : checkBelow d (some inside) token line path = .error f ↔
    d.resolve path = .error f ∨ ∃ full, d.resolve path = .ok full ∧ full.isBelow inside = false ∧
      f = .unresolvable ⟨token, some line, "path outside " ++ inside.toText⟩ := by
  rw [checkBelow, except_bind_eq_error]
  refine or_congr_right (exists_congr fun full => and_congr_right fun _ => ?_)
  cases full.isBelow inside <;> simp [eq_comm]

theorem existingFile_eq_ok_iff {root : Option Path} :
    existingFile d root script token line = .ok file ↔ ∃ path,
      scriptRelative d script token = .ok path ∧ checkBelow d root token line path = .ok () ∧
        d.isFile path = .ok true ∧ file = path.toText := by
  constructor
  · intro h
    obtain ⟨path, hp, h⟩ := except_bind_eq_ok.1 h
    obtain ⟨⟨⟩, hb, h⟩ := except_bind_eq_ok.1 h
    obtain ⟨found, hf, h⟩ := except_bind_eq_ok.1 h
    cases found with
    | true =>
      cases h
      exact ⟨path, hp, hb, hf, rfl⟩
    | false => cases h
  · rintro ⟨path, hp, hb, hf, rfl⟩
    exact except_bind_eq_ok.2 ⟨path, hp, except_bind_eq_ok.2 ⟨(), hb,
      except_bind_eq_ok.2 ⟨true, hf, rfl⟩⟩⟩

theorem existingFile_eq_error_iff {root : Option Path} :
    existingFile d root script token line = .error f ↔ scriptRelative d script token = .error f ∨
      ∃ path, scriptRelative d script token = .ok path ∧
        (checkBelow d root token line path = .error f ∨
          checkBelow d root token line path = .ok () ∧ (d.isFile path = .error f ∨
            d.isFile path = .ok false ∧
              f = .unresolvable ⟨token, some line, "file not found: " ++ path.toText⟩)) := by
  constructor
  · intro h
    rcases except_bind_eq_error.1 h with hp | ⟨path, hp, h⟩
    · exact .inl hp
    rcases except_bind_eq_error.1 h with hb | ⟨⟨⟩, hb, h⟩
    · exact .inr ⟨path, hp, .inl hb⟩
    rcases except_bind_eq_error.1 h with hf | ⟨found, hf, h⟩
    · exact .inr ⟨path, hp, .inr ⟨hb, .inl hf⟩⟩
    cases found with
    | true => cases h
    | false =>
      cases h
      exact .inr ⟨path, hp, .inr ⟨hb, .inr ⟨hf, rfl⟩⟩⟩
  · rintro (hp | ⟨path, hp, hb | ⟨hb, hf | ⟨hf, rfl⟩⟩⟩)
    · exact except_bind_eq_error.2 (.inl hp)
    · exact except_bind_eq_error.2 (.inr ⟨path, hp, except_bind_eq_error.2 (.inl hb)⟩)
    · exact except_bind_eq_error.2 (.inr ⟨path, hp, except_bind_eq_error.2 (.inr ⟨(), hb,
        except_bind_eq_error.2 (.inl hf)⟩)⟩)
    · exact except_bind_eq_error.2 (.inr ⟨path, hp, except_bind_eq_error.2 (.inr ⟨(), hb,
        except_bind_eq_error.2 (.inr ⟨false, hf, rfl⟩)⟩)⟩)

theorem existingFile_of_lookup {found : Bool} (hp : Leads d script token path)
    (hf : d.isFile path = .ok found) :
    existingFile d none script token line =
      if found then .ok path.toText
      else .error (.unresolvable ⟨token, some line, "file not found: " ++ path.toText⟩) := by
  have hr := scriptRelative_eq_ok_iff.2 hp
  cases found with
  | true => exact existingFile_eq_ok_iff.2 ⟨path, hr, rfl, hf, rfl⟩
  | false => exact existingFile_eq_error_iff.2 (.inr ⟨path, hr, .inr ⟨rfl, .inr ⟨hf, rfl⟩⟩⟩)

theorem existingFile_none_eq_ok_iff :
    existingFile d none script token line = .ok file ↔ NamesFile d script token file := by
  rw [existingFile_eq_ok_iff]
  refine exists_congr fun path => ?_
  rw [scriptRelative_eq_ok_iff]
  refine and_congr_right fun _ => ⟨fun ⟨_, hf⟩ => hf, fun hf => ⟨rfl, hf⟩⟩

end Files

theorem name_isEmpty_eq (token : String) : (Directive.readPackage token).name.isEmpty =
    !(Directive.cutAtComma token.toList).1.any (!isBlank ·) := by
  have h := trim_eq_nil_iff isBlank (Directive.cutAtComma token.toList).1
  rw [Bool.eq_iff_iff]
  simp only [Directive.readPackage, stripChars, String.isEmpty_iff]
  rw [String.ofList_eq_empty_iff, h]
  simp

section Lines

variable {answers : String → Except Unresolvable String} {d : Disk} {script : Option String}
  {line : String} {y : Yield}

theorem lineNames_reference (d : Disk) (script : Option String)
    (hm : Directive.reference.marks line = true) {token file : String}
    (hp : Directive.payload line = some token) :
    LineNames answers d script line file ↔ answers token = .ok file := by
  simp [LineNames, isFileLine, Directive.marks_eq_decide hm, hp]

theorem lineNames_file (answers : String → Except Unresolvable String)
    (hm : isFileLine line = true) {token file : String} (hp : Directive.payload line = some token) :
    LineNames answers d script line file ↔ NamesFile d script token file := by
  have hr : Directive.reference.marks line = false := by
    simp only [isFileLine, Bool.or_eq_true] at hm
    rcases hm with hm | hm <;> simp [Directive.marks_eq_decide hm]
  simp [LineNames, hp, hm, hr]

structure Tells (c : Setting) (line : String) (y : Yield) : Prop where
  reference : asksReference line = true →
    ∃ file, y.reference? = some file ∧ LineNames c.answers c.disk c.script line file
  noReference : asksReference line = false → y.reference? = none
  sourceFile : asksSourceFile line = true →
    ∃ file, y.sourceFile? = some file ∧ LineNames c.answers c.disk c.script line file
  noSourceFile : asksSourceFile line = false → y.sourceFile? = none
  package : declaresPackage line = true → ∃ p, y.package? = some p ∧
    ∃ token, Directive.payload line = some token ∧ p = Directive.readPackage token
  noPackage : declaresPackage line = false → y.package? = none

theorem tells_of_yield {c : Setting} (hroot : c.root = none) (h : c.yield line = .ok y) :
    Tells c line y := by
  cases hd : Directive.of? line with
  | none =>
    rw [Setting.yield_of_body hd] at h
    cases h
    constructor <;>
      simp [asksReference, asksSourceFile, declaresPackage, Directive.of?_eq_none_iff.1 hd,
        Yield.reference?, Yield.sourceFile?, Yield.package?]
  | some dir =>
    cases Setting.gives_of_yield (Directive.of?_eq_some_iff.1 hd) h with
    | noPayload _ hp =>
      constructor <;>
        simp [asksReference, asksSourceFile, declaresPackage, hp, Yield.reference?,
          Yield.sourceFile?, Yield.package?]
    | reference hm hp hf =>
      have hn := (lineNames_reference c.disk c.script hm hp).2 hf
      constructor <;>
        simp [asksReference, asksSourceFile, declaresPackage, Directive.marks_eq_decide hm, hp, hn,
          Yield.reference?, Yield.sourceFile?, Yield.package?]
    | assembly hm hp hf =>
      rw [Setting.fileOf, hroot, existingFile_none_eq_ok_iff] at hf
      have hn := (lineNames_file c.answers (by simp [isFileLine, hm]) hp).2 hf
      constructor <;>
        simp [asksReference, asksSourceFile, declaresPackage, Directive.marks_eq_decide hm, hp, hn,
          Yield.reference?, Yield.sourceFile?, Yield.package?]
    | sourceFile hm hp hf =>
      rw [Setting.fileOf, hroot, existingFile_none_eq_ok_iff] at hf
      have hn := (lineNames_file c.answers (by simp [isFileLine, hm]) hp).2 hf
      constructor <;>
        simp [asksReference, asksSourceFile, declaresPackage, Directive.marks_eq_decide hm, hp, hn,
          Yield.reference?, Yield.sourceFile?, Yield.package?]
    | @noName token hm hp hn =>
      rw [name_isEmpty_eq, Bool.not_eq_true'] at hn
      constructor <;>
        simp [asksReference, asksSourceFile, declaresPackage, Directive.marks_eq_decide hm, hp, hn,
          Yield.reference?, Yield.sourceFile?, Yield.package?]
    | @package token hm hp hn =>
      rw [name_isEmpty_eq, Bool.not_eq_false'] at hn
      constructor <;>
        simp [asksReference, asksSourceFile, declaresPackage, Directive.marks_eq_decide hm, hp, hn,
          Yield.reference?, Yield.sourceFile?, Yield.package?]

theorem fault_of_file {c : Setting} (hroot : c.root = none) {token : String} {e : Fault}
    (hm : isFileLine line = true) (hp : Directive.payload line = some token)
    (h : c.fileOf line token = .error e) :
    (¬ ∃ file, LineNames c.answers c.disk c.script line file) ∧
      (LookupEnds c.disk c.script token →
        ∃ reason, e = .unresolvable ⟨token, some line, reason⟩) := by
  rw [Setting.fileOf, hroot] at h
  constructor
  · rintro ⟨file, hn⟩
    rw [existingFile_none_eq_ok_iff.2 ((lineNames_file _ hm hp).1 hn)] at h
    cases h
  · rintro ⟨path, found, hl, hf⟩
    rw [existingFile_of_lookup hl hf] at h
    cases found with
    | true => simp at h
    | false =>
      simp only [Bool.false_eq_true, if_false, Except.error.injEq] at h
      exact ⟨_, h.symm⟩

/-- Why the reading of a line fails: no answer to the name that it asks for, or no file. -/
inductive Misses (c : Setting) (line : String) : Fault → Prop
  | reference {token : String} {u : Unresolvable} (hm : Directive.reference.marks line = true)
      (hp : Directive.payload line = some token) (ha : c.answers token = .error u) :
      Misses c line (.unresolvable ⟨token, some line, u.reason⟩)
  | file {token : String} {f : Fault} (hl : isFileLine line = true)
      (hp : Directive.payload line = some token) (hf : c.fileOf line token = .error f) :
      Misses c line f

theorem misses_of_yield {c : Setting} {f : Fault} (h : c.yield line = .error f) :
    Misses c line f := by
  cases hd : Directive.of? line with
  | none => simp [Setting.yield_of_body hd] at h
  | some dir =>
    have hm := Directive.of?_eq_some_iff.1 hd
    rw [Setting.yield_of_marks hm] at h
    cases hp : Directive.payload line with
    | none => simp [hp] at h
    | some token =>
      simp only [hp] at h
      cases dir with
      | reference =>
        cases ha : c.answers token with
        | ok file => simp [Setting.yieldOf, ha] at h
        | error u =>
          simp only [Setting.yieldOf, ha, Except.error.injEq] at h
          exact h ▸ .reference hm hp ha
      | assembly => exact .file (by simp [isFileLine, hm]) hp (map_eq_error.1 h)
      | sourceFile => exact .file (by simp [isFileLine, hm]) hp (map_eq_error.1 h)
      | package => simp [Setting.yieldOf] at h

theorem asks_of_isFileLine {token : String} (hl : isFileLine line = true)
    (hp : Directive.payload line = some token) :
    asksReference line = true ∨ asksSourceFile line = true := by
  simp only [isFileLine, Bool.or_eq_true] at hl
  simp only [asksReference, asksSourceFile, hp, Option.isSome_some, Bool.and_true, Bool.or_eq_true]
  exact hl.imp_left .inr

theorem fault_of_yield {c : Setting} (hroot : c.root = none) {e : Fault}
    (h : c.yield line = .error e) :
    ∃ token, Directive.payload line = some token ∧
      ¬ Satisfied c.answers c.disk c.script line ∧
      ((isFileLine line = true → LookupEnds c.disk c.script token) →
        ∃ reason, e = .unresolvable ⟨token, some line, reason⟩) := by
  cases misses_of_yield h with
  | reference hm hp ha =>
    refine ⟨_, hp, fun hs => ?_, fun _ => ⟨_, rfl⟩⟩
    obtain ⟨file, hn⟩ := hs (.inl (by simp [asksReference, hm, hp]))
    rw [(lineNames_reference _ _ hm hp).1 hn] at ha
    cases ha
  | file hl hp hf =>
    obtain ⟨hnone, hend⟩ := fault_of_file hroot hl hp hf
    exact ⟨_, hp, fun hs => hnone (hs (asks_of_isFileLine hl hp)), fun hends => hend (hends hl)⟩

theorem yield_isOk_iff {c : Setting} (hroot : c.root = none) (line : String) :
    (∃ y, c.yield line = .ok y) ↔ Satisfied c.answers c.disk c.script line := by
  constructor
  · rintro ⟨y, hy⟩ hask
    have ht := tells_of_yield hroot hy
    rcases hask with h | h
    · obtain ⟨file, -, hn⟩ := ht.reference h
      exact ⟨file, hn⟩
    · obtain ⟨file, -, hn⟩ := ht.sourceFile h
      exact ⟨file, hn⟩
  · intro hs
    cases h : c.yield line with
    | ok y => exact ⟨y, rfl⟩
    | error e =>
      obtain ⟨_, -, hno, -⟩ := fault_of_yield hroot h
      exact absurd hs hno

end Lines

theorem forall₂_filterMap {α β γ : Type} {R : α → β → Prop} {S : α → γ → Prop} {p : α → Bool}
    {f : β → Option γ} {as : List α} {bs : List β} (h : List.Forall₂ R as bs)
    (hsome : ∀ a b, R a b → p a = true → ∃ g, f b = some g ∧ S a g)
    (hnone : ∀ a b, R a b → p a = false → f b = none) :
    List.Forall₂ S (as.filter p) (bs.filterMap f) := by
  induction h with
  | nil => simp
  | @cons a b as bs hab _ ih =>
    cases hp : p a with
    | true =>
      obtain ⟨g, hg, hs⟩ := hsome a b hab hp
      simpa [hp, hg] using ⟨hs, ih⟩
    | false => simpa [hp, hnone a b hab hp] using ih

theorem isBodyLine_eq (line : String) :
    isBodyLine line = Directive.all.all fun dir => !dir.marks line := by
  rw [Bool.eq_iff_iff]
  simp only [isBodyLine, Option.isNone_iff_eq_none, Directive.of?_eq_none_iff, List.all_eq_true,
    Bool.not_eq_true']
  exact ⟨fun h dir _ => h dir, fun h dir => h dir (Directive.mem_all dir)⟩

/-- An analysis of a text with a resolver whose answers depend only on the name. -/
theorem analyseText_meaning (r : Resolver σ) (answers : String → Except Unresolvable String)
    (hr : r.Answers answers fun _ _ => True) (d : Disk) (text : String) (script : Option String)
    (s : σ) :
    ((∃ a s', analyseText (localChain r) d text script s = .ok a s') ↔
      ∀ line ∈ physicalLines text, Satisfied answers d script line) ∧
    (∀ a s', analyseText (localChain r) d text script s = .ok a s' →
      a.metadata.script = script ∧
      a.bodyLines = (physicalLines text).filter
        (fun line => Directive.all.all fun dir => !dir.marks line) ∧
      List.Forall₂ (LineNames answers d script) ((physicalLines text).filter asksReference)
        a.metadata.references ∧
      List.Forall₂ (LineNames answers d script) ((physicalLines text).filter asksSourceFile)
        a.metadata.sourceFiles ∧
      List.Forall₂ (fun line p => ∃ token, Directive.payload line = some token ∧
          p = Directive.readPackage token) ((physicalLines text).filter declaresPackage)
        a.metadata.packages) ∧
    (∀ e s', analyseText (localChain r) d text script s = .error e s' →
      ∃ before line after token, physicalLines text = before ++ line :: after ∧
        (∀ l ∈ before, Satisfied answers d script l) ∧ ¬ Satisfied answers d script line ∧
        Directive.payload line = some token ∧
        ((isFileLine line = true → LookupEnds d script token) →
          ∃ reason, e = .unresolvable ⟨token, some line, reason⟩)) := by
  let c : Setting := ⟨answers, d, none, script⟩
  have hroot : c.root = none := rfl
  obtain ⟨s₁, -, hrun⟩ := analyseLines_eq (c := c) hr (fun _ => trivial) (fun _ _ => trivial)
    (physicalLines text) s
  change analyseText (localChain r) d text script s = _ at hrun
  rw [hrun]
  cases hy : c.yields (physicalLines text) with
  | ok ys =>
    have hall := Setting.yields_eq_ok_iff.1 hy
    refine ⟨⟨fun _ line hl => ?_, fun _ => ⟨_, _, rfl⟩⟩, ?_, fun e s' h => by cases h⟩
    · exact (yield_isOk_iff hroot line).1 (Setting.yields_isOk_iff.1 ⟨ys, hy⟩ line hl)
    · intro a s' h
      cases h
      simp only [Setting.analysis, Metadata.recordAll_eq, Metadata.start, List.nil_append]
      refine ⟨rfl, List.filter_congr fun l _ => isBodyLine_eq l, ?_, ?_, ?_⟩
      · exact forall₂_filterMap hall (fun l y h => (tells_of_yield hroot h).reference)
          (fun l y h => (tells_of_yield hroot h).noReference)
      · exact forall₂_filterMap hall (fun l y h => (tells_of_yield hroot h).sourceFile)
          (fun l y h => (tells_of_yield hroot h).noSourceFile)
      · exact forall₂_filterMap hall (fun l y h => (tells_of_yield hroot h).package)
          (fun l y h => (tells_of_yield hroot h).noPackage)
  | error e =>
    obtain ⟨before, line, after, hsplit, hb, he⟩ := Setting.yields_eq_error_iff.1 hy
    obtain ⟨token, hp, hno, htell⟩ := fault_of_yield hroot he
    refine ⟨⟨?_, fun hs => ?_⟩, ?_, ?_⟩
    · rintro ⟨a, s', h⟩
      cases h
    · exact absurd (hs line (by simp [hsplit])) hno
    · intro a s' h
      cases h
    · intro f s' h
      cases h
      exact ⟨before, line, after, token, hsplit,
        fun l hl => (yield_isOk_iff hroot l).1 (hb l hl), hno, hp, htell⟩

theorem analyseText_meaning_listed :
    ((Resolver.manifest [("A", "/a")] none : Resolver Unit).Answers
        (Manifest.answers [("A", "/a")]) fun _ _ => True) ∧
      ∃ a s', analyseText (localChain (Resolver.manifest [("A", "/a")] none)) ⟨.empty, []⟩
        "//#ref A\nRun();\n//#ass" none () = .ok a s' := by
  have hr : (Resolver.manifest [("A", "/a")] none : Resolver Unit).Answers
      (Manifest.answers [("A", "/a")]) fun _ _ => True :=
    (Resolver.answers_manifest _).mono fun _ => trivial
  refine ⟨hr, (analyseText_meaning _ _ hr _ _ none ()).1.2 ?_⟩
  have hlines : physicalLines "//#ref A\nRun();\n//#ass" = ["//#ref A", "Run();", "//#ass"] := by
    decide +kernel
  rw [hlines]
  simp only [List.forall_mem_cons, List.not_mem_nil, false_imp_iff, implies_true, and_true]
  refine ⟨fun _ => ⟨"/a", "A", by decide +kernel, .inl ⟨by decide +kernel, rfl⟩⟩, ?_, ?_⟩
  · rintro (h | h)
    · exact absurd h (by decide +kernel)
    · exact absurd h (by decide +kernel)
  · rintro (h | h)
    · exact absurd h (by decide +kernel)
    · exact absurd h (by decide +kernel)

end BuildScripts

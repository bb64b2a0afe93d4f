import BuildScripts.Proofs.Attempts
import BuildScripts.Proofs.Script.Yield

namespace BuildScripts

open BuildScripts.Text

variable {σ : Type}

namespace Processor

def of (r : Resolver σ) (root : Option Path) : Directive → Processor σ
  | .reference => .reference r
  | .assembly => .assembly root
  | .sourceFile => .sourceFile root
  | .package => .package

variable {r : Resolver σ} {root : Option Path} {dir : Directive} {d : Disk}
  {line token : String} {s : Scan σ}

theorem forDirective_of_not_marks {add : Disk → String → String → Attempt (Scan σ) Unit}
    (h : dir.marks line = false) : (forDirective dir add).process d line s = .ok false s := by
  simp [forDirective, h]

theorem forDirective_of_no_payload {add : Disk → String → String → Attempt (Scan σ) Unit}
    (h : dir.marks line = true) (hp : Directive.payload line = none) :
    (forDirective dir add).process d line s = .ok true s := by
  simp [forDirective, h, hp]

theorem forDirective_of_payload {add : Disk → String → String → Attempt (Scan σ) Unit}
    (h : dir.marks line = true) (hp : Directive.payload line = some token) :
    (forDirective dir add).process d line s = (add d token line >>= fun _ => pure true) s := by
  simp [forDirective, h, hp]

theorem process_of_not_marks (r : Resolver σ) (root : Option Path) (d : Disk) (s : Scan σ)
    (h : dir.marks line = false) :
    (of r root dir).process d line s = .ok false s := by
  cases dir <;> exact forDirective_of_not_marks h

theorem addFile_run (file : Except Fault String) (f : String → Metadata → Metadata) :
    ((Attempt.ofExcept file >>= fun file => change (f file)) >>= fun _ => pure true) s =
      match file with
      | .ok file => .ok true ⟨f file s.metadata, s.resolver⟩
      | .error e => .error e s := by
  cases file <;> rfl

theorem process_of_marks {c : Setting} {R : σ → σ → Prop} (hr : r.Answers c.answers R)
    (hR : ∀ a, R a a) (hs : s.metadata.script = c.script) (h : dir.marks line = true) :
    ∃ r', R s.resolver r' ∧ (of r c.root dir).process c.disk line s =
      match c.yield line with
      | .ok y => .ok true ⟨s.metadata.record y, r'⟩
      | .error e => .error e ⟨s.metadata, r'⟩ := by
  rw [Setting.yield_of_marks h]
  cases hp : Directive.payload line with
  | none =>
    refine ⟨s.resolver, hR _, ?_⟩
    cases dir <;> exact forDirective_of_no_payload h hp
  | some token =>
    cases dir with
    | reference =>
      obtain ⟨r', hr', he⟩ := hr c.disk token s.resolver
      refine ⟨r', hr', ?_⟩
      refine (forDirective_of_payload h hp).trans ?_
      simp only [bind, EStateM.bind, Attempt.mapFault, Scan.resolving, Attempt.onPart, he,
        Setting.yieldOf]
      cases c.answers token <;> rfl
    | assembly =>
      refine ⟨s.resolver, hR _, ?_⟩
      refine (forDirective_of_payload h hp).trans ((addFile_run _ _).trans ?_)
      rw [hs]
      simp only [Setting.yieldOf, Setting.fileOf]
      cases existingFile c.disk c.root c.script token line <;> rfl
    | sourceFile =>
      refine ⟨s.resolver, hR _, ?_⟩
      refine (forDirective_of_payload h hp).trans ((addFile_run _ _).trans ?_)
      rw [hs]
      simp only [Setting.yieldOf, Setting.fileOf]
      cases existingFile c.disk c.root c.script token line <;> rfl
    | package =>
      refine ⟨s.resolver, hR _, ?_⟩
      refine (forDirective_of_payload h hp).trans ?_
      simp only [Setting.yieldOf]
      cases (Directive.readPackage token).name.isEmpty <;> rfl

end Processor

def chainOf (r : Resolver σ) (root : Option Path) (dirs : List Directive) : Chain σ :=
  dirs.map (Processor.of r root)

def Directive.all : List Directive := [.reference, .assembly, .sourceFile, .package]

theorem Directive.mem_all (dir : Directive) : dir ∈ Directive.all := by
  cases dir <;> decide

section Dispatch

variable {r : Resolver σ} {root : Option Path} {d : Disk} {line : String} {dirs : List Directive}
  {s : Scan σ}

theorem dispatch_of_no_mark (h : ∀ dir ∈ dirs, dir.marks line = false) :
    dispatch d line (chainOf r root dirs) s = .ok false s := by
  induction dirs with
  | nil => rfl
  | cons dir dirs ih =>
    have hp := Processor.process_of_not_marks r root d s (h dir (by simp))
    simp only [chainOf, List.map_cons, dispatch]
    rw [Attempt.bind_of_ok hp]
    exact ih fun e he => h e (List.mem_cons_of_mem _ he)

theorem dispatch_of_marks {c : Setting} {R : σ → σ → Prop} (hr : r.Answers c.answers R)
    (hR : ∀ a, R a a) (hs : s.metadata.script = c.script) {dir : Directive}
    (h : dir.marks line = true) (hd : dir ∈ dirs) :
    ∃ r', R s.resolver r' ∧ dispatch c.disk line (chainOf r c.root dirs) s =
      match c.yield line with
      | .ok y => .ok true ⟨s.metadata.record y, r'⟩
      | .error e => .error e ⟨s.metadata, r'⟩ := by
  induction dirs with
  | nil => cases hd
  | cons e dirs ih =>
    by_cases he : e = dir
    · subst he
      obtain ⟨r', hr', hp⟩ := Processor.process_of_marks hr hR hs h
      refine ⟨r', hr', ?_⟩
      simp only [chainOf, List.map_cons, dispatch]
      cases hy : c.yield line with
      | ok y =>
        rw [hy] at hp
        rw [Attempt.bind_of_ok hp]
        rfl
      | error f =>
        rw [hy] at hp
        rw [Attempt.bind_of_error hp]
    · have hne : e.marks line = false := by simp [Directive.marks_eq_decide h, he]
      have hp := Processor.process_of_not_marks r c.root c.disk s hne
      obtain ⟨r', hr', hi⟩ := ih ((List.mem_cons.1 hd).resolve_left (Ne.symm he))
      refine ⟨r', hr', ?_⟩
      simp only [chainOf, List.map_cons, dispatch]
      rw [Attempt.bind_of_ok hp]
      exact hi

end Dispatch

def isBodyLine (line : String) : Bool :=
  (Directive.of? line).isNone

theorem dispatch_eq {r : Resolver σ} {c : Setting} {R : σ → σ → Prop} (hr : r.Answers c.answers R)
    (hR : ∀ a, R a a) (line : String) {s : Scan σ} (hs : s.metadata.script = c.script) :
    ∃ r', R s.resolver r' ∧ dispatch c.disk line (chainOf r c.root Directive.all) s =
      match c.yield line with
      | .ok y => .ok (!isBodyLine line) ⟨s.metadata.record y, r'⟩
      | .error e => .error e ⟨s.metadata, r'⟩ := by
  cases h : Directive.of? line with
  | none =>
    refine ⟨s.resolver, hR _, ?_⟩
    rw [dispatch_of_no_mark fun dir _ => Directive.of?_eq_none_iff.1 h dir,
      Setting.yield_of_body h]
    simp [isBodyLine, h, Metadata.record]
  | some dir =>
    obtain ⟨r', hr', he⟩ := dispatch_of_marks hr hR hs (Directive.of?_eq_some_iff.1 h)
      (Directive.mem_all dir)
    refine ⟨r', hr', he.trans ?_⟩
    simp [isBodyLine, h]

namespace Metadata

@[simp] theorem script_record (m : Metadata) (y : Yield) : (m.record y).script = m.script := by
  cases y <;> rfl

def recordAll (m : Metadata) (ys : List Yield) : Metadata :=
  ys.foldl record m

@[simp] theorem recordAll_cons (m : Metadata) (y : Yield) (ys : List Yield) :
    m.recordAll (y :: ys) = (m.record y).recordAll ys := rfl

theorem recordAll_eq (m : Metadata) (ys : List Yield) :
    m.recordAll ys = ⟨m.script, m.references ++ ys.filterMap Yield.reference?,
      m.sourceFiles ++ ys.filterMap Yield.sourceFile?,
      m.packages ++ ys.filterMap Yield.package?⟩ := by
  induction ys generalizing m with
  | nil => simp [recordAll]
  | cons y ys ih =>
    rw [recordAll_cons, ih]
    cases y <;>
      simp [record, addReference, addSourceFile, addPackage, List.filterMap_cons,
        Yield.reference?, Yield.sourceFile?, Yield.package?]

end Metadata

namespace Setting

theorem isBodyLine_eq_decide {c : Setting} {line : String} {y : Yield} (h : c.yield line = .ok y) :
    isBodyLine line = decide (y = .body) := by
  rw [Bool.eq_iff_iff, decide_eq_true_eq, isBodyLine, Option.isNone_iff_eq_none, ← yield_eq_body_iff,
    h, Except.ok.injEq]

theorem length_filter_isBodyLine {c : Setting} {lines : List String} {ys : List Yield}
    (h : c.yields lines = .ok ys) : (lines.filter isBodyLine).length = ys.count .body := by
  have hall := yields_eq_ok_iff.1 h
  clear h
  induction hall with
  | nil => rfl
  | @cons line y lines ys hy _ ih =>
    rw [List.filter_cons, isBodyLine_eq_decide hy, List.count_cons, ← ih]
    by_cases hb : y = .body <;> simp [hb]

def analysis (c : Setting) (lines : List String) (ys : List Yield) : Analysis :=
  ⟨(Metadata.start c.script).recordAll ys, lines.filter isBodyLine⟩

end Setting

section Scanning

variable {r : Resolver σ} {c : Setting} {R : σ → σ → Prop}

theorem scanLines_eq (hr : r.Answers c.answers R) (hR : ∀ a, R a a)
    (hT : ∀ {a b e}, R a b → R b e → R a e) (lines : List String) {s : Scan σ}
    (hs : s.metadata.script = c.script) :
    ∃ r', R s.resolver r' ∧
      match c.yields lines with
      | .ok ys => scanLines (chainOf r c.root Directive.all) c.disk lines s =
          .ok (lines.filter isBodyLine) ⟨s.metadata.recordAll ys, r'⟩
      | .error e => ∃ m, scanLines (chainOf r c.root Directive.all) c.disk lines s =
          .error e ⟨m, r'⟩ := by
  induction lines generalizing s with
  | nil => exact ⟨s.resolver, hR _, rfl⟩
  | cons line lines ih =>
    obtain ⟨r', hr', hd⟩ := dispatch_eq hr hR line hs
    rw [Setting.yields_cons]
    cases hy : c.yield line with
    | error e =>
      rw [hy] at hd
      exact ⟨r', hr', s.metadata, Attempt.bind_of_error hd⟩
    | ok y =>
      rw [hy] at hd
      obtain ⟨r'', hr'', hi⟩ := ih (s := ⟨s.metadata.record y, r'⟩) (by simpa using hs)
      refine ⟨r'', hT hr' hr'', ?_⟩
      cases hys : c.yields lines with
      | error e =>
        rw [hys] at hi
        obtain ⟨m, hm⟩ := hi
        exact ⟨m, (Attempt.bind_of_ok hd).trans (Attempt.bind_of_error hm)⟩
      | ok ys =>
        rw [hys] at hi
        refine (Attempt.bind_of_ok hd).trans ((Attempt.bind_of_ok hi).trans ?_)
        cases hb : isBodyLine line <;> simp [hb]

theorem analyseLines_eq (hr : r.Answers c.answers R) (hR : ∀ a, R a a)
    (hT : ∀ {a b e}, R a b → R b e → R a e) (lines : List String) (s : σ) :
    ∃ s', R s s' ∧ analyseLines (chainOf r c.root Directive.all) c.disk lines c.script s =
      match c.yields lines with
      | .ok ys => .ok (c.analysis lines ys) s'
      | .error e => .error e s' := by
  obtain ⟨s', hs', h⟩ := scanLines_eq hr hR hT lines (s := ⟨.start c.script, s⟩) rfl
  refine ⟨s', hs', ?_⟩
  simp only [analyseLines]
  cases hy : c.yields lines with
  | ok ys =>
    rw [hy] at h
    rw [h]
    rfl
  | error e =>
    rw [hy] at h
    obtain ⟨m, hm⟩ := h
    rw [hm]

end Scanning

end BuildScripts

import BuildScripts.Proofs.Artifact.Resolving
import BuildScripts.Proofs.Script.Reading

namespace BuildScripts

open Attempt
open BuildScripts.Text

def referenceNames (lines : List String) : List String :=
  lines.filterMap referenceName?

def Setting.plain (d : Disk) (script : Option String) : Setting :=
  ⟨Manifest.answers [], d, none, script⟩

inductive Adds (c : Setting) : List String → List String → List Yield → Prop
  | nil : Adds c [] [] []
  | reference {line name file : String} {lines files : List String} {ys : List Yield}
      (hn : referenceName? line = some name) (h : Adds c lines files ys) :
      Adds c (line :: lines) (file :: files) (.reference file :: ys)
  | other {line : String} {lines files : List String} {y : Yield} {ys : List Yield}
      (hn : referenceName? line = none) (hy : c.yield line = .ok y) (h : Adds c lines files ys) :
      Adds c (line :: lines) files (y :: ys)

theorem Adds.files_eq {c : Setting} {lines files files' : List String} {ys ys' : List Yield}
    (h : Adds c lines files ys) (h' : Adds c lines files' ys')
    (he : ys.filterMap Yield.reference? = ys'.filterMap Yield.reference?) : files = files' := by
  induction h generalizing files' ys' with
  | nil =>
    cases h'
    rfl
  | reference hn _ ih =>
    cases h' with
    | reference _ h' =>
      simp only [List.filterMap_cons, Yield.reference?, List.cons.injEq] at he
      rw [he.1, ih h' he.2]
    | other hn' =>
      rw [hn] at hn'
      cases hn'
  | other hn hy _ ih =>
    cases h' with
    | reference hn' =>
      rw [hn] at hn'
      cases hn'
    | other _ hy' h' =>
      rw [hy, Except.ok.injEq] at hy'
      subst hy'
      apply ih h'
      simp only [List.filterMap_cons] at he
      split at he
      · exact he
      · exact (List.cons.inj he).2

variable {σ : Type} {r : Resolver σ} {d : Disk} {script : Option String}

section Read

variable {c : Setting} {line name : String} {s t : σ} {y : Yield}

theorem Setting.read_eq_ok_of_other (hn : referenceName? line = none) :
    c.read r line s = .ok y t ↔ c.yield line = .ok y ∧ t = s := by
  rw [read_of_other hn]
  cases hy : c.yield line with
  | error e => simp
  | ok y' => simp [eq_comm]

theorem Setting.read_eq_ok_of_reference (hn : referenceName? line = some name) :
    c.read r line s = .ok y t ↔
      ∃ file, r.resolve c.disk name s = .ok file t ∧ y = .reference file := by
  rw [read_of_reference hn]
  cases r.resolve c.disk name s with
  | error f u => simp
  | ok file u => simp [eq_comm, and_comm]

end Read

section Lines

variable {lines files : List String} {s s' t t' : σ}

theorem analyseLines_localChain (r : Resolver σ) (d : Disk) (lines : List String)
    (script : Option String) (s : σ) :
    analyseLines (localChain r) d lines script s =
      match lines.mapM ((Setting.plain d script).read r) s with
      | .ok ys t => .ok ((Setting.plain d script).analysis lines ys) t
      | .error e t => .error e t :=
  analyseLines_eq_reads r (.plain d script) lines s

theorem reads_eq_ok_iff {c : Setting} {ys : List Yield} :
    lines.mapM (c.read r) s = .ok ys s' ↔
      ∃ files, (referenceNames lines).mapM (r.resolve c.disk) s = .ok files s' ∧
        Adds c lines files ys := by
  induction lines generalizing s ys with
  | nil =>
    constructor
    · intro h
      cases h
      exact ⟨[], rfl, .nil⟩
    · rintro ⟨files, h, hadds⟩
      cases hadds
      cases h
      rfl
  | cons line lines ih =>
    rw [mapM_cons_eq_ok, referenceNames]
    cases hn : referenceName? line with
    | none =>
      rw [List.filterMap_cons_none hn]
      constructor
      · rintro ⟨y, rest, t, hy, hrest, rfl⟩
        obtain ⟨hline, rfl⟩ := (Setting.read_eq_ok_of_other hn).1 hy
        obtain ⟨files, hfiles, hadds⟩ := ih.1 hrest
        exact ⟨files, hfiles, .other hn hline hadds⟩
      · rintro ⟨files, hfiles, hadds⟩
        cases hadds with
        | reference hn' =>
          rw [hn] at hn'
          cases hn'
        | @other _ _ _ y ys _ hline hadds =>
          exact ⟨y, ys, s, (Setting.read_eq_ok_of_other hn).2 ⟨hline, rfl⟩, ih.2 ⟨files, hfiles, hadds⟩, rfl⟩
    | some name =>
      rw [List.filterMap_cons_some hn, ← referenceNames]
      constructor
      · rintro ⟨y, rest, t, hy, hrest, rfl⟩
        obtain ⟨file, hfound, rfl⟩ := (Setting.read_eq_ok_of_reference hn).1 hy
        obtain ⟨files, hfiles, hadds⟩ := ih.1 hrest
        exact ⟨file :: files, mapM_cons_eq_ok.2 ⟨file, files, t, hfound, hfiles, rfl⟩,
          .reference hn hadds⟩
      · rintro ⟨files, hfiles, hadds⟩
        obtain ⟨file, rest, t, hfound, hrest, rfl⟩ := mapM_cons_eq_ok.1 hfiles
        cases hadds with
        | other hn' =>
          rw [hn] at hn'
          cases hn'
        | reference _ hadds =>
          exact ⟨_, _, t, (Setting.read_eq_ok_of_reference hn).2 ⟨file, hfound, rfl⟩,
            ih.2 ⟨rest, hrest, hadds⟩, rfl⟩

theorem analyseLines_eq_ok_iff {a : Analysis} :
    analyseLines (localChain r) d lines script s = .ok a s' ↔
      ∃ files ys, (referenceNames lines).mapM (r.resolve d) s = .ok files s' ∧
        Adds (.plain d script) lines files ys ∧ a = (Setting.plain d script).analysis lines ys := by
  rw [analyseLines_localChain]
  constructor
  · intro h
    cases hy : lines.mapM ((Setting.plain d script).read r) s with
    | error e t =>
      rw [hy] at h
      cases h
    | ok ys t =>
      rw [hy] at h
      cases h
      obtain ⟨files, hfiles, hadds⟩ := reads_eq_ok_iff.1 hy
      exact ⟨files, ys, hfiles, hadds, rfl⟩
  · rintro ⟨files, ys, hfiles, hadds, rfl⟩
    rw [(reads_eq_ok_iff (c := .plain d script)).2 ⟨files, hfiles, hadds⟩]

theorem analyseLines_again_iff {a : Analysis}
    (h : analyseLines (localChain r) d lines script s = .ok a s')
    (hf : (referenceNames lines).mapM (r.resolve d) s = .ok files s') :
    analyseLines (localChain r) d lines script t = .ok a t' ↔
      (referenceNames lines).mapM (r.resolve d) t = .ok files t' := by
  obtain ⟨files', ys, hfiles, hadds, rfl⟩ := analyseLines_eq_ok_iff.1 h
  rw [hf] at hfiles
  cases hfiles
  rw [analyseLines_eq_ok_iff]
  constructor
  · rintro ⟨files', ys', hfiles', hadds', he⟩
    have hrefs := congrArg (fun a : Analysis => a.metadata.references) he
    simp only [Setting.analysis, Metadata.recordAll_eq, Metadata.start, List.nil_append] at hrefs
    rwa [hadds.files_eq hadds' hrefs]
  · intro hfiles'
    exact ⟨files, ys, hfiles', hadds, rfl⟩

theorem analyseLines_preserves {P : σ → Prop}
    (hr : ∀ d name s, P s → P ((r.resolve d name).after s)) (hs : P s) :
    P ((analyseLines (localChain r) d lines script).after s) := by
  have hline : ∀ line s, P s → P (((Setting.plain d script).read r line).after s) := by
    intro line s hs
    rw [Setting.read]
    split
    · rename_i name _
      apply after_bind
      · rw [after_mapFault]
        exact hr d name s hs
      · intro file t _ ht
        exact ht
    · cases (Setting.plain d script).yield line with
      | ok y => exact hs
      | error e => exact hs
  have hafter : (analyseLines (localChain r) d lines script).after s =
      (lines.mapM ((Setting.plain d script).read r)).after s := by
    rw [after, analyseLines_localChain, after]
    cases lines.mapM ((Setting.plain d script).read r) s <;> rfl
  rw [hafter]
  clear hafter
  induction lines generalizing s with
  | nil => exact hs
  | cons line lines ih =>
    rw [List.mapM_cons]
    apply after_bind (hline line s hs)
    intro y t _ ht
    apply after_bind (ih ht)
    intro ys t' _ ht'
    exact ht'

end Lines

theorem analyseText_again_iff {text : String} {a : Analysis} {s s' : σ}
    (h : analyseText (localChain r) d text script s = .ok a s') :
    (∃ t, analyseText (localChain r) d text script s' = .ok a t) ↔
      ∃ files t, (referenceNames (physicalLines text)).mapM (r.resolve d) s = .ok files s' ∧
        (referenceNames (physicalLines text)).mapM (r.resolve d) s' = .ok files t := by
  obtain ⟨files, ys, hfiles, -, -⟩ := analyseLines_eq_ok_iff.1 h
  constructor
  · rintro ⟨t, ht⟩
    exact ⟨files, t, hfiles, (analyseLines_again_iff h hfiles).1 ht⟩
  · rintro ⟨files', t, hfiles', hsame⟩
    exact ⟨t, (analyseLines_again_iff h hfiles').2 hsame⟩

namespace Library

open Imports (Extends Follows)

variable {lib : Library} {m m' m₁ : Imports} {text : String} {a : Analysis}

inductive Reaches (lib : Library) (m : Imports) : Imports → Prop
  | refl : Reaches lib m m
  | analyse {m' : Imports} (d : Disk) (text : String) (script : Option String)
      (h : Reaches lib m m') :
      Reaches lib m ((analyseText (localChain (.library lib)) d text script).after m')

theorem Reaches.follows (ho : lib.modules.Orderly) (h : lib.Reaches m m')
    (hm : m.Follows lib.modules) : m'.Follows lib.modules ∧ Extends [] m m' := by
  induction h with
  | refl => exact ⟨hm, .refl _ m⟩
  | analyse d text script _ ih =>
    apply analyseLines_preserves (P := fun t => t.Follows lib.modules ∧ Extends [] m t)
    · intro d name t ht
      have hrep := (repeats_resolve ho d name ht.1).after
      exact ⟨hrep.1, ht.2.trans hrep.2⟩
    · exact ih

theorem repeats_resolveAll (ho : lib.modules.Orderly) (d : Disk) (names : List String)
    (hm : m.Follows lib.modules) :
    Repeats lib.modules (names.mapM (lib.resolve d)) m fun _ _ => True := by
  induction names generalizing m with
  | nil => exact .pure hm trivial
  | cons name names ih =>
    rw [List.mapM_cons]
    refine (repeats_resolve ho d name hm).bind fun file m₁ hm₁ _ _ => ?_
    refine (ih hm₁).bind fun files m₂ hm₂ _ _ => ?_
    exact .pure hm₂ trivial

theorem analyseText_repeats (ho : lib.modules.Orderly) (hm : lib.Reaches .empty m)
    (h : analyseText (localChain (.library lib)) d text script m = .ok a m')
    (hreach : lib.Reaches m' m₁) :
    ∃ m₂, analyseText (localChain (.library lib)) d text script m₁ = .ok a m₂ := by
  obtain ⟨files, ys, hfiles, -, -⟩ := analyseLines_eq_ok_iff.1 h
  have hfollows := (hm.follows ho (Imports.follows_empty _)).1
  have hrep := repeats_resolveAll ho d (referenceNames (physicalLines text)) hfollows
  obtain ⟨hm', -, -⟩ := hrep.ok files m' hfiles
  obtain ⟨hm₁, hext⟩ := hreach.follows ho hm'
  obtain ⟨m₂, hsame, -, -⟩ := hrep.again files m' m₁ hfiles hm₁ hext
  exact ⟨m₂, (analyseLines_again_iff h hfiles).2 hsame⟩

/-- Whatever code the modules of an interpreter run, an analysis that has succeeded can be repeated
exactly if its names lead to the same files again. In an orderly universe it can be repeated at any
later time, whatever is analysed in between. -/
theorem analyseText_repeats_iff (d : Disk) (text : String) (script : Option String) :
    (∀ {σ ω : Type} (I : Interpreter σ ω) (s s' : σ) (a : Analysis),
      analyseText (localChain (.modules I)) d text script s = .ok a s' →
        ((∃ t, analyseText (localChain (.modules I)) d text script s' = .ok a t) ↔
          ∃ files t, (referenceNames (physicalLines text)).mapM (I.resolve d) s = .ok files s' ∧
            (referenceNames (physicalLines text)).mapM (I.resolve d) s' = .ok files t)) ∧
    ∀ (lib : Library) (m m' : Imports) (a : Analysis), lib.modules.Orderly →
      lib.Reaches .empty m → analyseText (localChain (.library lib)) d text script m = .ok a m' →
        ∀ m₁, lib.Reaches m' m₁ →
          ∃ m₂, analyseText (localChain (.library lib)) d text script m₁ = .ok a m₂ := by
  constructor
  · intro σ ω I s s' a h
    exact analyseText_again_iff h
  · intro lib m m' a ho hm h m₁ hreach
    exact analyseText_repeats ho hm h hreach

def aliased : Library where
  modules := [
    ("pkg", ⟨none, true, [("Thing", .object (some "pkg.impl") [] [])], none, none⟩),
    ("pkg.impl", ⟨some "/lib/impl.py", false, [], none, none⟩),
    ("short", ⟨some "/lib/short.py", false, [("p", .module "pkg")], none, none⟩)]
  executable := "/bin/python"

theorem analyseText_repeats_iff_aliased :
    aliased.modules.Orderly ∧ aliased.Reaches .empty .empty ∧
      ∃ m₁, analyseText (localChain (.library aliased)) ⟨.empty, []⟩
          "//#ref short.p.Thing\n//#ref pkg.impl" none .empty =
            .ok ⟨⟨none, ["/lib/impl.py", "/lib/impl.py"], [], []⟩, []⟩ m₁ ∧
        (∃ m₂, analyseText (localChain (.library aliased)) ⟨.empty, []⟩
          "//#ref short.p.Thing\n//#ref pkg.impl" none m₁ =
            .ok ⟨⟨none, ["/lib/impl.py", "/lib/impl.py"], [], []⟩, []⟩ m₂) ∧
        ∃ files m₂, ["short.p.Thing", "pkg.impl"].mapM (aliased.interpreter.resolve ⟨.empty, []⟩)
          .empty = .ok files m₁ ∧
            ["short.p.Thing", "pkg.impl"].mapM (aliased.interpreter.resolve ⟨.empty, []⟩) m₁ =
              .ok files m₂ := by
  have horderly : aliased.modules.Orderly := Universe.orderly_of_isOrderly (by decide +kernel)
  have hreach : aliased.Reaches .empty .empty := .refl
  obtain ⟨m₁, h⟩ := ok_of_gives (x := analyseText (localChain (.library aliased)) ⟨.empty, []⟩
    "//#ref short.p.Thing\n//#ref pkg.impl" none) (s := .empty)
    (a := ⟨⟨none, ["/lib/impl.py", "/lib/impl.py"], [], []⟩, []⟩) (by decide +kernel)
  obtain ⟨hiff, hrepeats⟩ := analyseText_repeats_iff ⟨.empty, []⟩
    "//#ref short.p.Thing\n//#ref pkg.impl" none
  have hagain := hrepeats aliased .empty m₁ _ horderly hreach h m₁ .refl
  have hnames : referenceNames (physicalLines "//#ref short.p.Thing\n//#ref pkg.impl") =
      ["short.p.Thing", "pkg.impl"] := by decide +kernel
  have hfiles := (hiff aliased.interpreter .empty m₁ _ h).1 hagain
  rw [hnames] at hfiles
  exact ⟨horderly, hreach, m₁, h, hagain, hfiles⟩

end Library

end BuildScripts

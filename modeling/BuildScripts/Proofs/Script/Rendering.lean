import BuildScripts.Proofs.Script.Analysis
import BuildScripts.Proofs.Script.Reading
import BuildScripts.Proofs.Text.LineEnds
import Mathlib.Data.List.TakeWhile

namespace BuildScripts

open Attempt
open BuildScripts.Text

variable {σ : Type} {r : Resolver σ} {listed : Manifest} {d : Disk} {script : Option String}

namespace Directive

def write (dir : Directive) (token : String) : String :=
  dir.marker ++ " " ++ token

theorem toList_write (dir : Directive) (token : String) :
    (dir.write token).toList = dir.marker.toList ++ ' ' :: token.toList := by
  simp [write]

theorem marks_write (dir : Directive) (token : String) : dir.marks (dir.write token) = true := by
  apply (beginsWith_iff _ _).2
  exact ⟨' ' :: token.toList, toList_write dir token⟩

theorem payloadChars_append {cs token : List Char} (hcs : ' ' ∉ cs) (ht : token ≠ []) :
    payloadChars (cs ++ ' ' :: token) = some token := by
  have hdrop : (cs ++ ' ' :: token).dropWhile (· != ' ') = ' ' :: token := by
    rw [List.dropWhile_append_of_pos]
    · simp
    · intro c hc
      simpa using fun he : c = ' ' => hcs (he ▸ hc)
  rw [payloadChars, hdrop]
  cases token with
  | nil => exact absurd rfl ht
  | cons c token => rfl

theorem payload_write (dir : Directive) {token : String} (h : token ≠ "") :
    payload (dir.write token) = some token := by
  have hmarker : ' ' ∉ dir.marker.toList := by cases dir <;> decide
  have htoken : token.toList ≠ [] := by simpa using h
  rw [payload, toList_write, payloadChars_append hmarker htoken]
  simp

theorem oneLine_write (dir : Directive) {token : String} (hne : token ≠ "") (h : OneLine token) :
    OneLine (dir.write token) := by
  rw [OneLine, toList_write]
  constructor
  · have hmarker : '\n' ∉ dir.marker.toList := by cases dir <;> decide
    simpa [hmarker] using h.1
  · have htoken : token.toList ≠ [] := by simpa using hne
    rw [List.getLast?_append_of_ne_nil _ (by simp), List.getLast?_cons_of_ne_nil htoken]
    exact h.2

theorem cutAtComma_of_not_mem {cs : List Char} (h : ',' ∉ cs) : cutAtComma cs = (cs, []) := by
  have hall : ∀ c ∈ cs, (c != ',') = true := by
    intro c hc
    simpa using fun he : c = ',' => h (he ▸ hc)
  rw [cutAtComma, List.takeWhile_eq_self_iff.2 hall, List.dropWhile_eq_nil_iff.2 hall]
  rfl

theorem cutAtComma_append {cs : List Char} (h : ',' ∉ cs) (rest : List Char) :
    cutAtComma (cs ++ ',' :: rest) = (cs, rest) := by
  have hall : ∀ c ∈ cs, (c != ',') = true := by
    intro c hc
    simpa using fun he : c = ',' => h (he ▸ hc)
  rw [cutAtComma, List.takeWhile_append_of_pos hall, List.dropWhile_append_of_pos hall]
  simp

end Directive

structure PlainName (s : String) : Prop where
  nonempty : s ≠ ""
  noFeed : '\n' ∉ s.toList
  unpadded : Unpadded s

namespace PlainName

theorem stripChars_eq {s : String} (h : PlainName s) : stripChars s.toList = s.toList :=
  stripChars_of_unpadded h.unpadded

theorem toList_ne {s : String} (h : PlainName s) : s.toList ≠ [] := by
  simpa using h.nonempty

theorem oneLine {s : String} (h : PlainName s) : OneLine s := by
  -- A carriage return is blank.
  refine ⟨h.noFeed, fun hlast => ?_⟩
  have hblank := h.unpadded.2 '\r' hlast
  exact absurd hblank (by decide)

end PlainName

namespace Package

def token (p : Package) : String :=
  match p.version with
  | none => p.name
  | some version => p.name ++ ", " ++ version

structure Writable (p : Package) : Prop where
  name : PlainName p.name
  noComma : ',' ∉ p.name.toList
  version : ∀ v ∈ p.version, PlainName v

variable {p : Package}

theorem Writable.token_ne (h : p.Writable) : p.token ≠ "" := by
  have hname := h.name.nonempty
  rw [token]
  split <;> simp [hname]

theorem Writable.oneLine_token (h : p.Writable) : OneLine p.token := by
  obtain ⟨name, version⟩ := p
  cases version with
  | none => exact h.name.oneLine
  | some v =>
    have hv : PlainName v := h.version v rfl
    have hlist : (token ⟨name, some v⟩).toList = name.toList ++ ',' :: ' ' :: v.toList := by
      simp [token]
    rw [OneLine, hlist]
    constructor
    · simpa [h.name.noFeed] using hv.noFeed
    · rw [List.getLast?_append_of_ne_nil _ (by simp), List.getLast?_cons_of_ne_nil (by simp),
        List.getLast?_cons_of_ne_nil hv.toList_ne]
      exact hv.oneLine.2

theorem Writable.readPackage_token (h : p.Writable) : Directive.readPackage p.token = p := by
  obtain ⟨name, version⟩ := p
  cases version with
  | none =>
    have hname : stripChars name.toList = name.toList := h.name.stripChars_eq
    have hnothing : stripChars [] = [] := rfl
    simp [Directive.readPackage, token, Directive.cutAtComma_of_not_mem h.noComma, hname, hnothing]
  | some v =>
    have hv : PlainName v := h.version v rfl
    have hname : stripChars name.toList = name.toList := h.name.stripChars_eq
    have hversion : stripChars (' ' :: v.toList) = v.toList := by
      have hblank : isBlank ' ' = true := by decide
      have hskip : stripChars (' ' :: v.toList) = stripChars v.toList := by
        simp [stripChars, trim, hblank]
      rw [hskip, hv.stripChars_eq]
    have hlist : (token ⟨name, some v⟩).toList = name.toList ++ ',' :: ' ' :: v.toList := by
      simp [token]
    simp [Directive.readPackage, hlist, Directive.cutAtComma_append h.noComma, hname, hversion,
      hv.nonempty]

end Package

inductive ScriptItem
  | body (line : String)
  | reference (name : String)
  | assembly (file : String)
  | sourceFile (file : String)
  | package (p : Package)
  deriving DecidableEq, Repr

structure NormalFile (d : Disk) (file : String) : Prop where
  oneLine : OneLine file
  absolute : (Path.ofText file).isAbsolute = true
  normal : (Path.ofText file).toText = file
  isFile : d.isFile (Path.ofText file) = .ok true

theorem NormalFile.ne {file : String} (h : NormalFile d file) : file ≠ "" := by
  rintro rfl
  exact absurd h.absolute (by decide +kernel)

theorem NormalFile.existingFile_eq {file : String} (h : NormalFile d file) (line : String) :
    existingFile d none script file line = .ok file := by
  have hleads : Leads d script file (Path.ofText file) := by
    rw [Leads, if_pos h.absolute]
  rw [existingFile_of_lookup hleads h.isFile, if_pos rfl, h.normal]

namespace ScriptItem

def line : ScriptItem → String
  | .body line => line
  | .reference name => Directive.reference.write name
  | .assembly file => Directive.assembly.write file
  | .sourceFile file => Directive.sourceFile.write file
  | .package p => Directive.package.write p.token

def body? : ScriptItem → Option String
  | .body line => some line
  | _ => none

def reference? (listed : Manifest) : ScriptItem → Option String
  | .reference name => listed.lookup name
  | .assembly file => some file
  | _ => none

def sourceFile? : ScriptItem → Option String
  | .sourceFile file => some file
  | _ => none

def package? : ScriptItem → Option Package
  | .package p => some p
  | _ => none

def Writable (listed : Manifest) (d : Disk) : ScriptItem → Prop
  | .body line => OneLine line ∧ ∀ dir : Directive, dir.marks line = false
  | .reference name => name ≠ "" ∧ OneLine name ∧ (listed.lookup name).isSome
  | .assembly file => NormalFile d file
  | .sourceFile file => NormalFile d file
  | .package p => p.Writable

variable {i : ScriptItem}

theorem oneLine_line (h : i.Writable listed d) : OneLine i.line := by
  cases i with
  | body line => exact h.1
  | reference name => exact Directive.oneLine_write _ h.1 h.2.1
  | assembly file =>
    have hfile : NormalFile d file := h
    exact Directive.oneLine_write _ hfile.ne hfile.oneLine
  | sourceFile file =>
    have hfile : NormalFile d file := h
    exact Directive.oneLine_write _ hfile.ne hfile.oneLine
  | package p =>
    have hp : p.Writable := h
    exact Directive.oneLine_write _ hp.token_ne hp.oneLine_token

theorem isBodyLine_write (dir : Directive) (token : String) :
    isBodyLine (dir.write token) = false := by
  rw [isBodyLine, Directive.of?_eq_some_iff.2 (Directive.marks_write dir token)]
  rfl

theorem filter_isBodyLine_line (h : i.Writable listed d) :
    [i.line].filter isBodyLine = i.body?.toList := by
  cases i with
  | body line =>
    have hbody : isBodyLine line = true := by
      rw [isBodyLine, Directive.of?_eq_none_iff.2 h.2]
      rfl
    simp [ScriptItem.line, body?, hbody]
  | _ => simp [ScriptItem.line, body?, isBodyLine_write]

structure Means (listed : Manifest) (i : ScriptItem) (y : Yield) : Prop where
  reference : y.reference? = i.reference? listed
  sourceFile : y.sourceFile? = i.sourceFile?
  package : y.package? = i.package?

end ScriptItem

def Resolver.Lists (r : Resolver σ) (listed : Manifest) (d : Disk) : Prop :=
  ∀ name file s, listed.lookup name = some file → r.resolve d name s = .ok file s

theorem Resolver.lists_manifest (listed : Manifest) (fallback : Option (Resolver σ)) (d : Disk) :
    (Resolver.manifest listed fallback).Lists listed d := by
  intro name file s h
  simp [Resolver.manifest, h]

theorem Resolver.lists_configured (listed : Manifest) (lib : Library) (d : Disk) :
    (Resolver.configured listed lib).Lists listed d := by
  intro name file s h
  cases listed with
  | nil => simp at h
  | cons e es => exact lists_manifest (e :: es) (some (library lib)) d name file s h

theorem referenceName?_write {dir : Directive} (hdir : dir ≠ .reference) (token : String) :
    referenceName? (dir.write token) = none := by
  have hno := Directive.marks_eq_decide (Directive.marks_write dir token) .reference
  rw [decide_eq_false (Ne.symm hdir)] at hno
  simp [referenceName?, hno]

theorem referenceName?_reference {name : String} (h : name ≠ "") :
    referenceName? (Directive.reference.write name) = some name := by
  rw [referenceName?, if_pos (Directive.marks_write _ _), Directive.payload_write _ h]

theorem Setting.read_write {c : Setting} {dir : Directive} {token : String} {y : Yield}
    (hdir : dir ≠ .reference) (ht : token ≠ "")
    (hy : c.yieldOf (dir.write token) token dir = .ok y) (s : σ) :
    c.read r (dir.write token) s = .ok y s := by
  rw [Setting.read_of_other (referenceName?_write hdir token),
    Setting.yield_of_marks (Directive.marks_write dir token), Directive.payload_write dir ht]
  simp [hy]

def Setting.listing (listed : Manifest) (d : Disk) (script : Option String) : Setting :=
  ⟨listed.answers, d, none, script⟩

theorem read_line {i : ScriptItem} (script : Option String) (hr : r.Lists listed d)
    (h : i.Writable listed d) (s : σ) :
    ∃ y, (Setting.listing listed d script).read r i.line s = .ok y s ∧ i.Means listed y := by
  cases i with
  | body line =>
    have hnone : Directive.of? line = none := Directive.of?_eq_none_iff.2 h.2
    have hask : referenceName? line = none := by simp [referenceName?, h.2 .reference]
    refine ⟨.body, ?_, rfl, rfl, rfl⟩
    change (Setting.listing listed d script).read r line s = _
    rw [Setting.read_of_other hask, Setting.yield_of_body hnone]
    rfl
  | reference name =>
    obtain ⟨file, hfile⟩ := Option.isSome_iff_exists.1 h.2.2
    refine ⟨.reference file, ?_, hfile.symm, rfl, rfl⟩
    have hfound : r.resolve (Setting.listing listed d script).disk name s = .ok file s :=
      hr name file s hfile
    rw [ScriptItem.line, Setting.read_of_reference (referenceName?_reference h.1), hfound]
  | assembly file =>
    have hfile : NormalFile d file := h
    refine ⟨.reference file, ?_, rfl, rfl, rfl⟩
    apply Setting.read_write (by decide) hfile.ne
    simp [Setting.yieldOf, Setting.fileOf, Setting.listing, hfile.existingFile_eq, Except.map]
  | sourceFile file =>
    have hfile : NormalFile d file := h
    refine ⟨.sourceFile file, ?_, rfl, rfl, rfl⟩
    apply Setting.read_write (by decide) hfile.ne
    simp [Setting.yieldOf, Setting.fileOf, Setting.listing, hfile.existingFile_eq, Except.map]
  | package p =>
    have hp : p.Writable := h
    refine ⟨.package p, ?_, rfl, rfl, rfl⟩
    apply Setting.read_write (by decide) hp.token_ne
    simp [Setting.yieldOf, hp.readPackage_token, hp.name.nonempty]

def render : List (ScriptItem × LineEnd) → String
  | [] => ""
  | (i, e) :: lines => i.line ++ e.text ++ render lines

theorem physicalLines_render {lines : List (ScriptItem × LineEnd)}
    (h : ∀ l ∈ lines, l.1.Writable listed d) :
    physicalLines (render lines) = lines.map (·.1.line) := by
  induction lines with
  | nil => exact physicalLines_empty
  | cons l lines ih =>
    obtain ⟨hl, hlines⟩ := List.forall_mem_cons.1 h
    rw [render, physicalLines_line (ScriptItem.oneLine_line hl), ih hlines]
    rfl

def Analysis.ofItems (listed : Manifest) (script : Option String) (items : List ScriptItem) :
    Analysis :=
  ⟨⟨script, items.filterMap (·.reference? listed), items.filterMap (·.sourceFile?),
    items.filterMap (·.package?)⟩, items.filterMap (·.body?)⟩

theorem reads_items {items : List ScriptItem} (script : Option String) (hr : r.Lists listed d)
    (h : ∀ i ∈ items, i.Writable listed d) (s : σ) :
    ∃ ys, (items.map (·.line)).mapM ((Setting.listing listed d script).read r) s = .ok ys s ∧
      List.Forall₂ (ScriptItem.Means listed) items ys := by
  induction items with
  | nil => exact ⟨[], rfl, .nil⟩
  | cons i items ih =>
    obtain ⟨hi, hitems⟩ := List.forall_mem_cons.1 h
    obtain ⟨y, hy, hmeans⟩ := read_line script hr hi s
    obtain ⟨ys, hys, hall⟩ := ih hitems
    exact ⟨y :: ys, mapM_cons_eq_ok.2 ⟨y, ys, s, hy, hys, rfl⟩, .cons hmeans hall⟩

theorem filterMap_of_means {items : List ScriptItem} {ys : List Yield}
    (h : List.Forall₂ (ScriptItem.Means listed) items ys) :
    ys.filterMap Yield.reference? = items.filterMap (·.reference? listed) ∧
      ys.filterMap Yield.sourceFile? = items.filterMap (·.sourceFile?) ∧
      ys.filterMap Yield.package? = items.filterMap (·.package?) := by
  induction h with
  | nil => simp
  | cons hmeans _ ih =>
    obtain ⟨h1, h2, h3⟩ := ih
    simp only [List.filterMap_cons, hmeans.reference, hmeans.sourceFile, hmeans.package, h1, h2, h3,
      and_self]

theorem filter_isBodyLine_items {items : List ScriptItem} (h : ∀ i ∈ items, i.Writable listed d) :
    (items.map (·.line)).filter isBodyLine = items.filterMap (·.body?) := by
  induction items with
  | nil => rfl
  | cons i items ih =>
    obtain ⟨hi, hitems⟩ := List.forall_mem_cons.1 h
    rw [List.map_cons, ← List.singleton_append, List.filter_append,
      ScriptItem.filter_isBodyLine_line hi, ih hitems]
    cases hb : i.body? <;> simp [hb]

theorem analyseText_of_lists {lines : List (ScriptItem × LineEnd)} (hr : r.Lists listed d)
    (h : ∀ l ∈ lines, l.1.Writable listed d) (s : σ) :
    analyseText (localChain r) d (render lines) script s =
      .ok (.ofItems listed script (lines.map Prod.fst)) s := by
  have hitems : ∀ i ∈ lines.map Prod.fst, i.Writable listed d := by
    intro i hi
    obtain ⟨l, hl, rfl⟩ := List.mem_map.1 hi
    exact h l hl
  obtain ⟨ys, hread, hmeans⟩ := reads_items script hr hitems s
  obtain ⟨hrefs, hfiles, hpackages⟩ := filterMap_of_means hmeans
  have hlines : physicalLines (render lines) = (lines.map Prod.fst).map (·.line) := by
    rw [physicalLines_render h, List.map_map]
    rfl
  have hrun := analyseLines_eq_reads r (.listing listed d script) (physicalLines (render lines)) s
  rw [hlines, hread] at hrun
  rw [analyseText, hlines]
  apply hrun.trans
  simp only [Setting.analysis, Metadata.recordAll_eq, hrefs, hfiles, hpackages,
    filter_isBodyLine_items hitems]
  rfl

/-- Analysis undoes writing, with a manifest alone, with any fallback behind it and as a
configuration combines it with the library. -/
theorem analyseText_render (listed : Manifest) (d : Disk) (script : Option String)
    (lines : List (ScriptItem × LineEnd)) (h : ∀ l ∈ lines, l.1.Writable listed d) :
    (∀ (σ : Type) (fallback : Option (Resolver σ)) (s : σ),
      analyseText (localChain (.manifest listed fallback)) d (render lines) script s =
        .ok (.ofItems listed script (lines.map Prod.fst)) s) ∧
    ∀ (lib : Library) (m : Imports),
      analyseText (localChain (.configured listed lib)) d (render lines) script m =
        .ok (.ofItems listed script (lines.map Prod.fst)) m := by
  constructor
  · intro σ fallback s
    exact analyseText_of_lists (Resolver.lists_manifest listed fallback d) h s
  · intro lib m
    exact analyseText_of_lists (Resolver.lists_configured listed lib d) h m

theorem analyseText_render_mixed :
    let d : Disk := ⟨⟨[(["a"], .file .empty)]⟩, []⟩
    let lines : List (ScriptItem × LineEnd) :=
      [(.package ⟨"p q", some "1, 2"⟩, .returnFeed), (.body "a\rb", .returnFeed),
        (.assembly "/a", .feed), (.reference "A B", .returnFeed), (.sourceFile "/a", .feed),
        (.package ⟨"r", none⟩, .feed)]
    (∀ l ∈ lines, l.1.Writable [("A B", "/b")] d) ∧
      analyseText (localChain (.manifest [("A B", "/b")] none)) d
        "//#pkg p q, 1, 2\r\na\rb\r\n//#ass /a\n//#ref A B\r\n//#imp /a\n//#pkg r\n" none () =
        .ok ⟨⟨none, ["/a", "/b"], ["/a"], [⟨"p q", some "1, 2"⟩, ⟨"r", none⟩]⟩, ["a\rb"]⟩ () := by
  intro d lines
  have hfile : NormalFile d "/a" :=
    ⟨by decide, by decide +kernel, by decide +kernel, rfl⟩
  have hlines : ∀ l ∈ lines, l.1.Writable [("A B", "/b")] d := by
    simp only [lines, List.forall_mem_cons, List.not_mem_nil, false_imp_iff, implies_true, and_true]
    refine ⟨⟨⟨by decide, by decide, by decide⟩, by decide, ?_⟩, ⟨by decide, ?_⟩, hfile,
      ⟨by decide, by decide, rfl⟩, hfile,
      ⟨⟨by decide, by decide, by decide⟩, by decide, ?_⟩⟩
    · rintro v ⟨rfl⟩
      exact ⟨by decide, by decide, by decide⟩
    · intro dir
      cases dir <;> decide
    · rintro v ⟨⟩
  refine ⟨hlines, ?_⟩
  have hrun := (analyseText_render _ d none lines hlines).1 Unit none ()
  exact hrun

end BuildScripts

import BuildScripts.Proofs.Script.Scan
import BuildScripts.Script.Prepared

namespace BuildScripts

open Attempt
open BuildScripts.Text

variable {σ : Type} {r : Resolver σ} {c : Setting} {line name : String}

def referenceName? (line : String) : Option String :=
  if Directive.reference.marks line then Directive.payload line else none

def Setting.read (c : Setting) (r : Resolver σ) (line : String) : Attempt σ Yield :=
  match referenceName? line with
  | some name => do
    let file ← (r.resolve c.disk name).mapFault (withLine name line)
    return .reference file
  | none => Attempt.ofExcept (c.yield line)

theorem Setting.read_of_other (hn : referenceName? line = none) (s : σ) :
    c.read r line s = Attempt.ofExcept (c.yield line) s := by
  rw [Setting.read, hn]

theorem Setting.read_of_reference (hn : referenceName? line = some name) (s : σ) :
    c.read r line s =
      match r.resolve c.disk name s with
      | .ok file t => .ok (.reference file) t
      | .error f t => .error (withLine name line f) t := by
  rw [Setting.read, hn]
  cases hx : r.resolve c.disk name s with
  | ok file t =>
    apply bind_of_ok
    rw [mapFault, hx]
  | error f t =>
    apply bind_of_error
    rw [mapFault, hx]

theorem Setting.yield_of_other (hn : referenceName? line = none)
    (answers : String → Except Unresolvable String) :
    ({ c with answers } : Setting).yield line = c.yield line := by
  rw [Setting.yield, Setting.yield]
  cases hd : Directive.of? line with
  | none => rfl
  | some dir =>
    cases dir with
    | reference =>
      rw [referenceName?, if_pos (Directive.of?_eq_some_iff.1 hd)] at hn
      simp only [hn]
    | _ => rfl

theorem isBodyLine_of_reference (hn : referenceName? line = some name) :
    isBodyLine line = false := by
  rw [isBodyLine]
  cases hd : Directive.of? line with
  | none => simp [referenceName?, Directive.of?_eq_none_iff.1 hd] at hn
  | some dir => rfl

section Dispatch

variable {d : Disk} {s : Scan σ}

theorem process_reference (hn : referenceName? line = some name) :
    (Processor.reference r).process d line s =
      match r.resolve d name s.resolver with
      | .ok file t => .ok true ⟨s.metadata.addReference file, t⟩
      | .error f t => .error (withLine name line f) ⟨s.metadata, t⟩ := by
  have hmarks : Directive.reference.marks line = true := by
    by_contra hno
    simp [referenceName?, hno] at hn
  rw [referenceName?, if_pos hmarks] at hn
  apply (Processor.forDirective_of_payload hmarks hn).trans
  cases h : r.resolve d name s.resolver with
  | ok file t =>
    have hfound : ((Scan.resolving (r.resolve d name)).mapFault (withLine name line)) s =
        .ok file ⟨s.metadata, t⟩ := by
      simp [mapFault, Scan.resolving, onPart, h]
    exact bind_of_ok ((bind_of_ok hfound).trans rfl)
  | error f t =>
    have hlost : ((Scan.resolving (r.resolve d name)).mapFault (withLine name line)) s =
        .error (withLine name line f) ⟨s.metadata, t⟩ := by
      simp [mapFault, Scan.resolving, onPart, h]
    exact bind_of_error (bind_of_error hlost)

theorem dispatch_of_other (hn : referenceName? line = none) (hs : s.metadata.script = c.script) :
    dispatch c.disk line (chainOf r c.root Directive.all) s =
      match c.yield line with
      | .ok y => .ok (!isBodyLine line) ⟨s.metadata.record y, s.resolver⟩
      | .error e => .error e s := by
  -- Without a name the first processor does the same whatever it would look up, and the chain with a
  -- manifest is the one whose dispatch is known.
  have hsame : (Processor.reference r).process c.disk line =
      (Processor.reference (Resolver.manifest [] none)).process c.disk line := by
    cases hmarks : Directive.reference.marks line with
    | false => simp [Processor.reference, Processor.forDirective, hmarks]
    | true =>
      rw [referenceName?, if_pos hmarks] at hn
      simp [Processor.reference, Processor.forDirective, hmarks, hn]
  have hchain : dispatch c.disk line (chainOf r c.root Directive.all) =
      dispatch c.disk line (chainOf (Resolver.manifest [] none) c.root Directive.all) := by
    simp only [chainOf, Directive.all, List.map_cons, Processor.of, dispatch, hsame]
    rfl
  rw [hchain, ← Setting.yield_of_other hn (Manifest.answers [])]
  obtain ⟨_, rfl, h⟩ := dispatch_eq (c := { c with answers := Manifest.answers [] })
    (Resolver.answers_manifest []) (fun _ => rfl) line hs
  exact h

theorem dispatch_eq_read (r : Resolver σ) (c : Setting) (line : String)
    (hs : s.metadata.script = c.script) :
    dispatch c.disk line (chainOf r c.root Directive.all) s =
      match c.read r line s.resolver with
      | .ok y t => .ok (!isBodyLine line) ⟨s.metadata.record y, t⟩
      | .error e t => .error e ⟨s.metadata, t⟩ := by
  cases hn : referenceName? line with
  | none =>
    rw [dispatch_of_other hn hs, Setting.read_of_other hn]
    cases c.yield line <;> rfl
  | some name =>
    have hp := process_reference (r := r) (d := c.disk) (s := s) hn
    rw [isBodyLine_of_reference hn, Setting.read_of_reference hn]
    simp only [chainOf, Directive.all, List.map_cons, Processor.of, dispatch]
    cases hx : r.resolve c.disk name s.resolver with
    | ok file t =>
      rw [hx] at hp
      rw [bind_of_ok hp]
      rfl
    | error f t =>
      rw [hx] at hp
      rw [bind_of_error hp]

end Dispatch

theorem scanLines_eq_reads (r : Resolver σ) (c : Setting) (lines : List String) {s : Scan σ}
    (hs : s.metadata.script = c.script) :
    match lines.mapM (c.read r) s.resolver with
    | .ok ys t => scanLines (chainOf r c.root Directive.all) c.disk lines s =
        .ok (lines.filter isBodyLine) ⟨s.metadata.recordAll ys, t⟩
    | .error e t => ∃ m, scanLines (chainOf r c.root Directive.all) c.disk lines s =
        .error e ⟨m, t⟩ := by
  induction lines generalizing s with
  | nil => rfl
  | cons line lines ih =>
    have hline := dispatch_eq_read r c line hs
    rw [List.mapM_cons]
    cases hy : c.read r line s.resolver with
    | error e t =>
      rw [hy] at hline
      rw [bind_of_error hy]
      exact ⟨s.metadata, bind_of_error hline⟩
    | ok y t =>
      rw [hy] at hline
      rw [bind_of_ok hy]
      have hrest := ih (s := ⟨s.metadata.record y, t⟩) ((Metadata.script_record _ y).trans hs)
      cases hys : lines.mapM (c.read r) t with
      | error e t' =>
        rw [hys] at hrest
        obtain ⟨m, hm⟩ := hrest
        rw [bind_of_error hys]
        exact ⟨m, (bind_of_ok hline).trans (bind_of_error hm)⟩
      | ok ys t' =>
        rw [hys] at hrest
        rw [bind_of_ok hys]
        apply (bind_of_ok hline).trans
        apply (bind_of_ok hrest).trans
        cases hb : isBodyLine line <;> simp [hb]

theorem analyseLines_eq_reads (r : Resolver σ) (c : Setting) (lines : List String) (s : σ) :
    analyseLines (chainOf r c.root Directive.all) c.disk lines c.script s =
      match lines.mapM (c.read r) s with
      | .ok ys t => .ok (c.analysis lines ys) t
      | .error e t => .error e t := by
  have h := scanLines_eq_reads r c lines (s := ⟨.start c.script, s⟩) rfl
  rw [analyseLines]
  cases hy : lines.mapM (c.read r) s with
  | ok ys t =>
    rw [hy] at h
    rw [h]
    rfl
  | error e t =>
    rw [hy] at h
    obtain ⟨m, hm⟩ := h
    rw [hm]

def Setting.ofScript (root : Option Path) (d : Disk) (full : Path) : Setting :=
  ⟨Manifest.answers [], d, root, some full.toText⟩

theorem prepareText_eq_reads (r : Resolver σ) (root : Option Path) (d : Disk) (text : String)
    (p : Path) (s : σ) :
    prepareText (chainOf r root Directive.all) d text p s =
      match d.resolve p with
      | .error f => .error f s
      | .ok full =>
        match (physicalLines text).mapM ((Setting.ofScript root d full).read r) s with
        | .ok ys t => .ok ((Setting.ofScript root d full).analysis (physicalLines text) ys) t
        | .error f t => .error (rejecting p text f) t := by
  rw [prepareText]
  cases d.resolve p with
  | error f => rfl
  | ok full =>
    have h := analyseLines_eq_reads r (.ofScript root d full) (physicalLines text) s
    change analyseText (chainOf r root Directive.all) d text (some full.toText) s = _ at h
    rw [ofExcept_bind_ok rfl, mapFault, h]
    dsimp only
    cases (physicalLines text).mapM ((Setting.ofScript root d full).read r) s <;> rfl

end BuildScripts

import BuildScripts.Proofs.Script.Faults
import BuildScripts.Proofs.Script.Files

namespace BuildScripts

open Attempt
open BuildScripts.Text

variable {σ α : Type}

def Attempt.outcome (x : Attempt σ α) (s : σ) : Except Fault α :=
  match x s with
  | .ok a _ => .ok a
  | .error f _ => .error f

section Outcome

variable {x : Attempt σ α} {s s' : σ} {a : α} {f : Fault}

theorem outcome_of_ok (h : x s = .ok a s') : x.outcome s = .ok a := by
  rw [outcome, h]

theorem outcome_of_error (h : x s = .error f s') : x.outcome s = .error f := by
  rw [outcome, h]

theorem outcome_eq_ok (h : x.outcome s = .ok a) : ∃ s', x s = .ok a s' := by
  rw [outcome] at h
  cases hx : x s with
  | ok b s' =>
    rw [hx] at h
    cases h
    exact ⟨s', rfl⟩
  | error e s' => simp [hx] at h

theorem outcome_eq_error (h : x.outcome s = .error f) : ∃ s', x s = .error f s' := by
  rw [outcome] at h
  cases hx : x s with
  | ok b s' => simp [hx] at h
  | error e s' =>
    rw [hx] at h
    cases h
    exact ⟨s', rfl⟩

end Outcome

/-- The states that the processors of a chain lead a scan to, called on any lines in any order. -/
inductive Chain.Reaches (chain : Chain σ) (d : Disk) (start : Scan σ) : Scan σ → Prop
  | start : Reaches chain d start start
  | step {p : Processor σ} {line : String} {taken : Bool} {s t : Scan σ} (hp : p ∈ chain)
      (hs : Reaches chain d start s) (ht : p.process d line s = .ok taken t) :
      Reaches chain d start t

def Chain.Steady (chain : Chain σ) (d : Disk) (start : Scan σ) : Prop :=
  ∀ p ∈ chain, ∀ line s t, chain.Reaches d start s → chain.Reaches d start t →
    (p.process d line).outcome s = (p.process d line).outcome t

def Processor.Reports (p : Processor σ) : Prop :=
  ∀ d line, FaultsAre (Setting.Blames line) (p.process d line)

variable {chain : Chain σ} {ps : List (Processor σ)} {p : Processor σ} {d : Disk}
  {start s t u : Scan σ} {line : String} {lines body : List String} {taken : Bool} {f : Fault}

section Dispatch

theorem dispatch_cons_of_taken (h : p.process d line s = .ok true t) :
    dispatch d line (p :: ps) s = .ok true t := by
  rw [dispatch, bind_of_ok h]
  rfl

theorem dispatch_cons_of_left (h : p.process d line s = .ok false t) :
    dispatch d line (p :: ps) s = dispatch d line ps t := by
  rw [dispatch, bind_of_ok h]
  rfl

theorem dispatch_cons_of_error (h : p.process d line s = .error f t) :
    dispatch d line (p :: ps) s = .error f t := by
  rw [dispatch, bind_of_error h]

theorem Chain.Reaches.dispatched (hsub : ps ⊆ chain) (hs : chain.Reaches d start s)
    (h : dispatch d line ps s = .ok taken t) : chain.Reaches d start t := by
  induction ps generalizing s with
  | nil =>
    cases h
    exact hs
  | cons p ps ih =>
    obtain ⟨hp, hps⟩ := List.cons_subset.1 hsub
    cases hx : p.process d line s with
    | error e s' =>
      rw [dispatch_cons_of_error hx] at h
      cases h
    | ok b s' =>
      have hs' : chain.Reaches d start s' := .step hp hs hx
      cases b with
      | true =>
        rw [dispatch_cons_of_taken hx] at h
        cases h
        exact hs'
      | false =>
        rw [dispatch_cons_of_left hx] at h
        exact ih hps hs' h

theorem Chain.Steady.dispatched (h : chain.Steady d start) (hsub : ps ⊆ chain) (line : String)
    (hs : chain.Reaches d start s) (ht : chain.Reaches d start t) :
    (dispatch d line ps).outcome s = (dispatch d line ps).outcome t := by
  induction ps generalizing s t with
  | nil => rfl
  | cons p ps ih =>
    obtain ⟨hp, hps⟩ := List.cons_subset.1 hsub
    have hsame := h p hp line s t hs ht
    cases hx : p.process d line s with
    | error e s' =>
      rw [outcome_of_error hx] at hsame
      obtain ⟨t', hy⟩ := outcome_eq_error hsame.symm
      rw [outcome_of_error (dispatch_cons_of_error hx),
        outcome_of_error (dispatch_cons_of_error hy)]
    | ok b s' =>
      rw [outcome_of_ok hx] at hsame
      obtain ⟨t', hy⟩ := outcome_eq_ok hsame.symm
      cases b with
      | true =>
        rw [outcome_of_ok (dispatch_cons_of_taken hx), outcome_of_ok (dispatch_cons_of_taken hy)]
      | false =>
        rw [outcome, outcome, dispatch_cons_of_left hx, dispatch_cons_of_left hy]
        exact ih hps (.step hp hs hx) (.step hp ht hy)

theorem blames_dispatch (h : ∀ p ∈ ps, p.Reports) (d : Disk) (line : String) :
    FaultsAre (Setting.Blames line) (dispatch d line ps) := by
  induction ps with
  | nil => exact .pure false
  | cons p ps ih =>
    obtain ⟨hp, hps⟩ := List.forall_mem_cons.1 h
    rw [dispatch]
    refine (hp d line).bind fun taken => ?_
    cases taken with
    | true => exact .pure true
    | false => exact ih hps

end Dispatch

section Lines

theorem scanLines_cons_of_ok (h : dispatch d line chain s = .ok taken t) :
    scanLines chain d (line :: lines) s =
      (scanLines chain d lines >>= fun body => pure (if taken then body else line :: body)) t := by
  rw [scanLines, bind_of_ok h]

theorem scanLines_cons_eq_ok (h : scanLines chain d (line :: lines) s = .ok body u) :
    ∃ taken t rest, dispatch d line chain s = .ok taken t ∧
      scanLines chain d lines t = .ok rest u := by
  obtain ⟨taken, t, hline, hrest⟩ := bind_eq_ok.1 h
  obtain ⟨rest, u', hlines, hpure⟩ := bind_eq_ok.1 hrest
  cases hpure
  exact ⟨taken, t, rest, hline, hlines⟩

theorem dispatched_of_scanLines (hs : chain.Reaches d start s)
    (h : scanLines chain d lines s = .ok body t) :
    ∀ line ∈ lines, ∃ s' taken t', chain.Reaches d start s' ∧
      dispatch d line chain s' = .ok taken t' := by
  induction lines generalizing s body with
  | nil => exact List.forall_mem_nil _
  | cons line lines ih =>
    obtain ⟨taken, s', rest, hline, hlines⟩ := scanLines_cons_eq_ok h
    exact List.forall_mem_cons.2 ⟨⟨s, taken, s', hs, hline⟩,
      ih (hs.dispatched (List.Subset.refl _) hline) hlines⟩

theorem reaches_scanLines (hs : chain.Reaches d start s)
    (h : scanLines chain d lines s = .ok body t) : chain.Reaches d start t := by
  induction lines generalizing s body with
  | nil =>
    cases h
    exact hs
  | cons line lines ih =>
    obtain ⟨taken, s', rest, hline, hlines⟩ := scanLines_cons_eq_ok h
    exact ih (hs.dispatched (List.Subset.refl _) hline) hlines

theorem scanLines_eq_error (h : scanLines chain d lines s = .error f u) :
    ∃ before line after body t, lines = before ++ line :: after ∧
      scanLines chain d before s = .ok body t ∧ dispatch d line chain t = .error f u := by
  induction lines generalizing s with
  | nil => cases h
  | cons line lines ih =>
    rcases bind_eq_error.1 h with hline | ⟨taken, t, hline, hrest⟩
    · exact ⟨[], line, lines, [], s, rfl, rfl, hline⟩
    · rcases bind_eq_error.1 hrest with hlines | ⟨rest, t', -, hpure⟩
      · obtain ⟨before, line', after, body, t', rfl, hbefore, hline'⟩ := ih hlines
        refine ⟨line :: before, line', after, if taken then body else line :: body, t', rfl, ?_,
          hline'⟩
        rw [scanLines_cons_of_ok hline, bind_of_ok hbefore]
        rfl
      · cases hpure

theorem Chain.Steady.not_mem_before (h : chain.Steady d start) {before : List String}
    (hbefore : scanLines chain d before start = .ok body t)
    (hline : dispatch d line chain t = .error f u) : line ∉ before := by
  intro hmem
  obtain ⟨s', taken, t', hs', hearlier⟩ := dispatched_of_scanLines .start hbefore line hmem
  have hsame := h.dispatched (List.Subset.refl _) line hs' (reaches_scanLines .start hbefore)
  rw [outcome_of_ok hearlier, outcome_of_error hline] at hsame
  cases hsame

theorem lineNumberFrom_append {before : List String} (h : line ∉ before) (n : Nat)
    (after : List String) :
    lineNumberFrom n line (before ++ line :: after) = some (n + before.length) := by
  induction before generalizing n with
  | nil => simp [lineNumberFrom]
  | cons first before ih =>
    rw [List.mem_cons, not_or] at h
    rw [List.cons_append, lineNumberFrom, if_neg (Ne.symm h.1), ih h.2, List.length_cons]
    congr 1
    omega

end Lines

section Reports

theorem Resolver.neverRejects_manifest (listed : Manifest) :
    (Resolver.manifest listed none : Resolver σ).NeverRejects := by
  intro d name
  dsimp only [Resolver.manifest]
  cases listed.lookup name with
  | some file => exact .pure file
  | none => exact .throw fun rejection => nofun

theorem Processor.faults_forDirective {P : Fault → Prop} {dir : Directive}
    {add : Disk → String → String → Attempt (Scan σ) Unit}
    (h : ∀ token, FaultsAre P (add d token line)) :
    FaultsAre P ((Processor.forDirective dir add).process d line) := by
  dsimp only [Processor.forDirective]
  split
  · split
    · exact .pure true
    · rename_i token _
      exact (h token).bind fun _ => .pure true
  · exact .pure false

theorem Processor.reports_of {look : Resolver σ} (h : look.NeverRejects) (root : Option Path)
    (dir : Directive) : (Processor.of look root dir).Reports := by
  intro d line
  have hfile (token : String) (add : String → Metadata → Metadata) :
      FaultsAre (Setting.Blames line) (get >>= fun s : Scan σ =>
        Attempt.ofExcept (existingFile d root s.metadata.script token line) >>= fun file =>
          Processor.change (add file)) := by
    refine .bind .get fun s => .bind (.ofExcept fun f hf => ?_) fun file => nofun
    let c : Setting := ⟨Manifest.answers [], d, root, s.metadata.script⟩
    exact Setting.blames_of_fileOf (c := c) hf
  cases dir with
  | reference =>
    refine Processor.faults_forDirective fun token => ?_
    refine .bind (.mapFault (.onPart (h d token)) fun f hf => ?_) fun file => nofun
    cases f with
    | unresolvable u => rfl
    | rejected rej => exact hf rej rfl
    | _ => trivial
  | assembly => exact Processor.faults_forDirective fun token => hfile token _
  | sourceFile => exact Processor.faults_forDirective fun token => hfile token _
  | package =>
    refine Processor.faults_forDirective fun token => ?_
    dsimp only
    split
    · exact .pure ()
    · nofun

end Reports

section Plain

def Processor.IsPlain (p : Processor σ) : Prop :=
  ∃ listed root dir, p = .of (.manifest listed none) root dir

theorem process_of_plain (listed : Manifest) (root : Option Path) (dir : Directive) (d : Disk)
    (line : String) (s : Scan σ) :
    ∃ t, t.metadata.script = s.metadata.script ∧
      (Processor.of (.manifest listed none) root dir).process d line s =
        match if dir.marks line then
            ((⟨listed.answers, d, root, s.metadata.script⟩ : Setting).yield line).map fun _ => true
          else .ok false with
        | .ok taken => .ok taken t
        | .error f => .error f t := by
  cases hm : dir.marks line with
  | false => exact ⟨s, rfl, Processor.process_of_not_marks _ root d s hm⟩
  | true =>
    let c : Setting := ⟨listed.answers, d, root, s.metadata.script⟩
    obtain ⟨r, -, hx⟩ := Processor.process_of_marks (c := c)
      (Resolver.answers_manifest (σ := σ) listed) (fun _ => rfl) (s := s) rfl hm
    rw [if_pos rfl]
    cases hy : c.yield line with
    | ok y =>
      rw [hy] at hx
      exact ⟨_, Metadata.script_record _ y, hx⟩
    | error e =>
      rw [hy] at hx
      exact ⟨⟨s.metadata, r⟩, rfl, hx⟩

theorem Processor.IsPlain.script_eq (h : p.IsPlain) (hx : p.process d line s = .ok taken t) :
    t.metadata.script = s.metadata.script := by
  obtain ⟨listed, root, dir, rfl⟩ := h
  obtain ⟨t', hscript, hx'⟩ := process_of_plain listed root dir d line s
  rw [hx] at hx'
  split at hx'
  · cases hx'
    exact hscript
  · cases hx'

theorem Processor.IsPlain.outcome_eq (h : p.IsPlain) (d : Disk) (line : String)
    (hst : s.metadata.script = t.metadata.script) :
    (p.process d line).outcome s = (p.process d line).outcome t := by
  obtain ⟨listed, root, dir, rfl⟩ := h
  obtain ⟨s', -, hs⟩ := process_of_plain listed root dir d line s
  obtain ⟨t', -, ht⟩ := process_of_plain listed root dir d line t
  rw [outcome, outcome, hs, ht, hst]
  generalize (if dir.marks line = true then _ else _ : Except Fault Bool) = result
  cases result <;> rfl

theorem Processor.IsPlain.reports (h : p.IsPlain) : p.Reports := by
  obtain ⟨listed, root, dir, rfl⟩ := h
  exact Processor.reports_of (Resolver.neverRejects_manifest listed) root dir

theorem Chain.Reaches.script_eq (h : ∀ p ∈ chain, p.IsPlain) (hs : chain.Reaches d start s) :
    s.metadata.script = start.metadata.script := by
  induction hs with
  | start => rfl
  | step hp _ hx ih => exact ((h _ hp).script_eq hx).trans ih

theorem Chain.steady_of_plain (h : ∀ p ∈ chain, p.IsPlain) (d : Disk) (start : Scan σ) :
    chain.Steady d start := by
  intro p hp line s t hs ht
  exact (h p hp).outcome_eq d line ((hs.script_eq h).trans (ht.script_eq h).symm)

end Plain

section Rejected

variable {p : Path} {text : String} {full : Path} {rej : Rejection} {r r' : σ}

theorem analyseText_eq_error {script : Option String}
    (h : analyseText chain d text script r = .error f r') :
    ∃ before line after body s t, physicalLines text = before ++ line :: after ∧
      scanLines chain d before ⟨.start script, r⟩ = .ok body s ∧
      dispatch d line chain s = .error f t ∧ t.resolver = r' := by
  rw [analyseText, analyseLines] at h
  cases hscan : scanLines chain d (physicalLines text) ⟨.start script, r⟩ with
  | ok body s =>
    rw [hscan] at h
    cases h
  | error e t =>
    rw [hscan] at h
    cases h
    obtain ⟨before, line, after, body, s, hlines, hbefore, hline⟩ := scanLines_eq_error hscan
    exact ⟨before, line, after, body, s, t, hlines, hbefore, hline, rfl⟩

theorem prepareText_eq_rejected (hrep : ∀ q ∈ chain, q.Reports)
    (h : prepareText chain d text p r = .error (.rejected rej) r') :
    ∃ full before line after body s t, d.resolve p = .ok full ∧
      physicalLines text = before ++ line :: after ∧
      scanLines chain d before ⟨.start (some full.toText), r⟩ = .ok body s ∧
      dispatch d line chain s = .error (.unresolvable ⟨rej.token, some line, rej.reason⟩) t ∧
      t.resolver = r' ∧ rej.line = some line ∧ rej.lineNumber = lineNumber? text (some line) := by
  rw [prepareText] at h
  cases hp : d.resolve p with
  | error f =>
    rw [ofExcept_bind_error hp] at h
    rcases Disk.resolve_fault hp with rfl | ⟨path, rfl⟩ <;> cases h
  | ok full =>
    rw [ofExcept_bind_ok hp] at h
    obtain ⟨f, hanalyse, hreject⟩ := mapFault_eq_error.1 h
    obtain ⟨before, line, after, body, s, t, hlines, hbefore, hline, ht⟩ :=
      analyseText_eq_error hanalyse
    have hblames : Setting.Blames line f := blames_dispatch hrep d line s f t hline
    cases f with
    | unresolvable u =>
      obtain ⟨token, line', reason⟩ := u
      cases hblames
      cases hreject
      exact ⟨full, before, line, after, body, s, t, rfl, hlines, hbefore, hline, ht, rfl, rfl⟩
    | rejected rej' => exact hblames.elim
    | _ => cases hreject

/-- A rejection of a text names the line at which the scan has stopped, by its number and by its
text, if the processors treat a line alike whenever it comes. -/
theorem rejected_where_stopped (chain : Chain σ) (d : Disk) (text : String) (p : Path) (r : σ) :
    ((∀ full, d.resolve p = .ok full → chain.Steady d ⟨.start (some full.toText), r⟩) →
      (∀ q ∈ chain, q.Reports) →
      ∀ rej r', prepareText chain d text p r = .error (.rejected rej) r' →
        ∃ full before line after body s t, d.resolve p = .ok full ∧
          physicalLines text = before ++ line :: after ∧
          rej.line = some line ∧ rej.lineNumber = some (before.length + 1) ∧
          scanLines chain d before ⟨.start (some full.toText), r⟩ = .ok body s ∧
          dispatch d line chain s =
            .error (.unresolvable ⟨rej.token, some line, rej.reason⟩) t ∧
          t.resolver = r') ∧
    ((∀ q ∈ chain, q.IsPlain) → (∀ start, chain.Steady d start) ∧ ∀ q ∈ chain, q.Reports) := by
  refine ⟨fun hsteady hrep rej r' h => ?_,
    fun hplain => ⟨Chain.steady_of_plain hplain d, fun q hq => (hplain q hq).reports⟩⟩
  obtain ⟨full, before, line, after, body, s, t, hp, hlines, hbefore, hline, ht, htext, hnumber⟩ :=
    prepareText_eq_rejected hrep h
  -- The number is that of the first equal line, and no equal line comes before this one.
  have hfirst : line ∉ before := (hsteady full hp).not_mem_before hbefore hline
  refine ⟨full, before, line, after, body, s, t, hp, hlines, htext, ?_, hbefore, hline, ht⟩
  rw [hnumber, lineNumber?, Option.bind_some, hlines, lineNumberFrom_append hfirst, Nat.add_comm]

theorem rejected_where_stopped_repeated :
    ∃ rej before line after,
      prepareText [.package, .reference (Resolver.manifest [("Known", "/lib.dll")] none)]
          ⟨.empty, []⟩ "//#ref Known\r\nRun();\n//#ref Missing\r\n//#ref Missing\n"
          (.ofText "/a.cs") () = .error (.rejected rej) () ∧
        ["//#ref Known", "Run();", "//#ref Missing", "//#ref Missing"] =
          before ++ line :: after ∧
        rej.line = some line ∧ rej.lineNumber = some (before.length + 1) := by
  let listed : Resolver Unit := .manifest [("Known", "/lib.dll")] none
  let chain : Chain Unit := [.package, .reference listed]
  let text := "//#ref Known\r\nRun();\n//#ref Missing\r\n//#ref Missing\n"
  have hplain : ∀ q ∈ chain, q.IsPlain := by
    refine List.forall_mem_cons.2 ⟨⟨[], none, .package, rfl⟩, List.forall_mem_singleton.2 ?_⟩
    exact ⟨_, none, .reference, rfl⟩
  have hlines : physicalLines text =
      ["//#ref Known", "Run();", "//#ref Missing", "//#ref Missing"] := by decide +kernel
  obtain ⟨rej, r', hrej⟩ := rejected_of_rejects
    (x := prepareText chain ⟨.empty, []⟩ text (.ofText "/a.cs")) (s := ()) (by decide +kernel)
  obtain ⟨hsteady, hrep⟩ := (rejected_where_stopped chain ⟨.empty, []⟩ text (.ofText "/a.cs") ()).2
    hplain
  obtain ⟨full, before, line, after, body, s, t, -, hsplit, hline, hnumber, -⟩ :=
    (rejected_where_stopped chain ⟨.empty, []⟩ text (.ofText "/a.cs") ()).1
      (fun _ _ => hsteady _) hrep rej r' hrej
  exact ⟨rej, before, line, after, hrej, hlines ▸ hsplit, hline, hnumber⟩

end Rejected

end BuildScripts

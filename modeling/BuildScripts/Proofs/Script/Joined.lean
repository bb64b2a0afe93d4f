import BuildScripts.Proofs.Script.Numbering
import BuildScripts.Proofs.Text.LineEnds

namespace BuildScripts

open Attempt
open BuildScripts.Text

namespace Text

theorem splitLines_ne_nil {cs : List Char} (h : cs ≠ []) : splitLines cs ≠ [] := by
  cases cs with
  | nil => exact absurd rfl h
  | cons c cs =>
    by_cases hc : c = '\n'
    · rw [hc, splitLines_line_feed]
      exact List.cons_ne_nil _ _
    · rw [splitLines_cons_of_ne hc]
      split <;> exact List.cons_ne_nil _ _

theorem splitLines_seam (cs ds : List Char) :
    splitLines (cs ++ '\n' :: ds) = splitLines (cs ++ ['\n']) ++ splitLines ds := by
  induction cs with
  | nil =>
    rw [List.nil_append, List.nil_append, splitLines_line_feed, splitLines_line_feed]
    rfl
  | cons c cs ih =>
    rw [List.cons_append, List.cons_append]
    by_cases hc : c = '\n'
    · rw [hc, splitLines_line_feed, splitLines_line_feed, ih, List.cons_append]
    · rw [splitLines_cons_of_ne hc, splitLines_cons_of_ne hc, ih]
      -- The seam ends a line, and the character goes in front of the first of the same lines.
      have hne : cs ++ ['\n'] ≠ [] := by simp
      obtain ⟨l, ls, hs⟩ := List.exists_cons_of_ne_nil (splitLines_ne_nil hne)
      rw [hs]
      rfl

theorem physicalLines_seam (first second : String) :
    physicalLines (first ++ "\n" ++ second) =
      physicalLines (first ++ "\n") ++ physicalLines second := by
  have hseam := splitLines_seam first.toList second.toList
  simp [physicalLines, hseam]

end Text

variable {σ α β : Type}

namespace Metadata

theorem recordAll_append (m : Metadata) (ys zs : List Yield) :
    m.recordAll (ys ++ zs) = (m.recordAll ys).recordAll zs :=
  List.foldl_append

@[simp] theorem script_recordAll (m : Metadata) (ys : List Yield) :
    (m.recordAll ys).script = m.script := by
  rw [recordAll_eq]

end Metadata

def Attempt.Appends (x : Attempt (Scan σ) α) : Prop :=
  ∀ script, ∃ outcome : Except Fault (α × List Yield), ∀ s : Scan σ, s.metadata.script = script →
    match outcome with
    | .ok (a, ys) => ∃ r, x s = .ok a ⟨s.metadata.recordAll ys, r⟩
    | .error f => ∃ t, x s = .error f t

theorem Attempt.Appends.pure (a : α) : Appends (Pure.pure a : Attempt (Scan σ) α) :=
  fun _ => ⟨.ok (a, []), fun s _ => ⟨s.resolver, rfl⟩⟩

theorem Attempt.Appends.bind {x : Attempt (Scan σ) α} {g : α → Attempt (Scan σ) β} (hx : x.Appends)
    (hg : ∀ a, (g a).Appends) : (x >>= g).Appends := by
  intro script
  obtain ⟨outcome, hrun⟩ := hx script
  cases outcome with
  | error f =>
    refine ⟨.error f, fun s hs => ?_⟩
    obtain ⟨t, ht⟩ := hrun s hs
    exact ⟨t, bind_of_error ht⟩
  | ok given =>
    obtain ⟨a, ys⟩ := given
    obtain ⟨outcome, hrest⟩ := hg a script
    cases outcome with
    | error f =>
      refine ⟨.error f, fun s hs => ?_⟩
      obtain ⟨r, hr⟩ := hrun s hs
      obtain ⟨t, ht⟩ := hrest ⟨s.metadata.recordAll ys, r⟩ (by simpa using hs)
      exact ⟨t, (bind_of_ok hr).trans ht⟩
    | ok given =>
      obtain ⟨b, zs⟩ := given
      refine ⟨.ok (b, ys ++ zs), fun s hs => ?_⟩
      obtain ⟨r, hr⟩ := hrun s hs
      obtain ⟨r', hr'⟩ := hrest ⟨s.metadata.recordAll ys, r⟩ (by simpa using hs)
      exact ⟨r', by rw [bind_of_ok hr, hr', Metadata.recordAll_append]⟩

def Processor.AppendsOnly (p : Processor σ) : Prop :=
  ∀ d line, (p.process d line).Appends

section Chains

variable {chain : Chain σ} {r : Resolver σ}

theorem appends_dispatch (h : ∀ p ∈ chain, p.AppendsOnly) (d : Disk) (line : String) :
    (dispatch d line chain).Appends := by
  induction chain with
  | nil => exact .pure false
  | cons p chain ih =>
    obtain ⟨hp, hchain⟩ := List.forall_mem_cons.1 h
    rw [dispatch]
    refine (hp d line).bind fun taken => ?_
    cases taken with
    | true => exact .pure true
    | false => exact ih hchain

theorem appends_scanLines (h : ∀ p ∈ chain, p.AppendsOnly) (d : Disk) (lines : List String) :
    (scanLines chain d lines).Appends := by
  induction lines with
  | nil => exact .pure []
  | cons line lines ih =>
    rw [scanLines]
    exact (appends_dispatch h d line).bind fun taken => ih.bind fun body => .pure _

theorem scanLines_append (chain : Chain σ) (d : Disk) (first second : List String) (s : Scan σ) :
    scanLines chain d (first ++ second) s =
      (scanLines chain d first >>= fun body =>
        scanLines chain d second >>= fun rest => pure (body ++ rest)) s := by
  induction first generalizing s with
  | nil =>
    rw [List.nil_append, scanLines, pure_bind]
    simp only [List.nil_append, bind_pure]
  | cons line first ih =>
    rw [List.cons_append, scanLines, scanLines]
    simp only [bind_assoc, pure_bind]
    cases hline : dispatch d line chain s with
    | error f t => rw [bind_of_error hline, bind_of_error hline]
    | ok taken t =>
      rw [bind_of_ok hline, bind_of_ok hline, bind_of_eq (ih t)]
      cases taken <;> simp

theorem Processor.appendsOnly_of {answers : String → Except Unresolvable String}
    (hr : r.Answers answers fun _ _ => True) (root : Option Path) (dir : Directive) :
    (Processor.of r root dir).AppendsOnly := by
  intro d line script
  let c : Setting := ⟨answers, d, root, script⟩
  cases hm : dir.marks line with
  | false =>
    exact ⟨.ok (false, []), fun s _ => ⟨s.resolver, Processor.process_of_not_marks r root d s hm⟩⟩
  | true =>
    refine ⟨(c.yield line).map fun y => (true, [y]), fun s hs => ?_⟩
    obtain ⟨u, -, hrun⟩ := Processor.process_of_marks (c := c) hr (fun _ => trivial) hs hm
    cases hy : c.yield line with
    | ok y =>
      rw [hy] at hrun
      exact ⟨u, hrun⟩
    | error e =>
      rw [hy] at hrun
      exact ⟨_, hrun⟩

theorem Processor.IsPlain.appendsOnly {p : Processor σ} (h : p.IsPlain) : p.AppendsOnly := by
  obtain ⟨listed, root, dir, rfl⟩ := h
  exact Processor.appendsOnly_of ((Resolver.answers_manifest listed).mono fun _ => trivial) root dir

def Analysis.join (a b : Analysis) : Analysis where
  metadata :=
    { script := a.metadata.script
      references := a.metadata.references ++ b.metadata.references
      sourceFiles := a.metadata.sourceFiles ++ b.metadata.sourceFiles
      packages := a.metadata.packages ++ b.metadata.packages }
  bodyLines := a.bodyLines ++ b.bodyLines

theorem Analysis.join_recordAll (script : Option String) (ys zs : List Yield)
    (body rest : List String) :
    join ⟨(Metadata.start script).recordAll ys, body⟩ ⟨(Metadata.start script).recordAll zs, rest⟩ =
      ⟨((Metadata.start script).recordAll ys).recordAll zs, body ++ rest⟩ := by
  simp [join, Metadata.recordAll_eq, Metadata.start]

theorem outcome_analyseLines_append (h : ∀ p ∈ chain, p.AppendsOnly) (d : Disk)
    (first second : List String) (script : Option String) (r r₁ r₂ : σ) :
    (analyseLines chain d (first ++ second) script).outcome r = do
      let a ← (analyseLines chain d first script).outcome r₁
      let b ← (analyseLines chain d second script).outcome r₂
      return a.join b := by
  -- The resolver may be in another state in each of the runs, so they are compared by what they add.
  obtain ⟨result, hfirst⟩ := appends_scanLines h d first script
  have hrun := hfirst ⟨.start script, r⟩ rfl
  have hrun₁ := hfirst ⟨.start script, r₁⟩ rfl
  cases result with
  | error f =>
    obtain ⟨t, ht⟩ := hrun
    obtain ⟨t₁, ht₁⟩ := hrun₁
    have hall : scanLines chain d (first ++ second) ⟨.start script, r⟩ = .error f t := by
      rw [scanLines_append, bind_of_error ht]
    simp only [outcome, analyseLines, hall, ht₁]
    rfl
  | ok given =>
    obtain ⟨body, ys⟩ := given
    obtain ⟨u, hu⟩ := hrun
    obtain ⟨u₁, hu₁⟩ := hrun₁
    obtain ⟨result, hsecond⟩ := appends_scanLines h d second script
    have hrun := hsecond ⟨(Metadata.start script).recordAll ys, u⟩ (by simp [Metadata.start])
    have hrun₂ := hsecond ⟨.start script, r₂⟩ rfl
    cases result with
    | error f =>
      obtain ⟨t, ht⟩ := hrun
      obtain ⟨t₂, ht₂⟩ := hrun₂
      have hall : scanLines chain d (first ++ second) ⟨.start script, r⟩ = .error f t := by
        rw [scanLines_append, bind_of_ok hu, bind_of_error ht]
      simp only [outcome, analyseLines, hall, hu₁, ht₂]
      rfl
    | ok given =>
      obtain ⟨rest, zs⟩ := given
      obtain ⟨v, hv⟩ := hrun
      obtain ⟨v₂, hv₂⟩ := hrun₂
      have hall : scanLines chain d (first ++ second) ⟨.start script, r⟩ =
          .ok (body ++ rest) ⟨((Metadata.start script).recordAll ys).recordAll zs, v⟩ := by
        rw [scanLines_append, bind_of_ok hu, bind_of_ok hv]
        rfl
      simp only [outcome, analyseLines, hall, hu₁, hv₂, ← Analysis.join_recordAll]
      rfl

/-- A text is analysed as its two parts one after the other, each from any state of the resolver,
and what keeps the first part from being analysed hides the second. The four processors with
references from a manifest are among those that it does not matter to. -/
theorem analyseText_join (chain : Chain σ) (d : Disk) (first second : String)
    (script : Option String) (r r₁ r₂ : σ) :
    ((∀ p ∈ chain, p.AppendsOnly) →
      (analyseText chain d (first ++ "\n" ++ second) script).outcome r = do
        let a ← (analyseText chain d (first ++ "\n") script).outcome r₁
        let b ← (analyseText chain d second script).outcome r₂
        return a.join b) ∧
    ((∀ p ∈ chain, p.IsPlain) → ∀ p ∈ chain, p.AppendsOnly) := by
  refine ⟨fun h => ?_, fun h p hp => (h p hp).appendsOnly⟩
  rw [analyseText, physicalLines_seam]
  exact outcome_analyseLines_append h d _ _ script r r₁ r₂

theorem analyseText_join_seam :
    let chain := localChain (.manifest [("A", "/a"), ("B", "/b")] none : Resolver Nat)
    (∀ p ∈ chain, p.IsPlain) ∧ (∀ p ∈ chain, p.AppendsOnly) ∧
      (analyseText chain ⟨.empty, []⟩ ("//#ref A\r" ++ "\n" ++ "Run();\n//#ref B") none).outcome 0 =
        .ok ⟨⟨none, ["/a", "/b"], [], []⟩, ["Run();"]⟩ := by
  intro chain
  have hplain : ∀ p ∈ chain, p.IsPlain := by
    rw [show chain = chainOf _ none Directive.all from rfl]
    exact List.forall_mem_map.2 fun dir _ => ⟨_, none, dir, rfl⟩
  have hjoin := analyseText_join chain ⟨.empty, []⟩ "//#ref A\r" "Run();\n//#ref B" none 0 1 2
  have happends := hjoin.2 hplain
  have hseam : "//#ref A\r" ++ "\n" = "//#ref A\r\n" := by simp
  have hfirst : analyseText chain ⟨.empty, []⟩ "//#ref A\r\n" none 1 =
      .ok ⟨⟨none, ["/a"], [], []⟩, []⟩ 1 := rfl
  have hsecond : analyseText chain ⟨.empty, []⟩ "Run();\n//#ref B" none 2 =
      .ok ⟨⟨none, ["/b"], [], []⟩, ["Run();"]⟩ 2 := rfl
  refine ⟨hplain, happends, ?_⟩
  rw [hjoin.1 happends, hseam, outcome_of_ok hfirst, outcome_of_ok hsecond]
  rfl

end Chains

end BuildScripts

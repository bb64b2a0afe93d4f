import BuildScripts.Proofs.Script.Numbering
import BuildScripts.Proofs.Script.Rendering

namespace BuildScripts

open Attempt
open BuildScripts.Text

variable {σ : Type}

namespace Directive

theorem payloadChars_eq_some_iff {cs token : List Char} : payloadChars cs = some token ↔
    ∃ before, cs = before ++ ' ' :: token ∧ ' ' ∉ before ∧ token ≠ [] := by
  constructor
  · intro h
    have hcut := List.takeWhile_append_dropWhile (p := (· != ' ')) (l := cs)
    have hbefore : ' ' ∉ cs.takeWhile (· != ' ') := fun hmem => by
      simpa using List.mem_takeWhile_imp hmem
    rw [payloadChars] at h
    split at h
    · rename_i x c rest hdrop
      have hx : x = ' ' := by
        have hhead := List.head?_dropWhile_not (p := (· != ' ')) (l := cs)
        rw [hdrop] at hhead
        simpa using hhead
      cases h
      rw [hdrop, hx] at hcut
      exact ⟨_, hcut.symm, hbefore, List.cons_ne_nil _ _⟩
    · cases h
  · rintro ⟨before, rfl, hbefore, hne⟩
    exact payloadChars_append hbefore hne

theorem payload_eq_some_iff {line token : String} : payload line = some token ↔
    ∃ before, line = before ++ " " ++ token ∧ ' ' ∉ before.toList ∧ token ≠ "" := by
  rw [payload, Option.map_eq_some_iff]
  constructor
  · rintro ⟨cs, hcs, rfl⟩
    obtain ⟨before, hline, hbefore, hne⟩ := payloadChars_eq_some_iff.1 hcs
    refine ⟨String.ofList before, String.toList_injective ?_, by rwa [String.toList_ofList], ?_⟩
    · simpa using hline
    · rwa [Ne, String.ofList_eq_empty_iff]
  · rintro ⟨before, rfl, hbefore, hne⟩
    refine ⟨token.toList, payloadChars_eq_some_iff.2 ⟨before.toList, ?_, hbefore, ?_⟩,
      String.ofList_toList⟩
    · simp
    · simpa using hne

def Records (dir : Directive) (line : String) : Prop :=
  ∃ before token, line = before ++ " " ++ token ∧ ' ' ∉ before.toList ∧ token ≠ "" ∧
    (dir = .package → ∃ c ∈ token.toList.takeWhile (· != ','), isBlank c = false)

theorem records_iff {dir : Directive} {line : String} : dir.Records line ↔
    ∃ token, payload line = some token ∧
      (dir = .package → (readPackage token).name.isEmpty = false) := by
  have hname (token : String) : (∃ c ∈ token.toList.takeWhile (· != ','), isBlank c = false) ↔
      (readPackage token).name.isEmpty = false := by
    rw [name_isEmpty_eq]
    simp [cutAtComma]
  simp only [Records, payload_eq_some_iff, hname]
  constructor
  · rintro ⟨before, token, hline, hbefore, hne, h⟩
    exact ⟨token, ⟨before, hline, hbefore, hne⟩, h⟩
  · rintro ⟨token, ⟨before, hline, hbefore, hne⟩, h⟩
    exact ⟨before, token, hline, hbefore, hne, h⟩

theorem records_of_payload {dir : Directive} {line token : String}
    (h : payload line = some token) : dir.Records line ↔
      (dir = .package → (readPackage token).name.isEmpty = false) := by
  rw [records_iff, h]
  simp only [Option.some.injEq, exists_eq_left']

theorem records_of_ne_package {dir : Directive} {line token : String}
    (h : payload line = some token) (hdir : dir ≠ .package) : dir.Records line :=
  (records_of_payload h).2 fun heq => absurd heq hdir

def Adds (m m' : Metadata) : Directive → Prop
  | .reference => ∃ file, m' = { m with references := m.references ++ [file] }
  | .assembly => ∃ file, m' = { m with references := m.references ++ [file] }
  | .sourceFile => ∃ file, m' = { m with sourceFiles := m.sourceFiles ++ [file] }
  | .package => ∃ p, m' = { m with packages := m.packages ++ [p] }

theorem marks_eq_true_iff {dir : Directive} {line : String} :
    dir.marks line = true ↔ ∃ rest, line = dir.marker ++ rest := by
  rw [marks, beginsWith_iff]
  constructor
  · rintro ⟨rest, h⟩
    exact ⟨String.ofList rest, String.toList_injective (by simp [h])⟩
  · rintro ⟨rest, rfl⟩
    exact ⟨rest.toList, String.toList_append⟩

end Directive

namespace Processor

variable {dir : Directive} {line : String} {s : Scan σ}

def Does (dir : Directive) (line : String) (s : Scan σ) :
    EStateM.Result Fault (Scan σ) Bool → Prop
  | .ok false t => dir.marks line = false ∧ t = s
  | .ok true t => dir.marks line = true ∧
      (dir.Records line ∧ dir.Adds s.metadata t.metadata ∨
        ¬ dir.Records line ∧ t.metadata = s.metadata)
  | .error _ t => dir.marks line = true ∧ t.metadata = s.metadata

theorem does_addFile (hm : dir.marks line = true) (hrecords : dir.Records line)
    (file : Except Fault String) {add : String → Metadata → Metadata}
    (hadd : ∀ name, dir.Adds s.metadata (add name s.metadata)) :
    Does dir line s
      (((ofExcept file >>= fun file => change (add file)) >>= fun _ => pure true) s) := by
  rw [addFile_run]
  cases file with
  | ok name => exact ⟨hm, .inl ⟨hrecords, hadd name⟩⟩
  | error e => exact ⟨hm, rfl⟩

theorem process_of_no_payload (r : Resolver σ) (root : Option Path) (d : Disk) (s : Scan σ)
    (hm : dir.marks line = true) (hp : Directive.payload line = none) :
    (of r root dir).process d line s = .ok true s := by
  cases dir <;> exact forDirective_of_no_payload hm hp

theorem process_package (r : Resolver σ) (root : Option Path) (d : Disk) (line : String)
    (s : Scan σ) : ∃ taken t, (of r root .package).process d line s = .ok taken t := by
  cases hm : Directive.package.marks line with
  | false => exact ⟨false, s, process_of_not_marks r root d s hm⟩
  | true =>
    cases hp : Directive.payload line with
    | none => exact ⟨true, s, process_of_no_payload r root d s hm hp⟩
    | some token =>
      have hrun : (of r root .package).process d line s = _ := forDirective_of_payload hm hp
      rw [hrun]
      cases hname : (Directive.readPackage token).name.isEmpty with
      | true =>
        simp only [hname]
        exact ⟨true, s, rfl⟩
      | false =>
        simp only [hname]
        exact ⟨true, _, rfl⟩

theorem does_process (r : Resolver σ) (root : Option Path) (dir : Directive) (d : Disk)
    (line : String) (s : Scan σ) : Does dir line s ((of r root dir).process d line s) := by
  cases hm : dir.marks line with
  | false =>
    rw [process_of_not_marks r root d s hm]
    exact ⟨hm, rfl⟩
  | true =>
    cases hp : Directive.payload line with
    -- A marker without a payload: the line is taken and leaves nothing behind.
    | none =>
      rw [process_of_no_payload r root d s hm hp]
      refine ⟨hm, .inr ⟨?_, rfl⟩⟩
      simp [Directive.records_iff, hp]
    | some token =>
      cases dir with
      | reference =>
        have hname : referenceName? line = some token := by rw [referenceName?, if_pos hm, hp]
        have hrun : (of r root .reference).process d line s = _ := process_reference hname
        rw [hrun]
        cases r.resolve d token s.resolver with
        | ok file u =>
          exact ⟨hm, .inl ⟨Directive.records_of_ne_package hp (by decide), file, rfl⟩⟩
        | error e u => exact ⟨hm, rfl⟩
      | assembly =>
        have hrun : (of r root .assembly).process d line s = _ := forDirective_of_payload hm hp
        rw [hrun]
        exact does_addFile hm (Directive.records_of_ne_package hp (by decide)) _ fun name => ⟨name, rfl⟩
      | sourceFile =>
        have hrun : (of r root .sourceFile).process d line s = _ := forDirective_of_payload hm hp
        rw [hrun]
        exact does_addFile hm (Directive.records_of_ne_package hp (by decide)) _ fun name => ⟨name, rfl⟩
      | package =>
        have hrun : (of r root .package).process d line s = _ := forDirective_of_payload hm hp
        rw [hrun]
        cases hname : (Directive.readPackage token).name.isEmpty with
        | true =>
          simp only [hname]
          refine ⟨hm, .inr ⟨fun hrecords => ?_, rfl⟩⟩
          have hnamed := (Directive.records_of_payload hp).1 hrecords rfl
          rw [hname] at hnamed
          cases hnamed
        | false =>
          simp only [hname]
          exact ⟨hm, .inl ⟨(Directive.records_of_payload hp).2 fun _ => hname, _, rfl⟩⟩

/-- A processor lets go of the lines without its marker and touches nothing then, it leaves the
metadata alone when it fails, and it adds one entry to its own list where there is one to add. -/
theorem process_frame (r : Resolver σ) (root : Option Path) (dir : Directive) (d : Disk)
    (line : String) (s : Scan σ) :
    ((∃ t, (of r root dir).process d line s = .ok false t) ↔ ¬ ∃ rest, line = dir.marker ++ rest) ∧
    (∀ t, (of r root dir).process d line s = .ok false t → t = s) ∧
    (∀ f t, (of r root dir).process d line s = .error f t → t.metadata = s.metadata) ∧
    ∀ t, (of r root dir).process d line s = .ok true t →
      dir.Records line ∧ dir.Adds s.metadata t.metadata ∨
        ¬ dir.Records line ∧ t.metadata = s.metadata := by
  have hdoes := does_process r root dir d line s
  refine ⟨?_, fun t h => ?_, fun f t h => ?_, fun t h => ?_⟩
  · rw [← Directive.marks_eq_true_iff, Bool.not_eq_true]
    constructor
    · rintro ⟨t, h⟩
      rw [h] at hdoes
      exact hdoes.1
    · intro hm
      exact ⟨s, process_of_not_marks r root d s hm⟩
  · rw [h] at hdoes
    exact hdoes.2
  · rw [h] at hdoes
    exact hdoes.2
  · rw [h] at hdoes
    exact hdoes.2

def Apart (p q : Processor σ) : Prop :=
  ∀ d line, (∀ s, p.process d line s = .ok false s) ∨ ∀ s, q.process d line s = .ok false s

theorem Apart.symm {p q : Processor σ} (h : p.Apart q) : q.Apart p :=
  fun d line => (h d line).symm

theorem apart_of_ne (r : Resolver σ) (root : Option Path) {e : Directive} (h : dir ≠ e) :
    (of r root dir).Apart (of r root e) := by
  intro d line
  cases hm : dir.marks line with
  | false => exact .inl fun s => process_of_not_marks r root d s hm
  | true =>
    refine .inr fun s => process_of_not_marks r root d s ?_
    rw [Directive.marks_eq_decide hm, decide_eq_false_iff_not]
    exact Ne.symm h

end Processor

section Order

variable {chain chain' ps : List (Processor σ)} {p q : Processor σ} {d : Disk} {line : String}

theorem dispatch_of_left (h : ∀ s, p.process d line s = .ok false s) :
    dispatch d line (p :: ps) = dispatch d line ps :=
  funext fun s => dispatch_cons_of_left (h s)

theorem dispatch_swap (h : p.Apart q) (d : Disk) (line : String) :
    dispatch d line (p :: q :: ps) = dispatch d line (q :: p :: ps) := by
  rcases h d line with hleft | hleft
  · rw [dispatch_of_left hleft, dispatch.eq_2 d line q (p :: ps), dispatch_of_left hleft, dispatch]
  · rw [dispatch_of_left hleft, dispatch.eq_2 d line p (q :: ps), dispatch_of_left hleft, dispatch]

theorem dispatch_perm (hperm : chain.Perm chain') (h : chain.Pairwise Processor.Apart) (d : Disk)
    (line : String) : dispatch d line chain = dispatch d line chain' := by
  induction hperm with
  | nil => rfl
  | cons p _ ih => rw [dispatch, dispatch, ih h.of_cons]
  | swap p q ps =>
    refine dispatch_swap ?_ d line
    exact (List.pairwise_cons.1 h).1 p (by simp)
  | trans hfirst _ ih ih' =>
    exact (ih h).trans (ih' (h.perm hfirst fun h => h.symm))

theorem scanLines_congr (h : ∀ line, dispatch d line chain = dispatch d line chain')
    (lines : List String) : scanLines chain d lines = scanLines chain' d lines := by
  induction lines with
  | nil => rfl
  | cons line lines ih => rw [scanLines, scanLines, h, ih]

theorem analyseText_perm (hperm : chain.Perm chain') (h : chain.Pairwise Processor.Apart) (d : Disk)
    (text : String) (script : Option String) :
    analyseText chain d text script = analyseText chain' d text script := by
  funext s
  rw [analyseText, analyseText, analyseLines, analyseLines,
    scanLines_congr (dispatch_perm hperm h d)]

theorem pairwise_apart_chainOf (r : Resolver σ) (root : Option Path) {dirs : List Directive}
    (h : dirs.Nodup) : (chainOf r root dirs).Pairwise Processor.Apart :=
  List.pairwise_map.2 (h.imp fun hne => Processor.apart_of_ne r root hne)

/-- The four processors come to the same in any order, whatever the resolver keeps to itself. -/
theorem analyseText_reordered {r : Resolver σ}
    (hchain : chain = localChain r ∨ ∃ inside, chain = serverChain r inside)
    (hperm : chain'.Perm chain) (d : Disk) (text : String) (script : Option String) (s : σ) :
    analyseText chain' d text script s = analyseText chain d text script s := by
  have hall : Directive.all.Nodup := by decide
  have hapart : chain.Pairwise Processor.Apart := by
    rcases hchain with rfl | ⟨inside, rfl⟩
    · exact pairwise_apart_chainOf r none hall
    · exact pairwise_apart_chainOf r (some inside) hall
  rw [analyseText_perm hperm.symm hapart]

def Resolver.counting : Resolver Nat :=
  ⟨fun _ name n =>
    if name = "Known" then .ok "/lib.dll" (n + 1)
    else .error (.unresolvable ⟨name, none, "not known"⟩) (n + 1)⟩

theorem analyseText_reordered_reverse :
    (localChain Resolver.counting).reverse.Perm (localChain Resolver.counting) ∧
      analyseText (localChain Resolver.counting).reverse ⟨.empty, []⟩
          "//#ref Known\nRun();\n//#ref Lost\n//#ref Known\n" none 0 =
        .error (.unresolvable ⟨"Lost", some "//#ref Lost", "not known"⟩) 2 := by
  have hperm := List.reverse_perm (localChain Resolver.counting)
  refine ⟨hperm, ?_⟩
  rw [analyseText_reordered (.inl rfl) hperm]
  rfl

end Order

end BuildScripts

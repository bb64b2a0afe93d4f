import BuildScripts.Build.Discovery
import BuildScripts.Proofs.Disk.Proper
import BuildScripts.Proofs.Patterns

namespace BuildScripts

open Attempt
open Glob

variable {t : Tree} {d : Disk} {root : Path} {c : Config} {l : Location} {names : List String}

theorem namesBelow_eq_some_iff {root l : Location} : namesBelow? root l = some names ↔
    names ≠ [] ∧ l = names.reverse ++ root := by
  rw [namesBelow?]
  constructor
  · intro h
    split at h
    · cases h
    · split at h
      · rename_i hlength hdrop
        cases h
        constructor
        · simp only [ne_eq, List.reverse_eq_nil_iff, List.take_eq_nil_iff, not_or]
          exact ⟨by omega, by rintro rfl; simp at hlength⟩
        · rw [List.reverse_reverse]
          calc l = l.take (l.length - root.length) ++ l.drop (l.length - root.length) :=
                (List.take_append_drop _ l).symm
            _ = l.take (l.length - root.length) ++ root := by rw [hdrop]
      · cases h
  · rintro ⟨hne, rfl⟩
    have hlength : (names.reverse ++ root).length - root.length = names.reverse.length := by simp
    rw [hlength, if_neg, if_pos, List.take_left, List.reverse_reverse]
    · exact List.drop_left
    · have := List.length_pos_of_ne_nil hne
      simp
      omega

theorem Tree.Grounded.isReached (hg : t.Grounded) {name : String}
    (h : t.get? (name :: names ++ l) ≠ none) : isReached t l (name :: names ++ l) = true := by
  induction names generalizing name with
  | nil => simp [BuildScripts.isReached]
  | cons next names ih =>
    have hd : t.get? (next :: names ++ l) = some .directory := hg name _ h
    rw [List.cons_append, BuildScripts.isReached, hd, ih (by rw [hd]; simp), Bool.or_true]

theorem mem_waysBelow_iff (hg : t.Grounded) : names ∈ waysBelow t l ↔
    names ≠ [] ∧ t.get? (names.reverse ++ l) ≠ none := by
  rw [waysBelow, List.mem_filterMap]
  constructor
  · rintro ⟨⟨k, e⟩, hmem, hk⟩
    dsimp only at hk
    split at hk
    · obtain ⟨hne, rfl⟩ := namesBelow_eq_some_iff.1 hk
      obtain ⟨name, rest, hrest⟩ := List.exists_cons_of_ne_nil (by simpa using hne :
        names.reverse ≠ [])
      rw [hrest, List.cons_append] at hmem ⊢
      exact ⟨hne, Tree.get?_ne_none_iff.2 ⟨e, hmem⟩⟩
    · cases hk
  · rintro ⟨hne, hget⟩
    obtain ⟨name, rest, hrest⟩ := List.exists_cons_of_ne_nil (by simpa using hne :
      names.reverse ≠ [])
    have hreached : isReached t l (names.reverse ++ l) = true := by
      rw [hrest] at hget ⊢
      exact hg.isReached hget
    have hnames : namesBelow? l (names.reverse ++ l) = some names :=
      namesBelow_eq_some_iff.2 ⟨hne, rfl⟩
    rw [hrest, List.cons_append] at hget hreached hnames
    obtain ⟨e, he⟩ := Tree.get?_ne_none_iff.1 hget
    refine ⟨_, he, ?_⟩
    simp only [hreached, if_true]
    exact hnames

section Filter

variable {α : Type} {test : α → Except Fault Bool} {xs ys : List α}

theorem filterAttempt_cons_eq_ok {x : α} : filterAttempt test (x :: xs) = .ok ys ↔
    ∃ keep rest, test x = .ok keep ∧ filterAttempt test xs = .ok rest ∧
      ys = if keep then x :: rest else rest := by
  constructor
  · intro h
    obtain ⟨keep, hx, h⟩ := except_bind_eq_ok.1 h
    obtain ⟨rest, hrest, h⟩ := except_bind_eq_ok.1 h
    cases h
    exact ⟨keep, rest, hx, hrest, rfl⟩
  · rintro ⟨keep, rest, hx, hrest, rfl⟩
    exact except_bind_eq_ok.2 ⟨keep, hx, except_bind_eq_ok.2 ⟨rest, hrest, rfl⟩⟩

theorem mem_of_filterAttempt (h : filterAttempt test xs = .ok ys) (x : α) :
    x ∈ ys ↔ x ∈ xs ∧ test x = .ok true := by
  induction xs generalizing ys with
  | nil =>
    cases h
    simp
  | cons first xs ih =>
    obtain ⟨keep, rest, hfirst, hrest, rfl⟩ := filterAttempt_cons_eq_ok.1 h
    rw [List.mem_cons]
    cases keep with
    | true =>
      rw [if_pos rfl, List.mem_cons, ih hrest]
      constructor
      · rintro (rfl | ⟨hmem, htest⟩)
        · exact ⟨.inl rfl, hfirst⟩
        · exact ⟨.inr hmem, htest⟩
      · rintro ⟨rfl | hmem, htest⟩
        · exact .inl rfl
        · exact .inr ⟨hmem, htest⟩
    | false =>
      rw [if_neg (by simp), ih hrest]
      constructor
      · rintro ⟨hmem, htest⟩
        exact ⟨.inr hmem, htest⟩
      · rintro ⟨rfl | hmem, htest⟩
        · rw [hfirst] at htest
          cases htest
        · exact ⟨hmem, htest⟩

end Filter

theorem filesBelow_eq_nil {files : List String} (hdir : d.isDirectory root ≠ .ok true)
    (h : filesBelow d root = .ok files) : files = [] := by
  obtain ⟨found, hfound, h⟩ := except_bind_eq_ok.1 h
  cases found with
  | true => exact absurd hfound hdir
  | false =>
    cases h
    rfl

theorem discover_eq_ok_iff {rels : List String} : discover d root c = .ok rels ↔ ∃ files kept,
    filesBelow d root = .ok files ∧ filterAttempt (isSelected c) files = .ok kept ∧
      rels = byCodePoint kept := by
  constructor
  · intro h
    obtain ⟨files, hfiles, h⟩ := except_bind_eq_ok.1 h
    obtain ⟨kept, hkept, h⟩ := except_bind_eq_ok.1 h
    cases h
    exact ⟨files, kept, hfiles, hkept, rfl⟩
  · rintro ⟨files, kept, hfiles, hkept, rfl⟩
    exact except_bind_eq_ok.2 ⟨files, hfiles, except_bind_eq_ok.2 ⟨kept, hkept, rfl⟩⟩

namespace Disk

/-- A file lies below a root, on the way of the given names through directories. -/
def FileBelow (d : Disk) (root : Path) (names : List String) : Prop :=
  ∃ l, d.find root = .ok (l, .directory) ∧ names ≠ [] ∧ d.tree.get? (names.reverse ++ l) ≠ none ∧
    d.isFile (root.descend names) = .ok true

theorem filesBelow_eq_ok_iff (hn : root.hasNull = false) (hf : d.find root = .ok (l, .directory))
    {files : List String} : filesBelow d root = .ok files ↔ isNestedTooDeep d.tree l = false ∧
      ∃ ways, filterAttempt (fun names => d.isFile (root.descend names)) (waysBelow d.tree l) =
        .ok ways ∧ files = ways.map relativeText := by
  have hdir : d.isDirectory root = .ok true := testEntry_eq_true_iff.2 ⟨hn, l, .directory, hf, rfl⟩
  have hjoin : ∀ names, root.join ⟨.relative, names⟩ = root.descend names := fun _ => rfl
  simp only [filesBelow, waysWalked, hdir, hf, bind, Except.bind, if_true, pure, Except.pure, hjoin]
  cases hdeep : isNestedTooDeep d.tree l with
  | true => simp
  | false =>
    cases hways : filterAttempt (fun names => d.isFile (root.descend names))
        (waysBelow d.tree l) with
    | error f => simp [hways]
    | ok ways => simp [hways, eq_comm]

theorem mem_filesBelow (hg : d.tree.Grounded) {files : List String}
    (h : filesBelow d root = .ok files) (rel : String) :
    rel ∈ files ↔ ∃ names, rel = relativeText names ∧ d.FileBelow root names := by
  have hnull : ∀ {names}, d.isFile (root.descend names) = .ok true → root.hasNull = false :=
    fun hfile => (Path.hasNull_descend.1 (testEntry_eq_true_iff.1 hfile).1).1
  have hnone (hd : ¬ d.isDirectory root = .ok true) :
      ¬ ∃ names, rel = relativeText names ∧ d.FileBelow root names := by
    rintro ⟨names, -, l, hl, -, -, hfile⟩
    exact hd (testEntry_eq_true_iff.2 ⟨hnull hfile, l, .directory, hl, rfl⟩)
  by_cases hdir : d.isDirectory root = .ok true
  · obtain ⟨hn, l, e, hl, he⟩ := testEntry_eq_true_iff.1 hdir
    cases e with
    | directory =>
      obtain ⟨-, ways, hways, rfl⟩ := (filesBelow_eq_ok_iff hn hl).1 h
      rw [List.mem_map]
      constructor
      · rintro ⟨names, hmem, rfl⟩
        obtain ⟨hway, hfile⟩ := (mem_of_filterAttempt hways names).1 hmem
        obtain ⟨hne, hget⟩ := (mem_waysBelow_iff hg).1 hway
        exact ⟨names, rfl, l, hl, hne, hget, hfile⟩
      · rintro ⟨names, rfl, l', hl', hne, hget, hfile⟩
        obtain rfl : l = l' := by
          rw [hl] at hl'
          cases hl'
          rfl
        exact ⟨names, (mem_of_filterAttempt hways names).2
          ⟨(mem_waysBelow_iff hg).2 ⟨hne, hget⟩, hfile⟩, rfl⟩
    | _ => cases he
  · rw [filesBelow_eq_nil hdir h]
    simp [hnone hdir]

theorem mem_discover (hg : d.tree.Grounded) {rels : List String}
    (h : discover d root c = .ok rels) (rel : String) :
    rel ∈ rels ↔ isSelected c rel = .ok true ∧
      ∃ names, rel = relativeText names ∧ d.FileBelow root names := by
  obtain ⟨files, kept, hfiles, hkept, rfl⟩ := discover_eq_ok_iff.1 h
  rw [byCodePoint, List.mem_mergeSort, mem_of_filterAttempt hkept, mem_filesBelow hg hfiles, and_comm]

end Disk

def Tree.Slashless (t : Tree) : Prop :=
  ∀ name l, t.get? (name :: l) ≠ none → BuildScripts.Slashless name

theorem Tree.Grounded.forall_mem {P : String → Prop}
    (hP : ∀ name l, t.get? (name :: l) ≠ none → P name) (hg : t.Grounded)
    (h : t.get? (names ++ l) ≠ none) : ∀ name ∈ names, P name := by
  induction names with
  | nil => exact List.forall_mem_nil _
  | cons name names ih =>
    have hd : t.get? (names ++ l) = some .directory := hg name _ h
    exact List.forall_mem_cons.2 ⟨hP name _ h, ih (by rw [hd]; simp)⟩

def Tree.isSlashless (t : Tree) : Bool :=
  t.entries.all fun (l, _) => l.all fun name => decide (BuildScripts.Slashless name)

theorem Tree.slashless_of_isSlashless (h : t.isSlashless = true) : t.Slashless := by
  intro name l hl
  obtain ⟨e, he⟩ := get?_ne_none_iff.1 hl
  exact of_decide_eq_true (List.all_eq_true.1 (List.all_eq_true.1 h _ he) name List.mem_cons_self)

theorem Disk.FileBelow.forall_mem {P : String → Prop}
    (hP : ∀ name l, d.tree.get? (name :: l) ≠ none → P name) (h : d.FileBelow root names)
    (hg : d.tree.Grounded) : ∀ name ∈ names, P name := by
  obtain ⟨l, -, -, hget, -⟩ := h
  intro name hmem
  exact hg.forall_mem hP hget name (List.mem_reverse.2 hmem)

def IsScriptName (name : String) : Prop :=
  ∃ ending ∈ Config.scriptEndings, ∃ stem, name = stem ++ ending

section BuiltIn

variable {env : Environment} {excluded : List String} {dirs : List String} {last : String}

theorem included_iff :
    pathMatches (relativeText (dirs ++ [last])) Config.defaultIncluded = true ↔
      IsScriptName last := by
  have hendings : ∀ ending ∈ Config.scriptEndings,
      IsPlain ending.toList ∧ Slashless ending := by decide +kernel
  have hmatch : pathMatches (relativeText (dirs ++ [last])) Config.defaultIncluded = true ↔
      ∃ expanded, (∃ p ∈ Config.defaultIncluded, expanded ∈ expandBraces p) ∧
        accepts expanded (relativeText (dirs ++ [last])) = true := by
    rw [pathMatches_iff]
    constructor
    · rintro ⟨p, hp, expanded, he, ha⟩
      exact ⟨expanded, ⟨p, hp, he⟩, ha⟩
    · rintro ⟨expanded, ⟨p, hp, he⟩, ha⟩
      exact ⟨p, hp, expanded, he, ha⟩
  rw [hmatch]
  simp only [Config.expand_included]
  constructor
  · rintro ⟨pattern, ⟨ending, hmem, rfl | rfl⟩, ha⟩
    · obtain ⟨hplain, hslash⟩ := hendings ending hmem
      exact ⟨ending, hmem, (Path.at_end_iff hslash).1 ((accepts_ending_iff hplain).1 ha)⟩
    · obtain ⟨hplain, hslash⟩ := hendings ending hmem
      exact ⟨ending, hmem, (Path.at_end_iff hslash).1 (ending_of_accepts hplain ha)⟩
  · rintro ⟨ending, hmem, hlast⟩
    obtain ⟨hplain, hslash⟩ := hendings ending hmem
    exact ⟨_, ⟨ending, hmem, .inl rfl⟩,
      (accepts_ending_iff hplain).2 ((Path.at_end_iff hslash).2 hlast)⟩

theorem isSelected_iff (hc : c.BuiltIn env excluded)
    (hs : ∀ part ∈ dirs ++ [last], Slashless part) :
    isSelected c (relativeText (dirs ++ [last])) = .ok true ↔
      IsScriptName last ∧ (∀ name ∈ dirs.tail, insideAny name ∉ excluded) ∧
        ∀ name, dirs.head? = some name → below name ∉ excluded := by
  obtain ⟨hinc, hexc⟩ := hc.patterns
  have hincluded : Config.patternsOf (.texts Config.defaultIncluded) = .ok Config.defaultIncluded :=
    Config.patternsOf_texts (by decide +kernel)
  rw [isSelected, hinc, hexc, hincluded, hc.patternsOf_excluded]
  change Except.ok (isIncluded _ _ _) = .ok true ↔ _
  rw [Except.ok.injEq, isIncluded, Bool.and_eq_true, Bool.not_eq_true', included_iff,
    ← Bool.not_eq_true, relativeText, pathMatches_bars_iff hc.bars hs]
  simp only [not_or, not_exists, not_and]

/-- What is discovered with built-in patterns: the files below the root with the ending of a script,
without those whose way leads through a directory of a barred name. The patterns for a name in any
directory bar no directory that stands in the root. -/
theorem mem_discover_builtIn (hg : d.tree.Grounded) (hs : d.tree.Slashless)
    (hc : c.BuiltIn env excluded) {rels : List String} (h : discover d root c = .ok rels)
    (rel : String) :
    rel ∈ rels ↔ ∃ dirs last, rel = relativeText (dirs ++ [last]) ∧
      d.FileBelow root (dirs ++ [last]) ∧ IsScriptName last ∧
      (∀ name ∈ dirs.tail, insideAny name ∉ excluded) ∧
      ∀ name, dirs.head? = some name → below name ∉ excluded := by
  rw [Disk.mem_discover hg h]
  constructor
  · rintro ⟨hselected, names, rfl, hfile⟩
    obtain ⟨-, -, hne, -⟩ := id hfile
    obtain ⟨dirs, last, rfl⟩ := (List.eq_nil_or_concat' names).resolve_left hne
    exact ⟨dirs, last, rfl, hfile, (isSelected_iff hc (hfile.forall_mem hs hg)).1 hselected⟩
  · rintro ⟨dirs, last, rfl, hfile, hrest⟩
    exact ⟨(isSelected_iff hc (hfile.forall_mem hs hg)).2 hrest, _, rfl, hfile⟩

def repositoryDisk : Disk :=
  ⟨⟨[([".git"], .directory), (["x.py", ".git"], .file .empty), (["a"], .directory),
    ([".git", "a"], .directory), (["y.py", ".git", "a"], .file .empty), (["a.py"], .file .empty)]⟩,
    []⟩

theorem mem_discover_repository : ∃ rels,
    discover repositoryDisk .here (Config.default []) = .ok rels ∧ ".git/x.py" ∈ rels := by
  have hg : repositoryDisk.tree.Grounded := Tree.grounded_of_isGrounded (by decide +kernel)
  have hs : repositoryDisk.tree.Slashless := Tree.slashless_of_isSlashless (by decide +kernel)
  have hdiscover : (discover repositoryDisk .here (Config.default [])).isOk = true := by
    decide +kernel
  cases h : discover repositoryDisk .here (Config.default []) with
  | error f =>
    rw [h] at hdiscover
    cases hdiscover
  | ok rels =>
    have hbuiltIn : Config.BuiltIn [] (Config.default []) Config.initialExcluded := .default
    refine ⟨rels, rfl, (mem_discover_builtIn hg hs hbuiltIn h _).2 ?_⟩
    refine ⟨[".git"], "x.py", by decide +kernel, ⟨[], rfl, by decide, by decide +kernel, rfl⟩,
      ⟨".py", by decide, "x", by decide +kernel⟩, by decide, ?_⟩
    rintro name hname
    cases hname
    decide +kernel

end BuiltIn

end BuildScripts

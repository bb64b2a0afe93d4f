import BuildScripts.Proofs.Build.Again

namespace BuildScripts

open Attempt
open Glob

section Filter

variable {α : Type} {test : α → Except Fault Bool} {xs : List α}

theorem exists_filterAttempt_iff : (∃ ys, filterAttempt test xs = .ok ys) ↔
    ∀ x ∈ xs, ∃ keep, test x = .ok keep := by
  constructor
  · rintro ⟨ys, h⟩ x hx
    exact tested_of_filterAttempt h hx
  · intro h
    induction xs with
    | nil => exact ⟨[], rfl⟩
    | cons x xs ih =>
      obtain ⟨⟨keep, hkeep⟩, hxs⟩ := List.forall_mem_cons.1 h
      obtain ⟨rest, hrest⟩ := ih hxs
      exact ⟨_, filterAttempt_cons_eq_ok.2 ⟨keep, rest, hkeep, hrest, rfl⟩⟩

end Filter

section Patterns

variable {c : Config} {included excluded patterns : List String} {rel : String}

theorem Config.exists_patternsOf_iff : (∃ ps, patternsOf (.texts patterns) = .ok ps) ↔
    ∀ p ∈ patterns, isTooDeep p = false := by
  constructor
  · rintro ⟨ps, h⟩ p hp
    cases hdeep : isTooDeep p with
    | false => rfl
    | true =>
      rw [patternsOf_texts_of_tooDeep ⟨p, hp, hdeep⟩] at h
      cases h
  · intro h
    exact ⟨patterns, patternsOf_texts h⟩

theorem isSelected_of_texts (hinc : c.included = .texts included)
    (hexc : c.excluded = .texts excluded)
    (h : ∀ p ∈ included ++ excluded, isTooDeep p = false) (rel : String) :
    isSelected c rel = .ok (isIncluded rel included excluded) := by
  have hincluded := Config.patternsOf_texts fun p hp => h p (List.mem_append_left _ hp)
  have hexcluded := Config.patternsOf_texts fun p hp => h p (List.mem_append_right _ hp)
  rw [isSelected, hinc, hexc, hincluded, hexcluded]
  rfl

theorem exists_isSelected_iff (hinc : c.included = .texts included)
    (hexc : c.excluded = .texts excluded) (rel : String) :
    (∃ keep, isSelected c rel = .ok keep) ↔ ∀ p ∈ included ++ excluded, isTooDeep p = false := by
  constructor
  · rintro ⟨keep, h⟩
    rw [isSelected, hinc, hexc] at h
    obtain ⟨ps, hps, h⟩ := except_bind_eq_ok.1 h
    obtain ⟨qs, hqs, -⟩ := except_bind_eq_ok.1 h
    have hincluded := Config.exists_patternsOf_iff.1 ⟨ps, hps⟩
    have hexcluded := Config.exists_patternsOf_iff.1 ⟨qs, hqs⟩
    intro p hp
    exact (List.mem_append.1 hp).elim (hincluded p) (hexcluded p)
  · intro h
    exact ⟨_, isSelected_of_texts hinc hexc h rel⟩

def Matched (patterns : List String) (rel : String) : Prop :=
  ∃ p ∈ patterns, ∃ e ∈ expandBraces p, accepts e rel = true

instance : Decidable (Matched patterns rel) :=
  inferInstanceAs (Decidable (∃ p ∈ patterns, ∃ e ∈ expandBraces p, accepts e rel = true))

theorem isIncluded_iff : isIncluded rel included excluded = true ↔
    Matched included rel ∧ ¬ Matched excluded rel := by
  rw [isIncluded, Bool.and_eq_true, Bool.not_eq_true', ← Bool.not_eq_true, pathMatches_iff,
    pathMatches_iff]
  rfl

end Patterns

namespace Disk

variable {d : Disk} {root : Path} {names : List String} {e : Entry}

/-- A path is refused because it is too long, or one of the names and links on its way is. -/
def TooLong (d : Disk) (p : Path) : Prop :=
  p.hasNull = false ∧ d.find p = .error .nameTooLong

theorem exists_testEntry_iff {test : Entry → Bool} {p : Path} :
    (∃ found, d.testEntry test p = .ok found) ↔ ¬ d.TooLong p := by
  rw [testEntry, TooLong]
  cases p.hasNull with
  | true => simp
  | false =>
    cases hf : d.find p with
    | error why => cases why <;> simp
    | ok found =>
      obtain ⟨l, e⟩ := found
      simp

theorem targetParts_of_slashless {target : String} (hs : Slashless target) (hne : target ≠ "") :
    targetParts target = [target] := by
  have hend : Text.endsWith "/" target = false := by
    rw [Bool.eq_false_iff, Text.endsWith]
    intro h
    have hslash := (List.isSuffixOf_iff_suffix.1 h).subset
    exact hs (hslash (by decide))
  rw [targetParts, Path.pieces_of_slashless hs, hend]
  simp [hne]

theorem tooLong_of_link {p : Path} {holder : Location} {target : String} (hn : p.hasNull = false)
    (hshort : p.toText.utf8ByteSize ≤ longestPath)
    (hlink : stride d.tree .target (d.start p) p.parts = .link holder target [])
    (hs : Slashless target) (hlong : longestName < target.utf8ByteSize) : d.TooLong p := by
  have hname : IsName target := by
    constructor <;>
    · rintro rfl
      revert hlong
      decide
  have hwalk : walk d.tree .target linkBudget (d.start p) p.parts = .error .nameTooLong := by
    rw [linkBudget, walk_of_link hlink, targetParts_of_slashless hs hname.notEmpty]
    exact walk_of_refused (stride_long (by simp) hname hlong)
  refine ⟨hn, ?_⟩
  rw [find, seek_of_short hshort, hwalk]

def LiesBelow (d : Disk) (root : Path) (names : List String) (e : Entry) : Prop :=
  root.hasNull = false ∧ ∃ l, d.find root = .ok (l, .directory) ∧ names ≠ [] ∧
    d.tree.get? (names.reverse ++ l) = some e ∧
    ∀ before after, names = before ++ after → after ≠ [] →
      d.tree.get? (before.reverse ++ l) = some .directory

theorem liesBelow_iff (hg : d.tree.Grounded) {l : Location} (hn : root.hasNull = false)
    (hl : d.find root = .ok (l, .directory)) :
    d.LiesBelow root names e ↔ names ≠ [] ∧ d.tree.get? (names.reverse ++ l) = some e := by
  constructor
  · rintro ⟨-, l', hl', hne, hget, -⟩
    rw [hl] at hl'
    cases hl'
    exact ⟨hne, hget⟩
  · rintro ⟨hne, hget⟩
    refine ⟨hn, l, hl, hne, hget, ?_⟩
    rintro before after rfl hafter
    have hthere : d.tree.get? (after.reverse ++ (before.reverse ++ l)) ≠ none := by
      rw [← List.append_assoc, ← List.reverse_append, hget]
      exact Option.some_ne_none e
    exact hg.of_append hthere (by simpa using hafter)

theorem fileBelow_iff (hg : d.tree.Grounded) : d.FileBelow root names ↔
    (∃ e, d.LiesBelow root names e) ∧ d.isFile (root.descend names) = .ok true := by
  constructor
  · rintro ⟨l, hl, hne, hget, hfile⟩
    obtain ⟨e, he⟩ := Option.ne_none_iff_exists'.1 hget
    have hn := (Path.hasNull_descend.1 (testEntry_eq_true_iff.1 hfile).1).1
    exact ⟨⟨e, (liesBelow_iff hg hn hl).2 ⟨hne, he⟩⟩, hfile⟩
  · rintro ⟨⟨e, -, l, hl, hne, hget, -⟩, hfile⟩
    exact ⟨l, hl, hne, by simp [hget], hfile⟩

theorem LiesBelow.ofText_eq (h : d.LiesBelow root names e) (hd : d.Proper)
    (hs : d.tree.Slashless) : Path.ofText (relativeText names) = ⟨.relative, names⟩ := by
  obtain ⟨-, l, -, hne, hget, -⟩ := h
  have hthere : d.tree.get? (names.reverse ++ l) ≠ none := by simp [hget]
  exact ofText_relativeText hne
    (fun name hm => hd.grounded.forall_mem hs hthere name (List.mem_reverse.2 hm))
    (fun name hm =>
      (hd.grounded.forall_mem hd.tree.named hthere name (List.mem_reverse.2 hm)).isName)

/-- A walk below a root meets no path that is too long to be looked up, and no directory that is
nested too deep to be entered. -/
structure Walkable (d : Disk) (root : Path) : Prop where
  start : ¬ d.TooLong root
  short : ∀ names e, d.LiesBelow root names e → ¬ d.TooLong (root.descend names)
  shallow : ∀ names, d.LiesBelow root names .directory → names.length ≤ mostNested

theorem isNestedTooDeep_eq_false_iff (hg : d.tree.Grounded) {l : Location}
    (hn : root.hasNull = false) (hl : d.find root = .ok (l, .directory)) :
    isNestedTooDeep d.tree l = false ↔
      ∀ names, d.LiesBelow root names .directory → names.length ≤ mostNested := by
  rw [isNestedTooDeep, List.any_eq_false]
  constructor
  · intro h names hlies
    obtain ⟨hne, hget⟩ := (liesBelow_iff hg hn hl).1 hlies
    have hway := h names ((mem_waysBelow_iff hg).2 ⟨hne, by simp [hget]⟩)
    simpa [hget, Entry.isDirectory] using hway
  · intro h names hway
    obtain ⟨hne, -⟩ := (mem_waysBelow_iff hg).1 hway
    cases hget : d.tree.get? (names.reverse ++ l) with
    | none => simp
    | some e =>
      cases e with
      | directory =>
        simpa [Entry.isDirectory] using h names ((liesBelow_iff hg hn hl).2 ⟨hne, hget⟩)
      | _ => simp [Entry.isDirectory]

theorem exists_filesBelow_of_find (hg : d.tree.Grounded) {l : Location}
    (hn : root.hasNull = false) (hl : d.find root = .ok (l, .directory)) :
    (∃ files, filesBelow d root = .ok files) ↔ d.Walkable root := by
  have hdeep := isNestedTooDeep_eq_false_iff hg hn hl
  have hdir : d.isDirectory root = .ok true := testEntry_eq_true_iff.2 ⟨hn, l, .directory, hl, rfl⟩
  have hstart : ¬ d.TooLong root := exists_testEntry_iff.1 ⟨true, hdir⟩
  simp only [filesBelow_eq_ok_iff hn hl]
  constructor
  · rintro ⟨files, hshallow, ways, hways, -⟩
    refine ⟨hstart, ?_, hdeep.1 hshallow⟩
    intro names e hlies
    obtain ⟨hne, hget⟩ := (liesBelow_iff hg hn hl).1 hlies
    have hway : names ∈ waysBelow d.tree l := (mem_waysBelow_iff hg).2 ⟨hne, by simp [hget]⟩
    exact exists_testEntry_iff.1 (tested_of_filterAttempt hways hway)
  · intro h
    have htested : ∀ names ∈ waysBelow d.tree l,
        ∃ found, d.isFile (root.descend names) = .ok found := by
      intro names hway
      obtain ⟨hne, hget⟩ := (mem_waysBelow_iff hg).1 hway
      obtain ⟨e, he⟩ := Option.ne_none_iff_exists'.1 hget
      exact exists_testEntry_iff.2 (h.short names e ((liesBelow_iff hg hn hl).2 ⟨hne, he⟩))
    obtain ⟨ways, hways⟩ := exists_filterAttempt_iff.2 htested
    exact ⟨_, hdeep.2 h.shallow, ways, hways, rfl⟩

theorem exists_filesBelow_iff (hg : d.tree.Grounded) :
    (∃ files, filesBelow d root = .ok files) ↔ d.Walkable root := by
  by_cases hdir : d.isDirectory root = .ok true
  · obtain ⟨hn, l, e, hl, he⟩ := testEntry_eq_true_iff.1 hdir
    cases e with
    | directory => exact exists_filesBelow_of_find hg hn hl
    | _ => cases he
  -- Nothing lies below what is no directory.
  have hnothing : ∀ names e, ¬ d.LiesBelow root names e := by
    rintro names e ⟨hn, l, hl, -⟩
    exact hdir (testEntry_eq_true_iff.2 ⟨hn, l, _, hl, rfl⟩)
  cases hd : d.isDirectory root with
  | error f =>
    constructor
    · rintro ⟨files, h⟩
      simp [filesBelow, hd, bind, Except.bind] at h
    · intro h
      obtain ⟨found, hfound⟩ := exists_testEntry_iff.2 h.start
      rw [isDirectory, hfound] at hd
      cases hd
  | ok found =>
    obtain rfl : found = false := by simpa [hd] using hdir
    constructor
    · rintro -
      exact ⟨exists_testEntry_iff.1 ⟨false, hd⟩, fun names e h => absurd h (hnothing names e),
        fun names h => absurd h (hnothing names _)⟩
    · rintro -
      exact ⟨[], by simp [filesBelow, hd, bind, Except.bind, pure, Except.pure]⟩

end Disk

section Discover

variable {d : Disk} {root : Path} {c : Config} {included excluded rels : List String}

theorem pairwise_discover (hd : d.Proper) (hs : d.tree.Slashless)
    (h : discover d root c = .ok rels) : rels.Pairwise (· < ·) := by
  have hnodup := nodup_discover hd hs h
  obtain ⟨files, kept, -, -, rfl⟩ := discover_eq_ok_iff.1 h
  exact Tree.pairwise_mergeSort_of_nodup ((List.mergeSort_perm kept _).nodup_iff.1 hnodup)

theorem exists_discover_iff (hg : d.tree.Grounded) (hinc : c.included = .texts included)
    (hexc : c.excluded = .texts excluded) : (∃ rels, discover d root c = .ok rels) ↔
      d.Walkable root ∧ ((∃ names, d.FileBelow root names) →
        ∀ p ∈ included ++ excluded, isTooDeep p = false) := by
  constructor
  · rintro ⟨rels, h⟩
    obtain ⟨files, kept, hfiles, hkept, -⟩ := discover_eq_ok_iff.1 h
    refine ⟨(Disk.exists_filesBelow_iff hg).1 ⟨files, hfiles⟩, ?_⟩
    rintro ⟨names, hfile⟩
    have hmem := (Disk.mem_filesBelow hg hfiles (relativeText names)).2 ⟨names, rfl, hfile⟩
    exact (exists_isSelected_iff hinc hexc _).1 (tested_of_filterAttempt hkept hmem)
  · rintro ⟨hwalk, hdeep⟩
    obtain ⟨files, hfiles⟩ := (Disk.exists_filesBelow_iff hg).2 hwalk
    obtain ⟨kept, hkept⟩ := exists_filterAttempt_iff.2 fun rel hrel => by
      obtain ⟨names, -, hfile⟩ := (Disk.mem_filesBelow hg hfiles rel).1 hrel
      exact (exists_isSelected_iff hinc hexc rel).2 (hdeep ⟨names, hfile⟩)
    exact ⟨_, discover_eq_ok_iff.2 ⟨files, kept, hfiles, hkept, rfl⟩⟩

/-- What is discovered with lists of patterns, and when discovery comes to an end with a result:
every regular file below the root that an including pattern matches and no excluding one, in the
order of code points and once. It fails where a path to anything below the root is too long, be the
file or link there ever so far from what the patterns take, where directories are nested too deep,
or where a pattern has more groups than are expanded. -/
theorem discover_found (hd : d.Proper) (hs : d.tree.Slashless)
    (hinc : c.included = .texts included) (hexc : c.excluded = .texts excluded) (root : Path) :
    (∀ rels, discover d root c = .ok rels → rels.Pairwise (· < ·) ∧
      ∀ rel, rel ∈ rels ↔ (∃ names e, rel = relativeText names ∧ d.LiesBelow root names e) ∧
        d.isFile (root.join (Path.ofText rel)) = .ok true ∧
        Matched included rel ∧ ¬ Matched excluded rel) ∧
    ((∃ rels, discover d root c = .ok rels) ↔
      d.Walkable root ∧ ((∃ names, d.FileBelow root names) →
        ∀ p ∈ included ++ excluded, isTooDeep p = false)) := by
  refine ⟨fun rels h => ⟨pairwise_discover hd hs h, fun rel => ?_⟩,
    exists_discover_iff hd.grounded hinc hexc⟩
  -- Patterns are expanded only where there is a file, so that is all that can be said of them.
  have hdeep := ((exists_discover_iff hd.grounded hinc hexc).1 ⟨rels, h⟩).2
  rw [Disk.mem_discover hd.grounded h]
  constructor
  · rintro ⟨hselected, names, rfl, hfile⟩
    rw [isSelected_of_texts hinc hexc (hdeep ⟨names, hfile⟩), Except.ok.injEq, isIncluded_iff]
      at hselected
    obtain ⟨⟨e, hlies⟩, hisFile⟩ := (Disk.fileBelow_iff hd.grounded).1 hfile
    refine ⟨⟨names, e, rfl, hlies⟩, ?_, hselected⟩
    rw [hlies.ofText_eq hd hs]
    exact hisFile
  · rintro ⟨⟨names, e, rfl, hlies⟩, hisFile, hmatched⟩
    rw [hlies.ofText_eq hd hs] at hisFile
    have hfile : d.FileBelow root names :=
      (Disk.fileBelow_iff hd.grounded).2 ⟨⟨e, hlies⟩, hisFile⟩
    refine ⟨?_, names, rfl, hfile⟩
    rw [isSelected_of_texts hinc hexc (hdeep ⟨names, hfile⟩), Except.ok.injEq, isIncluded_iff]
    exact hmatched

def linkedEntries : List (Location × Entry) :=
  [([".hidden"], .directory), (["x.py", ".hidden"], .file .empty), (["a.py"], .file .empty),
    (["b"], .directory), (["c.py", "b"], .file .empty), (["in"], .link "b"),
    (["d.py"], .link "a.py"), (["gone.py"], .link "nowhere"), (["loop.py"], .link "loop.py")]

def linkedConfig : Config :=
  { Config.default [] with included := .texts ["*.\x7bpy, cs\x7d"], excluded := .texts ["b/*"] }

def longName : String := String.ofList (List.replicate 256 'a')

theorem discover_found_linked :
    (∃ rels, discover ⟨⟨linkedEntries⟩, []⟩ .here linkedConfig = .ok rels ∧
      rels.Pairwise (· < ·) ∧ "d.py" ∈ rels ∧ ".hidden/x.py" ∈ rels ∧ "gone.py" ∉ rels ∧
        "b/c.py" ∉ rels) ∧
    ¬ ∃ rels, discover ⟨⟨linkedEntries ++ [(["far"], .link longName)]⟩, []⟩ .here linkedConfig =
      .ok rels := by
  constructor
  · let d : Disk := ⟨⟨linkedEntries⟩, []⟩
    have hd : d.Proper := ⟨Tree.proper_of_isProper (by decide +kernel), rfl⟩
    have hs : d.tree.Slashless := Tree.slashless_of_isSlashless (by decide +kernel)
    have hfiles : filesBelow d .here =
        .ok [".hidden/x.py", "a.py", "b/c.py", "d.py"] := by rfl
    have hwalk : d.Walkable .here := (Disk.exists_filesBelow_iff hd.grounded).1 ⟨_, hfiles⟩
    obtain ⟨hexact, hends⟩ := discover_found (c := linkedConfig) hd hs rfl rfl .here
    obtain ⟨rels, h⟩ := hends.2 ⟨hwalk, fun _ => by decide +kernel⟩
    obtain ⟨hsorted, hmem⟩ := hexact rels h
    have hlink : d.LiesBelow .here ["d.py"] (.link "a.py") :=
      (Disk.liesBelow_iff (l := []) hd.grounded rfl rfl).2 ⟨by decide, rfl⟩
    have hhidden : d.LiesBelow .here [".hidden", "x.py"] (.file .empty) :=
      (Disk.liesBelow_iff (l := []) hd.grounded rfl rfl).2 ⟨by decide, rfl⟩
    refine ⟨rels, h, hsorted, (hmem _).2 ⟨⟨_, _, rfl, hlink⟩, rfl, ?_⟩,
      (hmem _).2 ⟨⟨_, _, by decide +kernel, hhidden⟩, rfl, ?_⟩, fun hgone => ?_,
      fun hbarred => ?_⟩
    · decide +kernel
    · decide +kernel
    · have hfile := ((hmem _).1 hgone).2.1
      have hnone : d.isFile (Path.here.join (Path.ofText "gone.py")) = .ok false := rfl
      rw [hnone] at hfile
      cases hfile
    · exact ((hmem _).1 hbarred).2.2.2 (by decide +kernel)
  · let d : Disk := ⟨⟨linkedEntries ++ [(["far"], .link longName)]⟩, []⟩
    have htext : longName.toList = List.replicate 256 'a' := String.toList_ofList
    have hproper : d.tree.isProper = true := by
      simp only [d, Tree.isProper, linkedEntries, List.cons_append, List.nil_append, List.all_cons,
        htext]
      decide +kernel
    have hd : d.Proper := ⟨Tree.proper_of_isProper hproper, rfl⟩
    have hs : d.tree.Slashless := Tree.slashless_of_isSlashless (by decide +kernel)
    have hslashless : Slashless longName := by
      rw [Slashless, htext]
      decide +kernel
    have hfar : d.LiesBelow .here ["far"] (.link longName) :=
      (Disk.liesBelow_iff (l := []) hd.grounded rfl rfl).2 ⟨by decide, rfl⟩
    have hlong : d.TooLong (Path.here.descend ["far"]) :=
      Disk.tooLong_of_link rfl (by decide) rfl hslashless (by decide +kernel)
    intro h
    have hwalk := ((discover_found (c := linkedConfig) hd hs rfl rfl .here).2.1 h).1
    exact hwalk.short ["far"] _ hfar hlong

end Discover

end BuildScripts

import BuildScripts.Proofs.Build.Discovery
import BuildScripts.Proofs.Disk.Only

namespace BuildScripts

section Filter

variable {α : Type} {test test' : α → Except Fault Bool} {xs ys zs : List α}

theorem filterAttempt_append_eq_ok : filterAttempt test (xs ++ ys) = .ok zs ↔
    ∃ as bs, filterAttempt test xs = .ok as ∧ filterAttempt test ys = .ok bs ∧ zs = as ++ bs := by
  induction xs generalizing zs with
  | nil => simp [filterAttempt]
  | cons x xs ih =>
    rw [List.cons_append, filterAttempt_cons_eq_ok]
    constructor
    · rintro ⟨keep, rest, hx, hrest, rfl⟩
      obtain ⟨as, bs, has, hbs, rfl⟩ := ih.1 hrest
      refine ⟨_, bs, filterAttempt_cons_eq_ok.2 ⟨keep, as, hx, has, rfl⟩, hbs, ?_⟩
      split <;> rfl
    · rintro ⟨as, bs, has, hbs, rfl⟩
      obtain ⟨keep, rest, hx, hrest, rfl⟩ := filterAttempt_cons_eq_ok.1 has
      refine ⟨keep, rest ++ bs, hx, ih.2 ⟨rest, bs, hrest, hbs, rfl⟩, ?_⟩
      split <;> rfl

theorem tested_of_filterAttempt (h : filterAttempt test xs = .ok ys) {x : α} (hx : x ∈ xs) :
    ∃ keep, test x = .ok keep := by
  induction xs generalizing ys with
  | nil => cases hx
  | cons first xs ih =>
    obtain ⟨keep, rest, hfirst, hrest, -⟩ := filterAttempt_cons_eq_ok.1 h
    rcases List.mem_cons.1 hx with rfl | hx
    · exact ⟨keep, hfirst⟩
    · exact ih hrest hx

theorem filterAttempt_congr (h : ∀ x ∈ xs, test' x = test x) :
    filterAttempt test' xs = filterAttempt test xs := by
  induction xs with
  | nil => rfl
  | cons x xs ih =>
    obtain ⟨hx, hxs⟩ := List.forall_mem_cons.1 h
    rw [filterAttempt, filterAttempt, hx, ih hxs]

theorem filterAttempt_eq_nil (h : ∀ x ∈ xs, test x = .ok false) :
    filterAttempt test xs = .ok [] := by
  induction xs with
  | nil => rfl
  | cons x xs ih =>
    obtain ⟨hx, hxs⟩ := List.forall_mem_cons.1 h
    exact filterAttempt_cons_eq_ok.2 ⟨false, [], hx, ih hxs, rfl⟩

end Filter

theorem waysBelow_eq {t : Tree} (hg : t.Grounded) (l : Location) :
    waysBelow t l = (t.entries.map Prod.fst).filterMap (namesBelow? l) := by
  rw [waysBelow, List.filterMap_map]
  refine List.filterMap_congr ?_
  rintro ⟨k, e⟩ hmem
  cases hk : namesBelow? l k with
  | none => simp [hk]
  | some names =>
    obtain ⟨hne, rfl⟩ := namesBelow_eq_some_iff.1 hk
    obtain ⟨name, rest, hrest⟩ := List.exists_cons_of_ne_nil (by simpa using hne :
      names.reverse ≠ [])
    rw [hrest, List.cons_append] at hmem hk ⊢
    have hreached := hg.isReached (Tree.get?_ne_none_iff.2 ⟨e, hmem⟩)
    rw [List.cons_append] at hreached
    simp [hreached, hk]

theorem mem_keys_iff {t : Tree} {l : Location} {names : List String} (hne : names ≠ []) :
    names.reverse ++ l ∈ t.entries.map Prod.fst ↔ t.get? (names.reverse ++ l) ≠ none := by
  obtain ⟨name, rest, hrest⟩ := List.exists_cons_of_ne_nil (by simpa using hne :
    names.reverse ≠ [])
  rw [hrest, List.cons_append, Tree.get?_ne_none_iff, List.mem_map]
  constructor
  · rintro ⟨⟨k, e⟩, hmem, rfl⟩
    exact ⟨e, hmem⟩
  · rintro ⟨e, hmem⟩
    exact ⟨_, hmem, rfl⟩

variable {d d' : Disk} {root : Path} {c : Config} {l : Location} {names rels : List String}
  {places : Location → Prop}

def Disk.Hides (d : Disk) (root : Path) (c : Config) (places : Location → Prop) : Prop :=
  ∀ l names, d.find root = .ok (l, .directory) → places (names.reverse ++ l) →
    d.FileBelow root names → isSelected c (relativeText names) = .ok false

section Rediscovery

variable (hfree : d.tree.LinkFree) (hwrote : Disk.WroteOnly places d d')
include hfree hwrote

theorem isSelected_of_new (hhides : d'.Hides root c places)
    (hfind : d'.find root = .ok (l, .directory)) (hbelow : d'.FileBelow root names)
    (hnew : d.tree.get? (names.reverse ++ l) = none) :
    isSelected c (relativeText names) = .ok false := by
  have hd' := hwrote.grew.proper
  have hfree' := hwrote.grew.grown.linkFree hfree
  refine hhides l names hfind ?_ hbelow
  have hnames := hbelow.forall_mem hd'.tree.named hd'.grounded
  obtain ⟨l', hfind', -, -, hfile⟩ := hbelow
  rw [hfind] at hfind'
  cases hfind'
  obtain ⟨-, k, e, hseek, he⟩ := Disk.testEntry_eq_true_iff.1 hfile
  have henters := (Disk.find_eq_directory_iff.1 hfind).2
  obtain rfl := henters.find_descend (fun k target _ => hfree' k target)
    (fun name hm => (hnames name hm).isName) hseek
  have hget := Disk.found_of_seek hd'.grounded (hd'.starts _) (Disk.find_eq_ok_iff.1 hseek)
  by_contra hno
  rcases hwrote.others _ hno with hsame | ⟨-, hdir⟩
  · rw [hget, hnew] at hsame
    cases hsame
  · rw [hget] at hdir
    cases hdir
    cases he

theorem isFile_eq_of_old (hd : d.Proper) (hfind : d.find root = .ok (l, .directory))
    (hway : names ∈ waysBelow d.tree l) {found found' : Bool}
    (hf : d.isFile (root.descend names) = .ok found)
    (hf' : d'.isFile (root.descend names) = .ok found') : found' = found := by
  have hd' := hwrote.grew.proper
  have hfree' := hwrote.grew.grown.linkFree hfree
  obtain ⟨hne, hget⟩ := (mem_waysBelow_iff hd.grounded).1 hway
  have henters := (Disk.find_eq_directory_iff.1 hfind).2
  have hnames : ∀ name ∈ names, IsName name := fun name hm =>
    (hd.grounded.forall_mem hd.tree.named hget name (List.mem_reverse.2 hm)).isName
  cases found with
  | true =>
    have hlater := hwrote.grew.isFile hd hf
    rw [hf', Except.ok.injEq] at hlater
    exact hlater
  | false =>
    cases found' with
    | false => rfl
    | true =>
      obtain ⟨-, k, e, hseek, he⟩ := Disk.testEntry_eq_true_iff.1 hf'
      obtain rfl := (hwrote.grew.enters henters).find_descend (fun k target _ => hfree' k target)
        hnames hseek
      have hget' := Disk.found_of_seek hd'.grounded (hd'.starts _) (Disk.find_eq_ok_iff.1 hseek)
      -- What stood there before and was no file has not become one.
      obtain ⟨old, hold⟩ := Option.ne_none_iff_exists'.1 hget
      cases old with
      | file bytes =>
        have hback := henters.isFile_back hwrote.grew hd.grounded hfree hne hnames hf' hold
        rw [hf] at hback
        cases hback
      | directory =>
        rw [hwrote.grew.grown.directory _ hold] at hget'
        cases hget'
        cases he
      | link target => exact absurd hold (hfree _ _)
      | sink =>
        rw [hwrote.grew.grown.sink _ hold] at hget'
        cases hget'
        cases he

theorem find_of_old (hd : d.Proper) (hsteady : d.Steady root)
    (hfind : d'.find root = .ok (l, .directory)) (hne : names ≠ [])
    (hold : d.tree.get? (names.reverse ++ l) ≠ none) : d.find root = .ok (l, .directory) := by
  obtain ⟨hshort, henters⟩ := Disk.find_eq_directory_iff.1 hfind
  have hdir := hd.grounded.of_append hold (by simpa using hne)
  exact Disk.find_eq_directory_iff.2
    ⟨hshort, hsteady.back hwrote.grew hd.grounded hfree henters hdir⟩

theorem filesBelow_of_grown (hd : d.Proper) (hn : root.hasNull = false)
    (hfind : d.find root = .ok (l, .directory)) (hhides : d'.Hides root c places)
    {files files' : List String} (hf : filesBelow d root = .ok files)
    (hf' : filesBelow d' root = .ok files') :
    ∃ more, files' = files ++ more ∧ ∀ rel ∈ more, isSelected c rel = .ok false := by
  have hd' := hwrote.grew.proper
  obtain ⟨hshort, henters⟩ := Disk.find_eq_directory_iff.1 hfind
  have hfind' := Disk.find_eq_directory_iff.2 ⟨hshort, hwrote.grew.enters henters⟩
  obtain ⟨-, kept, hkept, rfl⟩ := (Disk.filesBelow_eq_ok_iff hn hfind).1 hf
  obtain ⟨-, kept', hkept', rfl⟩ := (Disk.filesBelow_eq_ok_iff hn hfind').1 hf'
  obtain ⟨added, hkeys⟩ := hwrote.keys
  -- New entries come after the old ones, and so do the ways to them.
  have hways : waysBelow d'.tree l = waysBelow d.tree l ++ added.filterMap (namesBelow? l) := by
    rw [waysBelow_eq hd'.grounded, waysBelow_eq hd.grounded, ← List.filterMap_append, hkeys]
  rw [hways] at hkept'
  obtain ⟨as, bs, has, hbs, rfl⟩ := filterAttempt_append_eq_ok.1 hkept'
  have hsame : ∀ names ∈ waysBelow d.tree l,
      d'.isFile (root.descend names) = d.isFile (root.descend names) := by
    intro names hway
    obtain ⟨found, hfound⟩ := tested_of_filterAttempt hkept hway
    obtain ⟨found', hfound'⟩ := tested_of_filterAttempt has hway
    rw [hfound, hfound', isFile_eq_of_old hfree hwrote hd hfind hway hfound hfound']
  rw [filterAttempt_congr hsame, hkept, Except.ok.injEq] at has
  subst has
  refine ⟨bs.map relativeText, List.map_append, ?_⟩
  intro rel hrel
  obtain ⟨names, hmem, rfl⟩ := List.mem_map.1 hrel
  obtain ⟨hway, hfile⟩ := (mem_of_filterAttempt hbs names).1 hmem
  obtain ⟨k, hk, hnames⟩ := List.mem_filterMap.1 hway
  obtain ⟨hne, rfl⟩ := namesBelow_eq_some_iff.1 hnames
  -- Each place is entered once, so an added one was free before.
  have hfree₀ : d.tree.get? (names.reverse ++ l) = none := by
    by_contra hold
    have hdistinct := hd'.tree.distinct
    rw [← hkeys, List.nodup_append] at hdistinct
    exact hdistinct.2.2 _ ((mem_keys_iff hne).2 hold) _ hk rfl
  have hnew : d'.tree.get? (names.reverse ++ l) ≠ none :=
    (mem_keys_iff hne).1 (by rw [← hkeys]; exact List.mem_append_right _ hk)
  exact isSelected_of_new hfree hwrote hhides hfind' ⟨l, hfind', hne, hnew, hfile⟩ hfree₀

theorem discover_again (hd : d.Proper) (hsteady : d.Steady root) (hhides : d'.Hides root c places)
    (hlist : ∃ files, filesBelow d' root = .ok files) (h : discover d root c = .ok rels) :
    discover d' root c = .ok rels := by
  obtain ⟨files', hfiles'⟩ := hlist
  obtain ⟨files, kept, hfiles, hkept, rfl⟩ := discover_eq_ok_iff.1 h
  rw [discover_eq_ok_iff]
  by_cases hdir : d.isDirectory root = .ok true
  · obtain ⟨hn, l, e, hfind, he⟩ := Disk.testEntry_eq_true_iff.1 hdir
    cases e with
    | directory =>
      obtain ⟨more, rfl, hmore⟩ :=
        filesBelow_of_grown hfree hwrote hd hn hfind hhides hfiles hfiles'
      exact ⟨_, kept, hfiles', filterAttempt_append_eq_ok.2
        ⟨kept, [], hkept, filterAttempt_eq_nil hmore, (List.append_nil _).symm⟩, rfl⟩
    | _ => cases he
  · obtain rfl := filesBelow_eq_nil hdir hfiles
    cases hkept
    refine ⟨files', [], hfiles', filterAttempt_eq_nil fun rel hrel => ?_, rfl⟩
    obtain ⟨names, rfl, hbelow⟩ :=
      (Disk.mem_filesBelow hwrote.grew.proper.grounded hfiles' rel).1 hrel
    obtain ⟨l, hfind', hne, hget, hfile⟩ := hbelow
    refine isSelected_of_new hfree hwrote hhides hfind' ⟨l, hfind', hne, hget, hfile⟩ ?_
    by_contra hold
    have hfind := find_of_old hfree hwrote hd hsteady hfind' hne hold
    have hn := (Path.hasNull_descend.1 (Disk.testEntry_eq_true_iff.1 hfile).1).1
    exact hdir (Disk.testEntry_eq_true_iff.2 ⟨hn, l, .directory, hfind, rfl⟩)

end Rediscovery

end BuildScripts

import BuildScripts.Proofs.Disk.Lookup
import BuildScripts.Proofs.Path

namespace BuildScripts

inductive Tree.Reaches (t : Tree) : Nat → Location → List String → Location → Nat → Prop
  | stop {n : Nat} {l : Location} : Reaches t n l [] l n
  | skip {n k : Nat} {here l : Location} {name : String} {rest : List String}
      (hn : name = "" ∨ name = ".") (h : Reaches t n here rest l k) :
      Reaches t n here (name :: rest) l k
  | up {n k : Nat} {here l : Location} {rest : List String} (h : Reaches t n here.tail rest l k) :
      Reaches t n here (".." :: rest) l k
  | enter {n k : Nat} {here l : Location} {name : String} {rest : List String} (hn : IsName name)
      (hl : name.utf8ByteSize ≤ longestName) (he : t.get? (name :: here) = some .directory)
      (h : Reaches t n (name :: here) rest l k) : Reaches t n here (name :: rest) l k
  | link {n k : Nat} {here l : Location} {name target : String} {rest : List String}
      (hn : IsName name) (hl : name.utf8ByteSize ≤ longestName)
      (he : t.get? (name :: here) = some (.link target))
      (h : Reaches t n (targetStart here target) (targetParts target ++ rest) l k) :
      Reaches t (n + 1) here (name :: rest) l k

section Reaches

variable {t t' : Tree} {aim : Aim} {n k : Nat} {here l : Location} {name : String}
  {front rest parts : List String}

theorem not_isName_up : ¬IsName ".." := fun h => h.notUp rfl

theorem IsName.ne_skip (hn : IsName name) : ¬(name = "" ∨ name = ".") := by
  simp [hn.notEmpty, hn.notHere]

namespace Tree.Reaches

theorem append {l' : Location} {k' : Nat} (h : t.Reaches n here front l k)
    (h' : t.Reaches k l rest l' k') : t.Reaches n here (front ++ rest) l' k' := by
  induction h with
  | stop => exact h'
  | skip hn _ ih => exact .skip hn (ih h')
  | up _ ih => exact .up (ih h')
  | enter hn hl he _ ih => exact .enter hn hl he (ih h')
  | link hn hl he _ ih =>
    apply Reaches.link hn hl he
    have hrest := ih h'
    rwa [List.append_assoc] at hrest

theorem mono (h : t.Reaches n here parts l k) (hw : t.Ways t') : t'.Reaches n here parts l k := by
  induction h with
  | stop => exact .stop
  | skip hn _ ih => exact .skip hn ih
  | up _ ih => exact .up ih
  | enter hn hl he _ ih => exact .enter hn hl (hw.directory _ he) ih
  | link hn hl he _ ih => exact .link hn hl (hw.link _ _ he) ih

theorem directory (h : t.Reaches n here parts l k) (hg : t.Grounded)
    (hd : t.get? here = some .directory) : t.get? l = some .directory := by
  induction h with
  | stop => exact hd
  | skip _ _ ih => exact ih hd
  | up _ ih => exact ih (hg.tail (by simp [hd]))
  | enter _ _ he _ ih => exact ih he
  | link _ _ _ _ ih => exact ih (targetStart_directory hd _)

theorem unique {l' : Location} {k' : Nat} (h : t.Reaches n here parts l k)
    (h' : t.Reaches n here parts l' k') : l' = l ∧ k' = k := by
  induction h with
  | stop =>
    cases h'
    exact ⟨rfl, rfl⟩
  | skip hn _ ih =>
    cases h' with
    | skip _ h' => exact ih h'
    | up => simp at hn
    | enter hn' => exact absurd hn hn'.ne_skip
    | link hn' => exact absurd hn hn'.ne_skip
  | up _ ih =>
    cases h' with
    | skip hn' => simp at hn'
    | up h' => exact ih h'
    | enter hn' => exact absurd hn' not_isName_up
    | link hn' => exact absurd hn' not_isName_up
  | enter hn hl he _ ih =>
    cases h' with
    | skip hn' => exact absurd hn' hn.ne_skip
    | up => exact absurd hn not_isName_up
    | enter _ _ _ h' => exact ih h'
    | link _ _ he' =>
      rw [he] at he'
      cases he'
  | link hn hl he _ ih =>
    cases h' with
    | skip hn' => exact absurd hn' hn.ne_skip
    | up => exact absurd hn not_isName_up
    | enter _ _ he' =>
      rw [he] at he'
      cases he'
    | link _ _ he' h' =>
      rw [he] at he'
      cases he'
      exact ih h'

end Tree.Reaches

theorem walk_of_stride {parts' : List String} {here' : Location}
    (h : stride t aim here parts = stride t aim here' parts') :
    walk t aim n here parts = walk t aim n here' parts' := by
  unfold walk
  rw [h]

theorem Tree.Reaches.walk_eq (h : t.Reaches n here front l k)
    (hrest : aim = .target ∨ ∃ last, rest.getLast? = some last ∧ last ≠ "") :
    walk t aim n here (front ++ rest) = walk t aim k l rest := by
  have hfile : ∀ before, ¬(aim = .file ∧ before ++ rest = [""]) := by
    rintro before ⟨ha, heq⟩
    obtain ⟨last, hl, hne⟩ := hrest.resolve_left (by simp [ha])
    have hall : (before ++ rest).getLast? = some last := by
      rw [List.getLast?_append, hl]
      rfl
    rw [heq] at hall
    exact hne (Option.some.inj hall).symm
  have hentry : ∀ before, ¬(before ++ rest = [] ∧ aim = .entry) := by
    rintro before ⟨heq, ha⟩
    obtain ⟨last, hl, -⟩ := hrest.resolve_left (by simp [ha])
    rw [(List.append_eq_nil_iff.1 heq).2] at hl
    cases hl
  induction h with
  | stop => rfl
  | @skip _ _ here _ _ before hn _ ih =>
    rw [List.cons_append, walk_of_stride (stride_skip (hfile before) hn), ih]
  | @up _ _ here _ before _ ih =>
    rw [List.cons_append, walk_of_stride (stride_up (hfile before)), ih]
  | @enter _ _ here _ name before hn hl he _ ih =>
    have hstride : stride t aim here (name :: (before ++ rest)) =
        stride t aim (name :: here) (before ++ rest) := by
      rw [stride_named (hfile before) hn hl, he]
    rw [List.cons_append, walk_of_stride hstride, ih]
  | @link _ _ here _ name target before hn hl he _ ih =>
    have hlink : stride t aim here (name :: (before ++ rest)) =
        .link here target (before ++ rest) := by
      rw [stride_named (hfile before) hn hl, he]
      apply if_neg
      simpa only [Bool.and_eq_true, List.isEmpty_iff, beq_iff_eq] using hentry before
    rw [List.cons_append, walk_of_link hlink, ← List.append_assoc, ih]

theorem walk_cons {p : Place} (h : walk t aim n here (name :: parts) = .ok p)
    (hend : parts = [] → ∃ l, p = .found l .directory) :
    (∃ there, (∀ front l k, t.Reaches n there front l k → t.Reaches n here (name :: front) l k) ∧
      walk t aim n there parts = .ok p) ∨
    ∃ m target, n = m + 1 ∧
      (∀ front l k, t.Reaches m (targetStart here target) (targetParts target ++ front) l k →
        t.Reaches n here (name :: front) l k) ∧
      walk t aim m (targetStart here target) (targetParts target ++ parts) = .ok p := by
  have hs := strides t aim here (name :: parts)
  generalize hq : stride t aim here (name :: parts) = q at hs
  cases hs with
  | skip hf hn _ =>
    rw [walk_of_stride (stride_skip hf hn)] at h
    exact .inl ⟨here, fun _ _ _ => .skip hn, h⟩
  | up hf _ =>
    rw [walk_of_stride (stride_up hf)] at h
    exact .inl ⟨here.tail, fun _ _ _ => .up, h⟩
  | enter hf hn hl he _ =>
    have hstride : stride t aim here (name :: parts) = stride t aim (name :: here) parts := by
      rw [stride_named hf hn hl, he]
    rw [walk_of_stride hstride] at h
    exact .inl ⟨name :: here, fun _ _ _ => .enter hn hl he, h⟩
  | last hn hl _ =>
    -- The name is the last one, so a directory stands there.
    rw [walk_of_arrived hq] at h
    obtain ⟨l, rfl⟩ := hend rfl
    obtain ⟨rfl, he⟩ := Tree.at_eq_found_iff.1 (Except.ok.inj h)
    exact .inl ⟨name :: here, fun _ _ _ => .enter hn hl he, walk_of_arrived rfl⟩
  | @link _ _ _ target _ hn hl he _ =>
    cases n with
    | zero =>
      rw [walk_of_last_link hq] at h
      cases h
    | succ m =>
      rw [walk_of_link hq] at h
      exact .inr ⟨m, target, rfl, fun _ _ _ => .link hn hl he, h⟩
  | _ =>
    rw [walk_of_refused hq] at h
    cases h

theorem reaches_of_walk {p : Place} (h : walk t aim n here (front ++ rest) = .ok p)
    (hrest : rest ≠ [] ∨ ∃ l, p = .found l .directory) :
    ∃ l k, t.Reaches n here front l k ∧ (rest = [] → p = .found l .directory) := by
  induction n using Nat.strongRecOn generalizing here front with
  | ind n ihn =>
  induction front generalizing here with
  | nil =>
    refine ⟨here, n, .stop, fun hnil => ?_⟩
    rw [hnil, List.nil_append, walk_of_arrived (p := .found here .directory) rfl] at h
    exact (Except.ok.inj h).symm
  | cons name before ih =>
    have hend : before ++ rest = [] → ∃ l, p = .found l .directory :=
      fun hnil => hrest.resolve_left fun hne => hne (List.append_eq_nil_iff.1 hnil).2
    rw [List.cons_append] at h
    rcases walk_cons h hend with ⟨there, hstep, hwalk⟩ | ⟨m, target, rfl, hstep, hwalk⟩
    · obtain ⟨l, k, hr, hp⟩ := ih hwalk
      exact ⟨l, k, hstep before l k hr, hp⟩
    · rw [← List.append_assoc] at hwalk
      obtain ⟨l, k, hr, hp⟩ := ihn m (Nat.lt_succ_self m) hwalk
      exact ⟨l, k, hstep before l k hr, hp⟩

theorem Tree.Reaches.of_append (h : t.Reaches n here (front ++ rest) l k) :
    ∃ l' k', t.Reaches n here front l' k' ∧ t.Reaches k' l' rest l k := by
  have hwalk : walk t .target n here (front ++ rest) = .ok (.found l .directory) := by
    have hend : stride t .target l [] = .arrived (.found l .directory) := rfl
    rw [← List.append_nil (front ++ rest), h.walk_eq (.inl rfl), walk_of_arrived hend]
  obtain ⟨l', k', hfront, -⟩ := reaches_of_walk hwalk (.inr ⟨l, rfl⟩)
  rw [hfront.walk_eq (.inl rfl), ← List.append_nil rest] at hwalk
  obtain ⟨l'', k'', hrest, -⟩ := reaches_of_walk hwalk (.inr ⟨l, rfl⟩)
  obtain ⟨rfl, rfl⟩ := h.unique (hfront.append hrest)
  exact ⟨l', k', hfront, hrest⟩

theorem Tree.Reaches.of_name (h : t.Reaches n here [name] l k) (hn : IsName name)
    (hlink : ∀ target, t.get? (name :: here) ≠ some (.link target)) :
    l = name :: here ∧ t.get? (name :: here) = some .directory ∧
      name.utf8ByteSize ≤ longestName := by
  cases h with
  | skip hn' => exact absurd hn' hn.ne_skip
  | up => exact absurd hn not_isName_up
  | enter _ hl he h =>
    cases h
    exact ⟨rfl, he, hl⟩
  | link _ _ he => exact absurd he (hlink _)

end Reaches

def Tree.LinkFreeBelow (t : Tree) (l : Location) : Prop :=
  ∀ k target, l <:+ k → t.get? k ≠ some (.link target)

theorem Tree.LinkFreeBelow.cons {t : Tree} {l : Location} (h : t.LinkFreeBelow l) (name : String) :
    t.LinkFreeBelow (name :: l) :=
  fun k target hk => h k target ((List.suffix_cons name l).trans hk)

theorem Tree.LinkFreeBelow.of_grown {t t' : Tree} {l : Location} (h : t.LinkFreeBelow l)
    (hgr : t.Grown t') : t'.LinkFreeBelow l :=
  fun k target hk he => h k target hk (hgr.noLink k target he)

namespace Disk

variable {d d' : Disk} {p : Path} {aim : Aim} {l l' : Location} {name : String}
  {names : List String}

def Enters (d : Disk) (p : Path) (l : Location) : Prop :=
  ∃ k, d.tree.Reaches linkBudget (d.start p) p.parts l k

theorem Enters.unique (h : d.Enters p l) (h' : d.Enters p l') : l' = l := by
  obtain ⟨k, h⟩ := h
  obtain ⟨k', h'⟩ := h'
  exact (h.unique h').1

theorem Enters.of_ways (h : d.Enters p l) (hh : d'.here = d.here) (hw : d.tree.Ways d'.tree) :
    d'.Enters p l := by
  obtain ⟨k, h⟩ := h
  refine ⟨k, ?_⟩
  rw [start_of_here hh]
  exact h.mono hw

theorem Enters.directory (h : d.Enters p l) (hg : d.tree.Grounded) (hp : d.Starts p) :
    d.tree.get? l = some .directory := by
  obtain ⟨k, h⟩ := h
  exact h.directory hg hp

theorem size_le_of_seek {q : Place} (h : d.seek aim p = .ok q) :
    p.toText.utf8ByteSize ≤ longestPath := by
  by_contra hlong
  rw [seek_of_long (by omega)] at h
  cases h

theorem enters_of_seek (h : d.seek aim p = .ok (.found l .directory)) : d.Enters p l := by
  rw [seek_of_short (size_le_of_seek h), ← List.append_nil p.parts] at h
  obtain ⟨l', k, hr, hl⟩ := reaches_of_walk h (.inr ⟨l, rfl⟩)
  cases hl rfl
  exact ⟨k, hr⟩

theorem find_eq_directory_iff : d.find p = .ok (l, .directory) ↔
    p.toText.utf8ByteSize ≤ longestPath ∧ d.Enters p l := by
  rw [find_eq_ok_iff]
  constructor
  · intro h
    exact ⟨size_le_of_seek h, enters_of_seek h⟩
  · rintro ⟨hshort, k, hr⟩
    rw [seek_of_short hshort, ← List.append_nil p.parts, hr.walk_eq (.inl rfl)]
    exact walk_of_arrived rfl

theorem isDirectory_eq_true_iff : d.isDirectory p = .ok true ↔
    p.hasNull = false ∧ p.toText.utf8ByteSize ≤ longestPath ∧ ∃ l, d.Enters p l := by
  rw [isDirectory, testEntry_eq_true_iff]
  constructor
  · rintro ⟨hn, l, e, hf, he⟩
    cases e with
    | directory =>
      obtain ⟨hshort, hr⟩ := find_eq_directory_iff.1 hf
      exact ⟨hn, hshort, l, hr⟩
    | _ => cases he
  · rintro ⟨hn, hshort, l, hr⟩
    exact ⟨hn, l, .directory, find_eq_directory_iff.2 ⟨hshort, hr⟩, rfl⟩

theorem isDirectory_of_ways (hh : d'.here = d.here) (hw : d.tree.Ways d'.tree)
    (h : d.isDirectory p = .ok true) : d'.isDirectory p = .ok true := by
  obtain ⟨hn, hshort, l, hl⟩ := isDirectory_eq_true_iff.1 h
  exact isDirectory_eq_true_iff.2 ⟨hn, hshort, l, hl.of_ways hh hw⟩

theorem Enters.of_descend (h : d.Enters (p.descend names) l) : ∃ l', d.Enters p l' := by
  obtain ⟨k, h⟩ := h
  obtain ⟨l', k', hfront, -⟩ := h.of_append
  exact ⟨l', k', hfront⟩

theorem enters_of_seek_child {q : Place} (h : d.seek aim (p.child name) = .ok q) :
    ∃ l, d.Enters p l := by
  rw [seek_of_short (size_le_of_seek h)] at h
  obtain ⟨l, k, hr, -⟩ := reaches_of_walk h (.inl (by simp))
  exact ⟨l, k, hr⟩

section Child

variable (h : d.Enters p l) (hn : IsName name)
include h hn

theorem Enters.seek_child_eq (aim : Aim)
    (hshort : (p.child name).toText.utf8ByteSize ≤ longestPath) :
    ∃ k, d.seek aim (p.child name) = walk d.tree aim k l [name] := by
  obtain ⟨k, h⟩ := h
  refine ⟨k, ?_⟩
  rw [seek_of_short hshort]
  exact h.walk_eq (.inr ⟨name, rfl, hn.notEmpty⟩)

theorem Enters.seek_child (aim : Aim)
    (hlink : aim = .entry ∨ ∀ target, d.tree.get? (name :: l) ≠ some (.link target)) :
    d.seek aim (p.child name) = .error .nameTooLong ∨
      d.seek aim (p.child name) = .ok (d.tree.at_ (name :: l)) := by
  by_cases hlong : longestPath < (p.child name).toText.utf8ByteSize
  · exact .inl (seek_of_long hlong)
  · obtain ⟨k, hw⟩ := h.seek_child_eq hn aim (by omega)
    rw [hw]
    by_cases hl : longestName < name.utf8ByteSize
    · exact .inl (walk_of_refused (stride_long (by simp) hn hl))
    · exact .inr (walk_of_arrived (stride_last hn (by omega) hlink))

theorem Enters.seek_child_of_ok
    (hlink : aim = .entry ∨ ∀ target, d.tree.get? (name :: l) ≠ some (.link target)) {q : Place}
    (hq : d.seek aim (p.child name) = .ok q) : q = d.tree.at_ (name :: l) := by
  rcases h.seek_child hn aim hlink with hs | hs
  · rw [hq] at hs
    cases hs
  · rw [hq] at hs
    exact Except.ok.inj hs

theorem Enters.find_child {e : Entry} (hlen : name.utf8ByteSize ≤ longestName)
    (hshort : (p.child name).toText.utf8ByteSize ≤ longestPath) (he : d.tree.get? (name :: l) = some e)
    (hlink : ∀ target, e ≠ .link target) : d.find (p.child name) = .ok (name :: l, e) := by
  have hno : ∀ target, d.tree.get? (name :: l) ≠ some (.link target) :=
    fun target htarget => hlink target (Option.some.inj (he.symm.trans htarget))
  obtain ⟨k, hseek⟩ := h.seek_child_eq hn .target hshort
  rw [find_eq_ok_iff, hseek, walk_of_arrived (stride_last hn hlen (.inr hno)), Tree.at_of_some he]

theorem Enters.child_unique (hlink : ∀ target, d.tree.get? (name :: l) ≠ some (.link target))
    (h' : d.Enters (p.child name) l') :
    l' = name :: l ∧ d.tree.get? (name :: l) = some .directory := by
  obtain ⟨k, h⟩ := h
  obtain ⟨k', h'⟩ := h'
  obtain ⟨l₀, k₀, hfront, hname⟩ := h'.of_append
  obtain ⟨rfl, rfl⟩ := h.unique hfront
  obtain ⟨hl, hd, -⟩ := hname.of_name hn hlink
  exact ⟨hl, hd⟩

end Child

theorem Enters.descend_unique (h : d.Enters p l) (hnames : ∀ name ∈ names, IsName name)
    (hfree : ∀ k target, l <:+ k → k <:+ names.reverse ++ l → d.tree.get? k ≠ some (.link target))
    (h' : d.Enters (p.descend names) l') : l' = names.reverse ++ l := by
  induction names generalizing p l with
  | nil =>
    rw [Path.descend_nil] at h'
    exact h.unique h'
  | cons name names ih =>
    rw [← Path.child_descend] at h'
    rw [List.forall_mem_cons] at hnames
    have hplace : (name :: names).reverse ++ l = names.reverse ++ name :: l := by simp
    rw [hplace] at hfree ⊢
    obtain ⟨l₁, h₁⟩ := h'.of_descend
    have hsuffix := List.suffix_append names.reverse (name :: l)
    obtain ⟨rfl, -⟩ := h.child_unique hnames.1
      (fun target => hfree _ target (List.suffix_cons name l) hsuffix) h₁
    exact ih h₁ hnames.2 (fun k target hk => hfree k target ((List.suffix_cons name l).trans hk)) h'

theorem Enters.find_descend {k : Location} {e : Entry} (h : d.Enters p l)
    (hfree : d.tree.LinkFreeBelow l) (hnames : ∀ name ∈ names, IsName name)
    (hf : d.find (p.descend names) = .ok (k, e)) : k = names.reverse ++ l := by
  rw [find_eq_ok_iff] at hf
  rcases names.eq_nil_or_concat' with rfl | ⟨way, name, rfl⟩
  · rw [Path.descend_nil] at hf
    have hfind := find_eq_directory_iff.2 ⟨size_le_of_seek hf, h⟩
    rw [find_eq_ok_iff.1 hfind] at hf
    cases hf
    rfl
  · rw [List.forall_mem_append, List.forall_mem_singleton] at hnames
    rw [← Path.descend_child] at hf
    obtain ⟨l', hl'⟩ := enters_of_seek_child hf
    have heq := h.descend_unique hnames.1 (fun k target hk _ => hfree k target hk) hl'
    have hplace := hl'.seek_child_of_ok hnames.2
      (.inr fun target => hfree _ target ⟨name :: way.reverse, by rw [heq]; rfl⟩) hf
    obtain ⟨rfl, -⟩ := Tree.at_eq_found_iff.1 hplace.symm
    rw [heq, List.reverse_append]
    rfl

end Disk

end BuildScripts

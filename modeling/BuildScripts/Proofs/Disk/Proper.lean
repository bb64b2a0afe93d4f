import BuildScripts.Proofs.Disk.Reach
import BuildScripts.Proofs.Disk.Write

namespace BuildScripts

structure Named (name : String) : Prop where
  isName : IsName name
  noNull : NoNull name

theorem noNull_of_mem_atSlashes {cs piece : List Char} (h : '\x00' ∉ cs)
    (hp : piece ∈ Path.atSlashes cs) : '\x00' ∉ piece := by
  induction cs generalizing piece with
  | nil =>
    rw [Path.atSlashes, List.mem_singleton] at hp
    subst hp
    exact List.not_mem_nil
  | cons c cs ih =>
    rw [List.mem_cons, not_or] at h
    rw [Path.atSlashes] at hp
    cases hs : Path.atSlashes cs with
    | nil =>
      rw [hs] at hp
      simp only [List.mem_singleton] at hp
      subst hp
      exact List.not_mem_nil
    | cons q qs =>
      rw [hs] at hp ih
      simp only at hp
      split at hp
      · rcases List.mem_cons.1 hp with rfl | hp
        · exact List.not_mem_nil
        · exact ih h.2 hp
      · rcases List.mem_cons.1 hp with rfl | hp
        · rw [List.mem_cons, not_or]
          exact ⟨h.1, ih h.2 List.mem_cons_self⟩
        · exact ih h.2 (List.mem_cons_of_mem _ hp)

theorem noNull_of_mem_targetParts {target part : String} (h : NoNull target)
    (hp : part ∈ targetParts target) : NoNull part := by
  have hpieces : ∀ piece ∈ Path.pieces target, NoNull piece := by
    intro piece hpiece
    obtain ⟨cs, hcs, rfl⟩ := List.mem_map.1 hpiece
    rw [NoNull, String.toList_ofList]
    exact noNull_of_mem_atSlashes h hcs
  simp only [targetParts] at hp
  split at hp
  · rcases List.mem_append.1 hp with hp | hp
    · exact hpieces part (List.mem_filter.1 hp).1
    · rw [List.mem_singleton.1 hp]
      exact List.not_mem_nil
  · exact hpieces part (List.mem_filter.1 hp).1

namespace Tree

/-- Entries stand in directories, each place is there once, and neither names nor targets of links
hold null characters. -/
structure Proper (t : Tree) : Prop where
  grounded : t.Grounded
  distinct : (t.entries.map Prod.fst).Nodup
  named : ∀ name l, t.get? (name :: l) ≠ none → Named name
  targets : ∀ l target, t.get? l = some (.link target) → NoNull target

variable {t : Tree} {l : Location} {name : String} {e : Entry}

theorem keys_setEntry (l : Location) (e : Entry) (es : List (Location × Entry)) :
    (setEntry l e es).map Prod.fst =
      if l ∈ es.map Prod.fst then es.map Prod.fst else es.map Prod.fst ++ [l] := by
  induction es with
  | nil => rfl
  | cons x es ih =>
    obtain ⟨k, v⟩ := x
    by_cases hk : k = l
    · simp [setEntry, hk]
    · simp only [setEntry, hk, if_false, List.map_cons, ih, List.mem_cons, Ne.symm hk, false_or]
      split <;> rfl

theorem Proper.set (h : t.Proper) (hn : Named name) (hd : t.get? l = some .directory)
    (hl : t.get? (name :: l) ≠ some .directory) (he : ∀ target, e ≠ .link target) :
    (t.set (name :: l) e).Proper where
  grounded := h.grounded.set hl hd
  distinct := by
    rw [Tree.set, keys_setEntry]
    split
    · exact h.distinct
    · rename_i hnew
      rw [List.nodup_append]
      refine ⟨h.distinct, List.pairwise_singleton _ _, ?_⟩
      rintro k hk k' hk' rfl
      exact hnew (List.mem_singleton.1 hk' ▸ hk)
  named other k hk := by
    rw [get?_set t _ _ e (List.cons_ne_nil _ _)] at hk
    split at hk
    · rename_i heq
      cases heq
      exact hn
    · exact h.named other k hk
  targets k target hk := by
    rw [get?_set t _ _ e (List.cons_ne_nil _ _)] at hk
    split at hk
    · exact absurd (Option.some.inj hk) (he target)
    · exact h.targets k target hk

theorem get?_ne_none_iff : t.get? (name :: l) ≠ none ↔ ∃ e, (name :: l, e) ∈ t.entries := by
  change t.entries.lookup (name :: l) ≠ none ↔ _
  rw [Ne, List.lookup_eq_none_iff]
  simp only [bne_iff_ne, ne_eq, not_forall, not_not, Prod.exists]
  constructor
  · rintro ⟨k, e, he, heq⟩
    rw [heq]
    exact ⟨e, he⟩
  · rintro ⟨e, he⟩
    exact ⟨_, e, he, rfl⟩

theorem mem_names_iff : name ∈ t.names l ↔ t.get? (name :: l) ≠ none := by
  rw [get?_ne_none_iff, names, List.mem_filterMap]
  constructor
  · rintro ⟨⟨k, e⟩, he, hname⟩
    cases k with
    | nil => cases hname
    | cons n parent =>
      simp only at hname
      split at hname
      · rename_i hparent
        cases hname
        subst hparent
        exact ⟨e, he⟩
      · cases hname
  · rintro ⟨e, he⟩
    exact ⟨_, he, by simp⟩

theorem Proper.nodup_names (h : t.Proper) (l : Location) : (t.names l).Nodup := by
  have hdistinct := h.distinct
  rw [names]
  generalize t.entries = es at hdistinct
  induction es with
  | nil => exact List.nodup_nil
  | cons x es ih =>
    obtain ⟨k, e⟩ := x
    rw [List.map_cons, List.nodup_cons] at hdistinct
    have hrest := ih hdistinct.2
    cases k with
    | nil => exact hrest
    | cons n parent =>
      by_cases hparent : parent = l
      · subst hparent
        rw [List.filterMap_cons_some (b := n) (by simp), List.nodup_cons]
        refine ⟨fun hmem => hdistinct.1 ?_, hrest⟩
        obtain ⟨⟨k', e'⟩, he', hname⟩ := List.mem_filterMap.1 hmem
        cases k' with
        | nil => cases hname
        | cons n' parent' =>
          simp only at hname
          split at hname
          · rename_i hsame
            cases hname
            subst hsame
            exact List.mem_map.2 ⟨_, he', rfl⟩
          · cases hname
      · rw [List.filterMap_cons_none (by simp [hparent])]
        exact hrest

theorem mem_sortedNames_iff : name ∈ t.sortedNames l ↔ t.get? (name :: l) ≠ none := by
  rw [sortedNames, List.mem_mergeSort, mem_names_iff]

theorem pairwise_mergeSort_of_nodup {names : List String} (h : names.Nodup) :
    (names.mergeSort fun a b => a ≤ b).Pairwise (· < ·) := by
  have hle : (names.mergeSort fun a b => a ≤ b).Pairwise fun a b => decide (a ≤ b) = true := by
    apply List.pairwise_mergeSort
    · intro a b c hab hbc
      rw [decide_eq_true_eq] at hab hbc ⊢
      exact String.le_trans hab hbc
    · intro a b
      simpa using String.le_total a b
  have hne : (names.mergeSort fun a b => a ≤ b).Nodup := (List.mergeSort_perm _ _).nodup_iff.2 h
  apply (hle.and hne).imp
  rintro a b ⟨hab, hneq⟩
  by_contra hlt
  exact hneq (String.le_antisymm (of_decide_eq_true hab) (String.not_lt.1 hlt))

theorem Proper.pairwise_sortedNames (h : t.Proper) (l : Location) :
    (t.sortedNames l).Pairwise (· < ·) :=
  pairwise_mergeSort_of_nodup (h.nodup_names l)

def isProper (t : Tree) : Bool :=
  t.isGrounded && decide (t.entries.map Prod.fst).Nodup &&
    t.entries.all fun (l, e) =>
      l.all (fun name => name ≠ "" && name ≠ "." && name ≠ ".." && !name.toList.contains '\x00') &&
        match e with
        | .link target => !target.toList.contains '\x00'
        | _ => true

theorem proper_of_isProper (h : t.isProper = true) : t.Proper := by
  simp only [isProper, Bool.and_eq_true, decide_eq_true_eq, List.all_eq_true] at h
  obtain ⟨⟨hg, hdistinct⟩, hentries⟩ := h
  refine ⟨grounded_of_isGrounded hg, hdistinct, ?_, ?_⟩
  · intro name l hl
    obtain ⟨e, he⟩ := get?_ne_none_iff.1 hl
    have hname := (hentries _ he).1 name List.mem_cons_self
    exact ⟨⟨hname.1.1.1, hname.1.1.2, hname.1.2⟩, by simpa [NoNull] using hname.2⟩
  · intro l target hl
    have hne : l ≠ [] := by
      rintro rfl
      cases hl
    have htarget := (hentries _ (mem_entries_of_get? hne hl)).2
    simpa [NoNull] using htarget

end Tree

section Walk

variable {t : Tree} {aim : Aim} {n : Nat} {here l : Location} {parts : List String}

theorem named_of_stride_free (hp : ∀ part ∈ parts, NoNull part)
    (h : stride t aim here parts = .arrived (.free l)) :
    ∃ name parent, l = name :: parent ∧ Named name := by
  have hs := strides t aim here parts
  generalize stride t aim here parts = q at h hs
  induction hs with
  | skip _ _ _ ih => exact ih (List.forall_mem_cons.1 hp).2 h
  | up _ _ ih => exact ih (List.forall_mem_cons.1 hp).2 h
  | enter _ _ _ _ _ ih => exact ih (List.forall_mem_cons.1 hp).2 h
  | @last here name hn _ _ =>
    obtain ⟨rfl, -⟩ := Tree.at_eq_free_iff.1 (Stride.arrived.inj h)
    exact ⟨name, here, rfl, hn, hp name List.mem_cons_self⟩
  | _ => cases h

theorem noNull_of_stride_link (hp : ∀ part ∈ parts, NoNull part) {holder : Location}
    {target : String} {rest : List String}
    (h : stride t aim here parts = .link holder target rest) : ∀ part ∈ rest, NoNull part := by
  have hs := strides t aim here parts
  generalize stride t aim here parts = q at h hs
  induction hs with
  | skip _ _ _ ih => exact ih (List.forall_mem_cons.1 hp).2 h
  | up _ _ ih => exact ih (List.forall_mem_cons.1 hp).2 h
  | enter _ _ _ _ _ ih => exact ih (List.forall_mem_cons.1 hp).2 h
  | link =>
    cases h
    exact (List.forall_mem_cons.1 hp).2
  | _ => cases h

theorem named_of_walk_free (ht : t.Proper) (hd : t.get? here = some .directory)
    (hp : ∀ part ∈ parts, NoNull part) (h : walk t aim n here parts = .ok (.free l)) :
    ∃ name parent, l = name :: parent ∧ Named name := by
  have hw := walks t aim n here parts
  generalize walk t aim n here parts = q at h hw
  induction hw with
  | arrived hs =>
    cases h
    exact named_of_stride_free hp hs
  | refused => cases h
  | spent => cases h
  | @link _ _ holder _ _ target _ hs _ ih =>
    obtain ⟨hholder, name, hlink⟩ := stride_link ht.grounded hd hs
    apply ih (targetStart_directory hholder target) ?_ h
    rw [List.forall_mem_append]
    exact ⟨fun part => noNull_of_mem_targetParts (ht.targets _ target hlink),
      noNull_of_stride_link hp hs⟩

end Walk

namespace Disk

variable {d d' : Disk} {p : Path} {l : Location}

structure Proper (d : Disk) : Prop where
  tree : d.tree.Proper
  here : d.tree.get? d.here = some .directory

theorem Proper.starts (h : d.Proper) (p : Path) : d.Starts p := by
  rw [Starts, start]
  split
  · exact h.here
  · rfl

theorem Proper.grounded (h : d.Proper) : d.tree.Grounded := h.tree.grounded

theorem Proper.setEntry (h : d.Proper) {aim : Aim} (hp : p.hasNull = false)
    (hs : d.seek aim p = .ok (.free l)) {e : Entry} (he : ∀ target, e ≠ .link target) :
    (d.setEntry l e).Proper := by
  obtain ⟨hfree, hd⟩ := free_of_seek h.grounded (h.starts p) hs
  have hwalk : walk d.tree aim linkBudget (d.start p) p.parts = .ok (.free l) := by
    rwa [seek_of_short (size_le_of_seek hs)] at hs
  obtain ⟨name, parent, rfl, hn⟩ :=
    named_of_walk_free h.tree (h.starts p) (Path.hasNull_eq_false_iff.1 hp) hwalk
  refine ⟨h.tree.set hn hd (by simp [hfree]) he, ?_⟩
  have hhere : d.here ≠ name :: parent := by
    intro heq
    have := h.here
    rw [heq, hfree] at this
    cases this
  change (d.tree.set _ e).get? d.here = _
  rw [Tree.get?_set _ _ _ _ (List.cons_ne_nil _ _), if_neg hhere]
  exact h.here

theorem Proper.fill (h : d.Proper) (hp : p.hasNull = false) (ho : d.openForWriting p = .ok l)
    (bytes : ByteArray) : (d.fill l bytes).Proper := by
  rcases openForWriting_eq_ok_iff.1 ho with hs | ⟨old, hs⟩ | hs
  · have hfree := (free_of_seek h.grounded (h.starts p) hs).1
    rw [Disk.fill, hfree]
    exact h.setEntry hp hs (by simp)
  · have hfile := found_of_seek h.grounded (h.starts p) hs
    have hne : l ≠ [] := Tree.ne_nil_of_get? (by rw [hfile]; simp)
    obtain ⟨name, parent, rfl⟩ := List.exists_cons_of_ne_nil hne
    rw [Disk.fill, hfile]
    constructor
    · apply h.tree.set (h.tree.named name parent (by simp [hfile]))
        (h.grounded name parent (by simp [hfile])) (by simp [hfile]) (by simp)
    · change (d.tree.set _ _).get? d.here = _
      rw [Tree.get?_set _ _ _ _ hne, if_neg]
      · exact h.here
      · intro heq
        have hhere := h.here
        rw [heq, hfile] at hhere
        cases hhere
  · have hsink := found_of_seek h.grounded (h.starts p) hs
    rw [Disk.fill, hsink]
    exact h

theorem Proper.makeDirectory (h : d.Proper) (hp : p.hasNull = false)
    (hm : d.makeDirectory p = .ok d') : d'.Proper := by
  obtain ⟨l, hs, rfl⟩ := makeDirectory_eq_ok_iff.1 hm
  exact h.setEntry hp hs (by simp)

theorem Proper.makeDirectories (h : d.Proper) (p : Path) :
    ((makeDirectories p).after d).Proper := by
  rw [Disk.makeDirectories]
  split
  · exact h
  · rename_i hn
    apply makeWithParents_preserves (R := fun a b => a.Proper → b.Proper) ?_ ?_ ?_ d h
    · intro a ha
      exact ha
    · intro a b c hab hbc ha
      exact hbc (hab ha)
    · intro front hf a b hm ha
      rw [List.reverse_reverse] at hf
      have hnull : (⟨p.anchor, front⟩ : Path).hasNull = false := by
        rw [Bool.not_eq_true, Path.hasNull_eq_false_iff] at hn
        rw [Path.hasNull_eq_false_iff]
        exact fun part hpart => hn part (hf.subset hpart)
      exact ha.makeDirectory hnull hm

theorem list_eq_ok_iff {names : List String} : d.list p = .ok names ↔
    p.hasNull = false ∧ ∃ l, d.find p = .ok (l, .directory) ∧ names = d.tree.sortedNames l := by
  rw [list]
  cases p.hasNull with
  | true => simp
  | false =>
    cases hf : d.find p with
    | error why => simp
    | ok found =>
      obtain ⟨l, e⟩ := found
      cases e <;> simp [eq_comm]

theorem list_of_pairwise {l : Location} (hn : p.hasNull = false)
    (hf : d.find p = .ok (l, .directory))
    (hsorted : (d.tree.names l).Pairwise fun a b => decide (a ≤ b) = true) :
    d.list p = .ok (d.tree.names l) := by
  have hnames : d.tree.sortedNames l = d.tree.names l := List.mergeSort_of_pairwise hsorted
  exact list_eq_ok_iff.2 ⟨hn, l, hf, hnames.symm⟩

end Disk

end BuildScripts

import BuildScripts.Disk.Lookup
import Mathlib.Data.List.Basic

namespace BuildScripts

namespace Tree

def Grounded (t : Tree) : Prop :=
  ∀ name l, t.get? (name :: l) ≠ none → t.get? l = some .directory

def LinkFree (t : Tree) : Prop :=
  ∀ l target, t.get? l ≠ some (.link target)

theorem Grounded.tail {t : Tree} (hg : t.Grounded) {l : Location} (h : t.get? l ≠ none) :
    t.get? l.tail = some .directory := by
  cases l with
  | nil => rfl
  | cons name l => exact hg name l h

theorem Grounded.of_append {t : Tree} (hg : t.Grounded) {names l : List String}
    (h : t.get? (names ++ l) ≠ none) (hn : names ≠ []) : t.get? l = some .directory := by
  induction names with
  | nil => exact absurd rfl hn
  | cons name names ih =>
    have hd := hg name (names ++ l) h
    by_cases he : names = []
    · simpa [he] using hd
    · exact ih (by simp [hd]) he

theorem Grounded.get?_eq_none {t : Tree} (hg : t.Grounded) {k l : Location} (hl : t.get? l = none)
    (hk : l <:+ k) : t.get? k = none := by
  obtain ⟨names, rfl⟩ := hk
  by_cases hn : names = []
  · rwa [hn]
  · by_contra hsome
    rw [hg.of_append hsome hn] at hl
    cases hl

theorem mem_entries_of_get? {t : Tree} {l : Location} {e : Entry} (hl : l ≠ [])
    (h : t.get? l = some e) : (l, e) ∈ t.entries := by
  obtain ⟨name, parent, rfl⟩ := List.exists_cons_of_ne_nil hl
  obtain ⟨before, after, hsplit, -⟩ := List.lookup_eq_some_iff.1 h
  rw [hsplit]
  simp

def isGrounded (t : Tree) : Bool :=
  t.entries.all fun (l, _) => (t.get? l.tail).any Entry.isDirectory

def isLinkFree (t : Tree) : Bool :=
  t.entries.all fun (_, e) => !(e matches .link _)

theorem grounded_of_isGrounded {t : Tree} (h : t.isGrounded = true) : t.Grounded := by
  intro name l hl
  obtain ⟨e, he⟩ := Option.ne_none_iff_exists'.1 hl
  have hm := List.all_eq_true.1 h _ (mem_entries_of_get? (by simp) he)
  obtain ⟨p, hp, hd⟩ := (Option.any_eq_true _ _).1 hm
  cases p with
  | directory => exact hp
  | _ => cases hd

theorem linkFree_of_isLinkFree {t : Tree} (h : t.isLinkFree = true) : t.LinkFree := by
  intro l target hl
  have hne : l ≠ [] := by
    rintro rfl
    cases hl
  have hm := List.all_eq_true.1 h _ (mem_entries_of_get? hne hl)
  cases hm

def at_ (t : Tree) (l : Location) : Place :=
  match t.get? l with
  | some e => .found l e
  | none => .free l

theorem at_of_some {t : Tree} {l : Location} {e : Entry} (h : t.get? l = some e) :
    t.at_ l = .found l e := by
  simp [at_, h]

theorem at_of_none {t : Tree} {l : Location} (h : t.get? l = none) : t.at_ l = .free l := by
  simp [at_, h]

theorem at_eq_found_iff {t : Tree} {l l' : Location} {e : Entry} :
    t.at_ l = .found l' e ↔ l' = l ∧ t.get? l = some e := by
  cases h : t.get? l with
  | none => simp [at_of_none h]
  | some e' =>
    rw [at_of_some h]
    constructor
    · intro heq
      cases heq
      exact ⟨rfl, rfl⟩
    · rintro ⟨rfl, he⟩
      cases he
      rfl

theorem at_eq_free_iff {t : Tree} {l l' : Location} :
    t.at_ l = .free l' ↔ l' = l ∧ t.get? l = none := by
  cases h : t.get? l with
  | some e => simp [at_of_some h]
  | none =>
    rw [at_of_none h]
    constructor
    · intro heq
      cases heq
      exact ⟨rfl, rfl⟩
    · rintro ⟨rfl, -⟩
      rfl

structure Ways (t t' : Tree) : Prop where
  directory : ∀ l, t.get? l = some .directory → t'.get? l = some .directory
  link : ∀ l target, t.get? l = some (.link target) → t'.get? l = some (.link target)

/-- More directories and files, and perhaps other bytes in the files. -/
structure Grown (t t' : Tree) : Prop extends Ways t t' where
  file : ∀ l bytes, t.get? l = some (.file bytes) → ∃ bytes', t'.get? l = some (.file bytes')
  sink : ∀ l, t.get? l = some .sink → t'.get? l = some .sink
  noLink : ∀ l target, t'.get? l = some (.link target) → t.get? l = some (.link target)
  linkCount : t'.linkCount = t.linkCount

theorem Grown.refl (t : Tree) : Grown t t :=
  ⟨⟨fun _ h => h, fun _ _ h => h⟩, fun _ bytes h => ⟨bytes, h⟩, fun _ h => h, fun _ _ h => h, rfl⟩

theorem Grown.trans {t t' t'' : Tree} (h : Grown t t') (h' : Grown t' t'') : Grown t t'' where
  directory l hl := h'.directory l (h.directory l hl)
  file l bytes hl := by
    obtain ⟨bytes', hl'⟩ := h.file l bytes hl
    exact h'.file l bytes' hl'
  link l target hl := h'.link l target (h.link l target hl)
  sink l hl := h'.sink l (h.sink l hl)
  noLink l target hl := h.noLink l target (h'.noLink l target hl)
  linkCount := h'.linkCount.trans h.linkCount

theorem Grown.linkFree {t t' : Tree} (h : Grown t t') (hf : t.LinkFree) : t'.LinkFree := by
  intro l target hl
  exact hf l target (h.noLink l target hl)

theorem Grown.get?_ne_none {t t' : Tree} (h : Grown t t') {l : Location} (hl : t.get? l ≠ none) :
    t'.get? l ≠ none := by
  obtain ⟨e, he⟩ := Option.ne_none_iff_exists'.1 hl
  cases e with
  | file bytes =>
    obtain ⟨bytes', hbytes⟩ := h.file l bytes he
    simp [hbytes]
  | directory => simp [h.directory l he]
  | link target => simp [h.link l target he]
  | sink => simp [h.sink l he]

theorem linkCount_setEntry {l : Location} {e : Entry} {es : List (Location × Entry)}
    (he : ∀ target, e ≠ .link target) (hl : ∀ target, es.lookup l ≠ some (.link target)) :
    (⟨setEntry l e es⟩ : Tree).linkCount = (⟨es⟩ : Tree).linkCount := by
  induction es with
  | nil => cases e <;> simp_all [setEntry, linkCount]
  | cons x es ih =>
    obtain ⟨k, v⟩ := x
    by_cases hk : k = l
    · subst hk
      have hv : ∀ target, v ≠ .link target := by simpa using hl
      simp only [setEntry, if_true, linkCount, List.countP_cons]
    · have hne : (l == k) = false := by simpa using Ne.symm hk
      have hi := ih (by simpa [List.lookup_cons, hne] using hl)
      simp only [linkCount] at hi
      simp only [setEntry, if_neg hk, linkCount, List.countP_cons, hi]

section Set

variable {t : Tree} {l : Location} {e : Entry}

theorem ne_nil_of_get? (hl : t.get? l ≠ some .directory) : l ≠ [] := by
  rintro rfl
  exact hl rfl

theorem Grounded.set (hg : t.Grounded) (hl : t.get? l ≠ some .directory)
    (hd : t.get? l.tail = some .directory) : (t.set l e).Grounded := by
  have hne := ne_nil_of_get? hl
  intro name k hk
  rw [get?_set t l _ e hne] at hk ⊢
  by_cases hkl : name :: k = l
  · subst hkl
    rw [if_neg (by simp)]
    exact hd
  · rw [if_neg hkl] at hk
    have hkd := hg name k hk
    rw [if_neg (by rintro rfl; exact hl hkd)]
    exact hkd

theorem Grown.set_directory (hl : t.get? l = none) : Grown t (t.set l .directory) := by
  have hget : ∀ k, (t.set l .directory).get? k = if k = l then some .directory else t.get? k :=
    fun k => get?_set t l k _ (ne_nil_of_get? (t := t) (by simp [hl]))
  have hkeep : ∀ k e, t.get? k = some e → (t.set l .directory).get? k = some e := by
    intro k e hk
    rw [hget, if_neg (by rintro rfl; simp [hl] at hk), hk]
  refine ⟨⟨fun k => hkeep k _, fun k _ => hkeep k _⟩, fun k b hk => ⟨b, hkeep k _ hk⟩,
    fun k => hkeep k _, fun k target hk => ?_, ?_⟩
  · rw [hget] at hk
    split at hk
    · cases hk
    · exact hk
  · refine linkCount_setEntry (by simp) fun target => ?_
    cases l with
    | nil => cases hl
    | cons n l =>
      simp only [get?] at hl
      simp [hl]

theorem Grown.set_file {bytes : ByteArray}
    (hl : t.get? l = none ∨ ∃ old, t.get? l = some (.file old)) :
    Grown t (t.set l (.file bytes)) := by
  have hne : l ≠ [] := ne_nil_of_get? (t := t) (by rcases hl with hl | ⟨_, hl⟩ <;> simp [hl])
  have hget : ∀ k, (t.set l (.file bytes)).get? k = if k = l then some (.file bytes) else t.get? k :=
    fun k => get?_set t l k _ hne
  have hkeep : ∀ k e, t.get? k = some e → (∀ b, e ≠ .file b) →
      (t.set l (.file bytes)).get? k = some e := by
    intro k e hk he
    rw [hget, if_neg, hk]
    rintro rfl
    rcases hl with hl | ⟨old, hl⟩
    · simp [hl] at hk
    · exact he old (by simpa [hl] using hk.symm)
  refine ⟨⟨fun k hk => hkeep k _ hk (by simp), fun k _ hk => hkeep k _ hk (by simp)⟩, fun k b hk => ?_,
    fun k hk => hkeep k _ hk (by simp), fun k target hk => ?_, ?_⟩
  · rw [hget]
    split
    · exact ⟨bytes, rfl⟩
    · exact ⟨b, hk⟩
  · rw [hget] at hk
    split at hk
    · cases hk
    · exact hk
  · refine linkCount_setEntry (by simp) fun target => ?_
    cases l with
    | nil => exact absurd rfl hne
    | cons n l => rcases hl with hl | ⟨_, hl⟩ <;> simp only [get?] at hl <;> simp [hl]

theorem Ways.of_set_file {bytes : ByteArray} (hl : t.get? l ≠ some .directory) :
    Ways (t.set l (.file bytes)) t := by
  have hget := fun k => get?_set t l k (.file bytes) (ne_nil_of_get? hl)
  constructor
  · intro k hk
    rw [hget] at hk
    split at hk
    · cases hk
    · exact hk
  · intro k target hk
    rw [hget] at hk
    split at hk
    · cases hk
    · exact hk

end Set

end Tree

end BuildScripts

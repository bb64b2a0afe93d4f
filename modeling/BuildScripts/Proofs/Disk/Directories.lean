import BuildScripts.Proofs.Disk.Reach
import BuildScripts.Proofs.Disk.Write

/-!
Directories made for a path. Main statement: where a path goes up only from directories that are
there, making its directories adds those that are missing on the way to one place, and nothing else.
-/

namespace BuildScripts

def Path.Parted (p : Path) : Prop :=
  ∀ part ∈ p.parts, part ≠ "" ∧ part ≠ "."

theorem Path.parted_ofText (text : String) : (Path.ofText text).Parted := by
  intro part hpart
  simpa using (List.mem_filter.1 hpart).2

theorem Path.Parted.descend {p : Path} {names : List String} (h : p.Parted)
    (hn : ∀ name ∈ names, IsName name) : (p.descend names).Parted := by
  intro part hpart
  rcases List.mem_append.1 hpart with hpart | hpart
  · exact h part hpart
  · exact ⟨(hn part hpart).notEmpty, (hn part hpart).notHere⟩

namespace Disk

variable {d d' : Disk} {p : Path} {l l' : Location} {name : String} {why : Refusal}

/-- A path goes up only from directories that are there. -/
def Steady (d : Disk) (p : Path) : Prop :=
  ∀ front rest, p.parts = front ++ ".." :: rest → ∃ l, d.Enters ⟨p.anchor, front⟩ l

theorem Enters.steady (h : d.Enters p l) : d.Steady p := by
  intro front rest hparts
  have hfront : p = (⟨p.anchor, front⟩ : Path).descend (".." :: rest) := by
    rw [Path.descend, ← hparts]
  rw [hfront] at h
  exact h.of_descend

theorem steady_of_no_up (h : ".." ∉ p.parts) : d.Steady p := by
  intro front rest hparts
  exact absurd (by simp [hparts]) h

theorem Steady.descend {names : List String} (h : d.Steady p) (hn : ∀ name ∈ names, IsName name) :
    d.Steady (p.descend names) := by
  intro front rest hparts
  have hup : ".." ∉ names := fun hmem => not_isName_up (hn ".." hmem)
  rw [Path.parts_descend] at hparts
  rcases List.append_eq_append_iff.1 hparts with ⟨middle, -, hnames⟩ | ⟨middle, hp, hrest⟩
  · exact absurd (by simp [hnames]) hup
  · cases middle with
    | nil =>
      rw [List.nil_append] at hrest
      exact absurd (hrest ▸ List.mem_cons_self) hup
    | cons part middle =>
      rw [List.cons_append, List.cons.injEq] at hrest
      obtain ⟨rfl, -⟩ := hrest
      exact h front middle hp

/-- A path leads to a place through directories that are there and then down by names that are not.
-/
def Lands (d : Disk) (p : Path) (l : Location) : Prop :=
  ∃ front back l₀, p.parts = front ++ back ∧ d.Enters ⟨p.anchor, front⟩ l₀ ∧
    (∀ name ∈ back, IsName name) ∧
    (∀ name rest, back = name :: rest → d.tree.get? (name :: l₀) = none) ∧ l = back.reverse ++ l₀

theorem Enters.lands (h : d.Enters p l) : d.Lands p l := by
  refine ⟨p.parts, [], l, (List.append_nil _).symm, h, ?_, ?_, rfl⟩
  · intro name hname
    cases hname
  · intro name rest heq
    cases heq

theorem Lands.child (h : d.Lands p l) (hn : IsName name) (hfree : d.tree.get? (name :: l) = none) :
    d.Lands (p.child name) (name :: l) := by
  obtain ⟨front, back, l₀, hparts, hl₀, hback, hhead, rfl⟩ := h
  refine ⟨front, back ++ [name], l₀, ?_, hl₀, ?_, ?_, by simp⟩
  · rw [Path.parts_child, hparts, List.append_assoc]
  · rw [List.forall_mem_append, List.forall_mem_singleton]
    exact ⟨hback, hn⟩
  · intro first rest heq
    cases back with
    | nil =>
      cases heq
      exact hfree
    | cons first' back' =>
      cases heq
      exact hhead first back' rfl

theorem Lands.enters (h : d.Lands p l) (hg : d.tree.Grounded) (hl : d.tree.get? l ≠ none) :
    d.Enters p l := by
  obtain ⟨front, back, l₀, hparts, hl₀, -, hhead, rfl⟩ := h
  cases back with
  | nil =>
    obtain ⟨anchor, parts⟩ := p
    simp only [List.append_nil] at hparts
    subst hparts
    exact hl₀
  | cons name rest =>
    exact absurd (hg.get?_eq_none (hhead name rest rfl) ⟨rest.reverse, by simp⟩) hl

theorem Lands.of_descend {names : List String} (h : d.Lands (p.descend names) l) :
    ∃ l', d.Lands p l' := by
  obtain ⟨front, back, l₀, hparts, hl₀, hback, hhead, rfl⟩ := h
  rcases List.append_eq_append_iff.1 hparts with ⟨middle, rfl, -⟩ | ⟨middle, hp, rfl⟩
  · obtain ⟨l', hl'⟩ := Enters.of_descend (p := p) hl₀
    exact ⟨l', hl'.lands⟩
  · refine ⟨_, front, middle, l₀, hp, hl₀, fun name hname => hback name (by simp [hname]), ?_, rfl⟩
    rintro name rest rfl
    exact hhead name (rest ++ names) rfl

theorem Lands.enters_unique (h : d.Lands p l) (hg : d.tree.Grounded) (hs : d.Starts p)
    (hh : d'.here = d.here) (hgr : d.tree.Grown d'.tree) (h' : d'.Enters p l') : l' = l := by
  obtain ⟨front, back, l₀, hparts, hl₀, hback, hhead, rfl⟩ := h
  have hp : p = (⟨p.anchor, front⟩ : Path).descend back := by rw [Path.descend, ← hparts]
  rw [hp] at h'
  apply (hl₀.of_ways hh hgr.toWays).descend_unique hback ?_ h'
  -- There is a directory first on the way, and nothing behind it.
  intro k target hk hk' hlink
  have hthere := hgr.noLink k target hlink
  have hne : k ≠ l₀ := by
    rintro rfl
    rw [hl₀.directory hg hs] at hthere
    cases hthere
  cases back with
  | nil => exact hne (hk.eq_of_length_le hk'.length_le).symm
  | cons name rest =>
    have hbehind : name :: l₀ <:+ (name :: rest).reverse ++ l₀ := ⟨rest.reverse, by simp⟩
    rcases List.suffix_or_suffix_of_suffix hbehind hk' with hle | hle
    · rw [hg.get?_eq_none (hhead name rest rfl) hle] at hthere
      cases hthere
    · rcases List.suffix_cons_iff.1 hle with rfl | hle
      · rw [hhead name rest rfl] at hthere
        cases hthere
      · exact hne (hk.eq_of_length_le hle.length_le).symm

/-- The missing directories on the way to a place have been made, and nothing else has changed. -/
structure Opened (l : Location) (d d' : Disk) : Prop where
  here : d'.here = d.here
  held : ∀ k, d'.tree.get? k =
    if k <:+ l ∧ d.tree.get? k = none then some .directory else d.tree.get? k

theorem get?_of_suffix {t : Tree} (hg : t.Grounded) {k : Location} (hk : k <:+ l)
    (hl : t.get? l = some .directory) : t.get? k = some .directory := by
  obtain ⟨names, rfl⟩ := hk
  by_cases hn : names = []
  · rwa [hn] at hl
  · exact hg.of_append (by simp [hl]) hn

theorem Opened.refl (hg : d.tree.Grounded) (hl : d.tree.get? l = some .directory) :
    Opened l d d where
  here := rfl
  held k := by
    rw [if_neg]
    rintro ⟨hk, hnone⟩
    rw [get?_of_suffix hg hk hl] at hnone
    cases hnone

theorem Opened.get?_eq_none (h : Opened l d d') {k : Location} (hk : d'.tree.get? k = none) :
    d.tree.get? k = none := by
  have hheld := h.held k
  rw [hk] at hheld
  split at hheld
  · cases hheld
  · exact hheld.symm

theorem Opened.child (h : Opened l d d') (hfree : d'.tree.get? (name :: l) = none) :
    Opened (name :: l) d (d'.setEntry (name :: l) .directory) where
  here := h.here
  held k := by
    have hset := Tree.get?_set d'.tree (name :: l) k .directory (List.cons_ne_nil _ _)
    change (d'.tree.set (name :: l) .directory).get? k = _
    rw [hset, h.held k]
    by_cases hk : k = name :: l
    · subst hk
      rw [if_pos rfl, if_pos ⟨List.suffix_rfl, h.get?_eq_none hfree⟩]
    · simp only [hk, if_false, List.suffix_cons_iff, false_or]

theorem Opened.get?_cons (h : Opened l d d') (name : String) :
    d'.tree.get? (name :: l) = d.tree.get? (name :: l) := by
  rw [h.held, if_neg]
  rintro ⟨hsuffix, -⟩
  have hlength := hsuffix.length_le
  rw [List.length_cons] at hlength
  omega

section Make

variable {anchor : Anchor} {parents names : List String}

theorem acceptDirectory_eq_ok (h : acceptDirectory why p d = .ok () d') :
    d' = d ∧ d.isDirectory p = .ok true := by
  rw [acceptDirectory_run] at h
  split at h
  · rename_i hd
    cases h
    exact ⟨rfl, hd⟩
  · cases h
  · cases h

theorem makeInParents_eq_ok (h : makeInParents p d = .ok () d') :
    d.makeDirectory p = .ok d' ∨ d' = d ∧ d.isDirectory p = .ok true := by
  rw [makeInParents, Attempt.get_bind] at h
  cases hm : d.makeDirectory p with
  | ok d₁ =>
    rw [hm] at h
    cases h
    exact .inl rfl
  | error why =>
    rw [hm] at h
    cases why with
    | noEntry => cases h
    | _ => exact .inr (acceptDirectory_eq_ok h)

theorem makeWithParents_eq_ok
    (h : makeWithParents anchor (name :: parents) d = .ok () d') :
    d.makeDirectory ⟨anchor, (name :: parents).reverse⟩ = .ok d' ∨
      (d' = d ∧ d.isDirectory ⟨anchor, (name :: parents).reverse⟩ = .ok true) ∨
      (d.makeDirectory ⟨anchor, (name :: parents).reverse⟩ = .error .noEntry ∧
        ∃ d₁, makeWithParents anchor parents d = .ok () d₁ ∧
          makeInParents ⟨anchor, (name :: parents).reverse⟩ d₁ = .ok () d') := by
  cases hm : d.makeDirectory ⟨anchor, (name :: parents).reverse⟩ with
  | ok d₁ =>
    rw [makeWithParents_of_ok hm] at h
    cases h
    exact .inl rfl
  | error why =>
    by_cases hw : why = .noEntry
    · subst hw
      rw [makeWithParents_of_noEntry hm] at h
      obtain ⟨_, d₁, hp, hi⟩ := Attempt.bind_eq_ok.1 h
      exact .inr (.inr ⟨rfl, d₁, hp, hi⟩)
    · rw [makeWithParents_of_refused hw hm] at h
      exact .inr (.inl (acceptDirectory_eq_ok h))

theorem isDirectory_of_makeDirectory (hg : d.tree.Grounded) (hs : d.Starts p)
    (hn : p.hasNull = false) (hm : d.makeDirectory p = .ok d') : d'.isDirectory p = .ok true := by
  obtain ⟨l, hseek, rfl⟩ := makeDirectory_eq_ok_iff.1 hm
  obtain ⟨hfree, -⟩ := free_of_seek hg hs hseek
  have hne := Tree.ne_nil_of_get? (t := d.tree) (l := l) (by simp [hfree])
  have hthere : (d.setEntry l .directory).tree.get? l = some .directory := by
    rw [setEntry, Tree.get?_set _ _ _ _ hne, if_pos rfl]
  have hgrown : d.tree.Grown (d.setEntry l .directory).tree := .set_directory hfree
  have hseek' := seek_of_grown hgrown hg rfl hs hseek
  rw [Place.location, Tree.at_of_some hthere] at hseek'
  exact isDirectory_eq_true_iff.2 ⟨hn, size_le_of_seek hseek', l, enters_of_seek hseek'⟩

theorem makeDirectory_of_enters (h : d.Enters p l) :
    d.makeDirectory p = .error .alreadyThere ∨ d.makeDirectory p = .error .nameTooLong := by
  by_cases hlong : longestPath < p.toText.utf8ByteSize
  · exact .inr (by rw [makeDirectory, seek_of_long hlong])
  · have hfind := find_eq_directory_iff.2 ⟨by omega, h⟩
    obtain ⟨l', e', hs⟩ := seek_entry_of_target (find_eq_ok_iff.1 hfind)
    exact .inl (by rw [makeDirectory, hs])

theorem Enters.up (h : d.Enters p l) : d.Enters (p.child "..") l.tail := by
  obtain ⟨k, h⟩ := h
  exact ⟨k, h.append (.up .stop)⟩

section Child

variable (h : d.Enters p l) (hpart : name ≠ "" ∧ name ≠ ".")
include h hpart

theorem Enters.makeDirectory_child (hm : d.makeDirectory (p.child name) = .ok d') :
    IsName name ∧ d.tree.get? (name :: l) = none ∧ d' = d.setEntry (name :: l) .directory := by
  rcases name_cases name with hn | hn | rfl | hn
  · exact absurd hn hpart.1
  · exact absurd hn hpart.2
  · rcases makeDirectory_of_enters h.up with hm' | hm'
    · rw [hm] at hm'
      cases hm'
    · rw [hm] at hm'
      cases hm'
  · obtain ⟨l', hs, rfl⟩ := makeDirectory_eq_ok_iff.1 hm
    obtain ⟨rfl, hfree⟩ := Tree.at_eq_free_iff.1 (h.seek_child_of_ok hn (.inl rfl) hs).symm
    exact ⟨hn, hfree, rfl⟩

theorem Enters.makeDirectory_ne_noEntry :
    d.makeDirectory (p.child name) ≠ .error .noEntry := by
  rcases name_cases name with hn | hn | rfl | hn
  · exact absurd hn hpart.1
  · exact absurd hn hpart.2
  · rcases makeDirectory_of_enters h.up with hm | hm
    · simp [hm]
    · simp [hm]
  · rw [makeDirectory]
    rcases h.seek_child hn .entry (.inl rfl) with hs | hs
    · simp [hs]
    · rw [hs]
      cases hget : d.tree.get? (name :: l) with
      | none => simp [Tree.at_of_none hget]
      | some e => simp [Tree.at_of_some hget]

theorem Enters.child_of_made (hg : d.tree.Grounded) (hs : d.Starts p)
    (hnull : (p.child name).hasNull = false) (hm : d.makeDirectory (p.child name) = .ok d') :
    d'.Enters (p.child name) (name :: l) := by
  have hs' : d.Starts (p.child name) := hs
  have hthere := isDirectory_of_makeDirectory hg hs' hnull hm
  obtain ⟨-, -, l', hl'⟩ := isDirectory_eq_true_iff.1 hthere
  obtain ⟨hn, hfree, rfl⟩ := h.makeDirectory_child hpart hm
  have hset : (d.setEntry (name :: l) .directory).tree.get? (name :: l) = some .directory := by
    rw [setEntry, Tree.get?_set _ _ _ _ (List.cons_ne_nil _ _), if_pos rfl]
  have hstill : (d.setEntry (name :: l) .directory).Enters p l :=
    h.of_ways rfl (Tree.Grown.set_directory hfree).toWays
  obtain ⟨rfl, -⟩ := hstill.child_unique hn (by simp [hset]) hl'
  exact hl'

end Child

theorem Steady.parent (h : d.Steady (p.child name)) : d.Steady p := by
  intro front rest hparts
  apply h front (rest ++ [name])
  rw [Path.parts_child, hparts, List.append_assoc]
  rfl

theorem reverse_cons_eq_child (anchor : Anchor) (name : String) (parents : List String) :
    (⟨anchor, (name :: parents).reverse⟩ : Path) =
      (⟨anchor, parents.reverse⟩ : Path).child name := by
  simp [Path.child]

theorem Lands.free_of_noEntry (h : d.Lands p l) (hg : d.tree.Grounded)
    (hpart : name ≠ "" ∧ name ≠ ".") (hup : d.Steady (p.child name))
    (hno : d.makeDirectory (p.child name) = .error .noEntry) :
    IsName name ∧ d.tree.get? l = none := by
  have hnot : ∀ l, ¬d.Enters p l := fun l hl => hl.makeDirectory_ne_noEntry hpart hno
  constructor
  · rcases name_cases name with hn | hn | rfl | hn
    · exact absurd hn hpart.1
    · exact absurd hn hpart.2
    · obtain ⟨l, hl⟩ := hup p.parts [] rfl
      exact absurd hl (hnot l)
    · exact hn
  · by_contra hsome
    exact hnot l (h.enters hg hsome)

theorem opened_of_makeInParents {d₁ : Disk} (hg : d.tree.Grounded) (hg₁ : d₁.tree.Grounded)
    (hs₁ : d₁.Starts p) (hpart : name ≠ "" ∧ name ≠ ".") (hup : d.Steady (p.child name))
    (hnull : (p.child name).hasNull = false)
    (hno : d.makeDirectory (p.child name) = .error .noEntry) (hlands : d.Lands p l)
    (hl : d₁.Enters p l) (hopened : Opened l d d₁)
    (h : makeInParents (p.child name) d₁ = .ok () d') :
    ∃ l', d.Lands (p.child name) l' ∧ d'.Enters (p.child name) l' ∧ Opened l' d d' := by
  obtain ⟨hn, hfree⟩ := hlands.free_of_noEntry hg hpart hup hno
  have hempty : d.tree.get? (name :: l) = none := hg.get?_eq_none hfree (List.suffix_cons _ _)
  rcases makeInParents_eq_ok h with hm | ⟨rfl, hd⟩
  · have hchild := hl.child_of_made hpart hg₁ hs₁ hnull hm
    obtain ⟨-, hfree₁, rfl⟩ := hl.makeDirectory_child hpart hm
    exact ⟨name :: l, hlands.child hn hempty, hchild, hopened.child hfree₁⟩
  · obtain ⟨-, -, l', hl'⟩ := isDirectory_eq_true_iff.1 hd
    have hempty₁ := (hopened.get?_cons name).trans hempty
    obtain ⟨-, hdir⟩ := hl.child_unique hn (by simp [hempty₁]) hl'
    rw [hempty₁] at hdir
    cases hdir

theorem opened_of_makeWithParents (hg : d.tree.Grounded) (hs : d.Starts ⟨anchor, names.reverse⟩)
    (hup : d.Steady ⟨anchor, names.reverse⟩) (hparts : (⟨anchor, names.reverse⟩ : Path).Parted)
    (hnull : (⟨anchor, names.reverse⟩ : Path).hasNull = false)
    (h : makeWithParents anchor names d = .ok () d') :
    ∃ l, d.Lands ⟨anchor, names.reverse⟩ l ∧ d'.Enters ⟨anchor, names.reverse⟩ l ∧
      Opened l d d' := by
  induction names generalizing d' with
  | nil =>
    cases h
    have hstart : d.Enters ⟨anchor, []⟩ (d.start ⟨anchor, []⟩) := ⟨_, .stop⟩
    exact ⟨_, hstart.lands, hstart, .refl hg hs⟩
  | cons name parents ih =>
    rw [reverse_cons_eq_child] at hs hup hparts hnull ⊢
    have hpart : name ≠ "" ∧ name ≠ "." := hparts name (by simp)
    rcases makeWithParents_eq_ok h with hm | ⟨rfl, hd⟩ | ⟨hno, d₁, hp, hi⟩
    · rw [reverse_cons_eq_child] at hm
      obtain ⟨l', hseek, -⟩ := makeDirectory_eq_ok_iff.1 hm
      obtain ⟨l, hl⟩ := enters_of_seek_child hseek
      have hchild := hl.child_of_made hpart hg hs hnull hm
      obtain ⟨hn, hfree, rfl⟩ := hl.makeDirectory_child hpart hm
      have hopened := Opened.refl hg (hl.directory hg hs)
      exact ⟨name :: l, hl.lands.child hn hfree, hchild, hopened.child hfree⟩
    · rw [reverse_cons_eq_child] at hd
      obtain ⟨-, -, l, hl⟩ := isDirectory_eq_true_iff.1 hd
      exact ⟨l, hl.lands, hl, .refl hg (hl.directory hg hs)⟩
    · rw [reverse_cons_eq_child] at hno hi
      have hs' : d.Starts ⟨anchor, parents.reverse⟩ := hs
      have hmade := made_of_makeWithParents hg hs'
      rw [Attempt.after_of_ok hp] at hmade
      obtain ⟨l, hlands, hl, hopened⟩ := ih hs hup.parent
        (fun part hpart => hparts part (List.mem_append_left _ hpart))
        (Path.hasNull_child.1 hnull).1 hp
      exact opened_of_makeInParents hg hmade.grounded (hs'.of_grown hmade.here hmade.grown) hpart hup
        hnull hno hlands hl hopened hi

theorem opened_of_makeDirectories (hg : d.tree.Grounded) (hs : d.Starts p) (hup : d.Steady p)
    (hparts : p.Parted) (h : makeDirectories p d = .ok () d') :
    ∃ l, d.Lands p l ∧ d'.Enters p l ∧ Opened l d d' := by
  obtain ⟨anchor, parts⟩ := p
  rw [makeDirectories] at h
  split at h
  · cases h
  · rename_i hnull
    rw [← List.reverse_reverse parts] at hs hup hparts hnull ⊢
    exact opened_of_makeWithParents hg hs hup hparts (Bool.not_eq_true _ ▸ hnull) h

theorem isDirectory_of_makeDirectories (hg : d.tree.Grounded) (hs : d.Starts p)
    (h : makeDirectories p d = .ok () d') : d'.isDirectory p = .ok true := by
  obtain ⟨anchor, parts⟩ := p
  rw [makeDirectories] at h
  split at h
  · cases h
  · rename_i hnull
    rw [Bool.not_eq_true] at hnull
    cases hr : parts.reverse with
    | nil =>
      have hnil : parts = [] := List.reverse_eq_nil_iff.1 hr
      subst hnil
      cases h
      refine isDirectory_eq_true_iff.2 ⟨hnull, ?_, _, _, .stop⟩
      cases anchor <;> decide
    | cons name parents =>
      have hparts : parts = (name :: parents).reverse := by rw [← hr, List.reverse_reverse]
      subst hparts
      rw [List.reverse_reverse] at h
      rcases makeWithParents_eq_ok h with hm | ⟨rfl, hd⟩ | ⟨-, d₁, hp, hi⟩
      · exact isDirectory_of_makeDirectory hg hs hnull hm
      · exact hd
      · have hmade : Made _ parents.reverse d ((makeWithParents anchor parents).after d) :=
          made_of_makeWithParents hg hs
        rw [Attempt.after_of_ok hp] at hmade
        rcases makeInParents_eq_ok hi with hm | ⟨rfl, hd⟩
        · exact isDirectory_of_makeDirectory hmade.grounded
            (Starts.of_grown hs hmade.here hmade.grown) hnull hm
        · exact hd

end Make

end Disk

end BuildScripts

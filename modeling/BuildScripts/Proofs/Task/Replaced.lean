import BuildScripts.Proofs.Task.CopyOne
import BuildScripts.Proofs.Task.Spread

namespace BuildScripts

open Attempt

def Tree.goalAt (t : Tree) : Location → Location
  | [] => []
  | name :: l =>
    match t.get? (name :: l) with
    | some .directory => name :: name :: l
    | _ => name :: l

def Tree.PlainBelow (t : Tree) (l : Location) : Prop :=
  ∀ k e, l <:+ k → t.get? k = some e → e = .directory ∨ ∃ bytes, e = .file bytes

section Tree

variable {t t' : Tree} {name : String} {l k : Location}

theorem Tree.goalAt_of_directory (h : t.get? (name :: l) = some .directory) :
    t.goalAt (name :: l) = name :: name :: l := by
  rw [goalAt, h]

theorem Tree.goalAt_of_not_directory (h : t.get? l ≠ some .directory) : t.goalAt l = l := by
  cases l with
  | nil => rfl
  | cons name l =>
    rw [goalAt]
    split
    · exact absurd ‹_› h
    · rfl

theorem Tree.goalAt_cases (t : Tree) (l : Location) :
    t.goalAt l = l ∨ ∃ name, t.goalAt l = name :: l := by
  cases l with
  | nil => exact .inl rfl
  | cons name l =>
    rw [goalAt]
    split
    · exact .inr ⟨name, rfl⟩
    · exact .inl rfl

theorem Tree.suffix_goalAt (t : Tree) (l : Location) : l <:+ t.goalAt l := by
  rcases t.goalAt_cases l with h | ⟨name, h⟩
  · rw [h]
  · rw [h]
    exact List.suffix_cons name l

theorem Tree.suffix_goalAt_append (t : Tree) (names : List String) (l : Location) :
    l <:+ t.goalAt (names ++ l) :=
  (List.suffix_append names l).trans (t.suffix_goalAt _)

theorem Tree.goalAt_ne (t : Tree) {rel rel' : List String} (h : IncompRel (· <+: ·) rel rel') :
    t.goalAt (rel.reverse ++ l) ≠ t.goalAt (rel'.reverse ++ l) := by
  intro heq
  have hrel := t.suffix_goalAt (rel.reverse ++ l)
  have hrel' := t.suffix_goalAt (rel'.reverse ++ l)
  rw [heq] at hrel
  rcases List.suffix_or_suffix_of_suffix hrel hrel' with hle | hle
  · exact h.1 (prefix_of_suffix hle)
  · exact h.2 (prefix_of_suffix hle)

theorem Tree.PlainBelow.linkFree (h : t.PlainBelow l) : t.LinkFreeBelow l := by
  intro k target hk he
  rcases h k _ hk he with hdir | ⟨bytes, hfile⟩
  · cases hdir
  · cases hfile

theorem Tree.PlainBelow.ne_sink (h : t.PlainBelow l) (hk : l <:+ k) : t.get? k ≠ some .sink := by
  intro he
  rcases h k _ hk he with hdir | ⟨bytes, hfile⟩
  · cases hdir
  · cases hfile

theorem Tree.PlainBelow.of_places (h : t.PlainBelow l)
    (hplaces : ∀ k, t'.get? k = t.get? k ∨ t'.get? k = some .directory ∨
      ∃ bytes, t'.get? k = some (.file bytes)) : t'.PlainBelow l := by
  intro k e hk he
  rcases hplaces k with hsame | hdir | ⟨bytes, hfile⟩
  · exact h k e hk (hsame ▸ he)
  · exact .inl (Option.some.inj (he.symm.trans hdir))
  · exact .inr ⟨bytes, Option.some.inj (he.symm.trans hfile)⟩

end Tree

namespace Disk

variable {d : Disk} {p : Path} {l k place : Location} {name : String}

theorem Enters.openForWriting_child (h : d.Enters p l) (hn : IsName name)
    (hlink : ∀ target, d.tree.get? (name :: l) ≠ some (.link target))
    (ho : d.openForWriting (p.child name) = .ok k) : k = name :: l := by
  rcases openForWriting_eq_ok_iff.1 ho with hs | ⟨old, hs⟩ | hs
  · exact (Tree.at_eq_free_iff.1 (h.seek_child_of_ok hn (.inr hlink) hs).symm).1
  · exact (Tree.at_eq_found_iff.1 (h.seek_child_of_ok hn (.inr hlink) hs).symm).1
  · exact (Tree.at_eq_found_iff.1 (h.seek_child_of_ok hn (.inr hlink) hs).symm).1

theorem Filled.not_directory {d' : Disk} {t : Tree} {bytes : ByteArray} (h : Filled l bytes d d')
    (hgr : d'.tree.Grown t) : t.get? l ≠ some .directory := by
  have hheld := h.held
  rcases filled_cases (d.tree.get? l) bytes with hsink | hfile
  · rw [hsink] at hheld
    simp [hgr.sink l hheld]
  · rw [hfile] at hheld
    obtain ⟨bytes', hfile'⟩ := hgr.file l bytes hheld
    simp [hfile']

def Avoids (d : Disk) (p : Path) (place : Location) : Prop :=
  ∀ names, (∀ name ∈ names, IsName name) → ∀ k e, d.find (p.descend names) = .ok (k, e) →
    ¬place <:+ k

theorem avoids_of_linkFree (hl : d.Enters p l) (hfree : d.tree.LinkFreeBelow l)
    (hout : ¬place <:+ l) (hin : ¬l <:+ place) : d.Avoids p place := by
  intro names hnames k e hfind hk
  rw [hl.find_descend hfree hnames hfind] at hk
  rcases List.suffix_or_suffix_of_suffix hk (List.suffix_append names.reverse l) with h | h
  · exact hout h
  · exact hin h

theorem Grew.readBytes_eq {d' : Disk} {bytes : ByteArray} (hg : d.Grew d') (hd : d.Proper)
    (h : d.readBytes p = .ok bytes)
    (hsame : ∀ k e, d'.find p = .ok (k, e) → d.tree.get? k ≠ none →
      d'.tree.get? k = d.tree.get? k) : d'.readBytes p = .ok bytes := by
  obtain ⟨hnull, k, e, hfind, hcontent⟩ := readBytes_eq_ok_iff.1 h
  have hget := found_of_seek hd.grounded (hd.starts p) (find_eq_ok_iff.1 hfind)
  have hsome : d.tree.get? k ≠ none := by simp [hget]
  obtain ⟨e', he'⟩ := Option.ne_none_iff_exists'.1 (hg.grown.get?_ne_none hsome)
  have hfind' := hg.find_of_get? hd hfind he'
  rw [hsame k e' hfind' hsome, hget] at he'
  cases he'
  exact readBytes_eq_ok_iff.2 ⟨hnull, k, e, hfind', hcontent⟩

end Disk

namespace CopyTask

/-- Files from below one path have been copied to below a place: each path recorded leads there, and
the file stands there or in the directory that stands there. -/
structure Replaced (source destination : Path) (place : Location) (rels : List (List String))
    (d d' : Disk) : Prop where
  found : ∀ rel ∈ rels, ∃ e, d'.find (destination.descend rel) = .ok (rel.reverse ++ place, e)
  files : ∀ rel ∈ rels, ∃ bytes, d'.readBytes (source.descend rel) = .ok bytes ∧
    d'.tree.get? (d'.tree.goalAt (rel.reverse ++ place)) = some (.file bytes)
  others : ∀ k, d'.tree.get? k ≠ d.tree.get? k →
    (∃ rel ∈ rels, k = d'.tree.goalAt (rel.reverse ++ place)) ∨
      d.tree.get? k = none ∧ d'.tree.get? k = some .directory

section Step

variable {source destination : Path} {place k : Location} {way : List String} {name : String}
  {j : CopyJob} {opened written d' : Disk}

section Copied

variable {overwrite : Bool}
  (h : Copied overwrite (source.descend (way ++ [name])) (destination.descend way) j opened written)
  (hp : j.disk.Proper) (hnames : ∀ part ∈ way ++ [name], IsName part) (hlater : written.Grew d')
  (hplace : d'.Enters destination place)
include h hp hnames hlater hplace

theorem Copied.entered (hfree : j.disk.tree.LinkFreeBelow place) :
    opened.Enters (destination.descend way) (way.reverse ++ place) := by
  have hway : ∀ part ∈ way, IsName part := fun part hpart => hnames part (by simp [hpart])
  obtain ⟨-, -, -, -, hgrew, -⟩ := h.writes hp
  obtain ⟨-, -, l, hl⟩ := Disk.isDirectory_eq_true_iff.1 (h.isDirectory hp)
  obtain ⟨place', hplace'⟩ := hl.of_descend
  obtain rfl := hplace.unique ((hgrew.trans hlater).enters hplace')
  obtain rfl := hplace'.descend_unique hway
    (fun k target hk _ => hfree.of_grown (h.opens hp).1.grown k target hk) hl
  exact hl

theorem Copied.put (hplain : j.disk.tree.PlainBelow place) :
    ∃ read, opened.readBytes (source.descend (way ++ [name])) = .ok read ∧
      written.tree.get? (d'.tree.goalAt ((way ++ [name]).reverse ++ place)) = some (.file read) ∧
      (∀ k, k ≠ d'.tree.goalAt ((way ++ [name]).reverse ++ place) →
        written.tree.get? k = opened.tree.get? k) ∧
      ∃ e, d'.find (destination.descend (way ++ [name])) =
        .ok ((way ++ [name]).reverse ++ place, e) := by
  have hname : IsName name := hnames name (by simp)
  have hentered := h.entered hp hnames hlater hplace hplain.linkFree
  obtain ⟨hopened, hplaces⟩ := h.opens hp
  obtain ⟨read, g, hread, ho, hgrew, hfilled⟩ := h.writes hp
  have hplain' : opened.tree.PlainBelow place :=
    hplain.of_places fun k => (hplaces k).imp id fun hnew => .inl hnew.2
  have hnoLink := hplain'.linkFree
  have hbelow : place <:+ name :: (way.reverse ++ place) :=
    (List.suffix_append _ _).trans (List.suffix_cons _ _)
  have hk : (way ++ [name]).reverse ++ place = name :: (way.reverse ++ place) := by simp
  have hpath : destination.descend (way ++ [name]) = (destination.descend way).child name :=
    (Path.descend_child ..).symm
  rw [Path.name_descend] at ho
  rw [hk, hpath]
  -- It is a directory that decides where the file is written, and it is one from then on.
  by_cases hdir : opened.isDirectoryAt ((destination.descend way).child name) = true
  · obtain ⟨l, hl⟩ := Disk.isDirectoryAt_eq_true_iff.1 hdir
    obtain ⟨hshort, hl⟩ := Disk.find_eq_directory_iff.1 hl
    obtain ⟨rfl, hget⟩ := hentered.child_unique hname (fun target => hnoLink _ target hbelow) hl
    have hbelow' := hbelow.trans (List.suffix_cons name _)
    rw [Disk.goal, if_pos hdir, Path.name_descend] at ho
    obtain rfl := hl.openForWriting_child hname (fun target => hnoLink _ target hbelow') ho
    rw [Tree.goalAt_of_directory ((hgrew.trans hlater).grown.directory _ hget)]
    refine ⟨read, hread, ?_, hfilled.others, .directory, ?_⟩
    · rw [hfilled.held, Disk.filled_of_ne_sink (hplain'.ne_sink hbelow')]
    · exact Disk.find_eq_directory_iff.2 ⟨hshort, (hgrew.trans hlater).enters hl⟩
  · rw [Disk.goal, if_neg hdir] at ho
    obtain rfl := hentered.openForWriting_child hname (fun target => hnoLink _ target hbelow) ho
    have hheld := hfilled.held
    rw [Disk.filled_of_ne_sink (hplain'.ne_sink hbelow)] at hheld
    obtain ⟨bytes, hfile⟩ := hlater.grown.file _ _ hheld
    rw [Tree.goalAt_of_not_directory (by simp [hfile])]
    refine ⟨read, hread, hheld, hfilled.others, .file bytes, ?_⟩
    have hall := hgrew.trans hlater
    exact Disk.find_of_openForWriting hopened.proper.grounded (hopened.proper.starts _) ho hall.here
      hall.grown hfile

end Copied

section Replaced

variable {rel : List String} {rels : List (List String)} {bytes : ByteArray} {d d₁ : Disk}

namespace Replaced

theorem get?_eq (h : Replaced source destination place rels d d') (hk : d.tree.get? k ≠ none)
    (hgoals : ∀ rel ∈ rels, k ≠ d'.tree.goalAt (rel.reverse ++ place)) :
    d'.tree.get? k = d.tree.get? k := by
  by_contra hne
  rcases h.others k hne with ⟨rel, hrel, heq⟩ | ⟨hnone, -⟩
  · exact hgoals rel hrel heq
  · exact hk hnone

theorem get?_of_outside (h : Replaced source destination place rels d d')
    (hk : d.tree.get? k ≠ none) (hout : ¬place <:+ k) : d'.tree.get? k = d.tree.get? k := by
  apply h.get?_eq hk
  rintro rel - rfl
  exact hout (Tree.suffix_goalAt_append _ _ _)

theorem get?_of_avoids (h : Replaced source destination place rels d d') (hp : d'.Proper) {p : Path}
    (havoids : d'.Avoids p place) {names : List String} (hnames : ∀ part ∈ names, IsName part)
    {e : Entry} (hfind : d'.find (p.descend names) = .ok (k, e)) (he : e ≠ .directory) :
    d.tree.get? k = some e := by
  have hget := Disk.found_of_seek hp.grounded (hp.starts _) (Disk.find_eq_ok_iff.1 hfind)
  by_contra hne
  rcases h.others k (by rw [hget]; exact Ne.symm hne) with ⟨rel, -, rfl⟩ | ⟨-, hdir⟩
  · exact havoids names hnames _ e hfind (Tree.suffix_goalAt_append _ _ _)
  · rw [hget] at hdir
    exact he (Option.some.inj hdir)

theorem cons (h : Replaced source destination place rels d₁ d') (hgrown : d₁.tree.Grown d'.tree)
    (hapart : ∀ rel' ∈ rels, IncompRel (· <+: ·) rel rel')
    (hfound : ∃ e, d'.find (destination.descend rel) = .ok (rel.reverse ++ place, e))
    (hread : d'.readBytes (source.descend rel) = .ok bytes)
    (hfile : d₁.tree.get? (d'.tree.goalAt (rel.reverse ++ place)) = some (.file bytes))
    (hothers : ∀ k, k ≠ d'.tree.goalAt (rel.reverse ++ place) →
      d₁.tree.get? k = d.tree.get? k ∨
        d.tree.get? k = none ∧ d₁.tree.get? k = some .directory) :
    Replaced source destination place (rel :: rels) d d' where
  found := List.forall_mem_cons.2 ⟨hfound, h.found⟩
  files := by
    rw [List.forall_mem_cons]
    refine ⟨⟨bytes, hread, ?_⟩, h.files⟩
    rw [h.get?_eq (by simp [hfile]) fun rel' hrel' => Tree.goalAt_ne _ (hapart rel' hrel'), hfile]
  others k hk := by
    by_cases hgoal : k = d'.tree.goalAt (rel.reverse ++ place)
    · exact .inl ⟨rel, List.mem_cons_self, hgoal⟩
    · rcases hothers k hgoal with hsame | ⟨hnone, hdir⟩
      · rw [← hsame] at hk ⊢
        rcases h.others k hk with ⟨rel', hrel', heq⟩ | hnew
        · exact .inl ⟨rel', List.mem_cons_of_mem _ hrel', heq⟩
        · exact .inr hnew
      · exact .inr ⟨hnone, hgrown.directory k hdir⟩

end Replaced

end Replaced

end Step

section Run

variable {overwrite : Bool} {source destination : Path} {place k : Location}
  {rels : List (List String)} {j j' : CopyJob}

theorem Copies.enters (h : Copies overwrite source destination rels j j') (hp : j.disk.Proper)
    (hrels : rels ≠ []) : ∃ place, j'.disk.Enters destination place := by
  cases h with
  | nil => exact absurd rfl hrels
  | cons way name hnames h hrest =>
    obtain ⟨opened, written, hc, rfl⟩ := copyOne_eq_ok h
    obtain ⟨-, -, l, hl⟩ := Disk.isDirectory_eq_true_iff.1 (hc.isDirectory hp)
    obtain ⟨place, hplace⟩ := hl.of_descend
    obtain ⟨-, -, -, -, hgrew, -⟩ := hc.writes hp
    exact ⟨place, (hgrew.trans (hrest.grew hgrew.proper)).enters hplace⟩

theorem Copies.replaced (h : Copies overwrite source destination rels j j') (hp : j.disk.Proper)
    (hapart : rels.Pairwise (IncompRel (· <+: ·))) (hplace : j'.disk.Enters destination place)
    (hplain : j.disk.tree.PlainBelow place) (havoids : j'.disk.Avoids source place) :
    Replaced source destination place rels j.disk j'.disk := by
  induction h with
  | nil => exact ⟨by simp, by simp, fun k hk => absurd rfl hk⟩
  | @cons way name rels j _ j' hnames h hrest ih =>
    obtain ⟨opened, written, hc, rfl⟩ := copyOne_eq_ok h
    rw [List.pairwise_cons] at hapart
    have hisName : ∀ part ∈ way ++ [name], IsName part :=
      fun part hpart => (hnames part hpart).isName
    obtain ⟨hopened, hplaces⟩ := hc.opens hp
    obtain ⟨-, -, -, -, hgrew, -⟩ := hc.writes hp
    have hlater : written.Grew j'.disk := hrest.grew hgrew.proper
    obtain ⟨read, hread, hfile, hothers, hfound⟩ := hc.put hp hisName hlater hplace hplain
    have hstep : ∀ k, k ≠ j'.disk.tree.goalAt ((way ++ [name]).reverse ++ place) →
        written.tree.get? k = j.disk.tree.get? k ∨
          j.disk.tree.get? k = none ∧ written.tree.get? k = some .directory := by
      intro k hk
      rw [hothers k hk]
      exact hplaces k
    have hplain' : written.tree.PlainBelow place := by
      apply hplain.of_places
      intro k
      by_cases hk : k = j'.disk.tree.goalAt ((way ++ [name]).reverse ++ place)
      · exact .inr (.inr ⟨read, hk ▸ hfile⟩)
      · exact (hstep k hk).imp id fun hnew => .inl hnew.2
    have hrels : Replaced source destination place rels written j'.disk :=
      ih hgrew.proper hapart.2 hplace hplain' havoids
    apply hrels.cons hlater.grown hapart.1 hfound ?_ hfile hstep
    -- The source is outside the destination, so what has been read is there to be read still.
    apply (hgrew.trans hlater).readBytes_eq hopened.proper hread
    intro k e hfind hk
    have hout : ¬place <:+ k := havoids _ hisName k e hfind
    have hsame : written.tree.get? k = opened.tree.get? k := by
      apply hothers
      rintro rfl
      exact hout (Tree.suffix_goalAt_append _ _ _)
    rw [← hsame] at hk ⊢
    exact hrels.get?_of_outside hk hout

theorem Copies.holds_new_directory (h : Copies overwrite source destination rels j j')
    (hp : j.disk.Proper) (hup : j.disk.Steady destination) (hparts : destination.Parted)
    (hplace : j'.disk.Enters destination place) (hfree : j.disk.tree.LinkFreeBelow place)
    (hnone : j.disk.tree.get? k = none) (hdir : j'.disk.tree.get? k = some .directory) :
    ∃ way name, way ++ [name] ∈ rels ∧ k <:+ way.reverse ++ place := by
  induction h with
  | nil =>
    rw [hnone] at hdir
    cases hdir
  | @cons way name rels j _ j' hnames h hrest ih =>
    obtain ⟨opened, written, hc, rfl⟩ := copyOne_eq_ok h
    have hisName : ∀ part ∈ way ++ [name], IsName part :=
      fun part hpart => (hnames part hpart).isName
    have hway : ∀ part ∈ way, IsName part := fun part hpart => hisName part (by simp [hpart])
    obtain ⟨read, g, -, -, hgrew, hfilled⟩ := hc.writes hp
    have hlater : written.Grew j'.disk := hrest.grew hgrew.proper
    by_cases hfirst : written.tree.get? k = none
    · have hall := hc.grew hp
      obtain ⟨way', name', hrel, hk⟩ := ih hall.proper (hall.steady hup) hplace
        (hfree.of_grown hall.grown) hfirst hdir
      exact ⟨way', name', List.mem_cons_of_mem _ hrel, hk⟩
    · refine ⟨way, name, List.mem_cons_self, ?_⟩
      have hother : k ≠ g := by
        rintro rfl
        exact hfilled.not_directory hlater.grown hdir
      obtain ⟨l, -, hl, hopened⟩ := Disk.opened_of_makeDirectories hp.grounded (hp.starts _)
        (hup.descend hway) (hparts.descend hway) hc.made
      obtain rfl := hl.unique (hc.entered hp hisName hlater hplace hfree)
      by_contra hout
      rw [hfilled.others k hother, hopened.held, if_neg fun hk => hout hk.1] at hfirst
      exact hfirst hnone

end Run

end CopyTask

end BuildScripts

import BuildScripts.Proofs.Disk.Clear
import BuildScripts.Proofs.Disk.Grew

namespace BuildScripts

open Attempt
open BuildScripts.Text
open Disk (collapse)

section Back

variable {t t' : Tree} {n k : Nat} {here l : Location} {parts : List String}

theorem Tree.Reaches.back (h : t'.Reaches n here parts l k) (hg : t.Grounded)
    (hfree : t'.LinkFree) (hup : ".." ∉ parts) (hd : t.get? l = some .directory) :
    t.Reaches n here parts l k ∧ here <:+ l := by
  induction h with
  | stop => exact ⟨.stop, List.suffix_rfl⟩
  | skip hn _ ih =>
    obtain ⟨hr, hs⟩ := ih (fun hm => hup (List.mem_cons_of_mem _ hm)) hd
    exact ⟨.skip hn hr, hs⟩
  | up => exact absurd List.mem_cons_self hup
  | enter hn hl _ _ ih =>
    obtain ⟨hr, hs⟩ := ih (fun hm => hup (List.mem_cons_of_mem _ hm)) hd
    exact ⟨.enter hn hl (Disk.get?_of_suffix hg hs hd) hr, (List.suffix_cons _ _).trans hs⟩
  | link _ _ he => exact absurd he (hfree _ _)

end Back

namespace Disk

variable {d d' d'' : Disk} {p : Path} {l l' : Location} {name : String} {names : List String}
  {text : String}

def place (d : Disk) (p : Path) : Location :=
  collapse (d.start p) p.parts

theorem place_of_here (h : d'.here = d.here) (p : Path) : d'.place p = d.place p := by
  rw [place, place, start_of_here h]

theorem place_descend (p : Path) (hn : ∀ name ∈ names, IsName name) :
    d.place (p.descend names) = names.reverse ++ d.place p := by
  change collapse (d.start p) (p.parts ++ names) = _
  rw [collapse_append, collapse_names hn, place]

section Back

theorem Enters.back (h : d.Enters p l) (hgrew : d.Grew d') (hg : d.tree.Grounded)
    (hfree : d.tree.LinkFree) (hup : ".." ∉ names) (h' : d'.Enters (p.descend names) l')
    (hd : d.tree.get? l' = some .directory) : d.Enters (p.descend names) l' := by
  obtain ⟨k, hr⟩ := h
  obtain ⟨k', hr'⟩ := h'
  obtain ⟨m, j, hfront, hrest⟩ := hr'.of_append
  have hlater := hr.mono hgrew.grown.toWays
  rw [← start_of_here hgrew.here] at hlater
  obtain ⟨rfl, rfl⟩ := hlater.unique hfront
  exact ⟨k', hr.append (hrest.back hg (hgrew.grown.linkFree hfree) hup hd).1⟩

theorem Steady.back (h : d.Steady p) (hgrew : d.Grew d') (hg : d.tree.Grounded)
    (hfree : d.tree.LinkFree) (h' : d'.Enters p l) (hd : d.tree.get? l = some .directory) :
    d.Enters p l := by
  by_cases hup : ".." ∈ p.parts
  · -- Behind the last double dot the path only goes down.
    obtain ⟨after, before, hsplit, hlast⟩ := List.eq_append_cons_of_mem (List.mem_reverse.2 hup)
    have hparts : p.parts = before.reverse ++ ".." :: after.reverse := by
      rw [← List.reverse_reverse p.parts, hsplit, List.reverse_append, List.reverse_cons,
        List.append_assoc]
      rfl
    obtain ⟨l₀, hl₀⟩ := h before.reverse after.reverse hparts
    have hp : p = ((⟨p.anchor, before.reverse⟩ : Path).child "..").descend after.reverse := by
      rw [Path.child_descend, Path.descend, ← hparts]
    rw [hp] at h' ⊢
    exact hl₀.up.back hgrew hg hfree (fun hm => hlast (List.mem_reverse.1 hm)) h' hd
  · have hp : p = (⟨p.anchor, []⟩ : Path).descend p.parts := rfl
    have hstart : d.Enters ⟨p.anchor, []⟩ (d.start ⟨p.anchor, []⟩) := ⟨_, .stop⟩
    rw [hp] at h' ⊢
    exact hstart.back hgrew hg hfree hup h' hd

theorem Enters.seek_child_back {aim : Aim} {q : Place} (h : d.Enters p l) (h' : d'.Enters p l)
    (hn : IsName name) (hlink : ∀ target, d.tree.get? (name :: l) ≠ some (.link target))
    (hq : d'.seek aim (p.child name) = .ok q) :
    d.seek aim (p.child name) = .ok (d.tree.at_ (name :: l)) := by
  have hshort := size_le_of_seek hq
  obtain ⟨k', hw'⟩ := h'.seek_child_eq hn aim hshort
  have hlen : name.utf8ByteSize ≤ longestName := by
    by_contra hlong
    rw [hw', walk_of_refused (stride_long (by simp) hn (by omega))] at hq
    cases hq
  obtain ⟨k, hw⟩ := h.seek_child_eq hn aim hshort
  rw [hw]
  exact walk_of_arrived (stride_last hn hlen (.inr hlink))

theorem Enters.isFile_back {bytes : ByteArray} (h : d.Enters p l) (hgrew : d.Grew d')
    (hg : d.tree.Grounded) (hfree : d.tree.LinkFree) (hne : names ≠ [])
    (hnames : ∀ name ∈ names, IsName name) (hf : d'.isFile (p.descend names) = .ok true)
    (hold : d.tree.get? (names.reverse ++ l) = some (.file bytes)) :
    d.isFile (p.descend names) = .ok true := by
  obtain ⟨hnull, k, e, hfind, -⟩ := testEntry_eq_true_iff.1 hf
  obtain ⟨way, name, rfl⟩ := names.eq_nil_or_concat'.resolve_left hne
  rw [List.forall_mem_append, List.forall_mem_singleton] at hnames
  have hplace : (way ++ [name]).reverse ++ l = name :: (way.reverse ++ l) := by simp
  rw [hplace] at hold
  rw [← Path.descend_child] at hfind hnull ⊢
  have hfree' := hgrew.grown.linkFree hfree
  obtain ⟨l', hl'⟩ := enters_of_seek_child (find_eq_ok_iff.1 hfind)
  have heq : l' = way.reverse ++ l :=
    (hgrew.enters h).descend_unique hnames.1 (fun k target _ _ => hfree' k target) hl'
  subst heq
  have hup : ".." ∉ way := fun hm => not_isName_up (hnames.1 _ hm)
  have hway := h.back hgrew hg hfree hup hl' (hg name _ (by simp [hold]))
  have hseek := hway.seek_child_back hl' hnames.2 (fun target => hfree _ target)
    (find_eq_ok_iff.1 hfind)
  rw [Tree.at_of_some hold] at hseek
  exact testEntry_eq_true_iff.2 ⟨hnull, _, _, find_eq_ok_iff.2 hseek, rfl⟩

end Back

section Grew

theorem Grew.isFile (h : d.Grew d') (hd : d.Proper) (hf : d.isFile p = .ok true) :
    d'.isFile p = .ok true := by
  obtain ⟨hn, l, e, hfind, he⟩ := testEntry_eq_true_iff.1 hf
  cases e with
  | file bytes =>
    obtain ⟨bytes', hb⟩ := h.grown.file l bytes
      (found_of_seek hd.grounded (hd.starts p) (find_eq_ok_iff.1 hfind))
    exact testEntry_eq_true_iff.2 ⟨hn, l, .file bytes', h.find_of_file hd hfind hb, rfl⟩
  | _ => cases he

theorem Grew.resolve_eq (h : d.Grew d') (hfree : d.tree.LinkFree) (p : Path) :
    d'.resolve p = d.resolve p := by
  have hfree' := h.grown.linkFree hfree
  have hfull : d'.fullPath p = d.fullPath p :=
    fullPath_congr h.here h.grown.linkCount
      (fun q => by rw [linkAt?_eq_none hfree, linkAt?_eq_none hfree']) p
  cases hn : p.hasNull with
  | true => rw [resolve_of_null hn, resolve_of_null hn]
  | false =>
    rw [resolve_of_no_loop hn (find_ne_tooManyLinks hfree _),
      resolve_of_no_loop hn (find_ne_tooManyLinks hfree' _), hfull]

end Grew

structure WroteOnly (places : Location → Prop) (d d' : Disk) : Prop where
  grew : d.Grew d'
  others : ∀ l, ¬ places l → d'.tree.get? l = d.tree.get? l ∨
    d.tree.get? l = none ∧ d'.tree.get? l = some .directory
  keys : d.tree.entries.map Prod.fst <+: d'.tree.entries.map Prod.fst

namespace WroteOnly

variable {places places' : Location → Prop}

theorem refl (h : d.Proper) : WroteOnly places d d :=
  ⟨.refl h, fun _ _ => .inl rfl, List.prefix_rfl⟩

theorem mono (h : WroteOnly places d d') (hp : ∀ l, places l → places' l) :
    WroteOnly places' d d' :=
  ⟨h.grew, fun l hl => h.others l fun hpl => hl (hp l hpl), h.keys⟩

theorem trans (h : WroteOnly places d d') (h' : WroteOnly places d' d'') :
    WroteOnly places d d'' where
  grew := h.grew.trans h'.grew
  others l hl := by
    rcases h.others l hl with hsame | ⟨hnone, hdir⟩
    · have hlater := h'.others l hl
      rwa [hsame] at hlater
    · exact .inr ⟨hnone, h'.grew.grown.directory l hdir⟩
  keys := h.keys.trans h'.keys

theorem get?_eq (h : WroteOnly places d d') (hl : ¬ places l) (hne : d.tree.get? l ≠ none) :
    d'.tree.get? l = d.tree.get? l := by
  rcases h.others l hl with hsame | ⟨hnone, -⟩
  · exact hsame
  · exact absurd hnone hne

end WroteOnly

section Write

theorem keys_setEntry (d : Disk) (l : Location) (e : Entry) :
    d.tree.entries.map Prod.fst <+: (d.setEntry l e).tree.entries.map Prod.fst := by
  change _ <+: (Tree.setEntry l e d.tree.entries).map Prod.fst
  rw [Tree.keys_setEntry]
  split
  · exact List.prefix_rfl
  · exact List.prefix_append _ _

theorem keys_makeDirectories (d : Disk) (p : Path) : d.tree.entries.map Prod.fst <+:
    ((makeDirectories p).after d).tree.entries.map Prod.fst := by
  rw [Disk.makeDirectories]
  split
  · exact List.prefix_rfl
  · refine makeWithParents_preserves
      (R := fun a b => a.tree.entries.map Prod.fst <+: b.tree.entries.map Prod.fst)
      (fun _ => List.prefix_rfl) (fun hab hbc => hab.trans hbc) (fun front _ a b hm => ?_) d
    obtain ⟨l, -, rfl⟩ := makeDirectory_eq_ok_iff.1 hm
    exact keys_setEntry a l .directory

theorem keys_fill (d : Disk) (l : Location) (bytes : ByteArray) :
    d.tree.entries.map Prod.fst <+: (d.fill l bytes).tree.entries.map Prod.fst := by
  rw [fill]
  split
  · exact List.prefix_rfl
  · exact keys_setEntry d l (.file bytes)

theorem location_of_openForWriting (hg : d.tree.Grounded) (hp : d.Starts p)
    (hc : d.tree.Clear (d.start p) p.parts) (hlast : p.parts.getLast? ≠ some "")
    (h : d.openForWriting p = .ok l) : l = d.place p := by
  have hseek : ∀ q, d.seek .file p = .ok q → d.tree.at_ (d.place p) = q := by
    intro q hq
    rw [place]
    rcases seek_clear .file hg hp hc (fun _ => hlast) with hat | ⟨why, hat⟩
    · rw [hq] at hat
      exact (Except.ok.inj hat).symm
    · rw [hq] at hat
      cases hat
  rcases openForWriting_eq_ok_iff.1 h with ho | ⟨old, ho⟩ | ho
  · exact (Tree.at_eq_free_iff.1 (hseek _ ho)).1
  · exact (Tree.at_eq_found_iff.1 (hseek _ ho)).1
  · exact (Tree.at_eq_found_iff.1 (hseek _ ho)).1

theorem setEntry_of_lookup {e : Entry} {es : List (Location × Entry)} (h : es.lookup l = some e) :
    Tree.setEntry l e es = es := by
  induction es with
  | nil => cases h
  | cons x es ih =>
    obtain ⟨k, v⟩ := x
    rw [Tree.setEntry]
    by_cases hk : k = l
    · subst hk
      rw [List.lookup_cons_self, Option.some.injEq] at h
      rw [if_pos rfl, h]
    · rw [List.lookup_cons, beq_false_of_ne (Ne.symm hk)] at h
      rw [if_neg hk, ih h]

theorem fill_of_held {held : Option Entry} {bytes : ByteArray}
    (h : d.tree.get? l = some (filled held bytes)) : d.fill l bytes = d := by
  rw [fill]
  rcases filled_cases held bytes with hsink | hfile
  · rw [h, hsink]
  · rw [hfile] at h
    have hne : l ≠ [] := Tree.ne_nil_of_get? (t := d.tree) (by simp [h])
    obtain ⟨name, rest, rfl⟩ := List.exists_cons_of_ne_nil hne
    rw [h]
    change { d with tree := d.tree.set (name :: rest) (.file bytes) } = d
    rw [Tree.set, setEntry_of_lookup h]

theorem get?_fill_of_ne {k : Location} {bytes : ByteArray} (hl : l ≠ []) (hk : k ≠ l) :
    (d.fill l bytes).tree.get? k = d.tree.get? k := by
  rw [fill]
  split
  · rfl
  · exact (Tree.get?_set d.tree l k (.file bytes) hl).trans (if_neg hk)

variable (hd : d.Proper) (hfree : d.tree.LinkFree) (hlast : p.parts.getLast? ≠ some "")
  (h : writeWithParents p text d = .ok () d')
include hd hfree hlast h

theorem writeWithParents_eq_ok : ∃ opened, makeDirectories p.parent d = .ok () opened ∧
    d.Grew opened ∧ p.hasNull = false ∧
    opened.openForWriting p = .ok (d.place p) ∧
    d' = opened.fill (d.place p) (Utf8.encode text) := by
  obtain ⟨_, opened, hmake, hwrite⟩ := bind_eq_ok.1 h
  obtain ⟨hn, l, ho, rfl⟩ := writeBytes_eq_ok_iff.1 hwrite
  have hopened := Grew.makeDirectories hd p.parent
  rw [after_of_ok hmake] at hopened
  have hl := location_of_openForWriting hopened.proper.grounded (hopened.proper.starts p)
    ((hopened.grown.linkFree hfree).clear _ _) hlast ho
  rw [place_of_here hopened.here] at hl
  exact ⟨opened, hmake, hopened, hn, hl ▸ ho, by rw [hl]⟩

theorem wroteOnly_of_writeWithParents :
    WroteOnly (· = d.place p) d d' := by
  obtain ⟨opened, hmake, hopened, hn, ho, rfl⟩ := writeWithParents_eq_ok hd hfree hlast h
  have hp := hopened.proper
  have hplaces := (made_of_makeDirectories hd.grounded (hd.starts p.parent)).place
  have hkeys := keys_makeDirectories d p.parent
  rw [after_of_ok hmake] at hplaces hkeys
  have hfilled := filled_of_fill hp.grounded (hp.starts p) ho (Utf8.encode text)
  refine ⟨hopened.trans (.fill hp hn ho _), fun k hk => ?_, hkeys.trans (keys_fill opened _ _)⟩
  rw [hfilled.others k hk]
  exact (hplaces k).imp id fun ⟨hnone, hdir, _⟩ => ⟨hnone, hdir⟩

theorem find_of_writeWithParents : ∃ held,
    d'.find p = .ok (d.place p, filled held (Utf8.encode text)) := by
  obtain ⟨opened, -, hopened, -, ho, rfl⟩ := writeWithParents_eq_ok hd hfree hlast h
  have hp := hopened.proper
  exact ⟨_, find_of_fill hp.grounded (hp.starts p) ho (Utf8.encode text)⟩

theorem writeWithParents_again (hgrew : d'.Grew d'') (other : String) :
    writeWithParents p other d'' =
      .ok () (d''.fill (d.place p) (Utf8.encode other)) := by
  obtain ⟨opened, hmake, hopened, hn, ho, rfl⟩ := writeWithParents_eq_ok hd hfree hlast h
  have hp := hopened.proper
  have hlater := (Grew.fill hp hn ho (Utf8.encode text)).trans hgrew
  have hthere := isDirectory_of_ways hlater.here hlater.grown.toWays
    (isDirectory_of_makeDirectories hd.grounded (hd.starts p.parent) hmake)
  have hopen := openForWriting_of_fill hp.grounded (hp.starts p) ho hlater.here hgrew.grown
  exact bind_eq_ok.2 ⟨(), d'', makeDirectories_of_isDirectory hthere,
    writeBytes_eq_ok_iff.2 ⟨hn, _, hopen, rfl⟩⟩

end Write

end Disk

end BuildScripts

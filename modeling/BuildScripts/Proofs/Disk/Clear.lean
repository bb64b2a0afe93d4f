import BuildScripts.Proofs.Disk.Lookup

/-!
Paths that meet no link. Such a path leads where its parts say, each double dot taking back the part
before it, and this place is its full path.
-/

namespace BuildScripts

open Disk (collapse)

namespace Tree

def Clear (t : Tree) (here : Location) (parts : List String) : Prop :=
  ∀ front, front <+: parts → ∀ target, t.get? (collapse here front) ≠ some (.link target)

end Tree

section Collapse

variable {here : Location} {name : String} {parts : List String}

theorem collapse_nil (here : Location) : collapse here [] = here := rfl

theorem collapse_skip (h : name = "" ∨ name = ".") :
    collapse here (name :: parts) = collapse here parts := by
  rw [collapse, if_pos h]

theorem collapse_up : collapse here (".." :: parts) = collapse here.tail parts := by
  rw [collapse, if_neg (by decide), if_pos rfl]

theorem collapse_name (hn : IsName name) :
    collapse here (name :: parts) = collapse (name :: here) parts := by
  rw [collapse, if_neg (by simp [hn.notEmpty, hn.notHere]), if_neg hn.notUp]

theorem collapse_append (here : Location) (parts parts' : List String) :
    collapse here (parts ++ parts') = collapse (collapse here parts) parts' := by
  induction parts generalizing here with
  | nil => rfl
  | cons name parts ih =>
    rcases name_cases name with h | h | rfl | hn
    · rw [List.cons_append, collapse_skip (.inl h), collapse_skip (.inl h), ih]
    · rw [List.cons_append, collapse_skip (.inr h), collapse_skip (.inr h), ih]
    · rw [List.cons_append, collapse_up, collapse_up, ih]
    · rw [List.cons_append, collapse_name hn, collapse_name hn, ih]

theorem collapse_names (h : ∀ name ∈ parts, IsName name) :
    collapse here parts = parts.reverse ++ here := by
  induction parts generalizing here with
  | nil => rfl
  | cons name parts ih =>
    rw [List.forall_mem_cons] at h
    rw [collapse_name h.1, ih h.2, List.reverse_cons, List.append_assoc]
    rfl

theorem isName_of_mem_collapse (hh : ∀ name ∈ here, IsName name) :
    ∀ name ∈ collapse here parts, IsName name := by
  induction parts generalizing here with
  | nil => exact hh
  | cons name parts ih =>
    rcases name_cases name with h | h | rfl | hn
    · rw [collapse_skip (.inl h)]
      exact ih hh
    · rw [collapse_skip (.inr h)]
      exact ih hh
    · rw [collapse_up]
      exact ih fun n hm => hh n (List.mem_of_mem_tail hm)
    · rw [collapse_name hn]
      exact ih (List.forall_mem_cons.2 ⟨hn, hh⟩)

end Collapse

section Clear

variable {t t' : Tree} {aim : Aim} {here : Location} {name : String} {parts : List String}

theorem Tree.Clear.head (h : t.Clear here parts) (target : String) :
    t.get? here ≠ some (.link target) :=
  h [] List.nil_prefix target

theorem Tree.Clear.rest (h : t.Clear here (name :: parts)) :
    t.Clear (collapse here [name]) parts := by
  intro front hf target
  have := h (name :: front) (List.cons_prefix_cons.2 ⟨rfl, hf⟩) target
  rwa [show name :: front = [name] ++ front from rfl, collapse_append] at this

theorem Tree.Clear.of_prefix {front : List String} (h : t.Clear here parts) (hf : front <+: parts) :
    t.Clear here front :=
  fun _ hg => h _ (hg.trans hf)

theorem Tree.Clear.of_grown (h : t.Clear here parts) (hgr : t.Grown t') : t'.Clear here parts :=
  fun front hf target hl => h front hf target (hgr.noLink _ _ hl)

theorem Tree.LinkFree.clear (h : t.LinkFree) (here : Location) (parts : List String) :
    t.Clear here parts :=
  fun _ _ => h _

theorem stride_clear (aim : Aim) (hg : t.Grounded) (hd : t.get? here = some .directory)
    (hc : t.Clear here parts) (hlast : aim = .file → parts.getLast? ≠ some "") :
    stride t aim here parts = .arrived (t.at_ (collapse here parts)) ∨
      ∃ why, stride t aim here parts = .refused why := by
  induction parts generalizing here with
  | nil => exact .inl (by rw [collapse_nil, Tree.at_of_some hd]; rfl)
  | cons name rest ih =>
    have hf : ¬(aim = .file ∧ rest = [""]) := fun h => hlast h.1 (by simp [h.2])
    have hrest := hc.rest
    have hlast' : aim = .file → rest.getLast? ≠ some "" := fun ha h =>
      hlast ha (by simp [List.getLast?_cons, h])
    rcases name_cases name with h | h | rfl | hn
    · rw [stride_skip hf (.inl h), collapse_skip (.inl h)]
      rw [collapse_skip (.inl h)] at hrest
      exact ih hd hrest hlast'
    · rw [stride_skip hf (.inr h), collapse_skip (.inr h)]
      rw [collapse_skip (.inr h)] at hrest
      exact ih hd hrest hlast'
    · rw [stride_up hf, collapse_up]
      rw [collapse_up] at hrest
      exact ih (hg.tail (by simp [hd])) hrest hlast'
    rw [collapse_name hn] at hrest ⊢
    by_cases hl : name.utf8ByteSize ≤ longestName
    · cases rest with
      | nil => exact .inl (stride_last hn hl (.inr fun target => hrest.head target))
      | cons next rest =>
        rw [stride_named hf hn hl]
        cases he : t.get? (name :: here) with
        | none => exact .inr ⟨_, rfl⟩
        | some e =>
          cases e with
          | directory => exact ih he hrest hlast'
          | file bytes => exact .inr ⟨_, rfl⟩
          | sink => exact .inr ⟨_, rfl⟩
          | link target => exact absurd he (hrest.head target)
    · exact .inr ⟨_, stride_long hf hn (by omega)⟩

theorem stride_congr (h : ∀ front, front <+: parts →
      t'.get? (collapse here front) = t.get? (collapse here front)) :
    stride t' aim here parts = stride t aim here parts := by
  induction parts generalizing here with
  | nil => rfl
  | cons name rest ih =>
    by_cases hf : aim = .file ∧ rest = [""]
    · rw [stride, stride, if_pos hf, if_pos hf]
    have hrest : ∀ front, front <+: rest →
        t'.get? (collapse (collapse here [name]) front) =
          t.get? (collapse (collapse here [name]) front) := by
      intro front hfr
      have := h (name :: front) (List.cons_prefix_cons.2 ⟨rfl, hfr⟩)
      rwa [show name :: front = [name] ++ front from rfl, collapse_append] at this
    rcases name_cases name with hs | hs | rfl | hn
    · rw [collapse_skip (.inl hs)] at hrest
      rw [stride_skip hf (.inl hs), stride_skip hf (.inl hs)]
      exact ih hrest
    · rw [collapse_skip (.inr hs)] at hrest
      rw [stride_skip hf (.inr hs), stride_skip hf (.inr hs)]
      exact ih hrest
    · rw [collapse_up] at hrest
      rw [stride_up hf, stride_up hf]
      exact ih hrest
    rw [collapse_name hn, collapse_nil] at hrest
    by_cases hl : name.utf8ByteSize ≤ longestName
    · have he : t'.get? (name :: here) = t.get? (name :: here) := hrest [] List.nil_prefix
      rw [stride_named hf hn hl, stride_named hf hn hl, he, ih hrest]
    · rw [stride_long hf hn (by omega), stride_long hf hn (by omega)]

end Clear

section LinkFree

variable {t : Tree} {aim : Aim} {here l : Location} {parts : List String} {target : String}

theorem get?_of_stride_found_link
    (h : stride t aim here parts = .arrived (.found l (.link target))) :
    t.get? l = some (.link target) := by
  have hs := strides t aim here parts
  generalize stride t aim here parts = q at h hs
  induction hs with
  | skip _ _ _ ih => exact ih h
  | up _ _ ih => exact ih h
  | enter _ _ _ _ _ ih => exact ih h
  | last =>
    obtain ⟨rfl, he⟩ := Tree.at_eq_found_iff.1 (Stride.arrived.inj h)
    exact he
  | _ => cases h

theorem Tree.LinkFree.stride_ne_link (hl : t.LinkFree) {holder : Location} {rest : List String} :
    stride t aim here parts ≠ .link holder target rest := by
  have hs := strides t aim here parts
  generalize stride t aim here parts = q at hs
  induction hs with
  | skip _ _ _ ih => exact ih
  | up _ _ ih => exact ih
  | enter _ _ _ _ _ ih => exact ih
  | link _ _ _ he => exact absurd he (hl _ _)
  | _ => simp

theorem Tree.LinkFree.walk_eq (hl : t.LinkFree) (aim : Aim) (here : Location) (parts : List String)
    (n : Nat) :
    (∃ place, stride t aim here parts = .arrived place ∧ walk t aim n here parts = .ok place) ∨
      ∃ why, stride t aim here parts = .refused why ∧ walk t aim n here parts = .error why := by
  cases hs : stride t aim here parts with
  | arrived place => exact .inl ⟨place, rfl, walk_of_arrived hs⟩
  | refused why => exact .inr ⟨why, rfl, walk_of_refused hs⟩
  | link holder target rest => exact absurd hs hl.stride_ne_link

end LinkFree

namespace Disk

variable {d : Disk} {p : Path} {aim : Aim}

theorem seek_clear (aim : Aim) (hg : d.tree.Grounded) (hp : d.Starts p)
    (hc : d.tree.Clear (d.start p) p.parts) (hlast : aim = .file → p.parts.getLast? ≠ some "") :
    d.seek aim p = .ok (d.tree.at_ (collapse (d.start p) p.parts)) ∨
      ∃ why, d.seek aim p = .error why := by
  by_cases hl : longestPath < p.toText.utf8ByteSize
  · exact .inr ⟨_, seek_of_long hl⟩
  · rw [seek_of_short (by omega)]
    rcases stride_clear aim hg hp hc hlast with hs | ⟨why, hs⟩
    · exact .inl (walk_of_arrived hs)
    · exact .inr ⟨why, walk_of_refused hs⟩

theorem linkAt?_eq_none (hl : d.tree.LinkFree) (p : Path) : d.linkAt? p = none := by
  by_cases hlen : longestPath < p.toText.utf8ByteSize
  · simp [linkAt?, seek_of_long hlen]
  · rw [linkAt?, seek_of_short (by omega)]
    rcases hl.walk_eq .entry (d.start p) p.parts linkBudget with
      ⟨place, hs, hw⟩ | ⟨why, -, hw⟩
    · rw [hw]
      split
      · rename_i l target heq
        cases heq
        exact absurd (get?_of_stride_found_link hs) (hl l target)
      · rfl
    · rw [hw]

theorem find_ne_tooManyLinks (hl : d.tree.LinkFree) (p : Path) :
    d.find p ≠ .error .tooManyLinks := by
  rw [Ne, find_tooManyLinks_iff]
  by_cases hlen : longestPath < p.toText.utf8ByteSize
  · simp [seek_of_long hlen]
  · rw [seek_of_short (by omega)]
    rcases hl.walk_eq .target (d.start p) p.parts linkBudget with
      ⟨place, -, hw⟩ | ⟨why, hs, hw⟩
    · simp [hw]
    · rw [hw]
      rintro ⟨⟩
      exact stride_ne_tooManyLinks hs

section Steps

variable {inside : List Reached → Reached → List String → Resolved} {pending : List Reached}
  {r : Reached} {name : String} {rest : List String}

theorem resolveParts_skip (h : name = "" ∨ name = ".") :
    d.resolveParts inside pending r (name :: rest) = d.resolveParts inside pending r rest := by
  rw [resolveParts, if_pos h]

theorem resolveParts_up {names : List String} (hn : ∀ name ∈ names, IsName name) :
    d.resolveParts inside pending ⟨true, names⟩ (".." :: rest) =
      d.resolveParts inside pending ⟨true, names.tail⟩ rest := by
  have hup : Reached.up ⟨true, names⟩ = ⟨true, names.tail⟩ := by
    cases names with
    | nil => rfl
    | cons n ns =>
      rw [List.forall_mem_cons] at hn
      simp [Reached.up, hn.1.notUp]
  rw [resolveParts, if_neg (by decide), if_pos rfl, hup]

theorem resolveParts_name (hn : IsName name) :
    d.resolveParts inside pending r (name :: rest) =
      match d.linkAt? (r.push name).toPath with
      | none => d.resolveParts inside pending (r.push name) rest
      | some target =>
        if r.push name ∈ pending then .stuckBefore (r.push name).toPath.toText rest
        else
          match inside (r.push name :: pending) (r.startOf target) (Path.pieces target) with
          | .done r' => d.resolveParts inside pending r' rest
          | .stuck text => .stuckBefore text rest := by
  rewrite [resolveParts, if_neg (by simp [hn.notEmpty, hn.notHere]), if_neg hn.notUp]
  rfl

end Steps

theorem resolveParts_of_linkFree (hl : d.tree.LinkFree)
    (inside : List Reached → Reached → List String → Resolved) (pending : List Reached)
    {names : List String} (hn : ∀ name ∈ names, IsName name) (parts : List String) :
    d.resolveParts inside pending ⟨true, names⟩ parts = .done ⟨true, collapse names parts⟩ := by
  induction parts generalizing names with
  | nil => rfl
  | cons name rest ih =>
    rcases name_cases name with h | h | rfl | hname
    · rw [resolveParts_skip (.inl h), collapse_skip (.inl h), ih hn]
    · rw [resolveParts_skip (.inr h), collapse_skip (.inr h), ih hn]
    · rw [resolveParts_up hn, collapse_up, ih fun n hm => hn n (List.mem_of_mem_tail hm)]
    · rw [resolveParts_name hname, collapse_name hname, linkAt?_eq_none hl]
      exact ih (List.forall_mem_cons.2 ⟨hname, hn⟩)

theorem fullPath_of_linkFree (hl : d.tree.LinkFree) (hp : p.isAbsolute = true) :
    d.fullPath p = .absolute (collapse [] p.parts).reverse := by
  rw [fullPath, resolveDepth, resolveWithin, hp, resolveParts_of_linkFree hl _ _ (by simp)]
  rfl

theorem resolve_of_linkFree (hl : d.tree.LinkFree) (hp : p.isAbsolute = true)
    (hn : p.hasNull = false) : d.resolve p = .ok (.absolute (collapse [] p.parts).reverse) := by
  rw [← fullPath_of_linkFree hl hp]
  exact resolve_of_no_loop hn (find_ne_tooManyLinks hl _)

theorem resolve_eq_of_linkFree {d' : Disk} (hl : d.tree.LinkFree) (hl' : d'.tree.LinkFree)
    (hp : p.isAbsolute = true) : d'.resolve p = d.resolve p := by
  cases hn : p.hasNull with
  | true => rw [resolve_of_null hn, resolve_of_null hn]
  | false => rw [resolve_of_linkFree hl hp hn, resolve_of_linkFree hl' hp hn]

end Disk

end BuildScripts

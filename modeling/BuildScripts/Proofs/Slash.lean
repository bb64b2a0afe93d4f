import BuildScripts.Proofs.Disk.Walk
import BuildScripts.Proofs.Path
import Mathlib.Data.List.Infix

namespace BuildScripts

def Slashless (name : String) : Prop :=
  '/' ∉ name.toList

instance (name : String) : Decidable (Slashless name) :=
  inferInstanceAs (Decidable (_ ∉ _))

namespace Path

variable {name last finish : String} {dirs names : List String}

theorem atSlashes_ne_nil (cs : List Char) : atSlashes cs ≠ [] := by
  cases cs with
  | nil => simp [atSlashes]
  | cons c cs =>
    rw [atSlashes]
    cases atSlashes cs with
    | nil => exact List.cons_ne_nil _ _
    | cons p ps =>
      dsimp only
      split <;> exact List.cons_ne_nil _ _

theorem atSlashes_append (before after : List Char) :
    atSlashes (before ++ '/' :: after) = atSlashes before ++ atSlashes after := by
  induction before with
  | nil =>
    obtain ⟨p, ps, h⟩ := List.exists_cons_of_ne_nil (atSlashes_ne_nil after)
    simp [atSlashes, h]
  | cons c before ih =>
    obtain ⟨p, ps, h⟩ := List.exists_cons_of_ne_nil (atSlashes_ne_nil before)
    rw [List.cons_append, atSlashes, atSlashes, ih, h, List.cons_append]
    dsimp only
    split <;> rfl

theorem atSlashes_of_slashless {cs : List Char} (h : '/' ∉ cs) : atSlashes cs = [cs] := by
  induction cs with
  | nil => rfl
  | cons c cs ih =>
    rw [List.mem_cons, not_or] at h
    rw [atSlashes, ih h.2]
    simp [Ne.symm h.1]

theorem pieces_ne_nil (s : String) : pieces s ≠ [] := by
  simpa [pieces] using atSlashes_ne_nil s.toList

theorem pieces_append (before after : String) :
    pieces (before ++ "/" ++ after) = pieces before ++ pieces after := by
  have hslash : ("/" : String).toList = ['/'] := rfl
  simp [pieces, hslash, atSlashes_append]

theorem pieces_of_slashless (h : Slashless name) : pieces name = [name] := by
  simp [pieces, atSlashes_of_slashless h]

theorem pieces_intercalate (hne : names ≠ []) (h : ∀ name ∈ names, Slashless name) :
    pieces (String.intercalate "/" names) = names := by
  induction names with
  | nil => exact absurd rfl hne
  | cons name names ih =>
    obtain ⟨hname, hnames⟩ := List.forall_mem_cons.1 h
    cases names with
    | nil => rw [String.intercalate_singleton, pieces_of_slashless hname]
    | cons next names =>
      rw [String.intercalate_cons_cons, pieces_append, pieces_of_slashless hname,
        ih (List.cons_ne_nil _ _) hnames, List.singleton_append]

theorem slashless_of_mem_atSlashes {cs piece : List Char} (h : piece ∈ atSlashes cs) :
    '/' ∉ piece := by
  induction cs generalizing piece with
  | nil =>
    rw [atSlashes, List.mem_singleton] at h
    exact h ▸ List.not_mem_nil
  | cons c cs ih =>
    obtain ⟨first, others, hcs⟩ := List.exists_cons_of_ne_nil (atSlashes_ne_nil cs)
    rw [hcs, List.forall_mem_cons] at ih
    rw [atSlashes, hcs] at h
    dsimp only at h
    split at h
    · rcases List.mem_cons.1 h with rfl | h
      · exact List.not_mem_nil
      · exact (List.forall_mem_cons (p := fun piece => '/' ∉ piece)).2 ih piece h
    · rename_i hc
      rcases List.mem_cons.1 h with rfl | h
      · rw [List.mem_cons, not_or]
        exact ⟨Ne.symm hc, ih.1⟩
      · exact ih.2 piece h

theorem slashless_of_mem_pieces {s piece : String} (h : piece ∈ pieces s) : Slashless piece := by
  obtain ⟨cs, hcs, rfl⟩ := List.mem_map.1 h
  rw [Slashless, String.toList_ofList]
  exact slashless_of_mem_atSlashes hcs

end Path

structure IsPart (part : String) : Prop where
  notEmpty : part ≠ ""
  notHere : part ≠ "."
  slashless : Slashless part

theorem IsName.isPart {name : String} (h : IsName name) (hs : Slashless name) : IsPart name :=
  ⟨h.notEmpty, h.notHere, hs⟩

namespace Path

variable {name last finish : String} {dirs names : List String} {p : Path}

theorem isPart_of_mem_ofText {s part : String} (h : part ∈ (ofText s).parts) : IsPart part := by
  obtain ⟨hpiece, hpart⟩ := List.mem_filter.1 h
  have hne := of_decide_eq_true hpart
  exact ⟨hne.1, hne.2, slashless_of_mem_pieces hpiece⟩

theorem intercalate_eq_cons (hne : names ≠ []) (h : ∀ name ∈ names, IsPart name) :
    ∃ c cs, (String.intercalate "/" names).toList = c :: cs ∧ c ≠ '/' := by
  obtain ⟨name, names, rfl⟩ := List.exists_cons_of_ne_nil hne
  have hname := h name List.mem_cons_self
  obtain ⟨c, cs, hcs⟩ := List.exists_cons_of_ne_nil
    (show name.toList ≠ [] by simpa using hname.notEmpty)
  have hc : c ≠ '/' := by
    rintro rfl
    exact hname.slashless (by rw [hcs]; exact List.mem_cons_self)
  cases names with
  | nil => exact ⟨c, cs, by rw [String.intercalate_singleton, hcs], hc⟩
  | cons next names =>
    refine ⟨c, cs ++ ("/" ++ String.intercalate "/" (next :: names)).toList, ?_, hc⟩
    rw [String.intercalate_cons_cons, String.append_assoc, String.toList_append, hcs]
    rfl

theorem ofText_toText (h : ∀ part ∈ p.parts, IsPart part) : ofText p.toText = p := by
  obtain ⟨anchor, parts⟩ := p
  by_cases hne : parts = []
  · subst hne
    cases anchor <;> rfl
  obtain ⟨c, cs, hfirst, hc⟩ := intercalate_eq_cons hne h
  have hslash : ("/" : String).toList = ['/'] := rfl
  have hanchor : anchorOf (anchorText anchor ++ String.intercalate "/" parts).toList = anchor := by
    rw [String.toList_append, hfirst]
    cases anchor with
    | relative => simp [anchorText, anchorOf, hc]
    | root => simp [anchorText, anchorOf, hslash, hc]
    | doubleRoot =>
      change anchorOf ('/' :: '/' :: c :: cs) = _
      simp [anchorOf, hc]
  have hpieces : (pieces (anchorText anchor ++ String.intercalate "/" parts)).filter
      (fun p => p ≠ "" ∧ p ≠ ".") = parts := by
    have hparts : parts.filter (fun p => p ≠ "" ∧ p ≠ ".") = parts := by
      rw [List.filter_eq_self]
      intro part hmem
      exact decide_eq_true ⟨(h part hmem).notEmpty, (h part hmem).notHere⟩
    have hnames := pieces_intercalate hne fun part hmem => (h part hmem).slashless
    cases anchor with
    | relative =>
      rw [show anchorText .relative = "" from rfl, String.empty_append, hnames, hparts]
    | root =>
      rw [show anchorText .root = "" ++ "/" from rfl, pieces_append, hnames, List.filter_append,
        hparts]
      rfl
    | doubleRoot =>
      rw [show anchorText .doubleRoot = "/" ++ "/" from rfl, pieces_append, hnames,
        List.filter_append, hparts]
      rfl
  rw [toText_of_ne_nil hne, ofText, hanchor, hpieces]

theorem ofText_intercalate (hne : names ≠ []) (hs : ∀ name ∈ names, Slashless name)
    (hn : ∀ name ∈ names, IsName name) :
    ofText (String.intercalate "/" names) = ⟨.relative, names⟩ := by
  have htext : toText ⟨.relative, names⟩ = String.intercalate "/" names := by
    rw [toText_of_ne_nil hne]
    exact String.empty_append
  rw [← htext]
  exact ofText_toText fun name hm => (hn name hm).isPart (hs name hm)

theorem between_slashes_iff (hs : ∀ part ∈ dirs ++ [last], Slashless part) (hn : Slashless name) :
    (∃ before after, String.intercalate "/" (dirs ++ [last]) =
      before ++ "/" ++ (name ++ "/" ++ after)) ↔ name ∈ dirs.tail := by
  constructor
  · rintro ⟨before, after, htext⟩
    -- The texts on both sides have pieces, so that the name is neither the first piece nor the last.
    have hpieces := congrArg pieces htext
    rw [pieces_intercalate (by simp) hs, pieces_append, pieces_append, pieces_of_slashless hn]
      at hpieces
    obtain ⟨b, bs, hbefore⟩ := List.exists_cons_of_ne_nil (pieces_ne_nil before)
    obtain ⟨as, z, hafter⟩ := List.eq_nil_or_concat' (pieces after) |>.resolve_left
      (pieces_ne_nil after)
    rw [hbefore, hafter, ← List.append_assoc, ← List.append_assoc] at hpieces
    have hdirs := (List.append_inj' hpieces rfl).1
    rw [hdirs]
    simp
  · intro hmem
    obtain ⟨as, bs, hsplit⟩ := List.append_of_mem hmem
    cases dirs with
    | nil => cases hmem
    | cons first rest =>
      rw [List.tail_cons] at hsplit
      refine ⟨String.intercalate "/" (first :: as), String.intercalate "/" (bs ++ [last]), ?_⟩
      rw [hsplit, ← String.intercalate_singleton (s := "/") (t := name),
        ← String.intercalate_append_of_ne_nil (List.cons_ne_nil _ _) (by simp),
        ← String.intercalate_append_of_ne_nil (List.cons_ne_nil _ _) (by simp),
        String.intercalate_singleton]
      simp

theorem before_slash_iff (hs : ∀ part ∈ dirs ++ [last], Slashless part) (hn : Slashless name) :
    (∃ after, String.intercalate "/" (dirs ++ [last]) = name ++ "/" ++ after) ↔
      dirs.head? = some name := by
  constructor
  · rintro ⟨after, htext⟩
    have hpieces := congrArg pieces htext
    rw [pieces_intercalate (by simp) hs, pieces_append, pieces_of_slashless hn] at hpieces
    obtain ⟨as, z, hafter⟩ := List.eq_nil_or_concat' (pieces after) |>.resolve_left
      (pieces_ne_nil after)
    rw [hafter, ← List.append_assoc] at hpieces
    rw [(List.append_inj' hpieces rfl).1]
    rfl
  · intro hhead
    obtain ⟨rest, rfl⟩ := List.head?_eq_some_iff.1 hhead
    refine ⟨String.intercalate "/" (rest ++ [last]), ?_⟩
    rw [List.cons_append, ← List.singleton_append, String.intercalate_append_of_ne_nil
      (List.cons_ne_nil _ _) (by simp), String.intercalate_singleton]

theorem at_end_iff (hf : Slashless finish) :
    (∃ stem, String.intercalate "/" (dirs ++ [last]) = stem ++ finish) ↔
      ∃ stem, last = stem ++ finish := by
  by_cases hd : dirs = []
  · rw [hd, List.nil_append, String.intercalate_singleton]
  · rw [String.intercalate_append_of_ne_nil hd (by simp), String.intercalate_singleton]
    constructor
    · rintro ⟨stem, htext⟩
      have hchars := congrArg String.toList htext
      rw [String.toList_append, String.toList_append, String.toList_append, List.append_assoc]
        at hchars
      -- If the ending were longer than the last name, it would take in the slash before it.
      have hfinish : finish.toList <:+ (String.intercalate "/" dirs).toList ++
          ('/' :: last.toList) := ⟨stem.toList, hchars.symm⟩
      rcases List.suffix_or_suffix_of_suffix hfinish (List.suffix_append _ _) with h | h
      · rcases List.suffix_cons_iff.1 h with h | ⟨stem', h⟩
        · exact absurd (h ▸ List.mem_cons_self) hf
        · refine ⟨String.ofList stem', String.toList_injective ?_⟩
          rw [String.toList_append, String.toList_ofList, h]
      · exact absurd (h.subset List.mem_cons_self) hf
    · rintro ⟨stem, rfl⟩
      exact ⟨String.intercalate "/" dirs ++ "/" ++ stem, by simp [String.append_assoc]⟩

end Path

end BuildScripts

import BuildScripts.Disk.Write
import BuildScripts.Proofs.Disk.Clear

namespace BuildScripts

open Disk (collapse)

section Names

variable {t : Tree} {aim : Aim} {here l : Location} {name : String} {parts : List String}

theorem short_of_stride_arrived {p : Place} (h : stride t aim here parts = .arrived p) :
    ∀ name ∈ parts, IsName name → name.utf8ByteSize ≤ longestName := by
  have hs := strides t aim here parts
  generalize stride t aim here parts = q at h hs
  induction hs with
  | stop => simp
  | skip _ hn _ ih =>
    refine List.forall_mem_cons.2 ⟨fun hname => ?_, ih h⟩
    rcases hn with rfl | rfl
    · exact absurd rfl hname.notEmpty
    · exact absurd rfl hname.notHere
  | up _ _ ih => exact List.forall_mem_cons.2 ⟨fun hname => absurd rfl hname.notUp, ih h⟩
  | enter _ _ hl _ _ ih => exact List.forall_mem_cons.2 ⟨fun _ => hl, ih h⟩
  | last _ hl _ => simpa using fun _ => hl
  | _ => cases h

theorem long_of_stride_refused (h : stride t aim here parts = .refused .nameTooLong) :
    ∃ name ∈ parts, IsName name ∧ longestName < name.utf8ByteSize := by
  have hs := strides t aim here parts
  generalize stride t aim here parts = q at h hs
  induction hs with
  | skip _ _ _ ih =>
    obtain ⟨name, hm, hn⟩ := ih h
    exact ⟨name, List.mem_cons_of_mem _ hm, hn⟩
  | up _ _ ih =>
    obtain ⟨name, hm, hn⟩ := ih h
    exact ⟨name, List.mem_cons_of_mem _ hm, hn⟩
  | enter _ _ _ _ _ ih =>
    obtain ⟨name, hm, hn⟩ := ih h
    exact ⟨name, List.mem_cons_of_mem _ hm, hn⟩
  | @long _ name _ hn hl => exact ⟨name, by simp, hn, hl⟩
  | stuck hwhy => rcases hwhy with rfl | rfl <;> cases h
  | _ => cases h

theorem stride_child (h : stride t .target here parts = .arrived (.found l .directory))
    (hn : IsName name) : stride t aim here (parts ++ [name]) = stride t aim l [name] := by
  induction parts generalizing here with
  | nil =>
    cases h
    rfl
  | cons x rest ih =>
    have hf : ¬(aim = .file ∧ rest ++ [name] = [""]) := by
      rintro ⟨-, he⟩
      cases rest with
      | nil => exact hn.notEmpty (by simpa using he)
      | cons y ys => simp at he
    have ht : ¬(Aim.target = .file ∧ rest = [""]) := by simp
    rw [List.cons_append]
    rcases name_cases x with hx | hx | rfl | hx
    · rw [stride_skip ht (.inl hx)] at h
      rw [stride_skip hf (.inl hx), ih h]
    · rw [stride_skip ht (.inr hx)] at h
      rw [stride_skip hf (.inr hx), ih h]
    · rw [stride_up ht] at h
      rw [stride_up hf, ih h]
    by_cases hl : x.utf8ByteSize ≤ longestName
    · rw [stride_named ht hx hl] at h
      rw [stride_named hf hx hl]
      cases he : t.get? (x :: here) with
      | none =>
        rw [he] at h
        cases rest <;> cases h
      | some e =>
        rw [he] at h
        cases e with
        | directory => exact ih h
        | file bytes => cases rest <;> cases h
        | sink => cases rest <;> cases h
        | link target => cases rest <;> cases h
    · rw [stride_long ht hx (by omega)] at h
      cases h

end Names

namespace Disk

variable {d d' : Disk} {p : Path} {aim : Aim}

theorem seek_eq_of_stride (hl : d.tree.LinkFree) (hp : p.isAbsolute = true)
    (h : stride d'.tree aim [] p.parts = stride d.tree aim [] p.parts) :
    d'.seek aim p = d.seek aim p := by
  by_cases hlen : longestPath < p.toText.utf8ByteSize
  · rw [seek_of_long hlen, seek_of_long hlen]
  · rw [seek_of_short (by omega), seek_of_short (by omega), start_of_isAbsolute hp,
      start_of_isAbsolute hp]
    rcases hl.walk_eq aim [] p.parts linkBudget with
      ⟨place, ha, hw⟩ | ⟨why, ha, hw⟩
    · rw [hw, walk_of_arrived (h.trans ha)]
    · rw [hw, walk_of_refused (h.trans ha)]

theorem isFile_eq_of_same (hl : d.tree.LinkFree) (hp : p.isAbsolute = true)
    (h : ∀ front, front <+: p.parts →
      d'.tree.get? (collapse [] front) = d.tree.get? (collapse [] front)) :
    d'.isFile p = d.isFile p := by
  simp only [isFile, testEntry, find, seek_eq_of_stride hl hp (stride_congr h)]

theorem isFile_ne_error_of_true (hl : d.tree.LinkFree) (hl' : d'.tree.LinkFree)
    (h : d.isFile p = .ok true) (f : Fault) : d'.isFile p ≠ .error f := by
  obtain ⟨hn, l, e, hf, -⟩ := testEntry_eq_true_iff.1 h
  have hs := find_eq_ok_iff.1 hf
  by_cases hlen : longestPath < p.toText.utf8ByteSize
  · rw [seek_of_long hlen] at hs
    cases hs
  intro hc
  rw [isFile, testEntry, hn, find, seek_of_short (by omega)] at hc
  rw [seek_of_short (by omega)] at hs
  rcases hl.walk_eq .target (d.start p) p.parts linkBudget with
    ⟨place, ha, -⟩ | ⟨why, -, hw⟩
  · have hshort := short_of_stride_arrived ha
    rcases hl'.walk_eq .target (d'.start p) p.parts linkBudget with
      ⟨place', -, hw'⟩ | ⟨why', ha', hw'⟩
    · rw [hw'] at hc
      cases place' <;> simp at hc
    · have hwhy : why' ≠ .nameTooLong := by
        rintro rfl
        obtain ⟨name, hm, hname, hlong⟩ := long_of_stride_refused ha'
        have := hshort name hm hname
        omega
      rw [hw'] at hc
      cases why' <;> simp_all
  · rw [hw] at hs
    cases hs

end Disk

def Tree.AgreeAt (t t' : Tree) (l : Location) : Prop :=
  ∀ k, l <:+ k → t'.get? k = t.get? k

section Inside

variable {t t' : Tree} {l : Location} {parts : List String}

theorem Tree.AgreeAt.same_of_below (h : t.AgreeAt t' l) (hg : t.Grounded) (hg' : t'.Grounded)
    (hd : t.get? l = some .directory) (hn : ∀ name ∈ parts, IsName name)
    (hbelow : l.reverse <+: parts) :
    ∀ front, front <+: parts → t'.get? (collapse [] front) = t.get? (collapse [] front) := by
  intro front hf
  have hcollapse : collapse [] front = front.reverse := by
    rw [collapse_names fun name hm => hn name (hf.subset hm), List.append_nil]
  rw [hcollapse]
  rcases List.prefix_or_prefix_of_prefix hf hbelow with hpre | hpre
  · have hsuf : front.reverse <:+ l := List.reverse_prefix.1 (by simpa using hpre)
    obtain ⟨names, rfl⟩ := hsuf
    by_cases hnil : names = []
    · subst hnil
      exact h _ (List.suffix_refl _)
    · have hd' : t'.get? (names ++ front.reverse) = some .directory :=
        (h _ (List.suffix_refl _)).trans hd
      rw [hg.of_append (by simp [hd]) hnil, hg'.of_append (by simp [hd']) hnil]
  · exact h _ (List.reverse_prefix.1 (by simpa using hpre))

end Inside

namespace Disk

variable {d d' : Disk} {p : Path} {l : Location} {name : String}

theorem isFile_eq_of_below (h : d.tree.AgreeAt d'.tree l) (hg : d.tree.Grounded)
    (hg' : d'.tree.Grounded) (hl : d.tree.LinkFree) (hd : d.tree.get? l = some .directory)
    (hp : p.isAbsolute = true) (hn : ∀ name ∈ p.parts, IsName name) (hbelow : l.reverse <+: p.parts) :
    d'.isFile p = d.isFile p :=
  isFile_eq_of_same hl hp (h.same_of_below hg hg' hd hn hbelow)

theorem stride_of_isDirectory (hg : d.tree.Grounded) (hl : d.tree.LinkFree)
    (hp : p.isAbsolute = true) (h : d.isDirectory p = .ok true) :
    stride d.tree .target [] p.parts = .arrived (.found (collapse [] p.parts) .directory) ∧
      d.tree.get? (collapse [] p.parts) = some .directory := by
  obtain ⟨-, k, e, hf, he⟩ := testEntry_eq_true_iff.1 h
  have hs := find_eq_ok_iff.1 hf
  cases e with
  | directory =>
    by_cases hlen : longestPath < p.toText.utf8ByteSize
    · rw [seek_of_long hlen] at hs
      cases hs
    rw [seek_of_short (by omega), start_of_isAbsolute hp] at hs
    rcases hl.walk_eq .target [] p.parts linkBudget with
      ⟨place, ha, hw⟩ | ⟨why, -, hw⟩
    · rw [hw, Except.ok.injEq] at hs
      subst hs
      rcases stride_clear .target hg rfl (hl.clear [] p.parts) (by simp) with hc | ⟨why, hc⟩
      · rw [ha, Stride.arrived.injEq] at hc
        obtain ⟨rfl, hd⟩ := Tree.at_eq_found_iff.1 hc.symm
        exact ⟨ha, hd⟩
      · rw [ha] at hc
        cases hc
    · rw [hw] at hs
      cases hs
  | _ => cases he

theorem openForWriting_child_eq (h : d.tree.AgreeAt d'.tree (collapse [] p.parts))
    (hg : d.tree.Grounded) (hg' : d'.tree.Grounded) (hl : d.tree.LinkFree) (hl' : d'.tree.LinkFree)
    (hp : p.isAbsolute = true) (hd : d.isDirectory p = .ok true) (hd' : d'.isDirectory p = .ok true)
    (hn : IsName name) : d'.openForWriting (p.child name) = d.openForWriting (p.child name) := by
  obtain ⟨hs, -⟩ := stride_of_isDirectory hg hl hp hd
  obtain ⟨hs', -⟩ := stride_of_isDirectory hg' hl' hp hd'
  have hlast : stride d'.tree .file (collapse [] p.parts) [name] =
      stride d.tree .file (collapse [] p.parts) [name] := by
    refine stride_congr fun front hf => h _ ?_
    rcases List.prefix_cons_iff.1 hf with rfl | ⟨rest, rfl, hrest⟩
    · exact List.suffix_refl _
    · obtain rfl := List.prefix_nil.1 hrest
      rw [collapse_name hn]
      exact List.suffix_cons _ _
  have hstride : stride d'.tree .file [] (p.child name).parts =
      stride d.tree .file [] (p.child name).parts := by
    simp only [Path.child, stride_child hs hn, stride_child hs' hn, hlast]
  have hseek : d'.seek .file (p.child name) = d.seek .file (p.child name) :=
    seek_eq_of_stride hl hp hstride
  simp only [openForWriting, hseek]

end Disk

end BuildScripts

import BuildScripts.Disk.Resolve
import BuildScripts.Proofs.Disk.Walk

namespace BuildScripts.Disk

variable {d d' : Disk} {p : Path} {aim : Aim}

theorem start_of_isAbsolute (hp : p.isAbsolute = true) : d.start p = [] := by
  obtain ⟨anchor, parts⟩ := p
  cases anchor with
  | relative => cases hp
  | root => rfl
  | doubleRoot => rfl

def Starts (d : Disk) (p : Path) : Prop :=
  d.tree.get? (d.start p) = some .directory

theorem starts_of_isAbsolute (hp : p.isAbsolute = true) : d.Starts p := by
  rw [Starts, start_of_isAbsolute hp]
  rfl

theorem start_of_here (h : d'.here = d.here) (p : Path) : d'.start p = d.start p := by
  simp only [start, h]

theorem Starts.of_grown (h : d.Starts p) (hh : d'.here = d.here) (hgr : d.tree.Grown d'.tree) :
    d'.Starts p := by
  rw [Starts, start_of_here hh]
  exact hgr.directory _ h

theorem seek_of_long (h : longestPath < p.toText.utf8ByteSize) :
    d.seek aim p = .error .nameTooLong := by
  simp [seek, h]

theorem seek_of_short (h : p.toText.utf8ByteSize ≤ longestPath) :
    d.seek aim p = walk d.tree aim linkBudget (d.start p) p.parts := by
  rw [seek, if_neg (by omega)]

theorem find_eq_ok_iff {l : Location} {e : Entry} :
    d.find p = .ok (l, e) ↔ d.seek .target p = .ok (.found l e) := by
  rw [find]
  cases h : d.seek .target p with
  | error why => simp
  | ok q => cases q <;> simp

theorem find_tooManyLinks_iff :
    d.find p = .error .tooManyLinks ↔ d.seek .target p = .error .tooManyLinks := by
  rw [find]
  cases h : d.seek .target p with
  | error why => simp
  | ok q => cases q <;> simp

theorem seek_target_of_file {q : Place} (h : d.seek .file p = .ok q) : d.seek .target p = .ok q := by
  by_cases hl : longestPath < p.toText.utf8ByteSize
  · rw [seek_of_long hl] at h
    cases h
  · rw [seek_of_short (by omega)] at h ⊢
    rcases walk_file_eq d.tree linkBudget (d.start p) p.parts with hw | hw
    · rw [hw] at h
      cases h
    · rw [← hw, h]

theorem seek_of_grown (hgr : d.tree.Grown d'.tree) (hg : d.tree.Grounded)
    (hs : d'.start p = d.start p) (hp : d.Starts p) {q : Place} (h : d.seek aim p = .ok q) :
    d'.seek aim p = .ok (d'.tree.at_ q.location) := by
  by_cases hl : longestPath < p.toText.utf8ByteSize
  · rw [seek_of_long hl] at h
    cases h
  · rw [seek_of_short (by omega)] at h ⊢
    rw [hs]
    exact walk_of_grown hgr hg hp h

theorem seek_entry_of_target {l : Location} {e : Entry} (h : d.seek .target p = .ok (.found l e)) :
    ∃ l' e', d.seek .entry p = .ok (.found l' e') := by
  by_cases hl : longestPath < p.toText.utf8ByteSize
  · rw [seek_of_long hl] at h
    cases h
  · rw [seek_of_short (by omega)] at h ⊢
    rcases walk_entry_eq d.tree linkBudget (d.start p) p.parts with ⟨l', target, hw⟩ | hw
    · exact ⟨l', _, hw⟩
    · exact ⟨l, e, hw.trans h⟩

theorem seek_ok (hg : d.tree.Grounded) (hp : d.Starts p) {q : Place}
    (h : d.seek aim p = .ok q) :
    ∃ l, q = d.tree.at_ l ∧ d.tree.get? l.tail = some .directory := by
  by_cases hl : longestPath < p.toText.utf8ByteSize
  · rw [seek_of_long hl] at h
    cases h
  · rw [seek_of_short (by omega)] at h
    exact walk_ok hg hp h

theorem found_of_seek (hg : d.tree.Grounded) (hp : d.Starts p) {l : Location} {e : Entry}
    (h : d.seek aim p = .ok (.found l e)) : d.tree.get? l = some e := by
  obtain ⟨l', he, -⟩ := seek_ok hg hp h
  obtain ⟨rfl, hget⟩ := Tree.at_eq_found_iff.1 he.symm
  exact hget

theorem free_of_seek (hg : d.tree.Grounded) (hp : d.Starts p) {l : Location}
    (h : d.seek aim p = .ok (.free l)) :
    d.tree.get? l = none ∧ d.tree.get? l.tail = some .directory := by
  obtain ⟨l', he, hd⟩ := seek_ok hg hp h
  obtain ⟨rfl, hget⟩ := Tree.at_eq_free_iff.1 he.symm
  exact ⟨hget, hd⟩

theorem testEntry_eq_true_iff {test : Entry → Bool} : d.testEntry test p = .ok true ↔
    p.hasNull = false ∧ ∃ l e, d.find p = .ok (l, e) ∧ test e = true := by
  rw [testEntry]
  cases p.hasNull with
  | true => simp
  | false =>
    cases hf : d.find p with
    | error why => cases why <;> simp
    | ok found =>
      obtain ⟨l, e⟩ := found
      simp

theorem testEntry_fault {test : Entry → Bool} {f : Fault} (h : d.testEntry test p = .error f) :
    f = .refused .nameTooLong p.toText := by
  rw [testEntry] at h
  split at h
  · cases h
  · split at h <;> cases h
    rfl

theorem isFile_of_grown (hgr : d.tree.Grown d'.tree) (hg : d.tree.Grounded)
    (hp : p.isAbsolute = true) (h : d.isFile p = .ok true) : d'.isFile p = .ok true := by
  obtain ⟨hn, l, e, hf, he⟩ := testEntry_eq_true_iff.1 h
  have hs := find_eq_ok_iff.1 hf
  cases e with
  | file bytes =>
    have hstart : d'.start p = d.start p := by
      rw [start_of_isAbsolute hp, start_of_isAbsolute hp]
    have hp' := starts_of_isAbsolute (d := d) hp
    obtain ⟨bytes', hb⟩ := hgr.file l bytes (found_of_seek hg hp' hs)
    refine testEntry_eq_true_iff.2 ⟨hn, l, .file bytes', find_eq_ok_iff.2 ?_, rfl⟩
    rw [seek_of_grown hgr hg hstart hp' hs, Place.location, Tree.at_of_some hb]
  | _ => cases he

/-- The same ways lead through two disks: their directories and links are the same. -/
structure SameWays (d d' : Disk) : Prop where
  here : d'.here = d.here
  there : d.tree.Ways d'.tree
  back : d'.tree.Ways d.tree
  linkCount : d'.tree.linkCount = d.tree.linkCount

theorem SameWays.symm (h : SameWays d d') : SameWays d' d :=
  ⟨h.here.symm, h.back, h.there, h.linkCount.symm⟩

theorem SameWays.start (h : SameWays d d') (p : Path) : d'.start p = d.start p := by
  simp only [Disk.start, h.here]

theorem SameWays.linkAt?_of_some (h : SameWays d d') {target : String}
    (ht : d.linkAt? p = some target) : d'.linkAt? p = some target := by
  by_cases hl : longestPath < p.toText.utf8ByteSize
  · simp [linkAt?, seek_of_long hl] at ht
  · rw [linkAt?, seek_of_short (by omega)] at ht ⊢
    split at ht
    · rename_i l target' hs
      rw [h.start, walk_found_link_of_ways h.there hs]
      exact ht
    · cases ht

theorem SameWays.linkAt?_eq (h : SameWays d d') (p : Path) : d'.linkAt? p = d.linkAt? p := by
  cases ht : d.linkAt? p with
  | some target => exact h.linkAt?_of_some ht
  | none =>
    cases ht' : d'.linkAt? p with
    | none => rfl
    | some target => rw [h.symm.linkAt?_of_some ht'] at ht; cases ht

theorem SameWays.find_tooManyLinks (h : SameWays d d')
    (hf : d.find p = .error .tooManyLinks) : d'.find p = .error .tooManyLinks := by
  rw [find_tooManyLinks_iff] at hf ⊢
  by_cases hl : longestPath < p.toText.utf8ByteSize
  · rw [seek_of_long hl] at hf
    cases hf
  · rw [seek_of_short (by omega)] at hf ⊢
    rw [h.start]
    exact walk_tooManyLinks_of_ways h.there hf

theorem resolveParts_congr (h : ∀ p, d'.linkAt? p = d.linkAt? p)
    (inside : List Reached → Reached → List String → Resolved) (pending : List Reached)
    (r : Reached) (parts : List String) :
    d'.resolveParts inside pending r parts = d.resolveParts inside pending r parts := by
  induction parts generalizing r with
  | nil => rfl
  | cons name rest ih => simp only [resolveParts, h, ih]

theorem resolveWithin_congr (h : ∀ p, d'.linkAt? p = d.linkAt? p) (depth : Nat) :
    d'.resolveWithin depth = d.resolveWithin depth := by
  induction depth with
  | zero => rfl
  | succ depth ih =>
    funext pending r parts
    simp only [resolveWithin, ih]
    exact resolveParts_congr h _ pending r parts

theorem fullPath_congr (hh : d'.here = d.here) (hc : d'.tree.linkCount = d.tree.linkCount)
    (h : ∀ p, d'.linkAt? p = d.linkAt? p) (p : Path) : d'.fullPath p = d.fullPath p := by
  have hdepth : d'.resolveDepth = d.resolveDepth := by
    simp only [resolveDepth, hc, hh]
  have hsettled : d'.settled = d.settled := by
    funext r
    cases r <;> simp only [settled, namesFromRoot, hh]
  simp only [fullPath, hdepth, hsettled, resolveWithin_congr h]

theorem SameWays.fullPath_eq (h : SameWays d d') (p : Path) : d'.fullPath p = d.fullPath p :=
  fullPath_congr h.here h.linkCount h.linkAt?_eq p

theorem resolve_of_null (h : p.hasNull = true) : d.resolve p = .error .nullByte := by
  simp [resolve, h]

theorem resolve_of_no_loop (hn : p.hasNull = false)
    (h : d.find (d.fullPath p) ≠ .error .tooManyLinks) : d.resolve p = .ok (d.fullPath p) := by
  simp [resolve, hn]

theorem isAbsolute_fullPath (d : Disk) (p : Path) : (d.fullPath p).isAbsolute = true := by
  rw [fullPath]
  cases d.resolveWithin d.resolveDepth [] ⟨p.isAbsolute, []⟩ p.parts with
  | done r => rfl
  | stuck text =>
    rw [settled]
    cases Path.anchorOf text.toList <;> rfl

theorem resolve_eq_ok {full : Path} (h : d.resolve p = .ok full) :
    p.hasNull = false ∧ full = d.fullPath p := by
  cases hn : p.hasNull with
  | true => simp [resolve_of_null hn] at h
  | false =>
    refine ⟨rfl, ?_⟩
    by_cases hf : d.find (d.fullPath p) = .error .tooManyLinks
    · simp [resolve, hn, hf] at h
    · rw [resolve_of_no_loop hn hf, Except.ok.injEq] at h
      exact h.symm

theorem resolve_fault {f : Fault} (h : d.resolve p = .error f) :
    f = .nullByte ∨ ∃ path, f = .linkLoop path := by
  cases hn : p.hasNull with
  | true =>
    rw [resolve_of_null hn, Except.error.injEq] at h
    exact .inl h.symm
  | false =>
    by_cases hf : d.find (d.fullPath p) = .error .tooManyLinks
    · simp only [resolve, hn, Bool.false_eq_true, if_false, hf, Except.error.injEq] at h
      exact .inr ⟨_, h.symm⟩
    · rw [resolve_of_no_loop hn hf] at h
      cases h

theorem SameWays.resolve_eq (h : SameWays d d') (p : Path) : d'.resolve p = d.resolve p := by
  cases hn : p.hasNull with
  | true => rw [resolve_of_null hn, resolve_of_null hn]
  | false =>
    by_cases hf : d.find (d.fullPath p) = .error .tooManyLinks
    · simp only [resolve, h.fullPath_eq, hf, h.find_tooManyLinks hf]
    · have hf' : d'.find (d'.fullPath p) ≠ .error .tooManyLinks := fun hc =>
        hf (by rw [h.fullPath_eq] at hc; exact h.symm.find_tooManyLinks hc)
      rw [resolve_of_no_loop hn hf, resolve_of_no_loop hn hf', h.fullPath_eq]

end BuildScripts.Disk

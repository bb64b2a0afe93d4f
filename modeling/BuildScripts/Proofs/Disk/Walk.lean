import BuildScripts.Proofs.Disk.Tree

namespace BuildScripts

def Place.location : Place → Location
  | .found l _ => l
  | .free l => l

theorem Tree.location_at (t : Tree) (l : Location) : (t.at_ l).location = l := by
  unfold Tree.at_
  split <;> rfl

structure IsName (name : String) : Prop where
  notEmpty : name ≠ ""
  notHere : name ≠ "."
  notUp : name ≠ ".."

instance (name : String) : Decidable (IsName name) :=
  decidable_of_iff (name ≠ "" ∧ name ≠ "." ∧ name ≠ "..")
    ⟨fun ⟨hempty, hhere, hup⟩ => ⟨hempty, hhere, hup⟩, fun h => ⟨h.notEmpty, h.notHere, h.notUp⟩⟩

theorem name_cases (name : String) :
    name = "" ∨ name = "." ∨ name = ".." ∨ IsName name := by
  by_cases h1 : name = ""
  · exact .inl h1
  by_cases h2 : name = "."
  · exact .inr (.inl h2)
  by_cases h3 : name = ".."
  · exact .inr (.inr (.inl h3))
  exact .inr (.inr (.inr ⟨h1, h2, h3⟩))

section Stride

variable {t t' : Tree} {aim : Aim} {here : Location} {name : String} {parts rest : List String}

theorem stride_skip (hfile : ¬(aim = .file ∧ rest = [""])) (hn : name = "" ∨ name = ".") :
    stride t aim here (name :: rest) = stride t aim here rest := by
  rw [stride, if_neg hfile, if_pos hn]

theorem stride_up (hfile : ¬(aim = .file ∧ rest = [""])) :
    stride t aim here (".." :: rest) = stride t aim here.tail rest := by
  rw [stride, if_neg hfile, if_neg (by decide), if_pos rfl]

theorem stride_long (hfile : ¬(aim = .file ∧ rest = [""])) (hn : IsName name)
    (hlen : longestName < name.utf8ByteSize) :
    stride t aim here (name :: rest) = .refused .nameTooLong := by
  rw [stride, if_neg hfile, if_neg (by simp [hn.notEmpty, hn.notHere]), if_neg hn.notUp, if_pos hlen]

theorem stride_named (hfile : ¬(aim = .file ∧ rest = [""])) (hn : IsName name)
    (hlen : name.utf8ByteSize ≤ longestName) :
    stride t aim here (name :: rest) =
      match t.get? (name :: here) with
      | none => if rest.isEmpty then .arrived (.free (name :: here)) else .refused .noEntry
      | some .directory => stride t aim (name :: here) rest
      | some (.file bytes) =>
        if rest.isEmpty then .arrived (.found (name :: here) (.file bytes))
        else .refused .notDirectory
      | some .sink =>
        if rest.isEmpty then .arrived (.found (name :: here) .sink) else .refused .notDirectory
      | some (.link target) =>
        if rest.isEmpty && aim == .entry then .arrived (.found (name :: here) (.link target))
        else .link here target rest := by
  rewrite [stride, if_neg hfile, if_neg (by simp [hn.notEmpty, hn.notHere]), if_neg hn.notUp,
    if_neg (by omega)]
  rfl

theorem stride_last (hn : IsName name) (hlen : name.utf8ByteSize ≤ longestName)
    (hlink : aim = .entry ∨ ∀ target, t.get? (name :: here) ≠ some (.link target)) :
    stride t aim here [name] = .arrived (t.at_ (name :: here)) := by
  rw [stride_named (by simp) hn hlen]
  cases he : t.get? (name :: here) with
  | none => simp [Tree.at_of_none he]
  | some e =>
    rw [Tree.at_of_some he]
    cases e with
    | directory => rfl
    | file bytes => rfl
    | sink => rfl
    | link target =>
      have ha : aim = .entry := hlink.resolve_right fun h => h target he
      simp [ha]

inductive Strides (t : Tree) (aim : Aim) : Location → List String → Stride → Prop
  | stop {here : Location} : Strides t aim here [] (.arrived (.found here .directory))
  | slash {here : Location} {name : String} {rest : List String} (hf : aim = .file ∧ rest = [""]) :
      Strides t aim here (name :: rest) (.refused .isDirectory)
  | skip {here : Location} {name : String} {rest : List String} {q : Stride}
      (hf : ¬(aim = .file ∧ rest = [""])) (hn : name = "" ∨ name = ".")
      (h : Strides t aim here rest q) : Strides t aim here (name :: rest) q
  | up {here : Location} {rest : List String} {q : Stride} (hf : ¬(aim = .file ∧ rest = [""]))
      (h : Strides t aim here.tail rest q) : Strides t aim here (".." :: rest) q
  | long {here : Location} {name : String} {rest : List String} (hn : IsName name)
      (hl : longestName < name.utf8ByteSize) :
      Strides t aim here (name :: rest) (.refused .nameTooLong)
  | enter {here : Location} {name : String} {rest : List String} {q : Stride}
      (hf : ¬(aim = .file ∧ rest = [""])) (hn : IsName name)
      (hl : name.utf8ByteSize ≤ longestName) (he : t.get? (name :: here) = some .directory)
      (h : Strides t aim (name :: here) rest q) : Strides t aim here (name :: rest) q
  | last {here : Location} {name : String} (hn : IsName name)
      (hl : name.utf8ByteSize ≤ longestName)
      (hlink : aim = .entry ∨ ∀ target, t.get? (name :: here) ≠ some (.link target)) :
      Strides t aim here [name] (.arrived (t.at_ (name :: here)))
  | stuck {here : Location} {name : String} {rest : List String} {why : Refusal}
      (hwhy : why = .noEntry ∨ why = .notDirectory) :
      Strides t aim here (name :: rest) (.refused why)
  | link {here : Location} {name : String} {rest : List String} {target : String}
      (hf : ¬(aim = .file ∧ rest = [""])) (hn : IsName name)
      (hl : name.utf8ByteSize ≤ longestName) (he : t.get? (name :: here) = some (.link target))
      (hr : ¬(rest = [] ∧ aim = .entry)) : Strides t aim here (name :: rest) (.link here target rest)

theorem strides (t : Tree) (aim : Aim) (here : Location) (parts : List String) :
    Strides t aim here parts (stride t aim here parts) := by
  induction parts generalizing here with
  | nil => exact .stop
  | cons name rest ih =>
    by_cases hf : aim = .file ∧ rest = [""]
    · rw [stride, if_pos hf]
      exact .slash hf
    rcases name_cases name with h | h | rfl | hn
    · rw [stride_skip hf (.inl h)]
      exact .skip hf (.inl h) (ih here)
    · rw [stride_skip hf (.inr h)]
      exact .skip hf (.inr h) (ih here)
    · rw [stride_up hf]
      exact .up hf (ih here.tail)
    by_cases hlong : longestName < name.utf8ByteSize
    · rw [stride_long hf hn hlong]
      exact .long hn hlong
    have hl : name.utf8ByteSize ≤ longestName := by omega
    -- Only the last name may stand for a link that is not followed.
    cases rest with
    | nil =>
      by_cases hlink : aim = .entry ∨ ∀ target, t.get? (name :: here) ≠ some (.link target)
      · rw [stride_last hn hl hlink]
        exact .last hn hl hlink
      · simp only [not_or, not_forall, not_not] at hlink
        obtain ⟨ha, target, he⟩ := hlink
        rw [stride_named hf hn hl, he]
        simpa [ha] using Strides.link hf hn hl he fun hr => ha hr.2
    | cons next rest =>
      rw [stride_named hf hn hl]
      cases he : t.get? (name :: here) with
      | none => exact .stuck (.inl rfl)
      | some e =>
        cases e with
        | directory => exact .enter hf hn hl he (ih (name :: here))
        | file bytes => exact .stuck (.inr rfl)
        | sink => exact .stuck (.inr rfl)
        | link target => exact .link hf hn hl he (by simp)

theorem stride_arrived (hg : t.Grounded) (hd : t.get? here = some .directory) {p : Place}
    (h : stride t aim here parts = .arrived p) :
    ∃ l, p = t.at_ l ∧ t.get? l.tail = some .directory := by
  have hs := strides t aim here parts
  generalize stride t aim here parts = q at h hs
  induction hs with
  | @stop here =>
    cases h
    exact ⟨here, (Tree.at_of_some hd).symm, hg.tail (by simp [hd])⟩
  | skip _ _ _ ih => exact ih hd h
  | up _ _ ih => exact ih (hg.tail (by simp [hd])) h
  | enter _ _ _ he _ ih => exact ih he h
  | @last here name _ _ _ =>
    cases h
    exact ⟨name :: here, rfl, hd⟩
  | _ => cases h

theorem stride_link (hg : t.Grounded) (hd : t.get? here = some .directory) {holder : Location}
    {target : String} {left : List String}
    (h : stride t aim here parts = .link holder target left) :
    t.get? holder = some .directory ∧ ∃ name, t.get? (name :: holder) = some (.link target) := by
  have hs := strides t aim here parts
  generalize stride t aim here parts = q at h hs
  induction hs with
  | skip _ _ _ ih => exact ih hd h
  | up _ _ ih => exact ih (hg.tail (by simp [hd])) h
  | enter _ _ _ he _ ih => exact ih he h
  | @link here name _ _ _ _ _ he _ =>
    cases h
    exact ⟨hd, name, he⟩
  | _ => cases h

theorem stride_arrived_of_grown (hgr : t.Grown t') (hd : t.get? here = some .directory) {p : Place}
    (h : stride t aim here parts = .arrived p) (hg : t.Grounded) :
    stride t' aim here parts = .arrived (t'.at_ p.location) := by
  have hs := strides t aim here parts
  generalize stride t aim here parts = q at h hs
  induction hs with
  | @stop here =>
    cases h
    simp [stride, Place.location, Tree.at_of_some (hgr.directory here hd)]
  | skip hf hn _ ih =>
    rw [stride_skip hf hn]
    exact ih hd h
  | up hf _ ih =>
    rw [stride_up hf]
    exact ih (hg.tail (by simp [hd])) h
  | enter hf hn hl he _ ih =>
    rw [stride_named hf hn hl, hgr.directory _ he]
    exact ih he h
  | last hn hl hlink =>
    cases h
    rw [Tree.location_at]
    exact stride_last hn hl (hlink.imp id fun hl target hl' => hl target (hgr.noLink _ _ hl'))
  | _ => cases h

theorem stride_link_of_ways (hw : t.Ways t') {holder : Location} {target : String}
    {left : List String} (h : stride t aim here parts = .link holder target left) :
    stride t' aim here parts = .link holder target left := by
  have hs := strides t aim here parts
  generalize stride t aim here parts = q at h hs
  induction hs with
  | skip hf hn _ ih =>
    rw [stride_skip hf hn]
    exact ih h
  | up hf _ ih =>
    rw [stride_up hf]
    exact ih h
  | enter hf hn hl he _ ih =>
    rw [stride_named hf hn hl, hw.directory _ he]
    exact ih h
  | link hf hn hl he hr =>
    cases h
    rw [stride_named hf hn hl, hw.link _ _ he]
    simpa using fun hrest ha => hr ⟨hrest, ha⟩
  | _ => cases h

theorem stride_file_eq (t : Tree) (here : Location) (parts : List String) :
    stride t .file here parts = .refused .isDirectory ∨
      stride t .file here parts = stride t .target here parts := by
  induction parts generalizing here with
  | nil => exact .inr rfl
  | cons name rest ih =>
    by_cases hr : rest = [""]
    · exact .inl (by rw [stride, if_pos ⟨rfl, hr⟩])
    have hf : ∀ aim : Aim, ¬(aim = .file ∧ rest = [""]) := fun _ h => hr h.2
    rcases name_cases name with h | h | rfl | hn
    · rw [stride_skip (hf _) (.inl h), stride_skip (hf _) (.inl h)]
      exact ih here
    · rw [stride_skip (hf _) (.inr h), stride_skip (hf _) (.inr h)]
      exact ih here
    · rw [stride_up (hf _), stride_up (hf _)]
      exact ih here.tail
    by_cases hl : name.utf8ByteSize ≤ longestName
    · rw [stride_named (hf _) hn hl, stride_named (hf _) hn hl]
      cases he : t.get? (name :: here) with
      | none => exact .inr rfl
      | some e =>
        cases e with
        | directory => exact ih (name :: here)
        | file bytes => exact .inr rfl
        | sink => exact .inr rfl
        | link target => exact .inr (by simp)
    · rw [stride_long (hf _) hn (by omega), stride_long (hf _) hn (by omega)]
      exact .inr rfl

theorem stride_entry_eq (t : Tree) (here : Location) (parts : List String) :
    (∃ l target, stride t .entry here parts = .arrived (.found l (.link target))) ∨
      stride t .entry here parts = stride t .target here parts := by
  induction parts generalizing here with
  | nil => exact .inr rfl
  | cons name rest ih =>
    have hf : ∀ aim : Aim, aim ≠ .file → ¬(aim = .file ∧ rest = [""]) := fun _ ha h => ha h.1
    have he := hf .entry (by decide)
    have ht := hf .target (by decide)
    rcases name_cases name with h | h | rfl | hn
    · rw [stride_skip he (.inl h), stride_skip ht (.inl h)]
      exact ih here
    · rw [stride_skip he (.inr h), stride_skip ht (.inr h)]
      exact ih here
    · rw [stride_up he, stride_up ht]
      exact ih here.tail
    by_cases hl : name.utf8ByteSize ≤ longestName
    · rw [stride_named he hn hl, stride_named ht hn hl]
      cases t.get? (name :: here) with
      | none => exact .inr rfl
      | some e =>
        cases e with
        | directory => exact ih (name :: here)
        | file bytes => exact .inr rfl
        | sink => exact .inr rfl
        | link target =>
          cases rest with
          | nil => exact .inl ⟨_, _, rfl⟩
          | cons _ _ => exact .inr rfl
    · rw [stride_long he hn (by omega), stride_long ht hn (by omega)]
      exact .inr rfl

theorem stride_ne_tooManyLinks : stride t aim here parts ≠ .refused .tooManyLinks := by
  have hs := strides t aim here parts
  generalize stride t aim here parts = q at hs
  induction hs with
  | skip _ _ _ ih => exact ih
  | up _ _ ih => exact ih
  | enter _ _ _ _ _ ih => exact ih
  | stuck hwhy => rcases hwhy with rfl | rfl <;> simp
  | _ => simp

theorem stride_arrived_link_of_ways (hw : t.Ways t') {l : Location} {target : String}
    (h : stride t aim here parts = .arrived (.found l (.link target))) :
    stride t' aim here parts = .arrived (.found l (.link target)) := by
  have hs := strides t aim here parts
  generalize stride t aim here parts = q at h hs
  induction hs with
  | skip hf hn _ ih =>
    rw [stride_skip hf hn]
    exact ih h
  | up hf _ ih =>
    rw [stride_up hf]
    exact ih h
  | enter hf hn hl he _ ih =>
    rw [stride_named hf hn hl, hw.directory _ he]
    exact ih h
  | last hn hl hlink =>
    obtain ⟨rfl, he⟩ := Tree.at_eq_found_iff.1 (Stride.arrived.inj h)
    have ha : aim = .entry := hlink.resolve_right fun hno => hno target he
    rw [stride_last hn hl (.inl ha), Tree.at_of_some (hw.link _ _ he)]
  | _ => cases h

end Stride

section Walk

variable {t t' : Tree} {aim : Aim} {n : Nat} {here : Location} {parts : List String}

theorem targetStart_directory {holder : Location} (hd : t.get? holder = some .directory)
    (target : String) : t.get? (targetStart holder target) = some .directory := by
  unfold targetStart
  split
  · rfl
  · exact hd

theorem walk_of_arrived {p : Place} (h : stride t aim here parts = .arrived p) :
    walk t aim n here parts = .ok p := by
  unfold walk
  rw [h]

theorem walk_of_refused {why : Refusal} (h : stride t aim here parts = .refused why) :
    walk t aim n here parts = .error why := by
  unfold walk
  rw [h]

theorem walk_of_last_link {holder : Location} {target : String} {rest : List String}
    (h : stride t aim here parts = .link holder target rest) :
    walk t aim 0 here parts = .error .tooManyLinks := by
  unfold walk
  rw [h]

theorem walk_of_link {holder : Location} {target : String} {rest : List String}
    (h : stride t aim here parts = .link holder target rest) :
    walk t aim (n + 1) here parts =
      walk t aim n (targetStart holder target) (targetParts target ++ rest) := by
  rw [walk, h]

inductive Walks (t : Tree) (aim : Aim) :
    Nat → Location → List String → Except Refusal Place → Prop
  | arrived {n : Nat} {here : Location} {parts : List String} {p : Place}
      (hs : stride t aim here parts = .arrived p) : Walks t aim n here parts (.ok p)
  | refused {n : Nat} {here : Location} {parts : List String} {why : Refusal}
      (hs : stride t aim here parts = .refused why) : Walks t aim n here parts (.error why)
  | spent {here holder : Location} {parts rest : List String} {target : String}
      (hs : stride t aim here parts = .link holder target rest) :
      Walks t aim 0 here parts (.error .tooManyLinks)
  | link {n : Nat} {here holder : Location} {parts rest : List String} {target : String}
      {q : Except Refusal Place} (hs : stride t aim here parts = .link holder target rest)
      (h : Walks t aim n (targetStart holder target) (targetParts target ++ rest) q) :
      Walks t aim (n + 1) here parts q

theorem walks (t : Tree) (aim : Aim) (n : Nat) (here : Location) (parts : List String) :
    Walks t aim n here parts (walk t aim n here parts) := by
  induction n generalizing here parts with
  | zero =>
    cases hs : stride t aim here parts with
    | arrived p =>
      rw [walk_of_arrived hs]
      exact .arrived hs
    | refused why =>
      rw [walk_of_refused hs]
      exact .refused hs
    | link holder target rest =>
      rw [walk_of_last_link hs]
      exact .spent hs
  | succ n ih =>
    cases hs : stride t aim here parts with
    | arrived p =>
      rw [walk_of_arrived hs]
      exact .arrived hs
    | refused why =>
      rw [walk_of_refused hs]
      exact .refused hs
    | link holder target rest =>
      rw [walk_of_link hs]
      exact .link hs (ih _ _)

theorem walk_ok (hg : t.Grounded) (hd : t.get? here = some .directory) {p : Place}
    (h : walk t aim n here parts = .ok p) :
    ∃ l, p = t.at_ l ∧ t.get? l.tail = some .directory := by
  have hw := walks t aim n here parts
  generalize walk t aim n here parts = q at h hw
  induction hw with
  | arrived hs =>
    cases h
    exact stride_arrived hg hd hs
  | refused => cases h
  | spent => cases h
  | link hs _ ih => exact ih (targetStart_directory (stride_link hg hd hs).1 _) h

theorem walk_of_grown (hgr : t.Grown t') (hg : t.Grounded) (hd : t.get? here = some .directory)
    {p : Place} (h : walk t aim n here parts = .ok p) :
    walk t' aim n here parts = .ok (t'.at_ p.location) := by
  have hw := walks t aim n here parts
  generalize walk t aim n here parts = q at h hw
  induction hw with
  | arrived hs =>
    cases h
    exact walk_of_arrived (stride_arrived_of_grown hgr hd hs hg)
  | refused => cases h
  | spent => cases h
  | link hs _ ih =>
    rw [walk_of_link (stride_link_of_ways hgr.toWays hs)]
    exact ih (targetStart_directory (stride_link hg hd hs).1 _) h

theorem walk_file_eq (t : Tree) (n : Nat) (here : Location) (parts : List String) :
    walk t .file n here parts = .error .isDirectory ∨
      walk t .file n here parts = walk t .target n here parts := by
  have hw := walks t .file n here parts
  generalize walk t .file n here parts = q at hw
  induction hw with
  | @arrived _ here parts _ hs =>
    rcases stride_file_eq t here parts with h | h
    · exact .inl (by cases hs.symm.trans h)
    · exact .inr (walk_of_arrived (h.symm.trans hs)).symm
  | @refused _ here parts _ hs =>
    rcases stride_file_eq t here parts with h | h
    · exact .inl (by cases hs.symm.trans h; rfl)
    · exact .inr (walk_of_refused (h.symm.trans hs)).symm
  | @spent here _ parts _ _ hs =>
    rcases stride_file_eq t here parts with h | h
    · exact .inl (by cases hs.symm.trans h)
    · exact .inr (walk_of_last_link (h.symm.trans hs)).symm
  | @link _ here _ parts _ _ _ hs _ ih =>
    rcases stride_file_eq t here parts with h | h
    · exact .inl (by cases hs.symm.trans h)
    · rw [walk_of_link (h.symm.trans hs)]
      exact ih

theorem walk_entry_eq (t : Tree) (n : Nat) (here : Location) (parts : List String) :
    (∃ l target, walk t .entry n here parts = .ok (.found l (.link target))) ∨
      walk t .entry n here parts = walk t .target n here parts := by
  have hw := walks t .entry n here parts
  generalize walk t .entry n here parts = q at hw
  induction hw with
  | @arrived _ here parts _ hs =>
    rcases stride_entry_eq t here parts with ⟨l, target, h⟩ | h
    · cases hs.symm.trans h
      exact .inl ⟨l, target, rfl⟩
    · exact .inr (walk_of_arrived (h.symm.trans hs)).symm
  | @refused _ here parts _ hs =>
    rcases stride_entry_eq t here parts with ⟨l, target, h⟩ | h
    · cases hs.symm.trans h
    · exact .inr (walk_of_refused (h.symm.trans hs)).symm
  | @spent here _ parts _ _ hs =>
    rcases stride_entry_eq t here parts with ⟨l, target, h⟩ | h
    · cases hs.symm.trans h
    · exact .inr (walk_of_last_link (h.symm.trans hs)).symm
  | @link _ here _ parts _ _ _ hs _ ih =>
    rcases stride_entry_eq t here parts with ⟨l, target, h⟩ | h
    · cases hs.symm.trans h
    · rw [walk_of_link (h.symm.trans hs)]
      exact ih

theorem walk_found_link_of_ways (hw : t.Ways t') {l : Location} {target : String}
    (h : walk t aim n here parts = .ok (.found l (.link target))) :
    walk t' aim n here parts = .ok (.found l (.link target)) := by
  have hq := walks t aim n here parts
  generalize walk t aim n here parts = q at h hq
  induction hq with
  | arrived hs =>
    cases h
    exact walk_of_arrived (stride_arrived_link_of_ways hw hs)
  | refused => cases h
  | spent => cases h
  | link hs _ ih =>
    rw [walk_of_link (stride_link_of_ways hw hs)]
    exact ih h

theorem walk_tooManyLinks_of_ways (hw : t.Ways t')
    (h : walk t aim n here parts = .error .tooManyLinks) :
    walk t' aim n here parts = .error .tooManyLinks := by
  have hq := walks t aim n here parts
  generalize walk t aim n here parts = q at h hq
  induction hq with
  | arrived => cases h
  | refused hs =>
    cases h
    exact absurd hs stride_ne_tooManyLinks
  | spent hs => exact walk_of_last_link (stride_link_of_ways hw hs)
  | link hs _ ih =>
    rw [walk_of_link (stride_link_of_ways hw hs)]
    exact ih h

end Walk

end BuildScripts

import BuildScripts.Disk.Write
import BuildScripts.Proofs.Attempts
import BuildScripts.Proofs.Disk.Clear

namespace BuildScripts.Disk

open BuildScripts.Text

variable {d d' : Disk} {p : Path} {why : Refusal}

section Directories

variable {anchor : Anchor} {name : String} {parents names : List String}

theorem makeDirectory_eq_ok_iff : d.makeDirectory p = .ok d' ↔
    ∃ l, d.seek .entry p = .ok (.free l) ∧ d' = d.setEntry l .directory := by
  rw [makeDirectory]
  cases d.seek .entry p with
  | error why => simp
  | ok q => cases q <;> simp [eq_comm]

theorem acceptDirectory_run (why : Refusal) (p : Path) (d : Disk) : acceptDirectory why p d =
    match d.isDirectory p with
    | .ok true => .ok () d
    | .ok false => .error (.refused why p.toText) d
    | .error f => .error f d := by
  simp only [acceptDirectory, Attempt.get_bind]
  cases d.isDirectory p with
  | error f => rfl
  | ok found => cases found <;> rfl

theorem after_acceptDirectory (why : Refusal) (p : Path) (d : Disk) :
    (acceptDirectory why p).after d = d := by
  rw [Attempt.after, acceptDirectory_run]
  cases d.isDirectory p with
  | error f => rfl
  | ok found => cases found <;> rfl

def makeInParents (p : Path) : Attempt Disk Unit := do
  match (← get).makeDirectory p with
  | .ok d => set d
  | .error .noEntry => throw (.refused .noEntry p.toText)
  | .error why => acceptDirectory why p

theorem makeInParents_of_ok (h : d.makeDirectory p = .ok d') : makeInParents p d = .ok () d' := by
  rw [makeInParents, Attempt.get_bind, h]
  rfl

theorem after_makeInParents_of_error (h : d.makeDirectory p = .error why) :
    (makeInParents p).after d = d := by
  rw [Attempt.after, makeInParents, Attempt.get_bind, h]
  cases why with
  | noEntry => rfl
  | _ => exact after_acceptDirectory _ p d

theorem makeWithParents_of_ok
    (h : d.makeDirectory ⟨anchor, (name :: parents).reverse⟩ = .ok d') :
    makeWithParents anchor (name :: parents) d = .ok () d' := by
  rw [makeWithParents, Attempt.get_bind, h]
  rfl

theorem makeWithParents_of_noEntry
    (h : d.makeDirectory ⟨anchor, (name :: parents).reverse⟩ = .error .noEntry) :
    makeWithParents anchor (name :: parents) d =
      (makeWithParents anchor parents >>= fun _ =>
        makeInParents ⟨anchor, (name :: parents).reverse⟩) d := by
  rw [makeWithParents, Attempt.get_bind, h]
  rfl

theorem makeWithParents_of_refused (hw : why ≠ .noEntry)
    (h : d.makeDirectory ⟨anchor, (name :: parents).reverse⟩ = .error why) :
    makeWithParents anchor (name :: parents) d =
      acceptDirectory why ⟨anchor, (name :: parents).reverse⟩ d := by
  rw [makeWithParents, Attempt.get_bind, h]
  cases why with
  | noEntry => exact absurd rfl hw
  | _ => rfl

theorem makeWithParents_preserves {R : Disk → Disk → Prop} (hrefl : ∀ d, R d d)
    (htrans : ∀ {a b c}, R a b → R b c → R a c)
    (hstep : ∀ front, front <+: names.reverse →
      ∀ d d', d.makeDirectory ⟨anchor, front⟩ = .ok d' → R d d') (d : Disk) :
    R d ((makeWithParents anchor names).after d) := by
  induction names generalizing d with
  | nil => exact hrefl d
  | cons name parents ih =>
    have hlast := hstep (name :: parents).reverse (List.prefix_refl _)
    have hparents := ih fun front hf => hstep front
      (hf.trans (by rw [List.reverse_cons]; exact List.prefix_append _ _))
    cases hm : d.makeDirectory ⟨anchor, (name :: parents).reverse⟩ with
    | ok d' =>
      rw [Attempt.after_of_ok (makeWithParents_of_ok hm)]
      exact hlast d d' hm
    | error why =>
      by_cases hw : why = .noEntry
      · -- The parents are made first, and then the directory is tried once more.
        subst hw
        rw [Attempt.after, makeWithParents_of_noEntry hm]
        change R d (Attempt.after _ d)
        cases hp : makeWithParents anchor parents d with
        | error f d₁ =>
          rw [Attempt.after_bind_of_error hp, ← Attempt.after_of_error hp]
          exact hparents d
        | ok _ d₁ =>
          rw [Attempt.after_bind_of_ok hp]
          have h₁ := hparents d
          rw [Attempt.after_of_ok hp] at h₁
          cases hm₁ : d₁.makeDirectory ⟨anchor, (name :: parents).reverse⟩ with
          | ok d₂ =>
            rw [Attempt.after_of_ok (makeInParents_of_ok hm₁)]
            exact htrans h₁ (hlast d₁ d₂ hm₁)
          | error why =>
            rw [after_makeInParents_of_error hm₁]
            exact h₁
      · rw [Attempt.after, makeWithParents_of_refused hw hm]
        change R d (Attempt.after _ d)
        rw [after_acceptDirectory]
        exact hrefl d

structure Made (start : Location) (parts : List String) (d d' : Disk) : Prop where
  here : d'.here = d.here
  grounded : d'.tree.Grounded
  grown : d.tree.Grown d'.tree
  place : ∀ l, d'.tree.get? l = d.tree.get? l ∨ d.tree.get? l = none ∧
    d'.tree.get? l = some .directory ∧
      (d.tree.Clear start parts → ∃ front, front <+: parts ∧ l = collapse start front)

theorem Made.refl {start : Location} {parts : List String} (hg : d.tree.Grounded) :
    Made start parts d d :=
  ⟨rfl, hg, .refl _, fun _ => .inl rfl⟩

theorem Made.trans {start : Location} {parts : List String} {d'' : Disk}
    (h : Made start parts d d') (h' : Made start parts d' d'') : Made start parts d d'' where
  here := h'.here.trans h.here
  grounded := h'.grounded
  grown := h.grown.trans h'.grown
  place l := by
    rcases h.place l with hl | ⟨hnone, hdir, hland⟩
    · rcases h'.place l with hl' | ⟨hnone, hdir, hland⟩
      · exact .inl (hl'.trans hl)
      · exact .inr ⟨hl ▸ hnone, hdir, fun hc => hland (hc.of_grown h.grown)⟩
    · exact .inr ⟨hnone, h'.grown.directory l hdir, hland⟩

theorem made_of_makeDirectory {parts front : List String} (hg : d.tree.Grounded)
    (hp : d.Starts ⟨anchor, front⟩) (hf : front <+: parts)
    (h : d.makeDirectory ⟨anchor, front⟩ = .ok d') :
    Made (d.start ⟨anchor, front⟩) parts d d' := by
  obtain ⟨l, hs, rfl⟩ := makeDirectory_eq_ok_iff.1 h
  obtain ⟨hfree, hd⟩ := free_of_seek hg hp hs
  have hset : ∀ k, (d.setEntry l .directory).tree.get? k =
      if k = l then some .directory else d.tree.get? k :=
    fun k => Tree.get?_set _ _ _ _ (Tree.ne_nil_of_get? (t := d.tree) (by simp [hfree]))
  refine ⟨rfl, hg.set (by simp [hfree]) hd, .set_directory hfree, fun k => ?_⟩
  by_cases hk : k = l
  · subst hk
    refine .inr ⟨hfree, by rw [hset, if_pos rfl], fun hc => ⟨front, hf, ?_⟩⟩
    rcases seek_clear .entry hg hp (hc.of_prefix hf) (by simp) with ha | ⟨why, ha⟩
    · rw [hs, Except.ok.injEq] at ha
      exact (Tree.at_eq_free_iff.1 ha.symm).1
    · rw [hs] at ha
      cases ha
  · exact .inl (by rw [hset, if_neg hk])

theorem made_of_makeWithParents (hg : d.tree.Grounded) (hp : d.Starts ⟨anchor, names.reverse⟩) :
    Made (d.start ⟨anchor, names.reverse⟩) names.reverse d
      ((makeWithParents anchor names).after d) := by
  apply makeWithParents_preserves (R := fun a b => a.here = d.here → a.tree.Grounded →
    a.Starts ⟨anchor, names.reverse⟩ → Made (d.start ⟨anchor, names.reverse⟩) names.reverse a b)
    ?_ ?_ ?_ d rfl hg hp
  · intro a _ hga _
    exact .refl hga
  · intro a b e hab hbe hh hga hpa
    have hone := hab hh hga hpa
    exact hone.trans (hbe (hone.here.trans hh) hone.grounded (hpa.of_grown hone.here hone.grown))
  · intro front hf a b h hh hga hpa
    rw [← start_of_here hh]
    have hone : Made (a.start ⟨anchor, front⟩) names.reverse a b :=
      made_of_makeDirectory hga hpa hf h
    exact hone

theorem made_of_makeDirectories (hg : d.tree.Grounded) (hp : d.Starts p) :
    Made (d.start p) p.parts d ((makeDirectories p).after d) := by
  obtain ⟨anchor, parts⟩ := p
  rw [makeDirectories]
  split
  · exact .refl hg
  · rw [← List.reverse_reverse parts] at hp
    have hmade := made_of_makeWithParents hg hp
    rwa [List.reverse_reverse] at hmade

theorem acceptDirectory_fault {f : Fault} (h : acceptDirectory why p d = .error f d') :
    ∃ why', f = .refused why' p.toText := by
  rw [acceptDirectory_run] at h
  cases ht : d.isDirectory p with
  | error e =>
    rw [ht] at h
    cases h
    exact ⟨_, testEntry_fault ht⟩
  | ok found =>
    rw [ht] at h
    cases found <;> cases h
    exact ⟨why, rfl⟩

theorem makeInParents_fault {f : Fault} (h : makeInParents p d = .error f d') :
    ∃ why', f = .refused why' p.toText := by
  rw [makeInParents, Attempt.get_bind] at h
  cases hm : d.makeDirectory p with
  | ok d₁ =>
    rw [hm] at h
    cases h
  | error why =>
    rw [hm] at h
    cases why with
    | noEntry =>
      cases h
      exact ⟨_, rfl⟩
    | _ => exact acceptDirectory_fault h

theorem makeWithParents_fault {f : Fault} (h : makeWithParents anchor names d = .error f d') :
    ∃ why' path, f = .refused why' path := by
  induction names generalizing d' with
  | nil => cases h
  | cons name parents ih =>
    cases hm : d.makeDirectory ⟨anchor, (name :: parents).reverse⟩ with
    | ok d₁ =>
      rw [makeWithParents_of_ok hm] at h
      cases h
    | error why =>
      by_cases hw : why = .noEntry
      · subst hw
        rw [makeWithParents_of_noEntry hm, Attempt.bind_eq_error] at h
        rcases h with h | ⟨_, _, -, h⟩
        · exact ih h
        · obtain ⟨why', rfl⟩ := makeInParents_fault h
          exact ⟨why', _, rfl⟩
      · rw [makeWithParents_of_refused hw hm] at h
        obtain ⟨why', rfl⟩ := acceptDirectory_fault h
        exact ⟨why', _, rfl⟩

theorem makeDirectories_fault {f : Fault} (h : makeDirectories p d = .error f d') :
    f = .nullByte ∨ ∃ why' path, f = .refused why' path := by
  rw [makeDirectories] at h
  split at h
  · cases h
    exact .inl rfl
  · exact .inr (makeWithParents_fault h)

theorem acceptDirectory_of_isDirectory (h : d.isDirectory p = .ok true) :
    acceptDirectory why p d = .ok () d := by
  rw [acceptDirectory_run, h]

theorem makeDirectory_of_isDirectory (h : d.isDirectory p = .ok true) :
    d.makeDirectory p = .error .alreadyThere := by
  obtain ⟨-, l, e, hf, -⟩ := testEntry_eq_true_iff.1 h
  obtain ⟨l', e', hs⟩ := seek_entry_of_target (find_eq_ok_iff.1 hf)
  rw [makeDirectory, hs]

theorem makeDirectories_of_isDirectory (h : d.isDirectory p = .ok true) :
    makeDirectories p d = .ok () d := by
  obtain ⟨anchor, parts⟩ := p
  obtain ⟨hn, -⟩ := testEntry_eq_true_iff.1 h
  have hm := makeDirectory_of_isDirectory h
  rw [makeDirectories, if_neg (by simp [hn])]
  cases hr : parts.reverse with
  | nil => rfl
  | cons name parents =>
    have hparts : (name :: parents).reverse = parts := by rw [← hr, List.reverse_reverse]
    have hwhy : Refusal.alreadyThere ≠ .noEntry := by simp
    rw [makeWithParents_of_refused hwhy (by rw [hparts, hm]), hparts]
    exact acceptDirectory_of_isDirectory h

end Directories

section Writing

variable {l : Location} {bytes : ByteArray} {s : String}

def filled : Option Entry → ByteArray → Entry
  | some .sink, _ => .sink
  | _, bytes => .file bytes

theorem filled_of_ne_sink {held : Option Entry} (h : held ≠ some .sink) (bytes : ByteArray) :
    filled held bytes = .file bytes := by
  cases held with
  | none => rfl
  | some e =>
    cases e with
    | sink => exact absurd rfl h
    | _ => rfl

theorem filled_eq_sink_iff {held : Option Entry} {bytes : ByteArray} :
    filled held bytes = .sink ↔ held = some .sink := by
  cases held with
  | none => simp [filled]
  | some e => cases e <;> simp [filled]

theorem filled_congr {held held' : Option Entry} (h : held = some .sink ↔ held' = some .sink)
    (bytes : ByteArray) : filled held bytes = filled held' bytes := by
  by_cases hheld : held = some .sink
  · rw [hheld, h.1 hheld]
  · rw [filled_of_ne_sink hheld, filled_of_ne_sink (mt h.2 hheld)]

theorem filled_cases (held : Option Entry) (bytes : ByteArray) :
    filled held bytes = .sink ∨ filled held bytes = .file bytes := by
  cases held with
  | none => exact .inr rfl
  | some e =>
    cases e with
    | sink => exact .inl rfl
    | _ => exact .inr rfl

structure Filled (l : Location) (bytes : ByteArray) (d d' : Disk) : Prop where
  here : d'.here = d.here
  grounded : d'.tree.Grounded
  grown : d.tree.Grown d'.tree
  back : d'.tree.Ways d.tree
  held : d'.tree.get? l = some (filled (d.tree.get? l) bytes)
  others : ∀ k, k ≠ l → d'.tree.get? k = d.tree.get? k

theorem Filled.sameWays (h : Filled l bytes d d') : SameWays d d' :=
  ⟨h.here, h.grown.toWays, h.back, h.grown.linkCount⟩

theorem openForWriting_eq_ok_iff : d.openForWriting p = .ok l ↔
    d.seek .file p = .ok (.free l) ∨ (∃ old, d.seek .file p = .ok (.found l (.file old))) ∨
      d.seek .file p = .ok (.found l .sink) := by
  rw [openForWriting]
  cases d.seek .file p with
  | error why => simp
  | ok q =>
    cases q with
    | free k => simp
    | found k e => cases e <;> simp

theorem filled_of_fill (hg : d.tree.Grounded) (hp : d.Starts p)
    (h : d.openForWriting p = .ok l) (bytes : ByteArray) : Filled l bytes d (d.fill l bytes) := by
  have hwrite (hdir : d.tree.get? l.tail = some .directory)
      (hl : d.tree.get? l = none ∨ ∃ old, d.tree.get? l = some (.file old)) :
      Filled l bytes d (d.setEntry l (.file bytes)) := by
    have hnot : d.tree.get? l ≠ some .directory := by rcases hl with hl | ⟨old, hl⟩ <;> simp [hl]
    have hset := fun k => Tree.get?_set d.tree l k (.file bytes) (Tree.ne_nil_of_get? hnot)
    refine ⟨rfl, hg.set hnot hdir, .set_file hl, .of_set_file hnot, (hset l).trans ?_, fun k hk => ?_⟩
    · rcases hl with hl | ⟨old, hl⟩ <;> simp [hl, filled]
    · exact (hset k).trans (if_neg hk)
  rcases openForWriting_eq_ok_iff.1 h with hs | ⟨old, hs⟩ | hs
  · obtain ⟨hfree, hdir⟩ := free_of_seek hg hp hs
    rw [fill, hfree]
    exact hwrite hdir (.inl hfree)
  · have hfile := found_of_seek hg hp hs
    rw [fill, hfile]
    exact hwrite (hg.tail (by simp [hfile])) (.inr ⟨old, hfile⟩)
  · have hsink := found_of_seek hg hp hs
    rw [fill, hsink]
    exact ⟨rfl, hg, .refl _, (Tree.Grown.refl _).toWays, by rw [hsink, filled], fun _ _ => rfl⟩

theorem writeBytes_eq (hn : p.hasNull = false) :
    writeBytes p bytes d = match d.openForWriting p with
      | .ok l => .ok () (d.fill l bytes)
      | .error why => .error (.refused why p.toText) d := by
  rw [writeBytes, if_neg (by simp [hn])]
  change (match d.openForWriting p with
    | .ok l => set (d.fill l bytes)
    | .error why => throw (.refused why p.toText) : Attempt Disk Unit) d = _
  cases d.openForWriting p <;> rfl

theorem writeBytes_of_ok (hn : p.hasNull = false) (h : d.openForWriting p = .ok l) :
    writeBytes p bytes d = .ok () (d.fill l bytes) := by
  rw [writeBytes_eq hn, h]

theorem writeBytes_of_error (hn : p.hasNull = false) (h : d.openForWriting p = .error why) :
    writeBytes p bytes d = .error (.refused why p.toText) d := by
  rw [writeBytes_eq hn, h]

theorem writeBytes_of_null (hn : p.hasNull = true) : writeBytes p bytes d = .error .nullByte d := by
  rw [writeBytes, if_pos hn]
  rfl

theorem writeBytes_eq_ok_iff : writeBytes p bytes d = .ok () d' ↔
    p.hasNull = false ∧ ∃ l, d.openForWriting p = .ok l ∧ d' = d.fill l bytes := by
  cases hn : p.hasNull with
  | true => simp [writeBytes_of_null hn]
  | false =>
    cases ho : d.openForWriting p with
    | error why => simp [writeBytes_of_error hn ho]
    | ok l => simp [writeBytes_of_ok hn ho, eq_comm]

theorem writeBytes_fault {f : Fault} (h : writeBytes p bytes d = .error f d') :
    d' = d ∧ (f = .nullByte ∨ ∃ why' path, f = .refused why' path) := by
  cases hn : p.hasNull with
  | true =>
    rw [writeBytes_of_null hn] at h
    cases h
    exact ⟨rfl, .inl rfl⟩
  | false =>
    cases ho : d.openForWriting p with
    | ok l => simp [writeBytes_of_ok hn ho] at h
    | error why =>
      rw [writeBytes_of_error hn ho] at h
      cases h
      exact ⟨rfl, .inr ⟨why, _, rfl⟩⟩

def readBack (held : Option Entry) (s : String) : String :=
  match held with
  | some .sink => ""
  | _ => unifyLineEnds s

theorem find_of_openForWriting {e : Entry} (hg : d.tree.Grounded) (hp : d.Starts p)
    (h : d.openForWriting p = .ok l) (hh : d'.here = d.here) (hgr : d.tree.Grown d'.tree)
    (he : d'.tree.get? l = some e) : d'.find p = .ok (l, e) := by
  have hs := start_of_here hh p
  rw [find_eq_ok_iff, ← Tree.at_of_some he]
  rcases openForWriting_eq_ok_iff.1 h with ho | ⟨old, ho⟩ | ho
  · exact seek_of_grown hgr hg hs hp (seek_target_of_file ho)
  · exact seek_of_grown hgr hg hs hp (seek_target_of_file ho)
  · exact seek_of_grown hgr hg hs hp (seek_target_of_file ho)

theorem find_of_fill (hg : d.tree.Grounded) (hp : d.Starts p)
    (h : d.openForWriting p = .ok l) (bytes : ByteArray) :
    (d.fill l bytes).find p = .ok (l, filled (d.tree.get? l) bytes) := by
  have hf := filled_of_fill hg hp h bytes
  exact find_of_openForWriting hg hp h hf.here hf.grown hf.held

theorem openForWriting_of_fill (hg : d.tree.Grounded) (hp : d.Starts p)
    (h : d.openForWriting p = .ok l) (hh : d'.here = d.here)
    (hgr : (d.fill l bytes).tree.Grown d'.tree) : d'.openForWriting p = .ok l := by
  have hf := filled_of_fill hg hp h bytes
  have hs := start_of_here hh p
  have hseek : d'.seek .file p = .ok (d'.tree.at_ l) := by
    rcases openForWriting_eq_ok_iff.1 h with ho | ⟨old, ho⟩ | ho
    · exact seek_of_grown (hf.grown.trans hgr) hg hs hp ho
    · exact seek_of_grown (hf.grown.trans hgr) hg hs hp ho
    · exact seek_of_grown (hf.grown.trans hgr) hg hs hp ho
  have hheld := hf.held
  rcases filled_cases (d.tree.get? l) bytes with he | he
  · have hsink := hgr.sink l (hheld.trans (congrArg some he))
    exact openForWriting_eq_ok_iff.2 (.inr (.inr (by rw [hseek, Tree.at_of_some hsink])))
  · obtain ⟨old, hold⟩ := hgr.file l bytes (hheld.trans (congrArg some he))
    exact openForWriting_eq_ok_iff.2 (.inr (.inl ⟨old, by rw [hseek, Tree.at_of_some hold]⟩))

theorem isFile_of_fill (hg : d.tree.Grounded) (hp : d.Starts p) (hn : p.hasNull = false)
    (h : d.openForWriting p = .ok l) (bytes : ByteArray) :
    (d.fill l bytes).isFile p = .ok (filled (d.tree.get? l) bytes).isFile := by
  rw [isFile, testEntry, hn, find_of_fill hg hp h]
  rfl

theorem readText_of_fill (hg : d.tree.Grounded) (hp : d.Starts p) (hn : p.hasNull = false)
    (h : d.openForWriting p = .ok l) :
    (d.fill l (Utf8.encode s)).readText p = .ok (readBack (d.tree.get? l) s) := by
  rw [readText, readBytes, hn, find_of_fill hg hp h]
  cases d.tree.get? l with
  | none => simp only [filled, readBack, Utf8.decode_encode, Bool.false_eq_true, if_false]
  | some e =>
    cases e with
    | sink =>
      have hempty : Utf8.decode .empty = .ok "" := Utf8.decode_encode ""
      simp only [filled, readBack, hempty, Bool.false_eq_true, if_false]
      rfl
    | _ => simp only [filled, readBack, Utf8.decode_encode, Bool.false_eq_true, if_false]

end Writing

end BuildScripts.Disk

import BuildScripts.Proofs.Task.CopyOne

/-!
How a copying runs, entry by entry and level by level. Main statements: what every single copy
keeps, the task keeps; and a limit to the levels ends no run if it is greater than the number of
parts that a path can have.
-/

namespace BuildScripts

open Attempt

namespace CopyTask

variable {overwrite : Bool} {sel : Selection} {source destination entry : Path} {j : CopyJob}
  {names : List String}

section Entries

variable {deeper deeper' : Path → Path → Attempt CopyJob Unit} {name : String} {P : CopyJob → Prop}

def copyEntry (deeper : Path → Path → Attempt CopyJob Unit) (sel : Selection) (overwrite : Bool)
    (source destination : Path) (name : String) : Attempt CopyJob Unit := do
  if ← CopyJob.asking (·.isDirectory (source.child name)) then
    deeper (source.child name) (destination.child name)
  else if sel.takes (source.child name).toText then
    copyOne overwrite (source.child name) destination

theorem copyEntry_of_ok {found : Bool} (h : j.disk.isDirectory (source.child name) = .ok found) :
    copyEntry deeper sel overwrite source destination name j =
      (if found then deeper (source.child name) (destination.child name)
      else if sel.takes (source.child name).toText then
        copyOne overwrite (source.child name) destination
      else pure ()) j :=
  bind_of_ok (CopyJob.asking_of_ok h)

theorem copyEntry_of_error {f : Fault} (h : j.disk.isDirectory (source.child name) = .error f) :
    copyEntry deeper sel overwrite source destination name j = .error f j :=
  bind_of_error (CopyJob.asking_of_error h)

theorem copyEntry_cases (deeper : Path → Path → Attempt CopyJob Unit) (sel : Selection)
    (overwrite : Bool) (source destination : Path) (name : String) (j : CopyJob) :
    (∃ f, f ≠ .tooDeep ∧ copyEntry deeper sel overwrite source destination name j = .error f j) ∨
      (j.disk.isDirectory (source.child name) = .ok true ∧
        copyEntry deeper sel overwrite source destination name j =
          deeper (source.child name) (destination.child name) j) ∨
      j.disk.isDirectory (source.child name) = .ok false ∧
        ((sel.takes (source.child name).toText = true ∧
          copyEntry deeper sel overwrite source destination name j =
            copyOne overwrite (source.child name) destination j) ∨
        (sel.takes (source.child name).toText = false ∧
          copyEntry deeper sel overwrite source destination name j = .ok () j)) := by
  cases hd : j.disk.isDirectory (source.child name) with
  | error f =>
    refine .inl ⟨f, ?_, copyEntry_of_error hd⟩
    rw [Disk.testEntry_fault hd]
    simp
  | ok found =>
    rw [copyEntry_of_ok hd]
    cases found with
    | true => exact .inr (.inl ⟨rfl, rfl⟩)
    | false =>
      cases htaken : sel.takes (source.child name).toText with
      | true => exact .inr (.inr ⟨rfl, .inl ⟨rfl, rfl⟩⟩)
      | false => exact .inr (.inr ⟨rfl, .inr ⟨rfl, rfl⟩⟩)

theorem copyEntries_cons : copyEntries deeper sel overwrite source destination (name :: names) j =
    (copyEntry deeper sel overwrite source destination name >>= fun _ =>
      copyEntries deeper sel overwrite source destination names) j := by
  rw [copyEntries]
  cases hd : j.disk.isDirectory (source.child name) with
  | error f =>
    rw [bind_of_error (CopyJob.asking_of_error hd), bind_of_error (copyEntry_of_error hd)]
  | ok found =>
    rw [bind_of_ok (CopyJob.asking_of_ok hd), bind_of_eq (copyEntry_of_ok hd)]
    cases found with
    | true => rfl
    | false => cases sel.takes (source.child name).toText <;> rfl

theorem copyEntries_preserves (hnames : ∀ name ∈ names, Named name)
    (hdeeper : ∀ name ∈ names, ∀ j, P j →
      P ((deeper (source.child name) (destination.child name)).after j))
    (hone : ∀ entry j, Named entry.name → P j → P ((copyOne overwrite entry destination).after j))
    (hj : P j) : P ((copyEntries deeper sel overwrite source destination names).after j) := by
  induction names generalizing j with
  | nil => exact hj
  | cons name names ih =>
    rw [List.forall_mem_cons] at hnames hdeeper
    rw [after, copyEntries_cons]
    apply after_bind
    · rcases copyEntry_cases deeper sel overwrite source destination name j with
        ⟨f, -, he⟩ | ⟨-, hd⟩ | ⟨-, ⟨-, hc⟩ | ⟨-, hp⟩⟩
      · rwa [after_of_error he]
      · rw [after, hd]
        exact hdeeper.1 j hj
      · rw [after, hc]
        apply hone (source.child name) j ?_ hj
        rw [Path.name_child]
        exact hnames.1
      · rwa [after_of_ok hp]
    · intro _ j₁ _ hj₁
      exact ih hnames.2 hdeeper.2 hj₁

theorem copyEntries_congr (h : ∀ name, (source.child name).toText.utf8ByteSize ≤ longestPath →
    deeper (source.child name) (destination.child name) =
      deeper' (source.child name) (destination.child name)) :
    copyEntries deeper sel overwrite source destination names =
      copyEntries deeper' sel overwrite source destination names := by
  induction names with
  | nil => rfl
  | cons name names ih =>
    funext j
    have hentry : copyEntry deeper sel overwrite source destination name =
        copyEntry deeper' sel overwrite source destination name := by
      funext j
      cases hd : j.disk.isDirectory (source.child name) with
      | error f => rw [copyEntry_of_error hd, copyEntry_of_error hd]
      | ok found =>
        rw [copyEntry_of_ok hd, copyEntry_of_ok hd]
        cases found with
        | false => rfl
        | true =>
          obtain ⟨-, hshort, -⟩ := Disk.isDirectory_eq_true_iff.1 hd
          rw [h name hshort]
    rw [copyEntries_cons, copyEntries_cons, ih, hentry]

theorem copyEntries_ne_tooDeep {j' : CopyJob}
    (h : ∀ name, (source.child name).toText.utf8ByteSize ≤ longestPath →
      ∀ j j', deeper (source.child name) (destination.child name) j ≠ .error .tooDeep j') :
    copyEntries deeper sel overwrite source destination names j ≠ .error .tooDeep j' := by
  induction names generalizing j with
  | nil => simp [copyEntries]
  | cons name names ih =>
    rw [copyEntries_cons]
    intro he
    rcases bind_eq_error.1 he with he | ⟨_, j₁, -, he⟩
    · rcases copyEntry_cases deeper sel overwrite source destination name j with
        ⟨f, hf, hrun⟩ | ⟨hd, hrun⟩ | ⟨-, ⟨-, hrun⟩ | ⟨-, hrun⟩⟩
      · rw [hrun] at he
        cases he
        exact hf rfl
      · rw [hrun] at he
        obtain ⟨-, hshort, -⟩ := Disk.isDirectory_eq_true_iff.1 hd
        exact h name hshort j j' he
      · rw [hrun] at he
        exact copyOne_ne_tooDeep he
      · rw [hrun] at he
        cases he
    · exact ih he

end Entries

section Runs

variable {P : CopyJob → Prop}

theorem copyTree_preserves (hproper : ∀ j, P j → j.disk.Proper)
    (hone : ∀ names entry j, (∀ name ∈ names, Named name) → Named entry.name → P j →
      P ((copyOne overwrite entry (destination.descend names)).after j))
    (sel : Selection) (depth : Nat) (source : Path) (hnames : ∀ name ∈ names, Named name)
    (hj : P j) : P ((copyTree sel overwrite depth source (destination.descend names)).after j) := by
  induction depth generalizing source names j with
  | zero => exact hj
  | succ depth ih =>
    rw [copyTree]
    split
    · exact hj
    · cases hl : j.disk.list source with
      | error f => rwa [after_bind_of_error (CopyJob.asking_of_error hl)]
      | ok listed =>
        rw [after_bind_of_ok (CopyJob.asking_of_ok hl)]
        obtain ⟨-, l, -, rfl⟩ := Disk.list_eq_ok_iff.1 hl
        have hlisted : ∀ name ∈ j.disk.tree.sortedNames l, Named name := fun name hname =>
          (hproper j hj).tree.named name l (Tree.mem_sortedNames_iff.1 hname)
        apply copyEntries_preserves hlisted
        · intro name hname j hj
          rw [Path.descend_child]
          apply ih (source.child name) ?_ hj
          rw [List.forall_mem_append, List.forall_mem_singleton]
          exact ⟨hnames, hlisted name hname⟩
        · intro entry j hentry hj
          exact hone names entry j hnames hentry hj
        · exact hj

end Runs

theorem testOf_fault {expression : Option String} {f : Fault}
    (h : Selection.testOf expression = .error f) : f ≠ .tooDeep := by
  cases expression with
  | none => cases h
  | some text =>
    rw [Selection.testOf] at h
    split at h
    · cases h
    · split at h <;> cases h <;> simp

theorem ofPatterns_fault {included excluded : Option String} {f : Fault}
    (h : Selection.ofPatterns included excluded = .error f) : f ≠ .tooDeep := by
  rw [Selection.ofPatterns] at h
  cases hi : Selection.testOf included with
  | error g =>
    rw [hi] at h
    cases h
    exact testOf_fault hi
  | ok test =>
    cases he : Selection.testOf excluded with
    | error g =>
      rw [hi, he] at h
      cases h
      exact testOf_fault he
    | ok test' =>
      rw [hi, he] at h
      cases h

def begun (t : CopyTask) (j : CopyJob) : CopyJob where
  disk := j.disk
  messages := j.messages ++ [t.opening]
  copied := []

def performWithin (limit : Nat) (t : CopyTask) : Attempt CopyJob Unit := do
  CopyJob.log t.opening
  modify fun j => { j with copied := [] }
  let sel ← Attempt.ofExcept (Selection.ofPatterns t.included t.excluded)
  let source ← CopyJob.asking (·.resolve t.source)
  copyTree sel t.overwrite limit source t.destination

theorem perform_eq (t : CopyTask) : t.perform = t.performWithin deepest := rfl

theorem performWithin_eq (limit : Nat) (t : CopyTask) (j : CopyJob) :
    t.performWithin limit j = (do
      let sel ← Attempt.ofExcept (Selection.ofPatterns t.included t.excluded)
      let source ← CopyJob.asking (·.resolve t.source)
      copyTree sel t.overwrite limit source t.destination) (t.begun j) := rfl

theorem performWithin_of_ok {limit : Nat} {t : CopyTask} {j : CopyJob} {source : Path}
    (hs : Selection.ofPatterns t.included t.excluded = .ok sel)
    (hr : j.disk.resolve t.source = .ok source) :
    t.performWithin limit j =
      copyTree sel t.overwrite limit source t.destination (t.begun j) := by
  have hask : CopyJob.asking (·.resolve t.source) (t.begun j) = .ok source (t.begun j) :=
    CopyJob.asking_of_ok hr
  rw [performWithin_eq, ofExcept_bind_ok hs, bind_of_ok hask]

theorem performWithin_cases (limit : Nat) (t : CopyTask) (j : CopyJob) :
    (∃ f, f ≠ .tooDeep ∧ t.performWithin limit j = .error f (t.begun j)) ∨
      ∃ sel source, Selection.ofPatterns t.included t.excluded = .ok sel ∧
        j.disk.resolve t.source = .ok source ∧
        t.performWithin limit j =
          copyTree sel t.overwrite limit source t.destination (t.begun j) := by
  cases hs : Selection.ofPatterns t.included t.excluded with
  | error f =>
    rw [performWithin_eq, ofExcept_bind_error hs]
    exact .inl ⟨f, ofPatterns_fault hs, rfl⟩
  | ok sel =>
    cases hr : j.disk.resolve t.source with
    | error f =>
      have hf : f ≠ .tooDeep := by rcases Disk.resolve_fault hr with rfl | ⟨_, rfl⟩ <;> simp
      have hask : CopyJob.asking (·.resolve t.source) (t.begun j) = .error f (t.begun j) :=
        CopyJob.asking_of_error hr
      rw [performWithin_eq, ofExcept_bind_ok hs, bind_of_error hask]
      exact .inl ⟨f, hf, rfl⟩
    | ok source => exact .inr ⟨sel, source, rfl, rfl, performWithin_of_ok hs hr⟩

theorem perform_preserves {P : CopyJob → Prop} (t : CopyTask) (hproper : ∀ j, P j → j.disk.Proper)
    (hone : ∀ names entry j, (∀ name ∈ names, Named name) → Named entry.name → P j →
      P ((copyOne t.overwrite entry (t.destination.descend names)).after j))
    (hj : P (t.begun j)) : P (t.perform.after j) := by
  rw [perform_eq]
  rcases performWithin_cases deepest t j with ⟨f, -, hf⟩ | ⟨sel, source, -, -, hrun⟩
  · rwa [after_of_error hf]
  · have hall : P ((copyTree sel t.overwrite deepest source (t.destination.descend [])).after
        (t.begun j)) := copyTree_preserves hproper hone sel deepest source (by simp) hj
    rw [Path.descend_nil] at hall
    rwa [after, hrun]

section Limit

variable {n m : Nat} {j' : CopyJob}

theorem list_fault {d : Disk} {p : Path} {f : Fault} (h : d.list p = .error f) : f ≠ .tooDeep := by
  rw [Disk.list] at h
  split at h
  · cases h
    simp
  · split at h <;> cases h <;> simp

theorem limit_of_short {name : String} (hn : longestPath < n + source.parts.length)
    (hshort : (source.child name).toText.utf8ByteSize ≤ longestPath) :
    ∃ k, n = k + 1 ∧ longestPath < k + (source.child name).parts.length := by
  have hlength := (source.child name).length_parts_le
  rw [Path.parts_child, List.length_append, List.length_singleton] at hlength ⊢
  obtain ⟨k, rfl⟩ : ∃ k, n = k + 1 := Nat.exists_eq_succ_of_ne_zero (by omega)
  exact ⟨k, rfl, by omega⟩

theorem copyTree_limit (hn : longestPath < n + source.parts.length)
    (hm : longestPath < m + source.parts.length) :
    copyTree sel overwrite (n + 1) source destination =
      copyTree sel overwrite (m + 1) source destination := by
  induction n using Nat.strongRecOn generalizing m source destination with
  | ind n ih =>
    have hentries : ∀ names,
        copyEntries (copyTree sel overwrite n) sel overwrite source destination names =
          copyEntries (copyTree sel overwrite m) sel overwrite source destination names := by
      intro names
      apply copyEntries_congr
      intro name hshort
      obtain ⟨n, rfl, hn'⟩ := limit_of_short hn hshort
      obtain ⟨m, rfl, hm'⟩ := limit_of_short hm hshort
      exact ih n (Nat.lt_succ_self n) hn' hm'
    rw [copyTree, copyTree]
    simp only [hentries]

theorem copyTree_ne_tooDeep (hn : longestPath < n + source.parts.length) :
    copyTree sel overwrite (n + 1) source destination j ≠ .error .tooDeep j' := by
  induction n using Nat.strongRecOn generalizing source destination j j' with
  | ind n ih =>
    rw [copyTree]
    split
    · simp
    · cases hl : j.disk.list source with
      | error f =>
        rw [bind_of_error (CopyJob.asking_of_error hl)]
        intro he
        cases he
        exact list_fault hl rfl
      | ok names =>
        rw [bind_of_ok (CopyJob.asking_of_ok hl)]
        apply copyEntries_ne_tooDeep
        intro name hshort j j'
        obtain ⟨n, rfl, hn'⟩ := limit_of_short hn hshort
        exact ih n (Nat.lt_succ_self n) hn'

def unreached : Nat := longestPath + 2

theorem performWithin_unreached (t : CopyTask) {limit : Nat} (h : unreached ≤ limit) :
    t.performWithin limit = t.performWithin unreached ∧
      ∀ j j', t.performWithin limit j ≠ .error .tooDeep j' := by
  rw [unreached] at h
  obtain ⟨n, rfl⟩ : ∃ n, limit = n + 1 := Nat.exists_eq_succ_of_ne_zero (by omega)
  have hn : ∀ source : Path, longestPath < n + source.parts.length := by
    intro source
    omega
  constructor
  · rw [performWithin, performWithin]
    have hlimit : ∀ sel source, copyTree sel t.overwrite (n + 1) source t.destination =
        copyTree sel t.overwrite unreached source t.destination :=
      fun sel source => copyTree_limit (hn source) (by omega)
    simp only [hlimit]
  · intro j j' he
    rcases performWithin_cases (n + 1) t j with ⟨f, hf, hrun⟩ | ⟨sel, source, -, -, hrun⟩
    · rw [hrun] at he
      cases he
      exact hf rfl
    · rw [hrun] at he
      exact copyTree_ne_tooDeep (hn source) he

end Limit

end CopyTask

end BuildScripts

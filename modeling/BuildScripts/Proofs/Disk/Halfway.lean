import BuildScripts.Proofs.Disk.Directories

namespace BuildScripts.Disk

open Attempt

variable {d d' : Disk} {p : Path} {l place : Location} {name : String} {names : List String}
  {anchor : Anchor}

theorem Lands.below (h : d.Lands (p.descend names) l) (hnames : ∀ name ∈ names, IsName name)
    (hfree : ∀ place, d.Lands p place → d.tree.LinkFreeBelow place) :
    ∃ place, d.Lands p place ∧ l = names.reverse ++ place := by
  obtain ⟨front, back, l₀, hparts, hl₀, hback, hhead, rfl⟩ := h
  rcases List.append_eq_append_iff.1 hparts with ⟨middle, rfl, rfl⟩ | ⟨middle, hp, rfl⟩
  · obtain ⟨place, hplace⟩ := Enters.of_descend (p := p) hl₀
    have hmiddle : ∀ name ∈ middle, IsName name := fun name hname => hnames name (by simp [hname])
    obtain rfl := hplace.descend_unique hmiddle
      (fun k target hk _ => hfree place hplace.lands k target hk) hl₀
    exact ⟨place, hplace.lands, by simp⟩
  · refine ⟨middle.reverse ++ l₀, ⟨front, middle, l₀, hp, hl₀, fun name hname => ?_, ?_, rfl⟩,
      by simp⟩
    · exact hback name (by simp [hname])
    · rintro name rest rfl
      exact hhead name (rest ++ names) rfl

def OpenedTowards (p : Path) (d d' : Disk) : Prop :=
  d' = d ∨ ∃ l k, d.Lands p l ∧ k <:+ l ∧ Opened k d d'

theorem OpenedTowards.child (h : OpenedTowards p d d') (hg : d.tree.Grounded)
    (hpart : name ≠ "" ∧ name ≠ ".") (hup : d.Steady (p.child name))
    (hno : d.makeDirectory (p.child name) = .error .noEntry) :
    OpenedTowards (p.child name) d d' := by
  rcases h with rfl | ⟨l, k, hlands, hk, hopened⟩
  · exact .inl rfl
  · obtain ⟨hn, hfree⟩ := hlands.free_of_noEntry hg hpart hup hno
    have hempty : d.tree.get? (name :: l) = none := hg.get?_eq_none hfree (List.suffix_cons _ _)
    exact .inr ⟨name :: l, k, hlands.child hn hempty, hk.trans (List.suffix_cons _ _), hopened⟩

theorem openedTowards_of_makeWithParents (hg : d.tree.Grounded)
    (hs : d.Starts ⟨anchor, names.reverse⟩) (hup : d.Steady ⟨anchor, names.reverse⟩)
    (hparts : (⟨anchor, names.reverse⟩ : Path).Parted)
    (hnull : (⟨anchor, names.reverse⟩ : Path).hasNull = false) :
    OpenedTowards ⟨anchor, names.reverse⟩ d ((makeWithParents anchor names).after d) := by
  induction names with
  | nil => exact .inl rfl
  | cons name parents ih =>
    cases hrun : makeWithParents anchor (name :: parents) d with
    | ok _ d' =>
      obtain ⟨l, hlands, -, hopened⟩ := opened_of_makeWithParents hg hs hup hparts hnull hrun
      rw [after_of_ok hrun]
      exact .inr ⟨l, l, hlands, List.suffix_rfl, hopened⟩
    | error f d' =>
      rw [after_of_error hrun]
      rw [reverse_cons_eq_child] at hs hup hparts hnull ⊢
      have hpart : name ≠ "" ∧ name ≠ "." := hparts name (by simp)
      cases hm : d.makeDirectory ⟨anchor, (name :: parents).reverse⟩ with
      | ok d₁ =>
        rw [makeWithParents_of_ok hm] at hrun
        cases hrun
      | error why =>
        by_cases hwhy : why = .noEntry
        · subst hwhy
          have htowards : OpenedTowards ⟨anchor, parents.reverse⟩ d
              ((makeWithParents anchor parents).after d) := ih hs hup.parent
            (fun part hpart => hparts part (List.mem_append_left _ hpart))
            (Path.hasNull_child.1 hnull).1
          -- A parent that cannot be made and a last directory that cannot be made leave the same.
          have hlast : d' = (makeWithParents anchor parents).after d := by
            rw [makeWithParents_of_noEntry hm] at hrun
            rcases bind_eq_error.1 hrun with hparents | ⟨_, d₁, hparents, hin⟩
            · rw [after_of_error hparents]
            · rw [after_of_ok hparents]
              cases hm₁ : d₁.makeDirectory ⟨anchor, (name :: parents).reverse⟩ with
              | ok d₂ =>
                rw [makeInParents_of_ok hm₁] at hin
                cases hin
              | error why₁ => rw [← after_makeInParents_of_error hm₁, after_of_error hin]
          rw [reverse_cons_eq_child] at hm
          rw [hlast]
          exact htowards.child hg hpart hup hm
        · rw [makeWithParents_of_refused hwhy hm] at hrun
          refine .inl ?_
          rw [← after_acceptDirectory why ⟨anchor, (name :: parents).reverse⟩ d,
            after_of_error hrun]

theorem openedTowards_of_makeDirectories (hg : d.tree.Grounded) (hs : d.Starts p)
    (hup : d.Steady p) (hparts : p.Parted) :
    OpenedTowards p d ((makeDirectories p).after d) := by
  obtain ⟨anchor, parts⟩ := p
  rw [makeDirectories]
  split
  · exact .inl rfl
  · rename_i hnull
    have hback : (⟨anchor, parts.reverse.reverse⟩ : Path) = ⟨anchor, parts⟩ := by
      rw [List.reverse_reverse]
    change OpenedTowards ⟨anchor, parts⟩ d ((makeWithParents anchor parts.reverse).after d)
    rw [← hback] at hs hup hparts hnull ⊢
    exact openedTowards_of_makeWithParents hg hs hup hparts (Bool.not_eq_true _ ▸ hnull)

end BuildScripts.Disk

import BuildScripts.Glob.Braces
import BuildScripts.Proofs.Text.LineEnds
import BuildScripts.Proofs.Text.Trim

namespace BuildScripts.Glob

open BuildScripts.Text

variable {before inner after cs o : List Char} {c : Char} {g : Cut}

theorem atCommas_eq_splitOn (cs : List Char) : atCommas cs = cs.splitOn ',' := by
  induction cs with
  | nil => rw [atCommas, List.splitOn_nil]
  | cons c cs ih =>
    rw [List.splitOn_cons_eq_if_modifyHead, atCommas, ih]
    cases hs : cs.splitOn ',' with
    | nil => exact absurd hs (List.splitOn_ne_nil _ _)
    | cons p ps => simp [beq_iff_eq]

theorem mem_of_mem_groupOptions (ho : o ∈ groupOptions inner) (hc : c ∈ o) : c ∈ inner := by
  obtain ⟨hstripped, -⟩ := List.mem_filter.1 ho
  obtain ⟨p, hp, rfl⟩ := List.mem_map.1 hstripped
  rw [atCommas_eq_splitOn] at hp
  exact mem_of_mem_splitOn hp (trim_subset _ _ hc)

def Braceless (cs : List Char) : Prop :=
  ∀ c ∈ cs, isBrace c = false

instance (cs : List Char) : Decidable (Braceless cs) :=
  List.decidableBAll _ cs

theorem Braceless.append {ds : List Char} (hcs : Braceless cs) (hds : Braceless ds) :
    Braceless (cs ++ ds) :=
  List.forall_mem_append.2 ⟨hcs, hds⟩

theorem Braceless.not_mem_open (h : Braceless cs) : '\x7b' ∉ cs :=
  fun hmem => absurd (h _ hmem) (by decide)

theorem Braceless.not_mem_close (h : Braceless cs) : '\x7d' ∉ cs :=
  fun hmem => absurd (h _ hmem) (by decide)

section FirstGroup

theorem eq_of_closedGroup? (h : closedGroup? cs = some (inner, after)) :
    cs = inner ++ '\x7d' :: after ∧ inner ≠ [] ∧ Braceless inner := by
  rw [closedGroup?] at h
  split at h
  · rename_i c rest after' htake hdrop
    cases h
    refine ⟨?_, by simp, fun c hc => ?_⟩
    · rw [← htake, ← hdrop, List.takeWhile_append_dropWhile]
    · rw [← htake] at hc
      simpa using List.mem_takeWhile_imp hc
  · cases h

theorem closedGroup?_append (hne : inner ≠ []) (hinner : Braceless inner) (after : List Char) :
    closedGroup? (inner ++ '\x7d' :: after) = some (inner, after) := by
  have hall : ∀ c ∈ inner, (!isBrace c) = true := fun c hc => by simp [hinner c hc]
  rw [closedGroup?, List.takeWhile_append_of_pos hall, List.dropWhile_append_of_pos hall]
  obtain ⟨c, cs, rfl⟩ := List.exists_cons_of_ne_nil hne
  simp [isBrace]

theorem closedGroup?_open (hb : '\x7d' ∉ before) (cs : List Char) :
    closedGroup? (before ++ '\x7b' :: cs) = none := by
  cases h : closedGroup? (before ++ '\x7b' :: cs) with
  | none => rfl
  | some cut =>
    -- The closing brace would have to stand before the opening one, or that inside the group.
    obtain ⟨heq, -, hinner⟩ := eq_of_closedGroup? h
    rcases List.append_eq_append_iff.1 heq with ⟨rest, hcut, hrest⟩ | ⟨rest, hbefore, hrest⟩
    · cases rest with
      | nil => simp at hrest
      | cons c rest =>
        rw [List.cons_append, List.cons.injEq] at hrest
        exact absurd (hcut ▸ by simp [← hrest.1]) hinner.not_mem_open
    · cases rest with
      | nil => simp at hrest
      | cons c rest =>
        rw [List.cons_append, List.cons.injEq] at hrest
        exact absurd (hbefore ▸ by simp [← hrest.1]) hb

theorem firstGroup?_append (hb : '\x7d' ∉ before) (hne : inner ≠ []) (hinner : Braceless inner)
    (after : List Char) :
    firstGroup? (before ++ '\x7b' :: (inner ++ '\x7d' :: after)) = some ⟨before, inner, after⟩ := by
  induction before with
  | nil => simp [firstGroup?, closedGroup?_append hne hinner]
  | cons c before ih =>
    rw [List.mem_cons, not_or] at hb
    rw [List.cons_append, firstGroup?, closedGroup?_open hb.2, ih hb.2]
    simp

theorem eq_of_firstGroup? (h : firstGroup? cs = some g) :
    cs = g.before ++ '\x7b' :: (g.inner ++ '\x7d' :: g.after) ∧ g.inner ≠ [] ∧
      Braceless g.inner := by
  induction cs generalizing g with
  | nil => cases h
  | cons c cs ih =>
    have hlater (hl : (firstGroup? cs).map (fun g => { g with before := c :: g.before }) = some g) :
        c :: cs = g.before ++ '\x7b' :: (g.inner ++ '\x7d' :: g.after) ∧ g.inner ≠ [] ∧
          Braceless g.inner := by
      obtain ⟨g', hg', rfl⟩ := Option.map_eq_some_iff.1 hl
      obtain ⟨rfl, hne, hinner⟩ := ih hg'
      exact ⟨rfl, hne, hinner⟩
    rw [firstGroup?] at h
    split at h
    · rename_i hc
      subst hc
      cases hclosed : closedGroup? cs with
      | none =>
        rw [hclosed] at h
        exact hlater h
      | some cut =>
        rw [hclosed] at h
        cases h
        obtain ⟨rfl, hne, hinner⟩ := eq_of_closedGroup? hclosed
        exact ⟨rfl, hne, hinner⟩
    · exact hlater h

end FirstGroup

section Steps

theorem expandChars_of_no_open (h : '\x7b' ∉ cs) : expandChars cs = [cs] := by
  rw [expandChars, List.count_eq_zero.2 h, expandWith]

theorem expandChars_of_no_group (h : firstGroup? cs = none) : expandChars cs = [cs] := by
  rw [expandChars]
  cases cs.count '\x7b' <;> simp [expandWith, h]

theorem expandChars_of_no_option (h : firstGroup? cs = some g) (hopt : groupOptions g.inner = []) :
    expandChars cs = [cs] := by
  rw [expandChars]
  cases cs.count '\x7b' <;> simp [expandWith, h, hopt]

theorem count_open_of_option (h : firstGroup? cs = some g) (ho : o ∈ groupOptions g.inner) :
    cs.count '\x7b' = (g.before ++ o ++ g.after).count '\x7b' + 1 := by
  obtain ⟨rfl, -, hinner⟩ := eq_of_firstGroup? h
  have hoption : '\x7b' ∉ o := fun hm => hinner.not_mem_open (mem_of_mem_groupOptions ho hm)
  simp [List.count_append, List.count_eq_zero.2 hinner.not_mem_open,
    List.count_eq_zero.2 hoption]
  omega

theorem mem_expandChars_of_group (h : firstGroup? cs = some g) (hopt : groupOptions g.inner ≠ [])
    (s : List Char) : s ∈ expandChars cs ↔
      ∃ o ∈ groupOptions g.inner, s ∈ expandChars (g.before ++ o ++ g.after) := by
  obtain ⟨o₀, ho₀⟩ := List.exists_mem_of_ne_nil _ hopt
  rw [expandChars, count_open_of_option h ho₀, expandWith, h]
  dsimp only
  split
  · contradiction
  · rw [List.mem_flatMap]
    refine exists_congr fun o => and_congr_right fun ho => ?_
    rw [expandChars, ← Nat.add_right_cancel ((count_open_of_option h ho₀).symm.trans
      (count_open_of_option h ho))]

theorem groupsReplaced_eq_min (fuel : Nat) (h : ∀ s ∈ expandChars cs, '\x7b' ∉ s) :
    groupsReplaced fuel cs = min fuel (cs.count '\x7b') := by
  induction fuel generalizing cs with
  | zero => simp [groupsReplaced]
  | succ fuel ih =>
    have hend (hs : expandChars cs = [cs]) : 0 = min (fuel + 1) (cs.count '\x7b') := by
      rw [List.count_eq_zero.2 (h cs (by simp [hs]))]
      rfl
    rw [groupsReplaced]
    cases hg : firstGroup? cs with
    | none => exact hend (expandChars_of_no_group hg)
    | some g =>
      dsimp only
      cases hopt : groupOptions g.inner with
      | nil => exact hend (expandChars_of_no_option hg hopt)
      | cons o os =>
        have ho : o ∈ groupOptions g.inner := by simp [hopt]
        have hstep := mem_expandChars_of_group hg (List.ne_nil_of_mem ho)
        dsimp only
        rw [ih fun s hs => h s ((hstep s).2 ⟨o, ho, hs⟩), count_open_of_option hg ho]
        omega

theorem mem_expandBraces_iff {pattern expanded : String} :
    expanded ∈ expandBraces pattern ↔ expanded.toList ∈ expandChars pattern.toList := by
  rw [expandBraces, List.mem_map]
  constructor
  · rintro ⟨s, hs, rfl⟩
    rwa [String.toList_ofList]
  · intro hs
    exact ⟨_, hs, String.ofList_toList⟩

end Steps

end BuildScripts.Glob

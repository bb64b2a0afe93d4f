import Mathlib.Logic.Relation
import BuildScripts.Proofs.Glob.Groups

/-!
What brace expansion leaves. It ends with what no group can be replaced in any more, and that is where
there is no group or the first one has blank options only. Main statement: from a group of blank options
on nothing is ever replaced, so a group that has others is left exactly where it stands behind such a
group in the pattern.
-/

namespace BuildScripts.Glob

open BuildScripts.Text Relation

variable {cs ds s t o x y inner after : List Char} {c : Char} {g k : Cut}

section Groups

structure Cut.Cuts (g : Cut) (cs : List Char) : Prop where
  eq : cs = g.before ++ '\x7b' :: (g.inner ++ '\x7d' :: g.after)
  filled : g.inner ≠ []
  braceless : Braceless g.inner

theorem Cut.Cuts.prepend (h : g.Cuts cs) (x : List Char) :
    Cut.Cuts ⟨x ++ g.before, g.inner, g.after⟩ (x ++ cs) where
  eq := by rw [h.eq, List.append_assoc]
  filled := h.filled
  braceless := h.braceless

theorem Cut.Cuts.append (h : g.Cuts cs) (y : List Char) :
    Cut.Cuts ⟨g.before, g.inner, g.after ++ y⟩ (cs ++ y) where
  eq := by simp [h.eq]
  filled := h.filled
  braceless := h.braceless

theorem Cut.Cuts.behind (hg : g.Cuts cs) (hk : k.Cuts g.after) :
    Cut.Cuts ⟨g.before ++ '\x7b' :: (g.inner ++ '\x7d' :: k.before), k.inner, k.after⟩ cs where
  eq := by rw [hg.eq, hk.eq]; simp
  filled := hk.filled
  braceless := hk.braceless

theorem cuts_of_firstGroup? (h : firstGroup? cs = some g) : g.Cuts cs := by
  obtain ⟨heq, hne, hinner⟩ := eq_of_firstGroup? h
  exact ⟨heq, hne, hinner⟩

theorem firstGroup?_open (h : closedGroup? cs = some (inner, after)) :
    firstGroup? ('\x7b' :: cs) = some ⟨[], inner, after⟩ := by
  rw [firstGroup?, h]
  rfl

theorem firstGroup?_later (h : c = '\x7b' → closedGroup? cs = none) :
    firstGroup? (c :: cs) = (firstGroup? cs).map fun g => { g with before := c :: g.before } := by
  rw [firstGroup?]
  split
  · rename_i hc
    rw [h hc]
  · rfl

theorem append_eq_append_cons (hc : c ∉ o) (h : o ++ y = x ++ c :: t) :
    ∃ m, x = o ++ m ∧ y = m ++ c :: t := by
  rcases List.append_eq_append_iff.1 h with ⟨m, hx, hy⟩ | ⟨m, ho, ht⟩
  · exact ⟨m, hx, hy⟩
  · cases m with
    | nil => exact ⟨[], by simpa using ho.symm, by simpa using ht.symm⟩
    | cons d m =>
      rw [List.cons_append, List.cons.injEq] at ht
      exact absurd (by simp [ho, ht.1]) hc

theorem Cut.Cuts.of_closed (h : k.Cuts cs) (hclosed : closedGroup? cs = some (inner, after)) :
    ∃ mid, k.before = inner ++ '\x7d' :: mid ∧ Cut.Cuts ⟨mid, k.inner, k.after⟩ after := by
  obtain ⟨hsplit, -, hinner⟩ := eq_of_closedGroup? hclosed
  obtain ⟨m, hbefore, hm⟩ := append_eq_append_cons hinner.not_mem_open (hsplit.symm.trans h.eq)
  cases m with
  | nil => simp at hm
  | cons d mid =>
    rw [List.cons_append, List.cons.injEq] at hm
    obtain ⟨rfl, hafter⟩ := hm
    exact ⟨mid, hbefore, hafter, h.filled, h.braceless⟩

theorem Cut.Cuts.first (h : k.Cuts cs) : ∃ g, firstGroup? cs = some g ∧
    (k = g ∨ ∃ mid, k.before = g.before ++ '\x7b' :: (g.inner ++ '\x7d' :: mid) ∧
      Cut.Cuts ⟨mid, k.inner, k.after⟩ g.after) := by
  induction cs generalizing k with
  | nil => exact absurd h.eq (by simp)
  | cons c cs ih =>
    obtain ⟨before, inner, after⟩ := k
    obtain ⟨heq, hne, hinner⟩ := h
    dsimp only at heq hne hinner ⊢
    cases before with
    | nil =>
      rw [List.nil_append, List.cons.injEq] at heq
      obtain ⟨rfl, rfl⟩ := heq
      exact ⟨⟨[], inner, after⟩, firstGroup?_open (closedGroup?_append hne hinner after), .inl rfl⟩
    | cons b before =>
      rw [List.cons_append, List.cons.injEq] at heq
      obtain ⟨rfl, heq⟩ := heq
      have hcuts : Cut.Cuts ⟨before, inner, after⟩ cs := ⟨heq, hne, hinner⟩
      by_cases hopen : c = '\x7b' ∧ (closedGroup? cs).isSome
      · obtain ⟨rfl, hsome⟩ := hopen
        obtain ⟨⟨inner', after'⟩, hclosed⟩ := Option.isSome_iff_exists.1 hsome
        obtain ⟨mid, hbefore, hmid⟩ := hcuts.of_closed hclosed
        dsimp only at hbefore
        exact ⟨_, firstGroup?_open hclosed, .inr ⟨mid, by simp [hbefore], hmid⟩⟩
      · obtain ⟨g, hg, hlies⟩ := ih hcuts
        have hlater : c = '\x7b' → closedGroup? cs = none := by
          intro hc
          simpa [hc] using hopen
        refine ⟨{ g with before := c :: g.before }, by rw [firstGroup?_later hlater, hg]; rfl, ?_⟩
        rcases hlies with rfl | ⟨mid, hbefore, hmid⟩
        · exact .inl rfl
        · dsimp only at hbefore
          exact .inr ⟨mid, by simp [hbefore], hmid⟩

theorem Cut.Cuts.eq_or_after (h : k.Cuts cs) (hg : firstGroup? cs = some g) :
    k = g ∨ ∃ mid, k.before = g.before ++ '\x7b' :: (g.inner ++ '\x7d' :: mid) ∧
      Cut.Cuts ⟨mid, k.inner, k.after⟩ g.after := by
  obtain ⟨g', hg', hlies⟩ := h.first
  rw [hg, Option.some.injEq] at hg'
  exact hg' ▸ hlies

theorem not_cuts_before (hg : firstGroup? cs = some g) : ¬ k.Cuts g.before := by
  intro hk
  have hlength := congrArg List.length hk.eq
  rw [List.length_append, List.length_cons] at hlength
  have hwhole := hk.append ('\x7b' :: (g.inner ++ '\x7d' :: g.after))
  rw [← (cuts_of_firstGroup? hg).eq] at hwhole
  rcases hwhole.eq_or_after hg with heq | ⟨mid, hbefore, -⟩
  · have hbefore := congrArg (fun cut => cut.before.length) heq
    dsimp only at hbefore
    omega
  · have hbefore := congrArg List.length hbefore
    rw [List.length_append] at hbefore
    dsimp only at hbefore
    omega

theorem Cut.Cuts.cases_append (ho : Braceless o) (h : k.Cuts (x ++ (o ++ y))) :
    (∃ mid, Cut.Cuts ⟨mid, k.inner, k.after⟩ y) ∨ (∃ g : Cut, g.Cuts x) ∨ ∀ c ∈ o, c ∈ k.inner := by
  -- The group does not open in the part, and where it opens in front it does not close in the part.
  rcases List.append_eq_append_iff.1 h.eq with ⟨m, -, hm⟩ | ⟨m, hx, hm⟩
  · obtain ⟨mid, -, hy⟩ := append_eq_append_cons ho.not_mem_open hm
    exact .inl ⟨mid, hy, h.filled, h.braceless⟩
  · cases m with
    | nil =>
      obtain ⟨mid, -, hy⟩ := append_eq_append_cons (x := []) ho.not_mem_open hm.symm
      exact .inl ⟨mid, hy, h.filled, h.braceless⟩
    | cons d m =>
      rw [List.cons_append, List.cons.injEq] at hm
      obtain ⟨rfl, hm⟩ := hm
      rcases List.append_eq_append_iff.1 hm with ⟨n, rfl, hn⟩ | ⟨n, hinner, hn⟩
      · cases n with
        | nil =>
          obtain ⟨n, hnil, -⟩ := append_eq_append_cons (x := []) ho.not_mem_close hn.symm
          rw [(List.append_eq_nil_iff.1 hnil.symm).1]
          exact .inr (.inr (by simp))
        | cons e n =>
          rw [List.cons_append, List.cons.injEq] at hn
          obtain ⟨rfl, -⟩ := hn
          exact .inr (.inl ⟨⟨k.before, k.inner, n⟩, hx, h.filled, h.braceless⟩)
      · obtain ⟨p, rfl, -⟩ := append_eq_append_cons ho.not_mem_close hn
        exact .inr (.inr fun c hc => by simp [hinner, hc])

end Groups

section Options

def Offers (inner : List Char) : Prop :=
  ∃ item ∈ inner.splitOn ',', Inked item

theorem offers_cons_iff : Offers (c :: cs) ↔ c ≠ ',' ∧ isBlank c = false ∨ Offers cs := by
  rw [Offers, Offers, List.splitOn_cons_eq_if_modifyHead]
  by_cases hc : c = ','
  · simp [hc, Inked]
  · cases hs : cs.splitOn ',' with
    | nil => exact absurd hs (List.splitOn_ne_nil _ _)
    | cons item items => simp [hc, Inked, or_assoc]

theorem offers_iff : Offers cs ↔ ∃ c ∈ cs, c ≠ ',' ∧ isBlank c = false := by
  induction cs with
  | nil => simp [Offers, Inked, List.splitOn_nil]
  | cons c cs ih => simp [offers_cons_iff, ih]

instance (cs : List Char) : Decidable (Offers cs) :=
  decidable_of_iff (cs.any (fun c => c != ',' && !isBlank c) = true) (by simp [offers_iff])

theorem mem_groupOptions_iff :
    o ∈ groupOptions inner ↔ ∃ item ∈ inner.splitOn ',', stripChars item = o ∧ o ≠ [] := by
  rw [groupOptions, atCommas_eq_splitOn]
  exact mem_withoutBlanks_iff

theorem offers_iff_exists_option : Offers inner ↔ ∃ o, o ∈ groupOptions inner := by
  constructor
  · rintro ⟨item, hitem, hinked⟩
    exact ⟨_, mem_groupOptions_iff.2 ⟨item, hitem, rfl, hinked.strip_ne_nil⟩⟩
  · rintro ⟨o, ho⟩
    obtain ⟨item, hitem, rfl, hne⟩ := mem_groupOptions_iff.1 ho
    exact ⟨item, hitem, inked_of_strip_ne_nil hne⟩

theorem offers_of_option (ho : o ∈ groupOptions inner) (hsub : ∀ c ∈ o, c ∈ cs) : Offers cs := by
  obtain ⟨item, hitem, rfl, hne⟩ := mem_groupOptions_iff.1 ho
  obtain ⟨c, hc, hblank⟩ := (inked_of_strip_ne_nil hne).strip
  refine offers_iff.2 ⟨c, hsub c hc, ?_, hblank⟩
  rintro rfl
  exact not_mem_of_mem_splitOn hitem (trim_subset _ _ hc)

end Options

section Steps

def Replaces (cs ds : List Char) : Prop :=
  ∃ g o, firstGroup? cs = some g ∧ o ∈ groupOptions g.inner ∧ ds = g.before ++ (o ++ g.after)

def Blank (inner after cs : List Char) : Prop :=
  ¬ Offers inner ∧ ∃ before, Cut.Cuts ⟨before, inner, after⟩ cs

theorem Replaces.count (h : Replaces cs ds) : cs.count '\x7b' = ds.count '\x7b' + 1 := by
  obtain ⟨g, o, hg, ho, rfl⟩ := h
  rw [← List.append_assoc]
  exact count_open_of_option hg ho

theorem Replaces.blank_iff (h : Replaces cs ds) : Blank inner after cs ↔ Blank inner after ds := by
  obtain ⟨g, o, hg, ho, rfl⟩ := h
  have hcuts := cuts_of_firstGroup? hg
  refine and_congr_right fun hblank => ?_
  constructor
  · rintro ⟨before, hk⟩
    rcases hk.eq_or_after hg with rfl | ⟨mid, -, hmid⟩
    · exact absurd (offers_iff_exists_option.2 ⟨o, ho⟩) hblank
    · exact ⟨_, (hmid.prepend o).prepend g.before⟩
  · rintro ⟨before, hk⟩
    have hbraceless : Braceless o := fun c hc => hcuts.braceless c (mem_of_mem_groupOptions ho hc)
    rcases hk.cases_append hbraceless with ⟨mid, hmid⟩ | ⟨k, hk⟩ | hinner
    · exact ⟨_, hcuts.behind hmid⟩
    · exact absurd hk (not_cuts_before hg)
    · exact absurd (offers_of_option ho hinner) hblank

def Done (cs : List Char) : Prop :=
  ∀ ds, ¬ Replaces cs ds

theorem done_iff : Done cs ↔ ∀ g, firstGroup? cs = some g → ¬ Offers g.inner := by
  constructor
  · intro h g hg hoffers
    obtain ⟨o, ho⟩ := offers_iff_exists_option.1 hoffers
    exact h _ ⟨g, o, hg, ho, rfl⟩
  · rintro h ds ⟨g, o, hg, ho, -⟩
    exact h g hg (offers_iff_exists_option.2 ⟨o, ho⟩)

theorem Done.leftover_iff (h : Done s) : (∃ k : Cut, k.Cuts s ∧ Offers k.inner) ↔
    ∃ inner after, Blank inner after s ∧ ∃ k : Cut, k.Cuts after ∧ Offers k.inner := by
  constructor
  · rintro ⟨k, hk, hoffers⟩
    obtain ⟨g, hg, hlies⟩ := hk.first
    have hblank := done_iff.1 h g hg
    rcases hlies with rfl | ⟨mid, -, hmid⟩
    · exact absurd hoffers hblank
    · exact ⟨g.inner, g.after, ⟨hblank, g.before, cuts_of_firstGroup? hg⟩, _, hmid, hoffers⟩
  · rintro ⟨inner, after, ⟨-, before, hg⟩, k, hk, hoffers⟩
    exact ⟨_, hg.behind hk, hoffers⟩

end Steps

section Runs

theorem expandChars_of_done (h : Done cs) : expandChars cs = [cs] := by
  cases hg : firstGroup? cs with
  | none => exact expandChars_of_no_group hg
  | some g =>
    refine expandChars_of_no_option hg (List.eq_nil_iff_forall_not_mem.2 fun o ho => ?_)
    exact done_iff.1 h g hg (offers_iff_exists_option.2 ⟨o, ho⟩)

theorem mem_expandChars_of_replaces (h : Replaces cs ds) :
    s ∈ expandChars cs ↔ ∃ t, Replaces cs t ∧ s ∈ expandChars t := by
  obtain ⟨g, o, hg, ho, rfl⟩ := h
  rw [mem_expandChars_of_group hg (List.ne_nil_of_mem ho)]
  constructor
  · rintro ⟨p, hp, hs⟩
    exact ⟨_, ⟨g, p, hg, hp, rfl⟩, by rwa [← List.append_assoc]⟩
  · rintro ⟨_, ⟨g', p, hg', hp, rfl⟩, hs⟩
    rw [hg, Option.some.injEq] at hg'
    subst hg'
    exact ⟨p, hp, by rwa [List.append_assoc]⟩

theorem mem_expandChars_iff : s ∈ expandChars cs ↔ ReflTransGen Replaces cs s ∧ Done s := by
  -- Induction on the opening braces, of which every replacement takes one away.
  induction hn : cs.count '\x7b' using Nat.strong_induction_on generalizing cs with
  | _ n ih =>
    by_cases hdone : Done cs
    · rw [expandChars_of_done hdone, List.mem_singleton]
      constructor
      · rintro rfl
        exact ⟨.refl, hdone⟩
      · rintro ⟨hrun, -⟩
        rcases hrun.cases_head with heq | ⟨t, hstep, -⟩
        · exact heq.symm
        · exact absurd hstep (hdone t)
    · obtain ⟨ds, hds⟩ : ∃ ds, Replaces cs ds := by simpa [Done] using hdone
      rw [mem_expandChars_of_replaces hds]
      constructor
      · rintro ⟨t, hstep, hs⟩
        have hless := hstep.count
        obtain ⟨hrun, hend⟩ := (ih _ (by omega) rfl).1 hs
        exact ⟨.head hstep hrun, hend⟩
      · rintro ⟨hrun, hend⟩
        rcases hrun.cases_head with rfl | ⟨t, hstep, hrun⟩
        · exact absurd hend hdone
        · have hless := hstep.count
          exact ⟨t, hstep, (ih _ (by omega) rfl).2 ⟨hrun, hend⟩⟩

theorem exists_mem_expandChars (cs : List Char) : ∃ s, s ∈ expandChars cs := by
  induction hn : cs.count '\x7b' using Nat.strong_induction_on generalizing cs with
  | _ n ih =>
    by_cases hdone : Done cs
    · exact ⟨cs, by simp [expandChars_of_done hdone]⟩
    · obtain ⟨ds, hds⟩ : ∃ ds, Replaces cs ds := by simpa [Done] using hdone
      have hless := hds.count
      obtain ⟨s, hs⟩ := ih _ (by omega) ds rfl
      exact ⟨s, (mem_expandChars_of_replaces hds).2 ⟨ds, hds, hs⟩⟩

theorem blank_iff_of_run (h : ReflTransGen Replaces cs s) :
    Blank inner after cs ↔ Blank inner after s := by
  induction h with
  | refl => exact Iff.rfl
  | tail _ hstep ih => exact ih.trans hstep.blank_iff

theorem groupsReplaced_le (fuel : Nat) (cs : List Char) : groupsReplaced fuel cs ≤ cs.count '\x7b' := by
  induction fuel generalizing cs with
  | zero => simp [groupsReplaced]
  | succ fuel ih =>
    rw [groupsReplaced]
    split
    · exact Nat.zero_le _
    · rename_i g hg
      split
      · exact Nat.zero_le _
      · rename_i o os hopt
        have ho : o ∈ groupOptions g.inner := by simp [hopt]
        rw [count_open_of_option hg ho]
        exact Nat.succ_le_succ (ih _)

theorem patternOf_or_tooDeep (pattern : String) :
    Config.patternOf (.text pattern) = .ok pattern ∨
      Config.patternOf (.text pattern) = .error .tooDeep ∧
        mostGroups < pattern.toList.count '\x7b' := by
  rw [Config.patternOf]
  by_cases hdeep : isTooDeep pattern = true
  · rw [if_pos hdeep]
    rw [isTooDeep, decide_eq_true_eq] at hdeep
    exact .inr ⟨rfl, hdeep.trans_le (groupsReplaced_le _ _)⟩
  · rw [if_neg hdeep]
    exact .inl rfl

/-- The expansions of a pattern. Every replacement takes an opening brace away, so they come to an end,
which is refused only with more opening braces than are followed, and there is one at least. In each a
group with options is left if and only if there is one behind a group of blank options in the pattern,
for all from there on stays as it is. -/
theorem expandBraces_leftover (pattern : String) :
    (∀ cs ds, Replaces cs ds → cs.count '\x7b' = ds.count '\x7b' + 1) ∧
    (∀ expanded, expanded ∈ expandBraces pattern ↔
      ReflTransGen Replaces pattern.toList expanded.toList ∧ Done expanded.toList) ∧
    (Config.patternOf (.text pattern) = .ok pattern ∨
      Config.patternOf (.text pattern) = .error .tooDeep ∧
        mostGroups < pattern.toList.count '\x7b') ∧
    expandBraces pattern ≠ [] ∧
    ∀ expanded ∈ expandBraces pattern,
      ((∃ k : Cut, k.Cuts expanded.toList ∧ Offers k.inner) ↔
        ∃ g k : Cut, g.Cuts pattern.toList ∧ ¬ Offers g.inner ∧ k.Cuts g.after ∧ Offers k.inner) ∧
      ∀ g : Cut, g.Cuts pattern.toList → ¬ Offers g.inner →
        '\x7b' :: (g.inner ++ '\x7d' :: g.after) <:+ expanded.toList := by
  have hruns (expanded : String) : expanded ∈ expandBraces pattern ↔
      ReflTransGen Replaces pattern.toList expanded.toList ∧ Done expanded.toList := by
    rw [mem_expandBraces_iff, mem_expandChars_iff]
  refine ⟨fun _ _ => Replaces.count, hruns, patternOf_or_tooDeep pattern, ?_, ?_⟩
  · obtain ⟨s, hs⟩ := exists_mem_expandChars pattern.toList
    exact List.ne_nil_of_mem (mem_expandBraces_iff.2 (by rwa [String.toList_ofList]))
  · intro expanded hmem
    obtain ⟨hrun, hdone⟩ := (hruns expanded).1 hmem
    constructor
    · rw [hdone.leftover_iff]
      constructor
      · rintro ⟨inner, after, hblank, k, hk, hoffers⟩
        obtain ⟨hblank, before, hg⟩ := (blank_iff_of_run hrun).2 hblank
        exact ⟨_, k, hg, hblank, hk, hoffers⟩
      · rintro ⟨g, k, hg, hblank, hk, hoffers⟩
        exact ⟨g.inner, g.after, (blank_iff_of_run hrun).1 ⟨hblank, g.before, hg⟩, k, hk, hoffers⟩
    · intro g hg hblank
      obtain ⟨-, before, hkept⟩ := (blank_iff_of_run hrun).1 ⟨hblank, g.before, hg⟩
      exact ⟨before, hkept.eq.symm⟩

theorem expandBraces_leftover_behind : ∃ expanded ∈ expandBraces "\x7ba\x7d\x7b ,\x7d\x7bb,c\x7d",
    (∃ k : Cut, k.Cuts expanded.toList ∧ Offers k.inner) ∧
      "\x7b ,\x7d\x7bb,c\x7d".toList <:+ expanded.toList ∧ Done expanded.toList := by
  obtain ⟨-, hruns, -, hne, hleft⟩ := expandBraces_leftover "\x7ba\x7d\x7b ,\x7d\x7bb,c\x7d"
  obtain ⟨expanded, hmem⟩ := List.exists_mem_of_ne_nil _ hne
  have hblank : Cut.Cuts ⟨"\x7ba\x7d".toList, " ,".toList, "\x7bb,c\x7d".toList⟩
      "\x7ba\x7d\x7b ,\x7d\x7bb,c\x7d".toList := ⟨by decide, by decide, by decide⟩
  have hbehind : Cut.Cuts ⟨[], "b,c".toList, []⟩ "\x7bb,c\x7d".toList :=
    ⟨by decide, by decide, by decide⟩
  have hnone : ¬ Offers " ,".toList := by decide
  have hsome : Offers "b,c".toList := by decide
  refine ⟨expanded, hmem, (hleft _ hmem).1.2 ⟨_, _, hblank, hnone, hbehind, hsome⟩, ?_,
    ((hruns _).1 hmem).2⟩
  exact (hleft _ hmem).2 _ hblank hnone

example : expandBraces "\x7ba\x7d\x7b ,\x7d\x7bb,c\x7d" = ["a\x7b ,\x7d\x7bb,c\x7d"] := by
  decide +kernel

end Runs

end BuildScripts.Glob

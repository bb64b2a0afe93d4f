import BuildScripts.Glob.Basic
import BuildScripts.Proofs.Slash

namespace BuildScripts.Glob

variable {cs lits : List Char} {ps : List Piece} {name path last : String} {dirs : List String}

theorem mem_rests_iff {rest : List Char} : rest ∈ rests cs ↔ rest <:+ cs := by
  induction cs with
  | nil => simp [rests]
  | cons c cs ih => rw [rests, List.mem_cons, ih, List.suffix_cons_iff]

theorem covers_star_iff : covers (.star :: ps) cs = true ↔
    ∃ before after, cs = before ++ after ∧ covers ps after = true := by
  rw [covers, List.any_eq_true]
  constructor
  · rintro ⟨after, hmem, h⟩
    obtain ⟨before, hcs⟩ := mem_rests_iff.1 hmem
    exact ⟨before, after, hcs.symm, h⟩
  · rintro ⟨before, after, hcs, h⟩
    exact ⟨after, mem_rests_iff.2 ⟨before, hcs.symm⟩, h⟩

theorem covers_stars_iff : covers (.star :: .star :: ps) cs = true ↔
    covers (.star :: ps) cs = true := by
  constructor
  · intro h
    obtain ⟨a, rest, rfl, hrest⟩ := covers_star_iff.1 h
    obtain ⟨b, after, rfl, hafter⟩ := covers_star_iff.1 hrest
    exact covers_star_iff.2 ⟨a ++ b, after, (List.append_assoc a b after).symm, hafter⟩
  · intro h
    exact covers_star_iff.2 ⟨[], cs, rfl, h⟩

theorem covers_star_end (cs : List Char) : covers [.star] cs = true :=
  covers_star_iff.2 ⟨cs, [], (List.append_nil cs).symm, rfl⟩

theorem covers_literals_iff : covers (lits.map .literal ++ ps) cs = true ↔
    ∃ after, cs = lits ++ after ∧ covers ps after = true := by
  induction lits generalizing cs with
  | nil => simp
  | cons l lits ih =>
    cases cs with
    | nil => simp [covers]
    | cons c cs =>
      simp only [List.map_cons, List.cons_append, covers, Piece.takes, Bool.and_eq_true, beq_iff_eq,
        ih, List.cons.injEq]
      constructor
      · rintro ⟨rfl, after, rfl, h⟩
        exact ⟨after, ⟨rfl, rfl⟩, h⟩
      · rintro ⟨after, ⟨rfl, rfl⟩, h⟩
        exact ⟨rfl, after, rfl, h⟩

def IsPlain (cs : List Char) : Prop :=
  ∀ c ∈ cs, c ≠ '*' ∧ c ≠ '?' ∧ c ≠ '[' ∧ c ≠ '\x7b'

instance (cs : List Char) : Decidable (IsPlain cs) :=
  List.decidableBAll _ cs

theorem IsPlain.slashed (h : IsPlain cs) : IsPlain (cs ++ ['/']) := by
  rw [IsPlain, List.forall_mem_append, List.forall_mem_singleton]
  exact ⟨h, by decide⟩

theorem piecesFrom_plain (h : IsPlain lits) :
    piecesFrom 0 (lits ++ cs) = lits.map .literal ++ piecesFrom 0 cs := by
  induction lits with
  | nil => rfl
  | cons l lits ih =>
    obtain ⟨⟨hstar, hone, hbracket, -⟩, hrest⟩ := List.forall_mem_cons.1 h
    rw [List.cons_append, List.map_cons, List.cons_append, ← ih hrest]
    exact piecesFrom.eq_6 l (lits ++ cs) hstar hone hbracket

theorem expandBraces_of_no_brace {pattern : String} (h : '\x7b' ∉ pattern.toList) :
    expandBraces pattern = [pattern] := by
  rw [expandBraces, expandChars, List.count_eq_zero.2 h]
  simp [expandWith]

def insideAny (name : String) : String :=
  "**/" ++ name ++ "/**"

def below (name : String) : String :=
  name ++ "/**"

theorem accepts_insideAny_iff (h : IsPlain name.toList) : accepts (insideAny name) path = true ↔
    ∃ before after, path = before ++ "/" ++ (name ++ "/" ++ after) := by
  have hpieces : pieces (insideAny name) =
      .star :: .star :: (('/' :: name.toList ++ ['/']).map .literal ++ [.star, .star]) := by
    have htext : (insideAny name).toList =
        '*' :: '*' :: ('/' :: name.toList ++ ['/'] ++ ['*', '*']) := by
      simp [insideAny]
    rw [pieces, htext, piecesFrom, piecesFrom, piecesFrom_plain]
    · rfl
    · exact List.forall_mem_cons.2 ⟨by decide, h.slashed⟩
  rw [accepts, hpieces, covers_stars_iff, covers_star_iff]
  constructor
  · rintro ⟨before, rest, hpath, hrest⟩
    obtain ⟨after, rfl, -⟩ := covers_literals_iff.1 hrest
    refine ⟨String.ofList before, String.ofList after, String.toList_injective ?_⟩
    simp [hpath]
  · rintro ⟨before, after, rfl⟩
    refine ⟨before.toList, '/' :: name.toList ++ ['/'] ++ after.toList, by simp, ?_⟩
    exact covers_literals_iff.2 ⟨after.toList, rfl, covers_stars_iff.2 (covers_star_end _)⟩

theorem accepts_below_iff (h : IsPlain name.toList) : accepts (below name) path = true ↔
    ∃ after, path = name ++ "/" ++ after := by
  have hpieces : pieces (below name) =
      (name.toList ++ ['/']).map .literal ++ [.star, .star] := by
    have htext : (below name).toList = name.toList ++ ['/'] ++ ['*', '*'] := by
      simp [below]
    rw [pieces, htext, piecesFrom_plain h.slashed]
    rfl
  rw [accepts, hpieces, covers_literals_iff]
  constructor
  · rintro ⟨after, hpath, -⟩
    refine ⟨String.ofList after, String.toList_injective ?_⟩
    simp [hpath]
  · rintro ⟨after, rfl⟩
    exact ⟨after.toList, by simp, covers_stars_iff.2 (covers_star_end _)⟩

theorem accepts_ending_iff (h : IsPlain name.toList) : accepts ("*" ++ name) path = true ↔
    ∃ stem, path = stem ++ name := by
  have hpieces : pieces ("*" ++ name) = .star :: (name.toList.map .literal ++ []) := by
    have htext : ("*" ++ name).toList = '*' :: (name.toList ++ []) := by
      simp
    rw [pieces, htext, piecesFrom, piecesFrom_plain h]
    rfl
  rw [accepts, hpieces, covers_star_iff]
  constructor
  · rintro ⟨before, rest, hpath, hrest⟩
    obtain ⟨after, rfl, hafter⟩ := covers_literals_iff.1 hrest
    cases after with
    | nil =>
      refine ⟨String.ofList before, String.toList_injective ?_⟩
      simp [hpath]
    | cons c cs => cases hafter
  · rintro ⟨stem, rfl⟩
    refine ⟨stem.toList, name.toList, by simp, ?_⟩
    exact covers_literals_iff.2 ⟨[], (List.append_nil _).symm, rfl⟩

theorem ending_of_accepts (h : IsPlain name.toList) (ha : accepts ("**/*" ++ name) path = true) :
    ∃ stem, path = stem ++ name := by
  have hpieces : pieces ("**/*" ++ name) =
      .star :: .star :: (['/'].map .literal ++ .star :: (name.toList.map .literal ++ [])) := by
    have htext : ("**/*" ++ name).toList = '*' :: '*' :: '/' :: '*' :: (name.toList ++ []) := by
      simp
    rw [pieces, htext, piecesFrom, piecesFrom, piecesFrom, piecesFrom, piecesFrom_plain h]
    · rfl
    all_goals decide
  rw [accepts, hpieces, covers_stars_iff] at ha
  obtain ⟨before, rest, hpath, hrest⟩ := covers_star_iff.1 ha
  obtain ⟨rest', rfl, hrest'⟩ := covers_literals_iff.1 hrest
  obtain ⟨between, rest'', rfl, hrest''⟩ := covers_star_iff.1 hrest'
  obtain ⟨after, rfl, hafter⟩ := covers_literals_iff.1 hrest''
  cases after with
  | nil =>
    refine ⟨String.ofList (before ++ '/' :: between), String.toList_injective ?_⟩
    simp [hpath]
  | cons c cs => cases hafter

inductive Bars : String → Prop
  | insideAny {name : String} : IsPlain name.toList → Slashless name → Bars (insideAny name)
  | below {name : String} : IsPlain name.toList → Slashless name → Bars (below name)

theorem star_not_plain {before after : List Char} : ¬ IsPlain (before ++ '*' :: after) := by
  intro h
  exact (h '*' (by simp)).1 rfl

theorem isPlain_of_insideAny (h : Bars (insideAny name)) : IsPlain name.toList := by
  generalize hp : insideAny name = pattern at h
  cases h with
  | insideAny hplain _ =>
    rw [insideAny, insideAny, String.append_left_inj, String.append_right_inj] at hp
    rwa [hp]
  | below hplain _ =>
    rw [insideAny, below, String.append_left_inj] at hp
    rw [← hp, String.toList_append] at hplain
    exact absurd hplain (star_not_plain : ¬ IsPlain ([] ++ '*' :: _))

theorem isPlain_of_below (hs : Slashless name) (h : Bars (below name)) : IsPlain name.toList := by
  generalize hp : below name = pattern at h
  cases h with
  | insideAny _ _ =>
    rw [insideAny, below, String.append_left_inj] at hp
    rw [hp, Slashless, String.toList_append] at hs
    exact absurd (List.mem_append_left _ (by decide)) hs
  | below hplain _ =>
    rw [below, below, String.append_left_inj] at hp
    rwa [hp]

theorem Bars.no_brace {pattern : String} (h : Bars pattern) : '\x7b' ∉ pattern.toList := by
  have hplain : ∀ {name : String}, IsPlain name.toList → '\x7b' ∉ name.toList :=
    fun h hmem => (h _ hmem).2.2.2 rfl
  cases h with
  | insideAny h _ => simpa [Glob.insideAny] using hplain h
  | below h _ => simpa [Glob.below] using hplain h

theorem pathMatches_iff {patterns : List String} : pathMatches path patterns = true ↔
    ∃ pattern ∈ patterns, ∃ expanded ∈ expandBraces pattern, accepts expanded path = true := by
  simp [pathMatches]

theorem pathMatches_bars_iff {patterns : List String} (hp : ∀ pattern ∈ patterns, Bars pattern)
    (hs : ∀ part ∈ dirs ++ [last], Slashless part) :
    pathMatches (String.intercalate "/" (dirs ++ [last])) patterns = true ↔
      (∃ name ∈ dirs.tail, insideAny name ∈ patterns) ∨
        ∃ name, dirs.head? = some name ∧ below name ∈ patterns := by
  rw [pathMatches_iff]
  constructor
  · rintro ⟨pattern, hmem, expanded, hexp, ha⟩
    have hbars := hp pattern hmem
    rw [expandBraces_of_no_brace hbars.no_brace, List.mem_singleton] at hexp
    subst hexp
    cases hbars with
    | @insideAny name hplain hslash =>
      exact .inl ⟨name, (Path.between_slashes_iff hs hslash).1 ((accepts_insideAny_iff hplain).1 ha),
        hmem⟩
    | @below name hplain hslash =>
      exact .inr ⟨name, (Path.before_slash_iff hs hslash).1 ((accepts_below_iff hplain).1 ha), hmem⟩
  · have hexp : ∀ pattern ∈ patterns, pattern ∈ expandBraces pattern := by
      intro pattern hmem
      rw [expandBraces_of_no_brace (hp pattern hmem).no_brace]
      exact List.mem_singleton_self pattern
    have hslash : ∀ name ∈ dirs, Slashless name := fun name hname =>
      hs name (List.mem_append_left _ hname)
    rintro (⟨name, hname, hmem⟩ | ⟨name, hname, hmem⟩)
    · have hplain := isPlain_of_insideAny (hp _ hmem)
      have hbetween := (Path.between_slashes_iff hs (hslash name (List.mem_of_mem_tail hname))).2 hname
      exact ⟨_, hmem, _, hexp _ hmem, (accepts_insideAny_iff hplain).2 hbetween⟩
    · have hs' := hslash name (List.mem_of_mem_head? hname)
      have hplain := isPlain_of_below hs' (hp _ hmem)
      exact ⟨_, hmem, _, hexp _ hmem,
        (accepts_below_iff hplain).2 ((Path.before_slash_iff hs hs').2 hname)⟩

end BuildScripts.Glob

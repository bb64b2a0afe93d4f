import BuildScripts.Proofs.Glob.Expansion
import BuildScripts.Proofs.Patterns

/-!
Patterns with groups nested to any depth, and what they stand for. Main statement: though the first
group without groups in it is replaced first, wherever it is nested, the expansions of a pattern are
the texts that it stands for; only a pattern with too many groups is not expanded.
-/

namespace BuildScripts.Glob

open BuildScripts.Text

mutual

inductive Sequence
  | nil
  | literal (c : Char) (rest : Sequence)
  | group (items : Items) (rest : Sequence)

inductive Items
  | last (item : Sequence)
  | more (item : Sequence) (items : Items)

end

mutual

def Sequence.chars : Sequence → List Char
  | .nil => []
  | .literal c rest => c :: rest.chars
  | .group items rest => '\x7b' :: (items.chars ++ '\x7d' :: rest.chars)

def Items.chars : Items → List Char
  | .last item => item.chars
  | .more item items => item.chars ++ ',' :: items.chars

end

def Sequence.text (p : Sequence) : String :=
  String.ofList p.chars

def withoutBlanks (texts : List (List Char)) : List (List Char) :=
  (texts.map stripChars).filter (!·.isEmpty)

mutual

def Sequence.texts : Sequence → List (List Char)
  | .nil => [[]]
  | .literal c rest => rest.texts.map (c :: ·)
  | .group items rest => items.texts.flatMap fun o => rest.texts.map (o ++ ·)

def Items.texts : Items → List (List Char)
  | .last item => withoutBlanks item.texts
  | .more item items => withoutBlanks item.texts ++ items.texts

end

def isLiteral (inGroup : Bool) (c : Char) : Bool :=
  !isBrace c && !(inGroup && c == ',')

def Items.areBlank : Items → Bool
  | .last item => item.chars.all isBlank
  | .more item items => item.chars.all isBlank && items.areBlank

mutual

def Sequence.isProper (inGroup : Bool) : Sequence → Bool
  | .nil => true
  | .literal c rest => isLiteral inGroup c && rest.isProper inGroup
  | .group items rest => items.isProper && !items.areBlank && rest.isProper inGroup

def Items.isProper : Items → Bool
  | .last item => item.isProper true
  | .more item items => item.isProper true && items.isProper

end

mutual

def Sequence.groups : Sequence → Nat
  | .nil => 0
  | .literal _ rest => rest.groups
  | .group items rest => items.groups + rest.groups + 1

def Items.groups : Items → Nat
  | .last item => item.groups
  | .more item items => item.groups + items.groups

end

variable {p : Sequence} {items : Items} {inGroup : Bool} {before after o s t : List Char}
  {ts : List (List Char)} {c : Char}

section Characters

theorem isLiteral_of_inGroup (h : isLiteral true c = true) : isLiteral inGroup c = true := by
  rw [isLiteral, Bool.and_eq_true] at h ⊢
  refine ⟨h.1, ?_⟩
  cases inGroup with
  | false => rfl
  | true => exact h.2

theorem braceless_of_isLiteral (h : ∀ c ∈ t, isLiteral inGroup c = true) : Braceless t := by
  intro c hc
  have hliteral := h c hc
  rw [isLiteral, Bool.and_eq_true, Bool.not_eq_true'] at hliteral
  exact hliteral.1

theorem comma_not_mem_of_isLiteral (h : ∀ c ∈ t, isLiteral true c = true) : ',' ∉ t :=
  fun hmem => absurd (h _ hmem) (by decide)

theorem mem_withoutBlanks_iff : o ∈ withoutBlanks ts ↔ ∃ t ∈ ts, stripChars t = o ∧ o ≠ [] := by
  simp only [withoutBlanks, List.mem_filter, List.mem_map, Bool.not_eq_true',
    List.isEmpty_eq_false_iff]
  constructor
  · rintro ⟨⟨t, ht, rfl⟩, hne⟩
    exact ⟨t, ht, rfl, hne⟩
  · rintro ⟨t, ht, rfl, hne⟩
    exact ⟨⟨t, ht, rfl⟩, hne⟩

def Inked (t : List Char) : Prop :=
  ∃ c ∈ t, isBlank c = false

theorem inked_iff : Inked t ↔ t.all isBlank = false := by
  simp [Inked]

theorem Inked.strip (h : Inked t) : Inked (stripChars t) := by
  obtain ⟨c, hc, hblank⟩ := h
  exact ⟨c, mem_trim hc hblank, hblank⟩

theorem Inked.strip_ne_nil (h : Inked t) : stripChars t ≠ [] := by
  obtain ⟨c, hc, -⟩ := h.strip
  exact List.ne_nil_of_mem hc

theorem inked_of_strip_ne_nil (h : stripChars t ≠ []) : Inked t := by
  by_contra hblank
  refine h ((trim_eq_nil_iff _ _).2 fun c hc => ?_)
  by_contra hinked
  exact hblank ⟨c, hc, by simpa using hinked⟩

theorem inked_of_mem_withoutBlanks (ho : o ∈ withoutBlanks ts) : Inked o := by
  obtain ⟨t, -, rfl, hne⟩ := mem_withoutBlanks_iff.1 ho
  exact (inked_of_strip_ne_nil hne).strip

theorem groupOptions_intercalate (hne : ts ≠ []) (h : ∀ t ∈ ts, ',' ∉ t) :
    groupOptions ([','].intercalate ts) = withoutBlanks ts := by
  rw [groupOptions, atCommas_eq_splitOn, List.splitOn_intercalate ',' h hne, withoutBlanks]

theorem braceless_intercalate (h : ∀ t ∈ ts, Braceless t) : Braceless ([','].intercalate ts) := by
  induction ts with
  | nil => exact List.forall_mem_nil _
  | cons t ts ih =>
    obtain ⟨ht, hts⟩ := List.forall_mem_cons.1 h
    cases ts with
    | nil => simpa using ht
    | cons u us =>
      rw [List.intercalate_cons_cons]
      exact (ht.append (by decide)).append (ih hts)

end Characters

section Texts

mutual

theorem Sequence.forall_isLiteral : ∀ {p : Sequence} {inGroup : Bool} {t : List Char},
    p.isProper inGroup = true → t ∈ p.texts → ∀ c ∈ t, isLiteral inGroup c = true
  | .nil, _, t, _, ht => by
    rw [Sequence.texts, List.mem_singleton] at ht
    subst ht
    exact List.forall_mem_nil _
  | .literal d rest, inGroup, t, hp, ht => by
    rw [Sequence.isProper, Bool.and_eq_true] at hp
    rw [Sequence.texts, List.mem_map] at ht
    obtain ⟨u, hu, rfl⟩ := ht
    exact List.forall_mem_cons.2 ⟨hp.1, Sequence.forall_isLiteral hp.2 hu⟩
  | .group items rest, inGroup, t, hp, ht => by
    rw [Sequence.isProper, Bool.and_eq_true, Bool.and_eq_true] at hp
    simp only [Sequence.texts, List.mem_flatMap, List.mem_map] at ht
    obtain ⟨o, ho, u, hu, rfl⟩ := ht
    refine List.forall_mem_append.2 ⟨fun c hc => ?_, Sequence.forall_isLiteral hp.2 hu⟩
    exact isLiteral_of_inGroup (Items.forall_isLiteral hp.1.1 ho c hc)

theorem Items.forall_isLiteral : ∀ {items : Items} {o : List Char},
    items.isProper = true → o ∈ items.texts → ∀ c ∈ o, isLiteral true c = true
  | .last item, o, hp, ho => by
    rw [Items.isProper] at hp
    obtain ⟨t, ht, rfl, -⟩ := mem_withoutBlanks_iff.1 ho
    exact fun c hc => Sequence.forall_isLiteral hp ht c (trim_subset _ _ hc)
  | .more item items, o, hp, ho => by
    rw [Items.isProper, Bool.and_eq_true] at hp
    rw [Items.texts, List.mem_append] at ho
    rcases ho with ho | ho
    · obtain ⟨t, ht, rfl, -⟩ := mem_withoutBlanks_iff.1 ho
      exact fun c hc => Sequence.forall_isLiteral hp.1 ht c (trim_subset _ _ hc)
    · exact Items.forall_isLiteral hp.2 ho

end

theorem Items.inked_of_mem : ∀ {items : Items} {o : List Char}, o ∈ items.texts → Inked o
  | .last _, _, ho => inked_of_mem_withoutBlanks ho
  | .more item items, o, ho => by
    rw [Items.texts, List.mem_append] at ho
    exact ho.elim inked_of_mem_withoutBlanks Items.inked_of_mem

theorem Sequence.inked_of_mem : ∀ {p : Sequence} {t : List Char}, Inked p.chars → t ∈ p.texts →
    Inked t
  | .nil, _, h, _ => by simp [Inked, Sequence.chars] at h
  | .literal d rest, t, h, ht => by
    rw [Sequence.texts, List.mem_map] at ht
    obtain ⟨u, hu, rfl⟩ := ht
    obtain ⟨c, hc, hblank⟩ := h
    rcases List.mem_cons.1 hc with rfl | hc
    · exact ⟨c, by simp, hblank⟩
    · obtain ⟨e, he, hinked⟩ := Sequence.inked_of_mem ⟨c, hc, hblank⟩ hu
      exact ⟨e, List.mem_cons_of_mem _ he, hinked⟩
  | .group items rest, t, _, ht => by
    simp only [Sequence.texts, List.mem_flatMap, List.mem_map] at ht
    obtain ⟨o, ho, u, -, rfl⟩ := ht
    obtain ⟨c, hc, hblank⟩ := Items.inked_of_mem ho
    exact ⟨c, List.mem_append_left _ hc, hblank⟩

end Texts

section Choices

inductive Items.Chooses : Items → List (List Char) → Prop
  | last {item : Sequence} {t : List Char} (ht : t ∈ item.texts) : Chooses (.last item) [t]
  | more {item : Sequence} {items : Items} {t : List Char} {ts : List (List Char)}
      (ht : t ∈ item.texts) (hts : Chooses items ts) : Chooses (.more item items) (t :: ts)

theorem Items.Chooses.ne_nil (h : items.Chooses ts) : ts ≠ [] := by
  cases h <;> simp

theorem Items.Chooses.forall_isLiteral (h : items.Chooses ts) (hp : items.isProper = true) :
    ∀ t ∈ ts, ∀ c ∈ t, isLiteral true c = true := by
  induction h with
  | last ht => exact List.forall_mem_singleton.2 (Sequence.forall_isLiteral hp ht)
  | more ht _ ih =>
    rw [Items.isProper, Bool.and_eq_true] at hp
    exact List.forall_mem_cons.2 ⟨Sequence.forall_isLiteral hp.1 ht, ih hp.2⟩

theorem Items.Chooses.exists_inked (h : items.Chooses ts) (hblank : items.areBlank = false) :
    ∃ t ∈ ts, Inked t := by
  induction h with
  | last ht => exact ⟨_, by simp, Sequence.inked_of_mem (inked_iff.2 hblank) ht⟩
  | more ht _ ih =>
    rw [Items.areBlank, Bool.and_eq_false_iff] at hblank
    rcases hblank with hitem | hitems
    · exact ⟨_, by simp, Sequence.inked_of_mem (inked_iff.2 hitem) ht⟩
    · obtain ⟨t, hmem, ht⟩ := ih hitems
      exact ⟨t, List.mem_cons_of_mem _ hmem, ht⟩

theorem Items.Chooses.mem_texts (h : items.Chooses ts) (ho : o ∈ withoutBlanks ts) :
    o ∈ items.texts := by
  induction h with
  | last ht =>
    obtain ⟨t, hmem, rfl, hne⟩ := mem_withoutBlanks_iff.1 ho
    rw [List.mem_singleton] at hmem
    exact mem_withoutBlanks_iff.2 ⟨_, ht, by rw [hmem], hne⟩
  | more ht _ ih =>
    rw [Items.texts, List.mem_append]
    obtain ⟨u, hmem, rfl, hne⟩ := mem_withoutBlanks_iff.1 ho
    rcases List.mem_cons.1 hmem with rfl | hmem
    · exact .inl (mem_withoutBlanks_iff.2 ⟨_, ht, rfl, hne⟩)
    · exact .inr (ih (mem_withoutBlanks_iff.2 ⟨u, hmem, rfl, hne⟩))

mutual

theorem Sequence.exists_text : ∀ {p : Sequence} {inGroup : Bool}, p.isProper inGroup = true →
    ∃ t, t ∈ p.texts
  | .nil, _, _ => ⟨[], by simp [Sequence.texts]⟩
  | .literal d rest, inGroup, hp => by
    rw [Sequence.isProper, Bool.and_eq_true] at hp
    obtain ⟨t, ht⟩ := Sequence.exists_text hp.2
    exact ⟨d :: t, by simp [Sequence.texts, ht]⟩
  | .group items rest, inGroup, hp => by
    rw [Sequence.isProper, Bool.and_eq_true, Bool.and_eq_true, Bool.not_eq_true'] at hp
    obtain ⟨t, ht⟩ := Sequence.exists_text hp.2
    obtain ⟨ts, hts⟩ := Items.exists_choice hp.1.1
    obtain ⟨u, hu, hinked⟩ := hts.exists_inked hp.1.2
    have ho := hts.mem_texts (mem_withoutBlanks_iff.2 ⟨u, hu, rfl, hinked.strip_ne_nil⟩)
    refine ⟨stripChars u ++ t, ?_⟩
    simp only [Sequence.texts, List.mem_flatMap, List.mem_map]
    exact ⟨_, ho, t, ht, rfl⟩

theorem Items.exists_choice : ∀ {items : Items}, items.isProper = true → ∃ ts, items.Chooses ts
  | .last item, hp => by
    obtain ⟨t, ht⟩ := Sequence.exists_text hp
    exact ⟨[t], .last ht⟩
  | .more item items, hp => by
    rw [Items.isProper, Bool.and_eq_true] at hp
    obtain ⟨t, ht⟩ := Sequence.exists_text hp.1
    obtain ⟨ts, hts⟩ := Items.exists_choice hp.2
    exact ⟨t :: ts, .more ht hts⟩

end

-- A text of one item is among the options only if all other items can be given a text too.
theorem Items.exists_choice_of_mem : ∀ {items : Items} {o : List Char}, items.isProper = true →
    o ∈ items.texts → ∃ ts, items.Chooses ts ∧ o ∈ withoutBlanks ts
  | .last item, o, _, ho => by
    obtain ⟨t, ht, rfl, hne⟩ := mem_withoutBlanks_iff.1 ho
    exact ⟨[t], .last ht, mem_withoutBlanks_iff.2 ⟨t, by simp, rfl, hne⟩⟩
  | .more item items, o, hp, ho => by
    rw [Items.isProper, Bool.and_eq_true] at hp
    rw [Items.texts, List.mem_append] at ho
    rcases ho with ho | ho
    · obtain ⟨t, ht, rfl, hne⟩ := mem_withoutBlanks_iff.1 ho
      obtain ⟨ts, hts⟩ := Items.exists_choice hp.2
      exact ⟨t :: ts, .more ht hts, mem_withoutBlanks_iff.2 ⟨t, by simp, rfl, hne⟩⟩
    · obtain ⟨t, ht⟩ := Sequence.exists_text hp.1
      obtain ⟨ts, hts, ho⟩ := Items.exists_choice_of_mem hp.2 ho
      obtain ⟨u, hu, rfl, hne⟩ := mem_withoutBlanks_iff.1 ho
      exact ⟨t :: ts, .more ht hts, mem_withoutBlanks_iff.2 ⟨u, by simp [hu], rfl, hne⟩⟩

end Choices

section Replacement

theorem Items.Chooses.mem_expandChars_iff (hts : items.Chooses ts) (hp : items.isProper = true)
    (hblank : items.areBlank = false) (hb : '\x7d' ∉ before) (after s : List Char) :
    s ∈ expandChars (before ++ '\x7b' :: ([','].intercalate ts ++ '\x7d' :: after)) ↔
      ∃ o ∈ withoutBlanks ts, s ∈ expandChars (before ++ o ++ after) := by
  have hliteral := hts.forall_isLiteral hp
  have hoptions : groupOptions ([','].intercalate ts) = withoutBlanks ts :=
    groupOptions_intercalate hts.ne_nil fun t ht => comma_not_mem_of_isLiteral (hliteral t ht)
  have hne : groupOptions ([','].intercalate ts) ≠ [] := by
    obtain ⟨t, ht, hinked⟩ := hts.exists_inked hblank
    rw [hoptions]
    exact List.ne_nil_of_mem (mem_withoutBlanks_iff.2 ⟨t, ht, rfl, hinked.strip_ne_nil⟩)
  have hinner : [','].intercalate ts ≠ [] := by
    intro hnil
    rw [hnil] at hne
    exact hne rfl
  have hfirst := firstGroup?_append hb hinner
    (braceless_intercalate fun t ht => braceless_of_isLiteral (hliteral t ht)) after
  rw [mem_expandChars_of_group hfirst hne s, hoptions]

theorem Items.mem_expandChars_group_iff (hp : items.isProper = true)
    (hblank : items.areBlank = false) (hb : '\x7d' ∉ before)
    (h : s ∈ expandChars (before ++ ['\x7b'] ++ items.chars ++ '\x7d' :: after) ↔
      ∃ ts, items.Chooses ts ∧
        s ∈ expandChars (before ++ ['\x7b'] ++ [','].intercalate ts ++ '\x7d' :: after)) :
    s ∈ expandChars (before ++ '\x7b' :: (items.chars ++ '\x7d' :: after)) ↔
      ∃ o ∈ items.texts, s ∈ expandChars (before ++ o ++ after) := by
  have hopen (cs : List Char) : before ++ ['\x7b'] ++ cs ++ '\x7d' :: after =
      before ++ '\x7b' :: (cs ++ '\x7d' :: after) := by simp
  simp only [hopen] at h
  rw [h]
  constructor
  · rintro ⟨ts, hts, hs⟩
    obtain ⟨o, ho, hs⟩ := (hts.mem_expandChars_iff hp hblank hb after s).1 hs
    exact ⟨o, hts.mem_texts ho, hs⟩
  · rintro ⟨o, ho, hs⟩
    obtain ⟨ts, hts, hoption⟩ := Items.exists_choice_of_mem hp ho
    exact ⟨ts, hts, (hts.mem_expandChars_iff hp hblank hb after s).2 ⟨o, hoption, hs⟩⟩

mutual

theorem Sequence.mem_expandChars_iff : ∀ {p : Sequence} {inGroup : Bool} {before : List Char}
    (after s : List Char), p.isProper inGroup = true → '\x7d' ∉ before →
    (s ∈ expandChars (before ++ p.chars ++ after) ↔
      ∃ t ∈ p.texts, s ∈ expandChars (before ++ t ++ after))
  | .nil, _, _, after, s, _, _ => by simp [Sequence.chars, Sequence.texts]
  | .literal c rest, inGroup, before, after, s, hp, hb => by
    rw [Sequence.isProper, Bool.and_eq_true] at hp
    have hc : Braceless [c] := braceless_of_isLiteral (List.forall_mem_singleton.2 hp.1)
    have hb' : '\x7d' ∉ before ++ [c] := by
      rw [List.mem_append, not_or]
      exact ⟨hb, hc.not_mem_close⟩
    have hrest := Sequence.mem_expandChars_iff after s hp.2 hb'
    simpa [Sequence.chars, Sequence.texts] using hrest
  | .group items rest, inGroup, before, after, s, hp, hb => by
    rw [Sequence.isProper, Bool.and_eq_true, Bool.and_eq_true, Bool.not_eq_true'] at hp
    obtain ⟨⟨hitems, hblank⟩, hrest⟩ := hp
    have hopen : '\x7d' ∉ before ++ ['\x7b'] := by simpa using hb
    have hgroup := Items.mem_expandChars_group_iff hitems hblank hb
      (Items.mem_expandChars_iff ('\x7d' :: (rest.chars ++ after)) s hitems hopen)
    -- The options that now stand for the group close nothing, so the rest comes next.
    have hafter (o : List Char) (ho : o ∈ items.texts) :
        s ∈ expandChars (before ++ o ++ (rest.chars ++ after)) ↔
          ∃ t ∈ rest.texts, s ∈ expandChars (before ++ o ++ t ++ after) := by
      have hoption := braceless_of_isLiteral (Items.forall_isLiteral hitems ho)
      rw [← List.append_assoc]
      refine Sequence.mem_expandChars_iff after s hrest ?_
      rw [List.mem_append, not_or]
      exact ⟨hb, hoption.not_mem_close⟩
    have hwritten : before ++ (Sequence.group items rest).chars ++ after =
        before ++ '\x7b' :: (items.chars ++ '\x7d' :: (rest.chars ++ after)) := by
      simp [Sequence.chars]
    rw [hwritten, hgroup]
    simp only [Sequence.texts, List.mem_flatMap, List.mem_map]
    constructor
    · rintro ⟨o, ho, hs⟩
      obtain ⟨t, ht, hs⟩ := (hafter o ho).1 hs
      exact ⟨o ++ t, ⟨o, ho, t, ht, rfl⟩, by simpa using hs⟩
    · rintro ⟨_, ⟨o, ho, t, ht, rfl⟩, hs⟩
      exact ⟨o, ho, (hafter o ho).2 ⟨t, ht, by simpa using hs⟩⟩

theorem Items.mem_expandChars_iff : ∀ {items : Items} {before : List Char} (after s : List Char),
    items.isProper = true → '\x7d' ∉ before →
    (s ∈ expandChars (before ++ items.chars ++ after) ↔
      ∃ ts, items.Chooses ts ∧ s ∈ expandChars (before ++ [','].intercalate ts ++ after))
  | .last item, before, after, s, hp, hb => by
    rw [Items.chars, Sequence.mem_expandChars_iff after s hp hb]
    constructor
    · rintro ⟨t, ht, hs⟩
      exact ⟨[t], .last ht, by simpa using hs⟩
    · rintro ⟨ts, hts, hs⟩
      cases hts with
      | @last _ t ht => exact ⟨t, ht, by simpa using hs⟩
  | .more item items, before, after, s, hp, hb => by
    rw [Items.isProper, Bool.and_eq_true] at hp
    have hitem := Sequence.mem_expandChars_iff (',' :: (items.chars ++ after)) s hp.1 hb
    have hitems (t : List Char) (ht : t ∈ item.texts) :
        s ∈ expandChars (before ++ t ++ ',' :: (items.chars ++ after)) ↔
          ∃ ts, items.Chooses ts ∧
            s ∈ expandChars (before ++ [','].intercalate (t :: ts) ++ after) := by
      have hliteral := braceless_of_isLiteral (Sequence.forall_isLiteral hp.1 ht)
      have hb' : '\x7d' ∉ before ++ t ++ [','] := by simp [hb, hliteral.not_mem_close]
      have hcomma : before ++ t ++ ',' :: (items.chars ++ after) =
          before ++ t ++ [','] ++ items.chars ++ after := by simp
      rw [hcomma, Items.mem_expandChars_iff after s hp.2 hb']
      refine exists_congr fun ts => and_congr_right fun hts => ?_
      obtain ⟨u, us, rfl⟩ := List.exists_cons_of_ne_nil hts.ne_nil
      simp [List.intercalate_cons_cons]
    have hwritten : before ++ (Items.more item items).chars ++ after =
        before ++ item.chars ++ ',' :: (items.chars ++ after) := by
      simp [Items.chars]
    rw [hwritten, hitem]
    constructor
    · rintro ⟨t, ht, hs⟩
      obtain ⟨ts, hts, hs⟩ := (hitems t ht).1 hs
      exact ⟨t :: ts, .more ht hts, hs⟩
    · rintro ⟨ts, hts, hs⟩
      cases hts with
      | @more _ _ t ts ht hts => exact ⟨t, ht, (hitems t ht).2 ⟨ts, hts, hs⟩⟩

end

end Replacement

section Expansions

theorem Sequence.mem_expandChars_chars_iff (hp : p.isProper inGroup = true) :
    s ∈ expandChars p.chars ↔ s ∈ p.texts := by
  have hwhole := Sequence.mem_expandChars_iff [] s hp (List.not_mem_nil : '\x7d' ∉ [])
  have hend (t : List Char) (ht : t ∈ p.texts) : expandChars t = [t] :=
    expandChars_of_no_open (braceless_of_isLiteral (Sequence.forall_isLiteral hp ht)).not_mem_open
  simp only [List.nil_append, List.append_nil] at hwhole
  rw [hwhole]
  constructor
  · rintro ⟨t, ht, hs⟩
    rw [hend t ht, List.mem_singleton] at hs
    exact hs ▸ ht
  · intro hs
    exact ⟨s, hs, by simp [hend s hs]⟩

theorem Sequence.mem_expandBraces_iff (hp : p.isProper inGroup = true) {expanded : String} :
    expanded ∈ expandBraces p.text ↔ expanded.toList ∈ p.texts := by
  rw [Glob.mem_expandBraces_iff, Sequence.text, String.toList_ofList,
    Sequence.mem_expandChars_chars_iff hp]

theorem count_open_of_isLiteral (h : isLiteral inGroup c = true) (cs : List Char) :
    (c :: cs).count '\x7b' = cs.count '\x7b' := by
  have hc : Braceless [c] := braceless_of_isLiteral (List.forall_mem_singleton.2 h)
  rw [List.count_cons_of_ne fun heq => hc.not_mem_open (by simp [heq])]

mutual

theorem Sequence.count_open : ∀ {p : Sequence} {inGroup : Bool}, p.isProper inGroup = true →
    p.chars.count '\x7b' = p.groups
  | .nil, _, _ => rfl
  | .literal d rest, inGroup, hp => by
    rw [Sequence.isProper, Bool.and_eq_true] at hp
    rw [Sequence.chars, count_open_of_isLiteral hp.1, Sequence.count_open hp.2, Sequence.groups]
  | .group items rest, inGroup, hp => by
    rw [Sequence.isProper, Bool.and_eq_true, Bool.and_eq_true] at hp
    rw [Sequence.chars, List.count_cons_self, List.count_append, List.count_cons_of_ne (by decide),
      Items.count_open hp.1.1, Sequence.count_open hp.2, Sequence.groups]

theorem Items.count_open : ∀ {items : Items}, items.isProper = true →
    items.chars.count '\x7b' = items.groups
  | .last item, hp => by
    rw [Items.chars, Sequence.count_open hp, Items.groups]
  | .more item items, hp => by
    rw [Items.isProper, Bool.and_eq_true] at hp
    rw [Items.chars, List.count_append, List.count_cons_of_ne (by decide),
      Sequence.count_open hp.1, Items.count_open hp.2, Items.groups]

end

theorem Sequence.isTooDeep_iff (hp : p.isProper inGroup = true) :
    isTooDeep p.text = true ↔ mostGroups < p.groups := by
  have hend : ∀ s ∈ expandChars p.chars, '\x7b' ∉ s := by
    intro s hs
    have hs := (Sequence.mem_expandChars_chars_iff hp).1 hs
    exact (braceless_of_isLiteral (Sequence.forall_isLiteral hp hs)).not_mem_open
  rw [isTooDeep, Sequence.text, String.toList_ofList, groupsReplaced_eq_min _ hend,
    Sequence.count_open hp, decide_eq_true_eq]
  omega

theorem Sequence.patternOf_text (hp : p.isProper inGroup = true) :
    Config.patternOf (.text p.text) =
      if p.groups ≤ mostGroups then .ok p.text else .error .tooDeep := by
  have hdeep := Sequence.isTooDeep_iff hp
  rw [Config.patternOf]
  by_cases h : p.groups ≤ mostGroups
  · rw [if_neg fun hd => absurd (hdeep.1 hd) (Nat.not_lt.2 h), if_pos h]
  · rw [if_pos (hdeep.2 (Nat.lt_of_not_le h)), if_neg h]

variable {ps : List Sequence}

theorem patternsOf_sequences (hp : ∀ p ∈ ps, p.isProper inGroup = true) :
    Config.patternsOf (.texts (ps.map Sequence.text)) =
      if ∀ p ∈ ps, p.groups ≤ mostGroups then .ok (ps.map Sequence.text) else .error .tooDeep := by
  by_cases h : ∀ p ∈ ps, p.groups ≤ mostGroups
  · rw [if_pos h, Config.patternsOf_texts]
    refine List.forall_mem_map.2 fun p hmem => ?_
    rw [← Bool.not_eq_true, Sequence.isTooDeep_iff (hp p hmem)]
    exact Nat.not_lt.2 (h p hmem)
  · rw [if_neg h, Config.patternsOf_texts_of_tooDeep]
    obtain ⟨p, hmem, hdeep⟩ : ∃ p ∈ ps, mostGroups < p.groups := by simpa using h
    exact ⟨p.text, List.mem_map_of_mem hmem, (Sequence.isTooDeep_iff (hp p hmem)).2 hdeep⟩

theorem pathMatches_sequences_iff (hp : ∀ p ∈ ps, p.isProper inGroup = true) (path : String) :
    pathMatches path (ps.map Sequence.text) = true ↔
      ∃ p ∈ ps, ∃ t ∈ p.texts, accepts (String.ofList t) path = true := by
  simp only [pathMatches_iff, List.mem_map, exists_exists_and_eq_and]
  refine exists_congr fun p => and_congr_right fun hmem => ?_
  constructor
  · rintro ⟨expanded, hexp, ha⟩
    exact ⟨_, (Sequence.mem_expandBraces_iff (hp p hmem)).1 hexp, by rwa [String.ofList_toList]⟩
  · rintro ⟨t, ht, ha⟩
    exact ⟨_, (Sequence.mem_expandBraces_iff (hp p hmem)).2 (by rwa [String.toList_ofList]), ha⟩

/-- Patterns of the grammar are expanded to what they stand for, unless one has too many groups. -/
theorem expands_to_texts (hp : ∀ p ∈ ps, p.isProper false = true) (path : String) :
    (∀ p ∈ ps, (Config.patternOf (.text p.text) =
        if p.groups ≤ mostGroups then .ok p.text else .error .tooDeep) ∧
      ∀ expanded, expanded ∈ expandBraces p.text ↔ expanded.toList ∈ p.texts) ∧
    (Config.patternsOf (.texts (ps.map Sequence.text)) =
      if ∀ p ∈ ps, p.groups ≤ mostGroups then .ok (ps.map Sequence.text) else .error .tooDeep) ∧
    (pathMatches path (ps.map Sequence.text) = true ↔
      ∃ p ∈ ps, ∃ t ∈ p.texts, accepts (String.ofList t) path = true) :=
  ⟨fun p hmem => ⟨Sequence.patternOf_text (hp p hmem),
      fun _ => Sequence.mem_expandBraces_iff (hp p hmem)⟩,
    patternsOf_sequences hp, pathMatches_sequences_iff hp path⟩

def Sequence.literals (cs : List Char) (rest : Sequence) : Sequence :=
  cs.foldr .literal rest

def nestedGroups : Sequence :=
  .literals "src/".toList
    (.group (.more (.literals "a".toList .nil)
        (.last (.literals " ".toList
          (.group (.more (.literals " b".toList .nil) (.last (.literals "c ".toList .nil)))
            (.literals "x ".toList .nil)))))
      (.literals ".".toList
        (.group (.more (.literals "cs".toList .nil) (.last (.literals " py".toList .nil))) .nil)))

theorem expands_to_texts_nested :
    nestedGroups.text = "src/\x7ba, \x7b b,c \x7dx \x7d.\x7bcs, py\x7d" ∧
      (∀ p ∈ [nestedGroups], p.isProper false = true) ∧
      Config.patternOf (.text nestedGroups.text) = .ok nestedGroups.text ∧
      "src/bx.py" ∈ expandBraces nestedGroups.text ∧
      pathMatches "src/cx.cs" [nestedGroups.text] = true ∧
      pathMatches "src/x.cs" [nestedGroups.text] = false := by
  have hp : ∀ p ∈ [nestedGroups], p.isProper false = true := by decide +kernel
  obtain ⟨hexpand, -, hcx⟩ := expands_to_texts hp "src/cx.cs"
  obtain ⟨-, -, hx⟩ := expands_to_texts hp "src/x.cs"
  obtain ⟨hpattern, hmem⟩ := hexpand nestedGroups (by simp)
  refine ⟨by decide +kernel, hp, ?_, (hmem _).2 (by decide +kernel), hcx.2 ?_, ?_⟩
  · rw [hpattern, if_pos (by decide +kernel)]
  · exact ⟨nestedGroups, by simp, "src/cx.cs".toList, by decide +kernel, by decide +kernel⟩
  · rw [← Bool.not_eq_true]
    refine fun h => absurd (hx.1 h) ?_
    simp only [List.mem_singleton, exists_eq_left]
    decide +kernel

section Repeated

def Sequence.repeated : Nat → Sequence
  | 0 => .nil
  | n + 1 => .group (.last (.literal 'a' .nil)) (repeated n)

theorem Sequence.isProper_repeated (n : Nat) : (repeated n).isProper false = true := by
  induction n with
  | zero => rfl
  | succ n ih =>
    rw [repeated, isProper, ih]
    rfl

theorem Sequence.groups_repeated (n : Nat) : (repeated n).groups = n := by
  induction n with
  | zero => rfl
  | succ n ih =>
    rw [repeated, groups, ih, Items.groups, groups, groups]
    omega

theorem Sequence.chars_repeated (n : Nat) :
    (repeated n).chars = (List.replicate n ['\x7b', 'a', '\x7d']).flatten := by
  induction n with
  | zero => rfl
  | succ n ih =>
    rw [repeated, chars, ih, List.replicate_succ, List.flatten_cons]
    rfl

theorem Sequence.texts_repeated (n : Nat) : (repeated n).texts = [List.replicate n 'a'] := by
  have hitem : (Items.last (.literal 'a' .nil)).texts = [['a']] := by decide +kernel
  induction n with
  | zero => rfl
  | succ n ih =>
    rw [repeated, texts, ih, hitem, List.replicate_succ]
    rfl

theorem repeated_not_expanded :
    (Sequence.repeated 1500).chars = (List.replicate 1500 ['\x7b', 'a', '\x7d']).flatten ∧
      (Sequence.repeated 1500).isProper false = true ∧
      (Sequence.repeated 1500).texts = [List.replicate 1500 'a'] ∧
      ¬ ∃ expansions,
        (Config.patternOf (.text (Sequence.repeated 1500).text)).map expandBraces = .ok expansions ∧
          ∀ expanded, expanded ∈ expansions ↔
            expanded.toList ∈ (Sequence.repeated 1500).texts := by
  refine ⟨Sequence.chars_repeated 1500, Sequence.isProper_repeated 1500,
    Sequence.texts_repeated 1500, ?_⟩
  rintro ⟨expansions, h, -⟩
  rw [Sequence.patternOf_text (Sequence.isProper_repeated 1500), Sequence.groups_repeated,
    if_neg (by decide)] at h
  cases h

end Repeated

end Expansions

end BuildScripts.Glob

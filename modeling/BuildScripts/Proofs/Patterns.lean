import BuildScripts.Config.File
import BuildScripts.Proofs.Glob

namespace BuildScripts

open Glob

def Value.texts? : Value → Option (List String)
  | .list items => items.mapM fun v => match v with
    | .text s => some s
    | _ => none
  | _ => none

theorem Value.eq_texts {v : Value} {texts : List String} (h : v.texts? = some texts) :
    v = .texts texts := by
  cases v with
  | list items =>
    rw [Value.texts?] at h
    rw [Value.texts]
    congr 1
    induction items generalizing texts with
    | nil =>
      cases h
      rfl
    | cons item items ih =>
      simp only [List.mapM_cons, bind, pure, Option.bind_eq_some_iff] at h
      obtain ⟨s, hs, rest, hrest, htexts⟩ := h
      cases item with
      | text s' =>
        cases hs
        cases htexts
        rw [List.map_cons, ← ih hrest]
      | _ => cases hs
  | _ => cases h

namespace Config

variable {env : Environment} {c : Config} {doc : Value}

theorem patterns_of_ofDocument (h : ofDocument doc = .ok c) :
    c.included = (doc.member? "include").getD (.texts defaultIncluded) ∧
      c.excluded = (doc.member? "exclude").getD (.texts fallbackExcluded) := by
  cases doc with
  | map entries =>
    simp only [ofDocument, valueOr, bind, Except.bind, pure, Except.pure] at h
    repeat' split at h
    all_goals cases h
    exact ⟨rfl, rfl⟩
  | _ => cases h

theorem patterns_of_ofValue (h : ofValue env doc = .ok c) :
    c.included = (doc.member? "include").getD (.texts defaultIncluded) ∧
      c.excluded = (doc.member? "exclude").getD (.texts fallbackExcluded) := by
  rw [ofValue] at h
  cases hc : ofDocument doc with
  | error f => simp [hc, Except.map] at h
  | ok c' =>
    rw [hc, Except.map, Except.ok.injEq] at h
    subst h
    have hpatterns := patterns_of_ofDocument hc
    exact hpatterns

def initialPatterns? : Option (List String × List String) := do
  let doc ← (Yaml.read initialDocument).toOption.filter Value.truthy
  let included ← (doc.member? "include").bind Value.texts?
  let excluded ← (doc.member? "exclude").bind Value.texts?
  return (included, excluded)

theorem initialPatterns_eq : initialPatterns? = some (defaultIncluded, initialExcluded) := by
  -- The characters are given line by line, so that the document need not be decoded as a whole.
  rw [initialPatterns?, Yaml.read, Yaml.root, Yaml.scan, initialDocument, String.toList_intercalate]
  simp only [List.map_cons, List.map_nil, String.reduceToList]
  decide +kernel

/-- The configurations whose patterns are built in, with what they exclude: the default one, what
the initial document describes, and a document that includes what is included anyway and does not
say what is excluded. -/
inductive BuiltIn (env : Environment) : Config → List String → Prop
  | default : BuiltIn env (default env) initialExcluded
  | initial {c : Config} : ofText env initialDocument = .ok c → BuiltIn env c initialExcluded
  | document {c : Config} {doc : Value} : ofValue env doc = .ok c →
    c.included = .texts defaultIncluded → doc.member? "exclude" = none →
    BuiltIn env c fallbackExcluded

theorem patterns_of_initial (h : ofText env initialDocument = .ok c) :
    c.included = .texts defaultIncluded ∧ c.excluded = .texts initialExcluded := by
  have hpatterns := initialPatterns_eq
  simp only [initialPatterns?, bind, pure, Option.bind_eq_some_iff, Option.some.injEq,
    Prod.mk.injEq] at hpatterns
  obtain ⟨doc, hdoc, included, ⟨v, hv, hvTexts⟩, excluded, ⟨w, hw, hwTexts⟩, rfl, rfl⟩ := hpatterns
  obtain ⟨hread, htruthy⟩ := Option.filter_eq_some_iff.1 hdoc
  cases hresult : Yaml.read initialDocument with
  | error f =>
    rw [hresult] at hread
    cases hread
  | ok doc' =>
    rw [hresult] at hread
    cases hread
    rw [ofText, hresult] at h
    change ofValue env (if doc.truthy then doc else .map []) = .ok c at h
    rw [if_pos htruthy] at h
    rw [(patterns_of_ofValue h).1, (patterns_of_ofValue h).2, hv, hw, Option.getD_some,
      Option.getD_some, Value.eq_texts hvTexts, Value.eq_texts hwTexts]
    exact ⟨rfl, rfl⟩

theorem BuiltIn.patterns {excluded : List String} (h : c.BuiltIn env excluded) :
    c.included = .texts defaultIncluded ∧ c.excluded = .texts excluded := by
  cases h with
  | default => exact ⟨rfl, rfl⟩
  | initial h => exact patterns_of_initial h
  | document h hinc hexc =>
    refine ⟨hinc, ?_⟩
    rw [(patterns_of_ofValue h).2, hexc, Option.getD_none]

theorem patternsOf_texts {patterns : List String}
    (h : ∀ pattern ∈ patterns, isTooDeep pattern = false) :
    patternsOf (.texts patterns) = .ok patterns := by
  rw [Value.texts, patternsOf]
  induction patterns with
  | nil => rfl
  | cons pattern patterns ih =>
    obtain ⟨hp, hps⟩ := List.forall_mem_cons.1 h
    rw [List.map_cons, List.mapM_cons, ih hps, patternOf, hp]
    rfl

theorem patternsOf_texts_of_tooDeep {patterns : List String}
    (h : ∃ pattern ∈ patterns, isTooDeep pattern = true) :
    patternsOf (.texts patterns) = .error .tooDeep := by
  rw [Value.texts, patternsOf]
  induction patterns with
  | nil => simp at h
  | cons pattern patterns ih =>
    rw [List.map_cons, List.mapM_cons, patternOf]
    cases hp : isTooDeep pattern with
    | true => rfl
    | false =>
      obtain ⟨deep, hmem, hdeep⟩ := h
      have hrest : deep ∈ patterns := (List.mem_cons.1 hmem).resolve_left fun heq => by
        rw [heq, hp] at hdeep
        cases hdeep
      rw [ih ⟨deep, hrest, hdeep⟩]
      rfl

theorem bars_of_mem (names roots : List String)
    (hn : ∀ name ∈ names ++ roots, IsPlain name.toList ∧ Slashless name) :
    ∀ pattern ∈ names.map insideAny ++ roots.map below, Bars pattern := by
  intro pattern hmem
  rcases List.mem_append.1 hmem with hmem | hmem
  · obtain ⟨name, hname, rfl⟩ := List.mem_map.1 hmem
    have h := hn name (List.mem_append_left _ hname)
    exact .insideAny h.1 h.2
  · obtain ⟨name, hname, rfl⟩ := List.mem_map.1 hmem
    have h := hn name (List.mem_append_right _ hname)
    exact .below h.1 h.2

theorem bars_of_initialExcluded : ∀ pattern ∈ initialExcluded, Bars pattern := by
  have hsub : initialExcluded ⊆ [".git", ".venv", "__pycache__", ".pytest_cache", ".scriptforge",
      "node_modules", "dist", "build"].map insideAny ++ [".scriptforge"].map below := by
    decide +kernel
  exact fun pattern hmem => bars_of_mem _ _ (by decide +kernel) pattern (hsub hmem)

theorem bars_of_fallbackExcluded : ∀ pattern ∈ fallbackExcluded, Bars pattern :=
  bars_of_mem [".git", ".venv", ".scriptforge"] [] (by decide +kernel)

theorem BuiltIn.bars {excluded : List String} (h : c.BuiltIn env excluded) :
    ∀ pattern ∈ excluded, Bars pattern := by
  cases h with
  | document _ _ _ => exact bars_of_fallbackExcluded
  | _ => exact bars_of_initialExcluded

theorem BuiltIn.patternsOf_excluded {excluded : List String} (h : c.BuiltIn env excluded) :
    patternsOf (.texts excluded) = .ok excluded := by
  apply patternsOf_texts
  cases h with
  | document _ _ _ => decide +kernel
  | _ => decide +kernel

def scriptEndings : List String :=
  [".csx", ".py", ".build"]

theorem expand_included (pattern : String) : (∃ p ∈ defaultIncluded, pattern ∈ expandBraces p) ↔
    ∃ ending ∈ scriptEndings, pattern = "*" ++ ending ∨ pattern = "**/*" ++ ending := by
  have hroot : expandBraces "*.\x7bcsx,py,build\x7d" = ["*.csx", "*.py", "*.build"] := by
    decide +kernel
  have hbelow : expandBraces "**/*.\x7bcsx,py,build\x7d" =
      ["**/*.csx", "**/*.py", "**/*.build"] := by
    decide +kernel
  simp only [defaultIncluded, scriptEndings, List.exists_mem_cons_iff, hroot, hbelow]
  simp only [List.mem_cons, List.not_mem_nil, or_false, false_and, exists_const,
    String.reduceAppend]
  tauto

end Config

end BuildScripts

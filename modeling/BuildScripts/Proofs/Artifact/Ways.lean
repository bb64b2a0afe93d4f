import BuildScripts.Artifact.Resolver
import BuildScripts.Proofs.Artifact.Names
import BuildScripts.Proofs.Attempts
import Mathlib.Data.List.Induction

/-!
The ways a lookup of a reference can go, each with what the foreign code does on the way. Main
statement: every lookup goes one of these ways, and ends as that way does.
-/

namespace BuildScripts

open Attempt
open EStateM (Result)

namespace Interpreter

variable {σ ω α : Type} {I : Interpreter σ ω} {d : Disk} {token : String}

section Asking

variable (I : Interpreter σ ω)

inductive Answers (x : ω) (name : String) (s : σ) : Result Fault σ (Option ω) → Prop
  | found {y : ω} {t : σ} (h : I.lookUp x name s = .ok y t) : Answers x name s (.ok (some y) t)
  | missing {raised : Fault} {t : σ} (h : I.lookUp x name s = .error raised t)
      (ha : raised.isAttributeError = true) : Answers x name s (.ok none t)
  | fails {raised : Fault} {t : σ} (h : I.lookUp x name s = .error raised t)
      (ha : raised.isAttributeError = false) : Answers x name s (.error raised t)

/-- The name of the module in which an object is defined: the one that the object reports, if that is
not empty, and else the one of the module from which it has been reached. -/
inductive Reports (base reached : ω) (s : σ) : Result Fault σ ω → Prop
  | own {name : ω} {t u : σ} (hx : I.Answers reached "__module__" s (.ok (some name) t))
      (ht : I.isTrue name t = .ok true u) : Reports base reached s (.ok name u)
  | empty {name : ω} {t u : σ} {r : Result Fault σ ω}
      (hx : I.Answers reached "__module__" s (.ok (some name) t))
      (ht : I.isTrue name t = .ok false u) (hn : I.lookUp base "__name__" u = r) :
      Reports base reached s r
  | missing {t : σ} {r : Result Fault σ ω} (hx : I.Answers reached "__module__" s (.ok none t))
      (hn : I.lookUp base "__name__" t = r) : Reports base reached s r
  | unanswered {raised : Fault} {t : σ}
      (hx : I.Answers reached "__module__" s (.error raised t)) :
      Reports base reached s (.error raised t)
  | unjudged {name : ω} {raised : Fault} {t u : σ}
      (hx : I.Answers reached "__module__" s (.ok (some name) t))
      (ht : I.isTrue name t = .error raised u) : Reports base reached s (.error raised u)

/-- The module whose file is the answer: the one that has been reached, or the one that the reached
object reports, loaded or imported, or the one from which it has been reached. -/
inductive Defines (base reached : ω) (s : σ) : Result Fault σ ω → Prop
  | module {t : σ} (hm : I.isModule reached s = .ok true t) : Defines base reached s (.ok reached t)
  | loaded {name x : ω} {t u v : σ} (hm : I.isModule reached s = .ok false t)
      (hn : I.Reports base reached t (.ok name u)) (hl : I.loaded? name u = .ok (some x) v) :
      Defines base reached s (.ok x v)
  | imported {name x : ω} {t u v w : σ} (hm : I.isModule reached s = .ok false t)
      (hn : I.Reports base reached t (.ok name u)) (hl : I.loaded? name u = .ok none v)
      (hx : I.importModule name v = .ok x w) : Defines base reached s (.ok x w)
  | notImportable {name : ω} {raised : Fault} {t u v w : σ}
      (hm : I.isModule reached s = .ok false t) (hn : I.Reports base reached t (.ok name u))
      (hl : I.loaded? name u = .ok none v) (hx : I.importModule name v = .error raised w)
      (he : raised.isException = true) : Defines base reached s (.ok base w)
  | unjudged {raised : Fault} {t : σ} (hm : I.isModule reached s = .error raised t) :
      Defines base reached s (.error raised t)
  | unreported {raised : Fault} {t u : σ} (hm : I.isModule reached s = .ok false t)
      (hn : I.Reports base reached t (.error raised u)) : Defines base reached s (.error raised u)
  | unsought {name : ω} {raised : Fault} {t u v : σ} (hm : I.isModule reached s = .ok false t)
      (hn : I.Reports base reached t (.ok name u)) (hl : I.loaded? name u = .error raised v) :
      Defines base reached s (.error raised v)
  | ended {name : ω} {raised : Fault} {t u v w : σ} (hm : I.isModule reached s = .ok false t)
      (hn : I.Reports base reached t (.ok name u)) (hl : I.loaded? name u = .ok none v)
      (hx : I.importModule name v = .error raised w) (he : raised.isException = false) :
      Defines base reached s (.error raised w)

inductive FileOf (d : Disk) (x : ω) (s : σ) : Result Fault σ String → Prop
  | builtIn {t : σ} (hx : I.Answers x "__file__" s (.ok none t)) :
      FileOf d x s (.ok I.executable t)
  | empty {file : ω} {t u : σ} (hx : I.Answers x "__file__" s (.ok (some file) t))
      (ht : I.isTrue file t = .ok false u) : FileOf d x s (.ok I.executable u)
  | own {file : ω} {text : String} {full : Path} {t u v : σ}
      (hx : I.Answers x "__file__" s (.ok (some file) t)) (ht : I.isTrue file t = .ok true u)
      (hp : I.pathText file u = .ok text v) (hd : d.resolve (Path.ofText text) = .ok full) :
      FileOf d x s (.ok full.toText v)
  | unanswered {raised : Fault} {t : σ} (hx : I.Answers x "__file__" s (.error raised t)) :
      FileOf d x s (.error raised t)
  | unjudged {file : ω} {raised : Fault} {t u : σ}
      (hx : I.Answers x "__file__" s (.ok (some file) t)) (ht : I.isTrue file t = .error raised u) :
      FileOf d x s (.error raised u)
  | noPath {file : ω} {raised : Fault} {t u v : σ}
      (hx : I.Answers x "__file__" s (.ok (some file) t)) (ht : I.isTrue file t = .ok true u)
      (hp : I.pathText file u = .error raised v) : FileOf d x s (.error raised v)
  | unresolved {file : ω} {text : String} {f : Fault} {t u v : σ}
      (hx : I.Answers x "__file__" s (.ok (some file) t)) (ht : I.isTrue file t = .ok true u)
      (hp : I.pathText file u = .ok text v) (hd : d.resolve (Path.ofText text) = .error f) :
      FileOf d x s (.error f v)

variable {I} {x base reached name : ω} {n : String} {s : σ}

theorem Answers.run {r : Result Fault σ (Option ω)} (h : I.Answers x n s r) :
    I.lookUp? x n s = r := by
  rw [lookUp?]
  cases h with
  | found h => exact tryCatch_of_ok (map_of_ok h)
  | missing h ha =>
    rw [tryCatch_of_error (map_of_error h), ha]
    rfl
  | fails h ha =>
    rw [tryCatch_of_error (map_of_error h), ha]
    rfl

theorem answers (I : Interpreter σ ω) (x : ω) (n : String) (s : σ) : ∃ r, I.Answers x n s r := by
  cases h : I.lookUp x n s with
  | ok y t => exact ⟨_, .found h⟩
  | error raised t =>
    cases ha : raised.isAttributeError with
    | true => exact ⟨_, .missing h ha⟩
    | false => exact ⟨_, .fails h ha⟩

theorem Reports.run {r : Result Fault σ ω} (h : I.Reports base reached s r) :
    I.definingName base reached s = r := by
  rw [definingName]
  cases h with
  | own hx ht =>
    rw [bind_of_ok hx.run]
    exact bind_of_ok ht
  | empty hx ht hn =>
    rw [bind_of_ok hx.run]
    exact (bind_of_ok ht).trans hn
  | missing hx hn =>
    rw [bind_of_ok hx.run]
    exact hn
  | unanswered hx => exact bind_of_error hx.run
  | unjudged hx ht =>
    rw [bind_of_ok hx.run]
    exact bind_of_error ht

theorem reports (I : Interpreter σ ω) (base reached : ω) (s : σ) :
    ∃ r, I.Reports base reached s r := by
  obtain ⟨⟨_ | name, t⟩ | ⟨raised, t⟩, hx⟩ := I.answers reached "__module__" s
  · exact ⟨_, .missing hx rfl⟩
  · rcases ht : I.isTrue name t with ⟨_ | _, u⟩ | ⟨raised, u⟩
    · exact ⟨_, .empty hx ht rfl⟩
    · exact ⟨_, .own hx ht⟩
    · exact ⟨_, .unjudged hx ht⟩
  · exact ⟨_, .unanswered hx⟩

theorem definingModule_of_reports {t u : σ} (hm : I.isModule reached s = .ok false t)
    (hn : I.Reports base reached t (.ok name u)) :
    I.definingModule base reached s = I.moduleNamed base name u := by
  rw [definingModule, bind_of_ok hm]
  exact bind_of_ok hn.run

theorem moduleNamed_of_loaded {t : σ} (hl : I.loaded? name s = .ok (some x) t) :
    I.moduleNamed base name s = .ok x t :=
  bind_of_ok hl

theorem moduleNamed_of_imported {t u : σ} (hl : I.loaded? name s = .ok none t)
    (hx : I.importModule name t = .ok x u) : I.moduleNamed base name s = .ok x u := by
  rw [moduleNamed, bind_of_ok hl]
  exact tryCatch_of_ok hx

theorem moduleNamed_of_raised {raised : Fault} {t u : σ} (hl : I.loaded? name s = .ok none t)
    (hx : I.importModule name t = .error raised u) : I.moduleNamed base name s =
      if raised.isException then .ok base u else .error raised u := by
  rw [moduleNamed, bind_of_ok hl]
  refine (tryCatch_of_error hx).trans ?_
  cases raised.isException <;> rfl

theorem Defines.run {r : Result Fault σ ω} (h : I.Defines base reached s r) :
    I.definingModule base reached s = r := by
  cases h with
  | module hm => exact bind_of_ok hm
  | loaded hm hn hl =>
    rw [definingModule_of_reports hm hn, moduleNamed_of_loaded hl]
  | imported hm hn hl hx =>
    rw [definingModule_of_reports hm hn, moduleNamed_of_imported hl hx]
  | notImportable hm hn hl hx he =>
    rw [definingModule_of_reports hm hn, moduleNamed_of_raised hl hx, if_pos he]
  | unjudged hm => exact bind_of_error hm
  | unreported hm hn =>
    rw [definingModule, bind_of_ok hm]
    exact bind_of_error hn.run
  | unsought hm hn hl =>
    rw [definingModule_of_reports hm hn]
    exact bind_of_error hl
  | ended hm hn hl hx he =>
    rw [definingModule_of_reports hm hn, moduleNamed_of_raised hl hx, he]
    rfl

theorem defines (I : Interpreter σ ω) (base reached : ω) (s : σ) :
    ∃ r, I.Defines base reached s r := by
  rcases hm : I.isModule reached s with ⟨_ | _, t⟩ | ⟨raised, t⟩
  · obtain ⟨⟨name, u⟩ | ⟨raised, u⟩, hn⟩ := I.reports base reached t
    · rcases hl : I.loaded? name u with ⟨_ | x, v⟩ | ⟨raised, v⟩
      · rcases hx : I.importModule name v with ⟨x, w⟩ | ⟨raised, w⟩
        · exact ⟨_, .imported hm hn hl hx⟩
        · cases he : raised.isException with
          | true => exact ⟨_, .notImportable hm hn hl hx he⟩
          | false => exact ⟨_, .ended hm hn hl hx he⟩
      · exact ⟨_, .loaded hm hn hl⟩
      · exact ⟨_, .unsought hm hn hl⟩
    · exact ⟨_, .unreported hm hn⟩
  · exact ⟨_, .module hm⟩
  · exact ⟨_, .unjudged hm⟩

theorem location_of_path {file : ω} {text : String} {t u v : σ}
    (hx : I.Answers x "__file__" s (.ok (some file) t)) (ht : I.isTrue file t = .ok true u)
    (hp : I.pathText file u = .ok text v) : I.location d x s =
      Attempt.ofExcept ((d.resolve (Path.ofText text)).map Path.toText) v := by
  rw [location, bind_of_ok (hx.run)]
  refine (bind_of_ok ht).trans ?_
  exact bind_of_ok hp

theorem FileOf.run {r : Result Fault σ String} (h : I.FileOf d x s r) : I.location d x s = r := by
  cases h with
  | builtIn hx => exact bind_of_ok (hx.run)
  | empty hx ht =>
    rw [location, bind_of_ok (hx.run)]
    exact bind_of_ok ht
  | own hx ht hp hd =>
    rw [location_of_path hx ht hp, hd]
    rfl
  | unanswered hx => exact bind_of_error (hx.run)
  | unjudged hx ht =>
    rw [location, bind_of_ok (hx.run)]
    exact bind_of_error ht
  | noPath hx ht hp =>
    rw [location, bind_of_ok (hx.run)]
    refine (bind_of_ok ht).trans ?_
    exact bind_of_error hp
  | unresolved hx ht hp hd =>
    rw [location_of_path hx ht hp, hd]
    rfl

theorem fileOf (I : Interpreter σ ω) (d : Disk) (x : ω) (s : σ) : ∃ r, I.FileOf d x s r := by
  obtain ⟨⟨_ | file, t⟩ | ⟨raised, t⟩, hx⟩ := I.answers x "__file__" s
  · exact ⟨_, .builtIn hx⟩
  · rcases ht : I.isTrue file t with ⟨_ | _, u⟩ | ⟨raised, u⟩
    · exact ⟨_, .empty hx ht⟩
    · rcases hp : I.pathText file u with ⟨text, v⟩ | ⟨raised, v⟩
      · rcases hd : d.resolve (Path.ofText text) with f | full
        · exact ⟨_, .unresolved hx ht hp hd⟩
        · exact ⟨_, .own hx ht hp hd⟩
      · exact ⟨_, .noPath hx ht hp⟩
    · exact ⟨_, .unjudged hx ht⟩
  · exact ⟨_, .unanswered hx⟩

end Asking

section Prefixes

variable (I : Interpreter σ ω)

/-- The prefixes of the first parts that are longer than the second raise import errors, the longest
first. -/
inductive GivesUp : List String → List String → σ → σ → Prop
  | refl (front : List String) (s : σ) : GivesUp front front s s
  | shorter {before front : List String} {last : String} {s t u : σ} {raised : Fault}
      (h : I.importModule (I.text (dotted (before ++ [last]))) s = .error raised t)
      (himport : raised.isImportError = true) (hrest : GivesUp before front t u) :
      GivesUp (before ++ [last]) front s u

variable {I} {parts front rest dropped : List String} {s t : σ} {x : ω} {raised : Fault}

theorem GivesUp.parts_eq (h : I.GivesUp parts front s t) : ∃ rest, parts = front ++ rest := by
  induction h with
  | refl front s => exact ⟨[], (List.append_nil front).symm⟩
  | @shorter before front last s t u raised _ _ _ ih =>
    obtain ⟨rest, rfl⟩ := ih
    exact ⟨rest ++ [last], List.append_assoc _ _ _⟩

theorem exists_givesUp (I : Interpreter σ ω) (parts : List String) (s : σ) :
    (∃ t, I.GivesUp parts [] s t) ∨
      ∃ front rest t, parts = front ++ rest ∧ front ≠ [] ∧ I.GivesUp parts front s t ∧
        ∀ raised u, I.importModule (I.text (dotted front)) t = .error raised u →
          raised.isImportError = false := by
  induction parts using List.reverseRecOn generalizing s with
  | nil => exact .inl ⟨s, .refl [] s⟩
  | append_singleton before last ih =>
    by_cases h : ∃ raised t, I.importModule (I.text (dotted (before ++ [last]))) s =
        .error raised t ∧ raised.isImportError = true
    · obtain ⟨raised, t, hx, himport⟩ := h
      rcases ih t with ⟨u, hall⟩ | ⟨front, rest, u, rfl, hne, hall, hstop⟩
      · exact .inl ⟨u, .shorter hx himport hall⟩
      · exact .inr ⟨front, rest ++ [last], u, List.append_assoc _ _ _, hne,
          .shorter hx himport hall, hstop⟩
    · refine .inr ⟨before ++ [last], [], s, (List.append_nil _).symm, by simp, .refl _ s, ?_⟩
      intro raised t hx
      exact Bool.eq_false_iff.2 fun himport => h ⟨raised, t, hx, himport⟩

theorem longest_append (before : List String) (last : String) (dropped : List String) :
    I.longest token (before ++ [last]).reverse dropped = (do
      let candidate := dotted (before ++ [last])
      match ← catching (I.importModule (I.text candidate)) with
      | .ok module => return ⟨module, dropped⟩
      | .error raised =>
        if raised.isImportError then I.longest token before.reverse (last :: dropped)
        else if raised.isException then I.importFailed token candidate raised
        else throw raised) := by
  have hparts : before ++ [last] = (last :: before.reverse).reverse := by
    rw [List.reverse_cons, List.reverse_reverse]
  rw [hparts, List.reverse_reverse]
  rfl

theorem longest_of_givesUp (h : I.GivesUp parts front s t) (hparts : parts = front ++ rest)
    (dropped : List String) : I.longest token parts.reverse dropped s =
      I.longest token front.reverse (rest ++ dropped) t := by
  induction h generalizing rest dropped with
  | refl front s =>
    obtain rfl : rest = [] := by simpa using hparts
    rfl
  | @shorter before front last s t u raised hx himport hrest ih =>
    obtain ⟨more, rfl⟩ := hrest.parts_eq
    obtain rfl : rest = more ++ [last] := by simpa [eq_comm] using hparts
    rw [longest_append, bind_of_ok (catching_of_error hx)]
    simp only [himport, if_true]
    rw [ih rfl, List.append_assoc]
    rfl

end Prefixes

section Attributes

variable (I : Interpreter σ ω)

inductive Steps : ω → List String → ω → σ → σ → Prop
  | nil (x : ω) (s : σ) : Steps x [] x s s
  | cons {x y z : ω} {name : String} {names : List String} {s t u : σ}
      (h : I.lookUp x name s = .ok y t) (hrest : Steps y names z t u) :
      Steps x (name :: names) z s u

variable {I} {x y : ω} {name : String} {names rest : List String} {s t u : σ} {raised : Fault}

theorem exists_steps (I : Interpreter σ ω) (x : ω) (names : List String) (s : σ) :
    (∃ y t, I.Steps x names y s t) ∨
      ∃ before name after y raised t u, names = before ++ name :: after ∧
        I.Steps x before y s t ∧ I.lookUp y name t = .error raised u := by
  induction names generalizing x s with
  | nil => exact .inl ⟨x, s, .nil x s⟩
  | cons name names ih =>
    cases hx : I.lookUp x name s with
    | error raised t => exact .inr ⟨[], name, names, x, raised, s, t, rfl, .nil x s, hx⟩
    | ok y t =>
      rcases ih y t with ⟨z, u, h⟩ | ⟨before, n, after, z, raised, u, v, rfl, h, hlast⟩
      · exact .inl ⟨z, u, .cons hx h⟩
      · exact .inr ⟨name :: before, n, after, z, raised, u, v, rfl, .cons hx h, hlast⟩

theorem follow_of_ok (h : I.lookUp x name s = .ok y t) :
    I.follow token x (name :: rest) s = I.follow token y rest t := by
  rw [follow, bind_of_ok (catching_of_ok h)]

theorem follow_of_steps (h : I.Steps x names y s t) :
    I.follow token x (names ++ rest) s = I.follow token y rest t := by
  induction h with
  | nil => rfl
  | cons h _ ih => rw [List.cons_append, follow_of_ok h, ih]

theorem Steps.follow (h : I.Steps x names y s t) (token : String) :
    I.follow token x names s = .ok y t := by
  have hrun : I.follow token x (names ++ []) s = I.follow token y [] t := follow_of_steps h
  rwa [List.append_nil] at hrun

theorem follow_of_error (h : I.lookUp x name s = .error raised t) :
    I.follow token x (name :: rest) s =
      (if raised.isAttributeError then unresolvable token (Text.quoted name ++ " not found")
      else if raised.isException then do
        let text ← I.shown raised
        unresolvable token ("looking up " ++ Text.quoted name ++ " failed: " ++ text)
      else throw raised : Attempt σ ω) t := by
  rw [follow, bind_of_ok (catching_of_error h)]

end Attributes

section Outcome

variable (I : Interpreter σ ω)

def Qualified (token : String) : Prop :=
  ∀ part ∈ dottedParts token, Text.isIdentifier part = true

structure Candidate (token : String) (s : σ) (front rest : List String) (t : σ) : Prop where
  parts : dottedParts token = front ++ rest
  ne : front ≠ []
  givesUp : I.GivesUp (dottedParts token) front s t

inductive Starts (token : String) (s : σ) : ω → List String → σ → Prop
  | intro {front rest : List String} {x : ω} {t u : σ} (hc : I.Candidate token s front rest t)
      (hx : I.importModule (I.text (dotted front)) t = .ok x u) : Starts token s x rest u

inductive Breaks (token : String) (s : σ) : String → Fault → σ → Prop
  | intro {front rest : List String} {raised : Fault} {t u : σ}
      (hc : I.Candidate token s front rest t)
      (hx : I.importModule (I.text (dotted front)) t = .error raised u)
      (himport : raised.isImportError = false) : Breaks token s (dotted front) raised u

inductive Reaches (token : String) (s : σ) : ω → ω → σ → Prop
  | intro {base reached : ω} {rest : List String} {t u : σ} (hs : I.Starts token s base rest t)
      (hsteps : I.Steps base rest reached t u) : Reaches token s base reached u

inductive Misses (token : String) (s : σ) : String → Fault → σ → Prop
  | intro {base next : ω} {before after : List String} {name : String} {raised : Fault} {t u v : σ}
      (hs : I.Starts token s base (before ++ name :: after) t)
      (hsteps : I.Steps base before next t u) (hx : I.lookUp next name u = .error raised v) :
      Misses token s name raised v

/-- What comes out of a lookup in place of its own report, and where: what is raised by an import, by
an attribute or when either is quoted, when the defining module is asked for, and when its file is. -/
inductive Leaks (d : Disk) (token : String) (s : σ) : Fault → σ → Prop
  | importing {name : String} {raised : Fault} {t : σ} (h : I.Breaks token s name raised t)
      (he : raised.isException = false) : Leaks d token s raised t
  | quotingImport {name : String} {raised other : Fault} {t u : σ}
      (h : I.Breaks token s name raised t) (he : raised.isException = true)
      (hq : I.shown raised t = .error other u) (hl : other.isLookupError = false) :
      Leaks d token s other u
  | tellingImport {name : String} {raised other third : Fault} {t u v : σ}
      (h : I.Breaks token s name raised t) (he : raised.isException = true)
      (hq : I.shown raised t = .error other u) (hl : other.isLookupError = true)
      (ht : I.told other u = .error third v) : Leaks d token s third v
  | following {name : String} {raised : Fault} {t : σ} (h : I.Misses token s name raised t)
      (ha : raised.isAttributeError = false) (he : raised.isException = false) :
      Leaks d token s raised t
  | quotingLookup {name : String} {raised other : Fault} {t u : σ}
      (h : I.Misses token s name raised t) (ha : raised.isAttributeError = false)
      (he : raised.isException = true) (hq : I.shown raised t = .error other u) :
      Leaks d token s other u
  | defining {base reached : ω} {raised : Fault} {t u : σ} (h : I.Reaches token s base reached t)
      (hd : I.Defines base reached t (.error raised u)) : Leaks d token s raised u
  | locating {base reached x : ω} {f : Fault} {t u v : σ} (h : I.Reaches token s base reached t)
      (hd : I.Defines base reached t (.ok x u)) (hf : I.FileOf d x u (.error f v)) :
      Leaks d token s f v

/-- The ways of a lookup, each with what it ends in. -/
inductive Outcome (d : Disk) (token : String) (s : σ) : Result Fault σ String → Prop
  | unqualified (hq : ¬ Qualified token) :
      Outcome d token s (.error (.unresolvable ⟨token, none, "not a qualified name"⟩) s)
  | nothing {t : σ} (hq : Qualified token) (h : I.GivesUp (dottedParts token) [] s t) :
      Outcome d token s (.error
        (.unresolvable ⟨token, none, "no importable module in " ++ Text.quoted token⟩) t)
  | broken {name text : String} {raised : Fault} {t u : σ} (hq : Qualified token)
      (h : I.Breaks token s name raised t) (he : raised.isException = true)
      (ht : I.shown raised t = .ok text u) : Outcome d token s (.error
        (.unresolvable ⟨token, none, "importing " ++ name ++ " failed: " ++ text⟩) u)
  | unquoted {name text : String} {raised other : Fault} {t u v : σ} (hq : Qualified token)
      (h : I.Breaks token s name raised t) (he : raised.isException = true)
      (hs : I.shown raised t = .error other u) (hl : other.isLookupError = true)
      (ht : I.told other u = .ok text v) :
      Outcome d token s (.error (.unresolvable ⟨token, none, text⟩) v)
  | missing {name : String} {raised : Fault} {t : σ} (hq : Qualified token)
      (h : I.Misses token s name raised t) (ha : raised.isAttributeError = true) :
      Outcome d token s (.error
        (.unresolvable ⟨token, none, Text.quoted name ++ " not found"⟩) t)
  | failing {name text : String} {raised : Fault} {t u : σ} (hq : Qualified token)
      (h : I.Misses token s name raised t) (ha : raised.isAttributeError = false)
      (he : raised.isException = true) (ht : I.shown raised t = .ok text u) :
      Outcome d token s (.error (.unresolvable
        ⟨token, none, "looking up " ++ Text.quoted name ++ " failed: " ++ text⟩) u)
  | located {base reached x : ω} {file : String} {t u v : σ} (hq : Qualified token)
      (h : I.Reaches token s base reached t) (hd : I.Defines base reached t (.ok x u))
      (hf : I.FileOf d x u (.ok file v)) : Outcome d token s (.ok file v)
  | leaks {f : Fault} {t : σ} (hq : Qualified token) (h : I.Leaks d token s f t) :
      Outcome d token s (.error f t)

variable {I} {base reached x : ω} {front rest : List String} {name : String} {raised : Fault}
  {s t u : σ} {r : Result Fault σ String}

theorem resolve_of_qualified (hq : Qualified token) : I.resolve d token s =
    (I.longest token (dottedParts token).reverse [] >>= fun found =>
      I.follow token found.module found.attributes >>= fun reached =>
        I.definingModule found.module reached >>= fun module =>
          I.location d module) s := by
  rw [resolve, if_pos (List.all_eq_true.2 hq)]

theorem Candidate.longest (h : I.Candidate token s front rest t) :
    ∃ before last, front = before ++ [last] ∧
      I.longest token (dottedParts token).reverse [] s =
        I.longest token (before ++ [last]).reverse rest t := by
  obtain ⟨before, last, rfl⟩ := (List.eq_nil_or_concat' front).resolve_left h.ne
  refine ⟨before, last, rfl, ?_⟩
  rw [longest_of_givesUp h.givesUp h.parts, List.append_nil]

theorem Starts.longest (h : I.Starts token s base rest t) :
    I.longest token (dottedParts token).reverse [] s = .ok ⟨base, rest⟩ t := by
  obtain ⟨hc, hx⟩ := h
  obtain ⟨before, last, rfl, hlongest⟩ := hc.longest
  rw [hlongest, longest_append]
  exact bind_of_ok (catching_of_ok hx)

theorem Breaks.longest (h : I.Breaks token s name raised t) :
    I.longest token (dottedParts token).reverse [] s =
      (if raised.isException then I.importFailed token name raised
      else throw raised : Attempt σ (Longest ω)) t := by
  obtain ⟨hc, hx, himport⟩ := h
  obtain ⟨before, last, rfl, hlongest⟩ := hc.longest
  rw [hlongest, longest_append]
  refine (bind_of_ok (catching_of_error hx)).trans ?_
  simp only [himport, Bool.false_eq_true, if_false]

theorem resolve_of_breaks (hq : Qualified token) (h : I.Breaks token s name raised t) {f : Fault}
    (hf : (if raised.isException then I.importFailed token name raised
      else throw raised : Attempt σ (Longest ω)) t = .error f u) :
    I.resolve d token s = .error f u := by
  rw [resolve_of_qualified hq]
  exact bind_of_error (h.longest.trans hf)

theorem resolve_of_misses (hq : Qualified token) (h : I.Misses token s name raised t) {f : Fault}
    (hf : (if raised.isAttributeError then unresolvable token (Text.quoted name ++ " not found")
      else if raised.isException then do
        let text ← I.shown raised
        unresolvable token ("looking up " ++ Text.quoted name ++ " failed: " ++ text)
      else throw raised : Attempt σ ω) t = .error f u) :
    I.resolve d token s = .error f u := by
  obtain ⟨hs, hsteps, hx⟩ := h
  rw [resolve_of_qualified hq, bind_of_ok hs.longest]
  apply bind_of_error
  dsimp only
  rw [follow_of_steps hsteps, follow_of_error hx, hf]

theorem resolve_of_reaches (hq : Qualified token) (h : I.Reaches token s base reached t) :
    I.resolve d token s = (I.definingModule base reached >>= I.location d) t := by
  obtain ⟨hs, hsteps⟩ := h
  rw [resolve_of_qualified hq, bind_of_ok hs.longest]
  exact bind_of_ok (hsteps.follow token)

theorem resolve_of_defines (hq : Qualified token) (h : I.Reaches token s base reached t)
    (hd : I.Defines base reached t (.ok x u)) (hf : I.FileOf d x u r) :
    I.resolve d token s = r := by
  rw [resolve_of_reaches hq h, bind_of_ok hd.run]
  exact hf.run

theorem importFailed_of_unshown {other : Fault} (hs : I.shown raised t = .error other u) :
    (I.importFailed token name raised : Attempt σ α) t =
      (if other.isLookupError then do
        let text ← I.told other
        unresolvable token text
      else throw other : Attempt σ α) u := by
  rw [importFailed, bind_of_ok (catching_of_error hs)]

theorem Leaks.run {f : Fault} (hq : Qualified token) (h : I.Leaks d token s f t) :
    I.resolve d token s = .error f t := by
  cases h with
  | importing h he =>
    refine resolve_of_breaks hq h ?_
    rw [he]
    rfl
  | quotingImport h he hs hl =>
    refine resolve_of_breaks hq h ?_
    rw [if_pos he, importFailed_of_unshown hs, hl]
    rfl
  | tellingImport h he hs hl ht =>
    refine resolve_of_breaks hq h ?_
    rw [if_pos he, importFailed_of_unshown hs, if_pos hl]
    exact bind_of_error ht
  | following h ha he =>
    refine resolve_of_misses hq h ?_
    rw [ha, he]
    rfl
  | quotingLookup h ha he hs =>
    refine resolve_of_misses hq h ?_
    rw [ha, if_neg Bool.false_ne_true, if_pos he]
    exact bind_of_error hs
  | defining h hd =>
    rw [resolve_of_reaches hq h]
    exact bind_of_error hd.run
  | locating h hd hf => exact resolve_of_defines hq h hd hf

theorem Outcome.run (h : I.Outcome d token s r) : I.resolve d token s = r := by
  cases h with
  | unqualified hq =>
    rw [resolve, if_neg (fun hall => hq (List.all_eq_true.1 hall))]
    rfl
  | nothing hq h =>
    rw [resolve_of_qualified hq]
    exact bind_of_error (longest_of_givesUp h (List.nil_append _).symm [])
  | broken hq h he ht =>
    refine resolve_of_breaks hq h ?_
    rw [if_pos he]
    exact bind_of_ok (catching_of_ok ht)
  | unquoted hq h he hs hl ht =>
    refine resolve_of_breaks hq h ?_
    rw [if_pos he, importFailed_of_unshown hs, if_pos hl]
    exact bind_of_ok ht
  | missing hq h ha =>
    refine resolve_of_misses hq h ?_
    rw [if_pos ha]
    rfl
  | failing hq h ha he ht =>
    refine resolve_of_misses hq h ?_
    rw [ha, if_neg Bool.false_ne_true, if_pos he]
    exact bind_of_ok ht
  | located hq h hd hf => exact resolve_of_defines hq h hd hf
  | leaks hq h => exact h.run hq

theorem exists_outcome_of_breaks (hq : Qualified token) (h : I.Breaks token s name raised t) :
    ∃ r, I.Outcome d token s r := by
  cases he : raised.isException with
  | false => exact ⟨_, .leaks hq (.importing h he)⟩
  | true =>
    rcases hs : I.shown raised t with ⟨text, u⟩ | ⟨other, u⟩
    · exact ⟨_, .broken hq h he hs⟩
    · cases hl : other.isLookupError with
      | false => exact ⟨_, .leaks hq (.quotingImport h he hs hl)⟩
      | true =>
        rcases ht : I.told other u with ⟨text, v⟩ | ⟨third, v⟩
        · exact ⟨_, .unquoted hq h he hs hl ht⟩
        · exact ⟨_, .leaks hq (.tellingImport h he hs hl ht)⟩

theorem exists_outcome_of_misses (hq : Qualified token) (h : I.Misses token s name raised t) :
    ∃ r, I.Outcome d token s r := by
  cases ha : raised.isAttributeError with
  | true => exact ⟨_, .missing hq h ha⟩
  | false =>
    cases he : raised.isException with
    | false => exact ⟨_, .leaks hq (.following h ha he)⟩
    | true =>
      rcases hs : I.shown raised t with ⟨text, u⟩ | ⟨other, u⟩
      · exact ⟨_, .failing hq h ha he hs⟩
      · exact ⟨_, .leaks hq (.quotingLookup h ha he hs)⟩

theorem exists_outcome_of_reaches (hq : Qualified token) (h : I.Reaches token s base reached t) :
    ∃ r, I.Outcome d token s r := by
  obtain ⟨⟨x, u⟩ | ⟨raised, u⟩, hd⟩ := I.defines base reached t
  · obtain ⟨⟨file, v⟩ | ⟨f, v⟩, hf⟩ := I.fileOf d x u
    · exact ⟨_, .located hq h hd hf⟩
    · exact ⟨_, .leaks hq (.locating h hd hf)⟩
  · exact ⟨_, .leaks hq (.defining h hd)⟩

theorem exists_outcome (I : Interpreter σ ω) (d : Disk) (token : String) (s : σ) :
    ∃ r, I.Outcome d token s r := by
  by_cases hq : Qualified token
  · rcases I.exists_givesUp (dottedParts token) s with
      ⟨t, hall⟩ | ⟨front, rest, t, hparts, hne, hall, hstop⟩
    · exact ⟨_, .nothing hq hall⟩
    · have hc : I.Candidate token s front rest t := ⟨hparts, hne, hall⟩
      cases hx : I.importModule (I.text (dotted front)) t with
      | error raised u => exact exists_outcome_of_breaks hq ⟨hc, hx, hstop raised u hx⟩
      | ok base u =>
        rcases I.exists_steps base rest u with
          ⟨reached, v, hsteps⟩ | ⟨before, name, after, next, raised, v, w, rfl, hsteps, hlast⟩
        · exact exists_outcome_of_reaches hq ⟨⟨hc, hx⟩, hsteps⟩
        · exact exists_outcome_of_misses hq ⟨⟨hc, hx⟩, hsteps, hlast⟩
  · exact ⟨_, .unqualified hq⟩

theorem resolve_eq_iff : I.resolve d token s = r ↔ I.Outcome d token s r := by
  constructor
  · rintro rfl
    obtain ⟨r, h⟩ := I.exists_outcome d token s
    rwa [h.run]
  · exact Outcome.run

end Outcome

end Interpreter

end BuildScripts

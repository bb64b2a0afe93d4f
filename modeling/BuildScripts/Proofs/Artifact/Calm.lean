import BuildScripts.Proofs.Artifact.Resolving

/-!
Interpreters whose foreign code raises only where its exceptions are caught. Main statement: declared
modules are such an interpreter if nothing in them asks for the end of the program, no object fails to
say what it is or where it is defined other than by not knowing, and every module's file has a full
path.
-/

namespace BuildScripts

open Attempt

section Tame

variable {σ ω α : Type}

abbrev Never (S : σ → Prop) (x : Attempt σ α) (P : α → Prop) : Prop :=
  Runs S (fun _ => False) x P

/-- From the states `S`, and for the objects `O`, the modules `M`, the names of modules `N` and the
files of modules `F`, nothing is raised but failures of imports and lookups. -/
structure Interpreter.Tame (I : Interpreter σ ω) (d : Disk) (S : σ → Prop) (O M N F : ω → Prop) :
    Prop where
  text : ∀ name, N (I.text name)
  object : ∀ x, M x → O x
  importModule : ∀ x, N x → Runs S (·.isException = true) (I.importModule x) M
  lookUp : ∀ x name, O x → Runs S (·.isException = true) (I.lookUp x name) O
  shown : ∀ raised, Never S (I.shown raised) fun _ => True
  isModule : ∀ x, O x → Never S (I.isModule x) fun is => is = true ↔ M x
  reported : ∀ x, O x → ¬ M x →
    Runs S (·.isAttributeError = true) (I.lookUp x "__module__") N
  named : ∀ x, M x → Never S (I.lookUp x "__name__") N
  isTrue : ∀ x, N x ∨ F x → Never S (I.isTrue x) fun _ => True
  loaded? : ∀ x, N x → Never S (I.loaded? x) fun found => ∀ y ∈ found, M y
  file : ∀ x, M x → Runs S (·.isAttributeError = true) (I.lookUp x "__file__") F
  pathText : ∀ x, F x → Never S (I.pathText x) fun text =>
    ∃ full, d.resolve (Path.ofText text) = .ok full

end Tame

variable {d : Disk}

def CalmNames (failing : List (String × Raised)) : Prop :=
  ∀ e ∈ failing, e.2.isException = true ∧
    (e.1 = "__module__" ∨ e.1 = "__class__" → e.2.isAttributeError = true)

structure Handler.Calm (h : Handler) : Prop where
  exception : ∀ name, (h.raises name).isException = true
  file : (h.raises "__file__").isAttributeError = true

mutual

def Binding.Calm : Binding → Prop
  | .module _ => True
  | .object _ failing attributes => CalmNames failing ∧ CalmBindings attributes
  | .value v => v.isHashable = true

def CalmBindings : List (String × Binding) → Prop
  | [] => True
  | (_, b) :: rest => b.Calm ∧ CalmBindings rest

end

mutual

def Held.Calm : Held → Prop
  | .module _ => True
  | .object _ failing attributes => CalmNames failing ∧ CalmHeld attributes
  | .value v => v.isHashable = true

def CalmHeld : List (String × Held) → Prop
  | [] => True
  | (_, held) :: rest => held.Calm ∧ CalmHeld rest

end

def Held.IsModule (x : Held) : Prop :=
  ∃ id, x = .module id

def HasFullPath (d : Disk) (file : String) : Prop :=
  ∃ full, d.resolve (Path.ofText file) = .ok full

def Held.IsFile (d : Disk) (x : Held) : Prop :=
  ∃ file, x = .value (.text file) ∧ HasFullPath d file

theorem Held.calm_module (id : Nat) : (Held.module id).Calm := by
  rw [Held.Calm]
  trivial

theorem CalmHeld.lookup {es : List (String × Held)} {name : String} {held : Held}
    (h : CalmHeld es) (hl : es.lookup name = some held) : held.Calm := by
  induction es with
  | nil => cases hl
  | cons e rest ih =>
    obtain ⟨n, x⟩ := e
    rw [CalmHeld] at h
    by_cases hn : name = n
    · simp only [List.lookup_cons, hn, beq_self_eq_true, Option.some.injEq] at hl
      exact hl ▸ h.1
    · have hb : (name == n) = false := by simpa using hn
      rw [List.lookup_cons, hb] at hl
      exact ih h.2 hl

theorem CalmHeld.setName {es : List (String × Held)} {held : Held} (h : CalmHeld es)
    (hh : held.Calm) (name : String) : CalmHeld (Imports.setName name held es) := by
  induction es with
  | nil =>
    rw [Imports.setName, CalmHeld]
    exact ⟨hh, h⟩
  | cons e rest ih =>
    obtain ⟨n, x⟩ := e
    rw [CalmHeld] at h
    rw [Imports.setName]
    split
    · rw [CalmHeld]
      exact ⟨hh, h.2⟩
    · rw [CalmHeld]
      exact ⟨h.1, ih h.2⟩

structure Declaration.Calm (d : Disk) (decl : Declaration) : Prop where
  failure : ∀ raised ∈ decl.failure, raised.isException = true
  lookupFailure : ∀ handler ∈ decl.lookupFailure, handler.Calm
  attributes : CalmBindings decl.attributes
  unbound : ∀ e ∈ decl.attributes, e.1 ≠ "__file__"
  file : ∀ file ∈ decl.file, HasFullPath d file

structure Loaded.Calm (d : Disk) (o : Loaded) : Prop where
  lookupFailure : ∀ handler ∈ o.lookupFailure, handler.Calm
  attributes : CalmHeld o.attributes
  unbound : o.attributes.lookup "__file__" = none
  file : ∀ file ∈ o.file, HasFullPath d file

structure Universe.Calm (u : Universe) (d : Disk) : Prop where
  declaration : ∀ name decl, u.lookup name = some decl → decl.Calm d
  last : ∀ name decl, u.lookup name = some decl → (dottedParts name).getLast? ≠ some "__file__"

namespace Imports

variable {m : Imports}

def Calm (m : Imports) (d : Disk) : Prop :=
  ∀ o ∈ m.objects, o.Calm d

theorem calm_empty (d : Disk) : empty.Calm d := by
  intro o ho
  cases ho

theorem Calm.bind (h : m.Calm d) {held : Held} (hh : held.Calm) (id : Nat) {name : String}
    (hname : name ≠ "__file__") : (m.bind id name held).Calm d := by
  intro o ho
  obtain ⟨i, hi⟩ := List.mem_iff_getElem?.1 ho
  rw [getElem?_bind] at hi
  split at hi
  · obtain ⟨o₀, ho₀, rfl⟩ := Option.map_eq_some_iff.1 hi
    have hcalm := h o₀ (List.mem_of_getElem? ho₀)
    refine ⟨hcalm.lookupFailure, hcalm.attributes.setName hh name, ?_, hcalm.file⟩
    rw [lookup_setName, if_neg hname.symm]
    exact hcalm.unbound
  · exact h o (List.mem_of_getElem? hi)

theorem Calm.begin (h : m.Calm d) {decl : Declaration} (hdecl : decl.Calm d) (name : String) :
    (m.begin_ name decl).1.Calm d := by
  intro o ho
  rcases List.mem_append.1 ho with ho | ho
  · exact h o ho
  · rw [List.mem_singleton.1 ho]
    exact ⟨hdecl.lookupFailure, by rw [Declaration.begun, CalmHeld]; trivial, rfl, hdecl.file⟩

theorem Calm.forget (h : m.Calm d) (name : String) : (m.forget name).Calm d := h

theorem Calm.object (h : m.Calm d) (id : Nat) : (m.object id).Calm d := by
  rw [Imports.object, List.getD_eq_getElem?_getD]
  cases ho : m.objects[id]? with
  | some o => exact h o (List.mem_of_getElem? ho)
  | none =>
    refine ⟨by simp, ?_, rfl, by simp⟩
    rw [Option.getD_none, CalmHeld]
    trivial

end Imports

namespace Loaded

variable {o : Loaded} {name : String} {held : Held}

theorem calm_inherent (h : o.inherent? name = some held) : held.Calm := by
  unfold inherent? at h
  split at h
  case h_5 | h_6 | h_7 =>
    obtain ⟨file, -, rfl⟩ := Option.map_eq_some_iff.1 h
    rw [Held.Calm]
    rfl
  case h_8 | h_9 =>
    split at h
    · cases h
      rw [Held.Calm]
      rfl
    · cases h
  case h_1 =>
    cases h
    rw [Held.Calm]
    rfl
  all_goals
    cases h
    rw [Held.Calm, CalmHeld]
    exact ⟨by simp [CalmNames], trivial⟩

theorem Calm.lookUp_ok (h : o.Calm d) (hx : o.lookUp name = .ok held) : held.Calm := by
  cases hl : o.attributes.lookup name with
  | some x =>
    rw [lookUp_of_bound hl] at hx
    cases hx
    exact h.attributes.lookup hl
  | none =>
    rw [lookUp_of_unbound hl] at hx
    split at hx
    · rename_i hi
      cases hx
      exact calm_inherent hi
    · cases hx

theorem lookUp_eq_error {raised : Raised} (hx : o.lookUp name = .error raised) :
    raised = o.refusal name := by
  rw [lookUp] at hx
  split at hx <;> cases hx
  rfl

theorem Calm.refusal (h : o.Calm d) (name : String) : (o.refusal name).isException = true := by
  rw [Loaded.refusal]
  split
  · rename_i handler hf
    exact (h.lookupFailure handler hf).exception name
  · decide

theorem Calm.lookUp_error (h : o.Calm d) {raised : Raised} (hx : o.lookUp name = .error raised) :
    raised.isException = true :=
  lookUp_eq_error hx ▸ h.refusal name

theorem Calm.lookUp_file (h : o.Calm d) : match o.lookUp "__file__" with
    | .ok held => held.IsFile d
    | .error raised => raised.isAttributeError = true := by
  rw [lookUp_of_unbound h.unbound]
  have hinherent : o.inherent? "__file__" = o.file.map fun file => .value (.text file) := rfl
  rw [hinherent]
  cases hf : o.file with
  | some file => exact ⟨file, rfl, h.file file hf⟩
  | none =>
    dsimp only [Option.map_none]
    rw [Loaded.refusal]
    split
    · rename_i handler hhandler
      exact (h.lookupFailure handler hhandler).file
    · decide

end Loaded

theorem Imports.Calm.refusesChildren? {m : Imports} (h : m.Calm d) {name : String} {raised : Raised}
    (hx : m.refusesChildren? name = some raised) : raised.isException = true := by
  rw [Imports.refusesChildren?] at hx
  split at hx
  · cases hx
    rfl
  · rename_i id _
    rw [Loaded.refusesChildren?] at hx
    split at hx
    · cases hx
    · rename_i other hother
      rw [Option.some.injEq] at hx
      subst hx
      split
      · decide
      · exact (h.object id).lookUp_error hother

abbrev RunsCalm {α : Type} (d : Disk) (x : Importing α) (P : α → Prop) : Prop :=
  Runs (·.Calm d) (fun raised : Raised => raised.isException = true) x P

namespace Importing

variable {u : Universe} {importing : String → Importing Nat}

theorem notImportable_isException : notImportable.isException = true := by
  decide

mutual

theorem calm_hold (hi : ∀ name, RunsCalm d (importing name) fun _ => True) (b : Binding)
    (hb : b.Calm) : RunsCalm d (hold importing b) Held.Calm := by
  cases b with
  | module name =>
    rw [hold]
    apply (hi name).bind
    intro id _
    apply Runs.pure
    rw [Held.Calm]
    trivial
  | object definedIn failing attributes =>
    rw [Binding.Calm] at hb
    rw [hold]
    apply (calm_holdAll hi attributes hb.2).bind
    intro held hheld
    apply Runs.pure
    rw [Held.Calm]
    exact ⟨hb.1, hheld⟩
  | value v =>
    rw [Binding.Calm] at hb
    rw [hold]
    apply Runs.pure
    rw [Held.Calm]
    exact hb

theorem calm_holdAll (hi : ∀ name, RunsCalm d (importing name) fun _ => True)
    (bs : List (String × Binding)) (hbs : CalmBindings bs) :
    RunsCalm d (holdAll importing bs) CalmHeld := by
  cases bs with
  | nil =>
    rw [holdAll]
    apply Runs.pure
    rw [CalmHeld]
    trivial
  | cons e rest =>
    obtain ⟨name, b⟩ := e
    rw [CalmBindings] at hbs
    rw [holdAll]
    apply (calm_hold hi b hbs.1).bind
    intro held hheld
    apply (calm_holdAll hi rest hbs.2).bind
    intro others hothers
    apply Runs.pure
    rw [CalmHeld]
    exact ⟨hheld, hothers⟩

end

section Making

variable (hi : ∀ name, RunsCalm d (importing name) fun _ => True)
include hi

theorem calm_bindAll (id : Nat) (bs : List (String × Binding)) (hbs : CalmBindings bs)
    (hfile : ∀ e ∈ bs, e.1 ≠ "__file__") :
    RunsCalm d (bindAll importing id bs) fun _ => True := by
  induction bs with
  | nil => exact .pure trivial
  | cons e rest ih =>
    obtain ⟨name, b⟩ := e
    rw [CalmBindings] at hbs
    rw [bindAll]
    apply (calm_hold hi b hbs.1).bind
    intro held hheld
    have hname : name ≠ "__file__" := hfile (name, b) (by simp)
    apply (Runs.modify fun m hm => hm.bind hheld id hname).bind
    intro _ _
    exact ih hbs.2 fun e he => hfile e (List.mem_cons_of_mem _ he)

theorem calm_execute (name : String) {decl : Declaration} (hdecl : decl.Calm d) :
    RunsCalm d (execute importing name decl) fun _ => True := by
  rw [execute]
  apply Runs.get.bind
  intro m hm
  have hbegin := hm.begin hdecl name
  generalize m.begin_ name decl = begun at hbegin ⊢
  obtain ⟨m₁, id⟩ := begun
  apply Runs.bind (Runs.set (I := fun m : Imports => m.Calm d) hbegin)
  intro _ _
  apply Runs.bind (P := fun _ => True)
  · apply Runs.tryCatch
    · split
      · rename_i raised hf
        exact .throw (hdecl.failure raised hf)
      · exact calm_bindAll hi _ decl.attributes hdecl.attributes hdecl.unbound
    · intro raised hraised
      apply Runs.bind (Runs.modify fun m hm => hm.forget name)
      intro _ _
      exact .throw hraised
  · intro _ _
    exact .pure trivial

theorem calm_importInParent (hu : u.Calm d) (last : String) (parents : List String)
    (hparts : Undotted (last :: parents)) :
    RunsCalm d (importInParent u importing last parents) fun _ => True := by
  rw [importInParent]
  apply Runs.get.bind
  intro m hm
  dsimp only
  split
  · exact .pure trivial
  · apply Runs.get.bind
    intro m₁ hm₁
    split
    · rename_i raised hrefused
      apply Runs.throw
      split at hrefused
      · cases hrefused
      · exact hm₁.refusesChildren? hrefused
    · split
      · exact .throw notImportable_isException
      · rename_i decl hl
        have hlast : last ≠ "__file__" := by
          have hne := hu.last _ decl hl
          rw [dottedParts_dotted hparts.reverse (by simp)] at hne
          simpa using hne
        apply (calm_execute hi _ (hu.declaration _ decl hl)).bind
        intro id _
        apply Runs.get.bind
        intro m₂ _
        split
        · rename_i holder _
          split
          · exact .pure trivial
          · apply Runs.bind (Runs.modify fun m₃ hm₃ =>
              hm₃.bind (Held.calm_module id) holder hlast)
            intro _ _
            exact .pure trivial
        · exact .pure trivial

theorem calm_importParts (hu : u.Calm d) (parts : List String) (hparts : Undotted parts) :
    RunsCalm d (importParts u importing parts) fun _ => True := by
  induction parts with
  | nil => exact .throw notImportable_isException
  | cons last parents ih =>
    have hin := calm_importInParent hi hu last parents hparts
    intro m hm
    cases hn : m.find? (dotted (last :: parents).reverse) with
    | some id =>
      rw [importParts_of_found hn]
      exact ⟨trivial, hm⟩
    | none =>
      by_cases hp : parents = []
      · subst hp
        rw [importParts_of_top hn]
        exact hin m hm
      · rw [importParts_of_parents hn hp]
        exact ((ih hparts.tail).bind fun _ _ => hin) m hm

end Making

theorem calm_importWithin (hu : u.Calm d) (depth : Nat) (name : String) :
    RunsCalm d (importWithin u depth name) fun _ => True := by
  induction depth generalizing name with
  | zero => exact .throw notImportable_isException
  | succ depth ih => exact calm_importParts ih hu _ (undotted_dottedParts name).reverse

theorem calm_importModule (hu : u.Calm d) (name : String) :
    RunsCalm d (importModule u name) fun _ => True :=
  calm_importWithin hu _ name

end Importing

namespace Library

variable {lib : Library} {m : Imports} {x : Held} {raised : Raised}

theorem mem_of_lookup {α : Type} {es : List (String × α)} {name : String} {y : α}
    (h : es.lookup name = some y) : (name, y) ∈ es := by
  obtain ⟨before, after, rfl, -⟩ := List.lookup_eq_some_iff.1 h
  simp

theorem calm_lookUp_ok (hm : m.Calm d) (hx : x.Calm) {name : String} {y : Held}
    (h : m.lookUp x name = .ok y) : y.Calm := by
  cases x with
  | module id => exact (hm.object id).lookUp_ok h
  | object definedIn failing attributes =>
    rw [Held.Calm] at hx
    simp only [Imports.lookUp] at h
    split at h
    · cases h
    split at h
    · rename_i hl
      cases h
      exact hx.2.lookup hl
    · split at h <;> cases h
      rw [Held.Calm]
      rfl
    · cases h
  | value v => cases h

theorem calm_lookUp_error (hm : m.Calm d) (hx : x.Calm) {name : String}
    (h : m.lookUp x name = .error raised) : raised.isException = true ∧
      (¬ x.IsModule → name = "__module__" ∨ name = "__class__" →
        raised.isAttributeError = true) := by
  cases x with
  | module id => exact ⟨(hm.object id).lookUp_error h, fun hno => absurd ⟨id, rfl⟩ hno⟩
  | object definedIn failing attributes =>
    have hmissing : noSuchAttribute.isException = true ∧ (¬ Held.IsModule
        (.object definedIn failing attributes) → name = "__module__" ∨ name = "__class__" →
          noSuchAttribute.isAttributeError = true) := ⟨by decide, fun _ _ => by decide⟩
    rw [Held.Calm] at hx
    simp only [Imports.lookUp] at h
    split at h
    · rename_i hf
      cases h
      obtain ⟨hexception, hknown⟩ := hx.1 _ (mem_of_lookup hf)
      exact ⟨hexception, fun _ hname => hknown hname⟩
    split at h
    · cases h
    · split at h <;> cases h
      exact hmissing
    · cases h
      exact hmissing
  | value v =>
    cases h
    exact ⟨by decide, fun _ _ => by decide⟩

theorem calm_nameError (hm : m.Calm d) (hx : x.Calm) : (m.nameError x).isException = true := by
  rw [Imports.nameError]
  split
  · decide
  · rename_i raised h
    exact (calm_lookUp_error hm hx h).1

theorem calm_import (hu : lib.modules.Calm d) (hx : x.Calm) :
    RunsCalm d (lib.importModule x) Held.IsModule := by
  by_cases hno : ∀ name, x ≠ .value (.text name)
  · intro m hm
    rw [importModule_of_not_text hno]
    exact ⟨calm_nameError hm hx, hm⟩
  · obtain ⟨name, rfl⟩ : ∃ name, x = .value (.text name) := by simpa using hno
    intro m hm
    by_cases hp : Plain name
    · rw [importModule_text hp]
      have hrun := Importing.calm_importModule hu name m hm
      cases hi : Importing.importModule lib.modules name m with
      | ok id m' =>
        rw [hi] at hrun
        rw [map_of_ok hi]
        exact ⟨⟨id, rfl⟩, hrun.2⟩
      | error raised m' =>
        rw [hi] at hrun
        rw [map_of_error hi]
        exact hrun
    · obtain ⟨raised, he, -, hall⟩ := lib.importModule_of_not_plain hp
      rw [hall m]
      exact ⟨he, hm⟩

theorem runs_asking {α : Type} {S : Imports → Prop} {F : Fault → Prop} {P : α → Prop}
    {f : Imports → Except Raised α} (hok : ∀ m, S m → ∀ a, f m = .ok a → P a)
    (herror : ∀ m, S m → ∀ raised, f m = .error raised → F (.raised raised)) :
    Runs S F (asking f) P := by
  intro m hm
  cases h : f m with
  | ok a =>
    rw [asking_of_ok h]
    exact ⟨hok m hm a h, hm⟩
  | error raised =>
    rw [asking_of_error h]
    exact ⟨herror m hm raised h, hm⟩

theorem calm_isModule (hm : m.Calm d) (hx : x.Calm) :
    ∃ is, m.isModule x = .ok is ∧ (is = true ↔ x.IsModule) := by
  by_cases hmodule : x.IsModule
  · obtain ⟨id, rfl⟩ := hmodule
    exact ⟨true, rfl, by simp [Held.IsModule]⟩
  · have hfalse : m.isModule x = .ok false := by
      cases x with
      | module id => exact absurd ⟨id, rfl⟩ hmodule
      | _ =>
        simp only [Imports.isModule]
        split
        · rfl
        · rename_i raised h
          rw [(calm_lookUp_error hm hx h).2 hmodule (.inr rfl), if_pos rfl]
    exact ⟨false, hfalse, by simp [hmodule]⟩

theorem calm_loaded? (hx : x.Calm) :
    ∃ found, m.loaded? x = .ok found ∧ ∀ y ∈ found, y.IsModule := by
  cases x with
  | value v =>
    rw [Held.Calm] at hx
    cases v with
    | text name =>
      refine ⟨_, rfl, fun y hy => ?_⟩
      obtain ⟨id, -, rfl⟩ := Option.map_eq_some_iff.1 hy
      exact ⟨id, rfl⟩
    | _ => exact ⟨none, by simp only [Imports.loaded?, hx, if_true], by simp⟩
  | _ => exact ⟨none, rfl, by simp⟩

theorem tame (lib : Library) (hu : lib.modules.Calm d) :
    lib.interpreter.Tame d (·.Calm d) Held.Calm Held.IsModule
    Held.Calm (Held.IsFile d) where
  text name := by
    change Held.Calm (.value (.text name))
    rw [Held.Calm]
    rfl
  object := by
    rintro x ⟨id, rfl⟩
    exact Held.calm_module id
  importModule x hx := (calm_import hu hx).ofForeign fun _ h => h
  lookUp x name hx := runs_asking (fun m hm y h => calm_lookUp_ok hm hx h)
    fun m hm raised h => (calm_lookUp_error hm hx h).1
  shown raised := .pure trivial
  isModule x hx := by
    intro m hm
    obtain ⟨is, hrun, his⟩ := calm_isModule hm hx
    have hask : lib.interpreter.isModule x m = .ok is m :=
      asking_of_ok (f := fun m : Imports => m.isModule x) hrun
    rw [hask]
    exact ⟨his, hm⟩
  reported x hx hno := runs_asking (fun m hm y h => calm_lookUp_ok hm hx h)
    fun m hm raised h => (calm_lookUp_error hm hx h).2 hno (.inl rfl)
  named := by
    rintro x ⟨id, rfl⟩
    apply runs_asking
    · exact fun m hm y h => (hm.object id).lookUp_ok h
    · intro m hm raised h
      have hnamed : ∃ held, (m.object id).lookUp "__name__" = .ok held := by
        cases hl : (m.object id).attributes.lookup "__name__" with
        | some held => exact ⟨held, Loaded.lookUp_of_bound hl⟩
        | none => exact ⟨_, Loaded.lookUp_of_unbound hl⟩
      obtain ⟨held, hok⟩ := hnamed
      rw [Imports.lookUp, hok] at h
      cases h
  isTrue x _ := .pure trivial
  loaded? x hx := by
    intro m hm
    obtain ⟨found, hrun, hfound⟩ := calm_loaded? (m := m) hx
    rw [loaded?_of_ok hrun]
    exact ⟨hfound, hm⟩
  file := by
    rintro x ⟨id, rfl⟩
    apply runs_asking
    · intro m hm y h
      have hfile := (hm.object id).lookUp_file
      rw [Imports.lookUp] at h
      rwa [h] at hfile
    · intro m hm raised h
      have hfile := (hm.object id).lookUp_file
      rw [Imports.lookUp] at h
      rwa [h] at hfile
  pathText := by
    rintro x ⟨file, rfl, hfull⟩
    intro m hm
    have hrun : lib.interpreter.pathText (.value (.text file)) m = .ok file m := pathText_of_ok rfl
    rw [hrun]
    exact ⟨hfull, hm⟩

end Library

end BuildScripts

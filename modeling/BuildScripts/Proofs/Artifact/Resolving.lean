import BuildScripts.Proofs.Artifact.Importing
import BuildScripts.Proofs.Artifact.Ways

/-!
References in an orderly universe. Main statement: a reference that has been resolved is resolved to
the same file ever after, whatever is imported in between.
-/

namespace BuildScripts

open Attempt
open Imports (Extends Follows)

variable {α β : Type} {u : Universe} {m m' m₁ m₂ : Imports}

/-- From these imports on the run only imports. Where it succeeds its result is as it should be, and it
succeeds alike from any imports that have grown out of those that it leaves. -/
structure Repeats (u : Universe) (x : Attempt Imports α) (m : Imports)
    (P : α → Imports → Prop) : Prop where
  ok : ∀ a m', x m = .ok a m' → m'.Follows u ∧ Extends [] m m' ∧ P a m'
  error : ∀ e m', x m = .error e m' → m'.Follows u ∧ Extends [] m m'
  again : ∀ a m₁ m₂, x m = .ok a m₁ → m₂.Follows u → Extends [] m₁ m₂ →
    ∃ m₃, x m₂ = .ok a m₃ ∧ m₃.Follows u ∧ Extends [] m₂ m₃

namespace Repeats

variable {x y : Attempt Imports α} {P : α → Imports → Prop} {Q : β → Imports → Prop}

theorem of_error {e : Fault} (hm : m'.Follows u) (hext : Extends [] m m') (h : x m = .error e m') :
    Repeats u x m P where
  ok a m₁ hx := by
    rw [h] at hx
    cases hx
  error e' m₁ hx := by
    rw [h] at hx
    cases hx
    exact ⟨hm, hext⟩
  again a m₁ m₂ hx := by
    rw [h] at hx
    cases hx

theorem of_ok {a : α} (h : x m = .ok a m') (hm : m'.Follows u) (hext : Extends [] m m')
    (ha : P a m') (hagain : ∀ m₂, m₂.Follows u → Extends [] m' m₂ →
      ∃ m₃, x m₂ = .ok a m₃ ∧ m₃.Follows u ∧ Extends [] m₂ m₃) : Repeats u x m P where
  ok b m₁ hx := by
    rw [h] at hx
    cases hx
    exact ⟨hm, hext, ha⟩
  error e m₁ hx := by
    rw [h] at hx
    cases hx
  again b m₁ m₂ hx hm₂ hext₂ := by
    rw [h] at hx
    cases hx
    exact hagain m₂ hm₂ hext₂

theorem pure {a : α} (hm : m.Follows u) (ha : P a m) :
    Repeats u (Pure.pure a : Attempt Imports α) m P :=
  of_ok rfl hm (.refl _ m) ha fun m₂ hm₂ _ => ⟨m₂, rfl, hm₂, .refl _ m₂⟩

theorem bind {f : α → Attempt Imports β} (hx : Repeats u x m P)
    (hf : ∀ a m₁, m₁.Follows u → Extends [] m m₁ → P a m₁ → Repeats u (f a) m₁ Q) :
    Repeats u (x >>= f) m Q := by
  cases h : x m with
  | error e m₁ =>
    obtain ⟨hm₁, hext⟩ := hx.error e m₁ h
    exact of_error hm₁ hext (bind_of_error h)
  | ok a m₁ =>
    obtain ⟨hm₁, hext, ha⟩ := hx.ok a m₁ h
    have hrest := hf a m₁ hm₁ hext ha
    have hrun : (x >>= f) m = f a m₁ := bind_of_ok h
    cases h' : f a m₁ with
    | error e m₂ =>
      obtain ⟨hm₂, hext₂⟩ := hrest.error e m₂ h'
      exact of_error hm₂ (hext.trans hext₂) (hrun.trans h')
    | ok b m₂ =>
      obtain ⟨hm₂, hext₂, hb⟩ := hrest.ok b m₂ h'
      refine of_ok (hrun.trans h') hm₂ (hext.trans hext₂) hb fun m₃ hm₃ hext₃ => ?_
      obtain ⟨m₄, hx₄, hm₄, hext₄⟩ := hx.again a m₁ m₃ h hm₃ (hext₂.trans hext₃)
      obtain ⟨m₅, hx₅, hm₅, hext₅⟩ := hrest.again b m₂ m₄ h' hm₄ (hext₃.trans hext₄)
      exact ⟨m₅, (bind_of_ok hx₄).trans hx₅, hm₅, hext₄.trans hext₅⟩

theorem congr (hm : m.Follows u) (hy : Repeats u y m P)
    (h : ∀ m', m'.Follows u → Extends [] m m' → x m' = y m') : Repeats u x m P := by
  have hxy := h m hm (.refl _ m)
  constructor
  · intro a m₁ hx
    exact hy.ok a m₁ (hxy ▸ hx)
  · intro e m₁ hx
    exact hy.error e m₁ (hxy ▸ hx)
  · intro a m₁ m₂ hx hm₂ hext
    rw [hxy] at hx
    rw [h m₂ hm₂ ((hy.ok a m₁ hx).2.1.trans hext)]
    exact hy.again a m₁ m₂ hx hm₂ hext

theorem after (hx : Repeats u x m P) :
    (x.after m).Follows u ∧ Extends [] m (x.after m) := by
  cases h : x m with
  | ok a m₁ =>
    obtain ⟨hm₁, hext, -⟩ := hx.ok a m₁ h
    rw [after_of_ok h]
    exact ⟨hm₁, hext⟩
  | error f m₁ =>
    rw [after_of_error h]
    exact hx.error f m₁ h

end Repeats

section LookUp

variable {held next : Held} {o o' : Loaded} {name : String} {raised : Raised}

theorem isInherent_of_inherent? (h : o.inherent? name = some held) : isInherent name = true := by
  unfold Loaded.inherent? at h
  split at h
  case h_9 =>
    split at h
    · rename_i hc
      simp only [isInherent, hc, Bool.or_true]
    · cases h
  all_goals rfl

theorem Loaded.Same.inherent? (h : o.Same o') (name : String) :
    o'.inherent? name = o.inherent? name := by
  simp only [Loaded.inherent?, h.name, h.file, h.isPackage]

theorem Loaded.Same.refusal (h : o.Same o') (name : String) : o'.refusal name = o.refusal name := by
  simp only [Loaded.refusal, h.lookupFailure]

theorem Loaded.lookUp_of_bound (h : o.attributes.lookup name = some held) :
    o.lookUp name = .ok held := by
  rw [Loaded.lookUp, h, Option.some_or]

theorem Loaded.lookUp_of_unbound (h : o.attributes.lookup name = none) :
    o.lookUp name = match o.inherent? name with
      | some held => .ok held
      | none => .error (o.refusal name) := by
  cases hinherent : o.inherent? name with
  | some held => simp [Loaded.lookUp, h, hinherent]
  | none => simp [Loaded.lookUp, h, hinherent]

theorem Loaded.Keeps.lookUp (hk : o.Keeps o') (hs : o.Same o') (name : String) :
    o'.lookUp name = o.lookUp name ∨ isInherent name = false ∧
      o.lookUp name = .error (o.refusal name) ∧ ∃ held, o'.lookUp name = .ok held := by
  cases hl : o.attributes.lookup name with
  | some held =>
    rw [lookUp_of_bound hl, lookUp_of_bound (hk.bound name held hl)]
    exact .inl rfl
  | none =>
    cases hl' : o'.attributes.lookup name with
    | none =>
      rw [lookUp_of_unbound hl, lookUp_of_unbound hl', hs.inherent?, hs.refusal]
      exact .inl rfl
    | some held =>
      cases hi : isInherent name with
      | true =>
        rw [hk.fresh name hl hi] at hl'
        cases hl'
      | false =>
        have hnone : o.inherent? name = none := by
          rw [Option.eq_none_iff_forall_ne_some]
          intro x hx
          rw [isInherent_of_inherent? hx] at hi
          cases hi
        rw [lookUp_of_unbound hl, hnone, lookUp_of_bound hl']
        exact .inr ⟨rfl, rfl, held, rfl⟩

namespace Imports

theorem object_of_getElem? {id : Nat} (h : m.objects[id]? = some o) : m.object id = o := by
  rw [object, List.getD_eq_getElem?_getD, h, Option.getD_some]

theorem Extends.lookUp (hext : Extends [] m m') (hw : held.Within m.objects.length)
    (name : String) : m'.lookUp held name = m.lookUp held name ∨ isInherent name = false ∧
      ∃ raised next, m.lookUp held name = .error raised ∧ m'.lookUp held name = .ok next := by
  cases held with
  | module id =>
    rw [Held.Within] at hw
    have ho := List.getElem?_eq_getElem hw
    obtain ⟨o', ho', hs, hk⟩ := hext.objects id _ ho
    simp only [Imports.lookUp, object_of_getElem? ho, object_of_getElem? ho']
    rcases (hk List.not_mem_nil).lookUp hs name with h | ⟨hi, herror, next, hok⟩
    · exact .inl h
    · exact .inr ⟨hi, _, next, herror, hok⟩
  | object definedIn failing attributes => exact .inl rfl
  | value v => exact .inl rfl

theorem Extends.lookUp_ok (hext : Extends [] m m') (hw : held.Within m.objects.length)
    (h : m.lookUp held name = .ok next) : m'.lookUp held name = .ok next := by
  rcases hext.lookUp hw name with heq | ⟨-, raised, _, herror, -⟩
  · rw [heq, h]
  · rw [h] at herror
    cases herror

theorem Extends.lookUp_inherent (hext : Extends [] m m') (hw : held.Within m.objects.length)
    (hi : isInherent name = true) : m'.lookUp held name = m.lookUp held name := by
  rcases hext.lookUp hw name with heq | ⟨hno, -⟩
  · exact heq
  · rw [hi] at hno
    cases hno

theorem within_inherent (n : Nat) (h : o.inherent? name = some held) : held.Within n := by
  unfold Loaded.inherent? at h
  split at h
  case h_5 | h_6 | h_7 =>
    obtain ⟨file, -, rfl⟩ := Option.map_eq_some_iff.1 h
    simp only [Held.Within]
  case h_8 | h_9 =>
    split at h
    · cases h
      simp only [Held.Within]
    · cases h
  all_goals
    cases h
    simp only [Held.Within, AllWithin]

theorem within_of_lookUp (hm : m.HoldsOwn) (hw : held.Within m.objects.length)
    (h : m.lookUp held name = .ok next) : next.Within m.objects.length := by
  cases held with
  | module id =>
    rw [Held.Within] at hw
    have ho := List.getElem?_eq_getElem hw
    simp only [Imports.lookUp, object_of_getElem? ho] at h
    cases hl : (m.objects[id]).attributes.lookup name with
    | some x =>
      rw [Loaded.lookUp_of_bound hl] at h
      cases h
      exact hm id _ name next ho hl
    | none =>
      rw [Loaded.lookUp_of_unbound hl] at h
      split at h
      · rename_i hi
        cases h
        exact within_inherent _ hi
      · cases h
  | object definedIn failing attributes =>
    rw [Held.Within] at hw
    simp only [Imports.lookUp] at h
    split at h
    · cases h
    split at h
    · rename_i hl
      cases h
      exact hw.lookup hl
    · split at h <;> cases h
      simp only [Held.Within]
    · cases h
  | value v => cases h

end Imports

end LookUp

namespace Library

variable {lib : Library} {token name : String} {x y base reached : Held} {raised : Raised}

section Asking

variable {f : Imports → Except Raised α}

theorem asking_of_ok {a : α} (h : f m = .ok a) : asking f m = .ok a m := by
  rw [asking, Attempt.asking, h]
  rfl

theorem asking_of_error (h : f m = .error raised) : asking f m = .error (.raised raised) m := by
  rw [asking, Attempt.asking, h]
  rfl

theorem repeats_asking {P : α → Imports → Prop} (hm : m.Follows u) (hp : ∀ a, f m = .ok a → P a m)
    (h : ∀ a, f m = .ok a → ∀ m', Extends [] m m' → f m' = .ok a) :
    Repeats u (asking f) m P := by
  cases hf : f m with
  | error raised => exact .of_error hm (.refl _ m) (asking_of_error hf)
  | ok a =>
    refine .of_ok (asking_of_ok hf) hm (.refl _ m) (hp a hf) fun m₂ hm₂ hext => ?_
    exact ⟨m₂, asking_of_ok (h a hf m₂ hext), hm₂, .refl _ m₂⟩

theorem isModule_eq_true (h : m.isModule x = .ok true) : ∃ id, x = .module id := by
  cases x with
  | module id => exact ⟨id, rfl⟩
  | _ =>
    simp only [Imports.isModule] at h
    split at h
    · cases h
    · split at h <;> cases h

theorem lookUp_of_ok (h : m.lookUp x name = .ok y) : lib.interpreter.lookUp x name m = .ok y m :=
  asking_of_ok (f := fun m : Imports => m.lookUp x name) h

theorem lookUp_of_error (h : m.lookUp x name = .error raised) :
    lib.interpreter.lookUp x name m = .error (.raised raised) m :=
  asking_of_error (f := fun m : Imports => m.lookUp x name) h

theorem loaded?_of_ok {found : Option Held} (h : m.loaded? x = .ok found) :
    lib.interpreter.loaded? x m = .ok found m :=
  asking_of_ok (f := fun m : Imports => m.loaded? x) h

theorem loaded?_of_error (h : m.loaded? x = .error raised) :
    lib.interpreter.loaded? x m = .error (.raised raised) m :=
  asking_of_error (f := fun m : Imports => m.loaded? x) h

theorem pathText_of_ok {text : String} (h : x.pathText = .ok text) :
    lib.interpreter.pathText x m = .ok text m :=
  asking_of_ok (f := fun _ : Imports => x.pathText) h

theorem pathText_of_error (h : x.pathText = .error raised) :
    lib.interpreter.pathText x m = .error (.raised raised) m :=
  asking_of_error (f := fun _ : Imports => x.pathText) h

end Asking

abbrev There (x : Held) (m : Imports) : Prop :=
  x.Within m.objects.length

theorem There.mono (h : There x m) (hext : Extends [] m m') : There x m' :=
  Held.Within.mono h hext.length_le

theorem there_module {id : Nat} (hm : m.Follows u) (h : m.find? name = some id) :
    There (.module id) m := by
  obtain ⟨-, o, ho, -⟩ := hm.loaded name id h
  rw [There, Held.Within]
  exact Imports.lt_of_getElem? ho

section Import

structure Plain (name : String) : Prop where
  dotless : Text.beginsWith "." name = false
  nonempty : name.isEmpty = false

theorem importModule_text (hp : Plain name) : lib.importModule (.value (.text name)) =
    Held.module <$> Importing.importModule lib.modules name := by
  simp only [importModule, hp.dotless, hp.nonempty, Bool.false_eq_true, if_false]

theorem importModule_of_not_plain (lib : Library) (hp : ¬ Plain name) :
    ∃ raised : Raised, raised.isException = true ∧ raised.isImportError = false ∧
      ∀ m, lib.importModule (.value (.text name)) m = .error raised m := by
  cases hd : Text.beginsWith "." name with
  | true =>
    refine ⟨wrongType, by decide, by decide, fun m => ?_⟩
    simp only [importModule, hd, if_true]
    rfl
  | false =>
    cases he : name.isEmpty with
    | true =>
      refine ⟨⟨"ValueError", some "Empty module name"⟩, by decide, by decide, fun m => ?_⟩
      simp only [importModule, hd, he, Bool.false_eq_true, if_false, if_true]
      rfl
    | false => exact absurd ⟨hd, he⟩ hp

theorem plain_of_raises? (ho : lib.modules.Orderly) (h : lib.modules.raises? name = none) :
    Plain name :=
  ⟨(ho.ordinary name h).2.1, (ho.ordinary name h).2.2⟩

theorem import_meets (ho : lib.modules.Orderly) (hm : m.Follows lib.modules) (name : String) :
    (∃ id m', lib.interpreter.importModule (.value (.text name)) m = .ok (.module id) m' ∧
      m'.Follows lib.modules ∧ Extends [] m m' ∧ m'.find? name = some id) ∨
    lib.modules.raises? name ≠ none ∧ ∃ f, ∀ m, m.Follows lib.modules →
      ∃ m', lib.interpreter.importModule (.value (.text name)) m = .error f m' ∧
        m'.Follows lib.modules ∧ Extends [] m m' := by
  cases hr : lib.modules.raises? name with
  | none =>
    obtain ⟨id, m', hx, hm', hext, hid⟩ := (Importing.importModule_meets ho name hm).found hr
    refine .inl ⟨id, m', ofForeign_of_ok ?_, hm', hext, hid⟩
    rw [importModule_text (plain_of_raises? ho hr)]
    exact map_of_ok hx
  | some raised =>
    refine .inr ⟨by simp, ?_⟩
    by_cases hp : Plain name
    · refine ⟨.raised raised, fun m₁ hm₁ => ?_⟩
      obtain ⟨m', hx, hm', hext⟩ := (Importing.importModule_meets ho name hm₁).fails raised hr
      refine ⟨m', ofForeign_of_error ?_, hm', hext⟩
      rw [importModule_text hp]
      exact map_of_error hx
    · obtain ⟨other, -, -, hall⟩ := lib.importModule_of_not_plain hp
      exact ⟨.raised other, fun m₁ hm₁ => ⟨m₁, ofForeign_of_error (hall m₁), hm₁, .refl _ m₁⟩⟩

theorem importModule_of_not_text (hx : ∀ name, x ≠ .value (.text name)) (m : Imports) :
    lib.importModule x m = .error (m.nameError x) m := by
  cases x with
  | value v =>
    cases v with
    | text name => exact absurd rfl (hx name)
    | _ => rfl
  | _ => rfl

theorem nameError_of_extends (hext : Extends [] m m') (hw : There x m) :
    m'.nameError x = m.nameError x ∨ m'.nameError x = wrongType := by
  rcases hext.lookUp hw "startswith" with heq | ⟨-, raised, next, -, hok⟩
  · simp only [Imports.nameError, heq, true_or]
  · simp only [Imports.nameError, hok, or_true]

end Import

section Prefixes

theorem repeats_longest (ho : lib.modules.Orderly) (parts dropped : List String)
    (hm : m.Follows lib.modules) :
    Repeats lib.modules (lib.interpreter.longest token parts dropped) m fun found m' =>
      There found.module m' := by
  induction parts generalizing dropped m with
  | nil => exact .of_error hm (.refl _ m) rfl
  | cons last before ih =>
    have hstart : Repeats lib.modules
        (catching (lib.interpreter.importModule (.value (.text (dotted (last :: before).reverse))))) m
        fun result m' => ∀ x, result = .ok x → There x m' := by
      rcases import_meets ho hm (dotted (last :: before).reverse) with
        ⟨id, m', hx, hm', hext, hid⟩ | ⟨hr, f, hall⟩
      · refine .of_ok (catching_of_ok hx) hm' hext ?_ fun m₂ hm₂ hext₂ => ?_
        · rintro x ⟨⟩
          exact there_module hm' hid
        · rcases import_meets ho hm₂ (dotted (last :: before).reverse) with
            ⟨id', m₃, hx₃, hm₃, hext₃, hid₃⟩ | ⟨hr, -⟩
          · have hsame := hext₃.current _ _ (hext₂.current _ _ hid)
            rw [hid₃, Option.some.injEq] at hsame
            rw [hsame] at hx₃
            exact ⟨m₃, catching_of_ok hx₃, hm₃, hext₃⟩
          · exact absurd (hm'.loaded _ id hid).1 hr
      · obtain ⟨m', hx, hm', hext⟩ := hall m hm
        refine .of_ok (catching_of_error hx) hm' hext (by rintro x ⟨⟩) fun m₂ hm₂ _ => ?_
        obtain ⟨m₃, hx₃, hm₃, hext₃⟩ := hall m₂ hm₂
        exact ⟨m₃, catching_of_error hx₃, hm₃, hext₃⟩
    rw [Interpreter.longest]
    refine hstart.bind fun result m₁ hm₁ _ hresult => ?_
    cases result with
    | ok x => exact .pure hm₁ (hresult x rfl)
    | error raised =>
      dsimp only
      split
      · exact ih (last :: dropped) hm₁
      · split
        · exact .of_error hm₁ (.refl _ m₁) rfl
        · exact .of_error hm₁ (.refl _ m₁) rfl

end Prefixes

section Follow

theorem follow_of_error (h : m.lookUp x name = .error raised) (rest : List String) :
    ∃ f, lib.interpreter.follow token x (name :: rest) m = .error f m := by
  rw [Interpreter.follow_of_error (lookUp_of_error h)]
  split
  · exact ⟨_, rfl⟩
  · split
    · exact ⟨_, rfl⟩
    · exact ⟨_, rfl⟩

theorem repeats_follow (names : List String) (hm : m.Follows u) (hw : There x m) :
    Repeats u (lib.interpreter.follow token x names) m There := by
  induction names generalizing x with
  | nil => exact .pure hm hw
  | cons name rest ih =>
    cases h : m.lookUp x name with
    | error raised =>
      obtain ⟨f, hf⟩ : ∃ f, lib.interpreter.follow token x (name :: rest) m = .error f m :=
        follow_of_error h rest
      exact .of_error hm (.refl _ m) hf
    | ok next =>
      refine (ih (Imports.within_of_lookUp hm.within hw h)).congr hm fun m' _ hext => ?_
      exact Interpreter.follow_of_ok (lookUp_of_ok (hext.lookUp_ok hw h))

end Follow

section Defining

theorem repeats_import (ho : lib.modules.Orderly) (hm : m.Follows lib.modules)
    (hw : There base m) (name : String) :
    Repeats lib.modules (lib.interpreter.moduleNamed base (.value (.text name))) m There := by
  have hloaded : ∀ {m : Imports} {id}, m.find? name = some id →
      lib.interpreter.moduleNamed base (.value (.text name)) m = .ok (.module id) m := by
    intro m id hid
    refine Interpreter.moduleNamed_of_loaded (loaded?_of_ok ?_)
    simp only [Imports.loaded?, hid, Option.map_some]
  have hunloaded : ∀ {m : Imports}, m.find? name = none →
      lib.interpreter.loaded? (.value (.text name)) m = .ok none m := by
    intro m hnone
    refine loaded?_of_ok ?_
    simp only [Imports.loaded?, hnone, Option.map_none]
  cases hid : m.find? name with
  | some id =>
    refine (Repeats.pure hm (there_module hm hid)).congr hm fun m' _ hext => ?_
    exact hloaded (hext.current name id hid)
  | none =>
    rcases import_meets ho hm name with ⟨id, m₁, hx, hm₁, hext, hid₁⟩ | ⟨hr, f, hall⟩
    · refine .of_ok (Interpreter.moduleNamed_of_imported (hunloaded hid) hx) hm₁ hext
        (there_module hm₁ hid₁) fun m₂ hm₂ hext₂ => ?_
      exact ⟨m₂, hloaded (hext₂.current name id hid₁), hm₂, .refl _ m₂⟩
    · have hnever : ∀ {m : Imports}, m.Follows lib.modules → m.find? name = none := by
        intro m hm
        rw [Option.eq_none_iff_forall_ne_some]
        intro id hid
        exact hr (hm.loaded name id hid).1
      obtain ⟨m₁, hx, hm₁, hext⟩ := hall m hm
      have hrun : lib.interpreter.moduleNamed base (.value (.text name)) m =
          if f.isException then .ok base m₁ else .error f m₁ :=
        Interpreter.moduleNamed_of_raised (hunloaded hid) hx
      cases he : f.isException with
      | false =>
        rw [he] at hrun
        exact .of_error hm₁ hext hrun
      | true =>
        rw [he] at hrun
        refine .of_ok hrun hm₁ hext (hw.mono hext) fun m₂ hm₂ _ => ?_
        obtain ⟨m₃, hx₃, hm₃, hext₃⟩ := hall m₂ hm₂
        refine ⟨m₃, ?_, hm₃, hext₃⟩
        rw [Interpreter.moduleNamed_of_raised (hunloaded (hnever hm₂)) hx₃, if_pos he]

theorem repeats_unnamed (hm : m.Follows u) (hw : There base m) (hx : There x m)
    (hno : ∀ name, x ≠ .value (.text name)) :
    Repeats u (lib.interpreter.moduleNamed base x) m There := by
  have hrun : ∀ {m : Imports}, m.loaded? x = .ok none →
      lib.interpreter.moduleNamed base x m =
        if (m.nameError x).isException then .ok base m else .error (.raised (m.nameError x)) m :=
    fun hnone => Interpreter.moduleNamed_of_raised (loaded?_of_ok hnone)
      (ofForeign_of_error (importModule_of_not_text hno _))
  have hloaded : m.loaded? x = .ok none ∨ ∃ raised, m.loaded? x = .error raised := by
    cases x with
    | value v =>
      cases v with
      | text name => exact absurd rfl (hno name)
      | _ =>
        simp only [Imports.loaded?]
        split
        · exact .inl rfl
        · exact .inr ⟨_, rfl⟩
    | _ => exact .inl rfl
  have hsame : ∀ m' : Imports, m'.loaded? x = m.loaded? x := by
    intro m'
    cases x with
    | value v =>
      cases v with
      | text name => exact absurd rfl (hno name)
      | _ => rfl
    | _ => rfl
  rcases hloaded with hnone | ⟨raised, herror⟩
  · cases he : (m.nameError x).isException with
    | false =>
      have hthis := hrun hnone
      rw [he] at hthis
      exact .of_error hm (.refl _ m) hthis
    | true =>
      refine (Repeats.pure hm hw).congr hm fun m' _ hext => ?_
      rw [hrun ((hsame m').trans hnone), if_pos]
      · rfl
      · rcases nameError_of_extends hext hx with heq | heq
        · rw [heq, he]
        · rw [heq]
          decide
  · exact .of_error hm (.refl _ m) (bind_of_error (loaded?_of_error herror))

theorem repeats_moduleNamed (ho : lib.modules.Orderly) (hm : m.Follows lib.modules)
    (hw : There base m) (hx : There x m) :
    Repeats lib.modules (lib.interpreter.moduleNamed base x) m There := by
  by_cases hno : ∀ name, x ≠ .value (.text name)
  · exact repeats_unnamed hm hw hx hno
  · obtain ⟨name, rfl⟩ : ∃ name, x = .value (.text name) := by simpa using hno
    exact repeats_import ho hm hw name

theorem definingName_run (lib : Library) (base reached : Held) (m : Imports) :
    lib.interpreter.definingName base reached m =
      match m.lookUp reached "__module__" with
      | .ok name => if name.isTrue then .ok name m else asking (·.lookUp base "__name__") m
      | .error raised => if raised.isAttributeError then asking (·.lookUp base "__name__") m
        else .error (.raised raised) m := by
  cases h : m.lookUp reached "__module__" with
  | ok name =>
    have hx : lib.interpreter.Answers reached "__module__" m (.ok (some name) m) :=
      .found (lookUp_of_ok h)
    dsimp only
    split
    · rename_i ht
      exact (Interpreter.Reports.own hx (by rw [← ht]; rfl)).run
    · rename_i ht
      exact (Interpreter.Reports.empty hx (by rw [← Bool.eq_false_iff.2 ht]; rfl) rfl).run
  | error raised =>
    dsimp only
    split
    · rename_i ha
      exact (Interpreter.Reports.missing (.missing (lookUp_of_error h) ha) rfl).run
    · rename_i ha
      exact (Interpreter.Reports.unanswered
        (.fails (lookUp_of_error h) (Bool.eq_false_iff.2 ha))).run

theorem repeats_definingName (hm : m.Follows u) (hw : There base m) (hr : There reached m)
    (hno : ∀ id, reached ≠ .module id) :
    Repeats u (lib.interpreter.definingName base reached) m There := by
  have hname : Repeats u (asking (·.lookUp base "__name__")) m There := by
    refine repeats_asking hm (fun a h => Imports.within_of_lookUp hm.within hw h) fun a h m' hext => ?_
    exact hext.lookUp_ok hw h
  have hsame : ∀ m' : Imports, m'.lookUp reached "__module__" = m.lookUp reached "__module__" := by
    intro m'
    cases reached with
    | module id => exact absurd rfl (hno id)
    | _ => rfl
  have hrun := fun m' => definingName_run lib base reached m'
  simp only [hsame] at hrun
  cases h : m.lookUp reached "__module__" with
  | ok name =>
    simp only [h] at hrun
    cases ht : name.isTrue with
    | true =>
      simp only [ht, if_true] at hrun
      refine (Repeats.pure hm (Imports.within_of_lookUp hm.within hr h)).congr hm ?_
      exact fun m' _ _ => hrun m'
    | false =>
      simp only [ht, Bool.false_eq_true, if_false] at hrun
      exact hname.congr hm fun m' _ _ => hrun m'
  | error raised =>
    simp only [h] at hrun
    cases ha : raised.isAttributeError with
    | true =>
      simp only [ha, if_true] at hrun
      exact hname.congr hm fun m' _ _ => hrun m'
    | false =>
      simp only [ha, Bool.false_eq_true, if_false] at hrun
      exact .of_error hm (.refl _ m) (hrun m)

theorem repeats_definingModule (ho : lib.modules.Orderly) (hm : m.Follows lib.modules)
    (hw : There base m) (hr : There reached m) :
    Repeats lib.modules (lib.interpreter.definingModule base reached) m There := by
  by_cases hno : ∀ id, reached ≠ .module id
  · have hjudged : Repeats lib.modules (asking (·.isModule reached)) m
        fun is _ => is = false := by
      have hsame : ∀ m' : Imports, m'.isModule reached = m.isModule reached := by
        intro m'
        cases reached with
        | module id => exact absurd rfl (hno id)
        | _ => rfl
      refine repeats_asking hm (fun is h => ?_) fun is h m' _ => (hsame m').trans h
      cases is with
      | false => rfl
      | true => exact absurd (isModule_eq_true h) (by simpa using hno)
    rw [Interpreter.definingModule]
    refine hjudged.bind fun is m₁ hm₁ hext his => ?_
    subst his
    refine (repeats_definingName hm₁ (hw.mono hext) (hr.mono hext) hno).bind ?_
    intro name m₂ hm₂ hext₂ hname
    exact repeats_moduleNamed ho hm₂ ((hw.mono hext).mono hext₂) hname
  · obtain ⟨id, rfl⟩ : ∃ id, reached = .module id := by simpa using hno
    exact (Repeats.pure hm hr).congr hm fun m' _ _ => rfl

end Defining

section Location

def fileFrom (lib : Library) (d : Disk) : Except Raised Held → Except Fault String
  | .ok file =>
    if file.isTrue then
      match file.pathText with
      | .ok text => (d.resolve (Path.ofText text)).map Path.toText
      | .error raised => .error (.raised raised)
    else .ok lib.executable
  | .error raised => if raised.isAttributeError then .ok lib.executable else .error (.raised raised)

theorem location_run (lib : Library) (d : Disk) (x : Held) (m : Imports) :
    lib.interpreter.location d x m =
      Attempt.ofExcept (lib.fileFrom d (m.lookUp x "__file__")) m := by
  cases h : m.lookUp x "__file__" with
  | ok file =>
    have hx : lib.interpreter.Answers x "__file__" m (.ok (some file) m) := .found (lookUp_of_ok h)
    cases ht : file.isTrue with
    | false =>
      rw [(Interpreter.FileOf.empty hx (by rw [← ht]; rfl)).run]
      simp only [fileFrom, ht, Bool.false_eq_true, if_false]
      rfl
    | true =>
      have htrue : lib.interpreter.isTrue file m = .ok true m := by
        rw [← ht]
        rfl
      cases hp : file.pathText with
      | error raised =>
        rw [(Interpreter.FileOf.noPath hx htrue (pathText_of_error hp)).run]
        simp only [fileFrom, ht, if_true, hp]
        rfl
      | ok text =>
        rw [Interpreter.location_of_path hx htrue (pathText_of_ok hp)]
        simp only [fileFrom, ht, if_true, hp]
  | error raised =>
    cases ha : raised.isAttributeError with
    | true =>
      rw [(Interpreter.FileOf.builtIn (.missing (lookUp_of_error h) ha)).run]
      simp only [fileFrom, ha, if_true]
      rfl
    | false =>
      rw [(Interpreter.FileOf.unanswered (.fails (lookUp_of_error h) ha)).run]
      simp only [fileFrom, ha, Bool.false_eq_true, if_false]
      rfl

theorem repeats_location (d : Disk) (hm : m.Follows u) (hx : There x m) :
    Repeats u (lib.interpreter.location d x) m fun _ _ => True := by
  have hrun : ∀ m', m'.Follows u → Extends [] m m' → lib.interpreter.location d x m' =
      Attempt.ofExcept (lib.fileFrom d (m.lookUp x "__file__")) m' := by
    intro m' _ hext
    rw [location_run, hext.lookUp_inherent hx (by decide)]
  have hconstant : Repeats u
      (Attempt.ofExcept (lib.fileFrom d (m.lookUp x "__file__"))) m fun _ _ => True := by
    cases lib.fileFrom d (m.lookUp x "__file__") with
    | ok file => exact .pure hm trivial
    | error f => exact .of_error hm (.refl _ m) rfl
  exact hconstant.congr hm hrun

theorem repeats_resolve (ho : lib.modules.Orderly) (d : Disk) (token : String)
    (hm : m.Follows lib.modules) :
    Repeats lib.modules (lib.resolve d token) m fun _ _ => True := by
  rw [resolve, Interpreter.resolve]
  split
  · refine (repeats_longest ho _ [] hm).bind fun found m₁ hm₁ _ hbase => ?_
    refine (repeats_follow found.attributes hm₁ hbase).bind fun reached m₂ hm₂ hext hreached => ?_
    refine (repeats_definingModule ho hm₂ (hbase.mono hext) hreached).bind ?_
    intro x m₃ hm₃ _ hx
    exact repeats_location d hm₃ hx
  · exact .of_error hm (.refl _ m) rfl

end Location

end Library

end BuildScripts

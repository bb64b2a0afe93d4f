import BuildScripts.Proofs.Artifact.Extension
import BuildScripts.Proofs.Attempts

/-!
Imports in a universe where a module that can be imported names only modules that can. Main
statement: what an import does is then said by the universe alone, whatever has been imported
before.
-/

namespace BuildScripts

mutual

def Binding.modules : Binding → List String
  | .module name => [name]
  | .object _ _ attributes => modulesOfAll attributes
  | .value _ => []

def modulesOfAll : List (String × Binding) → List String
  | [] => []
  | (_, b) :: rest => b.modules ++ modulesOfAll rest

end

def Binding.isModule (name : String) : Binding → Bool
  | .module n => n == name
  | _ => false

theorem Binding.eq_of_isModule {name : String} {b : Binding} (h : b.isModule name = true) :
    b = .module name := by
  cases b with
  | module n => rw [eq_of_beq h]
  | object definedIn failing attributes => cases h
  | value v => cases h

namespace Universe

def refusesChildren? (u : Universe) (name : String) : Option Raised :=
  match u.lookup name with
  | none => some notImportable
  | some decl => (decl.begun name).refusesChildren?

def raisesParts (u : Universe) : List String → Option Raised
  | [] => some notImportable
  | last :: parents =>
    let above := if parents.isEmpty then none
      else (raisesParts u parents).or (u.refusesChildren? (dotted parents.reverse))
    above.or (match u.lookup (dotted (last :: parents).reverse) with
      | none => some notImportable
      | some decl => decl.failure)

def raises? (u : Universe) (name : String) : Option Raised :=
  u.raisesParts (dottedParts name).reverse

/-- A module that can be imported names only modules that can; none of its attributes hides a module
in it that can be imported, or says where to look for such modules; and they have plain names. -/
structure Orderly (u : Universe) : Prop where
  sound : ∀ name decl, u.raises? name = none → u.lookup name = some decl →
    ∀ n ∈ modulesOfAll decl.attributes, u.raises? n = none
  unshadowed : ∀ name decl, u.lookup name = some decl → ∀ n b, (n, b) ∈ decl.attributes →
    u.raises? (name ++ "." ++ n) = none → b = .module (name ++ "." ++ n)
  pathless : ∀ name decl, u.lookup name = some decl → ∀ n b, (n, b) ∈ decl.attributes →
    n ≠ "__path__"
  ordinary : ∀ name, u.raises? name = none → isInherent ((dottedParts name).getLastD "") = false ∧
    Text.beginsWith "." name = false ∧ name.isEmpty = false

theorem declared_of_raises? {u : Universe} {name : String} (h : u.raises? name = none) :
    ∃ decl, u.lookup name = some decl := by
  cases hparts : (dottedParts name).reverse with
  | nil =>
    rw [raises?, hparts] at h
    cases h
  | cons last parents =>
    have hname : dotted (last :: parents).reverse = name := by
      rw [← hparts, List.reverse_reverse, dotted_dottedParts]
    rw [raises?, hparts, raisesParts, hname, Option.or_eq_none_iff] at h
    cases hl : u.lookup name with
    | none => simp [hl] at h
    | some decl => exact ⟨decl, rfl⟩

def isOrderly (u : Universe) : Bool :=
  u.all fun (name, decl) =>
    ((u.raises? name).isSome ||
      (modulesOfAll decl.attributes).all (fun n => (u.raises? n).isNone) &&
        !isInherent ((dottedParts name).getLastD "") && !Text.beginsWith "." name &&
          !name.isEmpty) &&
    decl.attributes.all fun (n, b) =>
      ((u.raises? (name ++ "." ++ n)).isSome || b.isModule (name ++ "." ++ n)) && n != "__path__"

theorem orderly_of_isOrderly {u : Universe} (h : u.isOrderly = true) : u.Orderly := by
  have hentry : ∀ name decl, u.lookup name = some decl →
      (u.raises? name = none →
        ((∀ n ∈ modulesOfAll decl.attributes, u.raises? n = none) ∧
          isInherent ((dottedParts name).getLastD "") = false ∧
            Text.beginsWith "." name = false ∧ name.isEmpty = false)) ∧
      ∀ n b, (n, b) ∈ decl.attributes →
        (u.raises? (name ++ "." ++ n) = none → b.isModule (name ++ "." ++ n) = true) ∧
          n ≠ "__path__" := by
    intro name decl hl
    obtain ⟨before, after, rfl, -⟩ := List.lookup_eq_some_iff.1 hl
    have hboth := List.all_eq_true.1 h (name, decl) (by simp)
    simp only [Bool.and_eq_true, Bool.or_eq_true, List.all_eq_true, Bool.not_eq_true',
      Option.isNone_iff_eq_none, bne_iff_ne, and_assoc] at hboth
    constructor
    · intro hr
      exact hboth.1.resolve_left (by simp [hr])
    · intro n b hb
      obtain ⟨hmodule, hpath⟩ := hboth.2 (n, b) hb
      exact ⟨fun hr => hmodule.resolve_left (by simp [hr]), hpath⟩
  constructor
  · intro name decl hr hl
    exact ((hentry name decl hl).1 hr).1
  · intro name decl hl n b hb hr
    exact Binding.eq_of_isModule (((hentry name decl hl).2 n b hb).1 hr)
  · intro name decl hl n b hb
    exact ((hentry name decl hl).2 n b hb).2
  · intro name hr
    obtain ⟨decl, hl⟩ := declared_of_raises? hr
    exact ((hentry name decl hl).1 hr).2

def waiting (u : Universe) (m : Imports) : Nat :=
  u.countP fun (name, _) => (m.find? name).isNone

variable {u : Universe} {m m' : Imports}

theorem waiting_le (h : m.Extends [] m') : u.waiting m' ≤ u.waiting m := by
  apply List.countP_mono_left
  rintro ⟨name, decl⟩ - hn
  cases hm : m.find? name with
  | none => simp [hm]
  | some id => simp [h.current name id hm] at hn

theorem waiting_lt {name : String} {decl : Declaration} {id : Nat} (h : m.Extends [] m')
    (hl : u.lookup name = some decl) (hn : m.find? name = none) (hn' : m'.find? name = some id) :
    u.waiting m' < u.waiting m := by
  obtain ⟨before, after, rfl, -⟩ := List.lookup_eq_some_iff.1 hl
  have hbefore : waiting before m' ≤ waiting before m := waiting_le h
  have hafter : waiting after m' ≤ waiting after m := waiting_le h
  simp only [waiting, List.countP_append, List.countP_cons, hn, hn', Option.isNone_none,
    Option.isNone_some, Bool.false_eq_true, if_true, if_false] at *
  omega

end Universe

namespace Imports

variable {u : Universe} {m m' : Imports} {id : Nat} {name : String}

/-- What has been imported could be imported, the objects are as declared and hold only objects that
are there, and where an attribute has the name of a module in its own module it is that module. -/
structure Follows (m : Imports) (u : Universe) : Prop where
  loaded : ∀ name (id : Nat), m.find? name = some id →
    u.raises? name = none ∧ ∃ o : Loaded, m.objects[id]? = some o ∧ o.name = name
  declared : ∀ (id : Nat) (o : Loaded), m.objects[id]? = some o →
    u.refusesChildren? o.name = o.refusesChildren?
  bound : ∀ (id : Nat) (o : Loaded) n held, m.objects[id]? = some o →
    o.attributes.lookup n = some held → u.raises? (o.name ++ "." ++ n) = none →
      ∃ i, held = .module i ∧ m.find? (o.name ++ "." ++ n) = some i
  within : m.HoldsOwn

theorem follows_empty (u : Universe) : empty.Follows u := by
  constructor
  · intro name id h
    cases h
  · intro id o h
    simp [empty] at h
  · intro id o n held h
    simp [empty] at h
  · intro id o n held h
    simp [empty] at h

theorem refusesChildren?_bind (o : Loaded) {n : String} (hn : n ≠ "__path__") (held : Held) :
    { o with attributes := setName n held o.attributes }.refusesChildren? = o.refusesChildren? := by
  have hlookup : (setName n held o.attributes).lookup "__path__" = o.attributes.lookup "__path__" := by
    rw [lookup_setName, if_neg hn.symm]
  simp only [Loaded.refusesChildren?, Loaded.lookUp, hlookup]
  rfl

theorem Follows.bind (h : m.Follows u) {n : String} {held : Held} (hn : n ≠ "__path__")
    (hw : held.Within m.objects.length)
    (hb : ∀ o, m.objects[id]? = some o → u.raises? (o.name ++ "." ++ n) = none →
      ∃ i, held = .module i ∧ m.find? (o.name ++ "." ++ n) = some i) :
    (m.bind id n held).Follows u := by
  -- One object changes, and nothing of it but its attributes.
  have hobject : ∀ i o, (m.bind id n held).objects[i]? = some o →
      ∃ o₀, m.objects[i]? = some o₀ ∧ (o = o₀ ∨
        i = id ∧ o = { o₀ with attributes := setName n held o₀.attributes }) := by
    intro i o ho
    rw [getElem?_bind] at ho
    by_cases hi : i = id
    · rw [if_pos hi] at ho
      obtain ⟨o₀, ho₀, rfl⟩ := Option.map_eq_some_iff.1 ho
      exact ⟨o₀, ho₀, .inr ⟨hi, rfl⟩⟩
    · rw [if_neg hi] at ho
      exact ⟨o, ho, .inl rfl⟩
  constructor
  · intro name i hc
    obtain ⟨hr, o, ho, hname⟩ := h.loaded name i hc
    obtain ⟨o', ho', hs, -⟩ := (extends_bind m id n held).objects i o ho
    exact ⟨hr, o', ho', hs.name.trans hname⟩
  · intro i o ho
    obtain ⟨o₀, ho₀, rfl | ⟨-, rfl⟩⟩ := hobject i o ho
    · exact h.declared i o ho₀
    · rw [refusesChildren?_bind o₀ hn]
      exact h.declared i o₀ ho₀
  · intro i o k x ho hx hr
    obtain ⟨o₀, ho₀, rfl | ⟨rfl, rfl⟩⟩ := hobject i o ho
    · exact h.bound i o k x ho₀ hx hr
    · rw [lookup_setName] at hx
      by_cases hk : k = n
      · subst hk
        rw [if_pos rfl, Option.some.injEq] at hx
        subst hx
        exact hb o₀ ho₀ hr
      · rw [if_neg hk] at hx
        exact h.bound i o₀ k x ho₀ hx hr
  · intro i o k x ho hx
    rw [length_bind]
    obtain ⟨o₀, ho₀, rfl | ⟨rfl, rfl⟩⟩ := hobject i o ho
    · exact h.within i o k x ho₀ hx
    · rw [lookup_setName] at hx
      by_cases hk : k = n
      · rw [if_pos hk, Option.some.injEq] at hx
        rw [← hx]
        exact hw
      · rw [if_neg hk] at hx
        exact h.within i o₀ k x ho₀ hx

section Begin

variable {decl : Declaration}

theorem Follows.objects_begin (h : m.Follows u) (hl : u.lookup name = some decl) {i : Nat}
    {o : Loaded} (ho : (m.begin_ name decl).1.objects[i]? = some o) :
    u.refusesChildren? o.name = o.refusesChildren? ∧
      (m.objects[i]? = some o ∨ o.attributes = []) := by
  rw [getElem?_begin] at ho
  by_cases hi : i = m.objects.length
  · rw [if_pos hi, Option.some.injEq] at ho
    subst ho
    have hname : (decl.begun name).name = name := rfl
    rw [Universe.refusesChildren?, hname, hl]
    exact ⟨rfl, .inr rfl⟩
  · rw [if_neg hi] at ho
    exact ⟨h.declared i o ho, .inl ho⟩

theorem Follows.begin (h : m.Follows u) (hl : u.lookup name = some decl)
    (hn : m.find? name = none) (hr : u.raises? name = none) :
    (m.begin_ name decl).1.Follows u := by
  have hext := extends_begin decl hn
  constructor
  · intro n i hc
    rw [find?_begin] at hc
    by_cases he : n = name
    · rw [if_pos he, Option.some.injEq] at hc
      subst hc
      rw [he]
      exact ⟨hr, _, by rw [getElem?_begin, if_pos rfl], rfl⟩
    · rw [if_neg he] at hc
      obtain ⟨hr', o, ho, hname⟩ := h.loaded n i hc
      obtain ⟨o', ho', hs, -⟩ := hext.objects i o ho
      exact ⟨hr', o', ho', hs.name.trans hname⟩
  · intro i o ho
    exact (h.objects_begin hl ho).1
  · intro i o n held ho hb hr'
    rcases (h.objects_begin hl ho).2 with ho' | hnil
    · obtain ⟨k, hk, hc⟩ := h.bound i o n held ho' hb hr'
      exact ⟨k, hk, hext.current _ _ hc⟩
    · rw [hnil] at hb
      cases hb
  · intro i o n held ho hb
    rcases (h.objects_begin hl ho).2 with ho' | hnil
    · exact (h.within i o n held ho' hb).mono hext.length_le
    · rw [hnil] at hb
      cases hb

theorem Follows.forget_begin (h : m.Follows u) (hl : u.lookup name = some decl)
    (hn : m.find? name = none) : ((m.begin_ name decl).1.forget name).Follows u := by
  have hext := extends_forget_begin decl hn
  constructor
  · intro n i hc
    rw [find?_forget_begin decl hn] at hc
    obtain ⟨hr, o, ho, hname⟩ := h.loaded n i hc
    obtain ⟨o', ho', hs, -⟩ := hext.objects i o ho
    exact ⟨hr, o', ho', hs.name.trans hname⟩
  · intro i o ho
    exact (h.objects_begin hl ho).1
  · intro i o n held ho hb hr
    rcases (h.objects_begin hl ho).2 with ho' | hnil
    · obtain ⟨k, hk, hc⟩ := h.bound i o n held ho' hb hr
      exact ⟨k, hk, hext.current _ _ hc⟩
    · rw [hnil] at hb
      cases hb
  · intro i o n held ho hb
    rcases (h.objects_begin hl ho).2 with ho' | hnil
    · exact (h.within i o n held ho' hb).mono hext.length_le
    · rw [hnil] at hb
      cases hb

end Begin

end Imports

namespace Importing

open Attempt
open Imports (extends_begin find?_begin getElem?_begin extends_forget_begin extends_bind Extends)

variable {u : Universe} {m m' : Imports} {importing : String → Importing Nat} {depth : Nat}

structure Meets (u : Universe) (x : Importing Nat) (name : String) (m : Imports) : Prop where
  found : u.raises? name = none →
    ∃ id m', x m = .ok id m' ∧ m'.Follows u ∧ m.Extends [] m' ∧ m'.find? name = some id
  fails : ∀ raised, u.raises? name = some raised →
    ∃ m', x m = .error raised m' ∧ m'.Follows u ∧ m.Extends [] m'

namespace Meets

variable {x y : Importing Nat} {name : String}

theorem of_found {id : Nat} (hm : m.Follows u) (h : m.find? name = some id) (hx : x m = .ok id m) :
    Meets u x name m where
  found _ := ⟨id, m, hx, hm, .refl _ m, h⟩
  fails raised hr := by
    rw [(hm.loaded name id h).1] at hr
    cases hr

theorem of_raised {raised : Raised} (hr : u.raises? name = some raised) (hx : x m = .error raised m')
    (hm : m'.Follows u) (hext : m.Extends [] m') : Meets u x name m where
  found hnone := by
    rw [hr] at hnone
    cases hnone
  fails raised' hr' := by
    rw [hr, Option.some.injEq] at hr'
    rw [← hr']
    exact ⟨m', hx, hm, hext⟩

theorem of_extends (h : Meets u y name m') (hext : m.Extends [] m') (hx : x m = y m') :
    Meets u x name m where
  found hnone := by
    obtain ⟨id, m'', hy, hm, hext', hid⟩ := h.found hnone
    exact ⟨id, m'', hx.trans hy, hm, hext.trans hext', hid⟩
  fails raised hr := by
    obtain ⟨m'', hy, hm, hext'⟩ := h.fails raised hr
    exact ⟨m'', hx.trans hy, hm, hext.trans hext'⟩

end Meets

section Hold

mutual

theorem hold_ok {m : Imports}
    (hi : ∀ name m, m.Follows u → u.waiting m < depth → Meets u (importing name) name m)
    (b : Binding) (hb : ∀ n ∈ b.modules, u.raises? n = none) (hm : m.Follows u)
    (hd : u.waiting m < depth) :
    ∃ held m', hold importing b m = .ok held m' ∧ m'.Follows u ∧ m.Extends [] m' ∧
      held.Within m'.objects.length ∧
        ∀ n, b = .module n → ∃ id, held = .module id ∧ m'.find? n = some id := by
  cases b with
  | module name =>
    obtain ⟨id, m', hx, hm', hext, hc⟩ :=
      (hi name m hm hd).found (hb name (by simp [Binding.modules]))
    obtain ⟨-, o, ho, -⟩ := hm'.loaded name id hc
    refine ⟨.module id, m', bind_of_ok hx, hm', hext, ?_, ?_⟩
    · rw [Held.Within]
      exact Imports.lt_of_getElem? ho
    · rintro n ⟨⟩
      exact ⟨id, rfl, hc⟩
  | object definedIn failing attributes =>
    obtain ⟨held, m', hx, hm', hext, hw⟩ := holdAll_ok hi attributes
      (fun n hn => hb n (by simpa [Binding.modules] using hn)) hm hd
    refine ⟨.object definedIn failing held, m', bind_of_ok hx, hm', hext, ?_, ?_⟩
    · rw [Held.Within]
      exact hw
    · rintro n ⟨⟩
  | value v =>
    refine ⟨.value v, m, rfl, hm, .refl _ m, ?_, ?_⟩
    · rw [Held.Within]
      trivial
    · rintro n ⟨⟩

theorem holdAll_ok {m : Imports}
    (hi : ∀ name m, m.Follows u → u.waiting m < depth → Meets u (importing name) name m)
    (bs : List (String × Binding))
    (hb : ∀ n ∈ modulesOfAll bs, u.raises? n = none) (hm : m.Follows u) (hd : u.waiting m < depth) :
    ∃ held m', holdAll importing bs m = .ok held m' ∧ m'.Follows u ∧ m.Extends [] m' ∧
      AllWithin m'.objects.length held := by
  cases bs with
  | nil => exact ⟨[], m, rfl, hm, .refl _ m, by rw [AllWithin]; trivial⟩
  | cons e rest =>
    obtain ⟨name, b⟩ := e
    obtain ⟨held, m₁, hx, hm₁, hext, hw, -⟩ := hold_ok hi b
      (fun n hn => hb n (by simp [modulesOfAll, hn])) hm hd
    have hd₁ : u.waiting m₁ < depth := Nat.lt_of_le_of_lt (Universe.waiting_le hext) hd
    obtain ⟨others, m₂, hx₂, hm₂, hext₂, hw₂⟩ := holdAll_ok hi rest
      (fun n hn => hb n (by simp [modulesOfAll, hn])) hm₁ hd₁
    refine ⟨(name, held) :: others, m₂, ?_, hm₂, hext.trans hext₂, ?_⟩
    · exact (bind_of_ok hx).trans (bind_of_ok hx₂)
    · rw [AllWithin]
      exact ⟨hw.mono hext₂.length_le, hw₂⟩

end

theorem bindAll_ok {id : Nat} {o : Loaded}
    (hi : ∀ name m, m.Follows u → u.waiting m < depth → Meets u (importing name) name m)
    (bs : List (String × Binding)) (hb : ∀ n ∈ modulesOfAll bs, u.raises? n = none)
    (hs : ∀ n b, (n, b) ∈ bs → u.raises? (o.name ++ "." ++ n) = none →
      b = .module (o.name ++ "." ++ n))
    (hp : ∀ n b, (n, b) ∈ bs → n ≠ "__path__")
    (ho : m.objects[id]? = some o) (hm : m.Follows u) (hd : u.waiting m < depth) :
    ∃ m', bindAll importing id bs m = .ok () m' ∧ m'.Follows u ∧ m.Extends [id] m' := by
  induction bs generalizing m o with
  | nil => exact ⟨m, rfl, hm, .refl _ m⟩
  | cons e rest ih =>
    obtain ⟨name, b⟩ := e
    obtain ⟨held, m₁, hx, hm₁, hext, hw, hheld⟩ := hold_ok hi b
      (fun n hn => hb n (by simp [modulesOfAll, hn])) hm hd
    obtain ⟨o₁, ho₁, hsame, -⟩ := hext.objects id o ho
    have hm₂ : (m₁.bind id name held).Follows u := by
      apply hm₁.bind (hp name b (by simp)) hw
      intro o' ho' hr
      rw [ho₁, Option.some.injEq] at ho'
      subst ho'
      rw [hsame.name] at hr ⊢
      exact hheld _ (hs name b (by simp) hr)
    have hext₂ := extends_bind m₁ id name held
    obtain ⟨o₂, ho₂, hsame₂, -⟩ := hext₂.objects id o₁ ho₁
    have hname : o₂.name = o.name := hsame₂.name.trans hsame.name
    have hle : u.waiting m₁ ≤ u.waiting m := Universe.waiting_le hext
    have hd₂ : u.waiting (m₁.bind id name held) < depth := Nat.lt_of_le_of_lt hle hd
    obtain ⟨m₃, hx₃, hm₃, hext₃⟩ := ih (m := m₁.bind id name held)
      (fun n hn => hb n (by simp [modulesOfAll, hn]))
      (by rw [hname]; exact fun n b hn => hs n b (List.mem_cons_of_mem _ hn))
      (fun n b hn => hp n b (List.mem_cons_of_mem _ hn)) ho₂ hm₂ hd₂
    refine ⟨m₃, ?_, hm₃, ((hext.mono [id]).trans hext₂).trans hext₃⟩
    exact (bind_of_ok hx).trans hx₃

end Hold

section Execute

variable {name : String} {decl : Declaration} {raised : Raised}

theorem execute_of_failure (hf : decl.failure = some raised) : execute importing name decl m =
    .error raised ((m.begin_ name decl).1.forget name) := by
  rw [execute, hf]
  rfl

theorem execute_of_bindAll (hf : decl.failure = none)
    (h : bindAll importing m.objects.length decl.attributes (m.begin_ name decl).1 = .ok () m') :
    execute importing name decl m = .ok m.objects.length m' := by
  rw [execute, hf]
  exact bind_of_ok (tryCatch_of_ok h)

theorem execute_meets (ho : u.Orderly)
    (hi : ∀ name m, m.Follows u → u.waiting m < depth → Meets u (importing name) name m)
    (hm : m.Follows u) (hd : u.waiting m < depth + 1) (hl : u.lookup name = some decl)
    (hn : m.find? name = none) (hr : u.raises? name = decl.failure) :
    Meets u (execute importing name decl) name m := by
  constructor
  · intro hnone
    have hf : decl.failure = none := hr.symm.trans hnone
    have hbegin := extends_begin decl hn
    have hfound : (m.begin_ name decl).1.find? name = some m.objects.length := by
      rw [find?_begin, if_pos rfl]
    -- The module counts as imported from now on, which leaves fewer for the imports inside it.
    have hlt := Universe.waiting_lt hbegin hl hn hfound
    have hmade : (m.begin_ name decl).1.objects[m.objects.length]? = some (decl.begun name) := by
      rw [getElem?_begin, if_pos rfl]
    have hwaiting : u.waiting (m.begin_ name decl).1 < depth := by omega
    obtain ⟨m', hx, hm', hext⟩ := bindAll_ok (o := decl.begun name) hi decl.attributes
      (ho.sound name decl hnone hl) (ho.unshadowed name decl hl) (ho.pathless name decl hl) hmade
      (hm.begin hl hn hnone) hwaiting
    exact ⟨m.objects.length, m', execute_of_bindAll hf hx, hm', hbegin.of_busy hext,
      hext.current _ _ hfound⟩
  · intro raised hraised
    have hf : decl.failure = some raised := hr.symm.trans hraised
    exact ⟨_, execute_of_failure hf, hm.forget_begin hl hn, extends_forget_begin decl hn⟩

end Execute

section Parts

variable {last : String} {parents : List String}

theorem importParts_of_found {id : Nat} (h : m.find? (dotted (last :: parents).reverse) = some id) :
    importParts u importing (last :: parents) m = .ok id m := by
  rw [importParts, get_bind, h]
  rfl

theorem importParts_of_top (h : m.find? (dotted [last].reverse) = none) :
    importParts u importing [last] m = importInParent u importing last [] m := by
  rw [importParts, get_bind, h]
  rfl

theorem importParts_of_parents (h : m.find? (dotted (last :: parents).reverse) = none)
    (hne : parents ≠ []) : importParts u importing (last :: parents) m =
      (importParts u importing parents >>= fun _ => importInParent u importing last parents) m := by
  rw [importParts, get_bind, h]
  cases parents with
  | nil => exact absurd rfl hne
  | cons p ps =>
    exact congrFun (bind_map_left _ (importParts u importing (p :: ps))
      fun _ => importInParent u importing last (p :: ps)) m

theorem refusesChildren?_of_found {name : String} {id : Nat} (hm : m.Follows u)
    (h : m.find? name = some id) : m.refusesChildren? name = u.refusesChildren? name := by
  obtain ⟨-, o, ho, rfl⟩ := hm.loaded name id h
  have hobject : m.object id = o := by
    rw [Imports.object, List.getD_eq_getElem?_getD, ho, Option.getD_some]
  rw [Imports.refusesChildren?, h]
  dsimp only
  rw [hobject, hm.declared id o ho]

def Ready (m : Imports) (parents : List String) : Prop :=
  parents = [] ∨ m.refusesChildren? (dotted parents.reverse) = none

theorem importInParent_of_found {id : Nat}
    (h : m.find? (dotted (last :: parents).reverse) = some id) :
    importInParent u importing last parents m = .ok id m := by
  rw [importInParent, get_bind, h]
  rfl

theorem importInParent_of_refused {raised : Raised}
    (hn : m.find? (dotted (last :: parents).reverse) = none) (hne : parents ≠ [])
    (hp : m.refusesChildren? (dotted parents.reverse) = some raised) :
    importInParent u importing last parents m = .error raised m := by
  have hempty : parents.isEmpty = false := by simpa using hne
  rw [importInParent, get_bind, hn]
  simp only [get_bind, hempty, hp, Bool.false_eq_true, if_false]
  rfl

theorem refused_of_ready (hp : Ready m parents) :
    (if parents.isEmpty then none else m.refusesChildren? (dotted parents.reverse)) = none := by
  rcases hp with rfl | hp
  · rfl
  · rw [hp, ite_self]

theorem importInParent_of_undeclared (hn : m.find? (dotted (last :: parents).reverse) = none)
    (hp : Ready m parents) (hl : u.lookup (dotted (last :: parents).reverse) = none) :
    importInParent u importing last parents m = .error notImportable m := by
  rw [importInParent, get_bind, hn]
  simp only [get_bind, refused_of_ready hp, hl]
  rfl

section Declared

variable {decl : Declaration} (hn : m.find? (dotted (last :: parents).reverse) = none)
  (hp : Ready m parents)
  (hl : u.lookup (dotted (last :: parents).reverse) = some decl)
include hn hp hl

theorem importInParent_of_raised {raised : Raised}
    (hx : execute importing (dotted (last :: parents).reverse) decl m = .error raised m') :
    importInParent u importing last parents m = .error raised m' := by
  rw [importInParent, get_bind, hn]
  simp only [get_bind, refused_of_ready hp, hl]
  exact bind_of_error hx

theorem importInParent_of_made {id : Nat}
    (hx : execute importing (dotted (last :: parents).reverse) decl m = .ok id m') :
    importInParent u importing last parents m =
      .ok id (match m'.find? (dotted parents.reverse) with
        | some holder => if parents.isEmpty then m' else m'.bind holder last (.module id)
        | none => m') := by
  rw [importInParent, get_bind, hn]
  simp only [get_bind, refused_of_ready hp, hl]
  rw [bind_of_ok hx, get_bind]
  cases m'.find? (dotted parents.reverse) with
  | none => rfl
  | some holder => cases parents <;> rfl

end Declared

theorem raises?_dotted (u : Universe) {parts : List String} (hu : Undotted parts)
    (hne : parts ≠ []) : u.raises? (dotted parts.reverse) = u.raisesParts parts := by
  rw [Universe.raises?, dottedParts_dotted hu.reverse (by simpa using hne), List.reverse_reverse]

theorem raisesParts_of_ready (last : String)
    (h : parents = [] ∨
      u.raisesParts parents = none ∧ u.refusesChildren? (dotted parents.reverse) = none) :
    u.raisesParts (last :: parents) = match u.lookup (dotted (last :: parents).reverse) with
      | none => some notImportable
      | some decl => decl.failure := by
  rw [Universe.raisesParts]
  rcases h with rfl | ⟨hr, hp⟩
  · rfl
  · simp [hr, hp]

theorem raisesParts_of_refused {raised : Raised} (hne : parents ≠ [])
    (hr : u.raisesParts parents = none)
    (hp : u.refusesChildren? (dotted parents.reverse) = some raised) :
    u.raisesParts (last :: parents) = some raised := by
  have hempty : parents.isEmpty = false := by simpa using hne
  simp [Universe.raisesParts, hempty, hr, hp]

theorem raisesParts_of_parents {raised : Raised} (hne : parents ≠ [])
    (hr : u.raisesParts parents = some raised) :
    u.raisesParts (last :: parents) = some raised := by
  have hempty : parents.isEmpty = false := by simpa using hne
  simp [Universe.raisesParts, hempty, hr]

theorem bindInHolder (ho : u.Orderly) (hu : Undotted (last :: parents)) (hm : m.Follows u)
    (hnone : u.raises? (dotted (last :: parents).reverse) = none) {id : Nat}
    (hid : m.find? (dotted (last :: parents).reverse) = some id) :
    ∃ m', (match m.find? (dotted parents.reverse) with
        | some holder => if parents.isEmpty then m else m.bind holder last (.module id)
        | none => m) = m' ∧
      m'.Follows u ∧ Extends [] m m' ∧ m'.find? (dotted (last :: parents).reverse) = some id := by
  cases hp : m.find? (dotted parents.reverse) with
  | none => exact ⟨m, rfl, hm, .refl _ m, hid⟩
  | some holder =>
    by_cases hne : parents = []
    · subst hne
      exact ⟨m, rfl, hm, .refl _ m, hid⟩
    · have hempty : parents.isEmpty = false := by simpa using hne
      obtain ⟨-, o, hobj, hname⟩ := hm.loaded _ holder hp
      have hfull : o.name ++ "." ++ last = dotted (last :: parents).reverse := by
        rw [hname, List.reverse_cons, dotted_append_singleton last (by simpa using hne)]
      have hlast : isInherent last = false := by
        have hord := (ho.ordinary _ hnone).1
        rw [dottedParts_dotted hu.reverse (by simp)] at hord
        simpa using hord
      have hpath : last ≠ "__path__" := by
        rintro rfl
        exact absurd hlast (by decide)
      refine ⟨m.bind holder last (.module id), by simp [hempty], ?_, ?_, hid⟩
      · obtain ⟨-, made, hmade, -⟩ := hm.loaded _ id hid
        have hw : (Held.module id).Within m.objects.length := by
          rw [Held.Within]
          exact Imports.lt_of_getElem? hmade
        apply hm.bind hpath hw
        intro o' ho' _
        rw [hobj, Option.some.injEq] at ho'
        subst ho'
        exact ⟨id, rfl, by rw [hfull, hid]⟩
      · apply Imports.extends_bind_of_same hlast
        intro o' old ho' hold
        rw [hobj, Option.some.injEq] at ho'
        subst ho'
        obtain ⟨i, rfl, hi⟩ := hm.bound holder o last old hobj hold (by rw [hfull, hnone])
        rw [hfull, hid, Option.some.injEq] at hi
        rw [hi]

variable (ho : u.Orderly)
  (hi : ∀ name m, m.Follows u → u.waiting m < depth → Meets u (importing name) name m)
include ho hi

theorem importInParent_meets_of_ready (hu : Undotted (last :: parents)) (hm : m.Follows u)
    (hd : u.waiting m < depth + 1)
    (hn : m.find? (dotted (last :: parents).reverse) = none) (hp : Ready m parents)
    (hup : parents = [] ∨
      u.raisesParts parents = none ∧ u.refusesChildren? (dotted parents.reverse) = none) :
    Meets u (importInParent u importing last parents) (dotted (last :: parents).reverse) m := by
  have hr := (raises?_dotted u hu (List.cons_ne_nil last parents)).trans
    (raisesParts_of_ready last hup)
  cases hl : u.lookup (dotted (last :: parents).reverse) with
  | none =>
    rw [hl] at hr
    exact .of_raised hr (importInParent_of_undeclared hn hp hl) hm (.refl _ m)
  | some decl =>
    rw [hl] at hr
    have hmade := execute_meets ho hi hm hd hl hn hr
    constructor
    · intro hnone
      obtain ⟨id, m', hx, hm', hext, hfound⟩ := hmade.found hnone
      obtain ⟨m'', heq, hm'', hext', hfound'⟩ := bindInHolder ho hu hm' hnone hfound
      refine ⟨id, m'', ?_, hm'', hext.trans hext', hfound'⟩
      rw [importInParent_of_made hn hp hl hx, heq]
    · intro raised hraised
      obtain ⟨m', hx, hm', hext⟩ := hmade.fails raised hraised
      exact ⟨m', importInParent_of_raised hn hp hl hx, hm', hext⟩

theorem importInParent_meets (hu : Undotted (last :: parents)) (hm : m.Follows u)
    (hd : u.waiting m < depth + 1)
    (hp : parents = [] ∨ ∃ id, m.find? (dotted parents.reverse) = some id) :
    Meets u (importInParent u importing last parents) (dotted (last :: parents).reverse) m := by
  cases hn : m.find? (dotted (last :: parents).reverse) with
  | some id => exact .of_found hm hn (importInParent_of_found hn)
  | none =>
    by_cases hne : parents = []
    · exact importInParent_meets_of_ready ho hi hu hm hd hn (.inl hne) (.inl hne)
    · obtain ⟨id, hid⟩ := hp.resolve_left hne
      have hparents : u.raisesParts parents = none :=
        (raises?_dotted u hu.tail hne).symm.trans (hm.loaded _ id hid).1
      have hsame := refusesChildren?_of_found hm hid
      -- The holder has been imported, but it may refuse to hold other modules.
      cases hrefused : u.refusesChildren? (dotted parents.reverse) with
      | some raised =>
        have hr : u.raisesParts (last :: parents) = some raised :=
          raisesParts_of_refused hne hparents hrefused
        exact .of_raised ((raises?_dotted u hu (List.cons_ne_nil last parents)).trans hr)
          (importInParent_of_refused hn hne (hsame.trans hrefused)) hm (.refl _ m)
      | none =>
        exact importInParent_meets_of_ready ho hi hu hm hd hn (.inr (hsame.trans hrefused))
          (.inr ⟨hparents, hrefused⟩)

theorem importParts_meets {parts : List String} (hu : Undotted parts) (hne : parts ≠ [])
    (hm : m.Follows u) (hd : u.waiting m < depth + 1) :
    Meets u (importParts u importing parts) (dotted parts.reverse) m := by
  induction parts with
  | nil => exact absurd rfl hne
  | cons last parents ih =>
    have hraises := raises?_dotted u hu hne
    cases hn : m.find? (dotted (last :: parents).reverse) with
    | some id => exact .of_found hm hn (importParts_of_found hn)
    | none =>
      by_cases hp : parents = []
      · subst hp
        have hin := importInParent_meets ho hi hu hm hd (.inl rfl)
        exact hin.of_extends (.refl _ m) (importParts_of_top hn)
      · -- The parents are imported first, and may fail.
        have hparents := ih hu.tail hp
        cases hr : u.raises? (dotted parents.reverse) with
        | some raised =>
          obtain ⟨m', hx, hm', hext⟩ := hparents.fails raised hr
          rw [raises?_dotted u hu.tail hp] at hr
          refine .of_raised (hraises.trans (raisesParts_of_parents hp hr)) ?_ hm' hext
          rw [importParts_of_parents hn hp, bind_of_error hx]
        | none =>
          obtain ⟨pid, m₁, hx, hm₁, hext, hpid⟩ := hparents.found hr
          have hd₁ : u.waiting m₁ < depth + 1 := Nat.lt_of_le_of_lt (Universe.waiting_le hext) hd
          have hin := importInParent_meets ho hi hu hm₁ hd₁ (.inr ⟨pid, hpid⟩)
          apply hin.of_extends hext
          rw [importParts_of_parents hn hp, bind_of_ok hx]

end Parts

theorem importWithin_meets (ho : u.Orderly) (name : String) (hm : m.Follows u)
    (hd : u.waiting m < depth) : Meets u (importWithin u depth name) name m := by
  -- Every import that begins leaves one module less to import, so the depth is never used up.
  induction depth generalizing name m with
  | zero => omega
  | succ depth ih =>
    have hparts := importParts_meets ho (fun name m hm hd => ih name hm hd)
      (undotted_dottedParts name).reverse (by simpa using dottedParts_ne_nil name) hm hd
    rw [List.reverse_reverse, dotted_dottedParts] at hparts
    exact hparts

theorem importModule_meets (ho : u.Orderly) (name : String) (hm : m.Follows u) :
    Meets u (importModule u name) name m := by
  apply importWithin_meets ho name hm
  have hle : u.waiting m ≤ u.length := List.countP_le_length
  omega

end Importing

end BuildScripts

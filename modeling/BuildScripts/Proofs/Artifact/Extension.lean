import BuildScripts.Artifact.Library
import BuildScripts.Proofs.Artifact.Names
import Mathlib.Data.List.Basic

namespace BuildScripts

theorem Imports.lookup_setName {α : Type} (name n : String) (x : α) (es : List (String × α)) :
    (setName name x es).lookup n = if n = name then some x else es.lookup n := by
  induction es with
  | nil =>
    by_cases h : n = name
    · simp [setName, h]
    · have hb : (n == name) = false := by simpa using h
      simp [setName, List.lookup_cons, h, hb]
  | cons e es ih =>
    obtain ⟨k, y⟩ := e
    by_cases hk : k = name
    · subst hk
      by_cases h : n = k
      · simp [setName, h]
      · have hb : (n == k) = false := by simpa using h
        simp [setName, List.lookup_cons, h, hb]
    · by_cases h : n = k
      · subst h
        simp [setName, hk]
      · have hb : (n == k) = false := by simpa using h
        simp only [setName, hk, if_false, List.lookup_cons, hb]
        exact ih

def isInherent (name : String) : Bool :=
  ["__name__", "__class__", "__spec__", "__loader__", "__file__", "__cached__", "__builtins__",
    "__path__"].contains name || Loaded.namesOfAny.contains name

mutual

def Held.Within (n : Nat) : Held → Prop
  | .module id => id < n
  | .object _ _ attributes => AllWithin n attributes
  | .value _ => True

def AllWithin (n : Nat) : List (String × Held) → Prop
  | [] => True
  | (_, held) :: rest => held.Within n ∧ AllWithin n rest

end

mutual

theorem Held.Within.mono {n k : Nat} {held : Held} (h : held.Within n) (hle : n ≤ k) :
    held.Within k := by
  cases held with
  | module id =>
    simp only [Held.Within] at h ⊢
    omega
  | object definedIn failing attributes =>
    simp only [Held.Within] at h ⊢
    exact AllWithin.mono h hle
  | value v => simp only [Held.Within]

theorem AllWithin.mono {n k : Nat} {es : List (String × Held)} (h : AllWithin n es)
    (hle : n ≤ k) : AllWithin k es := by
  cases es with
  | nil => simp only [AllWithin]
  | cons e rest =>
    simp only [AllWithin] at h ⊢
    exact ⟨h.1.mono hle, h.2.mono hle⟩

end

theorem AllWithin.lookup {n : Nat} {es : List (String × Held)} {name : String} {held : Held}
    (h : AllWithin n es) (hl : es.lookup name = some held) : held.Within n := by
  induction es with
  | nil => cases hl
  | cons e rest ih =>
    simp only [AllWithin] at h
    rw [List.lookup_cons] at hl
    split at hl
    · cases hl
      exact h.1
    · exact ih h.2 hl

namespace Loaded

variable {o o' o'' : Loaded}

structure Same (o o' : Loaded) : Prop where
  name : o'.name = o.name
  file : o'.file = o.file
  isPackage : o'.isPackage = o.isPackage
  lookupFailure : o'.lookupFailure = o.lookupFailure

theorem Same.refl (o : Loaded) : Same o o := ⟨rfl, rfl, rfl, rfl⟩

theorem Same.trans (h : Same o o') (h' : Same o' o'') : Same o o'' :=
  ⟨h'.name.trans h.name, h'.file.trans h.file, h'.isPackage.trans h.isPackage,
    h'.lookupFailure.trans h.lookupFailure⟩

/-- The attributes are still bound as they were, and none that a module answers to by itself has
been bound since. -/
structure Keeps (o o' : Loaded) : Prop where
  bound : ∀ n held, o.attributes.lookup n = some held → o'.attributes.lookup n = some held
  fresh : ∀ n, o.attributes.lookup n = none → isInherent n = true → o'.attributes.lookup n = none

theorem Keeps.refl (o : Loaded) : Keeps o o := ⟨fun _ _ h => h, fun _ h _ => h⟩

theorem Keeps.trans (h : Keeps o o') (h' : Keeps o' o'') : Keeps o o'' where
  bound n held hb := h'.bound n held (h.bound n held hb)
  fresh n hn hi := h'.fresh n (h.fresh n hn hi) hi

end Loaded

namespace Imports

variable {busy : List Nat} {m m' m'' : Imports} {id : Nat} {name : String}

/-- Names give what they gave, and the objects of modules are kept. The attributes of those that are
still being made may change. -/
structure Extends (busy : List Nat) (m m' : Imports) : Prop where
  current : ∀ name id, m.find? name = some id → m'.find? name = some id
  objects : ∀ id o, m.objects[id]? = some o →
    ∃ o', m'.objects[id]? = some o' ∧ o.Same o' ∧ (id ∉ busy → o.Keeps o')

theorem Extends.refl (busy : List Nat) (m : Imports) : Extends busy m m :=
  ⟨fun _ _ h => h, fun _ o h => ⟨o, h, .refl o, fun _ => .refl o⟩⟩

theorem Extends.trans (h : Extends busy m m') (h' : Extends busy m' m'') : Extends busy m m'' where
  current name id hc := h'.current name id (h.current name id hc)
  objects id o ho := by
    obtain ⟨o', ho', hs, hk⟩ := h.objects id o ho
    obtain ⟨o'', ho'', hs', hk'⟩ := h'.objects id o' ho'
    exact ⟨o'', ho'', hs.trans hs', fun hb => (hk hb).trans (hk' hb)⟩

theorem Extends.mono (h : Extends [] m m') (busy : List Nat) : Extends busy m m' where
  current := h.current
  objects id o ho := by
    obtain ⟨o', ho', hs, hk⟩ := h.objects id o ho
    exact ⟨o', ho', hs, fun _ => hk List.not_mem_nil⟩

def HoldsOwn (m : Imports) : Prop :=
  ∀ (id : Nat) (o : Loaded) n held, m.objects[id]? = some o → o.attributes.lookup n = some held →
    held.Within m.objects.length

theorem lt_of_getElem? {o : Loaded} (h : m.objects[id]? = some o) : id < m.objects.length :=
  (List.getElem?_eq_some_iff.1 h).1

theorem Extends.length_le (h : Extends busy m m') : m.objects.length ≤ m'.objects.length := by
  by_contra hlt
  have hid : m'.objects.length < m.objects.length := by omega
  obtain ⟨o', ho', -⟩ := h.objects _ _ (List.getElem?_eq_getElem hid)
  have := lt_of_getElem? ho'
  omega

theorem getElem?_modify (m : Imports) (id i : Nat) (f : Loaded → Loaded) :
    (m.modify id f).objects[i]? =
      if i = id then (m.objects[i]?).map f else m.objects[i]? := by
  simp only [modify, List.getElem?_mapIdx]
  by_cases h : i = id
  · simp [h]
  · simp [h]

theorem length_bind (m : Imports) (id : Nat) (last : String) (held : Held) :
    (m.bind id last held).objects.length = m.objects.length := by
  simp [bind, modify]

theorem getElem?_bind (m : Imports) (id i : Nat) (last : String) (held : Held) :
    (m.bind id last held).objects[i]? = if i = id
      then (m.objects[i]?).map fun o => { o with attributes := setName last held o.attributes }
      else m.objects[i]? :=
  getElem?_modify m id i _

theorem extends_bind (m : Imports) (id : Nat) (last : String) (held : Held) :
    Extends [id] m (m.bind id last held) where
  current _ _ h := h
  objects i o ho := by
    rw [getElem?_bind, ho]
    by_cases hi : i = id
    · rw [if_pos hi]
      exact ⟨_, rfl, ⟨rfl, rfl, rfl, rfl⟩, fun hb => absurd (List.mem_singleton.2 hi) hb⟩
    · rw [if_neg hi]
      exact ⟨o, rfl, .refl o, fun _ => .refl o⟩

theorem extends_bind_of_same {last : String} {held : Held} (hi : isInherent last = false)
    (h : ∀ o old, m.objects[id]? = some o → o.attributes.lookup last = some old → old = held) :
    Extends [] m (m.bind id last held) where
  current _ _ h := h
  objects i o ho := by
    rw [getElem?_bind, ho]
    by_cases he : i = id
    · subst he
      rw [if_pos rfl]
      refine ⟨_, rfl, ⟨rfl, rfl, rfl, rfl⟩, fun _ => ⟨fun n old hn => ?_, fun n hn hinh => ?_⟩⟩
      · rw [lookup_setName]
        by_cases hl : n = last
        · subst hl
          rw [if_pos rfl, h o old ho hn]
        · rw [if_neg hl, hn]
      · rw [lookup_setName, if_neg, hn]
        rintro rfl
        rw [hi] at hinh
        cases hinh
    · rw [if_neg he]
      exact ⟨o, rfl, .refl o, fun _ => .refl o⟩

theorem find?_begin (m : Imports) (name n : String) (decl : Declaration) :
    (m.begin_ name decl).1.find? n = if n = name then some m.objects.length else m.find? n :=
  lookup_setName name n m.objects.length m.current

theorem getElem?_begin (m : Imports) (name : String) (decl : Declaration) (i : Nat) :
    (m.begin_ name decl).1.objects[i]? =
      if i = m.objects.length
      then some (decl.begun name)
      else m.objects[i]? := by
  rw [begin_, List.getElem?_append]
  by_cases hlt : i < m.objects.length
  · rw [if_pos hlt, if_neg (by omega)]
  · rw [if_neg hlt]
    by_cases he : i = m.objects.length
    · simp [he]
    · rw [if_neg he, List.getElem?_eq_none (by simp; omega), List.getElem?_eq_none (by omega)]

theorem extends_begin (decl : Declaration) (hn : m.find? name = none) :
    Extends [] m (m.begin_ name decl).1 where
  current n id h := by
    rw [find?_begin, if_neg, h]
    rintro rfl
    rw [hn] at h
    cases h
  objects i o ho := by
    have hlt := lt_of_getElem? ho
    refine ⟨o, ?_, .refl o, fun _ => .refl o⟩
    rw [getElem?_begin, if_neg (by omega), ho]

theorem Extends.of_busy (h : Extends [] m m') (h' : Extends [m.objects.length] m' m'') :
    Extends [] m m'' where
  current name id hc := h'.current name id (h.current name id hc)
  objects id o ho := by
    obtain ⟨o', ho', hs, hk⟩ := h.objects id o ho
    obtain ⟨o'', ho'', hs', hk'⟩ := h'.objects id o' ho'
    have hlt := lt_of_getElem? ho
    have hid : id ∉ [m.objects.length] := by simp; omega
    exact ⟨o'', ho'', hs.trans hs', fun hb => (hk hb).trans (hk' hid)⟩

theorem find?_forget (m : Imports) (name n : String) :
    (m.forget name).find? n = if n = name then none else m.find? n := by
  simp only [find?, forget]
  generalize m.current = es
  induction es with
  | nil => simp
  | cons e es ih =>
    obtain ⟨k, i⟩ := e
    by_cases hk : k = name
    · subst hk
      by_cases hn : n = k
      · simpa [List.filter_cons, hn] using ih
      · have hb : (n == k) = false := by simpa using hn
        simpa [List.filter_cons, List.lookup_cons, hn, hb] using ih
    · by_cases hn : n = k
      · subst hn
        simp [hk]
      · have hb : (n == k) = false := by simpa using hn
        simpa [List.filter_cons, List.lookup_cons, hk, hb] using ih

theorem find?_forget_begin (decl : Declaration) (hn : m.find? name = none) (n : String) :
    ((m.begin_ name decl).1.forget name).find? n = m.find? n := by
  rw [find?_forget, find?_begin]
  by_cases h : n = name
  · rw [if_pos h, h, hn]
  · rw [if_neg h, if_neg h]

theorem extends_forget_begin (decl : Declaration) (hn : m.find? name = none) :
    Extends [] m ((m.begin_ name decl).1.forget name) where
  current n id h := by rw [find?_forget_begin decl hn, h]
  objects := (extends_begin decl hn).objects

end Imports

end BuildScripts

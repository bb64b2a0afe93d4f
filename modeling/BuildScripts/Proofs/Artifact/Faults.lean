import BuildScripts.Proofs.Artifact.Resolving
import BuildScripts.Proofs.Disk.Lookup

namespace BuildScripts

open Attempt

inductive LookupFault (F : Fault → Prop) : Fault → Prop
  | unresolvable (v : Unresolvable) : LookupFault F (.unresolvable v)
  | nullByte : LookupFault F .nullByte
  | linkLoop (path : String) : LookupFault F (.linkLoop path)
  | foreign {f : Fault} (h : F f) : LookupFault F f

namespace Interpreter

variable {σ ω : Type} {I : Interpreter σ ω} {F : Fault → Prop} {d : Disk} {token name : String}
  {x base reached : ω} {s t : σ} {f : Fault}

structure RaisesOnly (I : Interpreter σ ω) (F : Fault → Prop) : Prop where
  importModule : ∀ x, FaultsAre F (I.importModule x)
  loaded? : ∀ x, FaultsAre F (I.loaded? x)
  lookUp : ∀ x name, FaultsAre F (I.lookUp x name)
  isModule : ∀ x, FaultsAre F (I.isModule x)
  isTrue : ∀ x, FaultsAre F (I.isTrue x)
  pathText : ∀ x, FaultsAre F (I.pathText x)
  shown : ∀ raised, FaultsAre F (I.shown raised)
  told : ∀ raised, FaultsAre F (I.told raised)

section Raising

variable (hI : I.RaisesOnly F)
include hI

theorem Answers.fault (h : I.Answers x name s (.error f t)) : F f := by
  cases h with
  | fails h => exact hI.lookUp x name s f t h

theorem Reports.fault (h : I.Reports base reached s (.error f t)) : F f := by
  cases h with
  | empty _ _ hn => exact hI.lookUp _ _ _ _ _ hn
  | missing _ hn => exact hI.lookUp _ _ _ _ _ hn
  | unanswered hx => exact hx.fault hI
  | unjudged _ ht => exact hI.isTrue _ _ _ _ ht

theorem Defines.fault (h : I.Defines base reached s (.error f t)) : F f := by
  cases h with
  | unjudged hm => exact hI.isModule _ _ _ _ hm
  | unreported _ hn => exact hn.fault hI
  | unsought _ _ hl => exact hI.loaded? _ _ _ _ hl
  | ended _ _ _ hx => exact hI.importModule _ _ _ _ hx

theorem FileOf.fault (h : I.FileOf d x s (.error f t)) : LookupFault F f := by
  cases h with
  | unanswered hx => exact .foreign (hx.fault hI)
  | unjudged _ ht => exact .foreign (hI.isTrue _ _ _ _ ht)
  | noPath _ _ hp => exact .foreign (hI.pathText _ _ _ _ hp)
  | unresolved _ _ _ hd =>
    rcases Disk.resolve_fault hd with rfl | ⟨path, rfl⟩
    · exact .nullByte
    · exact .linkLoop path

theorem Leaks.fault (h : I.Leaks d token s f t) : LookupFault F f := by
  cases h with
  | importing h =>
    obtain ⟨-, hx, -⟩ := h
    exact .foreign (hI.importModule _ _ _ _ hx)
  | following h =>
    obtain ⟨-, -, hx⟩ := h
    exact .foreign (hI.lookUp _ _ _ _ _ hx)
  | quotingImport _ _ hq => exact .foreign (hI.shown _ _ _ _ hq)
  | quotingLookup _ _ _ hq => exact .foreign (hI.shown _ _ _ _ hq)
  | tellingImport _ _ _ _ ht => exact .foreign (hI.told _ _ _ _ ht)
  | defining _ hd => exact .foreign (hd.fault hI)
  | locating _ _ hf => exact hf.fault hI

theorem faults_resolve (d : Disk) (token : String) :
    FaultsAre (LookupFault F) (I.resolve d token) := by
  intro s f t h
  cases resolve_eq_iff.1 h with
  | leaks _ h => exact h.fault hI
  | _ => exact .unresolvable _

end Raising

end Interpreter

def Fault.IsRaised (f : Fault) : Prop :=
  ∃ raised, f = .raised raised

namespace Library

theorem faults_asking {α : Type} (f : Imports → Except Raised α) :
    FaultsAre Fault.IsRaised (asking f) := by
  intro m fault m' h
  cases hf : f m with
  | ok a =>
    rw [asking_of_ok hf] at h
    cases h
  | error raised =>
    rw [asking_of_error hf] at h
    cases h
    exact ⟨raised, rfl⟩

theorem raisesOnly (lib : Library) : lib.interpreter.RaisesOnly Fault.IsRaised where
  importModule _ := .ofForeign fun raised => ⟨raised, rfl⟩
  loaded? _ := faults_asking _
  lookUp _ _ := faults_asking _
  isModule _ := faults_asking _
  isTrue _ := .pure _
  pathText _ := faults_asking _
  shown _ := .pure _
  told _ := .pure _

end Library

end BuildScripts

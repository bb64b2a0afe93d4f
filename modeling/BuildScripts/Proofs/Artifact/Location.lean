import BuildScripts.Proofs.Artifact.Ways

namespace BuildScripts.Resolver

open Attempt

variable {σ ω : Type} {I : Interpreter σ ω} {listed : Manifest} {d : Disk} {token : String}

theorem listedOr_of_listed {file : String} (h : listed.lookup token = some file) (s : σ) :
    (listedOr listed I).resolve d token s = .ok file s := by
  have hne : listed.isEmpty = false := by
    cases listed with
    | nil => cases h
    | cons e rest => rfl
  rw [listedOr, hne, if_neg Bool.false_ne_true]
  simp only [manifest, h]
  rfl

theorem listedOr_of_unlisted (h : listed.lookup token = none) (s : σ) :
    (listedOr listed I).resolve d token s = I.resolve d token s := by
  rw [listedOr]
  split
  · rfl
  · simp only [manifest, h]
    rfl

end BuildScripts.Resolver

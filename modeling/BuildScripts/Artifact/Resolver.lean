import BuildScripts.Artifact.Library

namespace BuildScripts

/-- Finds the file of a reference; `σ` is what earlier answers leave behind for later ones. -/
structure Resolver (σ : Type) where
  resolve : Disk → String → Attempt σ String

abbrev Manifest := List (String × String)

namespace Resolver

variable {σ ω : Type}

def modules (I : Interpreter σ ω) : Resolver σ :=
  ⟨I.resolve⟩

def library (lib : Library) : Resolver Imports :=
  modules lib.interpreter

def manifest (listed : Manifest) (fallback : Option (Resolver σ)) : Resolver σ :=
  ⟨fun d name =>
    match listed.lookup name with
    | some file => pure file
    | none =>
      match fallback with
      | some other => other.resolve d name
      | none => throw (.unresolvable ⟨name, none, "not listed in the reference manifest"⟩)⟩

def listedOr (listed : Manifest) (I : Interpreter σ ω) : Resolver σ :=
  if listed.isEmpty then modules I else manifest listed (some (modules I))

def configured (listed : Manifest) (lib : Library) : Resolver Imports :=
  listedOr listed lib.interpreter

end Resolver

end BuildScripts

import BuildScripts.Fault

/-!
Computations that may change a state and may fail. What they changed before they failed stays
changed.
-/

namespace BuildScripts

abbrev Attempt (σ : Type) := EStateM Fault σ

/-- Code that is not part of this program and raises none of its faults. -/
abbrev Foreign (σ : Type) := EStateM Raised σ

namespace Attempt

variable {σ τ α : Type}

def ofExcept : Except Fault α → Attempt σ α
  | .ok a => pure a
  | .error f => throw f

def asking (f : σ → Except Fault α) : Attempt σ α := fun s =>
  ofExcept (f s) s

def ofForeign (x : Foreign σ α) : Attempt σ α := fun s =>
  match x s with
  | .ok a s' => .ok a s'
  | .error raised s' => .error (.raised raised) s'

def catching (x : Attempt σ α) : Attempt σ (Except Fault α) := fun s =>
  match x s with
  | .ok a s' => .ok (.ok a) s'
  | .error f s' => .ok (.error f) s'

def mapFault (f : Fault → Fault) (x : Attempt σ α) : Attempt σ α := fun s =>
  match x s with
  | .ok a s' => .ok a s'
  | .error e s' => .error (f e) s'

def onPart (part : σ → τ) (replace : σ → τ → σ) (x : Attempt τ α) : Attempt σ α := fun s =>
  match x (part s) with
  | .ok a t => .ok a (replace s t)
  | .error f t => .error f (replace s t)

end Attempt

end BuildScripts

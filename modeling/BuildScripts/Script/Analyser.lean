import BuildScripts.Script.Processor
import BuildScripts.Text.Lines

/-!
Analysis of a script: each line goes to the first processor that takes it, and a line that none
takes belongs to the body. A fault in a line ends the analysis.
-/

namespace BuildScripts

open BuildScripts.Text

abbrev Chain (σ : Type) := List (Processor σ)

def dispatch {σ : Type} (d : Disk) (line : String) : Chain σ → Attempt (Scan σ) Bool
  | [] => pure false
  | p :: ps => do
    if ← p.process d line then return true
    dispatch d line ps

def scanLines {σ : Type} (chain : Chain σ) (d : Disk) : List String → Attempt (Scan σ) (List String)
  | [] => pure []
  | line :: lines => do
    let taken ← dispatch d line chain
    let body ← scanLines chain d lines
    return if taken then body else line :: body

def analyseLines {σ : Type} (chain : Chain σ) (d : Disk) (lines : List String)
    (script : Option String) : Attempt σ Analysis := fun r =>
  match scanLines chain d lines ⟨.start script, r⟩ with
  | .ok body s => .ok ⟨s.metadata, body⟩ s.resolver
  | .error f s => .error f s.resolver

def analyseText {σ : Type} (chain : Chain σ) (d : Disk) (text : String) (script : Option String) :
    Attempt σ Analysis :=
  analyseLines chain d (physicalLines text) script

def analyseFile {σ : Type} (chain : Chain σ) (d : Disk) (p : Path) : Attempt σ Analysis := do
  let text ← Attempt.ofExcept (d.readText p)
  let full ← Attempt.ofExcept (d.resolve p)
  analyseText chain d text (some full.toText)

end BuildScripts

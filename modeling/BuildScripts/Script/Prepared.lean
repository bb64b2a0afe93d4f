import BuildScripts.Script.Analyser

namespace BuildScripts

open BuildScripts.Text

def lineNumberFrom (n : Nat) (line : String) : List String → Option Nat
  | [] => none
  | l :: ls => if l = line then some n else lineNumberFrom (n + 1) line ls

def lineNumber? (text : String) (line : Option String) : Option Nat :=
  line.bind fun l => lineNumberFrom 1 l (physicalLines text)

def rejecting (p : Path) (text : String) : Fault → Fault
  | .unresolvable u =>
    .rejected ⟨p.toText, u.token, u.line, lineNumber? text u.line, u.reason⟩
  | f => f

def prepareText {σ : Type} (chain : Chain σ) (d : Disk) (text : String) (p : Path) :
    Attempt σ Analysis := do
  let full ← Attempt.ofExcept (d.resolve p)
  (analyseText chain d text (some full.toText)).mapFault (rejecting p text)

def prepareScript {σ : Type} (chain : Chain σ) (d : Disk) (p : Path) : Attempt σ Analysis := do
  let text ← Attempt.ofExcept (d.readText p)
  prepareText chain d text p

structure Workshop (σ : Type) where
  disk : Disk
  resolver : σ

namespace Workshop

variable {σ α : Type}

def onDisk (x : Attempt Disk α) : Attempt (Workshop σ) α :=
  x.onPart Workshop.disk fun w d => { w with disk := d }

def resolving (x : Disk → Attempt σ α) : Attempt (Workshop σ) α := fun w =>
  (x w.disk).onPart Workshop.resolver (fun w r => { w with resolver := r }) w

end Workshop

end BuildScripts

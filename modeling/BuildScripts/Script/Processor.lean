import BuildScripts.Artifact.Resolver
import BuildScripts.Script.Directive

/-!
Processors of directive lines. A processor takes the lines that carry its marker and adds to the
metadata what their payload names; it leaves every other line alone.
-/

namespace BuildScripts

open BuildScripts.Text

structure Scan (σ : Type) where
  metadata : Metadata
  resolver : σ

structure Processor (σ : Type) where
  process : Disk → String → Attempt (Scan σ) Bool

def Scan.resolving {σ α : Type} (x : Attempt σ α) : Attempt (Scan σ) α :=
  x.onPart Scan.resolver fun s r => { s with resolver := r }

/-- A path in a script is relative to the directory of the script, or to the current directory for
a text that is no file. -/
def scriptRelative (d : Disk) (script : Option String) (token : String) : Except Fault Path :=
  let path := Path.ofText token
  if path.isAbsolute then .ok path
  else
    match script.filter (!·.isEmpty) with
    | some s => d.resolve ((Path.ofText s).parent.join path)
    | none => d.resolve (d.currentPath.join path)

def checkBelow (d : Disk) (root : Option Path) (token line : String) (path : Path) :
    Except Fault Unit :=
  match root with
  | none => .ok ()
  | some r => do
    let full ← d.resolve path
    if full.isBelow r then .ok ()
    else .error (.unresolvable ⟨token, some line, "path outside " ++ r.toText⟩)

def existingFile (d : Disk) (root : Option Path) (script : Option String) (token line : String) :
    Except Fault String := do
  let path ← scriptRelative d script token
  checkBelow d root token line path
  if ← d.isFile path then .ok path.toText
  else .error (.unresolvable ⟨token, some line, "file not found: " ++ path.toText⟩)

def withLine (token line : String) : Fault → Fault
  | .unresolvable u => .unresolvable ⟨token, some line, u.reason⟩
  | f => f

namespace Processor

def forDirective {σ : Type} (dir : Directive)
    (add : Disk → String → String → Attempt (Scan σ) Unit) : Processor σ :=
  ⟨fun d line =>
    if dir.marks line then
      match Directive.payload line with
      | none => pure true
      | some token => do
        add d token line
        return true
    else pure false⟩

def change {σ : Type} (f : Metadata → Metadata) : Attempt (Scan σ) Unit :=
  modify fun s => { s with metadata := f s.metadata }

def reference {σ : Type} (r : Resolver σ) : Processor σ :=
  forDirective .reference fun d token line => do
    let file ← (Scan.resolving (r.resolve d token)).mapFault (withLine token line)
    change (·.addReference file)

def assembly {σ : Type} (root : Option Path) : Processor σ :=
  forDirective .assembly fun d token line => do
    let s ← get
    let file ← Attempt.ofExcept (existingFile d root s.metadata.script token line)
    change (·.addReference file)

def sourceFile {σ : Type} (root : Option Path) : Processor σ :=
  forDirective .sourceFile fun d token line => do
    let s ← get
    let file ← Attempt.ofExcept (existingFile d root s.metadata.script token line)
    change (·.addSourceFile file)

def package {σ : Type} : Processor σ :=
  forDirective .package fun _ token _ => do
    let p := Directive.readPackage token
    unless p.name.isEmpty do
      change (·.addPackage p)

end Processor

def localChain {σ : Type} (r : Resolver σ) : List (Processor σ) :=
  [.reference r, .assembly none, .sourceFile none, .package]

def serverChain {σ : Type} (r : Resolver σ) (root : Path) : List (Processor σ) :=
  [.reference r, .assembly (some root), .sourceFile (some root), .package]

end BuildScripts

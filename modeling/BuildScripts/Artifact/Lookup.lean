import BuildScripts.Attempt
import BuildScripts.Disk.Resolve
import BuildScripts.Text.Identifier

/-!
The file that a dotted name refers to: the file of the module that the name leads to, or of the
module that defines the object it leads to. Modules and objects belong to an interpreter, which runs
code that is not known here.
-/

namespace BuildScripts

open BuildScripts.Text

def atDots : List Char → List (List Char)
  | [] => [[]]
  | c :: cs =>
    match atDots cs with
    | [] => [[]]
    | p :: ps => if c = '.' then [] :: p :: ps else (c :: p) :: ps

def dottedParts (name : String) : List String :=
  (atDots name.toList).map String.ofList

def dotted (parts : List String) : String :=
  String.intercalate "." parts

/-- An interpreter with states `σ` and objects `ω`, by what can be asked of it. Each request may run
foreign code, which may change the state and may raise anything, what this program raises included. -/
structure Interpreter (σ ω : Type) where
  executable : String
  text : String → ω
  importModule : ω → Attempt σ ω
  loaded? : ω → Attempt σ (Option ω)
  lookUp : ω → String → Attempt σ ω
  isModule : ω → Attempt σ Bool
  isTrue : ω → Attempt σ Bool
  pathText : ω → Attempt σ String
  shown : Fault → Attempt σ String
  told : Fault → Attempt σ String

namespace Interpreter

open Attempt (catching)

variable {σ ω α : Type}

structure Longest (ω : Type) where
  module : ω
  attributes : List String

def unresolvable (token reason : String) : Attempt σ α :=
  throw (.unresolvable ⟨token, none, reason⟩)

variable (I : Interpreter σ ω)

def lookUp? (x : ω) (name : String) : Attempt σ (Option ω) :=
  tryCatch (some <$> I.lookUp x name) fun raised =>
    if raised.isAttributeError then pure none else throw raised

def location (d : Disk) (module : ω) : Attempt σ String := do
  match ← I.lookUp? module "__file__" with
  | none => return I.executable
  | some file =>
    if ← I.isTrue file then
      let text ← I.pathText file
      Attempt.ofExcept ((d.resolve (Path.ofText text)).map Path.toText)
    else return I.executable

/-- Quoting an exception may itself fail. A missing key or index that comes of it is taken for a
name that cannot be imported. -/
def importFailed (token candidate : String) (raised : Fault) : Attempt σ α := do
  match ← catching (I.shown raised) with
  | .ok text => unresolvable token ("importing " ++ candidate ++ " failed: " ++ text)
  | .error other =>
    if other.isLookupError then
      let text ← I.told other
      unresolvable token text
    else throw other

/-- Tries to import all parts, then all but the last, and so on. The parts come last first;
`dropped` are those given up so far. -/
def longest (token : String) : List String → List String → Attempt σ (Longest ω)
  | [], _ => unresolvable token ("no importable module in " ++ quoted token)
  | last :: before, dropped => do
    let candidate := dotted (last :: before).reverse
    match ← catching (I.importModule (I.text candidate)) with
    | .ok module => return ⟨module, dropped⟩
    | .error raised =>
      if raised.isImportError then longest token before (last :: dropped)
      else if raised.isException then I.importFailed token candidate raised
      else throw raised

def follow (token : String) : ω → List String → Attempt σ ω
  | x, [] => pure x
  | x, name :: rest => do
    match ← catching (I.lookUp x name) with
    | .ok next => follow token next rest
    | .error raised =>
      if raised.isAttributeError then unresolvable token (quoted name ++ " not found")
      else if raised.isException then
        let text ← I.shown raised
        unresolvable token ("looking up " ++ quoted name ++ " failed: " ++ text)
      else throw raised

def definingName (base reached : ω) : Attempt σ ω := do
  match ← I.lookUp? reached "__module__" with
  | none => I.lookUp base "__name__"
  | some name => if ← I.isTrue name then return name else I.lookUp base "__name__"

def moduleNamed (base name : ω) : Attempt σ ω := do
  match ← I.loaded? name with
  | some module => return module
  | none =>
    tryCatch (I.importModule name) fun raised =>
      if raised.isException then pure base else throw raised

def definingModule (base reached : ω) : Attempt σ ω := do
  if ← I.isModule reached then return reached
  else
    let name ← I.definingName base reached
    I.moduleNamed base name

def resolve (d : Disk) (token : String) : Attempt σ String := do
  let parts := dottedParts token
  if parts.all isIdentifier then
    let found ← I.longest token parts.reverse []
    let reached ← I.follow token found.module found.attributes
    let module ← I.definingModule found.module reached
    I.location d module
  else unresolvable token "not a qualified name"

end Interpreter

end BuildScripts

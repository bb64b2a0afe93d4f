import BuildScripts.Artifact.Imports

namespace BuildScripts

open BuildScripts.Text

structure Library where
  modules : Universe
  executable : String

def Value.isHashable : Value → Bool
  | .pair first second => first.isHashable && second.isHashable
  | .list _ => false
  | .set _ => false
  | .map _ => false
  | .loop _ _ => false
  | _ => true

def wrongType : Raised :=
  ⟨"TypeError", none⟩

namespace Held

def isTrue : Held → Bool
  | .value v => v.truthy
  | _ => true

def pathText : Held → Except Raised String
  | .value (.text file) => .ok file
  | _ => .error wrongType

end Held

namespace Imports

def isModule (m : Imports) (x : Held) : Except Raised Bool :=
  match x with
  | .module _ => .ok true
  | _ =>
    match m.lookUp x "__class__" with
    | .ok _ => .ok false
    | .error raised => if raised.isAttributeError then .ok false else .error raised

def loaded? (m : Imports) (x : Held) : Except Raised (Option Held) :=
  match x with
  | .value (.text name) => .ok ((m.find? name).map .module)
  | .value v => if v.isHashable then .ok none else .error wrongType
  | _ => .ok none

/-- What is raised when an object is taken for the name of a module that is no text: it is asked
whether it begins with a dot. -/
def nameError (m : Imports) (x : Held) : Raised :=
  match m.lookUp x "startswith" with
  | .ok _ => wrongType
  | .error raised => raised

end Imports

namespace Library

/-- A name that begins with a dot is relative to a package, and here there is none. -/
def importModule (lib : Library) (x : Held) : Importing Held := do
  match x with
  | .value (.text name) =>
    if beginsWith "." name then throw wrongType
    else if name.isEmpty then throw ⟨"ValueError", some "Empty module name"⟩
    else .module <$> Importing.importModule lib.modules name
  | _ => throw ((← get).nameError x)

/-- Declared modules raise nothing but the first. -/
def shown : Fault → String
  | .raised raised => raised.quoted
  | f => f.message

def asking {α : Type} (f : Imports → Except Raised α) : Attempt Imports α :=
  Attempt.asking fun m => (f m).mapError .raised

def interpreter (lib : Library) : Interpreter Imports Held where
  executable := lib.executable
  text name := .value (.text name)
  importModule x := Attempt.ofForeign (lib.importModule x)
  loaded? x := asking (·.loaded? x)
  lookUp x name := asking (·.lookUp x name)
  isModule x := asking (·.isModule x)
  isTrue x := pure x.isTrue
  pathText x := asking fun _ => x.pathText
  shown f := pure (shown f)
  told f := pure f.message

def resolve (lib : Library) : Disk → String → Attempt Imports String :=
  lib.interpreter.resolve

end Library

end BuildScripts

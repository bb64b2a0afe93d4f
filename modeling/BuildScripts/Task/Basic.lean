import BuildScripts.Attempt

namespace BuildScripts

open BuildScripts.Text

namespace Task

def dropEscape : List Char → Option (List Char)
  | [] => none
  | c :: cs =>
    if c.isAlpha then some cs
    else if c.isDigit || c == ';' || c == '?' then dropEscape cs
    else none

def withoutEscapesFrom : Nat → List Char → List Char
  | _, [] => []
  | skip + 1, _ :: cs => withoutEscapesFrom skip cs
  | 0, '\x1b' :: '[' :: cs =>
    match dropEscape cs with
    | some rest => withoutEscapesFrom (cs.length - rest.length) cs
    | none => '\x1b' :: '[' :: withoutEscapesFrom 0 cs
  | 0, c :: cs => c :: withoutEscapesFrom 0 cs

def withoutEscapes (s : String) : String :=
  String.ofList (withoutEscapesFrom 0 s.toList)

def printed (s : String) : String :=
  withoutEscapes s ++ "\n"

def shown (message : String) : String :=
  printed ("[scriptforge] " ++ message)

def shownAll (messages : List String) : String :=
  String.join (messages.map shown)

def underName (name : String) : Fault → Fault
  | .task n cause => .task n cause
  | .raised r => if r.isException then .task name (.raised r) else .raised r
  | f => .task name f

def execute {σ α : Type} (name : String) (x : Attempt σ α) : Attempt σ α :=
  x.mapFault (underName name)

/-- The end of an iteration has a meaning of its own to what runs a step that may be suspended, so
such a step cannot fail with it. -/
def suspended : Fault → Fault
  | .raised r =>
    if r.isA "StopIteration" then
      .raised ⟨"RuntimeError", some "coroutine raised StopIteration"⟩
    else .raised r
  | f => f

def executeSuspended {σ α : Type} (name : String) (x : Attempt σ α) : Attempt σ α :=
  execute name (x.mapFault suspended)

end Task

end BuildScripts

import BuildScripts.Decimal.Whole

namespace BuildScripts.CommandLine

inductive Kind
  | path
  | text
  | whole
  deriving DecidableEq, Repr

inductive Effect
  | value (kind : Kind)
  | switch (on : Bool)
  deriving DecidableEq, Repr

structure Spelling where
  spelling : String
  name : String
  effect : Effect
  deriving DecidableEq, Repr

structure Grammar where
  spellings : List Spelling
  arity : Nat
  deriving Repr

inductive Setting
  | value (kind : Kind) (s : String)
  | switch (on : Bool)
  deriving DecidableEq, Repr

structure Arguments where
  settings : List (String × Setting)
  positions : List String
  deriving Repr

namespace Arguments

def empty : Arguments :=
  ⟨[], []⟩

def setName (name : String) (x : Setting) : List (String × Setting) → List (String × Setting)
  | [] => [(name, x)]
  | (n, y) :: rest => if n = name then (n, x) :: rest else (n, y) :: setName name x rest

def set (name : String) (x : Setting) (a : Arguments) : Arguments :=
  { a with settings := setName name x a.settings }

def addPosition (s : String) (a : Arguments) : Arguments :=
  { a with positions := a.positions ++ [s] }

def isOption (s : String) : Bool :=
  match s.toList with
  | '-' :: _ :: _ => true
  | _ => false

def cutEquals (s : String) : String × Option String :=
  let cs := s.toList
  let name := cs.takeWhile (· != '=')
  match cs.drop name.length with
  | [] => (s, none)
  | _ :: value => (String.ofList name, some (String.ofList value))

def spelling? (g : Grammar) (s : String) : Option Spelling :=
  g.spellings.find? fun x => x.spelling = s

inductive Demand
  | set (name : String) (x : Setting)
  | next (name : String) (kind : Kind)

def demand? (g : Grammar) (s : String) : Option Demand :=
  let (name, given) := cutEquals s
  match spelling? g name, given with
  | some ⟨_, n, .switch on⟩, none => some (.set n (.switch on))
  | some ⟨_, n, .value kind⟩, some v => some (.set n (.value kind v))
  | some ⟨_, n, .value kind⟩, none => some (.next n kind)
  | _, _ => none

/-- Sorts the arguments of a command. An option that takes a value takes the next argument, whatever
it is, unless the value is given with it. -/
def readFrom (g : Grammar) (a : Arguments) : List String → Option Arguments
  | [] => some a
  | s :: rest =>
    if s = "--" then some { a with positions := a.positions ++ rest }
    else if isOption s then
      match demand? g s with
      | some (.set n x) => readFrom g (a.set n x) rest
      | some (.next n kind) =>
        match rest with
        | v :: rest' => readFrom g (a.set n (.value kind v)) rest'
        | [] => none
      | none => none
    else readFrom g (a.addPosition s) rest

def isPath (s : String) : Bool :=
  !s.toList.contains '\x00'

def Setting.isProper : Setting → Bool
  | .value .path s => isPath s
  | .value .whole s => (Whole.read s).toBool
  | _ => true

def isProper (g : Grammar) (a : Arguments) : Bool :=
  (a.settings.all fun (_, x) => Setting.isProper x) && a.positions.all isPath &&
    a.positions.length == g.arity

def read? (g : Grammar) (args : List String) : Option Arguments :=
  (readFrom g empty args).filter (isProper g)

def text (a : Arguments) (name default : String) : String :=
  match a.settings.lookup name with
  | some (.value _ s) => s
  | _ => default

def whole (a : Arguments) (name : String) (default : Int) : Int :=
  match a.settings.lookup name with
  | some (.value _ s) => (Whole.read s).toOption.getD default
  | _ => default

def isOn (a : Arguments) (name : String) : Bool :=
  a.settings.lookup name == some (.switch true)

end Arguments

end BuildScripts.CommandLine

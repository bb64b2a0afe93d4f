import BuildScripts.Artifact.Lookup
import BuildScripts.Text.Basic

/-!
Modules and their import. A universe declares what can be imported; importing a module makes an
object, which later imports can change, and importing its parents comes first.
-/

namespace BuildScripts

open BuildScripts.Text

def noSuchAttribute : Raised :=
  ⟨"AttributeError", none⟩

def notImportable : Raised :=
  ⟨"ModuleNotFoundError", none⟩

structure Handler where
  raises : String → Raised

namespace Handler

/-- Raises the same for every name but those with a meaning of their own. -/
def ordinary (raised : Raised) : Handler :=
  ⟨fun name => if beginsWith "__" name then noSuchAttribute else raised⟩

instance : Coe (Option Raised) (Option Handler) := ⟨Option.map ordinary⟩

end Handler

inductive Binding
  | module (name : String)
  /-- An object with the name of its defining module, if it reports one; names that fail when they
  are looked up; and its attributes. -/
  | object (definedIn : Option String) (failing : List (String × Raised))
      (attributes : List (String × Binding))
  | value (v : Value)

def Binding.plain : Binding := .value .null

structure Declaration where
  file : Option String
  isPackage : Bool
  attributes : List (String × Binding)
  failure : Option Raised
  lookupFailure : Option Handler

abbrev Universe := List (String × Declaration)

inductive Held
  | module (id : Nat)
  | object (definedIn : Option String) (failing : List (String × Raised))
      (attributes : List (String × Held))
  | value (v : Value)

structure Loaded where
  name : String
  file : Option String
  isPackage : Bool
  attributes : List (String × Held)
  lookupFailure : Option Handler

namespace Loaded

def namesOfAny : List String := [
  "__doc__", "__package__", "__dict__", "__annotations__", "__init__", "__new__", "__repr__",
  "__str__", "__format__", "__hash__", "__eq__", "__ne__", "__lt__", "__le__", "__gt__", "__ge__",
  "__dir__", "__sizeof__", "__getattribute__", "__setattr__", "__delattr__", "__getstate__",
  "__reduce__", "__reduce_ex__", "__init_subclass__", "__subclasshook__"]

def inherent? (o : Loaded) (name : String) : Option Held :=
  match name with
  | "__name__" => some (.value (.text o.name))
  | "__class__" => some (.object (some "builtins") [] [])
  | "__spec__" => some (.object (some "_frozen_importlib") [] [])
  | "__loader__" => some (.object (some "_frozen_importlib_external") [] [])
  | "__file__" => o.file.map fun file => .value (.text file)
  | "__cached__" => o.file.map fun _ => .value .null
  | "__builtins__" => o.file.map fun _ => .value .null
  | "__path__" => if o.isPackage then some (.value .null) else none
  | _ => if namesOfAny.contains name then some (.value .null) else none

def refusal (o : Loaded) (name : String) : Raised :=
  match o.lookupFailure with
  | some handler => handler.raises name
  | none => noSuchAttribute

def lookUp (o : Loaded) (name : String) : Except Raised Held :=
  match (o.attributes.lookup name).or (o.inherent? name) with
  | some held => .ok held
  | none => .error (o.refusal name)

/-- Why nothing can be imported from a module, where it does not say where to look. -/
def refusesChildren? (o : Loaded) : Option Raised :=
  match o.lookUp "__path__" with
  | .ok _ => none
  | .error raised => some (if raised.isAttributeError then notImportable else raised)

end Loaded

def Declaration.begun (decl : Declaration) (name : String) : Loaded :=
  ⟨name, decl.file, decl.isPackage, [], decl.lookupFailure⟩

structure Imports where
  objects : List Loaded
  current : List (String × Nat)

namespace Imports

def empty : Imports :=
  ⟨[], []⟩

def setName {α : Type} (name : String) (x : α) : List (String × α) → List (String × α)
  | [] => [(name, x)]
  | (n, y) :: rest => if n = name then (name, x) :: rest else (n, y) :: setName name x rest

def object (m : Imports) (id : Nat) : Loaded :=
  m.objects.getD id ⟨"", none, false, [], none⟩

def find? (m : Imports) (name : String) : Option Nat :=
  m.current.lookup name

def modify (m : Imports) (id : Nat) (f : Loaded → Loaded) : Imports :=
  { m with objects := m.objects.mapIdx fun i o => if i = id then f o else o }

def bind (m : Imports) (id : Nat) (name : String) (held : Held) : Imports :=
  m.modify id fun o => { o with attributes := setName name held o.attributes }

def begin_ (m : Imports) (name : String) (decl : Declaration) : Imports × Nat :=
  (⟨m.objects ++ [decl.begun name], setName name m.objects.length m.current⟩, m.objects.length)

def forget (m : Imports) (name : String) : Imports :=
  { m with current := m.current.filter (·.1 ≠ name) }

def lookUp (m : Imports) (x : Held) (name : String) : Except Raised Held :=
  match x with
  | .module id => (m.object id).lookUp name
  | .object definedIn failing attributes =>
    match failing.lookup name with
    | some raised => .error raised
    | none =>
      match attributes.lookup name, definedIn with
      | some held, _ => .ok held
      | none, some own => if name = "__module__" then .ok (.value (.text own))
        else .error noSuchAttribute
      | none, none => .error noSuchAttribute
  | .value _ => .error noSuchAttribute

def refusesChildren? (m : Imports) (name : String) : Option Raised :=
  match m.find? name with
  | none => some ⟨"KeyError", some name⟩
  | some id => (m.object id).refusesChildren?

end Imports

abbrev Importing := Foreign Imports

namespace Importing

mutual

def hold (importing : String → Importing Nat) : Binding → Importing Held
  | .module name => do
    let id ← importing name
    return .module id
  | .object definedIn failing attributes => do
    let held ← holdAll importing attributes
    return .object definedIn failing held
  | .value v => pure (.value v)

def holdAll (importing : String → Importing Nat) :
    List (String × Binding) → Importing (List (String × Held))
  | [] => pure []
  | (name, b) :: rest => do
    let held ← hold importing b
    let others ← holdAll importing rest
    return (name, held) :: others

end

def bindAll (importing : String → Importing Nat) (id : Nat) :
    List (String × Binding) → Importing Unit
  | [] => pure ()
  | (name, b) :: rest => do
    let held ← hold importing b
    modify (·.bind id name held)
    bindAll importing id rest

/-- Makes a module: its name counts as imported while its attributes are bound, and no longer once
that fails. -/
def execute (importing : String → Importing Nat) (name : String) (decl : Declaration) :
    Importing Nat := do
  let (m, id) := (← get).begin_ name decl
  set m
  try
    match decl.failure with
    | some raised => throw raised
    | none => bindAll importing id decl.attributes
  catch raised =>
    modify (·.forget name)
    throw raised
  return id

/-- Imports a module whose parents have been imported, and binds it in the one that holds it. The
name is given by its last part and the parts before that, the last of them first. -/
def importInParent (universe_ : Universe) (importing : String → Importing Nat) (last : String)
    (parents : List String) : Importing Nat := do
  let name := dotted (last :: parents).reverse
  match (← get).find? name with
  | some id => return id
  | none =>
    let parent := dotted parents.reverse
    let m ← get
    match if parents.isEmpty then none else m.refusesChildren? parent with
    | some raised => throw raised
    | none =>
      match universe_.lookup name with
      | none => throw notImportable
      | some decl =>
        let id ← execute importing name decl
        match (← get).find? parent with
        | some holder =>
          unless parents.isEmpty do
            modify (·.bind holder last (.module id))
        | none => pure ()
        return id

def importParts (universe_ : Universe) (importing : String → Importing Nat) :
    List String → Importing Nat
  | [] => throw notImportable
  | last :: parents => do
    match (← get).find? (dotted (last :: parents).reverse) with
    | some id => return id
    | none =>
      unless parents.isEmpty do
        discard <| importParts universe_ importing parents
      importInParent universe_ importing last parents

/-- An import inside imports nests at most as deep as there are modules to import. -/
def importWithin (universe_ : Universe) : Nat → String → Importing Nat
  | 0, _ => throw notImportable
  | depth + 1, name =>
    importParts universe_ (importWithin universe_ depth) (dottedParts name).reverse

def importModule (universe_ : Universe) (name : String) : Importing Nat :=
  importWithin universe_ (universe_.length + 1) name

end Importing

end BuildScripts

import BuildScripts.Yaml.Resolve

/-!
The value of a document: nodes become values, and maps take over the entries of the maps that they
merge. Collections are taken up level by level, so of several faults the one counts that is least
deep, and of those the first.
-/

namespace BuildScripts.Yaml

inductive Ranked (α : Type)
  | good (a : α)
  | bad (rank : Nat) (f : Fault)

namespace Ranked

variable {α β γ : Type}

def map (f : α → β) : Ranked α → Ranked β
  | .good a => .good (f a)
  | .bad r e => .bad r e

def both (f : α → β → γ) : Ranked α → Ranked β → Ranked γ
  | .good a, .good b => .good (f a b)
  | .bad r e, .good _ => .bad r e
  | .good _, .bad r e => .bad r e
  | .bad r e, .bad s e' => if s < r then .bad s e' else .bad r e

def all : List (Ranked α) → Ranked (List α)
  | [] => .good []
  | x :: xs => both List.cons x (all xs)

def ofExcept (rank : Nat) : Except Fault α → Ranked α
  | .ok a => .good a
  | .error f => .bad rank f

def toExcept : Ranked α → Except Fault α
  | .good a => .ok a
  | .bad _ f => .error f

end Ranked

/-- What is around a node, the innermost first: the anchor of each, and whether it is a map. -/
abbrev Around := List (Option String × Bool)

def loopValue (around : Around) (name : String) : Except Fault Value :=
  match around.findIdx? fun (anchor, _) => anchor == some name with
  | some n => .ok (.loop n ((around[n]?).any (·.2)))
  | none => .error .badDocument

abbrev Entry := Value × Value

structure Entries where
  mergesMaps : Bool
  merged : List (Ranked Entry)
  own : List (Ranked Entry)

def Entries.all (e : Entries) : List (Ranked Entry) :=
  e.merged ++ e.own

def toMap (entries : List Entry) : List Entry :=
  entries.foldl (fun m (k, v) => Value.setKey k v m) []

def Entries.finish (depth : Nat) (e : Entries) : Ranked (List Entry) :=
  if e.mergesMaps then (Ranked.all e.all).map toMap else .bad depth .badDocument

/-- A collection is refused as a key before its members are met. -/
def checkKey (depth : Nat) (kind : Kind) : Ranked Value → Ranked Value
  | .good k => if k.canBeKey then .good k else .bad depth .badDocument
  | .bad r f => if kind.isCollection then .bad depth .badDocument else .bad r f

def defaultKey? : Node → Option Value
  | .scalar tag plain s =>
    if (Node.scalar tag plain s).kind = .default then some (.text s) else none
  | _ => none

def Node.text? : Node → Option String
  | .scalar _ _ s => some s
  | .map _ _ entries => ofEntries entries
  | _ => none
where
  ofEntries : List (Node × Node) → Option String
    | [] => none
    | (k, v) :: rest => if k.kind = .default then v.text? else ofEntries rest

mutual

def Node.value (around : Around) (depth : Nat) : Node → Ranked Value
  | .scalar tag plain s =>
    let kind := (Node.scalar tag plain s).kind
    if kind.isCollection then .bad (depth + 1) .badDocument
    else .ofExcept depth (valueOfText s kind)
  | .list anchor tag items =>
    let kind := (Node.list anchor tag items).kind
    let around := (anchor, false) :: around
    if kind = .list then (Ranked.all (valuesOf around (depth + 1) items)).map .list
    else if kind = .pairs then (Ranked.all (pairsOf around (depth + 1) items)).map .list
    else .bad (if kind.isCollection then depth + 1 else depth) .badDocument
  | .map anchor tag entries =>
    let kind := (Node.map anchor tag entries).kind
    let around := (anchor, true) :: around
    if kind = .map then ((entriesOf around (depth + 1) entries).finish (depth + 1)).map .map
    else if kind = .set then
      ((entriesOf around (depth + 1) entries).finish (depth + 1)).map fun es => .set (es.map (·.1))
    else if kind.isCollection then .bad (depth + 1) .badDocument
    else
      .ofExcept depth <|
        match (Node.map anchor tag entries).text? with
        | some s => if kind = .timestamp then .error .wrongType else valueOfText s kind
        | none => .error .badDocument
  | .loop name => .ofExcept depth (loopValue around name)

def valuesOf (around : Around) (depth : Nat) : List Node → List (Ranked Value)
  | [] => []
  | n :: ns => n.value around depth :: valuesOf around depth ns

def pairsOf (around : Around) (depth : Nat) : List Node → List (Ranked Value)
  | [] => []
  | .map anchor _ [(k, v)] :: ns =>
    let around' := (anchor, false) :: around
    Ranked.both .pair (k.value around' depth) (v.value around' depth) :: pairsOf around depth ns
  | _ :: ns => .bad depth .badDocument :: pairsOf around depth ns

def entriesOf (around : Around) (depth : Nat) : List (Node × Node) → Entries
  | [] => ⟨true, [], []⟩
  | (k, v) :: rest =>
    let others := entriesOf around depth rest
    if k.kind = .merge then
      let here := mergedFrom around depth v
      ⟨here.mergesMaps && others.mergesMaps, here.all ++ others.merged, others.own⟩
    else
      let key := match defaultKey? k with
        | some t => .good t
        | none => k.value around depth
      let entry := Ranked.both Prod.mk (checkKey depth k.kind key) (v.value around depth)
      { others with own := entry :: others.own }

/-- What a node contributes to the map that merges it: a map its entries, and a list of maps the
entries of each, the first map last. A map that merges itself takes nothing over. -/
def mergedFrom (around : Around) (depth : Nat) : Node → Entries
  | .map _ _ entries => entriesOf around depth entries
  | .list _ _ items => mergedFromAll around depth items
  | .loop _ => ⟨true, [], []⟩
  | .scalar _ _ _ => ⟨false, [], []⟩

def mergedFromAll (around : Around) (depth : Nat) : List Node → Entries
  | [] => ⟨true, [], []⟩
  | .map _ _ entries :: ns =>
    let here := entriesOf around depth entries
    let others := mergedFromAll around depth ns
    ⟨here.mergesMaps && others.mergesMaps, others.all ++ here.all, []⟩
  | .loop _ :: ns => mergedFromAll around depth ns
  | _ :: _ => ⟨false, [], []⟩

end

def read (s : String) : Except Fault Value := do
  match ← root s with
  | none => return .null
  | some n => (n.value [] 0).toExcept

end BuildScripts.Yaml

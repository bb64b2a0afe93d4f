import BuildScripts.Yaml.Token

namespace BuildScripts.Yaml

inductive Node
  | scalar (tag : Option String) (plain : Bool) (text : String)
  | list (anchor tag : Option String) (items : List Node)
  | map (anchor tag : Option String) (entries : List (Node × Node))
  | loop (anchor : String)
  deriving Repr, Inhabited

def Node.empty : Node :=
  .scalar none true ""

structure Composer where
  tokens : List Token
  fault : Option Fault
  handles : List (String × String)
  anchors : List (String × Option Node)

abbrev Composing := StateT Composer Reading

namespace Composing

def peek : Composing (Option Token) := do
  let c ← get
  match c.tokens.head?, c.fault with
  | some t, _ => return some t
  | none, none => return none
  | none, some f => throw f

def advance : Composing Unit :=
  modify fun c => { c with tokens := c.tokens.drop 1 }

def accept (t : Token) : Composing Bool := do
  if (← peek) = some t then
    advance
    return true
  else return false

def demand (t : Token) : Composing Unit := do
  unless ← accept t do
    failure

def nextIs (ts : List Token) : Composing Bool := do
  match ← peek with
  | some t => return ts.contains t
  | none => return false

structure Properties where
  anchor : Option String
  tag : Option String

def expandTag (handle : Option String) (suffix : String) : Composing String := do
  match handle with
  | none => return suffix
  | some h =>
    match (← get).handles.lookup h with
    | some start => return start ++ suffix
    | none => failure

def anchorFirst (name : String) : Composing Properties := do
  match ← peek with
  | some (.tag h s) =>
    advance
    return ⟨some name, some (← expandTag h s)⟩
  | _ => return ⟨some name, none⟩

def tagFirst (h : Option String) (s : String) : Composing Properties := do
  match ← peek with
  | some (.anchor name) =>
    advance
    return ⟨some name, some (← expandTag h s)⟩
  | _ => return ⟨none, some (← expandTag h s)⟩

def properties : Composing Properties := do
  match ← peek with
  | some (.anchor name) =>
    advance
    anchorFirst name
  | some (.tag h s) =>
    advance
    tagFirst h s
  | _ => return ⟨none, none⟩

def openAnchor : Option String → Composing Unit
  | none => pure ()
  | some name => do
    if ((← get).anchors.lookup name).isSome then failure
    modify fun c => { c with anchors := (name, none) :: c.anchors }

def closeAnchor (node : Node) : Option String → Composing Unit
  | none => pure ()
  | some name =>
    modify fun c => { c with
      anchors := c.anchors.map fun (n, x) => if n = name then (n, some node) else (n, x) }

def aliasNode (name : String) : Composing Node := do
  match (← get).anchors.lookup name with
  | some (some node) => return node
  | some none => return .loop name
  | none => failure

def ownTag (p : Properties) : Option String :=
  p.tag.filter (· ≠ "!")

def scalarNode (p : Properties) (text : String) (plain : Bool) : Node :=
  .scalar (ownTag p) (p.tag = some "!" || (plain && p.tag.isNone)) text

def unless_ (ends : List Token) (node : Composing Node) : Composing Node := do
  match ← peek with
  | none => node
  | some t => if ends.contains t then return .empty else node

variable (node : Bool → Bool → Composing Node)

def listEntries (ends : List Token) : Nat → Composing (List Node)
  | 0 => failure
  | fuel + 1 => do
    if ← accept .entry then
      let item ← unless_ (.entry :: ends) (node true false)
      return item :: (← listEntries ends fuel)
    else return []

def mapEntries : Nat → Composing (List (Node × Node))
  | 0 => failure
  | fuel + 1 => do
    if ← accept .key then
      let k ← unless_ [.key, .value, .blockEnd] (node true true)
      let v ←
        if ← accept .value then unless_ [.key, .value, .blockEnd] (node true true)
        else pure .empty
      return (k, v) :: (← mapEntries fuel)
    else return []

def pairInList : Composing Node := do
  let k ← unless_ [.value, .comma, .flowListEnd] (node false false)
  let v ←
    if ← accept .value then unless_ [.comma, .flowListEnd] (node false false) else pure .empty
  return .map none none [(k, v)]

def flowItem : Composing Node := do
  if ← accept .key then pairInList node else node false false

def flowItems (first : Bool) : Nat → Composing (List Node)
  | 0 => failure
  | fuel + 1 => do
    if ← accept .flowListEnd then return []
    unless first do
      demand .comma
    if ← accept .flowListEnd then return []
    let item ← flowItem node
    return item :: (← flowItems false fuel)

def flowEntry : Composing (Node × Node) := do
  if ← accept .key then
    let k ← unless_ [.value, .comma, .flowMapEnd] (node false false)
    let v ←
      if ← accept .value then unless_ [.comma, .flowMapEnd] (node false false) else pure .empty
    return (k, v)
  else return (← node false false, .empty)

def flowEntries (first : Bool) : Nat → Composing (List (Node × Node))
  | 0 => failure
  | fuel + 1 => do
    if ← accept .flowMapEnd then return []
    unless first do
      demand .comma
    if ← accept .flowMapEnd then return []
    let e ← flowEntry node
    return e :: (← flowEntries false fuel)

/-- What follows the properties of a node. In a block, `block` allows block collections, and `flat`
a list that is not indented further than the map that holds it. -/
def content (block flat : Bool) (p : Properties) : Composing Node := do
  let fuel := (← get).tokens.length + 1
  match ← peek with
  | some .entry =>
    if flat then return .list p.anchor (ownTag p) (← listEntries node [.key, .value, .blockEnd] fuel)
    else bare
  | some (.scalar text plain) =>
    advance
    return scalarNode p text plain
  | some .flowListStart =>
    advance
    return .list p.anchor (ownTag p) (← flowItems node true fuel)
  | some .flowMapStart =>
    advance
    return .map p.anchor (ownTag p) (← flowEntries node true fuel)
  | some .listStart =>
    if block then
      advance
      let items ← listEntries node [.blockEnd] fuel
      demand .blockEnd
      return .list p.anchor (ownTag p) items
    else bare
  | some .mapStart =>
    if block then
      advance
      let entries ← mapEntries node fuel
      demand .blockEnd
      return .map p.anchor (ownTag p) entries
    else bare
  | _ => bare
where
  bare : Composing Node :=
    if p.anchor.isSome || p.tag.isSome then return scalarNode ⟨p.anchor, p.tag⟩ "" true
    else failure

end Composing

open Composing

def deepest : Nat := 480

def composeNode : Nat → Bool → Bool → Composing Node
  | 0, _, _ => throw .tooDeep
  | depth + 1, block, flat => do
    match ← peek with
    | some (.alias name) =>
      advance
      aliasNode name
    | _ =>
      let p ← properties
      openAnchor p.anchor
      let n ← content (composeNode depth) block flat p
      closeAnchor n p.anchor
      return n

def commonHandles : List (String × String) :=
  [("!", "!"), ("!!", "tag:yaml.org,2002:")]

def directives : Nat → Bool → List (String × String) → Composing (List (String × String))
  | 0, _, _ => failure
  | fuel + 1, versioned, handles => do
    match ← peek with
    | some (.version major) =>
      if versioned || major != 1 then failure
      advance
      directives fuel true handles
    | some (.tagHandle h s) =>
      if (handles.lookup h).isSome then failure
      advance
      directives fuel versioned (handles ++ [(h, s)])
    | some .otherDirective =>
      advance
      directives fuel versioned handles
    | _ => return handles

def skipEnds : Nat → Composing Unit
  | 0 => pure ()
  | fuel + 1 => do
    if ← accept .documentEnd then skipEnds fuel

def explicitDocument (fuel : Nat) : Composing (Option Node) := do
  let declared ← directives fuel false []
  let handles := declared ++ commonHandles.filter fun (h, _) => (declared.lookup h).isNone
  modify fun c => { c with handles := handles }
  demand .documentStart
  match ← peek with
  | none => return some .empty
  | some .documentStart => return some .empty
  | some .documentEnd => return some .empty
  | some .otherDirective => return some .empty
  | some (.version _) => return some .empty
  | some (.tagHandle _ _) => return some .empty
  | some _ => return some (← composeNode deepest true false)

def startsDocument (t : Token) : Bool :=
  match t with
  | .version _ => true
  | .tagHandle _ _ => true
  | .otherDirective => true
  | .documentStart => true
  | _ => false

def document (fuel : Nat) : Composing (Option Node) := do
  let root ←
    match ← peek with
    | none => pure none
    | some t =>
      if startsDocument t then explicitDocument fuel
      else
        let n ← composeNode deepest true false
        pure (some n)
  discard <| accept .documentEnd
  skipEnds fuel
  match ← peek with
  | none => return root
  | some _ => failure

def root (s : String) : Except Fault (Option Node) :=
  let sc := scan s
  let run := (document (sc.tokens.length + 2)).run ⟨sc.tokens, sc.fault, commonHandles, []⟩
  run.toExcept.map (·.1)

end BuildScripts.Yaml

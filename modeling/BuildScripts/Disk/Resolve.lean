import BuildScripts.Disk.Lookup

/-!
Full paths. Resolving a path replaces links by their targets and takes parts that go up back
against the part before them; a part that does not exist is kept as it is written.
-/

namespace BuildScripts

/-- The part of a path that is resolved already, names innermost first. One that is not anchored
may go up from the current directory with leading double dots. -/
structure Reached where
  anchored : Bool
  names : List String
  deriving DecidableEq

namespace Reached

def push (r : Reached) (name : String) : Reached :=
  ⟨r.anchored, name :: r.names⟩

def up (r : Reached) : Reached :=
  match r.names with
  | [] => if r.anchored then r else r.push ".."
  | n :: ns => if n = ".." then r.push ".." else ⟨r.anchored, ns⟩

def startOf (r : Reached) (target : String) : Reached :=
  if Text.beginsWith "/" target then ⟨true, []⟩ else r

def toPath (r : Reached) : Path :=
  ⟨if r.anchored then .root else .relative, r.names.reverse⟩

end Reached

def joinTexts (a b : String) : String :=
  if Text.beginsWith "/" b then b
  else if a = "" ∨ Text.endsWith "/" a then a ++ b
  else a ++ "/" ++ b

inductive Resolved
  | done (r : Reached)
  | stuck (text : String)

namespace Resolved

def stuckBefore (text : String) (rest : List String) : Resolved :=
  .stuck (joinTexts text (String.intercalate "/" rest))

end Resolved

namespace Disk

def linkAt? (d : Disk) (p : Path) : Option String :=
  match d.seek .entry p with
  | .ok (.found _ (.link target)) => some target
  | _ => none

def resolveParts (d : Disk)
    (inside : List Reached → Reached → List String → Resolved) (pending : List Reached) :
    Reached → List String → Resolved
  | r, [] => .done r
  | r, name :: rest =>
    if name = "" ∨ name = "." then resolveParts d inside pending r rest
    else if name = ".." then resolveParts d inside pending r.up rest
    else
      match d.linkAt? (r.push name).toPath with
      | none => resolveParts d inside pending (r.push name) rest
      | some target =>
        if r.push name ∈ pending then .stuckBefore (r.push name).toPath.toText rest
        else
          match inside (r.push name :: pending) (r.startOf target) (Path.pieces target) with
          | .done r' => resolveParts d inside pending r' rest
          | .stuck text => .stuckBefore text rest

def resolveWithin (d : Disk) : Nat → List Reached → Reached → List String → Resolved
  | 0 => fun _ r parts => .stuckBefore r.toPath.toText parts
  | depth + 1 => d.resolveParts (d.resolveWithin depth)

/-- A link can be pending once for each way to name it: from the root, or by going up from the
current directory. -/
def resolveDepth (d : Disk) : Nat :=
  d.tree.linkCount * (d.here.length + 2) + 1

def collapse : List String → List String → List String
  | names, [] => names
  | names, p :: ps =>
    if p = "" ∨ p = "." then collapse names ps
    else if p = ".." then collapse names.tail ps
    else collapse (p :: names) ps

def namesFromRoot (d : Disk) (r : Reached) : List String :=
  if r.anchored then r.names else collapse d.here r.names.reverse

def settled (d : Disk) : Resolved → Path
  | .done r => .absolute (d.namesFromRoot r).reverse
  | .stuck text =>
    match Path.anchorOf text.toList with
    | .relative => .absolute (collapse d.here (Path.pieces text)).reverse
    | anchor => ⟨anchor, (collapse [] (Path.pieces text)).reverse⟩

def fullPath (d : Disk) (p : Path) : Path :=
  d.settled (d.resolveWithin d.resolveDepth [] ⟨p.isAbsolute, []⟩ p.parts)

def resolve (d : Disk) (p : Path) : Except Fault Path :=
  if p.hasNull then .error .nullByte
  else
    match d.find (d.fullPath p) with
    | .error .tooManyLinks => .error (.linkLoop (d.fullPath p).toText)
    | _ => .ok (d.fullPath p)

end Disk

end BuildScripts

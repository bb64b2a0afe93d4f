import BuildScripts.Attempt
import BuildScripts.Disk.Tree
import BuildScripts.Path
import BuildScripts.Text.Basic
import BuildScripts.Text.Lines

/-!
Finding what a path names. A path is walked part by part from the current or the outermost
directory; a link met on the way is replaced by its target, at most forty times.
-/

namespace BuildScripts

structure Disk where
  tree : Tree
  here : Location

inductive Place
  | found (at_ : Location) (entry : Entry)
  | free (at_ : Location)

inductive Stride
  | arrived (place : Place)
  | refused (why : Refusal)
  | link (holder : Location) (target : String) (rest : List String)

def longestName : Nat := 255

def longestPath : Nat := 4095

def linkBudget : Nat := 40

inductive Aim
  | entry
  | target
  | file
  deriving DecidableEq

/-- Walks through directories. An empty part stands for a slash at the end of a link's target: it
asks for a directory, and no file is made there. -/
def stride (t : Tree) (aim : Aim) : Location → List String → Stride
  | here, [] => .arrived (.found here .directory)
  | here, name :: rest =>
    if aim = .file ∧ rest = [""] then .refused .isDirectory
    else if name = "" ∨ name = "." then stride t aim here rest
    else if name = ".." then stride t aim here.tail rest
    else if longestName < name.utf8ByteSize then .refused .nameTooLong
    else
      match t.get? (name :: here) with
      | none => if rest.isEmpty then .arrived (.free (name :: here)) else .refused .noEntry
      | some .directory => stride t aim (name :: here) rest
      | some (.file bytes) =>
        if rest.isEmpty then .arrived (.found (name :: here) (.file bytes))
        else .refused .notDirectory
      | some .sink =>
        if rest.isEmpty then .arrived (.found (name :: here) .sink) else .refused .notDirectory
      | some (.link target) =>
        if rest.isEmpty && aim == .entry then .arrived (.found (name :: here) (.link target))
        else .link here target rest

def targetParts (target : String) : List String :=
  let parts := (Path.pieces target).filter (· ≠ "")
  if Text.endsWith "/" target then parts ++ [""] else parts

def targetStart (holder : Location) (target : String) : Location :=
  if Text.beginsWith "/" target then [] else holder

def walk (t : Tree) (aim : Aim) : Nat → Location → List String → Except Refusal Place
  | budget, here, parts =>
    match stride t aim here parts with
    | .arrived place => .ok place
    | .refused why => .error why
    | .link holder target rest =>
      match budget with
      | 0 => .error .tooManyLinks
      | budget + 1 =>
        walk t aim budget (targetStart holder target) (targetParts target ++ rest)

namespace Disk

def start (d : Disk) (p : Path) : Location :=
  match p.anchor with
  | .relative => d.here
  | _ => []

def seek (d : Disk) (aim : Aim) (p : Path) : Except Refusal Place :=
  if longestPath < p.toText.utf8ByteSize then .error .nameTooLong
  else walk d.tree aim linkBudget (d.start p) p.parts

def find (d : Disk) (p : Path) : Except Refusal (Location × Entry) :=
  match d.seek .target p with
  | .ok (.found l e) => .ok (l, e)
  | .ok (.free _) => .error .noEntry
  | .error why => .error why

/-- A test of the entry that a path names. What is missing, blocked or looped fails the test; only
a name that is too long is an error. -/
def testEntry (d : Disk) (test : Entry → Bool) (p : Path) : Except Fault Bool :=
  if p.hasNull then .ok false
  else
    match d.find p with
    | .ok (_, e) => .ok (test e)
    | .error .nameTooLong => .error (.refused .nameTooLong p.toText)
    | .error _ => .ok false

def isFile (d : Disk) (p : Path) : Except Fault Bool :=
  d.testEntry Entry.isFile p

def isDirectory (d : Disk) (p : Path) : Except Fault Bool :=
  d.testEntry Entry.isDirectory p

def exists? (d : Disk) (p : Path) : Except Fault Bool :=
  d.testEntry (fun _ => true) p

def readBytes (d : Disk) (p : Path) : Except Fault ByteArray :=
  if p.hasNull then .error .nullByte
  else
    match d.find p with
    | .ok (_, .file bytes) => .ok bytes
    | .ok (_, .sink) => .ok .empty
    | .ok _ => .error (.refused .isDirectory p.toText)
    | .error why => .error (.refused why p.toText)

def readText (d : Disk) (p : Path) : Except Fault String :=
  match d.readBytes p with
  | .error f => .error f
  | .ok bytes =>
    match Text.Utf8.decode bytes with
    | .ok s => .ok (Text.unifyLineEnds s)
    | .error f => .error (.notUtf8 f)

def list (d : Disk) (p : Path) : Except Fault (List String) :=
  if p.hasNull then .error .nullByte
  else
    match d.find p with
    | .ok (l, .directory) => .ok (d.tree.sortedNames l)
    | .ok _ => .error (.refused .notDirectory p.toText)
    | .error why => .error (.refused why p.toText)

def currentPath (d : Disk) : Path :=
  .absolute d.here.reverse

end Disk

end BuildScripts

import BuildScripts.Disk.Resolve

namespace BuildScripts

open BuildScripts.Text

namespace Disk

def setEntry (d : Disk) (l : Location) (e : Entry) : Disk :=
  { d with tree := d.tree.set l e }

def makeDirectory (d : Disk) (p : Path) : Except Refusal Disk :=
  match d.seek .entry p with
  | .ok (.free l) => .ok (d.setEntry l .directory)
  | .ok (.found _ _) => .error .alreadyThere
  | .error why => .error why

def acceptDirectory (why : Refusal) (p : Path) : Attempt Disk Unit := do
  let d ← get
  if ← Attempt.ofExcept (d.isDirectory p) then pure () else throw (.refused why p.toText)

def makeWithParents (anchor : Anchor) : List String → Attempt Disk Unit
  | [] => pure ()
  | name :: parents => do
    let p : Path := ⟨anchor, (name :: parents).reverse⟩
    match (← get).makeDirectory p with
    | .ok d => set d
    | .error .noEntry =>
      makeWithParents anchor parents
      match (← get).makeDirectory p with
      | .ok d => set d
      | .error .noEntry => throw (.refused .noEntry p.toText)
      | .error why => acceptDirectory why p
    | .error why => acceptDirectory why p

def makeDirectories (p : Path) : Attempt Disk Unit :=
  if p.hasNull then throw .nullByte else makeWithParents p.anchor p.parts.reverse

def openForWriting (d : Disk) (p : Path) : Except Refusal Location :=
  match d.seek .file p with
  | .ok (.free l) => .ok l
  | .ok (.found l (.file _)) => .ok l
  | .ok (.found l .sink) => .ok l
  | .ok (.found _ _) => .error .isDirectory
  | .error why => .error why

def fill (d : Disk) (l : Location) (bytes : ByteArray) : Disk :=
  match d.tree.get? l with
  | some .sink => d
  | _ => d.setEntry l (.file bytes)

def writeBytes (p : Path) (bytes : ByteArray) : Attempt Disk Unit := do
  if p.hasNull then throw .nullByte
  let d ← get
  match d.openForWriting p with
  | .ok l => set (d.fill l bytes)
  | .error why => throw (.refused why p.toText)

def writeText (p : Path) (s : String) : Attempt Disk Unit :=
  writeBytes p (Utf8.encode s)

def isSame (d : Disk) (p q : Path) : Bool :=
  match d.find p, d.find q with
  | .ok (l, _), .ok (l', _) => l == l'
  | _, _ => false

def pathLabel (p : Path) : String :=
  "PosixPath(" ++ quoted p.toText ++ ")"

def copyFile (source destination : Path) : Attempt Disk Unit := do
  let d ← get
  let into := match d.find destination with
    | .ok (_, .directory) => true
    | _ => false
  let goal := if into then destination.child source.name else destination
  let goalLabel := if into then quoted goal.toText else pathLabel goal
  if d.isSame source goal then throw (.sameFile (pathLabel source) goalLabel)
  let bytes ← Attempt.ofExcept (d.readBytes source)
  match d.openForWriting goal with
  | .error .isDirectory =>
    if ← Attempt.ofExcept (d.exists? goal) then throw (.refused .isDirectory goal.toText)
    else throw (.noDirectory goal.toText)
  | _ => writeBytes goal bytes

end Disk

end BuildScripts

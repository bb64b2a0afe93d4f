import BuildScripts.Config.Basic
import BuildScripts.Disk.Lookup
import BuildScripts.Glob.Basic

/-!
Discovery of scripts: the files below a root that the configuration includes and does not exclude.
Directories that are links are not entered, the root itself excepted.
-/

namespace BuildScripts

def namesBelow? (root l : Location) : Option (List String) :=
  if l.length ≤ root.length then none
  else if l.drop (l.length - root.length) = root then
    some (l.take (l.length - root.length)).reverse
  else none

def isReached (t : Tree) (root : Location) : Location → Bool
  | [] => false
  | _ :: parent =>
    parent = root ||
      match t.get? parent with
      | some .directory => isReached t root parent
      | _ => false

def waysBelow (t : Tree) (root : Location) : List (List String) :=
  t.entries.filterMap fun (l, _) =>
    if isReached t root l then namesBelow? root l else none

def mostNested : Nat := 970

def isNestedTooDeep (t : Tree) (root : Location) : Bool :=
  (waysBelow t root).any fun names =>
    mostNested < names.length && (t.get? (names.reverse ++ root)).any Entry.isDirectory

def waysWalked (t : Tree) (root : Location) : Except Fault (List (List String)) :=
  if isNestedTooDeep t root then .error .tooDeep else .ok (waysBelow t root)

def relativeText (names : List String) : String :=
  String.intercalate "/" names

def filterAttempt {α : Type} (test : α → Except Fault Bool) : List α → Except Fault (List α)
  | [] => .ok []
  | x :: xs => do
    let keep ← test x
    let rest ← filterAttempt test xs
    return if keep then x :: rest else rest

def filesBelow (d : Disk) (root : Path) : Except Fault (List String) := do
  if ← d.isDirectory root then
    match d.find root with
    | .ok (l, _) =>
      let ways ← filterAttempt (fun names => d.isFile (root.join ⟨.relative, names⟩))
        (← waysWalked d.tree l)
      return ways.map relativeText
    | .error _ => return []
  else return []

/-- Patterns are looked at only where there is a file to test. -/
def isSelected (c : Config) (path : String) : Except Fault Bool := do
  let included ← Config.patternsOf c.included
  let excluded ← Config.patternsOf c.excluded
  return Glob.isIncluded path included excluded

def byCodePoint (paths : List String) : List String :=
  paths.mergeSort fun a b => a ≤ b

def discover (d : Disk) (root : Path) (c : Config) : Except Fault (List String) := do
  let files ← filesBelow d root
  return byCodePoint (← filterAttempt (isSelected c) files)

end BuildScripts

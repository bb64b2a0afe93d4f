import BuildScripts.Disk.Write
import BuildScripts.Pattern.Reader
import BuildScripts.Task.Basic

/-!
Copying of a directory tree. Expressions are searched in full paths: a directory that is excluded
is skipped with all below it, and a file is copied if it is included and not excluded. Directories
are made when the first file is copied into them.
-/

namespace BuildScripts

structure CopyJob where
  disk : Disk
  messages : List String
  copied : List String

namespace CopyJob

def onDisk {α : Type} (x : Attempt Disk α) : Attempt CopyJob α :=
  x.onPart CopyJob.disk fun j d => { j with disk := d }

def asking {α : Type} (x : Disk → Except Fault α) : Attempt CopyJob α :=
  onDisk (.asking x)

def log (message : String) : Attempt CopyJob Unit :=
  modify fun j => { j with messages := j.messages ++ [message] }

end CopyJob

structure Selection where
  included : Option (String → Bool)
  excluded : Option (String → Bool)

namespace Selection

def excludes (s : Selection) (path : String) : Bool :=
  s.excluded.any fun test => test path

def includes (s : Selection) (path : String) : Bool :=
  s.included.all fun test => test path

def takes (s : Selection) (path : String) : Bool :=
  s.includes path && !s.excludes path

def testOf : Option String → Except Fault (Option (String → Bool))
  | none => .ok none
  | some text =>
    match Pattern.read text with
    | .ok node => .ok (some (Pattern.found node))
    | .error f =>
      if f.problem == "the repetition number is too large" then
        .error (.raised ⟨"OverflowError", some f.problem⟩)
      else .error (.badPattern (f.message text))

def ofPatterns (included excluded : Option String) : Except Fault Selection := do
  return ⟨← testOf included, ← testOf excluded⟩

end Selection

structure CopyTask where
  source : Path
  destination : Path
  overwrite : Bool
  included : Option String
  excluded : Option String

namespace CopyTask

def name : String := "CopyDirectoryStructureTask"

def deepest : Nat := 960

def copyOne (overwrite : Bool) (entry destination : Path) : Attempt CopyJob Unit := do
  let target := destination.child entry.name
  if (← CopyJob.asking (·.exists? target)) && !overwrite then
    throw (.destinationExists target.toText)
  CopyJob.onDisk (Disk.makeDirectories destination)
  CopyJob.onDisk (Disk.copyFile entry target)
  CopyJob.log ("copied file '" ++ entry.toText ++ "' to '" ++ target.toText ++ "'")
  modify fun j => { j with copied := j.copied ++ [target.toText] }

def copyEntries (deeper : Path → Path → Attempt CopyJob Unit) (sel : Selection) (overwrite : Bool)
    (source destination : Path) : List String → Attempt CopyJob Unit
  | [] => pure ()
  | name :: names => do
    let entry := source.child name
    if ← CopyJob.asking (·.isDirectory entry) then
      deeper entry (destination.child name)
    else if sel.takes entry.toText then
      copyOne overwrite entry destination
    copyEntries deeper sel overwrite source destination names

/-- Copies a directory, at most so many levels deep. Its entries are listed when it is entered. -/
def copyTree (sel : Selection) (overwrite : Bool) : Nat → Path → Path → Attempt CopyJob Unit
  | 0, _, _ => throw .tooDeep
  | depth + 1, source, destination => do
    if sel.excludes source.toText then return
    let names ← CopyJob.asking (·.list source)
    copyEntries (copyTree sel overwrite depth) sel overwrite source destination names

def opening (t : CopyTask) : String :=
  "copy directory structure from '" ++ t.source.toText ++ "' to '" ++ t.destination.toText ++ "'"

def perform (t : CopyTask) : Attempt CopyJob Unit := do
  CopyJob.log t.opening
  modify fun j => { j with copied := [] }
  let sel ← Attempt.ofExcept (Selection.ofPatterns t.included t.excluded)
  let source ← CopyJob.asking (·.resolve t.source)
  copyTree sel t.overwrite deepest source t.destination

def execute (t : CopyTask) : Attempt CopyJob Unit :=
  Task.execute name t.perform

end CopyTask

end BuildScripts

import BuildScripts.CommandLine.Run
import BuildScripts.Value.Basic
import Std.Time.DateTime

/-!
The program. It reads the current directory and the places that its arguments name, runs the command
on what it has read, prints what the command prints, and writes the files that the command has
changed. It has no network.
-/

namespace BuildScripts.Main

open BuildScripts.CommandLine BuildScripts.Text

def locationOf (full : String) : Location :=
  (Path.ofText full).parts.reverse

partial def readEntry (e : IO.FS.DirEntry) (l : Location) : IO (List (Location × Entry)) := do
  match (← e.path.symlinkMetadata).type with
  | .dir => do
    let mut found := [(l, Entry.directory)]
    for child in ← e.path.readDir do
      found := found ++ (← readEntry child (child.fileName :: l))
    return found
  | .file => return [(l, .file (← IO.FS.readBinFile e.path))]
  | .symlink =>
    try return [(l, .link (← IO.FS.realPath e.path).toString)]
    catch _ => return []
  | .other => return if l = ["null", "dev"] then [(l, .sink)] else []

def withDirectories (t : Tree) : Location → Tree
  | [] => t
  | name :: parent => (withDirectories t parent).set (name :: parent) .directory

def readPlace (t : Tree) (full : String) : IO Tree := do
  match locationOf full with
  | [] => return t
  | name :: parent =>
    let found ← readEntry ⟨(Path.absolute parent.reverse).toText, name⟩ (name :: parent)
    return found.foldl (fun t (l, x) => t.set l x) (withDirectories t parent)

def placesIn (arg : String) : List String :=
  let (_, value) := Arguments.cutEquals arg
  arg :: value.toList

def readDisk (args : List String) : IO Disk := do
  let here := (← IO.currentDir).toString
  let mut t ← readPlace .empty here
  for p in args.flatMap placesIn do
    try t ← readPlace t (← IO.FS.realPath p).toString
    catch _ => pure ()
  return ⟨t, locationOf here⟩

def writeEntry (l : Location) (e : Entry) : IO Unit := do
  let full := (Path.absolute l.reverse).toText
  match e with
  | .directory => IO.FS.createDirAll full
  | .file bytes => IO.FS.writeBinFile full bytes
  | .link _ => pure ()
  | .sink => pure ()

def isOld (t : Tree) (l : Location) (e : Entry) : Bool :=
  match t.get? l, e with
  | some .directory, .directory => true
  | some (.file old), .file new => old == new
  | some (.link _), .link _ => true
  | some .sink, .sink => true
  | _, _ => false

def writeChanges (old new : Tree) : IO Unit := do
  for (l, e) in new.entries do
    if e.isDirectory && !isOld old l e then writeEntry l e
  for (l, e) in new.entries do
    if !e.isDirectory && !isOld old l e then writeEntry l e

def settingNames : List String :=
  ["SCRIPTFORGE_WEBAPI_URL", "SCRIPTFORGE_WEBAPI_KEY", "SCRIPTFORGE_WEBAPI_TIMEOUT",
    "SCRIPTFORGE_SCRIPTS_DIR"]

def environment : IO Environment := do
  let mut found := []
  for name in settingNames do
    if let some value ← IO.getEnv name then found := (name, value) :: found
  return found

def clock : IO String := do
  let now ← Std.Time.Timestamp.now
  return (Moment.ofSeconds now.toSecondsSinceUnixEpoch.toInt.toNat).toText "T"

def noNetwork : Transport (Site Unit) := fun _ s =>
  .error (.transport "ConnectError" "no network") s

def errorOf : Ending → String
  | .misused => "usage: init | analyse | build | copy | upload | serve\n"
  | .unexpected f => f.message ++ "\n"
  | e => e.errorText

def run (args : List String) : IO UInt32 := do
  let disk ← readDisk args
  let s : Surroundings := ⟨← environment, ⟨[], "/usr/bin/env"⟩, ← clock⟩
  let (ending, desk) := CommandLine.run s noNetwork args ⟨⟨disk, .empty⟩, ()⟩
  writeChanges disk.tree desk.disk.tree
  IO.print desk.printed
  IO.eprint (errorOf ending)
  for service in desk.services do
    IO.eprintln ("cannot listen on " ++ service.host ++ ":" ++ signedDecimal service.port)
  return if desk.services.isEmpty then UInt32.ofNat ending.exitCode else 1

end BuildScripts.Main

def main (args : List String) : IO UInt32 :=
  BuildScripts.Main.run args

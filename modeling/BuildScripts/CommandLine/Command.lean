import BuildScripts.CommandLine.Arguments
import BuildScripts.Task.Copy

namespace BuildScripts.CommandLine

structure Project where
  root : Path
  config : Path
  deriving Repr

inductive Command
  | init (project : Project) (force : Bool)
  | analyse (project : Project) (script : Path) (asJson : Bool)
  | build (project : Project) (output : Path)
  | copy (task : CopyTask)
  | upload (project : Project) (script : Path) (url : String)
  | serve (project : Project) (host : String) (port : Int)

namespace Command

def pathOption (name : String) : Spelling :=
  ⟨"--" ++ name, name, .value .path⟩

def textOption (name : String) : Spelling :=
  ⟨"--" ++ name, name, .value .text⟩

def wholeOption (name : String) : Spelling :=
  ⟨"--" ++ name, name, .value .whole⟩

def switchOption (name : String) : List Spelling :=
  [⟨"--" ++ name, name, .switch true⟩, ⟨"--no-" ++ name, name, .switch false⟩]

def projectOptions : List Spelling :=
  [pathOption "repo", pathOption "config"]

def defaultConfig : String := ".scriptforge/config.yaml"

def defaultOutput : String := ".scriptforge/analysis"

def defaultHost : String := "127.0.0.1"

def defaultPort : Int := 8000

def projectOf (a : Arguments) : Project :=
  ⟨Path.ofText (a.text "repo" "."), Path.ofText (a.text "config" defaultConfig)⟩

def positionOf (a : Arguments) (n : Nat) : Path :=
  Path.ofText ((a.positions[n]?).getD "")

def patternOf (a : Arguments) (name : String) : Option String :=
  let s := a.text name ""
  if s.isEmpty then none else some s

def copyTaskOf (a : Arguments) : CopyTask :=
  ⟨positionOf a 0, positionOf a 1, a.isOn "overwrite", patternOf a "include", patternOf a "exclude"⟩

def named? : String → Option (Grammar × (Arguments → Command))
  | "init" => some (⟨projectOptions ++ switchOption "force", 0⟩,
      fun a => .init (projectOf a) (a.isOn "force"))
  | "analyse" => some (⟨projectOptions ++ [⟨"--json", "json", .switch true⟩], 1⟩,
      fun a => .analyse (projectOf a) (positionOf a 0) (a.isOn "json"))
  | "build" => some (⟨projectOptions ++ [pathOption "output"], 0⟩,
      fun a => .build (projectOf a) (Path.ofText (a.text "output" defaultOutput)))
  | "copy" => some (⟨[textOption "include", textOption "exclude"] ++ switchOption "overwrite", 2⟩,
      fun a => .copy (copyTaskOf a))
  | "upload" => some (⟨projectOptions ++ [textOption "url"], 1⟩,
      fun a => .upload (projectOf a) (positionOf a 0) (a.text "url" ""))
  | "serve" => some (⟨projectOptions ++ [textOption "host", wholeOption "port"], 0⟩,
      fun a => .serve (projectOf a) (a.text "host" defaultHost)
        (a.whole "port" defaultPort))
  | _ => none

def ofNamed? (name : String) (args : List String) : Option Command := do
  let (grammar, make) ← named? name
  return make (← Arguments.read? grammar args)

def read? : List String → Option Command
  | "--" :: name :: args => ofNamed? name args
  | name :: args => ofNamed? name args
  | [] => none

end Command

end BuildScripts.CommandLine

import BuildScripts.Artifact.Resolver
import BuildScripts.Glob.Braces
import BuildScripts.Text.Basic

namespace BuildScripts

open BuildScripts.Text

structure Connection where
  endpoint : Value
  apiKey : Value
  timeout : Value
  deriving Repr

structure Config where
  included : Value
  excluded : Value
  manifest : Manifest
  connection : Connection
  scriptsDir : Value
  allowImports : Bool
  deriving Repr

abbrev Environment := List (String × String)

namespace Config

def defaultEndpoint : String := "http://127.0.0.1:8000"

def defaultScriptsDir : String := ".scriptforge/uploads"

def defaultTimeout : Double := .ofNat 30

def defaultIncluded : List String :=
  ["*.\x7bcsx,py,build\x7d", "**/*.\x7bcsx,py,build\x7d"]

def fallbackExcluded : List String :=
  ["**/.git/**", "**/.venv/**", "**/.scriptforge/**"]

def initialExcluded : List String :=
  ["**/.git/**", "**/.venv/**", "**/__pycache__/**", "**/.pytest_cache/**", ".scriptforge/**",
    "**/.scriptforge/**", "**/node_modules/**", "**/dist/**", "**/build/**"]

def initialDocument : String :=
  String.intercalate "\n" [
    "include:",
    "  - \"*.\x7bcsx,py,build\x7d\"",
    "  - \"**/*.\x7bcsx,py,build\x7d\"",
    "exclude:",
    "  - \"**/.git/**\"",
    "  - \"**/.venv/**\"",
    "  - \"**/__pycache__/**\"",
    "  - \"**/.pytest_cache/**\"",
    "  - \".scriptforge/**\"",
    "  - \"**/.scriptforge/**\"",
    "  - \"**/node_modules/**\"",
    "  - \"**/dist/**\"",
    "  - \"**/build/**\"",
    "references:",
    "  manifest: \x7b\x7d",
    "web_api:",
    "  endpoint: \"http://127.0.0.1:8000\"",
    "  api_key: \"\"",
    "  timeout: 30.0",
    "server:",
    "  scripts_dir: \".scriptforge/uploads\"",
    "  allow_imports: false",
    ""]

def initialConnection : Connection :=
  ⟨.text defaultEndpoint, .text "", .float defaultTimeout⟩

def initial : Config :=
  ⟨.texts defaultIncluded, .texts initialExcluded, [], initialConnection,
    .text defaultScriptsDir, false⟩

def sectionOf (name : String) (v : Value) : Except Fault Value :=
  match v with
  | .map _ =>
    match v.member? name with
    | none => .ok (.map [])
    | some s => .ok (if s.truthy then s else .map [])
  | _ => .error .noAttribute

def valueOr (name : String) (default : Value) (v : Value) : Except Fault Value :=
  match v with
  | .map _ => .ok ((v.member? name).getD default)
  | _ => .error .noAttribute

def toDouble : Value → Except Fault Double
  | .bool b => .ok (.ofNat (if b then 1 else 0))
  | .int i =>
    match Double.ofInt? i with
    | some d => .ok d
    | none => .error .tooLargeForFloat
  | .float d => .ok d
  | .text s =>
    match Double.read? s with
    | some d => .ok d
    | none => .error (.notFloat (quoted s))
  | .bytes bs =>
    match Double.readAscii? bs with
    | some d => .ok d
    | none => .error (.notFloat (quotedBytes bs))
  | _ => .error .wrongType

def setEntry (name file : String) : Manifest → Manifest
  | [] => [(name, file)]
  | (n, f) :: rest => if n = name then (n, file) :: rest else (n, f) :: setEntry name file rest

/-- Names and files as texts; of two entries with one name the later file counts. A number with too
many digits has no text. -/
def manifestOf : Value → Except Fault Manifest
  | .map entries =>
    let whole := Value.map entries
    if whole.hasLongNumber then .error .longNumber
    else
      .ok (entries.foldl (fun m (k, v) => setEntry k.toText (Value.expand whole 0 v).toText m) [])
  | _ => .error .noAttribute

def ofDocument (doc : Value) : Except Fault Config := do
  let references ← sectionOf "references" doc
  let manifest ← (← sectionOf "manifest" references) |> manifestOf
  let connection ← sectionOf "web_api" doc
  let endpoint ← valueOr "endpoint" (.text defaultEndpoint) connection
  let apiKey ← valueOr "api_key" (.text "") connection
  let timeout ← toDouble (← valueOr "timeout" (.float defaultTimeout) connection)
  let server ← sectionOf "server" doc
  let scriptsDir ← valueOr "scripts_dir" (.text defaultScriptsDir) server
  let allowImports ← valueOr "allow_imports" (.bool false) server
  let included ← valueOr "include" (.texts defaultIncluded) doc
  let excluded ← valueOr "exclude" (.texts fallbackExcluded) doc
  return ⟨included, excluded, manifest, ⟨endpoint, apiKey, .float timeout⟩, scriptsDir,
    allowImports.truthy⟩

def setting? (env : Environment) (name : String) : Option String :=
  ((env.lookup name).map strip).filter (!·.isEmpty)

def overrideText (env : Environment) (name : String) (v : Value) : Value :=
  match setting? env name with
  | some s => .text s
  | none => v

def overrideTimeout (env : Environment) (v : Value) : Value :=
  (((setting? env "SCRIPTFORGE_WEBAPI_TIMEOUT").bind Double.read?).map .float).getD v

def withEnvironment (env : Environment) (c : Config) : Config :=
  { c with
    connection := ⟨overrideText env "SCRIPTFORGE_WEBAPI_URL" c.connection.endpoint,
      overrideText env "SCRIPTFORGE_WEBAPI_KEY" c.connection.apiKey,
      overrideTimeout env c.connection.timeout⟩
    scriptsDir := overrideText env "SCRIPTFORGE_SCRIPTS_DIR" c.scriptsDir }

def ofValue (env : Environment) (doc : Value) : Except Fault Config :=
  (ofDocument doc).map (withEnvironment env)

def default (env : Environment) : Config :=
  initial.withEnvironment env

def patternOf : Value → Except Fault String
  | .text s => if Glob.isTooDeep s then .error .tooDeep else .ok s
  | _ => .error .wrongType

/-- The patterns that a value lists: a text stands for its characters, and a map for its keys. -/
def patternsOf : Value → Except Fault (List String)
  | .text s => .ok (s.toList.map (String.ofList [·]))
  | .list items => items.mapM patternOf
  | .set items => items.mapM patternOf
  | .map entries => (entries.map (·.1)).mapM patternOf
  | .bytes [] => .ok []
  | _ => .error .wrongType

end Config

end BuildScripts

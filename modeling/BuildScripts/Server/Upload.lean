import BuildScripts.Disk.Write
import BuildScripts.Http.Message
import BuildScripts.Script.Prepared
import BuildScripts.Server.Basic
import BuildScripts.Server.Submission
import BuildScripts.Upload.Message

/-!
Storing of scripts. A script is written to its place only if it passes analysis there; who does not
show the key learns nothing about it.
-/

namespace BuildScripts.Server

open BuildScripts.Text

variable {σ : Type}

def authorizes (s : Server σ) (header : Option String) : Bool :=
  !s.key.truthy || header == some ("Bearer " ++ s.key.toText)

def isPlainName (name : String) : Bool :=
  !name.toList.contains '/' && !name.toList.contains '\\' && name != "." && name != ".."

def placeOf (s : Server σ) (fileName : String) : Path :=
  s.scriptsDir.child fileName

/-- Writes a script to its place; one that is no proper text leaves an empty file. -/
def writeScript (place : Path) (u : Submission) : Attempt Disk Unit := do
  Disk.writeText place ((properText? u.content).getD "")
  if (properText? u.content).isNone then throw .unpaired

def checkRejection (u : Submission) : Fault → Fault
  | .rejected r => if r.lineNumber.all u.canShowLine then .rejected r else .unpaired
  | f => f

def store (s : Server σ) (u : Submission) : Attempt (Workshop σ) Receipt := do
  let place := s.placeOf u.fileName
  let analysis ← (Workshop.resolving fun d => prepareText s.chain d u.text place).mapFault
    (checkRejection u)
  Workshop.onDisk (Disk.makeDirectories s.scriptsDir)
  Workshop.onDisk (writeScript place u)
  return .ofAnalysis u.fileName place analysis

def lineNumberValue : Option Nat → Value
  | some n => .ofNat n
  | none => .null

def rejectionValue (r : Rejection) : Value :=
  .object [("message", .text r.message), ("token", .text r.token), ("line", .ofText? r.line),
    ("line_number", lineNumberValue r.lineNumber)]

def rejection (r : Rejection) : Response :=
  .withDetail 422 (rejectionValue r)

def unauthorized : Response :=
  .withDetail 401 (.text "invalid or missing api key")

def badName (name : String) : Response :=
  .withDetail 400 (.text ("file_name must not contain path separators: " ++ name))

def upload (s : Server σ) (header : Option String) (u : Submission) : Attempt (Workshop σ) Response :=
  if !s.authorizes header then pure unauthorized
  else if !isPlainName u.fileName then pure (badName u.fileName)
  else fun w =>
    match s.store u w with
    | .ok receipt w' => .ok (.ofJson 200 receipt.toValue) w'
    | .error (.rejected r) w' => .ok (rejection r) w'
    | .error f w' => .error f w'

end BuildScripts.Server

import BuildScripts.Config.Basic
import BuildScripts.Http.Message
import BuildScripts.Text.Basic
import BuildScripts.Upload.Message

/-!
Clients of a build server. A client sends a script and reads the receipt. What goes wrong on the
way, and an answer that reports an error, is told under the name of the script.
-/

namespace BuildScripts

open BuildScripts.Text

structure Client where
  baseUrl : Value
  apiKey : Value
  timeout : Value
  deriving Repr

namespace Client

def blank : Client :=
  ⟨.text "", .text "", .null⟩

def configure (k : Connection) (c : Client) : Client where
  baseUrl := if c.baseUrl.truthy then c.baseUrl else k.endpoint
  apiKey := if c.apiKey.truthy then c.apiKey else k.apiKey
  timeout := match c.timeout with
    | .null => k.timeout
    | t => t

def uploadPath : String := "/api/scripts/upload"

def address (c : Client) : Except Fault String :=
  if c.baseUrl.truthy then
    match c.baseUrl with
    | .text s => .ok (withoutEnd '/' s ++ uploadPath)
    | .bytes _ => .error .wrongType
    | _ => .error .noAttribute
  else .error (.webApi "web api endpoint is not configured" none)

def bearer? (c : Client) : Option String :=
  if c.apiKey.truthy then some ("Bearer " ++ c.apiKey.toText) else none

def isAscii (ch : Char) : Bool :=
  ch.toNat < 0x80

def checkHeader (s : String) : Except Fault Unit :=
  let cs := s.toList
  let start := (cs.takeWhile isAscii).length
  match (cs.drop start).takeWhile (!isAscii ·) with
  | [] => .ok ()
  | run => .error (.notAscii s start (start + run.length - 1))

/-- A user in the address takes the place of the key. -/
def authorization? (c : Client) (u : Url) : Option String :=
  u.basicAuthorization?.or c.bearer?

def headersFor (c : Client) (u : Url) : List (String × String) :=
  ("content-type", "application/json") ::
    match c.authorization? u with
    | some a => [("authorization", a)]
    | none => []

def request (c : Client) (u : Upload) : Except Fault Request := do
  let url := (← Url.read (← c.address)).forSending
  match c.bearer? with
  | some b => checkHeader b
  | none => pure ()
  return ⟨"POST", url, c.headersFor url, Utf8.encode (Json.render Json.compact u.toValue)⟩

def failed (name : String) : Fault → Fault
  | .transport _ message => .webApi ("upload of " ++ name ++ " failed: " ++ message) none
  | f => f

def receiptOf (name : String) (r : Response) (text : Except Fault String) (content : ByteArray) :
    Except Fault Receipt := do
  if r.isError then
    throw (.webApi ("upload of " ++ name ++ " failed with status " ++ decimal r.status ++ ": " ++
      (← text)) (some r.status))
  else Receipt.ofValue (← Json.readBytes content)

def uploadVia {ω : Type} (c : Client) (intake : Intake ω) (send : Transport ω) (u : Upload) :
    Attempt ω Receipt := do
  let req ← Attempt.ofExcept (c.request u)
  let resp ← (send req).mapFault (failed u.fileName)
  let content ← (intake.content req resp).mapFault (failed u.fileName)
  Attempt.ofExcept (receiptOf u.fileName resp (intake.text resp content) content)

def upload {ω : Type} (c : Client) (send : Transport ω) (u : Upload) : Attempt ω Receipt :=
  c.uploadVia .plain send u

def uploadFile {ω : Type} (c : Client) (send : Transport ω) (disk : ω → Disk) (script : Path) :
    Attempt ω Receipt := do
  let text ← Attempt.asking fun w => (disk w).readText script
  let u ← Attempt.ofExcept (Upload.of script.name text)
  c.upload send u

end Client

end BuildScripts

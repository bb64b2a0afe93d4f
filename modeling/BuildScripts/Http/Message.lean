import BuildScripts.Attempt
import BuildScripts.Http.Charset
import BuildScripts.Http.Url
import BuildScripts.Json.Bytes
import BuildScripts.Json.Printer

namespace BuildScripts

open BuildScripts.Text

structure Request where
  method : String
  url : Url
  headers : List (String × String)
  body : ByteArray

inductive Body
  | json (v : Value)
  | text (s : String)
  | raw (bytes : ByteArray)

structure Response where
  status : Nat
  headers : List (String × String)
  body : Body

abbrev Transport (ω : Type) := Request → Attempt ω Response

def headerNamed? (name : String) (headers : List (String × String)) : Option String :=
  (headers.find? fun (n, _) => n.toList.map Double.lowerAscii = name.toList).map (·.2)

namespace Request

def header? (r : Request) (name : String) : Option String :=
  headerNamed? name r.headers

def path (r : Request) : String :=
  r.url.serverPath

end Request

namespace Response

def ofJson (status : Nat) (v : Value) : Response :=
  ⟨status, [], .json v⟩

def ofText (status : Nat) (s : String) : Response :=
  ⟨status, [], .text s⟩

def withDetail (status : Nat) (detail : Value) : Response :=
  .ofJson status (.object [("detail", detail)])

def internalError : Response :=
  .ofText 500 "Internal Server Error"

def moved (url : Url) : Response :=
  ⟨307, [("location", url.toText)], .text ""⟩

def withoutBody (r : Response) : Response :=
  { r with body := .text "" }

def bytes (r : Response) : ByteArray :=
  match r.body with
  | .json v => Utf8.encode (Json.render Json.compact v)
  | .text s => Utf8.encode s
  | .raw bs => bs

def header? (r : Response) (name : String) : Option String :=
  headerNamed? name r.headers

def charset (r : Response) : Charset :=
  ((r.header? "content-type").bind Charset.ofContentType?).getD .utf8

def text (r : Response) : Except Fault String :=
  r.charset.decode r.bytes

def isError (r : Response) : Bool :=
  400 ≤ r.status && r.status ≤ 599

def redirections : List Nat := [301, 302, 303, 307, 308]

def location? (r : Response) : Option String :=
  if redirections.contains r.status then r.header? "location" else none

def checkLocation (location : String) : Except Fault Unit :=
  match Url.read location with
  | .error (.invalidUrl problem) =>
    .error (.transport "RemoteProtocolError" ("Invalid URL in location header: " ++ problem ++ "."))
  | .error f => .error f
  | .ok u =>
    if !u.scheme.isEmpty && u.host.isEmpty then Url.checkPath true true u.path.toList else .ok ()

def checkNext (r : Response) : Except Fault Unit :=
  match r.location? with
  | some l => checkLocation l
  | none => .ok ()

end Response

/-- How the answers to requests are taken in: what a body holds when it has been read and unpacked, and
the text of that. Both go by the headers, and both may fail. -/
structure Intake (ω : Type) where
  content : Request → Response → Attempt ω ByteArray
  text : Response → ByteArray → Except Fault String

namespace Intake

def checkSender (u : Url) : Except Fault Unit :=
  if u.isAbsolute then .ok () else .error (.badValue ("unknown url type: " ++ quoted u.toText))

/-- Takes in bodies that arrive whole and are not packed. -/
def plain {ω : Type} : Intake ω where
  content req r := Attempt.ofExcept do
    checkSender req.url
    r.checkNext
    return r.bytes
  text r content := r.charset.decode content

end Intake

def Transport.following {ω : Type} (send : Transport ω) : Nat → Transport ω
  | 0 => send
  | n + 1 => fun r => do
    let a ← send r
    match a.location?.map Url.read with
    | some (.ok url) => Transport.following send n { r with url }
    | _ => return a

end BuildScripts

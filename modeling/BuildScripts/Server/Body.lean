import BuildScripts.Http.Message
import BuildScripts.Server.Submission

namespace BuildScripts.Server

open BuildScripts.Text

def crumbValue : Crumb → Value
  | .field name => .text name
  | .index n => .ofNat n

def complaintValue (c : Complaint) : Value :=
  .object [("type", .text c.problem), ("loc", .list (c.place.map crumbValue))]

/-- The answer to a message that is not as it has to be. It shows what it complains about, so that
has to be a value that can be sent. -/
def unreadable (complaints : List Complaint) : Response :=
  if complaints.all fun c => Json.isSendable c.input then
    .withDetail 422 (.list (complaints.map complaintValue))
  else .internalError

def unreadableBody (problem : String) : Response :=
  unreadable [⟨problem, [.field "body"], .null⟩]

def saysJson (contentType : String) : Bool :=
  let name := String.ofList
    (stripChars (contentType.toList.takeWhile (· != ';')) |>.map Double.lowerAscii)
  name == "application/json" ||
    (beginsWith "application/" name && endsWith "+json" name && name.toList.count '/' == 1)

def isJson (r : Request) : Bool :=
  (r.header? "content-type").any saysJson

def readUpload (v : Value) : Except Response Submission :=
  match (Form.object "model_attributes_type" Submission.form v).under (.field "body") with
  | .good u => .ok u
  | .bad complaints => .error (unreadable complaints)

def readBody (r : Request) : Except Response Submission :=
  if r.body.isEmpty then .error (unreadableBody "missing")
  else if !isJson r then .error (unreadableBody "model_attributes_type")
  else
    match Json.readBytes r.body with
    | .ok v => readUpload v
    | .error (.badJson _) => .error (unreadableBody "json_invalid")
    | .error _ => .error (.withDetail 400 (.text "There was an error parsing the body"))

end BuildScripts.Server

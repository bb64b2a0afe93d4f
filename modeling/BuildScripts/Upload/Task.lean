import BuildScripts.Task.Basic
import BuildScripts.Upload.Client

namespace BuildScripts

structure UploadJob (ω : Type) where
  world : ω
  client : Client
  messages : List String
  receipt : Option Receipt

namespace UploadJob

def start {ω : Type} (world : ω) (client : Client) : UploadJob ω :=
  ⟨world, client, [], none⟩

def inWorld {ω α : Type} (x : Attempt ω α) : Attempt (UploadJob ω) α :=
  x.onPart UploadJob.world fun j w => { j with world := w }

def log {ω : Type} (message : String) : Attempt (UploadJob ω) Unit :=
  modify fun j => { j with messages := j.messages ++ [message] }

end UploadJob

structure UploadTask (ω : Type) where
  connection : Connection
  script : Path
  disk : ω → Disk
  send : Transport ω

namespace UploadTask

def name : String := "UploadScriptTask"

def opening (script : Path) (c : Client) : String :=
  "uploading script '" ++ script.toText ++ "' to " ++ c.baseUrl.toText

def perform {ω : Type} (t : UploadTask ω) : Attempt (UploadJob ω) Unit := do
  modify fun j => { j with client := j.client.configure t.connection }
  let client := (← get).client
  UploadJob.log (opening t.script client)
  let receipt ← UploadJob.inWorld (client.uploadFile t.send t.disk t.script)
  modify fun j => { j with receipt := some receipt }
  UploadJob.log ("uploaded script stored at " ++ receipt.storedPath)

def execute {ω : Type} (t : UploadTask ω) : Attempt (UploadJob ω) Unit :=
  Task.execute name t.perform

end UploadTask

end BuildScripts

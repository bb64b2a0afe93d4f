import BuildScripts.Build.Run
import BuildScripts.CommandLine.Command
import BuildScripts.Config.File
import BuildScripts.Server.Routes
import BuildScripts.Upload.Task

namespace BuildScripts.CommandLine

open BuildScripts.Text

structure Surroundings where
  environment : Environment
  library : Library
  clock : String

structure Site (ν : Type) where
  shop : Workshop Imports
  network : ν

structure Service where
  host : String
  port : Int
  server : Server Imports

structure Desk (ν : Type) where
  site : Site ν
  printed : String
  services : List Service

namespace Desk

variable {ν α : Type}

def start (site : Site ν) : Desk ν :=
  ⟨site, "", []⟩

def disk (d : Desk ν) : Disk :=
  d.site.shop.disk

def inShop (x : Attempt (Workshop Imports) α) : Attempt (Desk ν) α :=
  x.onPart (fun d => d.site.shop) fun d s => { d with site := { d.site with shop := s } }

def onDisk (x : Attempt Disk α) : Attempt (Desk ν) α :=
  inShop (Workshop.onDisk x)

def asking (f : Disk → Except Fault α) : Attempt (Desk ν) α :=
  onDisk (.asking f)

def print (text : String) : Attempt (Desk ν) Unit :=
  modify fun d => { d with printed := d.printed ++ text }

def say (line : String) : Attempt (Desk ν) Unit :=
  print (Task.printed line)

def announce (message : String) : Attempt (Desk ν) Unit :=
  print (Task.shown message)

end Desk

namespace Command

open Desk

variable {ν : Type}

def placeIn (root : Path) (p : Path) (d : Disk) : Except Fault Path :=
  if p.isAbsolute then .ok p else d.resolve (root.join p)

def runInit (p : Project) (force : Bool) : Attempt (Desk ν) Unit := do
  let root ← asking (·.resolve p.root)
  let config ← asking (placeIn root p.config)
  onDisk (Config.ensure config force)
  announce ("initialized config at " ++ config.toText)

def summaryOf (a : Analysis) : List String :=
  let m := a.metadata
  ["- references: " ++ decimal m.references.length] ++ m.references.map ("  " ++ ·) ++
    ["- source files: " ++ decimal m.sourceFiles.length, "- packages: " ++ decimal m.packages.length,
      "- body lines: " ++ decimal a.bodyLines.length]

def runAnalyse (s : Surroundings) (p : Project) (script : Path) (asJson : Bool) :
    Attempt (Desk ν) Unit := do
  let root ← asking (·.resolve p.root)
  let config ← asking (placeIn root p.config)
  let script ← asking (placeIn root script)
  let c ← asking fun d => Config.ofFileOrDefault s.environment d config
  let chain := localChain (.configured c.manifest s.library)
  let a ← inShop (Workshop.resolving fun d => prepareScript chain d script)
  if asJson then say (Json.render Json.indented a.toValue)
  else
    announce ("analysed " ++ script.toText)
    (summaryOf a).forM say

def runProjectBuild (s : Surroundings) (p : Project) (output : Path) :
    Attempt (Desk ν) Unit := do
  let root ← asking (·.resolve p.root)
  let config ← asking (placeIn root p.config)
  let output ← asking (placeIn root output)
  let c ← onDisk (Config.load s.environment config)
  let chain := localChain (.configured c.manifest s.library)
  let r ← inShop (runBuild chain s.clock root output c)
  announce "build complete"
  say ("- scripts: " ++ decimal r.report.scripts.length)
  say ("- references: " ++ decimal r.report.referenceCount)
  say ("- report: " ++ r.reportPath.toText)

def runCopy (t : CopyTask) : Attempt (Desk ν) Unit := do
  let j ← fun d =>
    let keep (j : CopyJob) : Desk ν :=
      { d with
        site := { d.site with shop := { d.site.shop with disk := j.disk } }
        printed := d.printed ++ Task.shownAll j.messages }
    match t.execute ⟨d.disk, [], []⟩ with
    | .ok _ j => .ok j (keep j)
    | .error f j => .error f (keep j)
  announce ("copied " ++ decimal j.copied.length ++ " files")

def runUpload (s : Surroundings) (send : Transport (Site ν)) (p : Project) (script : Path)
    (url : String) : Attempt (Desk ν) Unit := do
  let root ← asking (·.resolve p.root)
  let config ← asking (placeIn root p.config)
  let c ← asking fun d => Config.ofFileOrDefault s.environment d config
  let script ← asking (placeIn root script)
  let t : UploadTask (Site ν) := ⟨c.connection, script, fun w => w.shop.disk, send⟩
  fun d =>
    let keep (j : UploadJob (Site ν)) : Desk ν :=
      { d with site := j.world, printed := d.printed ++ Task.shownAll j.messages }
    match t.execute (.start d.site { Client.blank with baseUrl := .text url }) with
    | .ok _ j => .ok () (keep j)
    | .error f j => .error f (keep j)
  announce "upload complete"

def runServe (s : Surroundings) (p : Project) (host : String) (port : Int) :
    Attempt (Desk ν) Unit := do
  let root ← asking (·.resolve p.root)
  let config ← asking (placeIn root p.config)
  let c ← onDisk (Config.load s.environment config)
  let server ← asking fun d => Server.create c s.library d root
  modify fun d => { d with services := d.services ++ [⟨host, port, server⟩] }

def perform (s : Surroundings) (send : Transport (Site ν)) : Command → Attempt (Desk ν) Unit
  | .init p force => runInit p force
  | .analyse p script asJson => runAnalyse s p script asJson
  | .build p output => runProjectBuild s p output
  | .copy t => runCopy t
  | .upload p script url => runUpload s send p script url
  | .serve p host port => runServe s p host port

end Command

inductive Ending
  | done
  | misused
  | reported (f : Fault)
  | unexpected (f : Fault)
  deriving Repr

namespace Ending

def exitCode : Ending → Nat
  | .done => 0
  | .misused => 2
  | .reported _ => 1
  | .unexpected _ => 1

def errorText : Ending → String
  | .reported f => Task.shown ("error: " ++ f.message)
  | _ => ""

def ofFault (f : Fault) : Ending :=
  match f with
  | .rejected _ => .reported f
  | .task _ _ => .reported f
  | _ => .unexpected f

end Ending

def run {ν : Type} (s : Surroundings) (send : Transport (Site ν)) (args : List String)
    (site : Site ν) : Ending × Desk ν :=
  match Command.read? args with
  | none => (.misused, .start site)
  | some command =>
    match command.perform s send (.start site) with
    | .ok _ d => (.done, d)
    | .error f d => (.ofFault f, d)

end BuildScripts.CommandLine

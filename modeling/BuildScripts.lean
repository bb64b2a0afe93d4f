import BuildScripts.Main
import BuildScripts.Proofs.Script.Analysis
import BuildScripts.Proofs.Script.Repeat
import BuildScripts.Proofs.Server.Reread
import BuildScripts.Proofs.Task.Kept
import BuildScripts.Proofs.Task.Laid
import BuildScripts.Proofs.Server.Alike
import BuildScripts.Proofs.Server.Run
import BuildScripts.Proofs.Build.Discovery
import BuildScripts.Proofs.Server.Failure
import BuildScripts.Proofs.Build.Run
import BuildScripts.Proofs.Server.Confined
import BuildScripts.Proofs.Script.Finds
import BuildScripts.Proofs.Server.Local
import BuildScripts.Proofs.Server.Again
import BuildScripts.Proofs.Disk.Only
import BuildScripts.Proofs.Build.Rediscovery
import BuildScripts.Proofs.Build.Again
import BuildScripts.Proofs.Json.Bytes
import BuildScripts.Proofs.Json.Roundtrip
import BuildScripts.Proofs.Upload.Message
import BuildScripts.Proofs.Upload.Request
import BuildScripts.Proofs.Upload.Task
import BuildScripts.Proofs.Upload.Address
import BuildScripts.Proofs.Script.Rendering
import BuildScripts.Proofs.Artifact.Escapes
import BuildScripts.Proofs.Upload.Keys
import BuildScripts.Proofs.Task.Overwritten
import BuildScripts.Proofs.Task.Halted
import BuildScripts.Proofs.Build.Output
import BuildScripts.Proofs.Build.Stopped
import BuildScripts.Proofs.Build.Reread
import BuildScripts.Proofs.Script.Numbering
import BuildScripts.Proofs.Script.Endings
import BuildScripts.Proofs.Artifact.Location
import BuildScripts.Proofs.Build.Found
import BuildScripts.Proofs.Glob.Groups
import BuildScripts.Proofs.Script.Processors
import BuildScripts.Proofs.Script.Joined
import BuildScripts.Proofs.Build.Bookkeeping
import BuildScripts.Proofs.Glob.Leftover
import BuildScripts.Proofs.Upload.Outcome

import BuildScripts.Config.Basic
import BuildScripts.Disk.Write
import BuildScripts.Yaml.Document

namespace BuildScripts.Config

def ofText (env : Environment) (s : String) : Except Fault Config := do
  let doc ← Yaml.read s
  ofValue env (if doc.truthy then doc else .map [])

def ofFile (env : Environment) (d : Disk) (p : Path) : Except Fault Config := do
  ofText env (← d.readText p)

def ensure (p : Path) (force : Bool) : Attempt Disk Unit := do
  let present ← Attempt.ofExcept ((← get).exists? p)
  if present && !force then return
  Disk.makeDirectories p.parent
  Disk.writeText p initialDocument

def load (env : Environment) (p : Path) : Attempt Disk Config := do
  unless ← Attempt.ofExcept ((← get).exists? p) do
    ensure p false
  Attempt.ofExcept (ofFile env (← get) p)

def ofFileOrDefault (env : Environment) (d : Disk) (p : Path) : Except Fault Config := do
  if ← d.exists? p then ofFile env d p else return default env

end BuildScripts.Config

import BuildScripts.Artifact.Resolver
import BuildScripts.Config.Basic
import BuildScripts.Script.Prepared

namespace BuildScripts

structure Server (σ : Type) where
  key : Value
  scriptsDir : Path
  chain : Chain σ

namespace Server

variable {σ : Type}

def scriptsDirOf (c : Config) (d : Disk) (root : Path) : Except Fault Path :=
  match c.scriptsDir with
  | .text s =>
    let p := Path.ofText s
    if p.isAbsolute then .ok p else d.resolve (root.join p)
  | _ => .error .wrongType

def resolverOf (c : Config) (lib : Library) : Resolver Imports :=
  .manifest c.manifest (if c.allowImports then some (.library lib) else none)

def chainOf (c : Config) (lib : Library) (d : Disk) (scriptsDir : Path) :
    Except Fault (Chain Imports) := do
  return serverChain (resolverOf c lib) (← d.resolve scriptsDir)

def create (c : Config) (lib : Library) (d : Disk) (root : Path) :
    Except Fault (Server Imports) := do
  let full ← d.resolve root
  let dir ← scriptsDirOf c d full
  return ⟨c.connection.apiKey, dir, ← chainOf c lib d dir⟩

end Server

end BuildScripts

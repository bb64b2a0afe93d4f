import BuildScripts.Json.Printer

namespace BuildScripts

structure Package where
  name : String
  version : Option String
  deriving DecidableEq, Repr

structure Metadata where
  script : Option String
  references : List String
  sourceFiles : List String
  packages : List Package
  deriving DecidableEq, Repr

structure Analysis where
  metadata : Metadata
  bodyLines : List String
  deriving DecidableEq, Repr

namespace Metadata

def start (script : Option String) : Metadata :=
  ⟨script, [], [], []⟩

def addReference (m : Metadata) (file : String) : Metadata :=
  { m with references := m.references ++ [file] }

def addSourceFile (m : Metadata) (file : String) : Metadata :=
  { m with sourceFiles := m.sourceFiles ++ [file] }

def addPackage (m : Metadata) (p : Package) : Metadata :=
  { m with packages := m.packages ++ [p] }

end Metadata

def Analysis.body (a : Analysis) : String :=
  String.intercalate "\n" a.bodyLines

def Package.toValue (p : Package) : Value :=
  .object [("name", .text p.name), ("version", .ofText? p.version)]

def Metadata.toValue (m : Metadata) : Value :=
  .object [("script_path", .ofText? m.script), ("references", .texts m.references),
    ("source_files", .texts m.sourceFiles),
    ("package_references", .list (m.packages.map Package.toValue))]

def Analysis.toValue (a : Analysis) : Value :=
  .object [("result", a.metadata.toValue), ("body_lines", .texts a.bodyLines)]

end BuildScripts

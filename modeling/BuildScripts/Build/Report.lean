import BuildScripts.Script.Metadata

namespace BuildScripts

structure Summary where
  path : String
  bodyPath : String
  bodyLines : Nat
  references : List String
  sourceFiles : List String
  packages : List Package
  deriving DecidableEq, Repr

structure Report where
  root : String
  generatedAt : String
  scripts : List Summary
  deriving DecidableEq, Repr

def Summary.ofAnalysis (path bodyPath : String) (a : Analysis) : Summary :=
  ⟨path, bodyPath, a.bodyLines.length, a.metadata.references, a.metadata.sourceFiles,
    a.metadata.packages⟩

def Report.referenceCount (r : Report) : Nat :=
  (r.scripts.flatMap (·.references)).length

def Summary.toValue (s : Summary) : Value :=
  .object [("path", .text s.path), ("body_path", .text s.bodyPath),
    ("body_lines", .ofNat s.bodyLines), ("references", .texts s.references),
    ("source_files", .texts s.sourceFiles),
    ("package_references", .list (s.packages.map Package.toValue))]

def Report.toValue (r : Report) : Value :=
  .object [("root", .text r.root), ("generated_at", .text r.generatedAt),
    ("scripts", .list (r.scripts.map Summary.toValue)),
    ("metadata", .object [("scripts", .ofNat r.scripts.length),
      ("references", .ofNat r.referenceCount)])]

end BuildScripts

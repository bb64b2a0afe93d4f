import BuildScripts.Form
import BuildScripts.Path
import BuildScripts.Script.Metadata

namespace BuildScripts

structure Upload where
  fileName : String
  content : String
  deriving DecidableEq, Repr

structure Receipt where
  ok : Bool
  fileName : String
  storedPath : String
  references : List String
  sourceFiles : List String
  packages : List Package
  bodyLines : Int
  deriving DecidableEq, Repr

namespace Upload

open Form

def model : String := "UploadScriptRequest"

def toValue (u : Upload) : Value :=
  .object [("file_name", .text u.fileName), ("content", .text u.content)]

def form : Form Upload := fun v =>
  Upload.mk <$> member "file_name" filledText v <*> member "content" text v

def of (fileName content : String) : Except Fault Upload :=
  (form (toValue ⟨fileName, content⟩)).toExcept model

end Upload

namespace Receipt

open Form

def model : String := "UploadScriptResponse"

def toValue (r : Receipt) : Value :=
  .object [("ok", .bool r.ok), ("file_name", .text r.fileName),
    ("stored_path", .text r.storedPath), ("references", .texts r.references),
    ("source_files", .texts r.sourceFiles),
    ("package_references", .list (r.packages.map Package.toValue)),
    ("body_lines", .int r.bodyLines)]

def packageForm : Form Package :=
  object "model_type" fun v =>
    Package.mk <$> member "name" text v <*> memberOr "version" none (optional text) v

def form : Form Receipt :=
  object "model_type" fun v =>
    Receipt.mk <$> memberOr "ok" true flag v <*> member "file_name" text v <*>
      member "stored_path" text v <*> memberOr "references" [] (list text) v <*>
      memberOr "source_files" [] (list text) v <*>
      memberOr "package_references" [] (list packageForm) v <*>
      memberOr "body_lines" 0 whole v

def ofValue (v : Value) : Except Fault Receipt :=
  (form v).toExcept model

def ofAnalysis (fileName : String) (stored : Path) (a : Analysis) : Receipt :=
  ⟨true, fileName, stored.toText, a.metadata.references, a.metadata.sourceFiles,
    a.metadata.packages, a.bodyLines.length⟩

end Receipt

end BuildScripts

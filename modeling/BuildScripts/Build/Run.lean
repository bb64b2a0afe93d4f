import BuildScripts.Build.Discovery
import BuildScripts.Build.Report
import BuildScripts.Disk.Write
import BuildScripts.Script.Prepared

namespace BuildScripts

structure Built where
  path : String
  analysis : Analysis
  bodyPath : Path
  deriving Repr

structure BuildResult where
  report : Report
  scripts : List Built
  reportPath : Path
  deriving Repr

def Analysis.bodyText (a : Analysis) : String :=
  if a.bodyLines.isEmpty then "" else a.body ++ "\n"

def bodyPath (output : Path) (rel : String) : Path :=
  (output.child "scripts").join (Path.ofText rel)

def reportPath (output : Path) : Path :=
  output.child "analysis.json"

def buildScript {σ : Type} (chain : Chain σ) (root output : Path) (rel : String) :
    Attempt (Workshop σ) Built := do
  let analysis ← Workshop.resolving fun d => prepareScript chain d (root.join (Path.ofText rel))
  let body := bodyPath output rel
  Workshop.onDisk (Disk.makeDirectories body.parent)
  Workshop.onDisk (Disk.writeText body analysis.bodyText)
  return ⟨rel, analysis, body⟩

def buildScripts {σ : Type} (chain : Chain σ) (root output : Path) :
    List String → Attempt (Workshop σ) (List Built)
  | [] => pure []
  | rel :: rels => do
    let b ← buildScript chain root output rel
    let bs ← buildScripts chain root output rels
    return b :: bs

def reportOf (root : Path) (clock : String) (scripts : List Built) : Report :=
  ⟨root.toText, clock,
    scripts.map fun b => Summary.ofAnalysis b.path b.bodyPath.toText b.analysis⟩

def writeJson (p : Path) (v : Value) : Attempt Disk Unit := do
  Disk.makeDirectories p.parent
  Disk.writeText p (Json.render Json.indented v)

def runBuild {σ : Type} (chain : Chain σ) (clock : String) (root output : Path) (c : Config) :
    Attempt (Workshop σ) BuildResult := do
  let rels ← Attempt.ofExcept (discover (← get).disk root c)
  let scripts ← buildScripts chain root output rels
  let report := reportOf root clock scripts
  Workshop.onDisk (writeJson (reportPath output) report.toValue)
  return ⟨report, scripts, reportPath output⟩

/-- The paths that a build has written, by script; the report has a name of its own, also against
a script of that name. -/
def BuildResult.outputs (r : BuildResult) : List (String × Path) :=
  (r.scripts.map fun b => (b.path, b.bodyPath)).filter (·.1 ≠ "report") ++ [("report", r.reportPath)]

end BuildScripts

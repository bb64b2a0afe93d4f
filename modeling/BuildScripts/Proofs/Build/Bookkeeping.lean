import BuildScripts.Proofs.Build.Found
import BuildScripts.Proofs.Disk.Kept

namespace BuildScripts

open Attempt
open BuildScripts.Text

variable {σ : Type} {chain : Chain σ} {root output : Path} {name : String} {rels : List String}
  {w w' : Workshop σ} {bs : List Built} {r : BuildResult} {c : Config}

section Books

def BuildResult.analyses (r : BuildResult) : List (String × Analysis) :=
  r.scripts.map fun b => (b.path, b.analysis)

def BuildResult.notes (r : BuildResult) : List (String × Path) :=
  r.scripts.map (fun b => (b.path, b.bodyPath)) ++ [("report", r.reportPath)]

structure Books (r : BuildResult) (output : Path) (rels : List String) : Prop where
  analysed : r.analyses.map Prod.fst = rels
  distinct : (r.outputs.map Prod.fst).Nodup
  noted : ∀ name, r.outputs.lookup name = r.notes.reverse.lookup name
  bodies : ∀ rel ∈ rels, r.outputs.lookup rel = some (bodyPath output rel) ↔ rel ≠ "report"
  report : r.outputs.lookup "report" = some (reportPath output)
  size : r.outputs.length = if "report" ∈ rels then rels.length else rels.length + 1

theorem lookup_keyed (f : String → Path) (rels : List String) (name : String) :
    (rels.map fun rel => (rel, f rel)).lookup name = if name ∈ rels then some (f name) else none := by
  induction rels with
  | nil => rfl
  | cons rel rels ih =>
    rw [List.map_cons, List.lookup_cons]
    by_cases hname : name = rel
    · simp [hname]
    · rw [beq_false_of_ne hname, ih]
      simp [hname]

theorem bodyPath_ne_reportPath (output : Path) (hs : Slashless name) (hn : IsName name) :
    bodyPath output name ≠ reportPath output := by
  have hpath := bodyPath_relativeText output (List.cons_ne_nil name [])
    (List.forall_mem_singleton.2 hs) (List.forall_mem_singleton.2 hn)
  rw [relativeText, String.intercalate_singleton] at hpath
  intro heq
  have hlength := congrArg (fun p => p.parts.length) (hpath.symm.trans heq)
  simp [reportPath, Path.child, Path.parts_descend] at hlength

theorem lookup_reported (p : Path) (name : String) :
    [("report", p)].lookup name = if name = "report" then some p else none := by
  simpa using lookup_keyed (fun _ => p) ["report"] name

section Lookup

variable (hpaths : ∀ b ∈ r.scripts, b.bodyPath = bodyPath output b.path)
include hpaths

theorem bodies_of_paths : r.scripts.map (fun b => (b.path, b.bodyPath)) =
    (r.scripts.map Built.path).map fun rel => (rel, bodyPath output rel) := by
  rw [List.map_map]
  apply List.map_congr_left
  intro b hb
  rw [Function.comp_apply, hpaths b hb]

theorem outputs_of_paths :
    r.outputs = (((r.scripts.map Built.path).filter (· ≠ "report")).map fun rel =>
      (rel, bodyPath output rel)) ++ [("report", r.reportPath)] := by
  rw [BuildResult.outputs, bodies_of_paths hpaths, List.filter_map]
  rfl

theorem lookup_outputs (name : String) :
    r.outputs.lookup name = if name = "report" then some r.reportPath
      else if name ∈ r.scripts.map Built.path then some (bodyPath output name) else none := by
  rw [outputs_of_paths hpaths, List.lookup_append, lookup_keyed, lookup_reported]
  by_cases hname : name = "report"
  · simp [hname]
  · simp [hname]

theorem lookup_notes (name : String) :
    r.notes.reverse.lookup name = if name = "report" then some r.reportPath
      else if name ∈ r.scripts.map Built.path then some (bodyPath output name) else none := by
  rw [BuildResult.notes, List.reverse_append, List.reverse_singleton, List.lookup_append,
    bodies_of_paths hpaths, ← List.map_reverse, lookup_keyed, lookup_reported]
  by_cases hname : name = "report"
  · simp [hname]
  · simp [hname]

theorem length_outputs (hnodup : (r.scripts.map Built.path).Nodup) : r.outputs.length =
    if "report" ∈ r.scripts.map Built.path then r.scripts.length else r.scripts.length + 1 := by
  have hsame : (r.scripts.map Built.path).filter (· ≠ "report") =
      (r.scripts.map Built.path).erase "report" := by
    rw [hnodup.erase_eq_filter]
    exact List.filter_congr fun _ _ => decide_not
  have herase := congrArg List.length hsame
  rw [List.length_erase, List.length_map] at herase
  rw [outputs_of_paths hpaths, List.length_append, List.length_map, List.length_singleton]
  by_cases hmem : "report" ∈ r.scripts.map Built.path
  · have hpos := List.length_pos_of_mem hmem
    rw [List.length_map] at hpos
    rw [if_pos hmem] at herase ⊢
    omega
  · rw [if_neg hmem] at herase ⊢
    omega

theorem books_of_paths (hreport : r.reportPath = reportPath output)
    (hnodup : (r.scripts.map Built.path).Nodup) : Books r output (r.scripts.map Built.path) where
  analysed := by
    rw [BuildResult.analyses, List.map_map]
    rfl
  distinct := by
    rw [outputs_of_paths hpaths, List.map_append, List.map_map]
    change (List.map id _ ++ ["report"]).Nodup
    rw [List.map_id]
    apply List.Nodup.append (hnodup.filter _) (List.nodup_singleton _)
    simp
  noted name := (lookup_outputs hpaths name).trans (lookup_notes hpaths name).symm
  bodies rel hrel := by
    rw [lookup_outputs hpaths]
    by_cases hname : rel = "report"
    · subst hname
      have hne : reportPath output ≠ bodyPath output "report" :=
        (bodyPath_ne_reportPath output (by decide) (by decide)).symm
      simp [hreport, hne]
    · simp [hname, hrel]
  report := by
    rw [lookup_outputs hpaths, if_pos rfl, hreport]
  size := by
    rw [length_outputs hpaths hnodup, List.length_map]

end Lookup

end Books

section Written

variable {d d₁ d' : Disk} {p : Path} {text : String} {earlier later : List (Path × String)}

def Disk.Retains (d : Disk) (later : List (Path × String)) (p : Path) (text : String) : Prop :=
  ∃ l e, d.find p = .ok (l, e) ∧ (e = .sink ∨ e = .file (d.leftAt l later (Utf8.encode text)))

theorem Disk.retains_of_wrote (hd : d.Proper) (h : writeWithParents p text d = .ok () d₁)
    (hlater : Wrote later d₁ d') : d'.Retains later p text := by
  obtain ⟨-, hgrew, l, held, hfind⟩ := find_of_written hd h
  have hd₁ := hgrew.proper
  have hget := found_of_seek hd₁.grounded (hd₁.starts p) (find_eq_ok_iff.1 hfind)
  rcases filled_cases held (Utf8.encode text) with hsink | hfile
  · rw [hsink] at hget
    have hheld := hlater.grew.grown.sink l hget
    exact ⟨l, _, hlater.grew.find_of_get? hd₁ hfind hheld, .inl rfl⟩
  · rw [hfile] at hget
    have hheld := hlater.held d' (.refl hlater.grew.proper) l _ hget
    exact ⟨l, _, hlater.grew.find_of_get? hd₁ hfind hheld, .inr rfl⟩

theorem exists_write_of_buildScripts (hd : w.disk.Proper)
    (h : buildScripts chain root output rels w = .ok bs w')
    (hsplit : bs.map Built.write = earlier ++ (p, text) :: later) : ∃ d d₁, d.Proper ∧
      Disk.writeWithParents p text d = .ok () d₁ ∧ Disk.Wrote later d₁ w'.disk := by
  obtain ⟨before, rest, rfl, -, hrest⟩ := List.map_eq_append_iff.1 hsplit
  obtain ⟨b, after, rfl, hb, rfl⟩ := List.map_eq_cons_iff.1 hrest
  obtain ⟨w₁, w₂, hbefore, hturn, hafter⟩ := split_of_buildScripts h
  obtain ⟨-, -, -, hwrite⟩ := buildScript_eq_ok hturn
  obtain ⟨rfl, rfl⟩ := Prod.mk.inj hb
  have hd₁ := (wrote_of_buildScripts hd hbefore).grew.proper
  have hd₂ := (Disk.wrote_of_writeWithParents hd₁ hwrite).grew.proper
  exact ⟨w₁.disk, w₂.disk, hd₁, hwrite, wrote_of_buildScripts hd₂ hafter⟩

theorem bodyPath_of_buildScripts (h : buildScripts chain root output rels w = .ok bs w') :
    ∀ b ∈ bs, b.bodyPath = bodyPath output b.path := by
  intro b hb
  obtain ⟨before, after, rfl⟩ := List.append_of_mem hb
  obtain ⟨w₁, w₂, -, hturn, -⟩ := split_of_buildScripts h
  exact (buildScript_eq_ok hturn).2.1

theorem retains_of_runBuild {clock : String} (hd : w.disk.Proper)
    (h : runBuild chain clock root output c w = .ok r w')
    (hsplit : r.writes = earlier ++ (p, text) :: later) : w'.disk.Retains later p text := by
  obtain ⟨rels, w₁, -, hbuild, hreport⟩ := runBuild_eq_ok h
  have hd₁ := (wrote_of_buildScripts hd hbuild).grew.proper
  have hreported := Disk.wrote_of_writeWithParents hd₁ hreport
  rw [BuildResult.writes] at hsplit
  rcases List.eq_nil_or_concat' later with rfl | ⟨front, last, rfl⟩
  · obtain ⟨-, hlast⟩ := List.append_inj' hsplit rfl
    cases hlast
    exact Disk.retains_of_wrote hd₁ hreport (.refl hreported.grew.proper)
  · rw [← List.cons_append, ← List.append_assoc] at hsplit
    obtain ⟨hbodies, hlast⟩ := List.append_inj' hsplit rfl
    cases hlast
    obtain ⟨d, d₁, hproper, hwrite, hfront⟩ := exists_write_of_buildScripts hd hbuild hbodies
    exact Disk.retains_of_wrote hproper hwrite (hfront.trans hreported)

end Written

section Clash

variable {d : Disk}

theorem report_mem_discover_iff (hd : d.Proper) (hs : d.tree.Slashless)
    (h : discover d root c = .ok rels) :
    "report" ∈ rels ↔ isSelected c "report" = .ok true ∧ d.FileBelow root ["report"] := by
  constructor
  · intro hmem
    obtain ⟨names, hname, hselected, hbelow, hne, hslash, hnames⟩ := names_of_discover hd hs h hmem
    have hpath := ofText_relativeText hne hslash hnames
    rw [← hname] at hpath
    have hparts : names = ["report"] := (congrArg Path.parts hpath).symm.trans (by decide)
    exact ⟨hselected, hparts ▸ hbelow⟩
  · rintro ⟨hselected, hbelow⟩
    exact (Disk.mem_discover hd.grounded h _).2 ⟨hselected, ["report"], by decide, hbelow⟩

theorem isSelected_report (hc : c.included = .texts Config.defaultIncluded) :
    isSelected c "report" ≠ .ok true := by
  have hincluded : Config.patternsOf (.texts Config.defaultIncluded) = .ok Config.defaultIncluded :=
    Config.patternsOf_texts (by decide +kernel)
  have hname : ¬ IsScriptName "report" := by
    rintro ⟨ending, hending, stem, heq⟩
    have hends : ∀ ending ∈ Config.scriptEndings, ¬ ending.toList <:+ "report".toList := by decide
    exact hends ending hending ⟨stem.toList, by rw [heq, String.toList_append]⟩
  have hiff : Glob.pathMatches (relativeText ([] ++ ["report"])) Config.defaultIncluded = true ↔
      IsScriptName "report" := included_iff
  have hmatch : Glob.pathMatches "report" Config.defaultIncluded = false := by
    rw [← Bool.not_eq_true]
    exact fun h => hname (hiff.1 h)
  rw [isSelected, hc, hincluded]
  cases hexcluded : Config.patternsOf c.excluded with
  | error f => simp [bind, Except.bind]
  | ok excluded =>
    change Except.ok (Glob.isIncluded _ _ _) ≠ _
    simp [Glob.isIncluded, hmatch]

end Clash

/-- The books of a build that returns. Everything that it has written is found where it was written,
but for what it has itself written over. There is one analysis for each script. The outputs lead from
the path of each script to its body and from the name of the report to the report, so they are one more
than the scripts, if and only if no file in the root that has the name of the report is selected; with
the built-in patterns none is. -/
theorem runBuild_books {clock : String} (hd : w.disk.Proper) (hs : w.disk.tree.Slashless)
    (h : runBuild chain clock root output c w = .ok r w') :
    ∃ rels, discover w.disk root c = .ok rels ∧ rels.Nodup ∧ Books r output rels ∧
      ("report" ∈ rels ↔
        isSelected c "report" = .ok true ∧ w.disk.FileBelow root ["report"]) ∧
      (c.included = .texts Config.defaultIncluded → "report" ∉ rels) ∧
      (∀ rel ∈ rels, ∃ b ∈ r.scripts, b.path = rel ∧ b.bodyPath = bodyPath output rel) ∧
      ∀ earlier p text later, r.writes = earlier ++ (p, text) :: later →
        w'.disk.Retains later p text := by
  obtain ⟨rels, scripts, w₁, d', hdiscover, hbuild, -, rfl, -⟩ := runBuild_eq_ok_iff.1 h
  have hnodup := nodup_discover hd hs hdiscover
  have hclash := report_mem_discover_iff hd hs hdiscover
  have hpaths := bodyPath_of_buildScripts hbuild
  obtain rfl := paths_of_buildScripts hbuild
  refine ⟨_, hdiscover, hnodup, books_of_paths hpaths rfl hnodup, hclash, ?_, ?_, ?_⟩
  · intro hc hmem
    exact isSelected_report hc (hclash.1 hmem).1
  · intro rel hrel
    obtain ⟨b, hb, rfl⟩ := List.mem_map.1 hrel
    exact ⟨b, hb, rfl, hpaths b hb⟩
  · intro earlier p text later hsplit
    exact retains_of_runBuild hd h hsplit

def namedReport : Workshop Imports :=
  ⟨⟨⟨[(["a"], .file (Utf8.encode "A\n")), (["report"], .file (Utf8.encode "Run();\n"))]⟩, []⟩,
    .empty⟩

def everyFile : Config :=
  { Config.default [] with included := .texts ["*"] }

def bookedOutput : Path := ⟨.relative, ["out"]⟩

theorem namedReport_discover :
    discover namedReport.disk .here everyFile = .ok ["a", "report"] := by
  refine discover_eq_ok_iff.2 ⟨["a", "report"], ["a", "report"], by rfl, by rfl, ?_⟩
  rw [byCodePoint, List.mergeSort_of_pairwise]
  decide +kernel

theorem runBuild_books_named : ∃ r w',
    runBuild (localChain (.configured everyFile.manifest .aliased)) "" .here bookedOutput everyFile
      namedReport = .ok r w' ∧
    r.outputs.lookup "a" = some (bodyPath bookedOutput "a") ∧
    r.outputs.lookup "report" = some (reportPath bookedOutput) ∧
    r.outputs.length = 2 ∧ r.analyses.length = 2 := by
  have hrun : (runBuild (localChain (.configured everyFile.manifest .aliased)) "" .here bookedOutput
      everyFile).leaves namedReport (fun _ => true) = true := by
    rw [leaves, runBuild, get_bind, ofExcept_bind_ok namedReport_discover]
    decide +kernel
  obtain ⟨r, w', h, -⟩ := ok_of_leaves hrun
  have hproper : namedReport.disk.Proper := ⟨Tree.proper_of_isProper (by decide +kernel), rfl⟩
  obtain ⟨rels, hdiscover, -, hbooks, -⟩ := runBuild_books hproper
    (Tree.slashless_of_isSlashless (by decide +kernel)) h
  rw [namedReport_discover] at hdiscover
  cases hdiscover
  have hanalyses := congrArg List.length hbooks.analysed
  rw [List.length_map] at hanalyses
  exact ⟨r, w', h, (hbooks.bodies "a" (by decide)).2 (by decide), hbooks.report, hbooks.size,
    hanalyses⟩

end BuildScripts

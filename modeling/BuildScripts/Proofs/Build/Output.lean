import BuildScripts.Proofs.Build.Again
import BuildScripts.Proofs.Disk.Along
import BuildScripts.Proofs.Upload.Message

namespace BuildScripts

open Attempt
open BuildScripts.Text

theorem intercalate_append_feed (line : String) (lines : List String) :
    String.intercalate "\n" (line :: lines) ++ "\n" =
      String.join ((line :: lines).map (· ++ "\n")) := by
  induction lines generalizing line with
  | nil => simp
  | cons next lines ih =>
    rw [String.intercalate_cons_cons, String.append_assoc, ih, List.map_cons, String.join_cons,
      List.map_cons, List.map_cons, String.join_cons, String.join_cons]

theorem Analysis.bodyText_eq (a : Analysis) :
    a.bodyText = String.join (a.bodyLines.map (· ++ "\n")) := by
  rw [bodyText, body]
  cases a.bodyLines with
  | nil => rfl
  | cons line lines => exact intercalate_append_feed line lines

section Places

variable {d : Disk} {root output : Path} {c : Config} {l : Location} {rel : String}
  {rels names : List String}

theorem isName_scripts : IsName "scripts" := by decide

theorem parent_bodyPath (output : Path) (hne : names ≠ []) (hs : ∀ name ∈ names, Slashless name)
    (hn : ∀ name ∈ names, IsName name) : (bodyPath output (relativeText names)).parent =
      output.descend ("scripts" :: names.dropLast) := by
  rw [bodyPath_relativeText output hne hs hn, Path.child_descend, Path.parent, Path.parts_descend,
    List.dropLast_append_of_ne_nil (by simp), List.dropLast_cons_of_ne_nil hne]
  rfl

theorem parent_reportPath (output : Path) : (reportPath output).parent = output := by
  simp [reportPath, Path.parent, Path.child]

theorem passes_bodyPath (hne : names ≠ []) (hs : ∀ name ∈ names, Slashless name)
    (hn : ∀ name ∈ names, IsName name)
    (h : d.Passes (bodyPath output (relativeText names)).parent l) :
    d.Passes output l ∨
      ∃ front, front <+: "scripts" :: names.dropLast ∧ l = front.reverse ++ d.place output := by
  rw [parent_bodyPath output hne hs hn] at h
  apply h.of_descend
  rw [List.forall_mem_cons]
  exact ⟨isName_scripts, fun name hname => hn name (List.mem_of_mem_dropLast hname)⟩

theorem output_of_mem (hd : d.Proper) (hs : d.tree.Slashless) (h : discover d root c = .ok rels)
    {p : Path} (hp : p ∈ rels.map (bodyPath output) ++ [reportPath output]) :
    d.place output <:+ d.place p ∧
      ∀ l, d.Passes p.parent l → d.Passes output l ∨ d.place output <:+ l := by
  rcases List.mem_append.1 hp with hp | hp
  · obtain ⟨rel, hrel, rfl⟩ := List.mem_map.1 hp
    refine ⟨((bodyPlaces_of_discover output hd hs h).2 _ (List.mem_map_of_mem hrel)).1,
      fun l hl => ?_⟩
    obtain ⟨names, rfl, -, -, hne, hslash, hnames⟩ := names_of_discover hd hs h hrel
    refine (passes_bodyPath hne hslash hnames hl).imp_right ?_
    rintro ⟨front, -, rfl⟩
    exact List.suffix_append _ _
  · rw [List.mem_singleton.1 hp, parent_reportPath, place_reportPath]
    exact ⟨List.suffix_cons _ _, fun l hl => .inl hl⟩

end Places

section Bodies

variable {σ : Type} {chain : Chain σ} {root output : Path} {rels : List String}
  {w w' : Workshop σ} {bs : List Built}

theorem bodies_of_buildScripts (hd : w.disk.Proper) (hfree : w.disk.tree.LinkFree)
    (hlast : ∀ rel ∈ rels, (bodyPath output rel).parts.getLast? ≠ some "")
    (hdistinct : (bodyPlaces w.disk output rels).Nodup)
    (h : buildScripts chain root output rels w = .ok bs w') :
    Disk.WroteAlong (rels.map (bodyPath output)) w.disk w'.disk ∧
      ∀ b ∈ bs, b.bodyPath = bodyPath output b.path ∧
        w.disk.Holds w'.disk b.bodyPath b.analysis.bodyText := by
  induction rels generalizing w bs with
  | nil =>
    cases h
    exact ⟨.refl hd, by simp⟩
  | cons rel rels ih =>
    obtain ⟨hlastRel, hlastRels⟩ := List.forall_mem_cons.1 hlast
    obtain ⟨hnew, hdistinct⟩ := List.nodup_cons.1 hdistinct
    obtain ⟨b, w₁, rest, hb, hrest, rfl⟩ := buildScripts_cons_eq_ok.1 h
    obtain ⟨hpath, hbody, -, hwrite⟩ := buildScript_eq_ok hb
    rw [hbody] at hwrite
    have hfirst := Disk.wroteAlong_of_writeWithParents hd hfree hlastRel hwrite
    have hd₁ := hfirst.grew.proper
    have hhere := hfirst.grew.here
    have hdistinct₁ : (bodyPlaces w₁.disk output rels).Nodup := by
      rwa [bodyPlaces_of_here hhere]
    obtain ⟨hothers, hbodies⟩ := ih hd₁ (hfirst.grew.grown.linkFree hfree) hlastRels hdistinct₁ hrest
    have hne : ∀ other ∈ rels,
        w.disk.place (bodyPath output rel) ≠ w.disk.place (bodyPath output other) :=
      fun other hother heq => hnew (List.mem_map.2 ⟨other, hother, heq.symm⟩)
    refine ⟨hfirst.trans hothers, fun other hother => ?_⟩
    rcases List.mem_cons.1 hother with rfl | hother
    · refine ⟨by rw [hbody, hpath], ?_⟩
      rw [hbody]
      apply (Disk.holds_of_writeWithParents hd hfree hlastRel hwrite).before hd₁ hhere hothers
      rw [List.forall_mem_map]
      exact hne
    · obtain ⟨hbody', hholds⟩ := hbodies other hother
      refine ⟨hbody', hholds.after hfirst ?_⟩
      rw [List.forall_mem_singleton, hbody']
      have hmem : other.path ∈ rels := paths_of_buildScripts hrest ▸ List.mem_map_of_mem hother
      exact (hne other.path hmem).symm

end Bodies

section Analyses

variable {root output : Path} {rels : List String} {w w' : Workshop Imports} {bs : List Built}
  {listed : Manifest} {lib : Library} {out : Location} {later : Disk}

theorem mapM_prepareScript (hd : w.disk.Proper) (hfree : w.disk.tree.LinkFree)
    (hlast : ∀ rel ∈ rels, (bodyPath output rel).parts.getLast? ≠ some "")
    (hfiles : ∀ rel ∈ rels, ∃ l bytes,
      w.disk.find (scriptPath root rel) = .ok (l, .file bytes) ∧ ¬ out <:+ l)
    (hbelow : ∀ l ∈ bodyPlaces w.disk output rels, out <:+ l)
    (h : buildScripts (localChain (.configured listed lib)) root output rels w = .ok bs w')
    (hlater : Disk.WroteOnly (out <:+ ·) w'.disk later) :
    rels.mapM (fun rel => prepareScript (localChain (.configured listed lib)) later
      (scriptPath root rel)) w.resolver = .ok (bs.map Built.analysis) w'.resolver := by
  induction rels generalizing w bs with
  | nil =>
    cases h
    rfl
  | cons rel rels ih =>
    obtain ⟨hlastRel, hlastRels⟩ := List.forall_mem_cons.1 hlast
    obtain ⟨⟨l, bytes, hfind, hl⟩, hfiles⟩ := List.forall_mem_cons.1 hfiles
    obtain ⟨hout, hothersOut⟩ := List.forall_mem_cons.1 hbelow
    obtain ⟨b, w₁, rest, hb, hrest, rfl⟩ := buildScripts_cons_eq_ok.1 h
    obtain ⟨-, hpath, hprepare, hwrite⟩ := buildScript_eq_ok hb
    rw [hpath] at hwrite
    have hfirst : Disk.WroteOnly (out <:+ ·) w.disk w₁.disk :=
      (Disk.wroteOnly_of_writeWithParents hd hfree hlastRel hwrite).mono fun l hl => hl ▸ hout
    have hd₁ := hfirst.grew.proper
    have hfree₁ := hfirst.grew.grown.linkFree hfree
    have hbelow₁ : ∀ l ∈ bodyPlaces w₁.disk output rels, out <:+ l := by
      rwa [bodyPlaces_of_here hfirst.grew.here]
    have hothers : Disk.WroteOnly (out <:+ ·) w₁.disk w'.disk :=
      (wroteOnly_of_buildScripts hd₁ hfree₁ hlastRels hrest).mono hbelow₁
    have hall := hfirst.trans (hothers.trans hlater)
    have hget := Disk.found_of_seek hd.grounded (hd.starts _) (Disk.find_eq_ok_iff.1 hfind)
    have hkept := (hall.get?_eq hl (by simp [hget])).trans hget
    have hprepare' := prepareScript_of_grew hd hfree hall.grew hfind hkept hprepare
    refine mapM_cons_eq_ok.2 ⟨_, _, _, hprepare', ih hd₁ hfree₁ hlastRels ?_ hbelow₁ hrest, rfl⟩
    intro rel' hrel'
    obtain ⟨l', bytes', hfind', hl'⟩ := hfiles rel' hrel'
    have hget' := Disk.found_of_seek hd.grounded (hd.starts _) (Disk.find_eq_ok_iff.1 hfind')
    exact ⟨l', bytes', hfirst.grew.find_of_file hd hfind'
      ((hfirst.get?_eq hl' (by simp [hget'])).trans hget'), hl'⟩

end Analyses

section Report

def Report.counts (r : Report) : List Nat :=
  r.scripts.length :: r.referenceCount :: r.scripts.map Summary.bodyLines

theorem Report.referenceCount_eq (r : Report) :
    r.referenceCount = (r.scripts.map fun s => s.references.length).sum := by
  rw [referenceCount, List.length_flatMap]

theorem Summary.plain_toValue {room : Nat} {s : Summary} (h : s.bodyLines < 10 ^ Json.longest) :
    s.toValue.Plain (room + 3) := by
  refine .object (show ["path", "body_path", "body_lines", "references", "source_files",
    "package_references"].Nodup by decide) ?_
  simp only [List.forall_mem_cons]
  refine ⟨.text _, .text _, .int h, Value.plain_texts _, Value.plain_texts _, ?_,
    List.forall_mem_nil _⟩
  refine .list fun v hv => ?_
  obtain ⟨p, -, rfl⟩ := List.mem_map.1 hv
  exact p.plain_toValue

theorem Report.plain_toValue {room : Nat} {r : Report} (h : ∀ n ∈ r.counts, n < 10 ^ Json.longest) :
    r.toValue.Plain (room + 5) := by
  rw [counts, List.forall_mem_cons, List.forall_mem_cons, List.forall_mem_map] at h
  obtain ⟨hscripts, hreferences, hlines⟩ := h
  refine .object (show ["root", "generated_at", "scripts", "metadata"].Nodup by decide) ?_
  simp only [List.forall_mem_cons]
  refine ⟨.text _, .text _, .list fun v hv => ?_,
    .object (show ["scripts", "references"].Nodup by decide) ?_, List.forall_mem_nil _⟩
  · obtain ⟨s, hs, rfl⟩ := List.mem_map.1 hv
    exact s.plain_toValue (hlines s hs)
  · simp only [List.forall_mem_cons]
    exact ⟨.int hscripts, .int hreferences, List.forall_mem_nil _⟩

theorem Report.readBytes_render {r : Report} (h : ∀ n ∈ r.counts, n < 10 ^ Json.longest) :
    Json.readBytes (Utf8.encode (Json.render Json.indented r.toValue)) = .ok r.toValue :=
  Json.readBytes_render Json.plain_indented (plain_toValue h)

end Report

/-- What a build leaves that comes to its end, where no script lies below the output directory. There
is a summary for each script, in order; it tells of the same analysis as the body, and that is the one
which the script has afterwards. The totals and the report are those of the summaries. Outside the
output directory only directories that were missing on the way there are new. -/
theorem runBuild_leaves {c : Config} {lib : Library} {clock : String} {root output : Path}
    {w w' : Workshop Imports} {result : BuildResult} (hd : w.disk.Proper)
    (hs : w.disk.tree.Slashless) (hfree : w.disk.tree.LinkFree)
    (hout : ∀ rels, discover w.disk root c = .ok rels → ∀ rel ∈ rels, ∀ l e,
      w.disk.find (scriptPath root rel) = .ok (l, e) → ¬ w.disk.place output <:+ l)
    (h : runBuild (localChain (.configured c.manifest lib)) clock root output c w = .ok result w') :
    ∃ rels, discover w.disk root c = .ok rels ∧ result.scripts.map Built.path = rels ∧
      result.report.scripts = result.scripts.map (fun b =>
        Summary.ofAnalysis b.path (bodyPath output b.path).toText b.analysis) ∧
      rels.mapM (fun rel => prepareScript (localChain (.configured c.manifest lib)) w'.disk
        (scriptPath root rel)) w.resolver = .ok (result.scripts.map Built.analysis) w'.resolver ∧
      (∀ b ∈ result.scripts, w.disk.Holds w'.disk (bodyPath output b.path)
        (String.join (b.analysis.bodyLines.map (· ++ "\n")))) ∧
      result.report.toValue = .object [("root", .text root.toText), ("generated_at", .text clock),
        ("scripts", .list (result.report.scripts.map Summary.toValue)),
        ("metadata", .object [("scripts", .ofNat result.report.scripts.length),
          ("references", .ofNat (result.report.scripts.map fun s => s.references.length).sum)])] ∧
      w.disk.Holds w'.disk (reportPath output) (Json.render Json.indented result.report.toValue) ∧
      ((∀ n ∈ result.report.counts, n < 10 ^ Json.longest) →
        Json.readBytes (Utf8.encode (Json.render Json.indented result.report.toValue)) =
          .ok result.report.toValue) ∧
      ∀ l, ¬ w.disk.place output <:+ l → w'.disk.tree.get? l = w.disk.tree.get? l ∨
        w.disk.tree.get? l = none ∧ w'.disk.tree.get? l = some .directory ∧
          w.disk.Passes output l := by
  obtain ⟨rels, scripts, w₁, d', hdiscover, hbuild, hreport, rfl, rfl⟩ := runBuild_eq_ok_iff.1 h
  have hlast : ∀ rel ∈ rels, (bodyPath output rel).parts.getLast? ≠ some "" :=
    fun rel => getLast?_bodyPath output hd hs hdiscover
  obtain ⟨hdistinct, hbelow⟩ := bodyPlaces_of_discover output hd hs hdiscover
  obtain ⟨hbodies, hbody⟩ := bodies_of_buildScripts hd hfree hlast hdistinct hbuild
  have hd₁ := hbodies.grew.proper
  have hfree₁ := hbodies.grew.grown.linkFree hfree
  have hlastReport : (reportPath output).parts.getLast? ≠ some "" := by
    simp [reportPath, Path.child]
  have hreported := Disk.wroteAlong_of_writeWithParents hd₁ hfree₁ hlastReport hreport
  -- The report has a place of its own, so it is written over no body.
  have hother : ∀ p ∈ rels.map (bodyPath output),
      w.disk.place (reportPath output) ≠ w.disk.place p := by
    rw [List.forall_mem_map]
    intro rel hrel
    exact (hbelow _ (List.mem_map_of_mem hrel)).2.symm
  have hpaths := paths_of_buildScripts hbuild
  have hfiles : ∀ rel ∈ rels, ∃ l bytes, w.disk.find (scriptPath root rel) = .ok (l, .file bytes) ∧
      ¬ w.disk.place output <:+ l := by
    intro rel hrel
    obtain ⟨l, bytes, hfind⟩ := find_of_discover hd hs hdiscover hrel
    exact ⟨l, bytes, hfind, hout rels hdiscover rel hrel l _ hfind⟩
  have hlater := Disk.wroteOnly_of_writeWithParents hd₁ hfree₁ hlastReport hreport
  rw [Disk.place_of_here hbodies.grew.here] at hlater
  have hreportBelow : w.disk.place output <:+ w.disk.place (reportPath output) :=
    ⟨["analysis.json"], (place_reportPath w.disk output).symm⟩
  have hanalyses := mapM_prepareScript hd hfree hlast hfiles (fun l hl => (hbelow l hl).1) hbuild
    (hlater.mono fun l hl => hl ▸ hreportBelow)
  refine ⟨rels, hdiscover, hpaths, List.map_congr_left fun b hb => ?_, hanalyses, fun b hb => ?_, ?_,
    (Disk.holds_of_writeWithParents hd₁ hfree₁ hlastReport hreport).after hbodies hother,
    Report.readBytes_render, fun l hl => ?_⟩
  · rw [(hbody b hb).1]
  · obtain ⟨hpath, hholds⟩ := hbody b hb
    rw [← Analysis.bodyText_eq, ← hpath]
    apply hholds.before hd₁ hbodies.grew.here hreported
    rw [List.forall_mem_singleton, hpath]
    exact (hother _ (List.mem_map_of_mem (hpaths ▸ List.mem_map_of_mem hb))).symm
  · rw [← Report.referenceCount_eq]
    rfl
  · rcases (hbodies.trans hreported).place l with hsame | ⟨p, hp, hplace⟩ | ⟨hnone, hdir, p, hp, hpass⟩
    · exact .inl hsame
    · exact absurd (hplace ▸ (output_of_mem hd hs hdiscover hp).1) hl
    · rcases (output_of_mem hd hs hdiscover hp).2 l hpass with hpass | hin
      · exact .inr ⟨hnone, hdir, hpass⟩
      · exact absurd hin hl

def sampleRoot : Path := ⟨.relative, ["r"]⟩

def sampleChain : Chain Imports :=
  localChain (.configured (Config.default []).manifest .aliased)

theorem sample_discover {d : Disk} (h : filesBelow d sampleRoot = .ok ["a.py", "b.py"]) :
    discover d sampleRoot (Config.default []) = .ok ["a.py", "b.py"] := by
  refine discover_eq_ok_iff.2 ⟨["a.py", "b.py"], ["a.py", "b.py"], h, by rfl, ?_⟩
  rw [byCodePoint, List.mergeSort_of_pairwise]
  decide +kernel

def pairOfScripts : Workshop Imports :=
  ⟨⟨⟨[(["r"], .directory),
    (["a.py", "r"], .file (Utf8.encode "//#imp b.py\nRun();\r\n\nEnd();")),
    (["b.py", "r"], .file (Utf8.encode ""))]⟩, []⟩, .empty⟩

def pairOutput : Path := ⟨.relative, ["missing", "..", "out"]⟩

theorem runBuild_leaves_pair : pairOfScripts.disk.Proper ∧ pairOfScripts.disk.tree.Slashless ∧
    pairOfScripts.disk.tree.LinkFree ∧
    (∀ rels, discover pairOfScripts.disk sampleRoot (Config.default []) = .ok rels → ∀ rel ∈ rels,
      ∀ l e, pairOfScripts.disk.find (scriptPath sampleRoot rel) = .ok (l, e) →
        ¬ pairOfScripts.disk.place pairOutput <:+ l) ∧
    ∃ result w', runBuild sampleChain "now" sampleRoot pairOutput (Config.default []) pairOfScripts =
        .ok result w' ∧
      result.scripts.map Built.path = ["a.py", "b.py"] ∧
      w'.disk.tree.get? ["a.py", "scripts", "out"] = some (.file (Utf8.encode "Run();\n\nEnd();\n")) ∧
      w'.disk.tree.get? ["b.py", "scripts", "out"] = some (.file (Utf8.encode "")) ∧
      (∀ b ∈ result.scripts, pairOfScripts.disk.Holds w'.disk (bodyPath pairOutput b.path)
        (String.join (b.analysis.bodyLines.map (· ++ "\n")))) := by
  have hproper : pairOfScripts.disk.Proper :=
    ⟨Tree.proper_of_isProper (by decide +kernel), rfl⟩
  have hslashless : pairOfScripts.disk.tree.Slashless :=
    Tree.slashless_of_isSlashless (by decide +kernel)
  have hfree : pairOfScripts.disk.tree.LinkFree := Tree.linkFree_of_isLinkFree (by decide +kernel)
  have hdiscover := sample_discover (d := pairOfScripts.disk) (by rfl)
  have hout : ∀ rels, discover pairOfScripts.disk sampleRoot (Config.default []) = .ok rels →
      ∀ rel ∈ rels, ∀ l e, pairOfScripts.disk.find (scriptPath sampleRoot rel) = .ok (l, e) →
        ¬ pairOfScripts.disk.place pairOutput <:+ l := by
    intro rels hrels rel hrel l e hfind
    rw [hdiscover] at hrels
    cases hrels
    simp only [List.mem_cons, List.not_mem_nil, or_false] at hrel
    rcases hrel with rfl | rfl
    · cases hfind
      exact (by decide : ¬ ["out"] <:+ ["a.py", "r"])
    · cases hfind
      exact (by decide : ¬ ["out"] <:+ ["b.py", "r"])
  have hrun : (runBuild sampleChain "now" sampleRoot pairOutput (Config.default [])).leaves
      pairOfScripts (fun w' =>
        w'.disk.tree.holdsFile ["a.py", "scripts", "out"]
          (fun bytes => decide (bytes = Utf8.encode "Run();\n\nEnd();\n")) &&
        w'.disk.tree.holdsFile ["b.py", "scripts", "out"]
          (fun bytes => decide (bytes = Utf8.encode ""))) = true := by
    rw [leaves, runBuild, get_bind, ofExcept_bind_ok hdiscover]
    decide +kernel
  obtain ⟨result, w', h, htest⟩ := ok_of_leaves hrun
  rw [Bool.and_eq_true] at htest
  obtain ⟨first, hfirst, hfirstBytes⟩ := Tree.file_of_holdsFile htest.1
  obtain ⟨second, hsecond, hsecondBytes⟩ := Tree.file_of_holdsFile htest.2
  rw [of_decide_eq_true hfirstBytes] at hfirst
  rw [of_decide_eq_true hsecondBytes] at hsecond
  obtain ⟨rels, hrels, hpaths, -, -, hbodies, -⟩ :=
    runBuild_leaves hproper hslashless hfree hout h
  rw [hdiscover] at hrels
  cases hrels
  exact ⟨hproper, hslashless, hfree, hout, result, w', h, hpaths, hfirst, hsecond, hbodies⟩

end BuildScripts

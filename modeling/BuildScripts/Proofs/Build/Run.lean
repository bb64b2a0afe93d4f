import BuildScripts.Build.Run
import BuildScripts.Proofs.Build.Discovery
import BuildScripts.Proofs.Disk.Content
import BuildScripts.Proofs.Disk.Grew

namespace BuildScripts

open Attempt
open BuildScripts.Text

variable {σ : Type} {chain : Chain σ} {root output : Path} {rel : String} {rels : List String}
  {w w' : Workshop σ} {b : Built} {bs before after : List Built}

def scriptPath (root : Path) (rel : String) : Path :=
  root.join (Path.ofText rel)

namespace Built

def write (b : Built) : Path × String :=
  (b.bodyPath, b.analysis.bodyText)

end Built

def BuildResult.writes (r : BuildResult) : List (Path × String) :=
  r.scripts.map Built.write ++ [(r.reportPath, Json.render Json.indented r.report.toValue)]

section Step

theorem onDisk_eq_ok {x : Attempt Disk Unit} : Workshop.onDisk x w = .ok () w' ↔
    ∃ d, x w.disk = .ok () d ∧ w' = { w with disk := d } := by
  rw [Workshop.onDisk, onPart]
  cases x w.disk with
  | ok a d => simp [eq_comm]
  | error f d => simp

theorem buildScript_eq_ok (h : buildScript chain root output rel w = .ok b w') :
    b.path = rel ∧ b.bodyPath = bodyPath output rel ∧
      prepareScript chain w.disk (scriptPath root rel) w.resolver = .ok b.analysis w'.resolver ∧
      Disk.writeWithParents b.bodyPath b.analysis.bodyText w.disk = .ok () w'.disk := by
  obtain ⟨analysis, w₁, hprepare, h⟩ := bind_eq_ok.1 h
  obtain ⟨_, w₂, hmade, h⟩ := bind_eq_ok.1 h
  obtain ⟨_, w₃, hwritten, hpure⟩ := bind_eq_ok.1 h
  obtain ⟨d₂, hmake, rfl⟩ := onDisk_eq_ok.1 hmade
  obtain ⟨d₃, hwrite, rfl⟩ := onDisk_eq_ok.1 hwritten
  cases hpure
  rw [Workshop.resolving, onPart] at hprepare
  cases hp : prepareScript chain w.disk (root.join (Path.ofText rel)) w.resolver with
  | error f t => simp [hp] at hprepare
  | ok a t =>
    rw [hp] at hprepare
    cases hprepare
    exact ⟨rfl, rfl, hp, bind_eq_ok.2 ⟨(), d₂, hmake, hwrite⟩⟩

theorem buildScripts_cons_eq_ok : buildScripts chain root output (rel :: rels) w = .ok bs w' ↔
    ∃ b w₁ rest, buildScript chain root output rel w = .ok b w₁ ∧
      buildScripts chain root output rels w₁ = .ok rest w' ∧ bs = b :: rest := by
  rw [buildScripts, bind_eq_ok]
  constructor
  · rintro ⟨b, w₁, hb, h⟩
    obtain ⟨rest, _, hrest, hpure⟩ := bind_eq_ok.1 h
    cases hpure
    exact ⟨b, w₁, rest, hb, hrest, rfl⟩
  · rintro ⟨b, w₁, rest, hb, hrest, rfl⟩
    exact ⟨b, w₁, hb, bind_eq_ok.2 ⟨rest, w', hrest, rfl⟩⟩

end Step

section Run

theorem paths_of_buildScripts (h : buildScripts chain root output rels w = .ok bs w') :
    bs.map Built.path = rels := by
  induction rels generalizing w bs with
  | nil =>
    cases h
    rfl
  | cons rel rels ih =>
    obtain ⟨b, w₁, rest, hb, hrest, rfl⟩ := buildScripts_cons_eq_ok.1 h
    rw [List.map_cons, ih hrest, (buildScript_eq_ok hb).1]

theorem split_of_buildScripts
    (h : buildScripts chain root output rels w = .ok (before ++ b :: after) w') :
    ∃ w₁ w₂, buildScripts chain root output (before.map Built.path) w = .ok before w₁ ∧
      buildScript chain root output b.path w₁ = .ok b w₂ ∧
      buildScripts chain root output (after.map Built.path) w₂ = .ok after w' := by
  induction before generalizing w rels with
  | nil =>
    cases rels with
    | nil => cases h
    | cons rel rels =>
      obtain ⟨b', w₁, rest, hb, hrest, heq⟩ := buildScripts_cons_eq_ok.1 h
      cases heq
      rw [(buildScript_eq_ok hb).1, paths_of_buildScripts hrest]
      exact ⟨w, w₁, rfl, hb, hrest⟩
  | cons first before ih =>
    cases rels with
    | nil => cases h
    | cons rel rels =>
      obtain ⟨b', w₀, rest, hb, hrest, heq⟩ := buildScripts_cons_eq_ok.1 h
      cases heq
      obtain ⟨w₁, w₂, hbefore, hturn, hafter⟩ := ih hrest
      refine ⟨w₁, w₂, ?_, hturn, hafter⟩
      rw [List.map_cons, (buildScript_eq_ok hb).1]
      exact buildScripts_cons_eq_ok.2 ⟨first, w₀, before, hb, hbefore, rfl⟩

theorem wrote_of_buildScripts (hd : w.disk.Proper)
    (h : buildScripts chain root output rels w = .ok bs w') :
    Disk.Wrote (bs.map Built.write) w.disk w'.disk := by
  induction rels generalizing w bs with
  | nil =>
    cases h
    exact .refl hd
  | cons rel rels ih =>
    obtain ⟨b, w₁, rest, hb, hrest, rfl⟩ := buildScripts_cons_eq_ok.1 h
    have hfirst := Disk.wrote_of_writeWithParents hd (buildScript_eq_ok hb).2.2.2
    exact hfirst.trans (ih hfirst.grew.proper hrest)

end Run

def Built.IsOf (b : Built) (chain : Chain σ) (root output : Path) (w : Workshop σ)
    (before : List Built) (bytes : ByteArray) : Prop :=
  ∃ text w₁ t, Utf8.decode bytes = .ok text ∧
    buildScripts chain root output (before.map Built.path) w = .ok before w₁ ∧
    prepareText chain w₁.disk (unifyLineEnds text) (scriptPath root b.path) w₁.resolver =
      .ok b.analysis t

theorem prepareScript_of_find {d : Disk} {p : Path} {l : Location} {bytes : ByteArray} {s t : σ}
    {a : Analysis} (hf : d.find p = .ok (l, .file bytes))
    (h : prepareScript chain d p s = .ok a t) :
    ∃ text, Utf8.decode bytes = .ok text ∧ prepareText chain d (unifyLineEnds text) p s = .ok a t := by
  cases hread : d.readText p with
  | error f =>
    rw [prepareScript, ofExcept_bind_error hread] at h
    cases h
  | ok text =>
    rw [prepareScript, ofExcept_bind_ok hread] at h
    rw [Disk.readText, Disk.readBytes, hf] at hread
    cases hn : p.hasNull with
    | true => simp [hn] at hread
    | false =>
      simp only [hn, Bool.false_eq_true, if_false] at hread
      cases hdecode : Utf8.decode bytes with
      | error f => simp [hdecode] at hread
      | ok raw =>
        simp only [hdecode, Except.ok.injEq] at hread
        exact ⟨raw, rfl, hread ▸ h⟩

theorem find_of_discover {c : Config} (hd : w.disk.Proper) (hs : w.disk.tree.Slashless)
    (h : discover w.disk root c = .ok rels) (hrel : rel ∈ rels) :
    ∃ l bytes, w.disk.find (scriptPath root rel) = .ok (l, .file bytes) := by
  obtain ⟨-, names, rfl, hfile⟩ := (Disk.mem_discover hd.grounded h rel).1 hrel
  have hnames := hfile.forall_mem hd.tree.named hd.grounded
  have hslash := hfile.forall_mem hs hd.grounded
  obtain ⟨l, -, hne, -, hisFile⟩ := hfile
  rw [scriptPath, relativeText, Path.ofText_intercalate hne hslash fun name hn => (hnames name hn).isName]
  obtain ⟨-, l', e, hfind, he⟩ := Disk.testEntry_eq_true_iff.1 hisFile
  cases e with
  | file bytes => exact ⟨l', bytes, hfind⟩
  | _ => cases he

theorem isOf_of_buildScripts {l : Location} {bytes : ByteArray} {d : Disk} (hd : w.disk.Proper)
    (h : buildScripts chain root output rels w = .ok (before ++ b :: after) w')
    (hlater : w'.disk.Grew d)
    (hfind : w.disk.find (scriptPath root b.path) = .ok (l, .file bytes)) :
    b.IsOf chain root output w before (d.leftAt l (before.map Built.write) bytes) := by
  obtain ⟨w₁, w₂, hbefore, hturn, hafter⟩ := split_of_buildScripts h
  obtain ⟨-, -, hprepare, hwrite⟩ := buildScript_eq_ok hturn
  have hwrote := wrote_of_buildScripts hd hbefore
  have hturned := Disk.wrote_of_writeWithParents hwrote.grew.proper hwrite
  -- What is at the place when the turn comes is told on the last disk, which has grown from that one.
  have hrest := (hturned.trans (wrote_of_buildScripts hturned.grew.proper hafter)).grew
  have hfile := Disk.found_of_seek hd.grounded (hd.starts _) (Disk.find_eq_ok_iff.1 hfind)
  have hheld := hwrote.held d (hrest.trans hlater) l bytes hfile
  have hfind' := hwrote.grew.find_of_file hd hfind hheld
  obtain ⟨text, hdecode, htext⟩ := prepareScript_of_find hfind' hprepare
  exact ⟨text, w₁, w₂.resolver, hdecode, hbefore, htext⟩

theorem runBuild_eq_ok_iff {clock : String} {c : Config} {result : BuildResult} :
    runBuild chain clock root output c w = .ok result w' ↔ ∃ rels scripts w₁ d',
      discover w.disk root c = .ok rels ∧
      buildScripts chain root output rels w = .ok scripts w₁ ∧
      Disk.writeWithParents (reportPath output)
        (Json.render Json.indented (reportOf root clock scripts).toValue) w₁.disk = .ok () d' ∧
      result = ⟨reportOf root clock scripts, scripts, reportPath output⟩ ∧
      w' = ⟨d', w₁.resolver⟩ := by
  rw [runBuild, get_bind]
  cases hdiscover : discover w.disk root c with
  | error f =>
    rw [ofExcept_bind_error rfl]
    simp
  | ok rels =>
    rw [ofExcept_bind_ok rfl, bind_eq_ok]
    constructor
    · rintro ⟨bs, w₁, hbuild, h⟩
      obtain ⟨_, w₂, hreported, hpure⟩ := bind_eq_ok.1 h
      obtain ⟨d₂, hreport, rfl⟩ := onDisk_eq_ok.1 hreported
      cases hpure
      exact ⟨rels, bs, w₁, d₂, rfl, hbuild, hreport, rfl, rfl⟩
    · rintro ⟨_, bs, w₁, d₂, hrels, hbuild, hreport, rfl, rfl⟩
      cases hrels
      exact ⟨bs, w₁, hbuild, bind_eq_ok.2 ⟨(), _, onDisk_eq_ok.2 ⟨d₂, hreport, rfl⟩, rfl⟩⟩

theorem runBuild_eq_ok {clock : String} {c : Config} {result : BuildResult}
    (h : runBuild chain clock root output c w = .ok result w') :
    ∃ rels w₁, discover w.disk root c = .ok rels ∧
      buildScripts chain root output rels w = .ok result.scripts w₁ ∧
      Disk.writeWithParents result.reportPath (Json.render Json.indented result.report.toValue)
        w₁.disk = .ok () w'.disk := by
  obtain ⟨rels, scripts, w₁, d', hdiscover, hbuild, hreport, rfl, rfl⟩ := runBuild_eq_ok_iff.1 h
  exact ⟨rels, w₁, hdiscover, hbuild, hreport⟩

/-- What a build does to its scripts. Each of them stood somewhere as a file. It holds afterwards the
last text that the build has written to its place, or else what it held, and its analysis is that of
what the bodies before it had left there. So a script to whose place nothing is written keeps its
bytes, and its analysis is that of these bytes. -/
theorem runBuild_scripts {clock : String} {c : Config} {result : BuildResult}
    (hd : w.disk.Proper) (hs : w.disk.tree.Slashless)
    (h : runBuild chain clock root output c w = .ok result w') :
    discover w.disk root c = .ok (result.scripts.map Built.path) ∧
      ∀ before b after, result.scripts = before ++ b :: after →
        ∃ l bytes, w.disk.find (scriptPath root b.path) = .ok (l, .file bytes) ∧
          w'.disk.tree.get? l = some (.file (w'.disk.leftAt l result.writes bytes)) ∧
          b.IsOf chain root output w before (w'.disk.leftAt l (before.map Built.write) bytes) ∧
          ((∀ write ∈ result.writes, w'.disk.leadsTo write.1 l = false) →
            w'.disk.tree.get? l = some (.file bytes) ∧
              b.IsOf chain root output w before bytes) := by
  obtain ⟨rels, w₁, hdiscover, hbuild, hreport⟩ := runBuild_eq_ok h
  have hpaths := paths_of_buildScripts hbuild
  refine ⟨by rw [hpaths, hdiscover], fun before b after hsplit => ?_⟩
  have hmem : b.path ∈ rels := by
    rw [← hpaths, hsplit]
    simp
  obtain ⟨l, bytes, hfind⟩ := find_of_discover hd hs hdiscover hmem
  have hbodies := wrote_of_buildScripts hd hbuild
  have hreported := Disk.wrote_of_writeWithParents hbodies.grew.proper hreport
  have hall : Disk.Wrote result.writes w.disk w'.disk := hbodies.trans hreported
  have hheld := hall.held w'.disk (.refl hall.grew.proper) l bytes
    (Disk.found_of_seek hd.grounded (hd.starts _) (Disk.find_eq_ok_iff.1 hfind))
  rw [hsplit] at hbuild
  have hisOf := isOf_of_buildScripts hd hbuild hreported.grew hfind
  refine ⟨l, bytes, hfind, hheld, hisOf, fun helsewhere => ?_⟩
  have hbefore : ∀ write ∈ before.map Built.write, w'.disk.leadsTo write.1 l = false := by
    intro write hwrite
    apply helsewhere
    rw [BuildResult.writes, hsplit, List.map_append]
    exact List.mem_append_left _ (List.mem_append_left _ hwrite)
  rw [Disk.leftAt_of_elsewhere helsewhere] at hheld
  rw [Disk.leftAt_of_elsewhere hbefore] at hisOf
  exact ⟨hheld, hisOf⟩

def nestedScripts : Workshop Unit :=
  ⟨⟨⟨[(["a.py"], .file (Utf8.encode "A\n")), (["scripts"], .directory),
    (["a.py", "scripts"], .file (Utf8.encode "B\n"))]⟩, []⟩, ()⟩

theorem nested_discover :
    discover nestedScripts.disk .here (Config.default []) = .ok ["a.py", "scripts/a.py"] := by
  have hfiles : filesBelow nestedScripts.disk .here = .ok ["a.py", "scripts/a.py"] := by rfl
  have hkept : filterAttempt (isSelected (Config.default [])) ["a.py", "scripts/a.py"] =
      .ok ["a.py", "scripts/a.py"] := by rfl
  have hsorted : byCodePoint ["a.py", "scripts/a.py"] = ["a.py", "scripts/a.py"] := by
    rw [byCodePoint, List.mergeSort_of_pairwise]
    decide +kernel
  rw [discover, hfiles]
  change (filterAttempt (isSelected (Config.default [])) ["a.py", "scripts/a.py"]).map byCodePoint = _
  rw [hkept, Except.map, hsorted]

theorem runBuild_scripts_nested : ∃ result w',
    runBuild (localChain (.manifest [] none)) "" .here .here (Config.default []) nestedScripts =
      .ok result w' ∧
    w'.disk.tree.get? ["a.py", "scripts"] = some (.file (Utf8.encode "A\n")) ∧
    ∃ write ∈ result.writes, w'.disk.leadsTo write.1 ["a.py", "scripts"] = true := by
  have hrun : (runBuild (localChain (.manifest [] none)) "" .here .here (Config.default [])).leaves
      nestedScripts (·.disk.tree.holdsFile ["a.py", "scripts"] fun bytes =>
        decide (bytes = Utf8.encode "A\n")) = true := by
    rw [leaves, runBuild, get_bind, ofExcept_bind_ok nested_discover]
    decide +kernel
  obtain ⟨result, w', h, htest⟩ := ok_of_leaves hrun
  obtain ⟨bytes, hleft, hbytes⟩ := Tree.file_of_holdsFile htest
  rw [of_decide_eq_true hbytes] at hleft
  have hproper : nestedScripts.disk.Proper :=
    ⟨Tree.proper_of_isProper (by decide +kernel), rfl⟩
  obtain ⟨hdiscover, hscripts⟩ := runBuild_scripts hproper
    (Tree.slashless_of_isSlashless (by decide +kernel)) h
  refine ⟨result, w', h, hleft, ?_⟩
  have hmem : "scripts/a.py" ∈ result.scripts.map Built.path := by
    rw [← Except.ok.inj (nested_discover.symm.trans hdiscover)]
    decide
  obtain ⟨b, hb, hpath⟩ := List.mem_map.1 hmem
  obtain ⟨before, after, hsplit⟩ := List.append_of_mem hb
  obtain ⟨l, bytes, hfind, -, -, hkept⟩ := hscripts before b after hsplit
  have hplace : nestedScripts.disk.find (scriptPath .here b.path) =
      .ok (["a.py", "scripts"], .file (Utf8.encode "B\n")) := by
    rw [hpath]
    rfl
  rw [hplace] at hfind
  cases hfind
  -- If no body led there, the second script would still hold what it held.
  by_contra hnone
  have helsewhere : ∀ write ∈ result.writes,
      w'.disk.leadsTo write.1 ["a.py", "scripts"] = false := by
    intro write hwrite
    rw [← Bool.not_eq_true]
    exact fun hleads => hnone ⟨write, hwrite, hleads⟩
  have hsame := (hkept helsewhere).1
  rw [hleft, Option.some.injEq, Entry.file.injEq] at hsame
  exact absurd hsame (by decide +kernel)

end BuildScripts

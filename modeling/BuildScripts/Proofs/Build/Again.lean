import Mathlib.Data.List.Nodup
import BuildScripts.Proofs.Artifact.Location
import BuildScripts.Proofs.Build.Rediscovery
import BuildScripts.Proofs.Build.Run
import BuildScripts.Proofs.Script.Analysis
import BuildScripts.Proofs.Script.Finds

namespace BuildScripts

open Attempt
open BuildScripts.Text

section Grown

variable {d d' : Disk} {script : Option String} {token line file : String}

theorem Interpreter.resolve_congr {σ ω : Type} (I : Interpreter σ ω)
    (h : ∀ p, d'.resolve p = d.resolve p) : I.resolve d' = I.resolve d := by
  have hlocation : I.location d' = I.location d := by
    funext x
    simp only [location, h]
  funext token
  simp only [resolve, hlocation]

theorem Resolver.findsOn_of_resolve_eq (listed : Manifest) (lib : Library)
    (h : ∀ p, d'.resolve p = d.resolve p) :
    (configured listed lib).FindsOn d (configured listed lib) d' := by
  intro name m file m' hfound
  rw [configured] at hfound ⊢
  cases hlisted : listed.lookup name with
  | some listedFile =>
    rw [listedOr_of_listed hlisted] at hfound ⊢
    exact hfound
  | none =>
    rw [listedOr_of_unlisted hlisted] at hfound ⊢
    rwa [lib.interpreter.resolve_congr h]

variable (hd : d.Proper) (hfree : d.tree.LinkFree) (hgrew : d.Grew d')
include hd hfree hgrew

theorem existingFile_of_grew (h : existingFile d none script token line = .ok file) :
    existingFile d' none script token line = .ok file := by
  rw [existingFile_none_eq_ok_iff] at h ⊢
  obtain ⟨path, hleads, hfile, rfl⟩ := h
  refine ⟨path, ?_, hgrew.isFile hd hfile, rfl⟩
  have hbase : baseOf d' script = baseOf d script := by
    cases script with
    | none => simp only [baseOf, Disk.currentPath, hgrew.here]
    | some s => simp only [baseOf, Disk.currentPath, hgrew.here]
  rwa [Leads, hbase, hgrew.resolve_eq hfree]

theorem prepareScript_of_grew {listed : Manifest} {lib : Library} {m m' : Imports} {p : Path}
    {l : Location} {bytes : ByteArray} {a : Analysis} (hfind : d.find p = .ok (l, .file bytes))
    (hsame : d'.tree.get? l = some (.file bytes))
    (h : prepareScript (localChain (.configured listed lib)) d p m = .ok a m') :
    prepareScript (localChain (.configured listed lib)) d' p m = .ok a m' := by
  have hread : d'.readText p = d.readText p := by
    rw [Disk.readText, Disk.readText, Disk.readBytes, Disk.readBytes, hfind,
      hgrew.find_of_file hd hfind hsame]
  have hresolve := hgrew.resolve_eq hfree
  rw [prepareScript, hread]
  obtain ⟨text, m₁, htext, hprepare⟩ := bind_eq_ok.1 h
  refine bind_eq_ok.2 ⟨text, m₁, htext, ?_⟩
  rw [prepareText, hresolve]
  obtain ⟨full, m₂, hfull, hanalyse⟩ := bind_eq_ok.1 hprepare
  refine bind_eq_ok.2 ⟨full, m₂, hfull, ?_⟩
  rw [mapFault_eq_ok] at hanalyse ⊢
  exact analyseText_of_finds none none (Resolver.findsOn_of_resolve_eq listed lib hresolve)
    (fun _ _ _ => existingFile_of_grew hd hfree hgrew) hanalyse

end Grown

section Places

variable {d : Disk} {root output : Path} {c : Config} {names rels : List String}

theorem sublist_of_filterAttempt {α : Type} {test : α → Except Fault Bool} {xs ys : List α}
    (h : filterAttempt test xs = .ok ys) : ys.Sublist xs := by
  induction xs generalizing ys with
  | nil =>
    cases h
    exact .slnil
  | cons x xs ih =>
    obtain ⟨keep, rest, -, hrest, rfl⟩ := filterAttempt_cons_eq_ok.1 h
    cases keep with
    | true => exact (ih hrest).cons_cons x
    | false => exact (ih hrest).cons x

theorem ofText_relativeText (hne : names ≠ []) (hs : ∀ name ∈ names, Slashless name)
    (hn : ∀ name ∈ names, IsName name) : Path.ofText (relativeText names) = ⟨.relative, names⟩ :=
  Path.ofText_intercalate hne hs hn

theorem nodup_discover (hd : d.Proper) (hs : d.tree.Slashless)
    (h : discover d root c = .ok rels) : rels.Nodup := by
  obtain ⟨files, kept, hfiles, hkept, rfl⟩ := discover_eq_ok_iff.1 h
  apply (List.mergeSort_perm kept _).nodup_iff.2
  apply (sublist_of_filterAttempt hkept).nodup
  by_cases hdir : d.isDirectory root = .ok true
  · obtain ⟨hn, l, e, hfind, he⟩ := Disk.testEntry_eq_true_iff.1 hdir
    cases e with
    | directory =>
      obtain ⟨-, ways, hways, rfl⟩ := (Disk.filesBelow_eq_ok_iff hn hfind).1 hfiles
      have hdistinct : (waysBelow d.tree l).Nodup := by
        rw [waysBelow_eq hd.grounded]
        apply hd.tree.distinct.filterMap
        intro k k' names hk hk'
        rw [(namesBelow_eq_some_iff.1 hk).2, (namesBelow_eq_some_iff.1 hk').2]
      refine List.Nodup.map_on ?_ ((sublist_of_filterAttempt hways).nodup hdistinct)
      have hname : ∀ names ∈ ways, Path.ofText (relativeText names) = ⟨.relative, names⟩ := by
        intro names hmem
        obtain ⟨hne, hget⟩ := (mem_waysBelow_iff hd.grounded).1
          ((sublist_of_filterAttempt hways).subset hmem)
        exact ofText_relativeText hne
          (fun name hm => hd.grounded.forall_mem hs hget name (List.mem_reverse.2 hm))
          (fun name hm =>
            (hd.grounded.forall_mem hd.tree.named hget name (List.mem_reverse.2 hm)).isName)
      intro names hmem names' hmem' heq
      have hpaths := congrArg Path.ofText heq
      rw [hname names hmem, hname names' hmem'] at hpaths
      exact congrArg Path.parts hpaths
    | _ => cases he
  · rw [filesBelow_eq_nil hdir hfiles]
    exact List.nodup_nil

theorem bodyPath_relativeText (output : Path) (hne : names ≠ [])
    (hs : ∀ name ∈ names, Slashless name) (hn : ∀ name ∈ names, IsName name) :
    bodyPath output (relativeText names) = (output.child "scripts").descend names := by
  rw [bodyPath, ofText_relativeText hne hs hn]
  rfl

theorem place_bodyPath (d : Disk) (output : Path) (hne : names ≠ [])
    (hs : ∀ name ∈ names, Slashless name) (hn : ∀ name ∈ names, IsName name) :
    d.place (bodyPath output (relativeText names)) =
      names.reverse ++ "scripts" :: d.place output := by
  have hscripts : ∀ name ∈ ["scripts"], IsName name :=
    List.forall_mem_singleton.2 ⟨by decide, by decide, by decide⟩
  rw [bodyPath_relativeText output hne hs hn, Disk.place_descend _ hn, Path.child_eq_descend,
    Disk.place_descend _ hscripts]
  rfl

end Places

section Scripts

variable {root output : Path} {rels : List String} {w w' : Workshop Imports} {bs : List Built}
  {listed : Manifest} {lib : Library} {out : Location} {places : Location → Prop} {later : Disk}

def bodyPlaces (d : Disk) (output : Path) (rels : List String) : List Location :=
  rels.map fun rel => d.place (bodyPath output rel)

theorem bodyPlaces_of_here {d d' : Disk} (h : d'.here = d.here) (output : Path)
    (rels : List String) : bodyPlaces d' output rels = bodyPlaces d output rels := by
  simp only [bodyPlaces, Disk.place_of_here h]

theorem buildScript_of_ok {σ : Type} {chain : Chain σ} {w : Workshop σ} {rel : String}
    {a : Analysis} {t : σ} {d' : Disk}
    (hp : prepareScript chain w.disk (scriptPath root rel) w.resolver = .ok a t)
    (hw : Disk.writeWithParents (bodyPath output rel) a.bodyText w.disk = .ok () d') :
    buildScript chain root output rel w = .ok ⟨rel, a, bodyPath output rel⟩ ⟨d', t⟩ := by
  obtain ⟨_, d₁, hmake, hwrite⟩ := bind_eq_ok.1 hw
  have hprepare : Workshop.resolving (fun d => prepareScript chain d (root.join (Path.ofText rel)))
      w = .ok a ⟨w.disk, t⟩ := by
    rw [Workshop.resolving, onPart]
    change prepareScript chain w.disk (root.join (Path.ofText rel)) w.resolver = _ at hp
    rw [hp]
  refine bind_eq_ok.2 ⟨a, ⟨w.disk, t⟩, hprepare, bind_eq_ok.2 ⟨(), ⟨d₁, t⟩, ?_,
    bind_eq_ok.2 ⟨(), ⟨d', t⟩, ?_, rfl⟩⟩⟩
  · exact onDisk_eq_ok.2 ⟨d₁, hmake, rfl⟩
  · exact onDisk_eq_ok.2 ⟨d', hwrite, rfl⟩

theorem wroteOnly_of_buildScripts {σ : Type} {chain : Chain σ} {w w' : Workshop σ}
    (hd : w.disk.Proper) (hfree : w.disk.tree.LinkFree)
    (hlast : ∀ rel ∈ rels, (bodyPath output rel).parts.getLast? ≠ some "")
    (h : buildScripts chain root output rels w = .ok bs w') :
    Disk.WroteOnly (· ∈ bodyPlaces w.disk output rels) w.disk w'.disk := by
  induction rels generalizing w bs with
  | nil =>
    cases h
    exact .refl hd
  | cons rel rels ih =>
    obtain ⟨hlastRel, hlastRels⟩ := List.forall_mem_cons.1 hlast
    obtain ⟨b, w₁, rest, hb, hrest, rfl⟩ := buildScripts_cons_eq_ok.1 h
    obtain ⟨-, hpath, -, hwrite⟩ := buildScript_eq_ok hb
    rw [hpath] at hwrite
    have hfirst := Disk.wroteOnly_of_writeWithParents hd hfree hlastRel hwrite
    have hothers := ih hfirst.grew.proper (hfirst.grew.grown.linkFree hfree) hlastRels hrest
    rw [bodyPlaces_of_here hfirst.grew.here] at hothers
    refine (hfirst.mono fun l hl => ?_).trans (hothers.mono fun l hl => ?_)
    · exact hl ▸ List.mem_cons_self
    · exact List.mem_cons_of_mem _ hl

theorem find_of_buildScripts {σ : Type} {chain : Chain σ} {w w' : Workshop σ} {b : Built}
    (hd : w.disk.Proper) (hfree : w.disk.tree.LinkFree)
    (hlast : ∀ rel ∈ rels, (bodyPath output rel).parts.getLast? ≠ some "")
    (h : buildScripts chain root output rels w = .ok bs w') (hb : b ∈ bs) :
    w.disk.place b.bodyPath ∈ bodyPlaces w.disk output rels ∧
      ∃ e, w'.disk.find b.bodyPath = .ok (w.disk.place b.bodyPath, e) := by
  have hpaths := paths_of_buildScripts h
  obtain ⟨before, after, rfl⟩ := List.append_of_mem hb
  obtain ⟨w₁, w₂, hbefore, hturn, hafter⟩ := split_of_buildScripts h
  rw [List.map_append, List.map_cons] at hpaths
  have hearlier := wroteOnly_of_buildScripts hd hfree (fun rel hrel => hlast rel
    (hpaths ▸ List.mem_append_left _ hrel)) hbefore
  have hmem : b.path ∈ rels := hpaths ▸ List.mem_append_right _ List.mem_cons_self
  obtain ⟨-, hpath, -, hwrite⟩ := buildScript_eq_ok hturn
  rw [hpath] at hwrite ⊢
  have hd₁ := hearlier.grew.proper
  have hfree₁ := hearlier.grew.grown.linkFree hfree
  have hnow := Disk.wroteOnly_of_writeWithParents hd₁ hfree₁ (hlast _ hmem) hwrite
  have hd₂ := hnow.grew.proper
  have hlater := wroteOnly_of_buildScripts hd₂ (hnow.grew.grown.linkFree hfree₁) (fun rel hrel =>
    hlast rel (hpaths ▸ List.mem_append_right _ (List.mem_cons_of_mem _ hrel))) hafter
  obtain ⟨held, hfound⟩ := Disk.find_of_writeWithParents hd₁ hfree₁ (hlast _ hmem) hwrite
  rw [Disk.place_of_here hearlier.grew.here] at hfound
  have hget := Disk.found_of_seek hd₂.grounded (hd₂.starts _) (Disk.find_eq_ok_iff.1 hfound)
  obtain ⟨e, he⟩ := Option.ne_none_iff_exists'.1
    (hlater.grew.grown.get?_ne_none (by rw [hget]; simp))
  exact ⟨List.mem_map_of_mem hmem, e, hlater.grew.find_of_get? hd₂ hfound he⟩

theorem buildScripts_again (hd : w.disk.Proper) (hfree : w.disk.tree.LinkFree)
    (hlast : ∀ rel ∈ rels, (bodyPath output rel).parts.getLast? ≠ some "")
    (hfiles : ∀ rel ∈ rels, ∃ l bytes,
      w.disk.find (scriptPath root rel) = .ok (l, .file bytes) ∧ ¬ out <:+ l)
    (hbelow : ∀ l ∈ bodyPlaces w.disk output rels, out <:+ l)
    (hdistinct : (bodyPlaces w.disk output rels).Nodup)
    (h : buildScripts (localChain (.configured listed lib)) root output rels w = .ok bs w')
    (hlater : Disk.WroteOnly places w'.disk later)
    (hplaces : ∀ l, places l → out <:+ l ∧ l ∉ bodyPlaces w.disk output rels) :
    buildScripts (localChain (.configured listed lib)) root output rels ⟨later, w.resolver⟩ =
      .ok bs ⟨later, w'.resolver⟩ := by
  induction rels generalizing w bs with
  | nil =>
    cases h
    rfl
  | cons rel rels ih =>
    obtain ⟨hlastRel, hlastRels⟩ := List.forall_mem_cons.1 hlast
    obtain ⟨hfile, hfiles⟩ := List.forall_mem_cons.1 hfiles
    obtain ⟨hout, hbelow⟩ := List.forall_mem_cons.1 hbelow
    obtain ⟨hnew, hdistinct⟩ := List.nodup_cons.1 hdistinct
    obtain ⟨b, w₁, rest, hb, hrest, rfl⟩ := buildScripts_cons_eq_ok.1 h
    obtain ⟨hrel, hpath, hprepare, hwrite⟩ := buildScript_eq_ok hb
    rw [hpath] at hwrite
    have hfirst := Disk.wroteOnly_of_writeWithParents hd hfree hlastRel hwrite
    have hd₁ := hfirst.grew.proper
    have hfree₁ := hfirst.grew.grown.linkFree hfree
    have hsame := bodyPlaces_of_here hfirst.grew.here output rels
    have hothers := wroteOnly_of_buildScripts hd₁ hfree₁ hlastRels hrest
    rw [hsame] at hothers
    -- After its own body only other bodies and what follows them are written.
    have hafter : Disk.WroteOnly (fun l => l ∈ bodyPlaces w.disk output rels ∨ places l)
        w₁.disk later :=
      (hothers.mono fun _ => .inl).trans (hlater.mono fun _ => .inr)
    have hall : Disk.WroteOnly (out <:+ ·) w.disk later := by
      refine (hfirst.mono fun l hl => hl ▸ hout).trans (hafter.mono fun l hl => ?_)
      exact hl.elim (hbelow l) fun hl => (hplaces l hl).1
    -- The script lies outside the output directory, so it is read as it was.
    have hprepare' : prepareScript (localChain (.configured listed lib)) later (scriptPath root rel)
        w.resolver = .ok b.analysis w₁.resolver := by
      obtain ⟨l, bytes, hfind, hl⟩ := hfile
      have hget := Disk.found_of_seek hd.grounded (hd.starts _) (Disk.find_eq_ok_iff.1 hfind)
      exact prepareScript_of_grew hd hfree hall.grew hfind
        ((hall.get?_eq hl (by simp [hget])).trans hget) hprepare
    -- The body is there still, so the disk stays as it is when it is written once more.
    have hwrite' : Disk.writeWithParents (bodyPath output rel) b.analysis.bodyText later =
        .ok () later := by
      obtain ⟨held, hfound⟩ := Disk.find_of_writeWithParents hd hfree hlastRel hwrite
      have hheld := Disk.found_of_seek hd₁.grounded (hd₁.starts _) (Disk.find_eq_ok_iff.1 hfound)
      rw [Disk.writeWithParents_again hd hfree hlastRel hwrite hafter.grew, Disk.fill_of_held]
      refine (hafter.get?_eq ?_ (by simp [hheld])).trans hheld
      rintro (hmem | hmem)
      · exact hnew hmem
      · exact (hplaces _ hmem).2 List.mem_cons_self
    have hb' := buildScript_of_ok (w := ⟨later, w.resolver⟩) hprepare' hwrite'
    have hrest' := ih hd₁ hfree₁ hlastRels ?_ (hsame ▸ hbelow) (hsame ▸ hdistinct) hrest ?_
    · refine buildScripts_cons_eq_ok.2 ⟨b, _, rest, ?_, hrest', rfl⟩
      rw [hb', ← hpath, ← hrel]
    · intro rel' hrel'
      obtain ⟨l, bytes, hfind, hl⟩ := hfiles rel' hrel'
      have hget := Disk.found_of_seek hd.grounded (hd.starts _) (Disk.find_eq_ok_iff.1 hfind)
      have hne : ¬ l = w.disk.place (bodyPath output rel) := fun heq => hl (heq ▸ hout)
      exact ⟨l, bytes, hfirst.grew.find_of_file hd hfind
        ((hfirst.get?_eq hne (by simp [hget])).trans hget), hl⟩
    · intro l hl
      obtain ⟨hlout, hno⟩ := hplaces l hl
      rw [hsame]
      exact ⟨hlout, fun hmem => hno (List.mem_cons_of_mem _ hmem)⟩

end Scripts

section Discovered

variable {d d' : Disk} {root output : Path} {c : Config} {rel : String} {rels names : List String}

theorem Disk.FileBelow.of_grew (h : d.FileBelow root names) (hd : d.Proper) (hgrew : d.Grew d') :
    d'.FileBelow root names := by
  obtain ⟨l, hfind, hne, hget, hfile⟩ := h
  obtain ⟨hshort, henters⟩ := Disk.find_eq_directory_iff.1 hfind
  exact ⟨l, Disk.find_eq_directory_iff.2 ⟨hshort, hgrew.enters henters⟩, hne,
    hgrew.grown.get?_ne_none hget, hgrew.isFile hd hfile⟩

theorem names_of_discover (hd : d.Proper) (hs : d.tree.Slashless)
    (h : discover d root c = .ok rels) (hrel : rel ∈ rels) : ∃ names,
    rel = relativeText names ∧ isSelected c rel = .ok true ∧ d.FileBelow root names ∧
      names ≠ [] ∧ (∀ name ∈ names, Slashless name) ∧ ∀ name ∈ names, IsName name := by
  obtain ⟨hselected, names, hname, hbelow⟩ := (Disk.mem_discover hd.grounded h rel).1 hrel
  have hne : names ≠ [] := by
    obtain ⟨-, -, hne, -⟩ := hbelow
    exact hne
  exact ⟨names, hname, hselected, hbelow, hne, hbelow.forall_mem hs hd.grounded,
    fun name hm => (hbelow.forall_mem hd.tree.named hd.grounded name hm).isName⟩

theorem getLast?_bodyPath (output : Path) (hd : d.Proper) (hs : d.tree.Slashless)
    (h : discover d root c = .ok rels) (hrel : rel ∈ rels) :
    (bodyPath output rel).parts.getLast? ≠ some "" := by
  obtain ⟨names, rfl, -, -, hne, hslash, hnames⟩ := names_of_discover hd hs h hrel
  rw [bodyPath_relativeText output hne hslash hnames, Path.parts_descend,
    List.getLast?_append_of_ne_nil _ hne]
  intro hlast
  exact (hnames "" (List.mem_of_getLast? hlast)).notEmpty rfl

theorem place_reportPath (d : Disk) (output : Path) :
    d.place (reportPath output) = "analysis.json" :: d.place output :=
  have hname : ∀ name ∈ ["analysis.json"], IsName name :=
    List.forall_mem_singleton.2 ⟨by decide, by decide, by decide⟩
  Disk.place_descend output hname

theorem bodyPlaces_of_discover (output : Path) (hd : d.Proper) (hs : d.tree.Slashless)
    (h : discover d root c = .ok rels) : (bodyPlaces d output rels).Nodup ∧
      ∀ l ∈ bodyPlaces d output rels, d.place output <:+ l ∧ l ≠ d.place (reportPath output) := by
  constructor
  · refine List.Nodup.map_on ?_ (nodup_discover hd hs h)
    intro rel hrel rel' hrel' heq
    obtain ⟨names, rfl, -, -, hne, hslash, hnames⟩ := names_of_discover hd hs h hrel
    obtain ⟨names', rfl, -, -, hne', hslash', hnames'⟩ := names_of_discover hd hs h hrel'
    rw [place_bodyPath d output hne hslash hnames, place_bodyPath d output hne' hslash' hnames',
      List.append_left_inj, List.reverse_inj] at heq
    rw [heq]
  · intro l hl
    obtain ⟨rel, hrel, rfl⟩ := List.mem_map.1 hl
    obtain ⟨names, rfl, -, -, hne, hslash, hnames⟩ := names_of_discover hd hs h hrel
    rw [place_bodyPath d output hne hslash hnames, place_reportPath]
    refine ⟨⟨names.reverse ++ ["scripts"], by simp⟩, fun heq => ?_⟩
    have hlength := congrArg List.length heq
    have hpos := List.length_pos_of_ne_nil hne
    simp only [List.length_append, List.length_reverse, List.length_cons] at hlength
    omega

theorem find_of_hides {places : Location → Prop} (hd : d.Proper) (hs : d.tree.Slashless)
    (hfree : d.tree.LinkFree) (hgrew : d.Grew d') (hhides : d'.Hides root c places)
    (h : discover d root c = .ok rels) (hrel : rel ∈ rels) : ∃ l bytes,
      d.find (scriptPath root rel) = .ok (l, .file bytes) ∧ ¬ places l := by
  obtain ⟨names, rfl, hselected, hbelow, hne, hslash, hnames⟩ := names_of_discover hd hs h hrel
  have hlater := hbelow.of_grew hd hgrew
  obtain ⟨l, hfind, -, -, hfile⟩ := hbelow
  obtain ⟨hshort, henters⟩ := Disk.find_eq_directory_iff.1 hfind
  obtain ⟨-, k, e, hseek, he⟩ := Disk.testEntry_eq_true_iff.1 hfile
  obtain rfl := henters.find_descend (fun k target _ => hfree k target) hnames hseek
  have hscript : scriptPath root (relativeText names) = root.descend names := by
    rw [scriptPath, ofText_relativeText hne hslash hnames]
    rfl
  cases e with
  | file bytes =>
    refine ⟨_, bytes, by rw [hscript, hseek], fun hplace => ?_⟩
    have hfind' := Disk.find_eq_directory_iff.2 ⟨hshort, hgrew.enters henters⟩
    rw [hhides l names hfind' hplace hlater] at hselected
    cases hselected
  | _ => cases he

end Discovered

/-- A build is made again on the disk that it has left, from the imports that it started with. Where
no file below the output directory is selected, the root goes up only from directories that were
there, and what lies below the root can still be listed, the outcome is the same but for the time in
the report, and nothing but the report has changed. -/
theorem runBuild_again {c : Config} {lib : Library} {clock : String} {root output : Path}
    {w w' : Workshop Imports} {result : BuildResult} (hd : w.disk.Proper)
    (hs : w.disk.tree.Slashless) (hfree : w.disk.tree.LinkFree)
    (h : runBuild (localChain (.configured c.manifest lib)) clock root output c w = .ok result w')
    (hhides : w'.disk.Hides root c (w.disk.place output <:+ ·)) (hsteady : w.disk.Steady root)
    (hlist : ∃ files, filesBelow w'.disk root = .ok files) (clock' : String) :
    ∃ again later, runBuild (localChain (.configured c.manifest lib)) clock' root output c
        ⟨w'.disk, w.resolver⟩ = .ok again ⟨later, w'.resolver⟩ ∧
      again.scripts = result.scripts ∧ again.outputs = result.outputs ∧
      again.report = { result.report with generatedAt := clock' } ∧
      (∀ l, w'.disk.leadsTo result.reportPath l = false →
        later.tree.get? l = w'.disk.tree.get? l) ∧
      (∀ b ∈ result.scripts, ∃ l e, w'.disk.find b.bodyPath = .ok (l, e) ∧
        later.find b.bodyPath = .ok (l, e)) ∧
      ∀ l, later.tree.get? l ≠ none → w'.disk.tree.get? l ≠ none := by
  obtain ⟨rels, scripts, w₁, d', hdiscover, hbuild, hreport, rfl, rfl⟩ := runBuild_eq_ok_iff.1 h
  have hlast : ∀ rel ∈ rels, (bodyPath output rel).parts.getLast? ≠ some "" :=
    fun rel => getLast?_bodyPath output hd hs hdiscover
  have hbodies := wroteOnly_of_buildScripts hd hfree hlast hbuild
  have hd₁ := hbodies.grew.proper
  have hfree₁ := hbodies.grew.grown.linkFree hfree
  have hlastReport : (reportPath output).parts.getLast? ≠ some "" := by
    simp [reportPath, Path.child]
  have hreported := Disk.wroteOnly_of_writeWithParents hd₁ hfree₁ hlastReport hreport
  rw [Disk.place_of_here hbodies.grew.here] at hreported
  obtain ⟨hdistinct, hbelow⟩ := bodyPlaces_of_discover output hd hs hdiscover
  have hout : w.disk.place output <:+ w.disk.place (reportPath output) :=
    ⟨["analysis.json"], (place_reportPath w.disk output).symm⟩
  have hall : Disk.WroteOnly (w.disk.place output <:+ ·) w.disk d' :=
    (hbodies.mono fun l hl => (hbelow l hl).1).trans (hreported.mono fun l hl => hl ▸ hout)
  have hd' := hall.grew.proper
  have hdiscover' := discover_again hfree hall hd hsteady hhides hlist hdiscover
  have hbuild' := buildScripts_again hd hfree hlast
    (fun rel hrel => find_of_hides hd hs hfree hall.grew hhides hdiscover hrel)
    (fun l hl => (hbelow l hl).1) hdistinct hbuild hreported
    fun l hl => ⟨hl ▸ hout, fun hmem => (hbelow l hmem).2 hl⟩
  -- Only the report can differ, for it tells the time.
  have hreport' := Disk.writeWithParents_again hd₁ hfree₁ hlastReport hreport (.refl hd')
    (Json.render Json.indented (reportOf root clock' scripts).toValue)
  obtain ⟨held, hfound⟩ := Disk.find_of_writeWithParents hd₁ hfree₁ hlastReport hreport
  rw [Disk.place_of_here hbodies.grew.here] at hreport' hfound
  have hget := Disk.found_of_seek hd'.grounded (hd'.starts _) (Disk.find_eq_ok_iff.1 hfound)
  have hne : w.disk.place (reportPath output) ≠ [] := by
    rw [place_reportPath]
    exact List.cons_ne_nil _ _
  refine ⟨⟨reportOf root clock' scripts, scripts, reportPath output⟩, _, runBuild_eq_ok_iff.2
    ⟨rels, scripts, ⟨d', w₁.resolver⟩, _, hdiscover', hbuild', hreport', rfl, rfl⟩, rfl, rfl, rfl,
    fun l hl => ?_, fun b hb => ?_, fun l hl => ?_⟩
  · apply Disk.get?_fill_of_ne hne
    rintro rfl
    rw [Disk.leadsTo_of_find hfound, beq_self_eq_true] at hl
    cases hl
  · obtain ⟨hmem, e, hfind⟩ := find_of_buildScripts hd hfree hlast hbuild hb
    have hbody := Disk.found_of_seek hd₁.grounded (hd₁.starts _) (Disk.find_eq_ok_iff.1 hfind)
    have hother := (hbelow _ hmem).2
    have hbody' := (hreported.get?_eq hother (by rw [hbody]; simp)).trans hbody
    have hfind' := hreported.grew.find_of_get? hd₁ hfind hbody'
    have hlater := (Disk.wroteOnly_of_writeWithParents hd' (hall.grew.grown.linkFree hfree)
      hlastReport hreport').grew
    exact ⟨_, e, hfind', hlater.find_of_get? hd' hfind'
      ((Disk.get?_fill_of_ne hne hother).trans hbody')⟩
  · by_cases hplace : l = w.disk.place (reportPath output)
    · rw [hplace, hget]
      simp
    · rwa [Disk.get?_fill_of_ne hne hplace] at hl

def rebuilt : Workshop Imports :=
  ⟨⟨⟨[(["src"], .directory), (["a.py", "src"],
      .file (Utf8.encode "//#imp ../out/scripts/a.py\nRun();\n")), (["out"], .directory),
    (["scripts", "out"], .directory), (["a.py", "scripts", "out"], .file (Utf8.encode ""))]⟩, []⟩,
    .empty⟩

theorem rebuilt_discover :
    discover rebuilt.disk ⟨.relative, ["src"]⟩ (Config.default []) = .ok ["a.py"] := by
  refine discover_eq_ok_iff.2 ⟨["a.py"], ["a.py"], by rfl, by rfl, ?_⟩
  rw [byCodePoint, List.mergeSort_singleton]

theorem runBuild_again_rebuilt : ∃ result w' again later,
    runBuild (localChain (.configured (Config.default []).manifest .aliased)) "now"
      ⟨.relative, ["src"]⟩ ⟨.relative, ["out"]⟩ (Config.default []) rebuilt = .ok result w' ∧
    runBuild (localChain (.configured (Config.default []).manifest .aliased)) "later"
      ⟨.relative, ["src"]⟩ ⟨.relative, ["out"]⟩ (Config.default []) ⟨w'.disk, rebuilt.resolver⟩ =
        .ok again later ∧
    again.scripts = result.scripts ∧ result.scripts.map Built.path = ["a.py"] := by
  let root : Path := ⟨.relative, ["src"]⟩
  have hrun : (runBuild (localChain (.configured (Config.default []).manifest .aliased)) "now" root
      ⟨.relative, ["out"]⟩ (Config.default [])).leaves rebuilt (fun w' =>
        w'.disk.findsDirectory root ["src"] && (filesBelow w'.disk root).isOk) = true := by
    rw [leaves, runBuild, get_bind, ofExcept_bind_ok rebuilt_discover]
    decide +kernel
  obtain ⟨result, w', h, htest⟩ := ok_of_leaves hrun
  rw [Bool.and_eq_true] at htest
  have hfind := Disk.findsDirectory_iff.1 htest.1
  have hlist : ∃ files, filesBelow w'.disk root = .ok files := by
    cases hfiles : filesBelow w'.disk root with
    | ok files => exact ⟨files, rfl⟩
    | error f =>
      rw [hfiles] at htest
      cases htest.2
  have hhides : w'.disk.Hides root (Config.default []) (rebuilt.disk.place ⟨.relative, ["out"]⟩ <:+ ·) := by
    rintro l names hl ⟨front, hfront⟩ -
    rw [hfind] at hl
    cases hl
    have hlast := congrArg List.getLast? hfront
    rw [show rebuilt.disk.place ⟨.relative, ["out"]⟩ = ["out"] by rfl, List.getLast?_concat,
      List.getLast?_concat] at hlast
    exact absurd (Option.some.inj hlast) (by decide)
  obtain ⟨again, later, hagain, hscripts, -⟩ := runBuild_again
    ⟨Tree.proper_of_isProper (by decide +kernel), rfl⟩
    (Tree.slashless_of_isSlashless (by decide +kernel))
    (Tree.linkFree_of_isLinkFree (by decide +kernel)) h hhides
    (Disk.steady_of_no_up (by decide)) hlist "later"
  obtain ⟨rels, w₁, hdiscover, hbuild, -⟩ := runBuild_eq_ok h
  rw [rebuilt_discover] at hdiscover
  cases hdiscover
  exact ⟨result, w', again, _, h, hagain, hscripts, paths_of_buildScripts hbuild⟩

def blocked : Workshop Imports :=
  ⟨⟨⟨[(["r"], .directory), (["a.py", "r"], .file (Utf8.encode "A\n"))]⟩, []⟩, .empty⟩

def blockedReport (root : Path) : Workshop Imports :=
  ⟨⟨⟨blocked.disk.tree.entries ++ [(["missing"], .directory), (["out", "missing"], .directory),
    (["analysis.json", "out", "missing"],
      .file (Utf8.encode (Json.render Json.indented (reportOf root "" []).toValue)))]⟩, []⟩, .empty⟩

def blockedBuild (root : Path) : Attempt (Workshop Imports) BuildResult :=
  runBuild (localChain (.configured (Config.default []).manifest .aliased)) "" root
    (Path.ofText "missing/out") (Config.default [])

theorem blockedBuild_eq_ok {root : Path} (h : filesBelow blocked.disk root = .ok []) :
    blockedBuild root blocked =
      .ok ⟨reportOf root "" [], [], reportPath (Path.ofText "missing/out")⟩ (blockedReport root) := by
  refine runBuild_eq_ok_iff.2 ⟨[], [], blocked, (blockedReport root).disk,
    discover_eq_ok_iff.2 ⟨[], [], h, rfl, ?_⟩, rfl, ?_, rfl, rfl⟩
  · rw [byCodePoint, List.mergeSort_nil]
  · rfl

theorem hides_blocked {d : Disk} {root : Path} {c : Config}
    (h : ∀ l, d.find root = .ok (l, .directory) → l = ["r"]) :
    d.Hides root c (blocked.disk.place (Path.ofText "missing/out") <:+ ·) := by
  rintro l names hfind ⟨front, hfront⟩ -
  obtain rfl := h l hfind
  have hlast := congrArg List.getLast? hfront
  rw [show blocked.disk.place (Path.ofText "missing/out") = ["out", "missing"] by rfl,
    List.getLast?_append_of_ne_nil _ (List.cons_ne_nil _ _), List.getLast?_concat] at hlast
  exact absurd (Option.some.inj hlast) (by decide)

theorem blockedBuild_up :
    let root := Path.ofText "missing/../r"
    filesBelow blocked.disk root = .ok [] ∧
    (blockedReport root).disk.find root = .ok (["r"], .directory) ∧
    ∃ again last, blockedBuild root (blockedReport root) = .ok again last ∧
      again.scripts.map Built.path = ["a.py"] := by
  intro root
  have hdiscover : discover (blockedReport root).disk root (Config.default []) = .ok ["a.py"] := by
    refine discover_eq_ok_iff.2 ⟨["a.py"], ["a.py"], by rfl, by rfl, ?_⟩
    rw [byCodePoint, List.mergeSort_singleton]
  have hrun : (blockedBuild root).leaves (blockedReport root) (fun _ => true) = true := by
    rw [leaves, blockedBuild, runBuild, get_bind, ofExcept_bind_ok hdiscover]
    decide +kernel
  obtain ⟨again, last, hagain, -⟩ := ok_of_leaves hrun
  obtain ⟨rels, w₁, hrels, hbuild, -⟩ := runBuild_eq_ok hagain
  rw [hdiscover] at hrels
  cases hrels
  exact ⟨by rfl, by rfl, again, last, hagain, paths_of_buildScripts hbuild⟩

set_option maxRecDepth 2048 in
theorem blockedBuild_long :
    let root : Path := ⟨.relative, ["missing", String.ofList (List.replicate 64 '𝕏')]⟩
    filesBelow blocked.disk root = .ok [] ∧
    (blockedReport root).disk.find root = .error .nameTooLong ∧
    ∃ f last, blockedBuild root (blockedReport root) = .error f last := by
  intro root
  have hnull : root.hasNull = false := Path.hasNull_eq_false_iff.2 (by simp [root, NoNull])
  have hmissing : blocked.disk.find root = .error .noEntry := by rfl
  have hlong : (blockedReport root).disk.find root = .error .nameTooLong := by rfl
  have hbefore : blocked.disk.isDirectory root = .ok false := by
    rw [Disk.isDirectory, Disk.testEntry, hnull, hmissing]
    rfl
  have hafter : (blockedReport root).disk.isDirectory root =
      .error (.refused .nameTooLong root.toText) := by
    rw [Disk.isDirectory, Disk.testEntry, hnull, hlong]
    rfl
  have hdiscover : discover (blockedReport root).disk root (Config.default []) =
      .error (.refused .nameTooLong root.toText) := by
    rw [discover, filesBelow, hafter]
    rfl
  refine ⟨?_, hlong, ?_⟩
  · rw [filesBelow, hbefore]
    rfl
  · rw [blockedBuild, runBuild, get_bind, ofExcept_bind_error hdiscover]
    exact ⟨_, _, rfl⟩

theorem runBuild_again_blocked :
    blocked.disk.tree.LinkFree ∧
    (∃ root result later again last,
      blockedBuild root blocked = .ok result later ∧ result.scripts = [] ∧
      later.disk.Hides root (Config.default [])
        (blocked.disk.place (Path.ofText "missing/out") <:+ ·) ∧
      blockedBuild root ⟨later.disk, blocked.resolver⟩ = .ok again last ∧
      again.scripts.map Built.path = ["a.py"]) ∧
    ∃ root result later,
      blockedBuild root blocked = .ok result later ∧
      later.disk.Hides root (Config.default [])
        (blocked.disk.place (Path.ofText "missing/out") <:+ ·) ∧
      ∃ f last, blockedBuild root ⟨later.disk, blocked.resolver⟩ = .error f last := by
  refine ⟨Tree.linkFree_of_isLinkFree (by decide +kernel), ?_, ?_⟩
  · obtain ⟨hnone, hfind, again, last, hagain, hscripts⟩ := blockedBuild_up
    refine ⟨_, _, _, again, last, blockedBuild_eq_ok hnone, rfl, hides_blocked fun l hl => ?_,
      hagain, hscripts⟩
    rw [hfind] at hl
    cases hl
    rfl
  · obtain ⟨hnone, hfind, hagain⟩ := blockedBuild_long
    refine ⟨_, _, _, blockedBuild_eq_ok hnone, hides_blocked fun l hl => ?_, hagain⟩
    rw [hfind] at hl
    cases hl

end BuildScripts

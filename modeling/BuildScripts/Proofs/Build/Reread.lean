import BuildScripts.Proofs.Build.Stopped
import BuildScripts.Proofs.Disk.Climb
import BuildScripts.Proofs.Disk.FullPath
import BuildScripts.Proofs.Disk.Kept
import BuildScripts.Proofs.Script.Rendering

namespace BuildScripts

open Attempt
open BuildScripts.Text

section Lines

variable {σ τ : Type} {d : Disk} {p : Path} {a : Analysis} {raw text : String} {lines : List String}
  {script : Option String}

structure PlainLine (line : String) : Prop where
  noReturn : '\r' ∉ line.toList
  noFeed : '\n' ∉ line.toList
  unmarked : ∀ dir : Directive, dir.marks line = false

theorem PlainLine.oneLine {line : String} (h : PlainLine line) : OneLine line :=
  ⟨h.noFeed, fun hlast => h.noReturn (List.mem_of_getLast? hlast)⟩

theorem plainLine_of_prepareText {r : Resolver σ} {s t : σ}
    (h : prepareText (localChain r) d (unifyLineEnds raw) p s = .ok a t) :
    ∀ line ∈ a.bodyLines, PlainLine line := by
  have hbody : a.bodyLines = (physicalLines (unifyLineEnds raw)).filter isBodyLine := by
    have hreads := prepareText_eq_reads r none d (unifyLineEnds raw) p s
    rw [show chainOf r none Directive.all = localChain r from rfl, h] at hreads
    cases hfull : d.resolve p with
    | error f =>
      rw [hfull] at hreads
      cases hreads
    | ok full =>
      simp only [hfull] at hreads
      cases hys : (physicalLines (unifyLineEnds raw)).mapM ((Setting.ofScript none d full).read r) s
        with
      | error f t' =>
        rw [hys] at hreads
        cases hreads
      | ok ys t' =>
        rw [hys] at hreads
        cases hreads
        rfl
  intro line hline
  rw [hbody, List.mem_filter] at hline
  obtain ⟨hline, hunmarked⟩ := hline
  obtain ⟨hreturn, hfeed⟩ := not_mem_of_mem_physicalLines hline
  exact ⟨hreturn, hfeed, Directive.of?_eq_none_iff.1 (Option.isNone_iff_eq_none.1 hunmarked)⟩

theorem Disk.unified_of_readText (h : d.readText p = .ok text) : ∃ raw, text = unifyLineEnds raw := by
  rw [Disk.readText] at h
  split at h
  · cases h
  · split at h
    · cases h
      exact ⟨_, rfl⟩
    · cases h

theorem plainLine_of_prepareScript {r : Resolver σ} {s t : σ}
    (h : prepareScript (localChain r) d p s = .ok a t) : ∀ line ∈ a.bodyLines, PlainLine line := by
  rw [prepareScript] at h
  cases hread : d.readText p with
  | error f =>
    rw [ofExcept_bind_error hread] at h
    cases h
  | ok text =>
    rw [ofExcept_bind_ok hread] at h
    obtain ⟨raw, rfl⟩ := Disk.unified_of_readText hread
    exact plainLine_of_prepareText h

theorem render_feeds (lines : List String) :
    render (lines.map fun line => (.body line, .feed)) = String.join (lines.map (· ++ "\n")) := by
  induction lines with
  | nil => rfl
  | cons line lines ih =>
    rw [List.map_cons, render, ih, List.map_cons, String.join_cons]
    rfl

theorem analyseText_feeds (hlines : ∀ line ∈ lines, PlainLine line) (r : Resolver τ) (d : Disk)
    (script : Option String) (s : τ) :
    analyseText (localChain r) d (String.join (lines.map (· ++ "\n"))) script s =
      .ok ⟨.start script, lines⟩ s := by
  have hlists : r.Lists [] d := by
    intro name file s hlisted
    cases hlisted
  have hwritable : ∀ l ∈ lines.map fun line => (ScriptItem.body line, LineEnd.feed),
      l.1.Writable [] d := by
    rw [List.forall_mem_map]
    intro line hline
    exact ⟨(hlines line hline).oneLine, (hlines line hline).unmarked⟩
  have hbodies : Analysis.ofItems [] script (lines.map ScriptItem.body) = ⟨.start script, lines⟩ := by
    simp [Analysis.ofItems, Metadata.start, List.filterMap_map,
      ScriptItem.reference?, ScriptItem.sourceFile?, ScriptItem.package?, ScriptItem.body?]
  rw [← render_feeds, analyseText_of_lists hlists hwritable, List.map_map, ← hbodies]
  rfl

theorem noReturn_feeds (hlines : ∀ line ∈ lines, PlainLine line) :
    '\r' ∉ (String.join (lines.map (· ++ "\n"))).toList := by
  simp only [String.toList_join, List.mem_flatMap, List.mem_map, not_exists, not_and]
  rintro _ ⟨line, hline, rfl⟩ hmem
  rw [String.toList_append, List.mem_append] at hmem
  rcases hmem with hmem | hmem
  · exact (hlines line hline).noReturn hmem
  · exact absurd hmem (by decide)

section File

variable (hlines : ∀ line ∈ lines, PlainLine line) (hnull : p.hasNull = false) {l : Location}
  (hfind : d.find p = .ok (l, .file (Utf8.encode (String.join (lines.map (· ++ "\n")))))) {full : Path}
  (hfull : d.resolve p = .ok full)
include hlines hnull hfind

theorem readText_feeds : d.readText p = .ok (String.join (lines.map (· ++ "\n"))) := by
  have hread := Disk.readBytes_eq_ok_iff.2 ⟨hnull, l, _, hfind, rfl⟩
  rw [Disk.readText_of_readBytes hread (Utf8.decode_encode _),
    unifyLineEnds_of_not_mem (noReturn_feeds hlines)]

include hfull

theorem analyseFile_feeds (r : Resolver τ) (s : τ) :
    analyseFile (localChain r) d p s = .ok ⟨.start (some full.toText), lines⟩ s := by
  rw [analyseFile, ofExcept_bind_ok (readText_feeds hlines hnull hfind), ofExcept_bind_ok hfull]
  exact analyseText_feeds hlines r d _ s

theorem prepareScript_feeds (r : Resolver τ) (s : τ) :
    prepareScript (localChain r) d p s = .ok ⟨.start (some full.toText), lines⟩ s := by
  rw [prepareScript, ofExcept_bind_ok (readText_feeds hlines hnull hfind), prepareText,
    ofExcept_bind_ok hfull]
  exact mapFault_eq_ok.2 (analyseText_feeds hlines r d _ s)

end File

end Lines

section Run

variable {σ : Type} {chain : Chain σ} {root output : Path} {c : Config} {rel : String}
  {before after rels : List String} {w w₁ w₂ : Workshop σ} {bs : List Built} {b : Built}

theorem disk_after_onDisk {α : Type} (x : Attempt Disk α) (w : Workshop σ) :
    ((Workshop.onDisk x).after w).disk = x.after w.disk := by
  rw [Workshop.onDisk, Attempt.after, onPart, Attempt.after]
  cases x w.disk <;> rfl

theorem disk_after_resolving {α : Type} (x : Disk → Attempt σ α) (w : Workshop σ) :
    ((Workshop.resolving x).after w).disk = w.disk := by
  rw [Attempt.after, Workshop.resolving, onPart]
  cases x w.disk w.resolver <;> rfl

theorem keptBut_bind {α β : Type} {x : Attempt (Workshop σ) α} {g : α → Attempt (Workshop σ) β}
    {d : Disk} {paths : List Path} (hx : d.KeptBut paths (x.after w).disk)
    (hg : ∀ a w', x w = .ok a w' → d.KeptBut paths w'.disk →
      d.KeptBut paths ((g a).after w').disk) : d.KeptBut paths ((x >>= g).after w).disk :=
  after_bind (P := fun w' : Workshop σ => d.KeptBut paths w'.disk) hx hg

theorem keptBut_buildScript (hd : w.disk.Proper) :
    Disk.KeptBut [bodyPath output rel] w.disk ((buildScript chain root output rel).after w).disk := by
  refine keptBut_bind ?_ fun a w₁ _ hread => keptBut_bind ?_ fun _ w₂ _ hmade => ?_
  · rw [disk_after_resolving]
    exact .refl hd
  · rw [disk_after_onDisk]
    exact (hread.trans (Disk.keptBut_makeDirectories hread.grew.proper _)).mono (by simp)
  · rw [after_bind_pure, disk_after_onDisk]
    exact (hmade.trans (Disk.keptBut_writeText hmade.grew.proper _ _)).mono (by simp)

theorem keptBut_buildScripts (hd : w.disk.Proper) :
    Disk.KeptBut (rels.map (bodyPath output)) w.disk
      ((buildScripts chain root output rels).after w).disk := by
  induction rels generalizing w with
  | nil => exact .refl hd
  | cons rel rels ih =>
    have hfirst : Disk.KeptBut [bodyPath output rel] w.disk
      ((buildScript chain root output rel).after w).disk := keptBut_buildScript hd
    rw [buildScripts]
    cases hb : buildScript chain root output rel w with
    | error f w₁ =>
      rw [after_of_error hb] at hfirst
      rw [after_bind_of_error hb]
      exact hfirst.mono (by simp)
    | ok b w₁ =>
      rw [after_of_ok hb] at hfirst
      rw [after_bind_of_ok hb, after_bind_pure]
      exact hfirst.trans (ih hfirst.grew.proper)

theorem after_buildScripts (hbefore : buildScripts chain root output before w = .ok bs w₁) :
    (buildScripts chain root output (before ++ after)).after w =
      (buildScripts chain root output after).after w₁ := by
  induction before generalizing w bs with
  | nil =>
    cases hbefore
    rfl
  | cons first before ih =>
    obtain ⟨b, w₀, rest, hb, hrest, rfl⟩ := buildScripts_cons_eq_ok.1 hbefore
    rw [List.cons_append, buildScripts, after_bind_of_ok hb, after_bind_pure, ih hrest]

theorem keptBut_runBuild (clock : String) (hd : w.disk.Proper)
    (hdiscover : discover w.disk root c = .ok (before ++ rel :: after))
    (hbefore : buildScripts chain root output before w = .ok bs w₁)
    (hb : buildScript chain root output rel w₁ = .ok b w₂) :
    Disk.KeptBut (after.map (bodyPath output) ++ [reportPath output]) w₂.disk
      ((runBuild chain clock root output c).after w).disk := by
  have hearlier : Disk.KeptBut (before.map (bodyPath output)) w.disk
      ((buildScripts chain root output before).after w).disk := keptBut_buildScripts hd
  rw [after_of_ok hbefore] at hearlier
  have hturn : Disk.KeptBut [bodyPath output rel] w₁.disk
      ((buildScript chain root output rel).after w₁).disk := keptBut_buildScript hearlier.grew.proper
  rw [after_of_ok hb] at hturn
  have hothers : Disk.KeptBut (after.map (bodyPath output)) w₂.disk
      ((buildScripts chain root output after).after w₂).disk := keptBut_buildScripts hturn.grew.proper
  have hsame : (buildScripts chain root output (before ++ rel :: after)).after w =
      (buildScripts chain root output after).after w₂ := by
    rw [after_buildScripts hbefore, buildScripts, after_bind_of_ok hb, after_bind_pure]
  rw [← hsame] at hothers
  rw [Attempt.after, runBuild, get_bind, ofExcept_bind_ok hdiscover, ← Attempt.after]
  refine keptBut_bind (hothers.mono (List.subset_append_left _ _)) fun scripts w' hall _ => ?_
  rw [after_of_ok hall] at hothers
  refine Eq.subst (motive := fun d => Disk.KeptBut _ w₂.disk d) ?_
    (hothers.trans (Disk.keptBut_writeWithParents hothers.grew.proper (reportPath output)
      (Json.render Json.indented (reportOf root clock scripts).toValue)))
  exact ((congrArg Workshop.disk (after_bind_pure _ _ w')).trans (disk_after_onDisk _ w')).symm

end Run

section Place

variable {d : Disk} {root output p : Path} {c : Config} {rel : String} {rels names : List String}
  {l : Location} {e e' : Entry}

theorem Disk.place_of_find_descend (hfree : ∀ l, d.Enters p l → d.tree.LinkFreeBelow l)
    (hne : names ≠ []) (hn : ∀ name ∈ names, IsName name)
    (h : d.find (p.descend names) = .ok (l, e)) : ∃ out, d.Enters p out ∧ l = names.reverse ++ out := by
  obtain ⟨way, name, rfl⟩ := names.eq_nil_or_concat'.resolve_left hne
  have hseek := Disk.find_eq_ok_iff.1 h
  rw [← Path.descend_child] at hseek
  obtain ⟨l', henters⟩ := Disk.enters_of_seek_child hseek
  obtain ⟨out, hout⟩ := henters.of_descend
  exact ⟨out, hout, hout.find_descend (hfree out hout) hn h⟩

theorem apart_of_discover {later : Disk} {after : List String} (hd : d.Proper) (hs : d.tree.Slashless)
    (h : discover d root c = .ok rels) (hrel : rel ∈ rels) (hafter : ∀ other ∈ after, other ∈ rels)
    (hnot : rel ∉ after) (hfree : ∀ l, later.Enters output l → later.tree.LinkFreeBelow l)
    (hfind : later.find (bodyPath output rel) = .ok (l, e))
    (hp : p ∈ after.map (bodyPath output) ++ [reportPath output]) :
    later.find p ≠ .ok (l, e') := by
  intro hfind'
  have hscripts : ∀ {names : List String}, (∀ name ∈ names, IsName name) →
      ∀ name ∈ "scripts" :: names, IsName name :=
    fun hnames => List.forall_mem_cons.2 ⟨isName_scripts, hnames⟩
  obtain ⟨names, rfl, -, -, hne, hslash, hnames⟩ := names_of_discover hd hs h hrel
  rw [bodyPath_relativeText output hne hslash hnames, Path.child_descend] at hfind
  obtain ⟨out, hout, rfl⟩ := Disk.place_of_find_descend hfree (by simp) (hscripts hnames) hfind
  rcases List.mem_append.1 hp with hp | hp
  · obtain ⟨other, hother, rfl⟩ := List.mem_map.1 hp
    obtain ⟨names', rfl, -, -, hne', hslash', hnames'⟩ :=
      names_of_discover hd hs h (hafter other hother)
    rw [bodyPath_relativeText output hne' hslash' hnames', Path.child_descend] at hfind'
    obtain ⟨out', hout', heq⟩ :=
      Disk.place_of_find_descend hfree (by simp) (hscripts hnames') hfind'
    rw [hout'.unique hout, List.append_left_inj, List.reverse_inj, List.cons.injEq] at heq
    exact hnot (heq.2 ▸ hother)
  · rw [List.mem_singleton.1 hp, show reportPath output = output.descend ["analysis.json"] from rfl]
      at hfind'
    obtain ⟨out', hout', heq⟩ := Disk.place_of_find_descend hfree (by simp)
      (List.forall_mem_singleton.2 (by decide)) hfind'
    rw [hout'.unique hout, List.append_left_inj, List.reverse_inj] at heq
    exact absurd (List.cons.inj heq).1 (by decide)

end Place

section Body

variable {σ : Type} {chain : Chain σ} {root output : Path} {c : Config} {w w₁ w₂ : Workshop σ}
  {before after : List String} {rel : String} {bs : List Built} {b : Built} {d : Disk}

theorem isAbsolute_bodyPath {rels : List String} (hd : w.disk.Proper) (hs : w.disk.tree.Slashless)
    (h : discover w.disk root c = .ok rels) (hrel : rel ∈ rels) :
    (bodyPath output rel).isAbsolute = output.isAbsolute := by
  obtain ⟨names, rfl, -, -, hne, hslash, hnames⟩ := names_of_discover hd hs h hrel
  rw [bodyPath_relativeText output hne hslash hnames]
  rfl

theorem find_bodyPath_of_runBuild (clock : String) (hd : w.disk.Proper) (hs : w.disk.tree.Slashless)
    (hdiscover : discover w.disk root c = .ok (before ++ rel :: after))
    (hbefore : buildScripts chain root output before w = .ok bs w₁)
    (hb : buildScript chain root output rel w₁ = .ok b w₂)
    (hleft : ((runBuild chain clock root output c).after w).disk = d)
    (hfree : ∀ l, d.Enters output l → d.tree.LinkFreeBelow l) :
    (bodyPath output rel).hasNull = false ∧ w.disk.Grew d ∧ ∃ l held,
      d.find (bodyPath output rel) =
        .ok (l, Disk.filled held (Utf8.encode b.analysis.bodyText)) := by
  obtain ⟨-, hpath, -, hwrite⟩ := buildScript_eq_ok hb
  rw [hpath] at hwrite
  have hearlier := (wrote_of_buildScripts hd hbefore).grew
  obtain ⟨hnull, hturned, l, held, hfind⟩ := Disk.find_of_written hearlier.proper hwrite
  have hkept := keptBut_runBuild clock hd hdiscover hbefore hb
  rw [hleft] at hkept
  refine ⟨hnull, (hearlier.trans hturned).trans hkept.grew, l, held, ?_⟩
  have hwritten := Disk.found_of_seek hturned.proper.grounded (hturned.proper.starts _)
    (Disk.find_eq_ok_iff.1 hfind)
  rcases hkept.kept l _ hwritten with hsame | ⟨p, hp, e', hother⟩
  · exact hkept.grew.find_of_get? hturned.proper hfind hsame
  · obtain ⟨e, he⟩ := Option.ne_none_iff_exists'.1
      (hkept.grew.grown.get?_ne_none (show w₂.disk.tree.get? l ≠ none by simp [hwritten]))
    have hnodup := nodup_discover hd hs hdiscover
    rw [List.nodup_append, List.nodup_cons] at hnodup
    exact absurd hother (apart_of_discover hd hs hdiscover (by simp)
      (fun other hmem => List.mem_append_right _ (List.mem_cons_of_mem _ hmem)) hnodup.2.1.1 hfree
      (hkept.grew.find_of_get? hturned.proper hfind he) hp)

end Body

/-- However a build goes on after a script has been built, the body of the script is where its path
leads, unless a device is there. Every analyser that reads it finds the body lines of the script in it
and nothing else, if the path has a full path. It has one where there are no links, and also where the
path is absolute and each link can be looked up under its own full path. -/
theorem runBuild_rereads {σ : Type} {r : Resolver σ} {clock : String} {root output : Path} {c : Config}
    {w w₁ w₂ : Workshop σ} {before after : List String} {rel : String} {bs : List Built} {b : Built}
    {d : Disk} (hd : w.disk.Proper) (hs : w.disk.tree.Slashless)
    (hdiscover : discover w.disk root c = .ok (before ++ rel :: after))
    (hbefore : buildScripts (localChain r) root output before w = .ok bs w₁)
    (hb : buildScript (localChain r) root output rel w₁ = .ok b w₂)
    (hleft : ((runBuild (localChain r) clock root output c).after w).disk = d)
    (hfree : ∀ l, d.Enters output l → d.tree.LinkFreeBelow l) :
    ∃ l e, d.find (bodyPath output rel) = .ok (l, e) ∧
      (e = .sink ∨ e = .file (Utf8.encode b.analysis.bodyText)) ∧
      (w.disk.tree.LinkFree ∨ output.isAbsolute = true ∧ w.disk.tree.LinksNear →
        ∃ full, d.resolve (bodyPath output rel) = .ok full) ∧
      (e ≠ .sink → ∀ full, d.resolve (bodyPath output rel) = .ok full →
        ∀ (τ : Type) (r' : Resolver τ) (s : τ), ∃ a,
          analyseFile (localChain r') d (bodyPath output rel) s = .ok a s ∧
          prepareScript (localChain r') d (bodyPath output rel) s = .ok a s ∧
          a.metadata = ⟨some full.toText, [], [], []⟩ ∧ a.bodyLines = b.analysis.bodyLines ∧
          a.bodyText = b.analysis.bodyText) := by
  obtain ⟨-, -, hprepare, -⟩ := buildScript_eq_ok hb
  obtain ⟨hnull, hgrew, l, held, hbody⟩ :=
    find_bodyPath_of_runBuild clock hd hs hdiscover hbefore hb hleft hfree
  have hcases := Disk.filled_cases held (Utf8.encode b.analysis.bodyText)
  refine ⟨l, _, hbody, hcases, ?_, fun hsink full hfull τ r' s => ?_⟩
  · rintro (hlinks | ⟨habsolute, hnear⟩)
    · exact ⟨_, Disk.resolve_of_no_loop hnull
        (Disk.find_ne_tooManyLinks (hgrew.grown.linkFree hlinks) _)⟩
    · rw [← isAbsolute_bodyPath hd hs hdiscover (show rel ∈ before ++ rel :: after by simp)]
        at habsolute
      refine ⟨_, Disk.resolve_of_find hgrew.proper.grounded (hnear.of_grown hgrew.grown) habsolute
        hnull hbody ?_⟩
      rcases hcases with h | h <;> rw [h] <;> rintro _ ⟨⟩
  · have hlines := plainLine_of_prepareScript hprepare
    rw [hcases.resolve_left hsink, Analysis.bodyText_eq] at hbody
    exact ⟨⟨.start (some full.toText), b.analysis.bodyLines⟩,
      analyseFile_feeds hlines hnull hbody hfull r' s,
      prepareScript_feeds hlines hnull hbody hfull r' s, rfl, rfl, rfl⟩

def mixedEnds : Workshop Imports :=
  ⟨⟨⟨[(["r"], .directory),
    (["a.py", "r"], .file (Utf8.encode "\uFEFFA\r\n//#pkg P\rB\u2028C\n\n"))]⟩, []⟩, .empty⟩

def mixedEndsOutput : Path := ⟨.relative, ["out"]⟩

theorem mixedEnds_discover :
    discover mixedEnds.disk sampleRoot (Config.default []) = .ok ([] ++ "a.py" :: []) :=
  discover_eq_ok_iff.2 ⟨["a.py"], ["a.py"], by rfl, by rfl, (List.mergeSort_singleton _).symm⟩

theorem runBuild_rereads_mixedEnds : mixedEnds.disk.Proper ∧ mixedEnds.disk.tree.Slashless ∧
    mixedEnds.disk.tree.LinkFree ∧ ∃ result w',
      runBuild sampleChain "now" sampleRoot mixedEndsOutput (Config.default []) mixedEnds =
        .ok result w' ∧
      ∃ full, ∀ s, ∃ a,
        analyseFile sampleChain w'.disk (bodyPath mixedEndsOutput "a.py") s = .ok a s ∧
        a.metadata = ⟨some full, [], [], []⟩ ∧ a.bodyText = "\uFEFFA\nB\u2028C\n\n" := by
  have hproper : mixedEnds.disk.Proper := ⟨Tree.proper_of_isProper (by decide +kernel), rfl⟩
  have hslashless : mixedEnds.disk.tree.Slashless :=
    Tree.slashless_of_isSlashless (by decide +kernel)
  have hlinks : mixedEnds.disk.tree.LinkFree := Tree.linkFree_of_isLinkFree (by decide +kernel)
  have hrun : (runBuild sampleChain "now" sampleRoot mixedEndsOutput (Config.default [])).leaves
      mixedEnds (fun w' => w'.disk.tree.isLinkFree &&
        w'.disk.findsFile (bodyPath mixedEndsOutput "a.py")
          (fun bytes => decide (bytes = Utf8.encode "\uFEFFA\nB\u2028C\n\n"))) = true := by
    rw [leaves, runBuild, get_bind, ofExcept_bind_ok mixedEnds_discover]
    decide +kernel
  obtain ⟨result, w', h, htest⟩ := ok_of_leaves hrun
  rw [Bool.and_eq_true] at htest
  obtain ⟨l, bytes, hfile, hbytes⟩ := Disk.file_of_findsFile htest.2
  obtain ⟨rels, scripts, w₁, d', hdiscover, hbuild, -⟩ := runBuild_eq_ok_iff.1 h
  rw [mixedEnds_discover] at hdiscover
  cases hdiscover
  obtain ⟨b, w₂, rest, hb, -, -⟩ := buildScripts_cons_eq_ok.1 hbuild
  obtain ⟨l', e, hfind, hcases, hresolve, hreads⟩ := runBuild_rereads hproper hslashless
    mixedEnds_discover (show buildScripts sampleChain _ _ [] mixedEnds = .ok [] mixedEnds from rfl)
    hb (congrArg Workshop.disk (after_of_ok h))
    (fun _ _ k target _ => Tree.linkFree_of_isLinkFree htest.1 k target)
  rw [hfile] at hfind
  cases hfind
  obtain ⟨full, hfull⟩ := hresolve (.inl hlinks)
  refine ⟨hproper, hslashless, hlinks, result, w', h, full.toText, fun s => ?_⟩
  obtain ⟨a, hanalyse, -, hmetadata, -, hbody⟩ := hreads (by simp) full hfull _ _ s
  refine ⟨a, hanalyse, hmetadata, hbody.trans ?_⟩
  have hsame : Utf8.encode b.analysis.bodyText = Utf8.encode "\uFEFFA\nB\u2028C\n\n" :=
    (Entry.file.inj (hcases.resolve_left (by simp))).symm.trans (of_decide_eq_true hbytes)
  exact Utf8.encode_injective hsame

section Climbing

open Disk

def climbing : Workshop Imports :=
  ⟨⟨⟨[(["r"], .directory), (["a.py", "r"], .file (Utf8.encode "A\n")), (["d"], .directory),
    (["e", "d"], .directory), (["loop", "d"], .directory), (["scripts", "loop", "d"], .directory),
    (["jump"], .link "d/e"), (["loop"], .link "loop"),
    (["up"], .link (String.intercalate "/" (climb 1364)))]⟩, []⟩, .empty⟩

def climbingOutput : Path := ⟨.relative, ["up", "jump", "..", "loop"]⟩

theorem climb_ne_nil : climb 1364 ≠ [] :=
  List.ne_nil_of_length_pos (by rw [climb, List.length_replicate]; decide)

theorem climbing_enters : climbing.disk.Enters climbingOutput ["loop", "d"] := by
  have hdown : climbing.disk.tree.Reaches 39 [] (["jump", "..", "loop"]) ["loop", "d"] 38 := by
    refine .link (by decide) (by decide) rfl ?_
    exact .enter (by decide) (by decide) rfl
      (.enter (by decide) (by decide) rfl
        (.up (.enter (by decide) (by decide) rfl .stop)))
  have hfilter : (climb 1364).filter (· ≠ "") = climb 1364 :=
    List.filter_eq_self.2 fun name h => decide_eq_true (isPart_of_mem_climb h).notEmpty
  refine ⟨38, .link (by decide) (by decide) rfl ?_⟩
  rw [targetStart, show climbing.disk.start climbingOutput = [] from rfl, ite_self, targetParts,
    pieces_climb climb_ne_nil, hfilter]
  split
  · rw [List.append_assoc]
    exact .climbed 1364 (.skip (.inl rfl) hdown)
  · exact .climbed 1364 hdown

theorem climbing_fullPath : climbing.disk.fullPath (bodyPath climbingOutput "a.py") =
    .absolute ["loop", "scripts", "a.py"] := by
  have hlink : climbing.disk.linkAt? (Reached.toPath (Reached.push ⟨false, []⟩ "up")) =
      some (String.intercalate "/" (climb 1364)) := by
    have hseek : climbing.disk.seek .entry ⟨.relative, ["up"]⟩ =
        .ok (.found ["up"] (.link (String.intercalate "/" (climb 1364)))) := by
      rw [seek_of_short (by decide)]
      exact walk_of_arrived (stride_last (by decide) (by decide) (.inl rfl))
    rw [linkAt?, show climbing.disk.seek .entry (Reached.toPath (Reached.push ⟨false, []⟩ "up")) = _
      from hseek]
  have hstart : Reached.startOf ⟨false, []⟩ (String.intercalate "/" (climb 1364)) = ⟨false, []⟩ := by
    obtain ⟨c, cs, hcs, hc⟩ := Path.intercalate_eq_cons climb_ne_nil fun _ => isPart_of_mem_climb
    rw [Reached.startOf, if_neg]
    rw [beginsWith_iff]
    rintro ⟨rest, hrest⟩
    rw [hcs] at hrest
    exact hc (List.cons.inj hrest).1
  have hup : climbing.disk.resolveWithin 6 [⟨false, ["up"]⟩] ⟨false, []⟩ (climb 1364) =
      .done ⟨false, climb 1364⟩ := by
    rw [← List.append_nil (climb 1364)]
    exact (resolveParts_climb 0 1364).trans (by rw [Nat.zero_add, List.append_nil]; rfl)
  have hall : climbing.disk.resolveWithin 7 [] ⟨false, []⟩
      ["up", "jump", "..", "loop", "scripts", "a.py"] =
      .done ⟨false, ["a.py", "scripts", "loop"] ++ climb 1364⟩ := by
    rw [resolveWithin, resolveParts_name (by decide), hlink]
    dsimp only
    rw [if_neg (by decide), hstart, pieces_climb climb_ne_nil,
      show climbing.disk.resolveWithin 6 [Reached.push ⟨false, []⟩ "up"] ⟨false, []⟩ (climb 1364) = _
        from hup, ← List.nil_append (climb 1364)]
    dsimp only
    rw [resolveParts_past_climb (by decide) (by decide), resolveParts,
      if_neg (by decide), if_pos rfl,
      show Reached.up ⟨false, ["jump"] ++ climb 1364⟩ = ⟨false, [] ++ climb 1364⟩ from rfl,
      resolveParts_past_climb (by decide) (by decide),
      resolveParts_past_climb (by decide) (by decide),
      resolveParts_past_climb (by decide) (by decide)]
    rfl
  rw [fullPath, show climbing.disk.resolveDepth = 7 from rfl]
  change climbing.disk.settled (climbing.disk.resolveWithin 7 [] ⟨false, []⟩
    ["up", "jump", "..", "loop", "scripts", "a.py"]) = _
  have hnames : climbing.disk.namesFromRoot ⟨false, ["a.py", "scripts", "loop"] ++ climb 1364⟩ =
      ["a.py", "scripts", "loop"] := by
    rw [namesFromRoot, if_neg Bool.false_ne_true, show climbing.disk.here = [] from rfl,
      List.reverse_append, show (climb 1364).reverse = climb 1364 from List.reverse_replicate ..,
      collapse_climb]
    rfl
  rw [hall, settled, hnames]
  rfl

theorem walk_loop (n : Nat) (rest : List String) :
    walk climbing.disk.tree .target n [] ("loop" :: rest) = .error .tooManyLinks := by
  have hstride : stride climbing.disk.tree .target [] ("loop" :: rest) = .link [] "loop" rest := by
    rw [stride_named (by simp) (by decide) (by decide),
      show climbing.disk.tree.get? ["loop"] = some (.link "loop") from rfl]
    simp
  induction n with
  | zero => exact walk_of_last_link hstride
  | succ n ih =>
    rw [walk_of_link hstride]
    exact ih

theorem climbing_resolve : climbing.disk.resolve (bodyPath climbingOutput "a.py") =
    .error (.linkLoop "/loop/scripts/a.py") := by
  have hfind : climbing.disk.find (.absolute ["loop", "scripts", "a.py"]) = .error .tooManyLinks := by
    rw [find_tooManyLinks_iff, seek_of_short (by decide)]
    exact walk_loop _ _
  rw [resolve, climbing_fullPath, hfind]
  rfl

theorem climbing_linkFreeBelow : climbing.disk.tree.LinkFreeBelow ["loop", "d"] := by
  intro place target hbelow hget
  have hne : place ≠ [] := by
    rintro rfl
    cases hget
  have hmem := Tree.mem_entries_of_get? hne hget
  have hlength := hbelow.length_le
  simp only [climbing, List.mem_cons, Prod.mk.injEq, reduceCtorEq, and_false, List.not_mem_nil,
    false_or, or_false] at hmem
  rcases hmem with ⟨rfl, -⟩ | ⟨rfl, -⟩ | ⟨rfl, -⟩ <;> simp at hlength

theorem climbing_unread : ∃ result w',
    runBuild sampleChain "now" sampleRoot climbingOutput (Config.default []) climbing =
        .ok result w' ∧
      result.scripts.map (fun b => (b.path, b.analysis.bodyLines)) = [("a.py", ["A"])] ∧
      (∀ l, w'.disk.Enters climbingOutput l → w'.disk.tree.LinkFreeBelow l) ∧
      (∃ l, w'.disk.find (bodyPath climbingOutput "a.py") = .ok (l, .file (Utf8.encode "A\n"))) ∧
      ∀ (τ : Type) (r : Resolver τ) (s : τ),
        analyseFile (localChain r) w'.disk (bodyPath climbingOutput "a.py") s =
          .error (.linkLoop "/loop/scripts/a.py") s := by
  have hgrounded : climbing.disk.tree.Grounded := Tree.grounded_of_isGrounded (by decide +kernel)
  have hdiscover : discover climbing.disk sampleRoot (Config.default []) = .ok ["a.py"] :=
    discover_eq_ok_iff.2 ⟨["a.py"], ["a.py"], by rfl, by rfl, (List.mergeSort_singleton _).symm⟩
  have hgives : (prepareScript sampleChain climbing.disk (scriptPath sampleRoot "a.py")).gives
      climbing.resolver ⟨⟨some "/r/a.py", [], [], []⟩, ["A"]⟩ = true := by
    decide +kernel
  obtain ⟨t, hprepare⟩ := ok_of_gives hgives
  have hscripts : climbing.disk.Enters (climbingOutput.child "scripts") ["scripts", "loop", "d"] := by
    obtain ⟨k, h⟩ := climbing_enters
    exact ⟨k, h.append (.enter (by decide) (by decide) rfl .stop)⟩
  obtain ⟨d₁, hbody, hfilled⟩ := hscripts.writeWithParents_child
    (show IsName "a.py" by decide) (by decide) (by decide) hgrounded (by rfl) rfl (by decide) rfl "A\n"
  have houtput := climbing_enters.of_ways hfilled.here hfilled.grown.toWays
  let b : Built := ⟨"a.py", ⟨⟨some "/r/a.py", [], [], []⟩, ["A"]⟩, bodyPath climbingOutput "a.py"⟩
  have hb : buildScript sampleChain sampleRoot climbingOutput "a.py" climbing = .ok b ⟨d₁, t⟩ :=
    buildScript_of_ok hprepare hbody
  have hall : buildScripts sampleChain sampleRoot climbingOutput ["a.py"] climbing =
      .ok [b] ⟨d₁, t⟩ :=
    buildScripts_cons_eq_ok.2 ⟨b, ⟨d₁, t⟩, [], hb, rfl, rfl⟩
  obtain ⟨d₂, hreport, hfilled'⟩ := houtput.writeWithParents_child
    (show IsName "analysis.json" by decide) (by decide) (by decide) hfilled.grounded
    (Starts.of_grown (show climbing.disk.Starts (climbingOutput.child "analysis.json") from rfl)
      hfilled.here hfilled.grown) rfl (by decide) (hfilled.others _ (by decide))
    (Json.render Json.indented (reportOf sampleRoot "now" [b]).toValue)
  have hgrown := hfilled.grown.trans hfilled'.grown
  have hhere := hfilled'.here.trans hfilled.here
  have hfind : d₂.find (bodyPath climbingOutput "a.py") =
      .ok (["a.py", "scripts", "loop", "d"], .file (Utf8.encode "A\n")) := by
    refine (hscripts.of_ways hhere hgrown.toWays).find_child
      (show IsName "a.py" by decide) (by decide) (by decide) ?_ (by simp)
    rw [hfilled'.others _ (by decide), hfilled.held]
    rfl
  have hrun := runBuild_eq_ok_iff.2
    ⟨["a.py"], [b], ⟨d₁, t⟩, d₂, hdiscover, hall, hreport, rfl, rfl⟩
  refine ⟨_, ⟨d₂, t⟩, hrun, rfl, fun l hl => ?_, ⟨_, hfind⟩, fun τ r s => ?_⟩
  · obtain rfl := (climbing_enters.of_ways hhere hgrown.toWays).unique hl
    exact climbing_linkFreeBelow.of_grown hgrown
  · have hread := readText_of_readBytes (readBytes_eq_ok_iff.2 ⟨rfl, _, _, hfind, rfl⟩)
      (Utf8.decode_encode "A\n")
    rw [analyseFile, ofExcept_bind_ok hread, ofExcept_bind_error]
    rw [hfilled'.sameWays.resolve_eq, hfilled.sameWays.resolve_eq, climbing_resolve]

end Climbing

end BuildScripts

import BuildScripts.Proofs.Build.Output

namespace BuildScripts

open Attempt
open BuildScripts.Text

section Error

variable {σ : Type} {chain : Chain σ} {root output : Path} {rel : String}
  {before after : List String} {w w₁ w' : Workshop σ} {bs : List Built} {f : Fault} {t : σ}

theorem buildScript_of_error
    (h : prepareScript chain w.disk (scriptPath root rel) w.resolver = .error f t) :
    buildScript chain root output rel w = .error f ⟨w.disk, t⟩ := by
  apply bind_of_error
  rw [Workshop.resolving, onPart]
  change prepareScript chain w.disk (root.join (Path.ofText rel)) w.resolver = _ at h
  rw [h]

theorem buildScripts_of_error (hbefore : buildScripts chain root output before w = .ok bs w₁)
    (h : buildScript chain root output rel w₁ = .error f w') :
    buildScripts chain root output (before ++ rel :: after) w = .error f w' := by
  induction before generalizing w bs with
  | nil =>
    cases hbefore
    exact bind_of_error h
  | cons first before ih =>
    obtain ⟨b, w₀, rest, hb, hrest, rfl⟩ := buildScripts_cons_eq_ok.1 hbefore
    rw [List.cons_append, buildScripts, bind_of_ok hb]
    exact bind_of_error (ih hrest)

theorem runBuild_of_error {clock : String} {c : Config}
    (hdiscover : discover w.disk root c = .ok (before ++ rel :: after))
    (hbefore : buildScripts chain root output before w = .ok bs w₁)
    (h : prepareScript chain w₁.disk (scriptPath root rel) w₁.resolver = .error f t) :
    runBuild chain clock root output c w = .error f ⟨w₁.disk, t⟩ := by
  rw [runBuild, get_bind, ofExcept_bind_ok hdiscover]
  exact bind_of_error (buildScripts_of_error hbefore (buildScript_of_error h))

end Error

section Elsewhere

variable {d : Disk} {root output : Path} {c : Config} {l : Location} {rels names names' : List String}
  {rel rel' : String}

theorem Disk.FileBelow.not_prefix (h : d.FileBelow root names) (h' : d.FileBelow root names')
    (hd : d.Proper) (hfree : d.tree.LinkFree) (hn : ∀ name ∈ names, IsName name) :
    ¬ (names <+: names' ∧ names ≠ names') := by
  rintro ⟨⟨rest, rfl⟩, hne⟩
  obtain ⟨l, hfind, -, -, hfile⟩ := h
  obtain ⟨l', hfind', -, hget', -⟩ := h'
  rw [hfind] at hfind'
  cases hfind'
  obtain ⟨-, k, e, hseek, he⟩ := Disk.testEntry_eq_true_iff.1 hfile
  have henters := (Disk.find_eq_directory_iff.1 hfind).2
  obtain rfl := henters.find_descend (fun k target _ => hfree k target) hn hseek
  have hget := Disk.found_of_seek hd.grounded (hd.starts _) (Disk.find_eq_ok_iff.1 hseek)
  rw [List.reverse_append, List.append_assoc] at hget'
  have hdir := hd.grounded.of_append hget' (by simpa using hne)
  rw [hget] at hdir
  cases hdir
  cases he

theorem output_of_passes (hd : d.Proper) (hs : d.tree.Slashless) (hfree : d.tree.LinkFree)
    (h : discover d root c = .ok rels) (hrel : rel ∈ rels) {p : Path}
    (hp : p ∈ rels.map (bodyPath output) ++ [reportPath output])
    (hpass : d.Passes (bodyPath output rel).parent (d.place p)) : d.Passes output (d.place p) := by
  obtain ⟨names, rfl, -, hbelow, hne, hslash, hnames⟩ := names_of_discover hd hs h hrel
  rcases passes_bodyPath hne hslash hnames hpass with hpass | ⟨front, hfront, hplace⟩
  · exact hpass
  · cases front with
    | nil => exact ⟨output.parts, List.prefix_rfl, hplace⟩
    | cons first front =>
      obtain ⟨rfl, hrest⟩ := List.cons_prefix_cons.1 hfront
      rw [List.reverse_cons, List.append_assoc, List.singleton_append] at hplace
      exfalso
      rcases List.mem_append.1 hp with hp | hp
      · obtain ⟨other, hother, rfl⟩ := List.mem_map.1 hp
        obtain ⟨names', rfl, -, hbelow', hne', hslash', hnames'⟩ := names_of_discover hd hs h hother
        rw [place_bodyPath d output hne' hslash' hnames', List.append_left_inj, List.reverse_inj]
          at hplace
        subst hplace
        refine hbelow'.not_prefix hbelow hd hfree hnames'
          ⟨hrest.trans (List.dropLast_prefix _), fun heq => ?_⟩
        have hlength := hrest.length_le
        rw [heq, List.length_dropLast] at hlength
        have := List.length_pos_iff.2 hne
        omega
      · rw [List.mem_singleton.1 hp, place_reportPath] at hplace
        cases front with
        | nil => exact absurd (List.cons.inj hplace).1 (by decide)
        | cons name front =>
          have hlength := congrArg List.length hplace
          simp at hlength
          omega

end Elsewhere

/-- If a script of a build cannot be prepared, for whatever reason, the build fails with its fault. The
scripts before it have been built, and their bodies stand there in full. At the places of the report,
of its own body and of the bodies after it everything is as it was, but that a directory may have been
made where the way to the output directory passes. -/
theorem runBuild_stops {σ : Type} {chain : Chain σ} (clock : String) {root output : Path} {c : Config}
    {w w₁ : Workshop σ} {before after : List String} {rel : String} {bs : List Built} {f : Fault}
    {t : σ} (hd : w.disk.Proper) (hs : w.disk.tree.Slashless) (hfree : w.disk.tree.LinkFree)
    (hdiscover : discover w.disk root c = .ok (before ++ rel :: after))
    (hbefore : buildScripts chain root output before w = .ok bs w₁)
    (hprepare : prepareScript chain w₁.disk (scriptPath root rel) w₁.resolver = .error f t) :
    runBuild chain clock root output c w = .error f ⟨w₁.disk, t⟩ ∧
      bs.map Built.path = before ∧
      (∀ b ∈ bs, w.disk.Holds w₁.disk (bodyPath output b.path)
        (String.join (b.analysis.bodyLines.map (· ++ "\n")))) ∧
      ∀ p ∈ reportPath output :: (rel :: after).map (bodyPath output),
        w₁.disk.tree.get? (w.disk.place p) = w.disk.tree.get? (w.disk.place p) ∨
          w.disk.tree.get? (w.disk.place p) = none ∧
          w₁.disk.tree.get? (w.disk.place p) = some .directory ∧
          w.disk.Passes output (w.disk.place p) := by
  have hmem : ∀ {other}, other ∈ before → other ∈ before ++ rel :: after := List.mem_append_left _
  obtain ⟨hdistinct, hbelow⟩ := bodyPlaces_of_discover output hd hs hdiscover
  rw [bodyPlaces, List.map_append, List.nodup_append] at hdistinct
  obtain ⟨hdistinct, -, hapart⟩ := hdistinct
  obtain ⟨hbodies, hbody⟩ := bodies_of_buildScripts hd hfree
    (fun other hother => getLast?_bodyPath output hd hs hdiscover (hmem hother)) hdistinct hbefore
  refine ⟨runBuild_of_error hdiscover hbefore hprepare, paths_of_buildScripts hbefore,
    fun b hb => ?_, fun p hp => ?_⟩
  · obtain ⟨hpath, hholds⟩ := hbody b hb
    rwa [← Analysis.bodyText_eq, ← hpath]
  · rcases hbodies.place (w.disk.place p) with hsame | ⟨q, hq, hplace⟩ | ⟨hnone, hdir, q, hq, hpass⟩
    · exact .inl hsame
    · obtain ⟨other, hother, rfl⟩ := List.mem_map.1 hq
      exfalso
      rcases List.mem_cons.1 hp with rfl | hp
      · exact (hbelow _ (List.mem_map_of_mem (hmem hother))).2 hplace.symm
      · obtain ⟨later, hlater, rfl⟩ := List.mem_map.1 hp
        exact hapart _ (List.mem_map_of_mem hother) _ (List.mem_map_of_mem hlater) hplace.symm
    · obtain ⟨other, hother, rfl⟩ := List.mem_map.1 hq
      refine .inr ⟨hnone, hdir, output_of_passes hd hs hfree hdiscover (hmem hother) ?_ hpass⟩
      rw [List.map_append, List.append_assoc]
      apply List.mem_append_right
      rcases List.mem_cons.1 hp with rfl | hp
      · simp
      · exact List.mem_append_left _ hp

section Unresolvable

def unresolvable (others : List (Location × Entry)) : Workshop Imports :=
  ⟨⟨⟨(["r"], .directory) :: (["a.py", "r"], .file (Utf8.encode "A\n")) ::
    (["b.py", "r"], .file (Utf8.encode "//#ref Missing.Thing\n")) :: others⟩, []⟩, .empty⟩

def earlierOutput : List (Location × Entry) :=
  [(["out"], .directory), (["analysis.json", "out"], .file (Utf8.encode "report")),
    (["scripts", "out"], .directory), (["b.py", "scripts", "out"], .file (Utf8.encode "B\n"))]

theorem runBuild_stops_rebuilt : (unresolvable earlierOutput).disk.Proper ∧
    (unresolvable earlierOutput).disk.tree.Slashless ∧
    (unresolvable earlierOutput).disk.tree.LinkFree ∧
    ∃ bs w₁ f t, discover (unresolvable earlierOutput).disk sampleRoot (Config.default []) =
        .ok (["a.py"] ++ "b.py" :: []) ∧
      buildScripts sampleChain sampleRoot ⟨.relative, ["out"]⟩ ["a.py"]
        (unresolvable earlierOutput) = .ok bs w₁ ∧
      prepareScript sampleChain w₁.disk (scriptPath sampleRoot "b.py") w₁.resolver =
        .error f t ∧
      runBuild sampleChain "now" sampleRoot ⟨.relative, ["out"]⟩ (Config.default [])
        (unresolvable earlierOutput) = .error f ⟨w₁.disk, t⟩ ∧
      w₁.disk.tree.get? ["analysis.json", "out"] = some (.file (Utf8.encode "report")) ∧
      w₁.disk.tree.get? ["b.py", "scripts", "out"] = some (.file (Utf8.encode "B\n")) := by
  have hproper : (unresolvable earlierOutput).disk.Proper :=
    ⟨Tree.proper_of_isProper (by decide +kernel), rfl⟩
  have hslashless : (unresolvable earlierOutput).disk.tree.Slashless :=
    Tree.slashless_of_isSlashless (by decide +kernel)
  have hfree : (unresolvable earlierOutput).disk.tree.LinkFree :=
    Tree.linkFree_of_isLinkFree (by decide +kernel)
  have hdiscover := sample_discover (d := (unresolvable earlierOutput).disk) (by rfl)
  have hrun : (buildScripts sampleChain sampleRoot ⟨.relative, ["out"]⟩ ["a.py"]).leaves
      (unresolvable earlierOutput) (fun w₁ => (prepareScript sampleChain w₁.disk
        (scriptPath sampleRoot "b.py")).rejects w₁.resolver) = true := by
    decide +kernel
  obtain ⟨bs, w₁, hbefore, hrejects⟩ := ok_of_leaves hrun
  obtain ⟨f, t, hprepare⟩ := rejected_of_rejects hrejects
  obtain ⟨hfails, -, -, hkept⟩ := runBuild_stops "now" hproper hslashless hfree hdiscover
    hbefore hprepare
  have hold : ∀ p ∈ reportPath ⟨.relative, ["out"]⟩ ::
      ("b.py" :: []).map (bodyPath ⟨.relative, ["out"]⟩), ∀ e,
      (unresolvable earlierOutput).disk.tree.get? ((unresolvable earlierOutput).disk.place p) =
        some e → w₁.disk.tree.get? ((unresolvable earlierOutput).disk.place p) = some e := by
    intro p hp e he
    rcases hkept p hp with hsame | ⟨hnone, -⟩
    · rw [hsame, he]
    · rw [he] at hnone
      cases hnone
  exact ⟨hproper, hslashless, hfree, bs, w₁, .rejected f, t, hdiscover, hbefore, hprepare, hfails,
    hold _ List.mem_cons_self _ rfl, hold _ (List.mem_cons_of_mem _ List.mem_cons_self) _ rfl⟩

def passingOutput : Path := ⟨.relative, ["out", "analysis.json", "..", "..", "out"]⟩

theorem unresolvable_passed : (unresolvable []).disk.tree.LinkFree ∧
    (∀ rel ∈ ["a.py", "b.py"], ∀ l e,
      (unresolvable []).disk.find (scriptPath sampleRoot rel) = .ok (l, e) →
        ¬ (unresolvable []).disk.place passingOutput <:+ l) ∧
    ∃ bs w₁ f t, discover (unresolvable []).disk sampleRoot (Config.default []) =
        .ok (["a.py"] ++ "b.py" :: []) ∧
      buildScripts sampleChain sampleRoot passingOutput ["a.py"] (unresolvable []) =
        .ok bs w₁ ∧
      prepareScript sampleChain w₁.disk (scriptPath sampleRoot "b.py") w₁.resolver =
        .error f t ∧
      runBuild sampleChain "now" sampleRoot passingOutput (Config.default [])
        (unresolvable []) = .error f ⟨w₁.disk, t⟩ ∧
      (unresolvable []).disk.find (reportPath passingOutput) = .error .noEntry ∧
      w₁.disk.find (reportPath passingOutput) = .ok (["analysis.json", "out"], .directory) := by
  have hfree : (unresolvable []).disk.tree.LinkFree :=
    Tree.linkFree_of_isLinkFree (by decide +kernel)
  have hdiscover := sample_discover (d := (unresolvable []).disk) (by rfl)
  have hrun : (buildScripts sampleChain sampleRoot passingOutput ["a.py"]).leaves
      (unresolvable []) (fun w₁ => (prepareScript sampleChain w₁.disk
        (scriptPath sampleRoot "b.py")).rejects w₁.resolver &&
        w₁.disk.findsDirectory (reportPath passingOutput) ["analysis.json", "out"]) = true := by
    decide +kernel
  obtain ⟨bs, w₁, hbefore, htest⟩ := ok_of_leaves hrun
  rw [Bool.and_eq_true] at htest
  obtain ⟨f, t, hprepare⟩ := rejected_of_rejects htest.1
  refine ⟨hfree, fun rel hrel l e hfind => ?_, bs, w₁, .rejected f, t, hdiscover, hbefore, hprepare,
    runBuild_of_error hdiscover hbefore hprepare, by rfl, Disk.findsDirectory_iff.1 htest.2⟩
  simp only [List.mem_cons, List.not_mem_nil, or_false] at hrel
  rcases hrel with rfl | rfl
  · cases hfind
    exact (by decide : ¬ ["out"] <:+ ["a.py", "r"])
  · cases hfind
    exact (by decide : ¬ ["out"] <:+ ["b.py", "r"])

end Unresolvable

end BuildScripts

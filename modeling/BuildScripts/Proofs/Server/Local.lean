import BuildScripts.Proofs.Artifact.Location
import BuildScripts.Proofs.Script.Analysis
import BuildScripts.Proofs.Script.Finds
import BuildScripts.Proofs.Server.Upload

namespace BuildScripts

theorem existingFile_of_limited {d : Disk} {inside : Path} {script : Option String}
    {token line file : String} (h : existingFile d (some inside) script token line = .ok file) :
    existingFile d none script token line = .ok file := by
  obtain ⟨path, hp, -, hf, rfl⟩ := existingFile_eq_ok_iff.1 h
  exact existingFile_eq_ok_iff.2 ⟨path, hp, rfl, hf, rfl⟩

namespace Server

variable {c : Config} {lib : Library}

theorem findsOn_configured (c : Config) (lib : Library) (d : Disk) :
    (resolverOf c lib).FindsOn d (.configured c.manifest lib) d := by
  intro name m file m' h
  rw [Resolver.configured]
  cases hl : c.manifest.lookup name with
  | some listed =>
    simp only [resolverOf, Resolver.manifest, hl] at h
    rw [Resolver.listedOr_of_listed hl]
    exact h
  | none =>
    cases hi : c.allowImports with
    | false =>
      simp only [resolverOf, Resolver.manifest, hl, hi] at h
      cases h
    | true =>
      simp only [resolverOf, Resolver.manifest, hl, hi, if_true] at h
      rw [Resolver.listedOr_of_unlisted hl]
      exact h

theorem chain_of_chainOf {d : Disk} {scriptsDir : Path} {chain : Chain Imports}
    (h : chainOf c lib d scriptsDir = .ok chain) :
    ∃ inside, chain = serverChain (resolverOf c lib) inside := by
  cases hr : d.resolve scriptsDir with
  | error f => simp [chainOf, hr, bind, Except.bind] at h
  | ok inside =>
    simp only [chainOf, hr, bind, Except.bind, pure, Except.pure, Except.ok.injEq] at h
    exact ⟨inside, h.symm⟩

/-- A text that the analyser of a server accepts is accepted with the same outcome by the local
analyser of the same configuration. -/
theorem analyseText_local_of_server {d₀ : Disk} {scriptsDir : Path} {chain : Chain Imports}
    (hc : chainOf c lib d₀ scriptsDir = .ok chain) (d : Disk) (text : String)
    (script : Option String) {m m' : Imports} {a : Analysis}
    (h : analyseText chain d text script m = .ok a m') :
    analyseText (localChain (.configured c.manifest lib)) d text script m = .ok a m' := by
  obtain ⟨inside, rfl⟩ := chain_of_chainOf hc
  exact analyseText_of_finds (some inside) none (findsOn_configured c lib d)
    (fun _ _ _ => existingFile_of_limited) h

theorem analyseText_local_of_server_listed :
    let c := { Sample.config with manifest := [("Lib", "/lib.dll")], allowImports := true }
    let d := (Sample.workshop [("b.csx", "")] []).disk
    let text := "//#ref Lib\n//#ref pkg.impl\n//#imp b.csx\nRun();"
    ∃ chain m, chainOf c .aliased d (.absolute ["uploads"]) = .ok chain ∧
      analyseText chain d text (some "/uploads/a.csx") .empty =
        .ok ⟨⟨some "/uploads/a.csx", ["/lib.dll", "/lib/impl.py"], ["/uploads/b.csx"], []⟩,
          ["Run();"]⟩ m ∧
      analyseText (localChain (.configured c.manifest .aliased)) d text (some "/uploads/a.csx")
        .empty = .ok ⟨⟨some "/uploads/a.csx", ["/lib.dll", "/lib/impl.py"], ["/uploads/b.csx"], []⟩,
          ["Run();"]⟩ m := by
  intro c d text
  let chain := serverChain (resolverOf c .aliased) (.absolute ["uploads"])
  have hc : chainOf c .aliased d (.absolute ["uploads"]) = .ok chain := by rfl
  obtain ⟨m, h⟩ := Attempt.ok_of_gives (x := analyseText chain d text (some "/uploads/a.csx"))
    (s := .empty) (a := ⟨⟨some "/uploads/a.csx", ["/lib.dll", "/lib/impl.py"], ["/uploads/b.csx"],
      []⟩, ["Run();"]⟩) (by decide +kernel)
  exact ⟨chain, m, hc, h, analyseText_local_of_server hc d text _ h⟩

end Server

end BuildScripts

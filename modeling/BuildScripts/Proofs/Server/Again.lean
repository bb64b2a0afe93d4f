import BuildScripts.Proofs.Disk.Directories
import BuildScripts.Proofs.Script.Files
import BuildScripts.Proofs.Server.Run

namespace BuildScripts.Server

open BuildScripts.Text

variable {σ : Type} {s : Server σ} {listed : Manifest} {inside : Path} {u : Submission}

theorem run_append (s : Server σ) (rs rs' : List Request) (w : Workshop σ) :
    s.run (rs ++ rs') w = s.run rs' (s.run rs w) := by
  induction rs generalizing w with
  | nil => rfl
  | cons r rs ih => exact ih _

theorem keep_again {d d' later : Disk} (hl : s.Lists listed inside) (hg : d.tree.Grounded)
    (h : s.keep u d = .ok () d') (hh : later.here = d'.here) (hgr : d'.tree.Grown later.tree) :
    ∃ d'', s.keep u later = .ok () d'' := by
  obtain ⟨d₁, l, hm, hn, ho, ht, rfl⟩ := keep_eq_ok_iff.1 h
  have hs := Disk.starts_of_isAbsolute (d := d) hl.isAbsolute
  have hmade := Disk.made_of_makeDirectories hg hs
  rw [Attempt.after_of_ok hm] at hmade
  have hplace := placeOf_starts (d := d₁) hl.isAbsolute u.fileName
  have hfill := Disk.filled_of_fill hmade.grounded hplace ho (Utf8.encode u.text)
  have hhere : later.here = d₁.here := hh.trans hfill.here
  have hthere := Disk.isDirectory_of_ways hhere (hfill.grown.trans hgr).toWays
    (Disk.isDirectory_of_makeDirectories hg hs hm)
  have hopen := Disk.openForWriting_of_fill hmade.grounded hplace ho hhere hgr
  exact ⟨_, keep_eq_ok_iff.2
    ⟨later, l, Disk.makeDirectories_of_isDirectory hthere, hn, hopen, ht, rfl⟩⟩

theorem handle_of_grown (hl : s.Lists listed inside) {r r' : Request} {w later : Workshop σ}
    (hg : w.disk.tree.Grounded) (hfree : w.disk.tree.LinkFree) (hu : uploadOf? r = some u)
    (hu' : uploadOf? r' = some u)
    (hkey : r'.header? "authorization" = r.header? "authorization")
    (h200 : (s.handle r w).1.status = 200) (hh : later.disk.here = (s.handle r w).2.disk.here)
    (hgr : (s.handle r w).2.disk.tree.Grown later.disk.tree) :
    (s.handle r' later).1 = (s.handle r w).1 := by
  obtain ⟨full, ys, d', hr, hy, hk, hrun⟩ := handle_eq_of_status hl hu h200
  have hpasses : s.authorizes (r'.header? "authorization") = true ∧
      isPlainName u.fileName = true := by
    rcases handle_cases hl hu w with ⟨-, -, hno⟩ | ⟨hp, -, -⟩
    · exact absurd h200 hno
    · obtain ⟨ha, hn, -⟩ := (passes_eq_true_iff hl).1 hp
      exact ⟨hkey ▸ ha, hn⟩
  rw [hrun] at hh hgr ⊢
  have hleaves := leaves_keep hl.isAbsolute hg (.of_linkFree s hfree)
    (isName_of_isPlainName (fileName_of_uploadOf hu) hpasses.2)
  rw [Attempt.after_of_ok hk] at hleaves
  have hgrown := hleaves.grown.trans hgr
  have hpaths : w.disk.SamePaths later.disk := fun p hp =>
    Disk.resolve_eq_of_linkFree hfree (hgrown.linkFree hfree) hp
  have hr' : later.disk.resolve (s.placeOf u.fileName) = .ok full :=
    (hpaths _ (placeOf_isAbsolute hl.isAbsolute _)).trans hr
  have hy' := yields_of_files hpaths ((Disk.resolve_eq_ok hr).2 ▸ Disk.isAbsolute_fullPath _ _)
    (fun p => Disk.isFile_of_grown hgrown hg) hy
  obtain ⟨d'', hk'⟩ := keep_again hl hg hk hh hgr
  rw [handle_upload hl hu', hpasses.1, hpasses.2, prepared_of_yields hr' hy', hk']
  exact congrArg (fun receipt : Receipt => Response.ofJson 200 receipt.toValue)
    (ofAnalysis_analysis hy' _ _)

/-- Whatever requests come between, a script that was answered well is answered in the same way when
it is handed over again. -/
theorem handle_again {c : Config} {lib : Library} {d₀ : Disk} {root : Path} {s : Server Imports}
    (hs : create c lib d₀ root = .ok s) (hi : c.allowImports = false) {w : Workshop Imports}
    (hg : w.disk.tree.Grounded) (hfree : w.disk.tree.LinkFree) {r r' : Request}
    (hu : uploadOf? r = some u) (hu' : uploadOf? r' = some u)
    (hkey : r'.header? "authorization" = r.header? "authorization") (earlier later : List Request)
    (h200 : (s.handle r (s.run earlier w)).1.status = 200) :
    (s.handle r' (s.run (earlier ++ r :: later) w)).1 = (s.handle r (s.run earlier w)).1 := by
  obtain ⟨inside, -, hl⟩ := lists_of_create hs hi
  have hbefore := leaves_run hl hg (.of_linkFree s hfree) earlier
  have hfree' := hbefore.grown.linkFree hfree
  have hnow := leaves_handle hl hbefore.grounded (.of_linkFree s hfree') r
  have hafter := leaves_run hl hnow.grounded (.of_linkFree s (hnow.grown.linkFree hfree')) later
  rw [run_append]
  exact handle_of_grown hl hbefore.grounded hfree' hu hu' hkey h200 hafter.here hafter.grown

theorem handle_again_overwritten :
    let w := Sample.workshop [] []
    let earlier := [Sample.request "a.csx" "\"Run();\""]
    let r := Sample.request "a.csx" "\"//#imp a.csx\\nGo();\""
    let later := [Sample.request "b.csx" "\"//#ass a.csx\"", Sample.request "a.csx" "\"Stop();\""]
    (Sample.server.handle r w).1.status = 422 ∧
      (Sample.server.handle r (Sample.server.run earlier w)).1.status = 200 ∧
      (Sample.server.handle r (Sample.server.run (earlier ++ r :: later) w)).1 =
        (Sample.server.handle r (Sample.server.run earlier w)).1 := by
  intro w earlier r later
  have h200 : (Sample.server.handle r (Sample.server.run earlier w)).1.status = 200 := by
    decide +kernel
  refine ⟨by decide +kernel, h200, handle_again Sample.create_config rfl
    (Tree.grounded_of_isGrounded (by decide +kernel))
    (Tree.linkFree_of_isLinkFree (by decide +kernel)) (u := ⟨"a.csx",
      "//#imp a.csx\nGo();".toList.map Char.toNat⟩) (by decide +kernel) (by decide +kernel) rfl
    earlier later h200⟩

end BuildScripts.Server

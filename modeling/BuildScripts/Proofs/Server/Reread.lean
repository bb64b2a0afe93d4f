import BuildScripts.Proofs.Script.Files
import BuildScripts.Proofs.Server.Upload
import BuildScripts.Proofs.Text.LineEnds

namespace BuildScripts

open BuildScripts.Text

namespace Server

variable {σ : Type}

def linesAt (d : Disk) (place : Path) (text : String) : List String :=
  match d.isFile place with
  | .ok true => (physicalLines text).flatMap cutAtReturns
  | _ => []

/-- The script at its place passes analysis as the receipt tells. -/
def Rereads (s : Server σ) (w : Workshop σ) (u : Submission) (receipt : Receipt) : Prop :=
  ∃ a r, prepareScript s.chain w.disk (s.placeOf u.fileName) w.resolver = .ok a r ∧
    Receipt.ofAnalysis u.fileName (s.placeOf u.fileName) a = receipt

section Kept

variable {s : Server σ} {listed : Manifest} {inside : Path} {u : Submission} {d d' : Disk}

theorem readText_of_keep (hl : s.Lists listed inside) (hg : d.tree.Grounded)
    (h : s.keep u d = .ok () d') : ∃ text, d'.readText (s.placeOf u.fileName) = .ok text ∧
      physicalLines text = linesAt d' (s.placeOf u.fileName) u.text := by
  obtain ⟨d₁, l, hm, hn, ho, -, rfl⟩ := keep_eq_ok_iff.1 h
  have hmade := Disk.made_of_makeDirectories hg (Disk.starts_of_isAbsolute hl.isAbsolute)
  rw [Attempt.after_of_ok hm] at hmade
  have hp := placeOf_starts (d := d₁) hl.isAbsolute u.fileName
  refine ⟨_, Disk.readText_of_fill hmade.grounded hp hn ho, ?_⟩
  rw [linesAt, Disk.isFile_of_fill hmade.grounded hp hn ho]
  cases d₁.tree.get? l with
  | none => exact physicalLines_unifyLineEnds _
  | some e =>
    cases e with
    | sink => exact physicalLines_empty
    | _ => exact physicalLines_unifyLineEnds _

theorem rereads_of_readText {w : Workshop σ} (hl : s.Lists listed inside) {text : String}
    (h : w.disk.readText (s.placeOf u.fileName) = .ok text) (receipt : Receipt) :
    s.Rereads w u receipt ↔ ∃ full ys, w.disk.resolve (s.placeOf u.fileName) = .ok full ∧
      (listed.setting inside w.disk full).yields (physicalLines text) = .ok ys ∧
        receiptOf u.fileName (s.placeOf u.fileName) ys = receipt := by
  rw [Rereads, hl.chain]
  simp only [prepareScript_eq, h]
  constructor
  · rintro ⟨a, _, ha, rfl⟩
    cases hp : listed.prepared inside w.disk text (s.placeOf u.fileName) with
    | error f => simp [hp] at ha
    | ok b =>
      obtain ⟨full, ys, hr, hy, rfl⟩ := prepared_eq_ok_iff.1 hp
      rw [hp] at ha
      cases ha
      exact ⟨full, ys, hr, hy, (ofAnalysis_analysis hy _ _).symm⟩
  · rintro ⟨full, ys, hr, hy, rfl⟩
    exact ⟨_, _, by rw [prepared_of_yields hr hy]; rfl, ofAnalysis_analysis hy _ _⟩

theorem linesAt_of_plain {place : Path} {text : String} (hf : d.isFile place = .ok true)
    (h : ∀ line ∈ physicalLines text, '\r' ∉ line.toList) :
    linesAt d place text = physicalLines text := by
  rw [linesAt, hf]
  calc (physicalLines text).flatMap cutAtReturns
      = (physicalLines text).flatMap fun line => [line] :=
        List.flatMap_congr fun line hm => cutAtReturns_of_not_mem (h line hm)
    _ = physicalLines text := List.flatMap_singleton' _

theorem samePaths_of_keep (hl : s.Lists listed inside) (hg : d.tree.Grounded)
    (hd : d.isDirectory s.scriptsDir = .ok true ∨ d.tree.LinkFree) (h : s.keep u d = .ok () d') :
    d.SamePaths d' ∧
      ∀ p : Path, p.isAbsolute = true → d.isFile p = .ok true → d'.isFile p = .ok true := by
  obtain ⟨d₁, l, hm, hn, ho, -, rfl⟩ := keep_eq_ok_iff.1 h
  have hmade := Disk.made_of_makeDirectories hg (Disk.starts_of_isAbsolute hl.isAbsolute)
  rw [Attempt.after_of_ok hm] at hmade
  have hfill := Disk.filled_of_fill hmade.grounded (placeOf_starts hl.isAbsolute u.fileName) ho
    (Utf8.encode u.text)
  have hgrown := hmade.grown.trans hfill.grown
  refine ⟨fun p hp => ?_, fun p hp => Disk.isFile_of_grown hgrown hg hp⟩
  rcases hd with hd | hfree
  · rw [Disk.makeDirectories_of_isDirectory hd] at hm
    cases hm
    exact hfill.sameWays.resolve_eq p
  · exact Disk.resolve_eq_of_linkFree hfree (hgrown.linkFree hfree) hp

end Kept

/-- When the script that an upload has stored passes analysis again as the upload was told. -/
theorem rereads_iff {c : Config} {lib : Library} {d₀ : Disk} {root : Path} {s : Server Imports}
    (hs : create c lib d₀ root = .ok s) (hi : c.allowImports = false) {w : Workshop Imports}
    (hg : w.disk.tree.Grounded) {r : Request} {u : Submission} (hu : uploadOf? r = some u)
    (h200 : (s.handle r w).1.status = 200) :
    ∃ inside receipt w', d₀.resolve s.scriptsDir = .ok inside ∧
      s.handle r w = (.ofJson 200 receipt.toValue, w') ∧
      (s.Rereads w' u receipt ↔ ∃ full ys, w'.disk.resolve (s.placeOf u.fileName) = .ok full ∧
        (c.manifest.setting inside w'.disk full).yields
          (linesAt w'.disk (s.placeOf u.fileName) u.text) = .ok ys ∧
        receiptOf u.fileName (s.placeOf u.fileName) ys = receipt) ∧
      (w'.disk.isFile (s.placeOf u.fileName) = .ok true →
        (∀ line ∈ physicalLines u.text, '\r' ∉ line.toList) →
        w.disk.isDirectory s.scriptsDir = .ok true ∨ w.disk.tree.LinkFree →
        s.Rereads w' u receipt) := by
  obtain ⟨inside, hin, hl⟩ := lists_of_create hs hi
  obtain ⟨full, ys, d', hr, hy, hk, hrun⟩ := handle_eq_of_status hl hu h200
  obtain ⟨text, hread, hlines⟩ := readText_of_keep hl hg hk
  have hiff := rereads_of_readText (w := { w with disk := d' }) hl hread
    (receiptOf u.fileName (s.placeOf u.fileName) ys)
  rw [hlines] at hiff
  refine ⟨inside, _, _, hin, hrun, hiff, fun hfile hplain hd => hiff.2 ?_⟩
  obtain ⟨hpaths, hfiles⟩ := samePaths_of_keep hl hg hd hk
  refine ⟨full, ys, ?_, ?_, rfl⟩
  · rw [hpaths _ (placeOf_isAbsolute hl.isAbsolute _), hr]
  · rw [linesAt_of_plain hfile hplain]
    exact yields_of_files hpaths ((Disk.resolve_eq_ok hr).2 ▸ Disk.isAbsolute_fullPath _ _) hfiles hy

theorem rereads_iff_hidden :
    ∃ receipt w', Sample.server.handle (Sample.request "a.csx" "\"Run();\\r//#ref Missing\"")
        (Sample.workshop [] []) = (.ofJson 200 receipt.toValue, w') ∧
      ¬ Sample.server.Rereads w' ⟨"a.csx", "Run();\r//#ref Missing".toList.map Char.toNat⟩
        receipt := by
  obtain ⟨inside, receipt, w', -, hrun, hiff, -⟩ := rereads_iff Sample.create_config rfl
    (w := Sample.workshop [] []) (Tree.grounded_of_isGrounded (by decide +kernel))
    (r := Sample.request "a.csx" "\"Run();\\r//#ref Missing\"")
    (u := ⟨"a.csx", "Run();\r//#ref Missing".toList.map Char.toNat⟩) (by decide +kernel)
    (by decide +kernel)
  refine ⟨receipt, w', hrun, fun hr => ?_⟩
  obtain ⟨full, ys, -, hy, -⟩ := hiff.1 hr
  have hline : "//#ref Missing" ∈ linesAt w'.disk (Sample.server.placeOf "a.csx")
      "Run();\r//#ref Missing" := by
    rw [show w' = (Sample.server.handle (Sample.request "a.csx" "\"Run();\\r//#ref Missing\"")
      (Sample.workshop [] [])).2 by rw [hrun]]
    decide +kernel
  obtain ⟨y, hy'⟩ := Setting.yields_isOk_iff.1 ⟨ys, hy⟩ _ hline
  have hp : Directive.payload "//#ref Missing" = some "Missing" := by decide +kernel
  have hm : Directive.reference.marks "//#ref Missing" = true := by decide +kernel
  rw [Setting.yield_of_marks hm, hp] at hy'
  cases hy'

end Server

end BuildScripts

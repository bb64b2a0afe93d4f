import BuildScripts.Proofs.Disk.FullPath
import BuildScripts.Proofs.Script.Files
import BuildScripts.Proofs.Script.Reading
import BuildScripts.Proofs.Server.Upload

namespace BuildScripts

open BuildScripts.Text

structure Disk.NamesInside (d : Disk) (inside : Path) (file : String) : Prop where
  isAbsolute : (Path.ofText file).isAbsolute = true
  below : ∃ full, d.resolve (.ofText file) = .ok full ∧ full.isBelow inside = true
  isFile : d.isFile (.ofText file) = .ok true

def Disk.StandsInside (d : Disk) (inside : Path) (file : String) : Prop :=
  ∃ l bytes, d.find (.ofText file) = .ok (l, .file bytes) ∧
    (Path.absolute l.reverse).isBelow inside = true

section File

variable {d : Disk} {inside full : Path} {token line file : String}

theorem Disk.NamesInside.standsInside (h : d.NamesInside inside file) (hg : d.tree.Grounded)
    (hnear : d.tree.LinksNear) : d.StandsInside inside file := by
  obtain ⟨-, l, e, hfind, he⟩ := Disk.testEntry_eq_true_iff.1 h.isFile
  obtain ⟨full, hr, hbelow⟩ := h.below
  obtain ⟨-, rfl⟩ := Disk.resolve_eq_ok hr
  rw [Disk.fullPath_of_find hg hnear h.isAbsolute hfind] at hbelow
  cases e with
  | file bytes => exact ⟨l, bytes, hfind, hbelow⟩
  | _ => cases he

theorem ofText_toText_of_scriptRelative (hf : full.isAbsolute = true) {path : Path}
    (h : scriptRelative d (some full.toText) token = .ok path) : Path.ofText path.toText = path := by
  -- An absolute token has been read from a text; any other leads to a full path.
  refine Path.ofText_toText fun part hm => ?_
  rw [scriptRelative_eq] at h
  split at h
  · cases h
    exact Path.isPart_of_mem_ofText hm
  · rename_i hrelative
    obtain ⟨-, rfl⟩ := Disk.resolve_eq_ok h
    refine Disk.isPart_of_mem_fullPath (isAbsolute_base_join hf _) (fun part hm => ?_) part hm
    have hanchor : (Path.ofText token).anchor = .relative := by
      simpa [Path.isAbsolute] using hrelative
    rw [Path.join, hanchor, baseOf_full d hf] at hm
    rcases List.mem_append.1 hm with hm | hm
    · exact (Path.isPart_of_mem_ofText (List.dropLast_subset _ hm)).slashless
    · exact (Path.isPart_of_mem_ofText hm).slashless

theorem namesInside_of_existingFile (hf : full.isAbsolute = true)
    (h : existingFile d (some inside) (some full.toText) token line = .ok file) :
    d.NamesInside inside file := by
  obtain ⟨path, hp, hb, hfile, rfl⟩ := existingFile_eq_ok_iff.1 h
  obtain ⟨target, hr, hbelow⟩ := checkBelow_eq_ok_iff.1 hb
  have habs := isAbsolute_of_scriptRelative hp
  -- The checks looked at the path itself, and the receipt reports its text.
  rw [← ofText_toText_of_scriptRelative hf hp] at hr hfile habs
  exact ⟨habs, ⟨target, hr, hbelow⟩, hfile⟩

end File

namespace Setting

variable {c : Setting} {line file : String} {lines : List String} {ys : List Yield}

theorem exists_line_of_mem_yields (h : c.yields lines = .ok ys) {y : Yield} (hy : y ∈ ys) :
    ∃ line ∈ lines, c.yield line = .ok y := by
  have hall := yields_eq_ok_iff.1 h
  clear h
  induction hall with
  | nil => cases hy
  | @cons line y' lines ys hline _ ih =>
    rcases List.mem_cons.1 hy with rfl | hy
    · exact ⟨line, List.mem_cons_self, hline⟩
    · obtain ⟨line', hm, hline'⟩ := ih hy
      exact ⟨line', List.mem_cons_of_mem _ hm, hline'⟩

theorem reference_of_yield (h : c.yield line = .ok (.reference file)) :
    (∃ token, referenceName? line = some token ∧ c.answers token = .ok file) ∨
      ∃ token, c.fileOf line token = .ok file := by
  cases hd : Directive.of? line with
  | none => simp [yield_of_body hd] at h
  | some dir =>
    cases gives_of_yield (Directive.of?_eq_some_iff.1 hd) h with
    | reference hm hp hf => exact .inl ⟨_, by rw [referenceName?, if_pos hm, hp], hf⟩
    | assembly _ _ hf => exact .inr ⟨_, hf⟩

theorem sourceFile_of_yield (h : c.yield line = .ok (.sourceFile file)) :
    ∃ token, c.fileOf line token = .ok file := by
  cases hd : Directive.of? line with
  | none => simp [yield_of_body hd] at h
  | some dir =>
    cases gives_of_yield (Directive.of?_eq_some_iff.1 hd) h with
    | sourceFile _ _ hf => exact ⟨_, hf⟩

end Setting

namespace Server

def Listed (listed : Manifest) (text file : String) : Prop :=
  ∃ line ∈ physicalLines text, ∃ token, referenceName? line = some token ∧
    listed.lookup token = some file

section Receipt

variable {listed : Manifest} {inside full place : Path} {d : Disk} {text : String}
  {ys : List Yield}

theorem reference_of_yields (hf : full.isAbsolute = true)
    (hy : (listed.setting inside d full).yields (physicalLines text) = .ok ys) (fileName : String) :
    ∀ file ∈ (receiptOf fileName place ys).references,
      Listed listed text file ∨ d.NamesInside inside file := by
  intro file hm
  obtain ⟨y, hmem, hfile⟩ := List.mem_filterMap.1 hm
  obtain ⟨line, hline, hyield⟩ := Setting.exists_line_of_mem_yields hy hmem
  cases y with
  | reference file' =>
    cases hfile
    rcases Setting.reference_of_yield hyield with ⟨token, hname, hanswer⟩ | ⟨token, hfileOf⟩
    · have hlookup : listed.lookup token = some file := by
        change listed.answers token = _ at hanswer
        cases hl : listed.lookup token <;> simp_all [Manifest.answers]
      exact .inl ⟨line, hline, token, hname, hlookup⟩
    · exact .inr (namesInside_of_existingFile hf hfileOf)
  | _ => cases hfile

theorem sourceFile_of_yields (hf : full.isAbsolute = true)
    (hy : (listed.setting inside d full).yields (physicalLines text) = .ok ys) (fileName : String) :
    ∀ file ∈ (receiptOf fileName place ys).sourceFiles, d.NamesInside inside file := by
  intro file hm
  obtain ⟨y, hmem, hfile⟩ := List.mem_filterMap.1 hm
  obtain ⟨line, hline, hyield⟩ := Setting.exists_line_of_mem_yields hy hmem
  cases y with
  | sourceFile file' =>
    cases hfile
    obtain ⟨token, hfileOf⟩ := Setting.sourceFile_of_yield hyield
    exact namesInside_of_existingFile hf hfileOf
  | _ => cases hfile

end Receipt

theorem resolver_handle {σ : Type} {s : Server σ} {listed : Manifest} {inside : Path}
    (hl : s.Lists listed inside) (r : Request) (w : Workshop σ) :
    (s.handle r w).2.resolver = w.resolver := by
  cases hu : uploadOf? r with
  | none => rw [(handle_of_no_upload hu s s rfl w w).1]
  | some u =>
    rw [handle_upload hl hu]
    split
    · rfl
    split
    · rfl
    split
    · rfl
    split <;> rfl

/-- A server without imports imports nothing. The files of a receipt are listed, or their names lead
to files whose full paths lie in the scripts directory; they stand there, if every link can be looked
up under its own full path. -/
theorem upload_confined {c : Config} {lib : Library} {d₀ : Disk} {root : Path} {s : Server Imports}
    (h : create c lib d₀ root = .ok s) (hi : c.allowImports = false) :
    ∃ inside, d₀.resolve s.scriptsDir = .ok inside ∧
      (d₀.tree.Grounded → d₀.tree.LinksNear → ∀ l e, d₀.find s.scriptsDir = .ok (l, e) →
        inside = .absolute l.reverse) ∧
      ∀ (r : Request) (w : Workshop Imports), (s.handle r w).2.resolver = w.resolver ∧
        ∀ u, uploadOf? r = some u → (s.handle r w).1.status = 200 →
          ∃ receipt : Receipt, (s.handle r w).1 = .ofJson 200 receipt.toValue ∧
            (∀ file ∈ receipt.references,
              Listed c.manifest u.text file ∨ w.disk.NamesInside inside file) ∧
            (∀ file ∈ receipt.sourceFiles, w.disk.NamesInside inside file) ∧
            (w.disk.tree.Grounded → w.disk.tree.LinksNear →
              ∀ file, w.disk.NamesInside inside file → w.disk.StandsInside inside file) := by
  obtain ⟨inside, hin, hl⟩ := lists_of_create h hi
  refine ⟨inside, hin, fun hg hnear l e hfind => ?_, fun r w => ⟨resolver_handle hl r w, ?_⟩⟩
  · rw [(Disk.resolve_eq_ok hin).2, Disk.fullPath_of_find hg hnear hl.isAbsolute hfind]
  · intro u hu h200
    obtain ⟨full, ys, d', hr, hy, -, hrun⟩ := handle_eq_of_status hl hu h200
    have hf : full.isAbsolute = true := (Disk.resolve_eq_ok hr).2 ▸ Disk.isAbsolute_fullPath _ _
    refine ⟨receiptOf u.fileName (s.placeOf u.fileName) ys, by rw [hrun], ?_, ?_, ?_⟩
    · exact reference_of_yields hf hy u.fileName
    · exact sourceFile_of_yields hf hy u.fileName
    · exact fun hg hnear file hnames => hnames.standsInside hg hnear

def Sample.linked : Workshop Imports :=
  ⟨⟨⟨[(["uploads"], .directory), (["data", "uploads"], .directory),
    (["x", "data", "uploads"], .file (Utf8.encode "x")), (["lib", "uploads"], .link "data")]⟩, []⟩,
    .empty⟩

theorem upload_confined_linked : ∃ receipt : Receipt,
    (Sample.server.handle (Sample.request "a.csx" "\"//#ass /uploads/lib/x\"") Sample.linked).1 =
      .ofJson 200 receipt.toValue ∧
    ∀ file ∈ receipt.references, Sample.linked.disk.StandsInside (.absolute ["uploads"]) file := by
  obtain ⟨inside, hin, -, hall⟩ := upload_confined Sample.create_config rfl
  have hinside : (Sample.workshop [] []).disk.resolve (.absolute ["uploads"]) =
    .ok (.absolute ["uploads"]) := rfl
  obtain rfl : inside = .absolute ["uploads"] := Except.ok.inj (hin.symm.trans hinside)
  obtain ⟨-, hupload⟩ := hall (Sample.request "a.csx" "\"//#ass /uploads/lib/x\"") Sample.linked
  obtain ⟨receipt, hanswer, hreferences, -, hstands⟩ :=
    hupload ⟨"a.csx", "//#ass /uploads/lib/x".toList.map Char.toNat⟩ (by decide +kernel)
      (by decide +kernel)
  refine ⟨receipt, hanswer, fun file hm => ?_⟩
  refine hstands (Tree.grounded_of_isGrounded (by decide +kernel))
    (Tree.linksNear_of_isLinksNear (by decide +kernel)) file ?_
  rcases hreferences file hm with ⟨line, -, token, -, hlisted⟩ | hnames
  · cases hlisted
  · exact hnames

end Server

end BuildScripts

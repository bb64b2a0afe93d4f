import BuildScripts.Proofs.Script.Scan
import BuildScripts.Script.Prepared

namespace BuildScripts

open BuildScripts.Text

variable {σ : Type}

def Manifest.setting (listed : Manifest) (inside : Path) (d : Disk) (full : Path) : Setting :=
  ⟨listed.answers, d, some inside, some full.toText⟩

def Manifest.prepared (listed : Manifest) (inside : Path) (d : Disk) (text : String) (p : Path) :
    Except Fault Analysis :=
  match d.resolve p with
  | .error f => .error f
  | .ok full =>
    match (listed.setting inside d full).yields (physicalLines text) with
    | .ok ys => .ok ((listed.setting inside d full).analysis (physicalLines text) ys)
    | .error f => .error (rejecting p text f)

section Prepared

variable {listed : Manifest} {inside full : Path} {d : Disk} {text : String} {p : Path}

theorem prepared_of_yields (hr : d.resolve p = .ok full) {ys : List Yield}
    (hy : (listed.setting inside d full).yields (physicalLines text) = .ok ys) :
    listed.prepared inside d text p =
      .ok ((listed.setting inside d full).analysis (physicalLines text) ys) := by
  simp only [Manifest.prepared, hr, hy]

theorem prepared_of_fault (hr : d.resolve p = .ok full) {f : Fault}
    (hy : (listed.setting inside d full).yields (physicalLines text) = .error f) :
    listed.prepared inside d text p = .error (rejecting p text f) := by
  simp only [Manifest.prepared, hr, hy]

theorem prepared_eq_ok_iff {a : Analysis} : listed.prepared inside d text p = .ok a ↔
    ∃ full ys, d.resolve p = .ok full ∧
      (listed.setting inside d full).yields (physicalLines text) = .ok ys ∧
        a = (listed.setting inside d full).analysis (physicalLines text) ys := by
  cases hr : d.resolve p with
  | error f => simp [Manifest.prepared, hr]
  | ok full =>
    cases hy : (listed.setting inside d full).yields (physicalLines text) with
    | error f => simp [prepared_of_fault hr hy, hy]
    | ok ys => simp [prepared_of_yields hr hy, hy, eq_comm]

theorem prepareText_eq (listed : Manifest) (inside : Path) (d : Disk) (text : String) (p : Path)
    (s : σ) : prepareText (serverChain (.manifest listed none) inside) d text p s =
      Attempt.ofExcept (listed.prepared inside d text p) s := by
  rw [prepareText]
  cases hr : d.resolve p with
  | error f =>
    rw [Attempt.ofExcept_bind_error rfl, Manifest.prepared, hr]
    rfl
  | ok full =>
    rw [Attempt.ofExcept_bind_ok rfl]
    obtain ⟨_, rfl, hrun⟩ := analyseLines_eq (c := listed.setting inside d full)
      (Resolver.answers_manifest listed) (fun _ => rfl) (fun h h' => h.trans h')
      (physicalLines text) s
    change analyseText (serverChain (.manifest listed none) inside) d text (some full.toText) s = _
      at hrun
    rw [Attempt.mapFault, hrun]
    cases hy : (listed.setting inside d full).yields (physicalLines text) with
    | error f => rw [prepared_of_fault hr hy]; rfl
    | ok ys => rw [prepared_of_yields hr hy]; rfl

theorem prepareScript_eq (listed : Manifest) (inside : Path) (d : Disk) (p : Path) (s : σ) :
    prepareScript (serverChain (.manifest listed none) inside) d p s =
      match d.readText p with
      | .error f => .error f s
      | .ok text => Attempt.ofExcept (listed.prepared inside d text p) s := by
  rw [prepareScript]
  cases d.readText p with
  | error f => rw [Attempt.ofExcept_bind_error rfl]
  | ok text => rw [Attempt.ofExcept_bind_ok rfl, prepareText_eq]

end Prepared

end BuildScripts

import BuildScripts.Proofs.Script.Repeat

namespace BuildScripts

open Attempt
open BuildScripts.Text

variable {σ : Type} {r r' : Resolver σ} {s t : σ}

def Resolver.FindsOn (r : Resolver σ) (d : Disk) (r' : Resolver σ) (d' : Disk) : Prop :=
  ∀ name s file t, r.resolve d name s = .ok file t → r'.resolve d' name s = .ok file t

namespace Setting

variable {c c' : Setting} {line : String} {y : Yield}

def KeepsFiles (c c' : Setting) : Prop :=
  ∀ line token file, c.fileOf line token = .ok file → c'.fileOf line token = .ok file

theorem yield_of_keepsFiles (hf : c.KeepsFiles c') (hn : referenceName? line = none)
    (h : c.yield line = .ok y) : c'.yield line = .ok y := by
  cases hd : Directive.of? line with
  | none => rwa [yield_of_body hd] at h ⊢
  | some dir =>
    have hm := Directive.of?_eq_some_iff.1 hd
    rw [yield_of_marks hm] at h ⊢
    cases hp : Directive.payload line with
    | none => rwa [hp] at h
    | some token =>
      simp only [hp] at h ⊢
      cases dir with
      | reference => simp [referenceName?, hm, hp] at hn
      | package => exact h
      | assembly =>
        obtain ⟨file, hfile, hy⟩ := map_eq_ok.1 h
        exact map_eq_ok.2 ⟨file, hf line token file hfile, hy⟩
      | sourceFile =>
        obtain ⟨file, hfile, hy⟩ := map_eq_ok.1 h
        exact map_eq_ok.2 ⟨file, hf line token file hfile, hy⟩

theorem read_of_finds (hr : r.FindsOn c.disk r' c'.disk) (hf : c.KeepsFiles c')
    (h : c.read r line s = .ok y t) : c'.read r' line s = .ok y t := by
  cases hn : referenceName? line with
  | none =>
    obtain ⟨hy, rfl⟩ := (read_eq_ok_of_other hn).1 h
    exact (read_eq_ok_of_other hn).2 ⟨yield_of_keepsFiles hf hn hy, rfl⟩
  | some name =>
    obtain ⟨file, hfile, rfl⟩ := (read_eq_ok_of_reference hn).1 h
    exact (read_eq_ok_of_reference hn).2 ⟨file, hr name s file t hfile, rfl⟩

theorem reads_of_finds (hr : r.FindsOn c.disk r' c'.disk) (hf : c.KeepsFiles c')
    {lines : List String} {ys : List Yield} (h : lines.mapM (c.read r) s = .ok ys t) :
    lines.mapM (c'.read r') s = .ok ys t := by
  induction lines generalizing s ys with
  | nil => exact h
  | cons line lines ih =>
    obtain ⟨y, rest, u, hy, hrest, rfl⟩ := mapM_cons_eq_ok.1 h
    exact mapM_cons_eq_ok.2 ⟨y, rest, u, read_of_finds hr hf hy, ih hrest, rfl⟩

end Setting

section Analysis

variable {d d' : Disk} {text : String} {script : Option String} {a : Analysis}

theorem analyseText_of_finds (root root' : Option Path) (hr : r.FindsOn d r' d')
    (hf : ∀ token line file, existingFile d root script token line = .ok file →
      existingFile d' root' script token line = .ok file)
    (h : analyseText (chainOf r root Directive.all) d text script s = .ok a t) :
    analyseText (chainOf r' root' Directive.all) d' text script s = .ok a t := by
  let c : Setting := ⟨Manifest.answers [], d, root, script⟩
  let c' : Setting := ⟨Manifest.answers [], d', root', script⟩
  have hreads := analyseLines_eq_reads r c (physicalLines text) s
  have hreads' := analyseLines_eq_reads r' c' (physicalLines text) s
  change analyseText (chainOf r root Directive.all) d text script s = _ at hreads
  change analyseText (chainOf r' root' Directive.all) d' text script s = _ at hreads'
  rw [h] at hreads
  cases hy : (physicalLines text).mapM (c.read r) s with
  | error f u =>
    rw [hy] at hreads
    cases hreads
  | ok ys u =>
    rw [hy] at hreads
    cases hreads
    have hkeeps : c.KeepsFiles c' := fun line token file => hf token line file
    have hy' : (physicalLines text).mapM (c'.read r') s = .ok ys t :=
      Setting.reads_of_finds hr hkeeps hy
    rw [hreads', hy']
    rfl

end Analysis

end BuildScripts

import BuildScripts.Proofs.Artifact.Calm

namespace BuildScripts

open Attempt

def SaysUnresolvable (token : String) (f : Fault) : Prop :=
  ∃ reason, f = .unresolvable ⟨token, none, reason⟩

namespace Interpreter

variable {σ ω α : Type} {I : Interpreter σ ω} {d : Disk} {token : String} {s t : σ} {f : Fault}
  {S : σ → Prop} {O M N F : ω → Prop} {P : α → Prop} {x base reached : ω}

theorem escapes_resolve_iff : I.resolve d token s = .error f t ∧ ¬ SaysUnresolvable token f ↔
    (Qualified token ∧ I.Leaks d token s f t) ∧ ¬ SaysUnresolvable token f := by
  constructor
  · rintro ⟨h, hf⟩
    cases resolve_eq_iff.1 h with
    | leaks hq h => exact ⟨⟨hq, h⟩, hf⟩
    | _ => exact absurd ⟨_, rfl⟩ hf
  · rintro ⟨⟨hq, h⟩, hf⟩
    exact ⟨h.run hq, hf⟩

section Tame

abbrev LooksUp (S : σ → Prop) (token : String) (x : Attempt σ α) (P : α → Prop) : Prop :=
  Runs S (SaysUnresolvable token) x P

theorem looksUp_unresolvable (reason : String) :
    LooksUp S token (unresolvable token reason : Attempt σ α) P :=
  .throw ⟨reason, rfl⟩

theorem looksUp_of_never {y : Attempt σ α} (h : Never S y P) : LooksUp S token y P :=
  h.mono fun _ => False.elim

variable (hI : I.Tame d S O M N F)
include hI

theorem looksUp_importFailed (name : String) (raised : Fault) :
    LooksUp S token (I.importFailed token name raised : Attempt σ α) P := by
  rw [importFailed]
  refine (hI.shown raised).catching.bind fun result hresult => ?_
  cases result with
  | ok text => exact looksUp_unresolvable _
  | error other => exact hresult.elim

theorem looksUp_longest (parts dropped : List String) :
    LooksUp S token (I.longest token parts dropped) fun found => M found.module := by
  induction parts generalizing dropped with
  | nil => exact looksUp_unresolvable _
  | cons last before ih =>
    rw [longest]
    refine (hI.importModule _ (hI.text _)).catching.bind fun result hresult => ?_
    cases result with
    | ok module => exact .pure hresult
    | error raised =>
      replace hresult : raised.isException = true := hresult
      simp only [hresult, if_true]
      split
      · exact ih _
      · exact looksUp_importFailed hI _ raised

theorem looksUp_follow (names : List String) (hx : O x) :
    LooksUp S token (I.follow token x names) O := by
  induction names generalizing x with
  | nil => exact .pure hx
  | cons name rest ih =>
    rw [follow]
    refine (hI.lookUp x name hx).catching.bind fun result hresult => ?_
    cases result with
    | ok next => exact ih hresult
    | error raised =>
      replace hresult : raised.isException = true := hresult
      simp only [hresult, if_true]
      split
      · exact looksUp_unresolvable _
      · refine (looksUp_of_never (hI.shown raised)).bind fun text _ => ?_
        exact looksUp_unresolvable _

omit hI in
theorem runs_lookUp? {name : String} {Q : ω → Prop}
    (h : Runs S (·.isAttributeError = true) (I.lookUp x name) Q) :
    Never S (I.lookUp? x name) fun found => ∀ y ∈ found, Q y := by
  intro s hs
  have hrun := h s hs
  cases hx : I.lookUp x name s with
  | ok y t =>
    rw [hx] at hrun
    rw [(Answers.found hx).run]
    refine ⟨fun z hz => ?_, hrun.2⟩
    cases hz
    exact hrun.1
  | error raised t =>
    rw [hx] at hrun
    rw [(Answers.missing hx hrun.1).run]
    refine ⟨fun z hz => ?_, hrun.2⟩
    cases hz

theorem runs_definingName (hb : M base) (hr : O reached) (hno : ¬ M reached) :
    Never S (I.definingName base reached) N := by
  rw [definingName]
  refine (runs_lookUp? (hI.reported reached hr hno)).bind fun found hfound => ?_
  cases found with
  | none => exact hI.named base hb
  | some name =>
    have hname := hfound name rfl
    refine (hI.isTrue name (.inl hname)).bind fun yes _ => ?_
    cases yes with
    | false => exact hI.named base hb
    | true => exact .pure hname

theorem runs_moduleNamed {name : ω} (hb : M base) (hn : N name) :
    Never S (I.moduleNamed base name) M := by
  rw [moduleNamed]
  refine (hI.loaded? name hn).bind fun found hfound => ?_
  cases found with
  | some module => exact .pure (hfound module rfl)
  | none =>
    intro s hs
    have hrun := hI.importModule name hn s hs
    cases hx : I.importModule name s with
    | ok module t =>
      rw [hx] at hrun
      dsimp only
      rw [tryCatch_of_ok hx]
      exact hrun
    | error raised t =>
      rw [hx] at hrun
      dsimp only
      rw [tryCatch_of_error hx, if_pos hrun.1]
      exact ⟨hb, hrun.2⟩

theorem runs_definingModule (hb : M base) (hr : O reached) :
    Never S (I.definingModule base reached) M := by
  rw [definingModule]
  refine (hI.isModule reached hr).bind fun is his => ?_
  cases is with
  | true => exact .pure (his.1 rfl)
  | false =>
    have hno : ¬ M reached := fun h => Bool.false_ne_true (his.2 h)
    exact (runs_definingName hI hb hr hno).bind fun name hn => runs_moduleNamed hI hb hn

theorem looksUp_location (hx : M x) : LooksUp S token (I.location d x) fun _ => True := by
  rw [location]
  refine (looksUp_of_never (runs_lookUp? (hI.file x hx))).bind fun found hfound => ?_
  cases found with
  | none => exact .pure trivial
  | some file =>
    have hfile := hfound file rfl
    refine (looksUp_of_never (hI.isTrue file (.inr hfile))).bind fun yes _ => ?_
    cases yes with
    | false => exact .pure trivial
    | true =>
      refine (looksUp_of_never (hI.pathText file hfile)).bind fun text hfull => ?_
      obtain ⟨full, hfull⟩ := hfull
      rw [hfull]
      exact .pure trivial

theorem looksUp_resolve (token : String) :
    LooksUp S token (I.resolve d token) fun _ => True := by
  rw [resolve]
  split
  · refine (looksUp_longest hI _ _).bind fun found hfound => ?_
    refine (looksUp_follow hI _ (hI.object _ hfound)).bind fun reached hreached => ?_
    refine (looksUp_of_never (runs_definingModule hI hfound hreached)).bind fun module hmodule => ?_
    exact looksUp_location hI hmodule
  · exact looksUp_unresolvable _

end Tame

/-- Where a lookup of a name fails with anything but the report that the name leads nowhere, whatever
code the modules run; and among tame modules it never does. -/
theorem resolve_escapes (I : Interpreter σ ω) (d : Disk) (token : String) :
    (∀ s f t, I.resolve d token s = .error f t ∧ ¬ SaysUnresolvable token f ↔
      (Qualified token ∧ I.Leaks d token s f t) ∧ ¬ SaysUnresolvable token f) ∧
    ∀ S O M N F, I.Tame d S O M N F → ∀ s, S s → ∃ t, S t ∧
      ((∃ file, I.resolve d token s = .ok file t) ∨
        ∃ f, I.resolve d token s = .error f t ∧ SaysUnresolvable token f) := by
  constructor
  · intro s f t
    exact escapes_resolve_iff
  · intro S O M N F hI s hs
    have hrun := looksUp_resolve hI token s hs
    cases hx : I.resolve d token s with
    | ok file t =>
      rw [hx] at hrun
      exact ⟨t, hrun.2, .inl ⟨file, rfl⟩⟩
    | error f t =>
      rw [hx] at hrun
      exact ⟨t, hrun.2, .inr ⟨f, rfl, hrun.1⟩⟩

theorem resolve_escapes_boom :
    let boom : Raised := ⟨"ValueError", some "boom"⟩
    let failing (name : String) : Library :=
      ⟨[("m", ⟨none, false, [("o", .object none [(name, boom)] [])], none, none⟩)], "/bin/run"⟩
    let d : Disk := ⟨.empty, []⟩
    (∃ t, (failing "__module__").interpreter.resolve d "m.o" .empty = .error (.raised boom) t ∧
      ¬ SaysUnresolvable "m.o" (.raised boom)) ∧
    (failing "x").interpreter.Tame d (·.Calm d) Held.Calm Held.IsModule Held.Calm
      (Held.IsFile d) ∧ Imports.empty.Calm d ∧
    ∃ t, t.Calm d ∧ ((∃ file, (failing "x").interpreter.resolve d "m.o.x" .empty = .ok file t) ∨
      ∃ f, (failing "x").interpreter.resolve d "m.o.x" .empty = .error f t ∧
        SaysUnresolvable "m.o.x" f) := by
  intro boom failing d
  have hcalm : (failing "x").modules.Calm d := by
    have honly : ∀ name decl, (failing "x").modules.lookup name = some decl → name = "m" ∧
        decl = ⟨none, false, [("o", .object none [("x", boom)] [])], none, none⟩ := by
      intro name decl hl
      simpa [failing] using Library.mem_of_lookup hl
    constructor
    · intro name decl hl
      obtain ⟨-, rfl⟩ := honly name decl hl
      refine ⟨by simp, by simp, ?_, by simp, by simp⟩
      simp only [CalmBindings, Binding.Calm, CalmNames, and_true]
      decide
    · intro name decl hl
      obtain ⟨rfl, -⟩ := honly name decl hl
      decide
  have htame := (failing "x").tame hcalm
  refine ⟨?_, htame, Imports.calm_empty d, ?_⟩
  · obtain ⟨hiff, -⟩ := resolve_escapes (failing "__module__").interpreter d "m.o"
    have hq : Qualified "m.o" := List.all_eq_true.1 (by decide)
    have hgives : (failing "__module__").interpreter.GivesUp (["m"] ++ ["o"]) ["m"] .empty _ :=
      .shorter rfl (by decide) (.refl _ _)
    have hreached : (failing "__module__").interpreter.Reaches "m.o" .empty _ _ _ :=
      ⟨⟨⟨rfl, by decide, hgives⟩, rfl⟩, .cons rfl (.nil _ _)⟩
    have hleaks : (failing "__module__").interpreter.Leaks d "m.o" .empty (.raised boom) _ :=
      .defining hreached (.unreported rfl (.unanswered (.fails rfl (by decide))))
    have hno : ¬ SaysUnresolvable "m.o" (.raised boom) := by
      rintro ⟨reason, h⟩
      cases h
    exact ⟨_, (hiff _ _ _).2 ⟨⟨hq, hleaks⟩, hno⟩⟩
  · exact (resolve_escapes (failing "x").interpreter d "m.o.x").2 _ _ _ _ _ htame _
      (Imports.calm_empty d)

end Interpreter

end BuildScripts

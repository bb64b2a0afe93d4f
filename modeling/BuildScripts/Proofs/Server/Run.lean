import BuildScripts.Proofs.Disk.Only
import BuildScripts.Proofs.Server.Upload
import BuildScripts.Proofs.Text.Utf8

/-!
Runs of the server. Main statement: after any requests each name in the scripts directory holds the
script that was last answered well under it, or what it held before, unless a script that is no
proper text has emptied it; nothing else on the disk has changed but that directories were made.
-/

namespace BuildScripts

open BuildScripts.Text

open Disk (collapse)

namespace Disk

variable {parts : List String} {d d' d'' : Disk} {l : Location}

def SameOrMade (parts : List String) (d d' : Disk) (l : Location) : Prop :=
  d'.tree.get? l = d.tree.get? l ∨ d.tree.get? l = none ∧ d'.tree.get? l = some .directory ∧
    ∃ front, front <+: parts ∧ l = collapse [] front

theorem SameOrMade.trans (h : SameOrMade parts d d' l) (hg : d'.tree.Grown d''.tree)
    (h' : SameOrMade parts d' d'' l) : SameOrMade parts d d'' l := by
  rcases h with h | ⟨hnone, hdir, hland⟩
  · rw [SameOrMade, h] at h'
    exact h'
  · exact .inr ⟨hnone, hg.directory l hdir, hland⟩

theorem SameOrMade.eq_of_ne (h : SameOrMade parts d d' l) (hl : d'.tree.get? l ≠ some .directory) :
    d'.tree.get? l = d.tree.get? l := by
  rcases h with h | ⟨-, hdir, -⟩
  · exact h
  · exact absurd hdir hl

theorem Made.sameOrMade (h : Made [] parts d d') (hc : d.tree.Clear [] parts) (l : Location) :
    SameOrMade parts d d' l :=
  (h.place l).imp id fun ⟨hnone, hdir, hland⟩ => ⟨hnone, hdir, hland hc⟩

end Disk

namespace Server

variable {σ : Type} {s : Server σ} {d d' d'' : Disk} {name : String}

def home (s : Server σ) : Location :=
  collapse [] s.scriptsDir.parts

/-- There are no links on the way to the scripts directory and none in it. -/
structure Unlinked (s : Server σ) (d : Disk) : Prop where
  way : d.tree.Clear [] s.scriptsDir.parts
  inside : ∀ name target, d.tree.get? (name :: s.home) ≠ some (.link target)

theorem Unlinked.of_linkFree (s : Server σ) (h : d.tree.LinkFree) : s.Unlinked d :=
  ⟨h.clear _ _, fun _ => h _⟩

theorem Unlinked.of_grown (h : s.Unlinked d) (hg : d.tree.Grown d'.tree) : s.Unlinked d' :=
  ⟨h.way.of_grown hg, fun name target hl => h.inside name target (hg.noLink _ _ hl)⟩

theorem collapse_placeOf (s : Server σ) (hn : IsName name) :
    collapse [] (s.placeOf name).parts = name :: s.home := by
  change collapse [] (s.scriptsDir.parts ++ [name]) = _
  rw [collapse_append, collapse_name hn, collapse_nil, home]

theorem Unlinked.clear_placeOf (h : s.Unlinked d) (hn : IsName name) :
    d.tree.Clear [] (s.placeOf name).parts := by
  intro front hf
  rcases List.prefix_concat_iff.1 hf with rfl | hf
  · change ∀ target, d.tree.get? (collapse [] (s.placeOf name).parts) ≠ _
    rw [collapse_placeOf s hn]
    exact h.inside name
  · exact h.way front hf

theorem location_of_openForWriting (hs : s.scriptsDir.isAbsolute = true) (hg : d.tree.Grounded)
    (h : s.Unlinked d) (hn : IsName name) {l : Location}
    (ho : d.openForWriting (s.placeOf name) = .ok l) : l = name :: s.home := by
  have hlast : (s.placeOf name).parts.getLast? ≠ some "" := by
    simpa [placeOf, Path.child] using hn.notEmpty
  have hstart := Disk.start_of_isAbsolute (d := d) (placeOf_isAbsolute hs name)
  have hclear : d.tree.Clear (d.start (s.placeOf name)) (s.placeOf name).parts := by
    rw [hstart]
    exact h.clear_placeOf hn
  rw [Disk.location_of_openForWriting hg (placeOf_starts hs name) hclear hlast ho, Disk.place, hstart,
    collapse_placeOf s hn]

/-- What is left of a disk once the given texts have been written under their names. -/
structure Leaves (s : Server σ) (texts : String → Option String) (d d' : Disk) : Prop where
  here : d'.here = d.here
  grounded : d'.tree.Grounded
  grown : d.tree.Grown d'.tree
  written : ∀ name text, texts name = some text → d'.find (s.placeOf name) =
    .ok (name :: s.home, Disk.filled (d.tree.get? (name :: s.home)) (Utf8.encode text))
  others : ∀ l, (∀ name text, texts name = some text → l ≠ name :: s.home) →
    Disk.SameOrMade s.scriptsDir.parts d d' l

section Leaves

variable {texts later : String → Option String}

theorem Leaves.of_made (hn : s.Unlinked d) (h : Disk.Made [] s.scriptsDir.parts d d') :
    s.Leaves (fun _ => none) d d' where
  here := h.here
  grounded := h.grounded
  grown := h.grown
  written _ _ ht := by cases ht
  others l _ := h.sameOrMade hn.way l

theorem Leaves.get? (hs : s.scriptsDir.isAbsolute = true) (h : s.Leaves texts d d') {text : String}
    (ht : texts name = some text) : d'.tree.get? (name :: s.home) =
      some (Disk.filled (d.tree.get? (name :: s.home)) (Utf8.encode text)) :=
  Disk.found_of_seek h.grounded (placeOf_starts hs name)
    (Disk.find_eq_ok_iff.1 (h.written name text ht))

theorem Leaves.other (h : s.Leaves texts d d') (ht : texts name = none) :
    Disk.SameOrMade s.scriptsDir.parts d d' (name :: s.home) := by
  refine h.others _ fun name' text ht' heq => ?_
  obtain ⟨rfl, -⟩ := List.cons.inj heq
  rw [ht] at ht'
  cases ht'

theorem Leaves.sink_iff (hs : s.scriptsDir.isAbsolute = true) (h : s.Leaves texts d d') :
    d.tree.get? (name :: s.home) = some .sink ↔ d'.tree.get? (name :: s.home) = some .sink := by
  refine ⟨h.grown.sink _, fun hsink => ?_⟩
  cases ht : texts name with
  | some text =>
    rw [h.get? hs ht, Option.some.injEq] at hsink
    exact Disk.filled_eq_sink_iff.1 hsink
  | none => rw [← (h.other ht).eq_of_ne (by rw [hsink]; simp), hsink]

theorem Leaves.trans (hs : s.scriptsDir.isAbsolute = true) (h : s.Leaves texts d d')
    (h' : s.Leaves later d' d'') : s.Leaves (fun name => (later name).or (texts name)) d d'' where
  here := h'.here.trans h.here
  grounded := h'.grounded
  grown := h.grown.trans h'.grown
  written name text ht := by
    cases hl : later name with
    | some text' =>
      rw [hl, Option.some_or, Option.some.injEq] at ht
      rw [h'.written name text' hl, ht, Disk.filled_congr (h.sink_iff hs)]
    | none =>
      rw [hl, Option.none_or] at ht
      -- No later write goes to the place, and a directory is only made where nothing stands.
      have hget := h.get? hs ht
      have hkeep : d''.tree.get? (name :: s.home) = d'.tree.get? (name :: s.home) := by
        rcases h'.other hl with hsame | ⟨hnone, -, -⟩
        · exact hsame
        · rw [hnone] at hget
          cases hget
      have hseek := Disk.seek_of_grown h'.grown h.grounded
        (Disk.start_of_here h'.here _) (placeOf_starts hs name)
        (Disk.find_eq_ok_iff.1 (h.written name text ht))
      rw [Disk.find_eq_ok_iff, hseek, Place.location, Tree.at_of_some (hkeep.trans hget)]
  others l hne := by
    have hfirst := h.others l fun name text ht => by
      cases hl : later name with
      | some text' => exact hne name text' (by rw [hl, Option.some_or])
      | none => exact hne name text (by rw [hl, ht, Option.none_or])
    have hthen := h'.others l fun name text hl => hne name text (by rw [hl, Option.some_or])
    exact hfirst.trans h'.grown hthen

theorem Leaves.of_filled (hs : s.scriptsDir.isAbsolute = true) {l : Location}
    (hg : d.tree.Grounded) (hn : s.Unlinked d) (hname : IsName name)
    (ho : d.openForWriting (s.placeOf name) = .ok l) (text : String) :
    s.Leaves (fun n => if name = n then some text else none) d (d.fill l (Utf8.encode text)) := by
  have hfill := Disk.filled_of_fill hg (placeOf_starts hs name) ho (Utf8.encode text)
  have hfind := Disk.find_of_fill hg (placeOf_starts hs name) ho (Utf8.encode text)
  have hl := location_of_openForWriting hs hg hn hname ho
  refine ⟨hfill.here, hfill.grounded, hfill.grown, fun n text' ht => ?_, fun k hk => ?_⟩
  · split at ht
    · rename_i heq
      cases ht
      rw [← heq, hfind, hl]
    · cases ht
  · exact .inl (hfill.others k (hl ▸ hk name text (if_pos rfl)))

theorem leaves_keep (hs : s.scriptsDir.isAbsolute = true) (hg : d.tree.Grounded)
    (hn : s.Unlinked d) {u : Submission} (hname : IsName u.fileName) :
    s.Leaves (fun n => if u.fileName = n then s.left u d else none) d ((s.keep u).after d) := by
  have hmade := Disk.made_of_makeDirectories hg (Disk.starts_of_isAbsolute hs)
  rw [Disk.start_of_isAbsolute hs] at hmade
  rcases s.keep_cases u d with ⟨hnone, hafter, -⟩ | ⟨d₁, l, text, hm, -, ho, hleft, hk⟩
  · simp only [hnone, ite_self, hafter]
    exact .of_made hn hmade
  · rw [Attempt.after_of_ok hm] at hmade
    have hafter : (s.keep u).after d = d₁.fill l (Utf8.encode text) := by
      rw [Attempt.after, hk]
      cases (properText? u.content).isNone <;> rfl
    have hwrite := Leaves.of_filled hs hmade.grounded (hn.of_grown hmade.grown) hname ho text
    simpa only [hleft, hafter, Option.or_none] using (Leaves.of_made hn hmade).trans hs hwrite

end Leaves

section Handle

variable {listed : Manifest} {inside : Path} {r : Request} {u : Submission} {w : Workshop σ}

def passes (s : Server σ) (r : Request) (u : Submission) (w : Workshop σ) : Bool :=
  s.authorizes (r.header? "authorization") && isPlainName u.fileName &&
    (prepareText s.chain w.disk u.text (s.placeOf u.fileName) w.resolver matches .ok _ _)

def written (s : Server σ) (name : String) (r : Request) (w : Workshop σ) : Option String :=
  match uploadOf? r with
  | none => none
  | some u => if u.fileName = name ∧ s.passes r u w = true then s.left u w.disk else none

def stored (s : Server σ) (name : String) (r : Request) (w : Workshop σ) : Option String :=
  match uploadOf? r with
  | none => none
  | some u => if u.fileName = name ∧ (s.handle r w).1.status = 200 then some u.text else none

theorem passes_eq_true_iff (hl : s.Lists listed inside) : s.passes r u w = true ↔
    s.authorizes (r.header? "authorization") = true ∧ isPlainName u.fileName = true ∧
      ∃ a, listed.prepared inside w.disk u.text (s.placeOf u.fileName) = .ok a := by
  rw [passes, hl.chain, prepareText_eq]
  cases listed.prepared inside w.disk u.text (s.placeOf u.fileName) <;> simp

theorem handle_cases (hl : s.Lists listed inside) (hu : uploadOf? r = some u) (w : Workshop σ) :
    (s.passes r u w = false ∧ (s.handle r w).2 = w ∧ (s.handle r w).1.status ≠ 200) ∨
    (s.passes r u w = true ∧ (s.handle r w).2 = { w with disk := (s.keep u).after w.disk } ∧
      ((s.handle r w).1.status = 200 ∧ (∃ d, s.keep u w.disk = .ok () d) ∨
        (s.handle r w).1.status = 500 ∧ ∃ f d, s.keep u w.disk = .error f d)) := by
  have hrun := handle_upload (w := w) hl hu
  cases hp : s.passes r u w with
  | true =>
    obtain ⟨ha, hn, a, hprep⟩ := (passes_eq_true_iff hl).1 hp
    rw [ha, hn, hprep] at hrun
    refine .inr ⟨rfl, ?_⟩
    cases hk : s.keep u w.disk with
    | ok _ d =>
      rw [hrun, hk, Attempt.after_of_ok hk]
      exact ⟨rfl, .inl ⟨rfl, d, rfl⟩⟩
    | error f d =>
      rw [hrun, hk, Attempt.after_of_error hk]
      exact ⟨rfl, .inr ⟨rfl, f, d, rfl⟩⟩
  | false =>
    refine .inl ⟨rfl, ?_⟩
    cases ha : s.authorizes (r.header? "authorization") with
    | false =>
      rw [hrun, ha]
      exact ⟨rfl, by simp [unauthorized, Response.withDetail, Response.ofJson]⟩
    | true =>
      cases hn : isPlainName u.fileName with
      | false =>
        rw [hrun, ha, hn]
        exact ⟨rfl, by simp [badName, Response.withDetail, Response.ofJson]⟩
      | true =>
        cases hprep : listed.prepared inside w.disk u.text (s.placeOf u.fileName) with
        | ok a =>
          rw [(passes_eq_true_iff hl).2 ⟨ha, hn, a, hprep⟩] at hp
          cases hp
        | error f =>
          rw [hrun, ha, hn, hprep]
          exact ⟨rfl, faultAnswer_status _⟩

theorem handle_of_refused (hl : s.Lists listed inside)
    (h : (s.handle r w).1.status ∈ [400, 401, 422]) : (s.handle r w).2 = w := by
  cases hu : uploadOf? r with
  | none => exact (handle_of_no_upload hu s s rfl w w).1
  | some u =>
    rcases handle_cases hl hu w with ⟨-, hw, -⟩ | ⟨-, -, ⟨hs, -⟩ | ⟨hs, -⟩⟩
    · exact hw
    · rw [hs] at h
      simp at h
    · rw [hs] at h
      simp at h

theorem written_cases (hl : s.Lists listed inside) (name : String) (r : Request) (w : Workshop σ) :
    s.written name r w = s.stored name r w ∨ s.written name r w = some "" ∧
      ∃ u, uploadOf? r = some u ∧ u.fileName = name ∧ properText? u.content = none := by
  unfold written stored
  cases hu : uploadOf? r with
  | none => exact .inl rfl
  | some u =>
    by_cases hname : u.fileName = name
    · rcases handle_cases hl hu w with ⟨hp, -, hs⟩ | ⟨hp, -, ⟨hs, d, hk⟩ | ⟨hs, f, d, hk⟩⟩
      · simp [hp, hs]
      · simp [hname, hp, hs, left, hk]
      · rcases s.keep_cases u w.disk with ⟨hnone, -⟩ | ⟨d₁, l, text, -, -, -, hleft, hk'⟩
        · simp [hnone, hs]
        · rw [hk'] at hk
          cases ht : properText? u.content with
          | some _ =>
            rw [ht] at hk
            cases hk
          | none =>
            have hempty : s.left u w.disk = some "" := by
              rw [left, hk', ht]
              rfl
            exact .inr ⟨by simp [hname, hp, hempty], u, rfl, hname, ht⟩
    · simp [hname]

theorem leaves_handle (hl : s.Lists listed inside) (hg : w.disk.tree.Grounded)
    (hn : s.Unlinked w.disk) (r : Request) :
    s.Leaves (fun name => s.written name r w) w.disk (s.handle r w).2.disk := by
  have hsame : s.Leaves (fun _ => none) w.disk w.disk := .of_made hn (.refl hg)
  cases hu : uploadOf? r with
  | none =>
    unfold written
    simp only [hu, (handle_of_no_upload hu s s rfl w w).1]
    exact hsame
  | some u =>
    rcases handle_cases hl hu w with ⟨hp, hw, -⟩ | ⟨hp, hw, -⟩
    · unfold written
      simp only [hu, hp, hw, Bool.false_eq_true, and_false, if_false]
      exact hsame
    · have hname := isName_of_isPlainName (fileName_of_uploadOf hu) ((passes_eq_true_iff hl).1 hp).2.1
      unfold written
      simp only [hu, hp, hw, and_true]
      exact leaves_keep hl.isAbsolute hg hn hname

end Handle

section Run

variable {listed : Manifest} {inside : Path} {w : Workshop σ} {rs : List Request}

def run (s : Server σ) : List Request → Workshop σ → Workshop σ
  | [], w => w
  | r :: rs, w => s.run rs (s.handle r w).2

def last? (s : Server σ) (f : Request → Workshop σ → Option String) :
    List Request → Workshop σ → Option String
  | [], _ => none
  | r :: rs, w => (s.last? f rs (s.handle r w).2).or (f r w)

theorem leaves_run (hl : s.Lists listed inside) (hg : w.disk.tree.Grounded)
    (hn : s.Unlinked w.disk) (rs : List Request) :
    s.Leaves (fun name => s.last? (s.written name) rs w) w.disk (s.run rs w).disk := by
  induction rs generalizing w with
  | nil => exact .of_made hn (.refl hg)
  | cons r rs ih =>
    have hfirst := leaves_handle hl hg hn r
    simp only [run, last?]
    exact hfirst.trans hl.isAbsolute (ih hfirst.grounded (hn.of_grown hfirst.grown))

theorem last?_cases {f g : Request → Workshop σ → Option String} {P : Request → Prop}
    (h : ∀ r w, f r w = g r w ∨ f r w = some "" ∧ P r) (rs : List Request) (w : Workshop σ) :
    s.last? f rs w = s.last? g rs w ∨ s.last? f rs w = some "" ∧ ∃ r ∈ rs, P r := by
  induction rs generalizing w with
  | nil => exact .inl rfl
  | cons r rs ih =>
    rw [last?, last?]
    rcases ih (s.handle r w).2 with hlater | ⟨hlater, r', hm, hr'⟩
    · rw [hlater]
      rcases h r w with hnow | ⟨hempty, hr⟩
      · exact .inl (by rw [hnow])
      · cases s.last? g rs (s.handle r w).2 with
        | some text => exact .inl rfl
        | none => exact .inr ⟨by rw [hempty, Option.none_or], r, by simp, hr⟩
    · exact .inr ⟨by rw [hlater, Option.some_or], r', List.mem_cons_of_mem r hm, hr'⟩

def Holds (s : Server σ) (name : String) (d d' : Disk) : Option String → Prop
  | some text => d'.find (s.placeOf name) = .ok (name :: s.home, .file (Utf8.encode text))
  | none => Disk.SameOrMade s.scriptsDir.parts d d' (name :: s.home)

theorem holds_of_sink (hs : s.scriptsDir.isAbsolute = true) {texts : String → Option String}
    (h : s.Leaves texts d d') {text : String} (hleft : texts name = some text)
    (hsink : d.tree.get? (name :: s.home) = some .sink) (told : Option String) :
    s.Holds name d d' told ↔ told = none := by
  have hfind := h.written name text hleft
  rw [Disk.filled_eq_sink_iff.2 hsink] at hfind
  cases told with
  | none => simp [Holds, Disk.SameOrMade, hsink, (h.sink_iff hs).1 hsink]
  | some t => simp [Holds, hfind]

theorem holds_of_ne_sink (hs : s.scriptsDir.isAbsolute = true) {texts : String → Option String}
    (h : s.Leaves texts d d') {text : String} (hleft : texts name = some text)
    (hsink : d.tree.get? (name :: s.home) ≠ some .sink) (told : Option String) :
    s.Holds name d d' told ↔ told = some text ∨
      told = none ∧ d.tree.get? (name :: s.home) = some (.file (Utf8.encode text)) := by
  have hfind := h.written name text hleft
  have hget := h.get? hs hleft
  rw [Disk.filled_of_ne_sink hsink] at hfind hget
  cases told with
  | none =>
    simp only [reduceCtorEq, true_and, false_or, Holds]
    constructor
    · intro hsame
      rw [← hsame.eq_of_ne (by simp [hget]), hget]
    · intro horiginal
      exact .inl (hget.trans horiginal.symm)
  | some t =>
    simp only [Holds, hfind, Except.ok.injEq, Prod.mk.injEq, true_and, Entry.file.injEq,
      Utf8.encode_injective.eq_iff, Option.some.injEq, reduceCtorEq, false_and, or_false]
    exact eq_comm

theorem holds_iff (hs : s.scriptsDir.isAbsolute = true) {texts : String → Option String}
    (h : s.Leaves texts d d') {told : Option String} (ht : texts name = told ∨ texts name = some "") :
    s.Holds name d d' told ↔
      (texts name = told ∧ (told ≠ none → d.tree.get? (name :: s.home) ≠ some .sink)) ∨
        (told = none ∧ (d.tree.get? (name :: s.home) = some .sink ∨
          d.tree.get? (name :: s.home) = some (.file (Utf8.encode "")))) := by
  cases hleft : texts name with
  | none =>
    obtain rfl : none = told := by simpa [hleft] using ht
    simpa [Holds] using h.other hleft
  | some text =>
    by_cases hsink : d.tree.get? (name :: s.home) = some .sink
    · rw [holds_of_sink hs h hleft hsink]
      simp only [hsink, ne_eq, not_true_eq_false, imp_false, not_not, true_or, and_true]
      constructor
      · exact .inr
      · rintro (⟨htext, htold⟩ | htold)
        · exact htold
        · exact htold
    · rw [holds_of_ne_sink hs h hleft hsink]
      simp only [hsink, ne_eq, not_false_eq_true, imp_true_iff, and_true, false_or]
      cases told with
      | none =>
        obtain rfl : text = "" := by simpa [hleft] using ht
        simp
      | some t => simp [eq_comm]

end Run

/-- What a run leaves under each name and elsewhere, and when it is what its answers tell. -/
theorem run_holds_iff {c : Config} {lib : Library} {d₀ : Disk} {root : Path} {s : Server Imports}
    (hs : create c lib d₀ root = .ok s) (hi : c.allowImports = false) {w : Workshop Imports}
    (hg : w.disk.tree.Grounded) (hn : s.Unlinked w.disk) (rs : List Request) :
    s.Leaves (fun name => s.last? (s.written name) rs w) w.disk (s.run rs w).disk ∧
      (∀ name, s.Holds name w.disk (s.run rs w).disk (s.last? (s.stored name) rs w) ↔
        (s.last? (s.written name) rs w = s.last? (s.stored name) rs w ∧
          (s.last? (s.stored name) rs w ≠ none →
            w.disk.tree.get? (name :: s.home) ≠ some .sink)) ∨
        (s.last? (s.stored name) rs w = none ∧
          (w.disk.tree.get? (name :: s.home) = some .sink ∨
            w.disk.tree.get? (name :: s.home) = some (.file (Utf8.encode ""))))) ∧
      (∀ name, (∀ r ∈ rs, ∀ u, uploadOf? r = some u → u.fileName = name →
          (properText? u.content).isSome = true) →
        s.last? (s.written name) rs w = s.last? (s.stored name) rs w) ∧
      ∀ r (w : Workshop Imports), (s.handle r w).1.status ∈ [400, 401, 422] →
        (s.handle r w).2 = w := by
  obtain ⟨inside, -, hl⟩ := lists_of_create hs hi
  have hleaves := leaves_run hl hg hn rs
  have hcases := fun name => last?_cases (s := s) (written_cases hl name) rs w
  refine ⟨hleaves, fun name => ?_, fun name hproper => ?_, fun r w => handle_of_refused hl⟩
  · exact holds_iff hl.isAbsolute hleaves ((hcases name).imp id fun h => h.1)
  -- What is written and what is told differ only where a script was no proper text.
  · rcases hcases name with heq | ⟨-, r, hm, u, hu, hname, hnone⟩
    · exact heq
    · have hsome := hproper r hm u hu hname
      rw [hnone] at hsome
      cases hsome

theorem run_holds_iff_emptied :
    let rs := [Sample.request "a.csx" "\"Run();\\n\"", Sample.request "a.csx" "\"\\ud800\""]
    let w := Sample.workshop [] []
    Sample.server.last? (Sample.server.stored "a.csx") rs w = some "Run();\n" ∧
      ¬ Sample.server.Holds "a.csx" w.disk (Sample.server.run rs w).disk (some "Run();\n") := by
  intro rs w
  have htold : Sample.server.last? (Sample.server.stored "a.csx") rs w = some "Run();\n" := by
    decide +kernel
  have hleft : Sample.server.last? (Sample.server.written "a.csx") rs w = some "" := by
    decide +kernel
  have hiff := (run_holds_iff Sample.create_config rfl (w := w)
    (Tree.grounded_of_isGrounded (by decide +kernel))
    (.of_linkFree _ (Tree.linkFree_of_isLinkFree (by decide +kernel))) rs).2.1 "a.csx"
  refine ⟨htold, fun hholds => ?_⟩
  rw [htold, hleft] at hiff
  rcases hiff.1 hholds with ⟨heq, -⟩ | ⟨hnone, -⟩
  · exact absurd heq (by decide)
  · cases hnone

end Server

end BuildScripts

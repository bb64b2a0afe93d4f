import BuildScripts.Proofs.Artifact.Faults
import BuildScripts.Proofs.Script.Faults
import BuildScripts.Proofs.Server.Upload

namespace BuildScripts.Server

open BuildScripts.Text

variable {σ : Type}

def CanKeep (s : Server σ) (fileName : String) (d : Disk) : Prop :=
  ∃ d', s.keep ⟨fileName, []⟩ d = .ok () d'

def reading (inside : Path) (w : Workshop σ) (full : Path) : Setting :=
  .ofScript (some inside) w.disk full

/-- Why an upload ends with an error of the server although its script could be kept: its place has no
full path, a line breaks the analysis, a line that names nothing cannot be shown to the client, or the
script passes and is no proper text. -/
inductive Fails (s : Server σ) (look : Resolver σ) (inside : Path) (u : Submission)
    (w : Workshop σ) : Prop
  | place : (∀ full, w.disk.resolve (s.placeOf u.fileName) ≠ .ok full) → Fails s look inside u w
  | line {full : Path} {before after : List String} {line : String} {ys : List Yield} {t : σ} :
    w.disk.resolve (s.placeOf u.fileName) = .ok full →
    physicalLines u.text = before ++ line :: after →
    before.mapM ((reading inside w full).read look) w.resolver = .ok ys t →
    Breaks (reading inside w full) inside look line t → Fails s look inside u w
  | unshown {full : Path} {before after : List String} {line : String} {ys : List Yield} {t t' : σ}
    {v : Unresolvable} : w.disk.resolve (s.placeOf u.fileName) = .ok full →
    physicalLines u.text = before ++ line :: after →
    before.mapM ((reading inside w full).read look) w.resolver = .ok ys t →
    (reading inside w full).read look line t = .error (.unresolvable v) t' →
    (lineNumber? u.text (some line)).all u.canShowLine = false → Fails s look inside u w
  | content {full : Path} {ys : List Yield} {t : σ} :
    w.disk.resolve (s.placeOf u.fileName) = .ok full →
    (physicalLines u.text).mapM ((reading inside w full).read look) w.resolver = .ok ys t →
    properText? u.content = none → Fails s look inside u w

/-- A script is stored, or refused in a way that the client is told. -/
def Told : EStateM.Result Fault (Workshop σ) Receipt → Prop
  | .ok _ _ => True
  | .error (.rejected _) _ => True
  | .error _ _ => False

section Store

variable {s : Server σ} {look : Resolver σ} {inside : Path} {u : Submission} {w : Workshop σ}

theorem store_eq_reads (hc : s.chain = serverChain look inside) (u : Submission)
    (w : Workshop σ) : s.store u w =
      match w.disk.resolve (s.placeOf u.fileName) with
      | .error f => .error (checkRejection u f) w
      | .ok full =>
        match (physicalLines u.text).mapM ((reading inside w full).read look) w.resolver with
        | .error f t =>
          .error (checkRejection u (rejecting (s.placeOf u.fileName) u.text f))
            { w with resolver := t }
        | .ok ys t =>
          match s.keep u w.disk with
          | .ok _ d =>
            .ok (.ofAnalysis u.fileName (s.placeOf u.fileName)
              ((reading inside w full).analysis (physicalLines u.text) ys)) ⟨d, t⟩
          | .error f d => .error f ⟨d, t⟩ := by
  have hprepare := prepareText_eq_reads look (some inside) w.disk u.text (s.placeOf u.fileName)
    w.resolver
  change prepareText (serverChain look inside) w.disk u.text (s.placeOf u.fileName) w.resolver = _
    at hprepare
  rw [store_eq_prepareText, hc, hprepare]
  cases w.disk.resolve (s.placeOf u.fileName) with
  | error f => rfl
  | ok full =>
    simp only [reading]
    cases (physicalLines u.text).mapM ((Setting.ofScript (some inside) w.disk full).read look)
      w.resolver <;> rfl

theorem keep_of_canKeep (h : s.CanKeep u.fileName w.disk)
    (hp : (properText? u.content).isSome = true) : ∃ d', s.keep u w.disk = .ok () d' := by
  obtain ⟨d', hd'⟩ := h
  obtain ⟨d₁, l, hm, hn, ho, -, -⟩ := keep_eq_ok_iff.1 hd'
  exact ⟨_, keep_eq_ok_iff.2 ⟨d₁, l, hm, hn, ho, hp, rfl⟩⟩

theorem not_told_of_keep (h : properText? u.content = none) :
    ∃ f d, s.keep u w.disk = .error f d ∧ ∀ rj, f ≠ .rejected rj := by
  cases hk : s.keep u w.disk with
  | ok _ d =>
    obtain ⟨_, _, _, _, _, hp, _⟩ := keep_eq_ok_iff.1 hk
    rw [h] at hp
    cases hp
  | error f d => exact ⟨f, d, rfl, keep_fault hk⟩

theorem told_error_iff {f : Fault} {w' : Workshop σ} :
    Told (.error f w') ↔ ∃ rj, f = .rejected rj := by
  cases f <;> simp [Told]

theorem told_of_reported_iff {token line reason : String} {place : Path} {w' : Workshop σ} :
    Told (.error (checkRejection u
      (rejecting place u.text (.unresolvable ⟨token, some line, reason⟩))) w') ↔
        (lineNumber? u.text (some line)).all u.canShowLine = true := by
  rw [told_error_iff, rejecting, checkRejection]
  split
  · rename_i h
    simp [h]
  · rename_i h
    simp [h]

theorem not_told_of_escapes {f : Fault} (h : f.Escapes) {place : Path} {w' : Workshop σ} :
    ¬ Told (.error (checkRejection u (rejecting place u.text f)) w') := by
  rw [told_error_iff]
  rintro ⟨rj, hrj⟩
  cases f with
  | unresolvable v => cases h
  | rejected rj' => cases h
  | _ => cases hrj

theorem not_told_of_fails (hc : s.chain = serverChain look inside) (hr : look.NeverRejects)
    (h : Fails s look inside u w) : ¬ Told (s.store u w) := by
  rw [store_eq_reads hc]
  cases h with
  | place hplace =>
    cases hf : w.disk.resolve (s.placeOf u.fileName) with
    | ok full => exact absurd hf (hplace full)
    | error f =>
      dsimp only
      rw [told_error_iff]
      rintro ⟨rj, hrj⟩
      rcases Disk.resolve_fault hf with rfl | ⟨path, rfl⟩ <;> cases hrj
  | line hplace hsplit hbefore hbreaks =>
    obtain ⟨f, t', hline, hesc⟩ := hbreaks.fault rfl
    have hread := Attempt.mapM_eq_error_iff.2 ⟨_, _, _, _, _, hsplit, hbefore, hline⟩
    simp only [hplace, hread]
    exact not_told_of_escapes hesc
  | unshown hplace hsplit hbefore hline hshow =>
    have hread := Attempt.mapM_eq_error_iff.2 ⟨_, _, _, _, _, hsplit, hbefore, hline⟩
    rcases read_fault hr rfl hline with ⟨token, reason, heq⟩ | ⟨hesc, -⟩
    · simp only [hplace, hread, heq]
      rw [told_of_reported_iff, hshow]
      exact Bool.false_ne_true
    · cases hesc
  | content hplace hread hproper =>
    obtain ⟨f, d, hkeep, hf⟩ := not_told_of_keep (s := s) (w := w) hproper
    simp only [hplace, hread, hkeep]
    rw [told_error_iff]
    rintro ⟨rj, hrj⟩
    exact hf rj hrj

theorem told_store_iff (hc : s.chain = serverChain look inside) (hr : look.NeverRejects)
    (hk : s.CanKeep u.fileName w.disk) : Told (s.store u w) ↔ ¬ Fails s look inside u w := by
  constructor
  · exact fun htold hfails => not_told_of_fails hc hr hfails htold
  · intro hfails
    rw [store_eq_reads hc]
    cases hplace : w.disk.resolve (s.placeOf u.fileName) with
    | error f => exact absurd (.place (by simp [hplace])) hfails
    | ok full =>
      dsimp only
      cases hread : (physicalLines u.text).mapM ((reading inside w full).read look)
          w.resolver with
      | error f t =>
        obtain ⟨before, line, after, ys, v, hsplit, hbefore, hline⟩ :=
          Attempt.mapM_eq_error_iff.1 hread
        dsimp only
        -- Only the line that ends the reading matters, as those before it have been read.
        rcases read_fault hr rfl hline with ⟨token, reason, rfl⟩ | ⟨-, hbreaks⟩
        · rw [told_of_reported_iff]
          by_contra hshow
          exact hfails (.unshown hplace hsplit hbefore hline (Bool.not_eq_true _ ▸ hshow))
        · exact absurd (.line hplace hsplit hbefore hbreaks) hfails
      | ok ys t =>
        dsimp only
        cases hproper : properText? u.content with
        | none => exact absurd (.content hplace hread hproper) hfails
        | some text =>
          obtain ⟨d', hkeep⟩ := keep_of_canKeep hk (by rw [hproper]; rfl)
          rw [hkeep]
          trivial

theorem not_fails_of_proper {listed : Manifest} {full : Path}
    (hplace : w.disk.resolve (s.placeOf u.fileName) = .ok full)
    (hproper : (properText? u.content).isSome = true)
    (htrips : ∀ line ∈ physicalLines u.text, ∀ token, isFileLine line = true →
      Directive.payload line = some token →
        ¬ Trips w.disk inside (some full.toText) token) :
    ¬ Fails s (.manifest listed none) inside u w := by
  intro hfails
  cases hfails with
  | place h => exact h full hplace
  | line hplace' hsplit _ hbreaks =>
    obtain rfl := Except.ok.inj (hplace.symm.trans hplace')
    exact not_breaks_manifest (fun token => htrips _ (by simp [hsplit]) token) hbreaks
  | unshown _ _ _ _ hshow =>
    rw [Option.all_eq_false] at hshow
    obtain ⟨n, -, hn⟩ := hshow
    rw [canShowLine_of_proper hproper n] at hn
    cases hn
  | content _ _ h =>
    rw [h] at hproper
    cases hproper

end Store

theorem neverRejects_resolverOf (c : Config) (lib : Library) : (resolverOf c lib).NeverRejects := by
  intro d name
  have hfault : Attempt.FaultsAre (LookupFault Fault.IsRaised) ((resolverOf c lib).resolve d name) := by
    rw [resolverOf]
    dsimp only [Resolver.manifest]
    cases c.manifest.lookup name with
    | some file => exact .pure file
    | none =>
      cases c.allowImports with
      | true => exact Interpreter.faults_resolve lib.raisesOnly d name
      | false => exact .throw (.unresolvable _)
  rintro s f t h rejection rfl
  cases hfault s _ t h with
  | foreign h =>
    obtain ⟨raised, h⟩ := h
    cases h

def toldStatuses : List Nat :=
  [200, 400, 401, 422]

theorem status_of_handle {s : Server σ} {u : Submission} {w : Workshop σ} {r : Request}
    (hu : uploadOf? r = some u) : (s.handle r w).1.status ∈ toldStatuses ↔
      (s.authorizes (r.header? "authorization") = true → isPlainName u.fileName = true →
        Told (s.store u w)) := by
  rw [handle_of_upload hu]
  cases ha : s.authorizes (r.header? "authorization") with
  | false => simp [upload, ha, unauthorized, Response.withDetail, Response.ofJson, toldStatuses]
  | true =>
    cases hn : isPlainName u.fileName with
    | false => simp [upload, ha, hn, badName, Response.withDetail, Response.ofJson, toldStatuses]
    | true =>
      simp only [upload_of_plain ha hn]
      cases s.store u w with
      | ok receipt w' => simp [Told, Response.ofJson, toldStatuses]
      | error f w' =>
        cases f <;> simp [Told, rejection, Response.withDetail, Response.ofJson,
          Response.internalError, Response.ofText, toldStatuses]

/-- An upload whose script could be kept is answered with a receipt or a refusal, unless it fails for
one of the four reasons. Without imports a proper text is so answered if its place and all files that
it names can be looked up. -/
theorem upload_told_iff {c : Config} {lib : Library} {d : Disk} {root : Path} {s : Server Imports}
    (h : create c lib d root = .ok s) : ∃ inside, d.resolve s.scriptsDir = .ok inside ∧
      ∀ r u w, uploadOf? r = some u → s.CanKeep u.fileName w.disk →
        ((s.handle r w).1.status ∈ toldStatuses ↔
          (s.authorizes (r.header? "authorization") = true → isPlainName u.fileName = true →
            ¬ Fails s (resolverOf c lib) inside u w)) ∧
        (c.allowImports = false → (properText? u.content).isSome = true →
          ∀ full, w.disk.resolve (s.placeOf u.fileName) = .ok full →
          (∀ line ∈ physicalLines u.text, ∀ token, isFileLine line = true →
            Directive.payload line = some token →
              ¬ Trips w.disk inside (some full.toText) token) →
          (s.handle r w).1.status ∈ toldStatuses) := by
  obtain ⟨inside, hin, hchain, -⟩ := chain_of_create h
  refine ⟨inside, hin, fun r u w hu hk => ?_⟩
  have htold := told_store_iff hchain (neverRejects_resolverOf c lib) hk
  constructor
  · rw [status_of_handle hu, htold]
  · intro hi hproper full hplace htrips
    rw [status_of_handle hu, htold, resolverOf_of_no_imports hi]
    exact fun _ _ => not_fails_of_proper hplace hproper htrips

theorem upload_told_iff_null :
    (Sample.server.handle (Sample.request "a.csx" "\"//#ass \\u0000\"")
      (Sample.workshop [] [])).1.status ∉ toldStatuses := by
  let u : Submission := ⟨"a.csx", "//#ass \x00".toList.map Char.toNat⟩
  have hu : uploadOf? (Sample.request "a.csx" "\"//#ass \\u0000\"") = some u := by
    decide +kernel
  obtain ⟨inside, hin, h⟩ := upload_told_iff Sample.create_config
  have hinside : (Sample.workshop [] []).disk.resolve (.absolute ["uploads"]) =
    .ok (.absolute ["uploads"]) := rfl
  obtain rfl : inside = .absolute ["uploads"] := Except.ok.inj (hin.symm.trans hinside)
  have hkeep : Sample.server.CanKeep u.fileName (Sample.workshop [] []).disk :=
    Attempt.ok_of_gives (by decide +kernel)
  rw [(h _ u _ hu hkeep).1]
  intro htold
  have hplace : (Sample.workshop [] []).disk.resolve (.absolute ["uploads", "a.csx"]) =
    .ok (.absolute ["uploads", "a.csx"]) := rfl
  have hlines : physicalLines u.text = [] ++ "//#ass \x00" :: [] := by decide +kernel
  have htrips : Trips (Sample.workshop [] []).disk (.absolute ["uploads"])
      (some (Path.absolute ["uploads", "a.csx"]).toText) "\x00" := .relative rfl
  have hname : isPlainName "a.csx" = true := by decide +kernel
  refine htold rfl hname (.line hplace hlines rfl (.file ?_ ?_ htrips))
  · decide
  · decide

end BuildScripts.Server

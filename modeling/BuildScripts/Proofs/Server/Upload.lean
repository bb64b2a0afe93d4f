import BuildScripts.Proofs.Disk.Write
import BuildScripts.Proofs.Script.Prepared
import BuildScripts.Proofs.Text.LineEnds
import BuildScripts.Server.Routes

namespace BuildScripts.Server

open BuildScripts.Text

variable {σ : Type}

structure Lists (s : Server σ) (listed : Manifest) (inside : Path) : Prop where
  chain : s.chain = serverChain (.manifest listed none) inside
  isAbsolute : s.scriptsDir.isAbsolute = true

theorem scriptsDirOf_isAbsolute {c : Config} {d : Disk} {root dir : Path}
    (h : scriptsDirOf c d root = .ok dir) : dir.isAbsolute = true := by
  rw [scriptsDirOf] at h
  split at h
  · rename_i text _
    by_cases hp : (Path.ofText text).isAbsolute = true
    · simp only [hp, if_true, Except.ok.injEq] at h
      exact h ▸ hp
    · simp only [hp, Bool.false_eq_true, if_false] at h
      rw [(Disk.resolve_eq_ok h).2]
      exact Disk.isAbsolute_fullPath d _
  · cases h

theorem placeOf_isAbsolute {s : Server σ} (h : s.scriptsDir.isAbsolute = true) (fileName : String) :
    (s.placeOf fileName).isAbsolute = true := h

theorem placeOf_starts {s : Server σ} {d : Disk} (h : s.scriptsDir.isAbsolute = true)
    (fileName : String) : d.Starts (s.placeOf fileName) :=
  Disk.starts_of_isAbsolute (placeOf_isAbsolute h fileName)

theorem key_of_create {c : Config} {lib : Library} {d : Disk} {root : Path} {s : Server Imports}
    (h : create c lib d root = .ok s) : s.key = c.connection.apiKey := by
  simp only [create, chainOf, bind, Except.bind, pure, Except.pure] at h
  split at h
  · cases h
  split at h
  · cases h
  split at h
  · cases h
  cases h
  rfl

theorem chain_of_create {c : Config} {lib : Library} {d : Disk} {root : Path} {s : Server Imports}
    (h : create c lib d root = .ok s) : ∃ inside, d.resolve s.scriptsDir = .ok inside ∧
      s.chain = serverChain (resolverOf c lib) inside ∧ s.scriptsDir.isAbsolute = true := by
  simp only [create, chainOf, bind, Except.bind, pure, Except.pure] at h
  cases hroot : d.resolve root with
  | error f => simp [hroot] at h
  | ok full =>
    cases hdir : scriptsDirOf c d full with
    | error f => simp [hroot, hdir] at h
    | ok dir =>
      cases hin : d.resolve dir with
      | error f => simp [hroot, hdir, hin] at h
      | ok inside =>
        simp only [hroot, hdir, hin, Except.ok.injEq] at h
        subst h
        exact ⟨inside, hin, rfl, scriptsDirOf_isAbsolute hdir⟩

theorem resolverOf_of_no_imports {c : Config} (hi : c.allowImports = false) (lib : Library) :
    resolverOf c lib = .manifest c.manifest none := by
  simp [resolverOf, hi]

theorem lists_of_create {c : Config} {lib : Library} {d : Disk} {root : Path} {s : Server Imports}
    (h : create c lib d root = .ok s) (hi : c.allowImports = false) :
    ∃ inside, d.resolve s.scriptsDir = .ok inside ∧ s.Lists c.manifest inside := by
  obtain ⟨inside, hin, hchain, hdir⟩ := chain_of_create h
  rw [resolverOf_of_no_imports hi] at hchain
  exact ⟨inside, hin, hchain, hdir⟩

theorem lists_of_create_linkFree {c : Config} {lib : Library} {d : Disk} {root : Path}
    {s : Server Imports} (h : create c lib d root = .ok s) (hi : c.allowImports = false)
    (hl : d.tree.LinkFree) :
    s.Lists c.manifest (.absolute (Disk.collapse [] s.scriptsDir.parts).reverse) := by
  obtain ⟨inside, hin, hlists⟩ := lists_of_create h hi
  obtain ⟨hn, rfl⟩ := Disk.resolve_eq_ok hin
  rwa [Disk.fullPath_of_linkFree hl hlists.isAbsolute] at hlists

def keep (s : Server σ) (u : Submission) : Attempt Disk Unit := do
  Disk.makeDirectories s.scriptsDir
  writeScript (s.placeOf u.fileName) u

theorem writeScript_of_ok {place : Path} {u : Submission} {d d' : Disk}
    (h : Disk.writeText place ((properText? u.content).getD "") d = .ok () d') :
    writeScript place u d =
      if (properText? u.content).isNone then .error .unpaired d' else .ok () d' := by
  rw [writeScript, Attempt.bind_of_ok h]
  split <;> rfl

theorem writeScript_of_error {place : Path} {u : Submission} {d d' : Disk} {f : Fault}
    (h : Disk.writeText place ((properText? u.content).getD "") d = .error f d') :
    writeScript place u d = .error f d' :=
  Attempt.bind_of_error h

theorem text_of_properText {u : Submission} {text : String} (h : properText? u.content = some text) :
    text = u.text :=
  (textOfCodes_of_proper h).symm

def left (s : Server σ) (u : Submission) (d : Disk) : Option String :=
  match s.keep u d with
  | .ok _ _ => some u.text
  | .error .unpaired _ => some ""
  | .error _ _ => none

theorem keep_cases (s : Server σ) (u : Submission) (d : Disk) :
    (s.left u d = none ∧ (s.keep u).after d = (Disk.makeDirectories s.scriptsDir).after d ∧
      ∃ f d', s.keep u d = .error f d' ∧ (f = .nullByte ∨ ∃ why path, f = .refused why path)) ∨
    ∃ d₁ l text, Disk.makeDirectories s.scriptsDir d = .ok () d₁ ∧
      (s.placeOf u.fileName).hasNull = false ∧ d₁.openForWriting (s.placeOf u.fileName) = .ok l ∧
      s.left u d = some text ∧ s.keep u d =
        if (properText? u.content).isNone then .error .unpaired (d₁.fill l (Utf8.encode text))
        else .ok () (d₁.fill l (Utf8.encode text)) := by
  have hnone {f : Fault} {d' : Disk} (hk : s.keep u d = .error f d')
      (hf : f = .nullByte ∨ ∃ why path, f = .refused why path) : s.left u d = none := by
    rw [left, hk]
    rcases hf with rfl | ⟨why, path, rfl⟩ <;> rfl
  cases hm : Disk.makeDirectories s.scriptsDir d with
  | error f d₁ =>
    have hk : s.keep u d = .error f d₁ := by rw [keep, Attempt.bind_of_error hm]
    have hf := Disk.makeDirectories_fault hm
    refine .inl ⟨hnone hk hf, ?_, f, d₁, hk, hf⟩
    rw [Attempt.after_of_error hk, Attempt.after_of_error hm]
  | ok _ d₁ =>
    have hkeep : s.keep u d = writeScript (s.placeOf u.fileName) u d₁ := by
      rw [keep, Attempt.bind_of_ok hm]
    cases hw : Disk.writeText (s.placeOf u.fileName) ((properText? u.content).getD "") d₁ with
    | error f d₂ =>
      rw [writeScript_of_error hw] at hkeep
      obtain ⟨rfl, hf⟩ := Disk.writeBytes_fault hw
      refine .inl ⟨hnone hkeep hf, ?_, f, d₂, hkeep, hf⟩
      rw [Attempt.after_of_error hkeep, Attempt.after_of_ok hm]
    | ok _ d₂ =>
      rw [writeScript_of_ok hw] at hkeep
      obtain ⟨hn, l, ho, rfl⟩ := Disk.writeBytes_eq_ok_iff.1 hw
      refine .inr ⟨d₁, l, (properText? u.content).getD "", rfl, hn, ho, ?_, hkeep⟩
      rw [left, hkeep]
      cases ht : properText? u.content with
      | none => rfl
      | some text => exact congrArg some (text_of_properText ht).symm

theorem keep_eq_ok_iff {s : Server σ} {u : Submission} {d d' : Disk} : s.keep u d = .ok () d' ↔
    ∃ d₁ l, Disk.makeDirectories s.scriptsDir d = .ok () d₁ ∧
      (s.placeOf u.fileName).hasNull = false ∧ d₁.openForWriting (s.placeOf u.fileName) = .ok l ∧
      (properText? u.content).isSome = true ∧ d' = d₁.fill l (Utf8.encode u.text) := by
  constructor
  · intro h
    rcases s.keep_cases u d with ⟨-, -, f, d₁, hk, -⟩ | ⟨d₁, l, text, hm, hn, ho, hleft, hk⟩
    · rw [h] at hk
      cases hk
    · rw [left, h] at hleft
      cases hleft
      rw [h] at hk
      cases ht : properText? u.content with
      | none =>
        rw [ht] at hk
        cases hk
      | some _ =>
        rw [ht] at hk
        cases hk
        exact ⟨d₁, l, hm, hn, ho, rfl, rfl⟩
  · rintro ⟨d₁, l, hm, hn, ho, ht, rfl⟩
    obtain ⟨text, ht⟩ := Option.isSome_iff_exists.1 ht
    rw [keep, Attempt.bind_of_ok hm, writeScript_of_ok (Disk.writeBytes_of_ok hn ho), ht,
      ← text_of_properText ht]
    rfl

theorem keep_fault {s : Server σ} {u : Submission} {d d' : Disk} {f : Fault}
    (h : s.keep u d = .error f d') (r : Rejection) : f ≠ .rejected r := by
  rcases s.keep_cases u d with ⟨-, -, f', _, hk, hf⟩ | ⟨_, _, _, -, -, -, -, hk⟩
  · rw [h] at hk
    cases hk
    rcases hf with rfl | ⟨why, path, rfl⟩ <;> simp
  · rw [h] at hk
    split at hk <;> cases hk
    simp

section Store

variable {s : Server σ} {listed : Manifest} {inside : Path} {u : Submission} {w : Workshop σ}

theorem store_eq_prepareText (s : Server σ) (u : Submission) (w : Workshop σ) : s.store u w =
    match prepareText s.chain w.disk u.text (s.placeOf u.fileName) w.resolver with
    | .error f t => .error (checkRejection u f) { w with resolver := t }
    | .ok a t =>
      match s.keep u w.disk with
      | .ok _ d => .ok (.ofAnalysis u.fileName (s.placeOf u.fileName) a) ⟨d, t⟩
      | .error f d => .error f ⟨d, t⟩ := by
  rw [store]
  cases h : prepareText s.chain w.disk u.text (s.placeOf u.fileName) w.resolver with
  | error f t =>
    rw [Attempt.bind_of_error]
    rw [Attempt.mapFault, Workshop.resolving, Attempt.onPart, h]
  | ok a t =>
    have hok : ((Workshop.resolving fun d => prepareText s.chain d u.text
        (s.placeOf u.fileName)).mapFault (checkRejection u)) w = .ok a { w with resolver := t } := by
      rw [Attempt.mapFault, Workshop.resolving, Attempt.onPart, h]
    rw [Attempt.bind_of_ok hok]
    simp only [keep, Workshop.onDisk, bind, EStateM.bind, Attempt.onPart]
    cases Disk.makeDirectories s.scriptsDir w.disk with
    | error f d => rfl
    | ok _ d =>
      cases hw : writeScript (s.placeOf u.fileName) u d with
      | error f d' => simp [hw]
      | ok _ d' => simp [hw]

theorem store_eq (hl : s.Lists listed inside) (u : Submission) (w : Workshop σ) : s.store u w =
    match listed.prepared inside w.disk u.text (s.placeOf u.fileName) with
    | .error f => .error (checkRejection u f) w
    | .ok a =>
      match s.keep u w.disk with
      | .ok _ d => .ok (.ofAnalysis u.fileName (s.placeOf u.fileName) a) { w with disk := d }
      | .error f d => .error f { w with disk := d } := by
  rw [store_eq_prepareText, hl.chain, prepareText_eq]
  cases listed.prepared inside w.disk u.text (s.placeOf u.fileName) <;> rfl

def receiptOf (fileName : String) (stored : Path) (ys : List Yield) : Receipt :=
  ⟨true, fileName, stored.toText, ys.filterMap Yield.reference?, ys.filterMap Yield.sourceFile?,
    ys.filterMap Yield.package?, ys.count .body⟩

theorem ofAnalysis_analysis {c : Setting} {lines : List String} {ys : List Yield}
    (h : c.yields lines = .ok ys) (fileName : String) (stored : Path) :
    Receipt.ofAnalysis fileName stored (c.analysis lines ys) = receiptOf fileName stored ys := by
  simp [Receipt.ofAnalysis, Setting.analysis, Metadata.recordAll_eq, Metadata.start, receiptOf,
    Setting.length_filter_isBodyLine h]

def faultAnswer : Fault → Response
  | .rejected r => rejection r
  | _ => .internalError

def uploadOf? (r : Request) : Option Submission :=
  if routeOf? r.path = some .upload ∧ r.method = "POST" then (readBody r).toOption else none

theorem filledText_ne_empty {v : Value} {name : String} (h : Form.filledText v = .good name) :
    name ≠ "" := by
  rintro rfl
  cases v with
  | text t =>
    rw [Form.filledText] at h
    split at h
    · cases h
    · rename_i ht
      cases h
      exact ht rfl
  | _ => cases h

theorem fileName_of_form {v : Value} (h : Submission.form v = .good u) : u.fileName ≠ "" := by
  obtain ⟨make, codes, hmake, -, rfl⟩ := Checked.apply_eq_good.1 h
  obtain ⟨name, hname, rfl⟩ := Checked.map_eq_good.1 hmake
  obtain ⟨x, -, hx⟩ := Form.member_eq_good.1 hname
  exact filledText_ne_empty hx

theorem fileName_of_readUpload {v : Value} (h : readUpload v = .ok u) : u.fileName ≠ "" := by
  rw [readUpload] at h
  split at h
  · rename_i hform
    cases h
    obtain ⟨entries, -, hgood⟩ := Form.object_eq_good.1 (Checked.under_eq_good.1 hform)
    exact fileName_of_form hgood
  · cases h

theorem readUpload_of_readBody {r : Request} (h : readBody r = .ok u) :
    ∃ v, Json.readBytes r.body = .ok v ∧ readUpload v = .ok u := by
  rw [readBody] at h
  split at h
  · cases h
  split at h
  · cases h
  cases hj : Json.readBytes r.body with
  | ok v =>
    rw [hj] at h
    exact ⟨v, rfl, h⟩
  | error f =>
    rw [hj] at h
    cases f <;> cases h

theorem uploadOf?_eq_some_iff {r : Request} : uploadOf? r = some u ↔
    (routeOf? r.path = some .upload ∧ r.method = "POST") ∧ readBody r = .ok u := by
  rw [uploadOf?]
  split
  · rename_i hr
    cases readBody r <;> simp [Except.toOption, hr]
  · rename_i hr
    simp [hr]

theorem fileName_of_uploadOf {r : Request} (h : uploadOf? r = some u) : u.fileName ≠ "" := by
  obtain ⟨v, -, hv⟩ := readUpload_of_readBody (uploadOf?_eq_some_iff.1 h).2
  exact fileName_of_readUpload hv

theorem isName_of_isPlainName {name : String} (hne : name ≠ "") (h : isPlainName name = true) :
    IsName name := by
  simp only [isPlainName, Bool.and_eq_true, bne_iff_ne] at h
  exact ⟨hne, h.1.2, h.2⟩

theorem answer_of_upload {r : Request} (h : uploadOf? r = some u) (s : Server σ) :
    s.answer r = s.upload (r.header? "authorization") u ∧ ∀ a, shownTo r a = a := by
  obtain ⟨⟨hroute, hmethod⟩, hbody⟩ := uploadOf?_eq_some_iff.1 h
  have hpost : Route.upload.methods.contains r.method = true := by
    rw [hmethod]
    rfl
  refine ⟨?_, fun a => if_neg (by rw [hmethod]; decide)⟩
  unfold answer
  rw [hroute]
  simp only [hpost, if_true, follow, hbody]

theorem handle_of_upload {r : Request} (h : uploadOf? r = some u) (s : Server σ) (w : Workshop σ) :
    s.handle r w =
      match s.upload (r.header? "authorization") u w with
      | .ok a w' => (a, w')
      | .error _ w' => (.internalError, w') := by
  obtain ⟨hanswer, hshow⟩ := answer_of_upload h s
  unfold handle
  rw [hanswer]
  cases s.upload (r.header? "authorization") u w with
  | ok a w' => exact congrArg (·, w') (hshow a)
  | error f w' => exact congrArg (·, w') (hshow .internalError)

theorem handle_of_no_upload {r : Request} (h : uploadOf? r = none) (s s' : Server σ)
    (hs : s'.scriptsDir = s.scriptsDir) (w w' : Workshop σ) :
    (s.handle r w).2 = w ∧ (s'.handle r w').1 = (s.handle r w).1 := by
  have hanswer : ∃ a, s.answer r = pure a ∧ s'.answer r = pure a := by
    cases hr : routeOf? r.path with
    | none => exact ⟨elsewhere r, by unfold answer; rw [hr], by unfold answer; rw [hr]⟩
    | some route =>
      unfold answer
      by_cases hm : route.methods.contains r.method = true
      · simp only [hr, hm, if_true]
        cases route with
        | health => exact ⟨s.health, rfl, by rw [follow, health, health, hs]⟩
        | page => exact ⟨_, rfl, rfl⟩
        | upload =>
          have hpost : r.method = "POST" := List.mem_singleton.1 (List.contains_iff_mem.1 hm)
          cases hb : readBody r with
          | error a => exact ⟨a, by rw [follow, hb], by rw [follow, hb]⟩
          | ok u =>
            rw [uploadOf?, if_pos ⟨hr, hpost⟩, hb] at h
            cases h
      · simp only [hr, hm, Bool.false_eq_true, if_false]
        exact ⟨_, rfl, rfl⟩
  obtain ⟨a, ha, ha'⟩ := hanswer
  unfold handle
  rw [ha, ha']
  exact ⟨rfl, rfl⟩

theorem upload_of_plain {header : Option String} (ha : s.authorizes header = true)
    (hn : isPlainName u.fileName = true) : s.upload header u = fun w =>
      match s.store u w with
      | .ok receipt w' => .ok (.ofJson 200 receipt.toValue) w'
      | .error (.rejected r) w' => .ok (rejection r) w'
      | .error f w' => .error f w' := by
  rw [upload, ha, hn]
  rfl

theorem handle_upload (hl : s.Lists listed inside) {r : Request} (hu : uploadOf? r = some u) :
    s.handle r w =
      if !s.authorizes (r.header? "authorization") then (unauthorized, w)
      else if !isPlainName u.fileName then (badName u.fileName, w)
      else
        match listed.prepared inside w.disk u.text (s.placeOf u.fileName) with
        | .error f => (faultAnswer (checkRejection u f), w)
        | .ok a =>
          match s.keep u w.disk with
          | .ok _ d =>
            (.ofJson 200 (Receipt.ofAnalysis u.fileName (s.placeOf u.fileName) a).toValue,
              { w with disk := d })
          | .error _ d => (.internalError, { w with disk := d }) := by
  rw [handle_of_upload hu]
  cases ha : s.authorizes (r.header? "authorization") with
  | false => simp [upload, ha]
  | true =>
    cases hn : isPlainName u.fileName with
    | false => simp [upload, ha, hn]
    | true =>
      simp only [upload_of_plain ha hn, store_eq hl, Bool.not_true, Bool.false_eq_true, if_false]
      cases listed.prepared inside w.disk u.text (s.placeOf u.fileName) with
      | error f =>
        simp only [faultAnswer]
        cases checkRejection u f <;> rfl
      | ok a =>
        cases hk : s.keep u w.disk with
        | ok _ d => rfl
        | error f d =>
          have hf := keep_fault hk
          cases f with
          | rejected r => exact absurd rfl (hf r)
          | _ => rfl

theorem faultAnswer_status (f : Fault) : (faultAnswer f).status ≠ 200 := by
  cases f <;> simp [faultAnswer, rejection, Response.withDetail, Response.ofJson,
    Response.internalError, Response.ofText]

theorem canShowLine_of_proper (h : (properText? u.content).isSome = true) (number : Nat) :
    u.canShowLine number = true := by
  have hno : ∀ n ∈ u.content, isHalf n = false := by
    rw [properText?] at h
    split at h
    · cases h
    · rename_i hany
      simpa using hany
  rw [Submission.canShowLine]
  cases hl : (u.content.splitOn '\n'.toNat)[number - 1]? with
  | none => rfl
  | some l =>
    have hm := List.mem_of_getElem? hl
    simp only [Option.any_some, Bool.not_eq_true', List.any_eq_false, Bool.not_eq_true]
    exact fun n hn => hno n (mem_of_mem_splitOn hm hn)

theorem checkRejection_of_proper (h : (properText? u.content).isSome = true) (f : Fault) :
    checkRejection u f = f := by
  cases f with
  | rejected r =>
    rw [checkRejection, if_pos]
    cases r.lineNumber with
    | none => rfl
    | some n => exact canShowLine_of_proper h n
  | _ => rfl

theorem handle_eq_of_status (hl : s.Lists listed inside) {r : Request} (hu : uploadOf? r = some u)
    (h : (s.handle r w).1.status = 200) :
    ∃ full ys d', w.disk.resolve (s.placeOf u.fileName) = .ok full ∧
      (listed.setting inside w.disk full).yields (physicalLines u.text) = .ok ys ∧
      s.keep u w.disk = .ok () d' ∧ s.handle r w =
        (.ofJson 200 (receiptOf u.fileName (s.placeOf u.fileName) ys).toValue,
          { w with disk := d' }) := by
  have hrun := handle_upload (w := w) hl hu
  cases ha : s.authorizes (r.header? "authorization") with
  | false =>
    rw [hrun, ha] at h
    cases h
  | true =>
    cases hn : isPlainName u.fileName with
    | false =>
      rw [hrun, ha, hn] at h
      cases h
    | true =>
      rw [ha, hn] at hrun
      cases hp : listed.prepared inside w.disk u.text (s.placeOf u.fileName) with
      | error f =>
        rw [hrun, hp] at h
        exact absurd h (faultAnswer_status _)
      | ok a =>
        obtain ⟨full, ys, hr, hy, rfl⟩ := prepared_eq_ok_iff.1 hp
        cases hk : s.keep u w.disk with
        | error f d =>
          rw [hrun, hp, hk] at h
          cases h
        | ok _ d =>
          refine ⟨full, ys, d, hr, hy, rfl, ?_⟩
          rw [hrun, hp, hk, ← ofAnalysis_analysis hy]
          rfl

end Store

namespace Sample

def request (fileName content : String) : Request :=
  ⟨"POST", ⟨"http", "", "localhost", none, "/api/scripts/upload", none, none⟩,
    [("content-type", "application/json")],
    Utf8.encode ("\x7b\"file_name\": \"" ++ fileName ++ "\", \"content\": " ++ content ++ "\x7d")⟩

def config : Config :=
  { Config.initial with scriptsDir := .text "/uploads" }

def library : Library :=
  ⟨[], "/usr/bin/env"⟩

def server : Server Imports :=
  ⟨.text "", .absolute ["uploads"], serverChain (.manifest [] none) (.absolute ["uploads"])⟩

def workshop (files : List (String × String)) (directories : List String) : Workshop Imports :=
  ⟨⟨⟨(["uploads"], .directory) :: directories.map (fun name => ([name], .directory)) ++
    files.map fun (name, text) => ([name, "uploads"], .file (Utf8.encode text))⟩, []⟩, .empty⟩

theorem create_config : create config library (workshop [] []).disk (.absolute []) = .ok server :=
  rfl

end Sample

end BuildScripts.Server

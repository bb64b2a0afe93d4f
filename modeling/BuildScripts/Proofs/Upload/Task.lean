import Mathlib.Data.String.Basic
import BuildScripts.Proofs.Disk.Content
import BuildScripts.Proofs.Disk.Directories
import BuildScripts.Proofs.Script.Repeat
import BuildScripts.Proofs.Text.LineEnds
import BuildScripts.Proofs.Upload.Address
import BuildScripts.Upload.Task

namespace BuildScripts

open Attempt
open BuildScripts.Text

theorem isPlainName_of_isPart {name : String} (hn : IsName name) (hs : Slashless name)
    (hback : '\\' ∉ name.toList) : Server.isPlainName name = true := by
  have hslash : name.toList.contains '/' = false := by simpa [Slashless] using hs
  have hbackslash : name.toList.contains '\\' = false := by simpa using hback
  rw [Server.isPlainName, hslash, hbackslash, bne_iff_ne.2 hn.notHere, bne_iff_ne.2 hn.notUp]
  rfl

/-! ### How many lines a script has -/

section Lines

theorem length_unifyEnds_le (cs : List Char) : (unifyEnds cs).length ≤ cs.length := by
  fun_induction unifyEnds cs with
  | case1 => exact Nat.le_refl _
  | case2 cs ih => simp only [List.length_cons]; omega
  | case3 cs _ ih => simp only [List.length_cons]; omega
  | case4 c cs _ _ ih => simp only [List.length_cons]; omega

theorem length_unifyLineEnds_le (text : String) : (unifyLineEnds text).length ≤ text.length := by
  rw [unifyLineEnds, String.length_ofList]
  exact length_unifyEnds_le text.toList

theorem length_splitLines_le (cs : List Char) : (splitLines cs).length ≤ cs.length := by
  induction cs with
  | nil => exact Nat.le_refl _
  | cons c cs ih =>
    by_cases hc : c = '\n'
    · rw [hc, splitLines_line_feed, List.length_cons, List.length_cons]
      omega
    · rw [splitLines_cons_of_ne hc, List.length_cons]
      cases hs : splitLines cs with
      | nil => simp
      | cons l ls =>
        rw [hs, List.length_cons] at ih
        simp only [List.length_cons]
        omega

theorem length_physicalLines_le (text : String) : (physicalLines text).length ≤ text.length := by
  rw [physicalLines, List.length_map]
  exact length_splitLines_le text.toList

theorem length_le_size {bytes : ByteArray} {raw : String} (h : Utf8.decode bytes = .ok raw) :
    raw.length ≤ bytes.size := by
  have hlen (cs : List Char) : cs.length ≤ String.utf8Len cs := by
    induction cs with
    | nil => exact Nat.le_refl _
    | cons c cs ih =>
      have hpos := c.utf8Size_pos
      rw [List.length_cons, String.utf8Len_cons]
      omega
  have hsize : bytes.size = raw.utf8ByteSize := congrArg ByteArray.size (Utf8.encode_of_decode h).symm
  rw [hsize, ← String.ofList_toList (s := raw), String.utf8ByteSize_ofList, String.ofList_toList]
  exact hlen raw.toList

variable {σ : Type} {chain : Chain σ} {d : Disk}

theorem length_scanLines_le {lines body : List String} {s s' : Scan σ}
    (h : scanLines chain d lines s = .ok body s') : body.length ≤ lines.length := by
  induction lines generalizing body s s' with
  | nil =>
    cases h
    exact Nat.le_refl _
  | cons line lines ih =>
    rw [scanLines, bind_eq_ok] at h
    obtain ⟨taken, s₁, -, h⟩ := h
    rw [bind_eq_ok] at h
    obtain ⟨rest, s₂, hrest, h⟩ := h
    have hle := ih hrest
    cases h
    split
    · exact Nat.le_succ_of_le hle
    · exact Nat.succ_le_succ hle

theorem length_bodyLines_le {text : String} {p : Path} {a : Analysis} {r r' : σ}
    (h : prepareText chain d text p r = .ok a r') : a.bodyLines.length ≤ text.length := by
  rw [prepareText, bind_eq_ok] at h
  obtain ⟨full, r₁, -, h⟩ := h
  rw [mapFault_eq_ok, analyseText, analyseLines] at h
  split at h
  · rename_i body s' hscan
    cases h
    exact (length_scanLines_le hscan).trans (length_physicalLines_le text)
  · cases h

end Lines

/-! ### The task -/

section Task

variable {ω : Type} {t : UploadTask ω} {j : UploadJob ω} {w' : ω} {text : String} {receipt : Receipt}
  {f : Fault}

theorem Client.uploadFile_eq {c : Client} {send : Transport ω} {disk : ω → Disk} {script : Path}
    {w : ω} (hread : (disk w).readText script = .ok text) (hname : script.name ≠ "") :
    c.uploadFile send disk script w = c.upload send ⟨script.name, text⟩ w := by
  have hasking : Attempt.asking (fun w => (disk w).readText script) w = .ok text w := by
    rw [asking, hread]
    rfl
  rw [uploadFile, bind_of_ok hasking, Upload.of_eq_ok hname, ofExcept_bind_ok rfl]

def UploadTask.begun (t : UploadTask ω) (j : UploadJob ω) : UploadJob ω :=
  { j with
    client := j.client.configure t.connection
    messages := j.messages ++ [opening t.script (j.client.configure t.connection)] }

theorem UploadTask.perform_eq (t : UploadTask ω) (j : UploadJob ω) : t.perform j =
    (UploadJob.inWorld ((j.client.configure t.connection).uploadFile t.send t.disk t.script) >>=
      fun receipt => do
        modify fun j => { j with receipt := some receipt }
        UploadJob.log ("uploaded script stored at " ++ receipt.storedPath)) (t.begun j) := rfl

theorem UploadTask.execute_of_ok (h : (j.client.configure t.connection).uploadFile t.send t.disk
    t.script j.world = .ok receipt w') :
    ∃ j', t.execute j = .ok () j' ∧ j'.world = w' ∧ j'.receipt = some receipt := by
  have hworld : UploadJob.inWorld ((j.client.configure t.connection).uploadFile t.send t.disk t.script)
      (t.begun j) = .ok receipt { t.begun j with world := w' } := by
    rw [UploadJob.inWorld, onPart, begun, h]
  refine ⟨⟨w', (t.begun j).client, (t.begun j).messages ++
    ["uploaded script stored at " ++ receipt.storedPath], some receipt⟩, ?_, rfl, rfl⟩
  rw [execute, Task.execute, mapFault_eq_ok, perform_eq, bind_of_ok hworld]
  rfl

theorem UploadTask.execute_of_error (h : (j.client.configure t.connection).uploadFile t.send t.disk
    t.script j.world = .error f w') :
    ∃ j', t.execute j = .error (Task.underName name f) j' ∧ j'.world = w' := by
  have hworld : UploadJob.inWorld ((j.client.configure t.connection).uploadFile t.send t.disk t.script)
      (t.begun j) = .error f { t.begun j with world := w' } := by
    rw [UploadJob.inWorld, onPart, begun, h]
  refine ⟨{ t.begun j with world := w' }, ?_, rfl⟩
  rw [execute, Task.execute, mapFault, perform_eq, bind_of_error hworld]

end Task

/-! ### Client and server of one configuration -/

def Server.Takes {σ : Type} (s : Server σ) (d : Disk) (name : String) : Prop :=
  ∃ d₁ l, Disk.makeDirectories s.scriptsDir d = .ok () d₁ ∧
    d₁.openForWriting (s.placeOf name) = .ok l ∧ d₁.tree.get? l ≠ some .sink

def Server.uploadTask {σ : Type} (s : Server σ) (c : Config) (script : Path) :
    UploadTask (Workshop σ) :=
  ⟨c.connection, script, Workshop.disk, s.sharedTransport⟩

def Config.client (c : Config) : Client :=
  Client.blank.configure c.connection

section Stored

variable {σ : Type} {s : Server σ} {w : Workshop σ} {r : σ}

theorem Server.keep_of_takes (hdir : s.scriptsDir.isAbsolute = true) {d : Disk} (hg : d.tree.Grounded)
    {up : Upload} (hname : NoNull up.fileName) (h : s.Takes d up.fileName) :
    ∃ d' l, s.keep (Client.submission up) d = .ok () d' ∧
      d'.find (s.placeOf up.fileName) = .ok (l, .file (Utf8.encode up.content)) := by
  obtain ⟨d₁, l, hmake, hopen, hsink⟩ := h
  have hstarts := Disk.starts_of_isAbsolute (d := d) hdir
  have hmade := Disk.made_of_makeDirectories hg hstarts
  rw [Attempt.after_of_ok hmake] at hmade
  have hnull : (s.placeOf up.fileName).hasNull = false :=
    Path.hasNull_child.2 ⟨(Disk.testEntry_eq_true_iff.1
      (Disk.isDirectory_of_makeDirectories hg hstarts hmake)).1, hname⟩
  refine ⟨d₁.fill l (Utf8.encode (Client.submission up).text), l,
    Server.keep_eq_ok_iff.2 ⟨d₁, l, hmake, hnull, hopen, Client.isProper_submission up, rfl⟩, ?_⟩
  rw [Client.text_submission, Disk.find_of_fill hmade.grounded (Server.placeOf_starts hdir _) hopen,
    Disk.filled_of_ne_sink hsink]

theorem Server.store_of_prepared (hdir : s.scriptsDir.isAbsolute = true) (hg : w.disk.tree.Grounded)
    (up : Upload) (hname : NoNull up.fileName) (htakes : s.Takes w.disk up.fileName) {a : Analysis}
    (h : prepareText s.chain w.disk up.content (s.placeOf up.fileName) w.resolver = .ok a r) :
    ∃ d' l, s.store (Client.submission up) w =
        .ok (.ofAnalysis up.fileName (s.placeOf up.fileName) a) ⟨d', r⟩ ∧
      d'.find (s.placeOf up.fileName) = .ok (l, .file (Utf8.encode up.content)) := by
  obtain ⟨d', l, hkeep, hfind⟩ := keep_of_takes hdir hg hname htakes
  refine ⟨d', l, ?_, hfind⟩
  have hprepared : prepareText s.chain w.disk (Client.submission up).text
      (s.placeOf (Client.submission up).fileName) w.resolver = .ok a r := by
    rw [Client.text_submission]
    exact h
  rw [store_eq_prepareText, hprepared, hkeep]
  rfl

theorem Server.store_of_rejected (up : Upload) {rejection : Rejection}
    (h : prepareText s.chain w.disk up.content (s.placeOf up.fileName) w.resolver =
      .error (.rejected rejection) r) :
    s.store (Client.submission up) w = .error (.rejected rejection) { w with resolver := r } := by
  have hprepared : prepareText s.chain w.disk (Client.submission up).text
      (s.placeOf (Client.submission up).fileName) w.resolver = .error (.rejected rejection) r := by
    rw [Client.text_submission]
    exact h
  rw [store_eq_prepareText, hprepared]
  exact congrArg (EStateM.Result.error · _) (checkRejection_of_proper (Client.isProper_submission up) _)

end Stored

/-- With a server of its own configuration, an upload task stores what passes the server's analysis and
keeps its receipt. What is rejected fails it with status 422 and changes nothing. The key that is sent
is always the one that is asked for. -/
theorem uploadTask_execute {c : Config} {lib : Library} {d₀ : Disk} {root : Path} {s : Server Imports}
    (hs : Server.create c lib d₀ root = .ok s) {u : Url} (hreach : c.client.Reaches u)
    (hascii : ∀ ch ∈ c.connection.apiKey.toText.toList, Client.isAscii ch = true)
    {w : Workshop Imports} (hg : w.disk.tree.Grounded) {path : String} {bytes : ByteArray}
    {raw : String} (hbytes : w.disk.readBytes (Path.ofText path) = .ok bytes)
    (hraw : Utf8.decode bytes = .ok raw) (hsize : bytes.size < 10 ^ Json.longest) {name : String}
    (hname : (Path.ofText path).name = name) (hback : '\\' ∉ name.toList) :
    (∀ a r, prepareText s.chain w.disk (unifyLineEnds raw) (s.placeOf name) w.resolver = .ok a r →
      s.Takes w.disk name →
      ∃ job l', (s.uploadTask c (Path.ofText path)).execute (.start w .blank) = .ok () job ∧
        job.receipt = some (.ofAnalysis name (s.placeOf name) a) ∧
        job.world.disk.find (s.placeOf name) =
          .ok (l', .file (Utf8.encode (unifyLineEnds raw)))) ∧
    (∀ rejection r, prepareText s.chain w.disk (unifyLineEnds raw) (s.placeOf name) w.resolver =
        .error (.rejected rejection) r →
      ∃ message job, (s.uploadTask c (Path.ofText path)).execute (.start w .blank) =
          .error (.task UploadTask.name (.webApi message (some 422))) job ∧
        job.world.disk = w.disk) ∧
    ∃ req, c.client.request ⟨name, unifyLineEnds raw⟩ = .ok req ∧
      ∀ w', (s.handle req w').1.status ≠ 401 := by
  have hkey : s.key = c.client.apiKey := Server.key_of_create hs
  obtain ⟨inside, -, -, hdir⟩ := Server.chain_of_create hs
  obtain ⟨hnull, -⟩ := Disk.readBytes_eq_ok_iff.1 hbytes
  obtain ⟨hisName, hmem⟩ := Disk.isName_of_readBytes (fun part hpart => Path.isPart_of_mem_ofText hpart)
    hbytes
  have hplain := isPlainName_of_isPart hisName (Path.isPart_of_mem_ofText hmem).slashless
    (hname ▸ hback)
  have hnoNull := Path.hasNull_eq_false_iff.1 hnull _ hmem
  have hread := Disk.readText_of_readBytes hbytes hraw
  rw [hname] at hisName hplain hnoNull
  have hsent : c.client.uploadFile s.sharedTransport Workshop.disk (Path.ofText path) w =
      c.client.upload s.sharedTransport ⟨name, unifyLineEnds raw⟩ w := by
    rw [Client.uploadFile_eq hread (hname ▸ hisName.notEmpty), hname]
  obtain ⟨hstored, hfailed⟩ :=
    Client.upload_sharedTransport hreach hkey hascii ⟨name, unifyLineEnds raw⟩ hisName.notEmpty hplain w
  refine ⟨fun a r hprepared htakes => ?_, fun rejection r hrejected => ?_,
    _, Client.request_eq hreach hascii _, Client.status_requestTo hreach hkey hisName.notEmpty hplain⟩
  · obtain ⟨d', l', hstore, hfind⟩ :=
      Server.store_of_prepared hdir hg ⟨name, unifyLineEnds raw⟩ hnoNull htakes hprepared
    have hlines : a.bodyLines.length ≤ bytes.size :=
      calc a.bodyLines.length ≤ (unifyLineEnds raw).length := length_bodyLines_le hprepared
        _ ≤ raw.length := length_unifyLineEnds_le raw
        _ ≤ bytes.size := length_le_size hraw
    obtain ⟨job, hexecute, hworld, hreceipt⟩ := UploadTask.execute_of_ok
      (t := s.uploadTask c (Path.ofText path)) (j := .start w .blank)
      (hsent.trans (hstored _ _ hstore (hlines.trans_lt hsize)))
    exact ⟨job, l', hexecute, hreceipt, hworld ▸ hfind⟩
  · obtain ⟨job, hexecute, hworld⟩ := UploadTask.execute_of_error
      (t := s.uploadTask c (Path.ofText path)) (j := .start w .blank)
      (hsent.trans (hfailed _ _ (Server.store_of_rejected ⟨name, unifyLineEnds raw⟩ hrejected)))
    exact ⟨_, job, hexecute, by rw [hworld]⟩

namespace UploadTask.Sample

def config (endpoint apiKey : String) : Config :=
  { Server.Sample.config with
    connection := ⟨.text endpoint, .text apiKey, .float Config.defaultTimeout⟩ }

def server (apiKey : String) : Server Imports :=
  { Server.Sample.server with key := .text apiKey }

def workshop : Workshop Imports :=
  ⟨⟨⟨[(["uploads"], .directory), (["run.csx"], .file (Utf8.encode "Run();\r\n")),
    (["use.csx"], .file (Utf8.encode "//#ass x"))]⟩, []⟩, .empty⟩

def devices : Workshop Imports :=
  ⟨⟨⟨[(["uploads"], .directory), (["null", "uploads"], .sink),
    (["null"], .file (Utf8.encode "Run();\n"))]⟩, []⟩, .empty⟩

theorem create_config (endpoint apiKey : String) : Server.create (config endpoint apiKey)
    Server.Sample.library workshop.disk (.absolute []) = .ok (server apiKey) :=
  rfl

theorem takes_run (apiKey : String) : (server apiKey).Takes workshop.disk "run.csx" := by
  refine ⟨workshop.disk, ["run.csx", "uploads"], rfl, rfl, ?_⟩
  rintro ⟨⟩

theorem prepared_run (apiKey : String) : ∃ a, prepareText (server apiKey).chain workshop.disk "Run();\n"
    ((server apiKey).placeOf "run.csx") workshop.resolver = .ok a workshop.resolver :=
  ⟨_, rfl⟩

theorem rejected_use : ∃ rejection r, prepareText (server "k").chain workshop.disk "//#ass x"
    ((server "k").placeOf "use.csx") workshop.resolver = .error (.rejected rejection) r := by
  have htold : (prepareText (server "k").chain workshop.disk "//#ass x"
      ((server "k").placeOf "use.csx")).rejects workshop.resolver = true := by decide +kernel
  exact rejected_of_rejects htold

end UploadTask.Sample

section Sample

open UploadTask.Sample

theorem uploadTask_execute_both :
    (∃ job a l, ((server "k").uploadTask (config "http://h:1/" "k") (Path.ofText "/run.csx")).execute
        (.start workshop .blank) = .ok () job ∧
      job.receipt = some (.ofAnalysis "run.csx" ((server "k").placeOf "run.csx") a) ∧
      job.world.disk.find ((server "k").placeOf "run.csx") =
        .ok (l, .file (Utf8.encode "Run();\n"))) ∧
    ∃ message job, ((server "k").uploadTask (config "http://h:1/" "k") (Path.ofText "/use.csx")).execute
        (.start workshop .blank) =
          .error (.task UploadTask.name (.webApi message (some 422))) job ∧
      job.world.disk = workshop.disk := by
  have hurl : Url.read "http://h:1/" = .ok ⟨"http", "", "h", some 1, "/", none, none⟩ := rfl
  have hbeyond : Url.beyondServer "http://h:1/" = ['/'] := rfl
  have hreach := Client.reaches_of_server (c := (config "http://h:1/" "k").client) rfl hurl rfl
    (by simp [hbeyond]) (by decide +kernel) fun _ => rfl
  have hkey : (config "http://h:1/" "k").connection.apiKey.toText.toList = ['k'] := rfl
  have hascii : ∀ ch ∈ (config "http://h:1/" "k").connection.apiKey.toText.toList,
      Client.isAscii ch = true := by
    rw [hkey, List.forall_mem_singleton]
    rfl
  have hgrounded : workshop.disk.tree.Grounded := Tree.grounded_of_isGrounded (by decide +kernel)
  constructor
  · have hread : workshop.disk.readBytes (Path.ofText "/run.csx") = .ok (Utf8.encode "Run();\r\n") := rfl
    have hunified : unifyLineEnds "Run();\r\n" = "Run();\n" := rfl
    have h := uploadTask_execute (create_config _ _) hreach hascii hgrounded hread
      (Utf8.decode_encode _) (by decide +kernel) rfl (by decide)
    rw [hunified] at h
    obtain ⟨a, hprepared⟩ := prepared_run "k"
    obtain ⟨job, l, hexecute, hreceipt, hfind⟩ := h.1 a _ hprepared (takes_run "k")
    exact ⟨job, a, l, hexecute, hreceipt, hfind⟩
  · have hread : workshop.disk.readBytes (Path.ofText "/use.csx") = .ok (Utf8.encode "//#ass x") := rfl
    have hunified : unifyLineEnds "//#ass x" = "//#ass x" := by decide +kernel
    have h := uploadTask_execute (create_config _ _) hreach hascii hgrounded hread
      (Utf8.decode_encode _) (by decide +kernel) rfl (by decide)
    rw [hunified] at h
    obtain ⟨rejection, r, hrejected⟩ := rejected_use
    exact h.2.1 rejection r hrejected

theorem uploadTask_execute_astray :
    (Server.create (config "http://h/base" "") Server.Sample.library workshop.disk (.absolute []) =
        .ok (server "") ∧
      workshop.disk.readBytes (Path.ofText "/run.csx") = .ok (Utf8.encode "Run();\r\n") ∧
      (∃ a, prepareText (server "").chain workshop.disk "Run();\n" ((server "").placeOf "run.csx")
        workshop.resolver = .ok a workshop.resolver) ∧ (server "").Takes workshop.disk "run.csx" ∧
      ∀ job, ((server "").uploadTask (config "http://h/base" "") (Path.ofText "/run.csx")).execute
        (.start workshop .blank) ≠ .ok () job) ∧
    (Server.create (config "http://user@h" "k") Server.Sample.library workshop.disk (.absolute []) =
        .ok (server "k") ∧
      ∃ req, (config "http://user@h" "k").client.request ⟨"run.csx", "Run();\n"⟩ = .ok req ∧
        ((server "k").handle req workshop).1.status = 401) ∧
    Server.create (config "http://h" "") Server.Sample.library devices.disk (.absolute []) =
        .ok (server "") ∧
      devices.disk.readBytes (Path.ofText "/null") = .ok (Utf8.encode "Run();\n") ∧
      ∃ job, ((server "").uploadTask (config "http://h" "") (Path.ofText "/null")).execute
          (.start devices .blank) = .ok () job ∧
        job.world.disk.tree.holdsFile ["null", "uploads"] (fun _ => true) = false := by
  refine ⟨⟨rfl, rfl, prepared_run "", takes_run "", fun job h => ?_⟩, ⟨rfl, ?_⟩, rfl, rfl, ?_⟩
  · have hfails : ((server "").uploadTask (config "http://h/base" "") (Path.ofText "/run.csx")).execute.leaves
        (.start workshop .blank) (fun _ => true) = false := by decide +kernel
    rw [leaves, h] at hfails
    cases hfails
  · have htold : ((config "http://user@h" "k").client.request ⟨"run.csx", "Run();\n"⟩).toOption.any
        (fun req => ((server "k").handle req workshop).1.status == 401) = true := by decide +kernel
    cases hreq : (config "http://user@h" "k").client.request ⟨"run.csx", "Run();\n"⟩ with
    | error f =>
      rw [hreq] at htold
      cases htold
    | ok req =>
      rw [hreq] at htold
      exact ⟨req, rfl, beq_iff_eq.1 htold⟩
  · have hkept : ((server "").uploadTask (config "http://h" "") (Path.ofText "/null")).execute.leaves
        (.start devices .blank) (fun job => job.world.disk.tree.holdsFile ["null", "uploads"]
          (fun _ => true) == false) = true := by decide +kernel
    obtain ⟨_, job, hexecute, hnone⟩ := ok_of_leaves hkept
    exact ⟨job, hexecute, beq_iff_eq.1 hnone⟩

end Sample

end BuildScripts

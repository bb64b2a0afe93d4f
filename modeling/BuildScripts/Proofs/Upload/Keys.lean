import BuildScripts.Proofs.Upload.Task

namespace BuildScripts

open Attempt
open BuildScripts.Text

variable {ω α β : Type}

/-! ### Configurations one after the other -/

def fill (old new : Value) : Value :=
  if old.truthy then old else new

theorem foldl_fill_of_truthy {v : Value} (h : v.truthy = true) (vs : List Value) :
    vs.foldl fill v = v := by
  induction vs with
  | nil => rfl
  | cons x vs ih =>
    rw [List.foldl_cons, fill, if_pos h]
    exact ih

theorem find?_truthy {v : Value} (h : v.truthy = false) (vs : List Value) :
    vs.find? Value.truthy = if (vs.foldl fill v).truthy then some (vs.foldl fill v) else none := by
  induction vs generalizing v with
  | nil => simp [h]
  | cons x vs ih =>
    have hx : fill v x = x := if_neg (by simp [h])
    rw [List.foldl_cons, hx]
    cases ht : x.truthy with
    | true => rw [List.find?_cons_of_pos ht, foldl_fill_of_truthy ht, if_pos ht]
    | false =>
      rw [List.find?_cons_of_neg (by simp [ht])]
      exact ih ht

namespace Client

def configureAll (ks : List Connection) (c : Client) : Client :=
  ks.foldl (fun c k => c.configure k) c

theorem baseUrl_configureAll (ks : List Connection) (c : Client) :
    (c.configureAll ks).baseUrl = (ks.map Connection.endpoint).foldl fill c.baseUrl := by
  induction ks generalizing c with
  | nil => rfl
  | cons k ks ih => exact ih (c.configure k)

theorem apiKey_configureAll (ks : List Connection) (c : Client) :
    (c.configureAll ks).apiKey = (ks.map Connection.apiKey).foldl fill c.apiKey := by
  induction ks generalizing c with
  | nil => rfl
  | cons k ks ih => exact ih (c.configure k)

end Client

def Connection.bearer (k : Connection) : String :=
  "Bearer " ++ k.apiKey.toText

def Connection.Addresses (k : Connection) (u : Url) : Prop :=
  ∃ s v, k.endpoint = .text s ∧ Url.read (withoutEnd '/' s ++ Client.uploadPath) = .ok v ∧
    u = v.forSending

def Request.shownKey? (r : Request) : Option String :=
  if r.url.basicAuthorization?.isSome then none else r.header? "authorization"

namespace Client

variable {c : Client} {ks : List Connection} {up : Upload} {req : Request}

theorem request_eq_ok (h : c.request up = .ok req) :
    ∃ s u, c.address = .ok s ∧ Url.read s = .ok u ∧ req = c.requestTo u.forSending up := by
  obtain ⟨s, hs, h⟩ := except_bind_eq_ok.1 h
  obtain ⟨u, hu, h⟩ := except_bind_eq_ok.1 h
  refine ⟨s, u, hs, hu, ?_⟩
  cases hb : c.bearer? with
  | none =>
    rw [hb] at h
    exact (Except.ok.inj h).symm
  | some b =>
    rw [hb] at h
    obtain ⟨⟨⟩, -, h⟩ := except_bind_eq_ok.1 h
    exact (Except.ok.inj h).symm

theorem address_eq_ok {s : String} (h : c.address = .ok s) :
    c.baseUrl.truthy = true ∧
      ∃ text, c.baseUrl = .text text ∧ s = withoutEnd '/' text ++ uploadPath := by
  rw [address] at h
  split at h
  · rename_i ht
    split at h
    · rename_i text hb
      cases h
      exact ⟨ht, text, hb, rfl⟩
    · cases h
    · cases h
  · cases h

theorem addressed (hurl : c.baseUrl.truthy = false)
    (h : (c.configureAll ks).request up = .ok req) :
    ∃ k, ks.find? (·.endpoint.truthy) = some k ∧ k.Addresses req.url := by
  obtain ⟨s, u, hs, hu, rfl⟩ := request_eq_ok h
  obtain ⟨ht, text, hbase, rfl⟩ := address_eq_ok hs
  have hfind := find?_truthy hurl (ks.map Connection.endpoint)
  rw [← baseUrl_configureAll, if_pos ht, List.find?_map] at hfind
  obtain ⟨k, hk, hendpoint⟩ := Option.map_eq_some_iff.1 hfind
  exact ⟨k, hk, text, u, hendpoint.trans hbase, hu, rfl⟩

theorem bearer?_configureAll (hkey : c.apiKey.truthy = false) :
    (c.configureAll ks).bearer? = (ks.find? (·.apiKey.truthy)).map Connection.bearer := by
  have hfind := find?_truthy hkey (ks.map Connection.apiKey)
  rw [← apiKey_configureAll, List.find?_map] at hfind
  rw [bearer?]
  split
  · rename_i ht
    rw [if_pos ht] at hfind
    obtain ⟨k, hk, happ⟩ := Option.map_eq_some_iff.1 hfind
    have hpick : ks.find? (·.apiKey.truthy) = some k := hk
    rw [hpick, Option.map_some, Connection.bearer, happ]
  · rename_i ht
    rw [if_neg ht] at hfind
    have hnone : ks.find? (·.apiKey.truthy) = none := Option.map_eq_none_iff.1 hfind
    rw [hnone, Option.map_none]

theorem shown (hkey : c.apiKey.truthy = false) (h : (c.configureAll ks).request up = .ok req) :
    req.shownKey? = if req.url.basicAuthorization?.isSome then none
      else (ks.find? (·.apiKey.truthy)).map Connection.bearer := by
  obtain ⟨s, u, -, -, rfl⟩ := request_eq_ok h
  rw [Request.shownKey?]
  split
  · rfl
  · rename_i huser
    rw [Option.not_isSome_iff_eq_none] at huser
    have hurl : ((c.configureAll ks).requestTo u.forSending up).url = u.forSending := rfl
    rw [hurl] at huser
    rw [header_authorization, authorization?, huser, Option.none_or, bearer?_configureAll hkey]

end Client

/-! ### What is sent -/

structure Watched (ω : Type) where
  world : ω
  sent : List Request

def watch (send : Transport ω) : Transport (Watched ω) := fun req => do
  modify fun v => { v with sent := v.sent ++ [req] }
  (send req).onPart Watched.world fun v w => { v with world := w }

def UploadTask.watched (t : UploadTask ω) : UploadTask (Watched ω) :=
  ⟨t.connection, t.script, fun v => t.disk v.world, watch t.send⟩

def SentSince (P : Request → Prop) (before : List Request) (v : Watched ω) : Prop :=
  ∃ new, v.sent = before ++ new ∧ ∀ req ∈ new, P req

abbrev Sends (P : Request → Prop) (before : List Request) (x : Attempt (Watched ω) α) : Prop :=
  Runs (SentSince P before) (fun _ => True) x fun _ => True

variable {P : Request → Prop} {before : List Request}

theorem sends_ofExcept (e : Except Fault α) :
    Sends P before (Attempt.ofExcept e : Attempt (Watched ω) α) :=
  .ofExcept (fun _ _ => trivial) fun _ _ => trivial

theorem sends_mapFault {x : Attempt (Watched ω) α} (h : Sends P before x) (g : Fault → Fault) :
    Sends P before (x.mapFault g) :=
  h.mapFault fun _ _ => trivial

theorem sends_watch {req : Request} (send : Transport ω) (h : P req) :
    Sends P before (watch send req) := by
  apply Runs.bind (P := fun _ => True)
  · apply Runs.modify
    rintro v ⟨new, hnew, hall⟩
    refine ⟨new ++ [req], by rw [hnew, List.append_assoc], ?_⟩
    intro r hr
    rcases List.mem_append.1 hr with hr | hr
    · exact hall r hr
    · rwa [List.mem_singleton.1 hr]
  · intro _ _ v hv
    rw [onPart]
    cases send req v.world with
    | ok a w => exact ⟨trivial, hv⟩
    | error f w => exact ⟨trivial, hv⟩

theorem sends_upload (c : Client) (send : Transport ω) (up : Upload)
    (h : ∀ req, c.request up = .ok req → P req) : Sends P before (c.upload (watch send) up) := by
  rw [Client.upload, Client.uploadVia]
  apply Runs.bind (P := P) (Runs.ofExcept h fun _ _ => trivial)
  intro req hreq
  apply (sends_mapFault (sends_watch send hreq) _).bind
  intro resp _
  apply (sends_mapFault (sends_ofExcept _) _).bind
  intro content _
  exact sends_ofExcept _

theorem sends_uploadFile (c : Client) (send : Transport ω) (disk : ω → Disk) (script : Path)
    (h : ∀ up req, c.request up = .ok req → P req) :
    Sends P before (c.uploadFile (watch send) (fun v => disk v.world) script) := by
  rw [Client.uploadFile]
  apply Runs.bind (P := fun _ => True)
  · intro v hv
    rw [asking]
    exact sends_ofExcept _ v hv
  · intro text _
    apply (sends_ofExcept _).bind
    intro up _
    exact sends_upload c send up (h up)

/-! ### Watching changes nothing -/

/-- The first attempt does on a part of its state what the second does. -/
def Shadows {σ τ : Type} (part : σ → τ) (x : Attempt σ α) (y : Attempt τ α) : Prop :=
  ∀ s, y (part s) = match x s with
    | .ok a s' => .ok a (part s')
    | .error f s' => .error f (part s')

namespace Shadows

variable {σ τ : Type} {part : σ → τ} {x : Attempt σ α} {y : Attempt τ α}

theorem bind {f : α → Attempt σ β} {g : α → Attempt τ β} (hxy : Shadows part x y)
    (hfg : ∀ a, Shadows part (f a) (g a)) : Shadows part (x >>= f) (y >>= g) := by
  intro s
  have hs := hxy s
  cases hx : x s with
  | ok a s' =>
    rw [hx] at hs
    rw [bind_of_ok hx, bind_of_ok hs]
    exact hfg a s'
  | error e s' =>
    rw [hx] at hs
    rw [bind_of_error hx, bind_of_error hs]

theorem ofExcept (e : Except Fault α) :
    Shadows part (Attempt.ofExcept e) (Attempt.ofExcept e) := by
  intro s
  cases e <;> rfl

theorem mapFault (hxy : Shadows part x y) (g : Fault → Fault) :
    Shadows part (x.mapFault g) (y.mapFault g) := by
  intro s
  have hs := hxy s
  rw [Attempt.mapFault, Attempt.mapFault, hs]
  cases x s <;> rfl

theorem after (hxy : Shadows part x y) (s : σ) : part (x.after s) = y.after (part s) := by
  rw [Attempt.after, Attempt.after, hxy s]
  cases x s <;> rfl

end Shadows

theorem shadows_watch (send : Transport ω) (req : Request) :
    Shadows Watched.world (watch send req) (send req) := by
  intro v
  have hsent : watch send req v = (send req).onPart Watched.world (fun v w => { v with world := w })
      { v with sent := v.sent ++ [req] } := rfl
  rw [hsent, onPart]
  cases send req v.world <;> rfl

theorem shadows_upload (c : Client) (send : Transport ω) (up : Upload) :
    Shadows Watched.world (c.upload (watch send) up) (c.upload send up) := by
  apply Shadows.bind (.ofExcept _)
  intro req
  apply Shadows.bind ((shadows_watch send req).mapFault _)
  intro resp
  apply Shadows.bind ((Shadows.ofExcept _).mapFault _)
  intro content
  exact .ofExcept _

theorem shadows_uploadFile (c : Client) (send : Transport ω) (disk : ω → Disk) (script : Path) :
    Shadows Watched.world (c.uploadFile (watch send) (fun v => disk v.world) script)
      (c.uploadFile send disk script) := by
  apply Shadows.bind
  · intro v
    exact Shadows.ofExcept _ v
  intro text
  apply Shadows.bind (.ofExcept _)
  intro up
  exact shadows_upload c send up

/-! ### A run of uploads -/

namespace UploadJob

def forget (j : UploadJob (Watched ω)) : UploadJob ω :=
  ⟨j.world.world, j.client, j.messages, j.receipt⟩

theorem shadows_inWorld {x : Attempt (Watched ω) α} {y : Attempt ω α}
    (h : Shadows Watched.world x y) : Shadows forget (inWorld x) (inWorld y) := by
  intro j
  have hworld : j.forget.world = j.world.world := rfl
  rw [inWorld, inWorld, onPart, onPart, hworld, h j.world]
  cases x j.world <;> rfl

theorem runs_inWorld {c : Client} {I : ω → Prop} {x : Attempt ω α}
    (h : Runs I (fun _ => True) x fun _ => True) :
    Runs (fun j => j.client = c ∧ I j.world) (fun _ => True) (inWorld x) fun _ => True := by
  rintro j ⟨hc, hj⟩
  have hrun := h j.world hj
  rw [inWorld, onPart]
  cases hx : x j.world with
  | ok a w =>
    rw [hx] at hrun
    exact ⟨trivial, hc, hrun.2⟩
  | error f w =>
    rw [hx] at hrun
    exact ⟨trivial, hc, hrun.2⟩

end UploadJob

namespace UploadTask

theorem shadows_execute (t : UploadTask ω) :
    Shadows UploadJob.forget t.watched.execute t.execute := by
  apply Shadows.mapFault
  intro j
  rw [perform_eq, perform_eq]
  have hfile := shadows_uploadFile (j.client.configure t.connection) t.send t.disk t.script
  apply Shadows.bind (UploadJob.shadows_inWorld hfile) ?_ (t.watched.begun j)
  intro receipt j'
  rfl

theorem execute_watched (t : UploadTask ω) (j : UploadJob (Watched ω))
    (h : ∀ up req, (j.client.configure t.connection).request up = .ok req → P req) :
    (t.watched.execute.after j).client = j.client.configure t.connection ∧
      SentSince P j.world.sent (t.watched.execute.after j).world := by
  rw [execute, Task.execute, after_mapFault, Attempt.after, perform_eq, ← Attempt.after]
  apply Runs.after (P := fun _ => True) (F := fun _ => True)
    (I := fun j' : UploadJob (Watched ω) => j'.client = j.client.configure t.connection ∧
      SentSince P j.world.sent j'.world)
  · apply (UploadJob.runs_inWorld (sends_uploadFile _ t.send t.disk t.script h)).bind
    intro receipt _
    apply Runs.bind (P := fun _ => True)
    · apply Runs.modify
      intro j' hj'
      exact hj'
    · intro _ _
      apply Runs.modify
      intro j' hj'
      exact hj'
  · exact ⟨rfl, [], (List.append_nil _).symm, by simp⟩

end UploadTask

def uploads (ts : List (UploadTask ω)) (j : UploadJob ω) : UploadJob ω :=
  ts.foldl (fun j t => t.execute.after j) j

theorem client_uploads (ts : List (UploadTask ω)) (j : UploadJob (Watched ω)) :
    (uploads (ts.map .watched) j).client = j.client.configureAll (ts.map UploadTask.connection) := by
  induction ts generalizing j with
  | nil => rfl
  | cons t ts ih =>
    have hstep := (t.execute_watched j (P := fun _ => True) fun _ _ _ => trivial).1
    apply (ih (t.watched.execute.after j)).trans
    rw [hstep]
    rfl

theorem forget_uploads (ts : List (UploadTask ω)) (j : UploadJob (Watched ω)) :
    (uploads (ts.map .watched) j).forget = uploads ts j.forget := by
  induction ts generalizing j with
  | nil => rfl
  | cons t ts ih =>
    apply (ih (t.watched.execute.after j)).trans
    rw [t.shadows_execute.after j]
    rfl

/-- The last of some uploads with one client. What it sends goes to the first endpoint of all
configurations so far and shows the first key of all of them, unless the address names a user. If each
of them has an endpoint and a key or neither, the two are of one configuration. -/
theorem sent_sources (c : Client) (hurl : c.baseUrl.truthy = false) (hkey : c.apiKey.truthy = false)
    (w : ω) (before : List (UploadTask ω)) (t : UploadTask ω) :
    let ks := (before ++ [t]).map UploadTask.connection
    let j := uploads (before.map .watched) (.start ⟨w, []⟩ c)
    let j' := uploads ((before ++ [t]).map .watched) (.start ⟨w, []⟩ c)
    j'.forget = uploads (before ++ [t]) (.start w c) ∧
    ∃ new, j'.world.sent = j.world.sent ++ new ∧ ∀ req ∈ new,
      ∃ k, ks.find? (·.endpoint.truthy) = some k ∧ k.Addresses req.url ∧
        (req.shownKey? = if req.url.basicAuthorization?.isSome then none
          else (ks.find? (·.apiKey.truthy)).map Connection.bearer) ∧
        ((∀ k' ∈ ks, k'.endpoint.truthy = k'.apiKey.truthy) →
          ∀ a, req.shownKey? = some a → a = k.bearer) := by
  intro ks j j'
  have hstep : j' = t.watched.execute.after j := by
    simp only [j', j, uploads, List.map_append, List.foldl_append]
    rfl
  have hclient : j.client.configure t.connection = c.configureAll ks := by
    rw [client_uploads]
    simp only [ks, Client.configureAll, List.map_append, List.foldl_append]
    rfl
  refine ⟨forget_uploads _ _, ?_⟩
  have hsent := (t.execute_watched j
    (P := fun req => ∃ up, (c.configureAll ks).request up = .ok req) fun up req h =>
      ⟨up, hclient ▸ h⟩).2
  rw [← hstep] at hsent
  obtain ⟨new, hnew, hall⟩ := hsent
  refine ⟨new, hnew, ?_⟩
  intro req hreq
  obtain ⟨up, hrequest⟩ := hall req hreq
  obtain ⟨k, hk, haddress⟩ := Client.addressed hurl hrequest
  have hshown := Client.shown hkey hrequest
  refine ⟨k, hk, haddress, hshown, ?_⟩
  intro hboth a ha
  -- An endpoint comes with a key, so the first of either kind are of one configuration.
  have hfirst : ks.find? (·.apiKey.truthy) = some k := by
    rw [← hk, ← List.head?_filter, ← List.head?_filter]
    congr 1
    apply List.filter_congr
    intro k' hk'
    rw [hboth k' hk']
  rw [ha, hfirst] at hshown
  split at hshown
  · cases hshown
  · exact Option.some.inj hshown

theorem sent_sources_mixed :
    let d : Disk := ⟨⟨[(["s"], .file .empty)]⟩, []⟩
    let ok : Transport Unit := fun _ => pure (.ofJson 200 (.object []))
    let task (endpoint key : String) : UploadTask Unit :=
      ⟨⟨.text endpoint, .text key, .null⟩, Path.ofText "/s", fun _ => d, ok⟩
    Client.blank.baseUrl.truthy = false ∧ Client.blank.apiKey.truthy = false ∧
      ∃ req, (uploads ([task "http://a" "", task "http://b" "k"].map .watched)
        (.start ⟨(), []⟩ .blank)).world.sent.getLast? = some req ∧
        req.url.host = "a" ∧ req.shownKey? = some "Bearer k" := by
  intro d ok task
  obtain ⟨new, hnew, hall⟩ :=
    (sent_sources .blank rfl rfl () [task "http://a" ""] (task "http://b" "k")).2
  have hfirst : (uploads ([task "http://a" ""].map .watched) (.start ⟨(), []⟩ .blank)).world.sent.map
      (fun r => (r.url.host, r.url.basicAuthorization?)) = [("a", none)] := by
    decide +kernel
  have hboth : (uploads ([task "http://a" "", task "http://b" "k"].map .watched)
      (.start ⟨(), []⟩ .blank)).world.sent.map (fun r => (r.url.host, r.url.basicAuthorization?)) =
        [("a", none), ("a", none)] := by
    decide +kernel
  have hlast : new.map (fun r => (r.url.host, r.url.basicAuthorization?)) = [("a", none)] := by
    rw [List.singleton_append] at hnew
    rw [hnew, List.map_append, hfirst] at hboth
    exact List.append_cancel_left hboth
  obtain ⟨req, rfl⟩ : ∃ req, new = [req] :=
    List.length_eq_one_iff.1 (by simpa using congrArg List.length hlast)
  simp only [List.map_cons, List.map_nil, List.cons.injEq, Prod.mk.injEq, and_true] at hlast
  obtain ⟨k, -, -, hshown, -⟩ := hall req (List.mem_singleton_self req)
  refine ⟨rfl, rfl, req, ?_, hlast.1, ?_⟩
  · exact (congrArg List.getLast? hnew).trans List.getLast?_concat
  · rw [hshown, hlast.2]
    decide +kernel

end BuildScripts

import Mathlib.Data.List.TakeWhile
import BuildScripts.Proofs.Attempts
import BuildScripts.Proofs.Server.Upload
import BuildScripts.Proofs.Upload.Message
import BuildScripts.Upload.Client

/-!
A client and the server it is meant for. The request of a client that reaches the server is read there
as the script that the client has sent, and is never turned away for its key. Main statement: an upload
ends as the server's storing of the script does.
-/

namespace BuildScripts

open Attempt
open BuildScripts.Text

namespace Client

structure Reaches (c : Client) (u : Url) : Prop where
  address : ∃ s, c.address = .ok s ∧ Url.read s = .ok u
  isAbsolute : u.isAbsolute = true
  path : u.serverPath = uploadPath
  noUser : c.apiKey.truthy = true → u.basicAuthorization? = none

theorem checkHeader_of_ascii {s : String} (h : ∀ ch ∈ s.toList, isAscii ch = true) :
    checkHeader s = .ok () := by
  have htake : s.toList.takeWhile isAscii = s.toList := List.takeWhile_eq_self_iff.2 h
  simp only [checkHeader, htake, List.drop_length, List.takeWhile_nil]

def submission (up : Upload) : Server.Submission :=
  ⟨up.fileName, up.content.toList.map Char.toNat⟩

theorem text_submission (up : Upload) : (submission up).text = up.content :=
  Json.textOfCodes_toNat _ up.content

theorem isProper_submission (up : Upload) : (properText? (submission up).content).isSome = true := by
  rw [submission, Json.properText?_toNat]
  rfl

section Reached

variable {c : Client} {u : Url} {up : Upload}

def requestTo (c : Client) (u : Url) (up : Upload) : Request :=
  ⟨"POST", u, c.headersFor u, Utf8.encode (Json.render Json.compact up.toValue)⟩

theorem checkHeader_bearer (hkey : ∀ ch ∈ c.apiKey.toText.toList, isAscii ch = true) {b : String}
    (hb : c.bearer? = some b) : checkHeader b = .ok () := by
  rw [bearer?] at hb
  split at hb
  · cases hb
    refine checkHeader_of_ascii fun ch hch => ?_
    rw [String.toList_append, List.mem_append] at hch
    rcases hch with hch | hch
    · have hall : "Bearer ".toList.all isAscii = true := by decide
      exact List.all_eq_true.1 hall ch hch
    · exact hkey ch hch
  · cases hb

theorem request_eq (h : c.Reaches u) (hkey : ∀ ch ∈ c.apiKey.toText.toList, isAscii ch = true)
    (up : Upload) : c.request up = .ok (c.requestTo u up) := by
  obtain ⟨s, haddress, hread⟩ := h.address
  have hsending : u.forSending = u := if_pos h.isAbsolute
  simp only [request, haddress, hread, bind, Except.bind, hsending]
  cases hb : c.bearer? with
  | none => rfl
  | some b =>
    simp only [checkHeader_bearer hkey hb]
    rfl

theorem header_contentType : (c.requestTo u up).header? "content-type" = some "application/json" := by
  rw [Request.header?, headerNamed?, requestTo, headersFor, List.find?_cons_of_pos (by decide)]
  rfl

theorem header_authorization :
    (c.requestTo u up).header? "authorization" = c.authorization? u := by
  rw [Request.header?, headerNamed?, requestTo, headersFor, List.find?_cons_of_neg (by decide)]
  cases c.authorization? u with
  | none => rfl
  | some a => rfl

theorem readBody_requestTo (hname : up.fileName ≠ "") :
    Server.readBody (c.requestTo u up) = .ok (submission up) := by
  have hobject : up.toValue = .object [("file_name", .text up.fileName), ("content", .text up.content)] :=
    rfl
  have hread : Json.readBytes (c.requestTo u up).body = .ok up.toValue := by
    rw [hobject]
    exact Json.readBytes_render Json.plain_compact up.plain_toValue
  have hempty : ¬ (c.requestTo u up).body.isEmpty = true := by
    obtain ⟨b, cs, htext, -⟩ := Json.toList_render_object Json.plain_compact
      [("file_name", .text up.fileName), ("content", .text up.content)]
    intro hempty
    have hsize : (Json.render Json.compact up.toValue).utf8ByteSize = 0 := beq_iff_eq.1 hempty
    rw [String.utf8ByteSize_eq_zero_iff, hobject] at hsize
    rw [hsize] at htext
    cases htext
  have hjson : ¬ (!Server.isJson (c.requestTo u up)) = true := by
    rw [Server.isJson, header_contentType]
    decide
  have hform : Form.object "model_attributes_type" Server.Submission.form up.toValue =
      .good (submission up) :=
    Server.Submission.form_toValue hname
  rw [Server.readBody, if_neg hempty, if_neg hjson, hread]
  simp only [Server.readUpload, hform]
  rfl

theorem uploadOf?_requestTo (h : c.Reaches u) (hname : up.fileName ≠ "") :
    Server.uploadOf? (c.requestTo u up) = some (submission up) := by
  have hroute : Server.routeOf? (c.requestTo u up).path = some .upload := by
    have hpath : (c.requestTo u up).path = uploadPath := h.path
    rw [hpath]
    decide
  rw [Server.uploadOf?, if_pos ⟨hroute, rfl⟩, readBody_requestTo hname]
  rfl

variable {σ : Type} {s : Server σ}

theorem authorizes_requestTo (h : c.Reaches u) (hkey : s.key = c.apiKey) (up : Upload) :
    s.authorizes ((c.requestTo u up).header? "authorization") = true := by
  rw [header_authorization, Server.authorizes, hkey]
  by_cases ht : c.apiKey.truthy = true
  · rw [authorization?, h.noUser ht, bearer?, if_pos ht, Option.none_or, beq_self_eq_true, Bool.or_true]
  · rw [Bool.not_eq_true] at ht
    rw [ht]
    rfl

theorem upload_requestTo (h : c.Reaches u) (hkey : s.key = c.apiKey)
    (hplain : Server.isPlainName up.fileName = true) (w : Workshop σ) :
    s.upload ((c.requestTo u up).header? "authorization") (submission up) w =
      match s.store (submission up) w with
      | .ok receipt w' => .ok (.ofJson 200 receipt.toValue) w'
      | .error (.rejected r) w' => .ok (Server.rejection r) w'
      | .error f w' => .error f w' :=
  congrFun (Server.upload_of_plain (u := submission up) (authorizes_requestTo h hkey up) hplain) w

theorem status_requestTo (h : c.Reaches u) (hkey : s.key = c.apiKey) (hname : up.fileName ≠ "")
    (hplain : Server.isPlainName up.fileName = true) (w : Workshop σ) :
    (s.handle (c.requestTo u up) w).1.status ≠ 401 := by
  rw [Server.handle_of_upload (uploadOf?_requestTo h hname), upload_requestTo h hkey hplain]
  cases s.store (submission up) w with
  | ok receipt w' => exact (by decide : (200 : Nat) ≠ 401)
  | error f w' =>
    cases f with
    | rejected r => exact (by decide : (422 : Nat) ≠ 401)
    | _ => exact (by decide : (500 : Nat) ≠ 401)

theorem sharedTransport_requestTo (h : c.Reaches u) (hkey : s.key = c.apiKey) (hname : up.fileName ≠ "")
    (hplain : Server.isPlainName up.fileName = true) (w : Workshop σ) :
    s.sharedTransport (c.requestTo u up) w =
      match s.store (submission up) w with
      | .ok receipt w' => .ok (.ofJson 200 receipt.toValue) w'
      | .error (.rejected r) w' => .ok (Server.rejection r) w'
      | .error f w' => .error f w' := by
  obtain ⟨hanswer, hshow⟩ := Server.answer_of_upload (uploadOf?_requestTo (c := c) h hname) s
  have hshared : s.sharedTransport (c.requestTo u up) = s.answer (c.requestTo u up) := by
    simp only [Server.sharedTransport, hshow, bind_pure]
  rw [hshared, hanswer, upload_requestTo h hkey hplain]

end Reached

section Answered

variable {ω : Type} {c : Client} {intake : Intake ω} {send : Transport ω} {w t w' : ω} {up : Upload}
  {req : Request} {a : Response} {f : Fault} {content : ByteArray}

theorem uploadVia_of_unmade (h : c.request up = .error f) :
    c.uploadVia intake send up w = .error f w := by
  rw [uploadVia, h]
  rfl

theorem uploadVia_of_unanswered (hreq : c.request up = .ok req) (hsend : send req w = .error f w') :
    c.uploadVia intake send up w = .error (failed up.fileName f) w' := by
  have hfault : (send req).mapFault (failed up.fileName) w = .error (failed up.fileName f) w' := by
    rw [mapFault, hsend]
  rw [uploadVia, hreq, ofExcept_bind_ok rfl, bind_of_error hfault]

theorem uploadVia_of_lost (hreq : c.request up = .ok req) (hsend : send req w = .ok a t)
    (htaken : intake.content req a t = .error f w') :
    c.uploadVia intake send up w = .error (failed up.fileName f) w' := by
  have hfault : (intake.content req a).mapFault (failed up.fileName) t =
      .error (failed up.fileName f) w' := by
    rw [mapFault, htaken]
  rw [uploadVia, hreq, ofExcept_bind_ok rfl, bind_of_ok (mapFault_eq_ok.2 hsend),
    bind_of_error hfault]

theorem uploadVia_of_taken (hreq : c.request up = .ok req) (hsend : send req w = .ok a t)
    (htaken : intake.content req a t = .ok content w') :
    c.uploadVia intake send up w =
      Attempt.ofExcept (receiptOf up.fileName a (intake.text a content) content) w' := by
  rw [uploadVia, hreq, ofExcept_bind_ok rfl, bind_of_ok (mapFault_eq_ok.2 hsend),
    bind_of_ok (mapFault_eq_ok.2 htaken)]

theorem plain_content (habsolute : req.url.isAbsolute = true) (hheaders : a.headers = []) (w : ω) :
    Intake.plain.content req a w = .ok a.bytes w := by
  have hsender : Intake.checkSender req.url = .ok () := if_pos habsolute
  have hnext : a.checkNext = .ok () := by
    have hlocation : a.location? = none := by
      simp only [Response.location?, Response.header?, hheaders]
      split <;> rfl
    rw [Response.checkNext, hlocation]
  simp only [Intake.plain, hsender, hnext]
  rfl

theorem upload_of_answer (hreq : c.request up = .ok req) (hsend : send req w = .ok a w')
    (habsolute : req.url.isAbsolute = true) (hheaders : a.headers = []) :
    c.upload send up w = Attempt.ofExcept (receiptOf up.fileName a a.text a.bytes) w' :=
  uploadVia_of_taken hreq hsend (plain_content habsolute hheaders w')

theorem receiptOf_ofJson {name : String} {receipt : Receipt} {text : Except Fault String}
    (h : receipt.bodyLines.natAbs < 10 ^ Json.longest) :
    receiptOf name (.ofJson 200 receipt.toValue) text (Response.ofJson 200 receipt.toValue).bytes =
      .ok receipt := by
  have hread : Json.readBytes (Response.ofJson 200 receipt.toValue).bytes = .ok receipt.toValue :=
    Json.readBytes_render Json.plain_compact (Receipt.plain_toValue h)
  have hstatus : (Response.ofJson 200 receipt.toValue).isError = false := rfl
  simp only [receiptOf, hstatus, hread, bind, Except.bind]
  exact receipt.ofValue_toValue

def told (name : String) : Fault → Fault
  | .rejected r => .webApi ("upload of " ++ name ++ " failed with status " ++ decimal 422 ++ ": " ++
      Json.render Json.compact (.object [("detail", Server.rejectionValue r)])) (some 422)
  | f => failed name f

theorem receiptOf_rejection (name : String) (r : Rejection) (content : ByteArray) :
    receiptOf name (Server.rejection r) (Server.rejection r).text content =
      .error (told name (.rejected r)) := by
  have hstatus : (Server.rejection r).isError = true := rfl
  have htext : (Server.rejection r).text =
      .ok (Json.render Json.compact (.object [("detail", Server.rejectionValue r)])) :=
    congrArg Except.ok (Utf8.decodeLossy_encode _)
  simp only [receiptOf, hstatus, htext, bind, Except.bind, if_true]
  rfl

end Answered

section Shared

variable {c : Client} {u : Url} {σ : Type} {s : Server σ}

theorem upload_sharedTransport (h : c.Reaches u) (hkey : s.key = c.apiKey)
    (hascii : ∀ ch ∈ c.apiKey.toText.toList, isAscii ch = true) (up : Upload) (hname : up.fileName ≠ "")
    (hplain : Server.isPlainName up.fileName = true) (w : Workshop σ) :
    (∀ receipt w', s.store (submission up) w = .ok receipt w' →
      receipt.bodyLines.natAbs < 10 ^ Json.longest →
      c.upload s.sharedTransport up w = .ok receipt w') ∧
    ∀ f w', s.store (submission up) w = .error f w' →
      c.upload s.sharedTransport up w = .error (told up.fileName f) w' := by
  have hsend := sharedTransport_requestTo h hkey hname hplain w
  constructor
  · intro receipt w' hstore hlines
    rw [hstore] at hsend
    rw [upload_of_answer (request_eq h hascii up) hsend h.isAbsolute rfl, receiptOf_ofJson hlines]
    rfl
  · intro f w' hstore
    rw [hstore] at hsend
    cases f with
    | rejected r =>
      rw [upload_of_answer (request_eq h hascii up) hsend h.isAbsolute rfl, receiptOf_rejection]
      rfl
    | _ => exact uploadVia_of_unanswered (request_eq h hascii up) hsend

end Shared

end Client

end BuildScripts

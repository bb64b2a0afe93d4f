import BuildScripts.Proofs.Upload.Keys

/-!
How an upload ends. It should end with the receipt in an answer below 400, or else with a fault of the
client's own, which tells the status of an answer from 400 on. Main statement: it does exactly where
the request can be made, the transport does not call the address invalid, and the answer is of one of
the four kinds that a client has a word for.
-/

namespace BuildScripts

open Attempt
open BuildScripts.Text

section Faults

variable {α β : Type} {P Q : Fault → Prop}

def FailsAs (P : Fault → Prop) (x : Except Fault α) : Prop :=
  ∀ f, x = .error f → P f

namespace FailsAs

theorem ok (a : α) : FailsAs P (.ok a) := by
  intro f h
  cases h

theorem error {f : Fault} (h : P f) : FailsAs P (.error f : Except Fault α) := by
  intro e he
  cases he
  exact h

theorem bind {x : Except Fault α} {g : α → Except Fault β} (hx : FailsAs P x)
    (hg : ∀ a, FailsAs P (g a)) : FailsAs P (x >>= g) := by
  cases x with
  | ok a => exact hg a
  | error f => exact error (hx f rfl)

theorem map {x : Except Fault α} (hx : FailsAs P x) (g : α → β) : FailsAs P (x.map g) := by
  cases x with
  | ok a => exact ok (g a)
  | error f => exact error (hx f rfl)

theorem mapError {ε : Type} {g : ε → Fault} (h : ∀ e, P (g e)) (x : Except ε α) :
    FailsAs P (x.mapError g) := by
  cases x with
  | ok a => exact ok a
  | error e => exact error (h e)

theorem mono {x : Except Fault α} (h : FailsAs P x) (himp : ∀ f, P f → Q f) : FailsAs Q x :=
  fun f hf => himp f (h f hf)

end FailsAs

namespace Fault

def IsForeign : Fault → Prop
  | .webApi _ _ => False
  | _ => True

def IsTransport (f : Fault) : Prop :=
  ∃ kind message, f = .transport kind message

def Reports (status : Nat) : Fault → Prop
  | .webApi _ told => 400 ≤ status → told = some status
  | _ => False

def IsBadUrl (f : Fault) : Prop :=
  ∃ problem, f = .invalidUrl problem

end Fault

end Faults

/-! ### The faults of each step -/

namespace Url

theorem failsAs_invalid {α : Type} (message : String) :
    FailsAs Fault.IsBadUrl (invalid message : Except Fault α) :=
  .error ⟨message, rfl⟩

theorem failsAs_checkCharacters (cs : List Char) : FailsAs Fault.IsBadUrl (checkCharacters cs) := by
  unfold checkCharacters
  split
  · exact failsAs_invalid _
  split
  · exact failsAs_invalid _
  · exact .ok ()

theorem failsAs_readHost (cs : List Char) : FailsAs Fault.IsBadUrl (readHost cs) := by
  unfold readHost
  split
  · exact .ok _
  split
  · split
    · exact .ok _
    · exact failsAs_invalid _
  split
  · dsimp only
    split
    · exact .ok _
    · exact failsAs_invalid _
  split
  · exact .ok _
  split
  · exact .ok _
  · exact failsAs_invalid _

theorem failsAs_readPort (scheme : String) (cs : List Char) :
    FailsAs Fault.IsBadUrl (readPort scheme cs) := by
  unfold readPort
  split
  · exact .ok _
  split
  · exact .ok _
  · exact failsAs_invalid _

theorem failsAs_checkPath (hasScheme hasAuthority : Bool) (cs : List Char) :
    FailsAs Fault.IsBadUrl (checkPath hasScheme hasAuthority cs) := by
  unfold checkPath
  split
  · exact failsAs_invalid _
  split
  · exact failsAs_invalid _
  split
  · exact failsAs_invalid _
  · exact .ok ()

theorem failsAs_read (s : String) : FailsAs Fault.IsBadUrl (read s) := by
  unfold read
  apply FailsAs.bind (failsAs_checkCharacters _)
  intro _
  apply FailsAs.bind (failsAs_readHost _)
  intro host
  apply FailsAs.bind (failsAs_readPort _ _)
  intro port
  apply FailsAs.bind (failsAs_checkPath _ _ _)
  intro _
  exact .ok _

end Url

namespace Json

theorem isForeign_undecodable (codec problem : String) (position : Nat) (bytes : List UInt8) :
    (undecodable codec problem position bytes).IsForeign := by
  unfold undecodable
  split
  · trivial
  · trivial

theorem failsAs_units16 (codec : String) (big : Bool) (pos : Nat) (bytes : List UInt8) :
    FailsAs BuildScripts.Fault.IsForeign (units16 codec big pos bytes) := by
  fun_induction units16 codec big pos bytes with
  | case1 => exact .ok []
  | case2 pos a => exact .error (isForeign_undecodable _ _ _ _)
  | case3 pos a b rest ih => exact ih.map _

theorem failsAs_codes32 (codec : String) (big : Bool) (pos : Nat) (bytes : List UInt8) :
    FailsAs BuildScripts.Fault.IsForeign (codes32 codec big pos bytes) := by
  fun_induction codes32 codec big pos bytes with
  | case1 => exact .ok []
  | case2 => exact .error (isForeign_undecodable _ _ _ _)
  | case3 pos a b c d rest n h ih => exact ih.map _
  | case4 => exact .error (isForeign_undecodable _ _ _ _)

theorem failsAs_decodeCodes (bytes : List UInt8) :
    FailsAs BuildScripts.Fault.IsForeign (decodeCodes bytes) := by
  unfold decodeCodes
  dsimp only
  split
  · exact .mapError (fun _ => trivial) _
  · exact .mapError (fun _ => trivial) _
  · exact (failsAs_units16 _ _ _ _).map _
  · exact failsAs_codes32 _ _ _ _

theorem failsAs_readBytes (bytes : ByteArray) :
    FailsAs BuildScripts.Fault.IsForeign (readBytes bytes) := by
  have hfault (s : String) (f : Fault) : (faultOf s f).IsForeign := by
    cases f with
    | malformed problem position => trivial
    | tooManyDigits count => trivial
    | tooDeep => trivial
  unfold readBytes
  apply FailsAs.bind (failsAs_decodeCodes _)
  intro codes
  exact .mapError (hfault _) _

end Json

theorem Receipt.failsAs_ofValue (v : Value) : FailsAs Fault.IsForeign (Receipt.ofValue v) := by
  unfold Receipt.ofValue
  cases Receipt.form v with
  | good receipt => exact .ok receipt
  | bad complaints => exact .error trivial

def Receipt.ToldBy (receipt : Receipt) (content : ByteArray) : Prop :=
  ∃ v, Json.readBytes content = .ok v ∧ Receipt.ofValue v = .ok receipt

theorem Response.isError_eq_true_iff {r : Response} :
    r.isError = true ↔ 400 ≤ r.status ∧ r.status ≤ 599 := by
  rw [isError, Bool.and_eq_true, decide_eq_true_eq, decide_eq_true_eq]

theorem Response.isError_eq_false_iff {r : Response} :
    r.isError = false ↔ r.status < 400 ∨ 599 < r.status := by
  rw [← Bool.not_eq_true, isError_eq_true_iff]
  omega

/-- The answers that a client has a word for, as they are taken in. -/
inductive Intake.Settles {ω : Type} (intake : Intake ω) (req : Request) (r : Response) (t : ω) : Prop
  | lost {f : Fault} {w : ω} (lost : intake.content req r t = .error f w)
      (reported : f.IsTransport ∧ r.status < 400 ∨ f.Reports r.status)
  | error {content : ByteArray} {w : ω} (taken : intake.content req r t = .ok content w)
      (low : 400 ≤ r.status) (high : r.status ≤ 599)
      (text : ∀ f, intake.text r content = .error f → f.Reports r.status)
  | receipt {content : ByteArray} {w : ω} (taken : intake.content req r t = .ok content w)
      (below : r.status < 400) (told : ∃ receipt : Receipt, receipt.ToldBy content)

namespace Client

variable {ω : Type} {c : Client} {intake : Intake ω} {send : Transport ω} {u : Upload} {w w' t : ω}
  {req : Request} {r : Response} {f : Fault} {name : String} {text : Except Fault String}
  {content : ByteArray} {receipt : Receipt} {answer : Option (Request × Response × ω)}

/-! ### What a client makes of an answer -/

theorem receiptOf_of_isError (name : String) (text : Except Fault String) (content : ByteArray)
    (h : r.isError = true) :
    (∃ s message, text = .ok s ∧
      receiptOf name r text content = .error (.webApi message (some r.status))) ∨
      ∃ f, text = .error f ∧ receiptOf name r text content = .error f := by
  rw [receiptOf, if_pos h]
  cases text with
  | ok s => exact .inl ⟨s, _, rfl, rfl⟩
  | error f => exact .inr ⟨f, rfl, rfl⟩

theorem receiptOf_eq_ok_iff : receiptOf name r text content = .ok receipt ↔
    r.isError = false ∧ receipt.ToldBy content := by
  cases herror : r.isError with
  | true =>
    rcases receiptOf_of_isError name text content herror with ⟨s, message, -, h⟩ | ⟨f, -, h⟩
    · simp [h]
    · simp [h]
  | false =>
    rw [receiptOf, herror]
    cases hjson : Json.readBytes content with
    | error f => simp [Receipt.ToldBy, hjson, bind, Except.bind]
    | ok v => simp [Receipt.ToldBy, hjson, bind, Except.bind]

theorem failsAs_receiptOf (h : r.isError = false) :
    FailsAs Fault.IsForeign (receiptOf name r text content) := by
  rw [receiptOf, h]
  exact (Json.failsAs_readBytes content).bind Receipt.failsAs_ofValue

theorem uploadVia_eq_ok_iff : c.uploadVia intake send u w = .ok receipt w' ↔
    ∃ req r t content, c.request u = .ok req ∧ send req w = .ok r t ∧
      intake.content req r t = .ok content w' ∧ (r.status < 400 ∨ 599 < r.status) ∧
      receipt.ToldBy content := by
  simp only [← Response.isError_eq_false_iff]
  constructor
  · intro h
    cases hreq : c.request u with
    | error f =>
      rw [uploadVia_of_unmade hreq] at h
      cases h
    | ok req =>
      cases hsend : send req w with
      | error f t =>
        rw [uploadVia_of_unanswered hreq hsend] at h
        cases h
      | ok r t =>
        cases htaken : intake.content req r t with
        | error f w =>
          rw [uploadVia_of_lost hreq hsend htaken] at h
          cases h
        | ok content w =>
          rw [uploadVia_of_taken hreq hsend htaken] at h
          cases hjudged : receiptOf u.fileName r (intake.text r content) content with
          | error f =>
            rw [hjudged] at h
            cases h
          | ok receipt' =>
            rw [hjudged] at h
            cases h
            exact ⟨req, r, t, content, rfl, hsend, htaken, receiptOf_eq_ok_iff.1 hjudged⟩
  · rintro ⟨req, r, t, content, hreq, hsend, htaken, hreceipt⟩
    rw [uploadVia_of_taken hreq hsend htaken, receiptOf_eq_ok_iff.2 hreceipt]
    rfl

/-! ### The request -/

theorem checkHeader_eq_ok_iff {s : String} :
    checkHeader s = .ok () ↔ ∀ ch ∈ s.toList, isAscii ch = true := by
  refine ⟨fun h => ?_, checkHeader_of_ascii⟩
  have hdrop : (s.toList.takeWhile isAscii ++ s.toList.dropWhile isAscii).drop
      (s.toList.takeWhile isAscii).length = s.toList.dropWhile isAscii := List.drop_left
  rw [List.takeWhile_append_dropWhile] at hdrop
  simp only [checkHeader, hdrop] at h
  cases hrest : s.toList.dropWhile isAscii with
  | nil => exact List.dropWhile_eq_nil_iff.1 hrest
  | cons c rest =>
    have hhead := List.head_dropWhile_not isAscii (l := s.toList) (by simp [hrest])
    simp only [hrest, List.head_cons] at hhead
    rw [hrest, List.takeWhile_cons_of_pos (by simp [hhead])] at h
    cases h

def checkBearer (c : Client) : Except Fault Unit :=
  match c.bearer? with
  | some b => checkHeader b
  | none => .ok ()

theorem checkBearer_eq_ok_iff :
    c.checkBearer = .ok () ↔ ∀ b ∈ c.bearer?, ∀ ch ∈ b.toList, isAscii ch = true := by
  rw [checkBearer]
  cases c.bearer? with
  | none => simp
  | some b => simp [checkHeader_eq_ok_iff]

theorem failsAs_checkBearer (c : Client) : FailsAs Fault.IsForeign c.checkBearer := by
  unfold checkBearer
  split
  · rename_i b hb
    unfold checkHeader
    dsimp only
    split
    · exact .ok ()
    · exact .error trivial
  · exact .ok ()

theorem request_eq_bind (c : Client) (u : Upload) : c.request u =
    c.address >>= fun s => Url.read s >>= fun url =>
      c.checkBearer.map fun _ => c.requestTo url.forSending u := by
  rw [request]
  cases c.address with
  | error f => rfl
  | ok s =>
    cases hread : Url.read s with
    | error f => simp [hread, bind, Except.bind]
    | ok url =>
      simp only [hread, bind, Except.bind, checkBearer]
      cases hb : c.bearer? with
      | none => rfl
      | some b =>
        dsimp only
        cases checkHeader b with
        | error f => rfl
        | ok _ => rfl

theorem failsAs_request (h : c.baseUrl.truthy = true) : FailsAs Fault.IsForeign (c.request u) := by
  rw [request_eq_bind]
  apply FailsAs.bind
  · rw [address, if_pos h]
    split
    · exact .ok _
    · exact .error trivial
    · exact .error trivial
  intro s
  apply FailsAs.bind
  · refine (Url.failsAs_read s).mono ?_
    rintro f ⟨problem, rfl⟩
    trivial
  intro url
  exact c.failsAs_checkBearer.map _

theorem request_of_empty (h : c.baseUrl.truthy = false) :
    c.request u = .error (.webApi "web api endpoint is not configured" none) := by
  rw [request_eq_bind, address, h]
  rfl

theorem exists_request_iff : (∃ req, c.request u = .ok req) ↔ c.baseUrl.truthy = true ∧
    ∃ s url, c.baseUrl = .text s ∧ Url.read (withoutEnd '/' s ++ uploadPath) = .ok url ∧
      ∀ b ∈ c.bearer?, ∀ ch ∈ b.toList, isAscii ch = true := by
  rw [← checkBearer_eq_ok_iff]
  constructor
  · rintro ⟨req, h⟩
    rw [request_eq_bind] at h
    obtain ⟨s, haddress, h⟩ := except_bind_eq_ok.1 h
    obtain ⟨url, hread, h⟩ := except_bind_eq_ok.1 h
    obtain ⟨⟨⟩, hb, -⟩ := map_eq_ok.1 h
    obtain ⟨ht, text, hbase, rfl⟩ := address_eq_ok haddress
    exact ⟨ht, text, url, hbase, hread, hb⟩
  · rintro ⟨ht, text, url, hbase, hread, hb⟩
    have haddress : c.address = .ok (withoutEnd '/' text ++ uploadPath) := by
      rw [address, if_pos ht, hbase]
    rw [request_eq_bind]
    exact ⟨_, except_bind_eq_ok.2 ⟨_, haddress, except_bind_eq_ok.2
      ⟨url, hread, map_eq_ok.2 ⟨(), hb, rfl⟩⟩⟩⟩

/-! ### How an upload should end -/

def answer? (c : Client) (send : Transport ω) (u : Upload) (w : ω) :
    Option (Request × Response × ω) :=
  match c.request u with
  | .error _ => none
  | .ok req =>
    match send req w with
    | .error _ _ => none
    | .ok r t => some (req, r, t)

/-- How an upload should end: with the receipt in an answer below 400, or with a fault of the client's
own, which tells the status of an answer from 400 on. -/
def Kept (intake : Intake ω) (answer : Option (Request × Response × ω)) :
    EStateM.Result Fault ω Receipt → Prop
  | .ok receipt _ => ∃ req r t, answer = some (req, r, t) ∧ r.status < 400 ∧
      ∃ content w, intake.content req r t = .ok content w ∧ receipt.ToldBy content
  | .error f _ => ¬ f.IsForeign ∧ ∀ req r t, answer = some (req, r, t) → f.Reports r.status

def Faithful (c : Client) (intake : Intake ω) (send : Transport ω) (u : Upload) (w : ω) : Prop :=
  Kept intake (c.answer? send u w) (c.uploadVia intake send u w)

theorem kept_error_none_iff : Kept intake none (.error f w) ↔ ¬ f.IsForeign := by
  simp [Kept]

theorem kept_error_some_iff :
    Kept intake (some (req, r, t)) (.error f w) ↔ f.Reports r.status := by
  constructor
  · intro h
    exact h.2 _ _ _ rfl
  · intro h
    refine ⟨?_, ?_⟩
    · cases f with
      | webApi message status => exact id
      | _ => cases h
    · rintro _ _ _ ⟨⟩
      exact h

theorem failed_isForeign_iff : ¬ (failed name f).IsForeign ↔ f.IsTransport ∨ ¬ f.IsForeign := by
  cases f with
  | transport kind message => exact iff_of_true id (.inl ⟨kind, message, rfl⟩)
  | webApi message status => exact iff_of_true id (.inr id)
  | _ => simp [failed, Fault.IsForeign, Fault.IsTransport]

theorem failed_reports_iff {status : Nat} : (failed name f).Reports status ↔
    f.IsTransport ∧ status < 400 ∨ f.Reports status := by
  cases f with
  | transport kind message => simp [failed, Fault.Reports, Fault.IsTransport]
  | _ => simp [failed, Fault.Reports, Fault.IsTransport]

theorem kept_receiptOf_iff (htaken : intake.content req r t = .ok content w) :
    Kept intake (some (req, r, t))
        (Attempt.ofExcept (receiptOf name r (intake.text r content) content) w) ↔
      intake.Settles req r t := by
  cases herror : r.isError with
  | true =>
    obtain ⟨hlow, hhigh⟩ := Response.isError_eq_true_iff.1 herror
    have hsettles : intake.Settles req r t ↔
        ∀ f, intake.text r content = .error f → f.Reports r.status := by
      constructor
      · intro h
        cases h with
        | lost lost => rw [htaken] at lost; cases lost
        | error taken low high text => rw [htaken] at taken; cases taken; exact text
        | receipt taken below => omega
      · exact fun h => .error htaken hlow hhigh h
    rw [hsettles]
    rcases receiptOf_of_isError name (intake.text r content) content herror with
      ⟨s, message, htext, h⟩ | ⟨f, htext, h⟩
    · rw [h, htext]
      exact iff_of_true (kept_error_some_iff.2 fun _ => rfl) fun f hf => by cases hf
    · rw [h, htext]
      refine kept_error_some_iff.trans ⟨?_, fun hall => hall f rfl⟩
      rintro hf _ ⟨⟩
      exact hf
  | false =>
    have hstatus := Response.isError_eq_false_iff.1 herror
    cases hjudged : receiptOf name r (intake.text r content) content with
    | error f =>
      have hforeign := failsAs_receiptOf herror f hjudged
      refine iff_of_false (fun h => h.1 hforeign) fun h => ?_
      cases h with
      | lost lost => rw [htaken] at lost; cases lost
      | error taken low high text => omega
      | receipt taken below told =>
        rw [htaken] at taken
        cases taken
        obtain ⟨receipt, htold⟩ := told
        rw [receiptOf_eq_ok_iff.2 ⟨herror, htold⟩] at hjudged
        cases hjudged
    | ok receipt =>
      have htold := (receiptOf_eq_ok_iff.1 hjudged).2
      constructor
      · rintro ⟨_, _, _, ⟨⟩, hbelow, -⟩
        exact .receipt htaken hbelow ⟨receipt, htold⟩
      · intro h
        refine ⟨req, r, t, rfl, ?_, content, w, htaken, htold⟩
        cases h with
        | lost lost => rw [htaken] at lost; cases lost
        | error taken low high text => omega
        | receipt taken below told => exact below

theorem settles_of_lost (hlost : intake.content req r t = .error f w) :
    intake.Settles req r t ↔ f.IsTransport ∧ r.status < 400 ∨ f.Reports r.status := by
  constructor
  · intro h
    cases h with
    | lost lost reported => rw [hlost] at lost; cases lost; exact reported
    | error taken => rw [hlost] at taken; cases taken
    | receipt taken => rw [hlost] at taken; cases taken
  · exact fun h => .lost hlost h

/-- How an upload ends, whatever its transport does and however the answers are taken in. A receipt is
returned where every step succeeds, and the request can be made where the endpoint spells an address
and the key is ASCII. An upload ends as it should if and only if it has no endpoint, or its request can
be made and the transport then either fails as transports do, but not with an address that is none, or
gives an answer that the client has a word for. -/
theorem upload_kept_iff (c : Client) (intake : Intake ω) (send : Transport ω) (u : Upload) (w : ω) :
    (∀ receipt w', c.uploadVia intake send u w = .ok receipt w' ↔
      ∃ req r t content, c.request u = .ok req ∧ send req w = .ok r t ∧
        intake.content req r t = .ok content w' ∧ (r.status < 400 ∨ 599 < r.status) ∧
        receipt.ToldBy content) ∧
    ((∃ req, c.request u = .ok req) ↔ c.baseUrl.truthy = true ∧
      ∃ s url, c.baseUrl = .text s ∧ Url.read (withoutEnd '/' s ++ uploadPath) = .ok url ∧
        ∀ b ∈ c.bearer?, ∀ ch ∈ b.toList, isAscii ch = true) ∧
    (c.Faithful intake send u w ↔
      (c.baseUrl.truthy = true → ∃ req, c.request u = .ok req) ∧
      ∀ req, c.request u = .ok req →
        (∀ f w', send req w = .error f w' → f.IsTransport ∨ ¬ f.IsForeign) ∧
        ∀ r t, send req w = .ok r t → intake.Settles req r t) := by
  refine ⟨fun receipt w' => uploadVia_eq_ok_iff, exists_request_iff, ?_⟩
  rw [Faithful]
  cases hreq : c.request u with
  | error f =>
    rw [uploadVia_of_unmade hreq]
    cases ht : c.baseUrl.truthy with
    | false =>
      have hempty := request_of_empty (u := u) ht
      rw [hempty] at hreq
      cases hreq
      simp [Kept, answer?, hempty, Fault.IsForeign]
    | true =>
      have hforeign := failsAs_request ht f hreq
      simp [Kept, hforeign]
  | ok req =>
    cases hsend : send req w with
    | error f t =>
      rw [uploadVia_of_unanswered hreq hsend]
      simp [answer?, hreq, hsend, kept_error_none_iff, failed_isForeign_iff]
    | ok r t =>
      have hanswer : c.answer? send u w = some (req, r, t) := by simp only [answer?, hreq, hsend]
      have hkept : Kept intake (some (req, r, t)) (c.uploadVia intake send u w) ↔
          intake.Settles req r t := by
        cases htaken : intake.content req r t with
        | error f w' =>
          rw [uploadVia_of_lost hreq hsend htaken, kept_error_some_iff, failed_reports_iff,
            settles_of_lost htaken]
        | ok content w' =>
          rw [uploadVia_of_taken hreq hsend htaken]
          exact kept_receiptOf_iff htaken
      rw [hanswer, hkept]
      simp [hsend]

def toward (address : String) : Client :=
  { blank with baseUrl := .text address }

def answering (r : Response) : Transport Unit :=
  fun _ => pure r

theorem upload_kept_iff_answered :
    (toward "http://h").Faithful .plain (answering (.ofText 500 "boom")) ⟨"a.csx", ""⟩ () ∧
      ¬ (toward "http://h").Faithful .plain (answering (.ofText 200 "stored")) ⟨"a.csx", ""⟩ () ∧
      ¬ (toward "http://h:port").Faithful .plain (answering (.ofText 500 "boom")) ⟨"a.csx", ""⟩ () := by
  have hmade : ((toward "http://h").request ⟨"a.csx", ""⟩).map (·.url.isAbsolute) = .ok true := by
    rfl
  have hunmade : ((toward "http://h:port").request ⟨"a.csx", ""⟩).isOk = false := by
    decide +kernel
  obtain ⟨req, hreq, habsolute⟩ : ∃ req, (toward "http://h").request ⟨"a.csx", ""⟩ = .ok req ∧
      req.url.isAbsolute = true := by
    cases h : (toward "http://h").request ⟨"a.csx", ""⟩ with
    | error f =>
      rw [h] at hmade
      cases hmade
    | ok req =>
      rw [h] at hmade
      exact ⟨req, rfl, Except.ok.inj hmade⟩
  refine ⟨?_, fun hkept => ?_, fun hkept => ?_⟩
  · apply (upload_kept_iff _ _ _ _ _).2.2.2
    refine ⟨fun _ => ⟨req, hreq⟩, fun req' hreq' => ⟨?_, ?_⟩⟩
    · rintro f w' ⟨⟩
    · rintro r w' ⟨⟩
      cases hreq.symm.trans hreq'
      exact .error (plain_content habsolute rfl ()) (by decide) (by decide) fun f hf => by cases hf
  · have hsettles := ((upload_kept_iff _ _ _ _ _).2.2.1 hkept).2 req hreq
    have hnone : (Json.readBytes (Response.ofText 200 "stored").bytes).isOk = false := by
      decide +kernel
    have htaken := plain_content habsolute (a := .ofText 200 "stored") rfl ()
    cases hsettles.2 _ _ rfl with
    | lost lost reported =>
      rw [htaken] at lost
      cases lost
    | error taken low => exact absurd low (by decide)
    | receipt taken below told =>
      rw [htaken] at taken
      cases taken
      obtain ⟨receipt, v, hjson, -⟩ := told
      rw [hjson] at hnone
      cases hnone
  · obtain ⟨req', hreq'⟩ := ((upload_kept_iff _ _ _ _ _).2.2.1 hkept).1 (by decide)
    rw [hreq'] at hunmade
    cases hunmade

end Client

end BuildScripts

import BlogConsole.Proofs.Client.Bodies
import BlogConsole.Proofs.Client.Exchange
import Mathlib.Data.List.Nodup

/-!
Answers to calls as replies to requests.

A reply encodes an answer if a service would say with it what the answer says: a value is the body
of a success, an error with a status is the body of that status, and an error without one is a
failure of the transport. A client takes from such a reply the answer that was encoded. Only where
an error comes from is its own affair: a client has met another failure before, a store has not.
-/

namespace BlogConsole

/-! ### Errors -/

namespace ApiError

/-- Errors that replies can tell: errors of the service, with a status that says whether
credentials were missing, and failures of the transport. -/
inductive Conveyed : ApiError → Prop
  | status (message : String) {status : Nat} (reason : Option String) :
      400 ≤ status → status < 600 →
      Conveyed ⟨Client.isAuthorizationStatus status, .string message, some status, .ofOption reason⟩
  | transport {message : String} :
      message ≠ "" → Conveyed ⟨false, .string message, none, .null⟩

/-- The entries of an error in its body, which hold its reason. Without a reason there are none. -/
def entries (e : ApiError) : List (String × Json) :=
  match e.reason with
  | .null => []
  | reason => [("errors", .array [.object [("reason", reason)]])]

def body (e : ApiError) : Json :=
  .object [("error", .object (("message", e.message) :: e.entries))]

def reply? (e : ApiError) : Option Reply :=
  match e.status, e.message with
  | some status, _ => some (.response ⟨status.toNat, [], Text.encodeUtf8 e.body.print⟩)
  | none, .string message => some (.failure "ConnectError" message)
  | none, _ => none

end ApiError

/-! ### Answers -/

namespace Call

def wire : (call : Call) → call.Answer → Json
  | insert _, post => post.toWire
  | get .., post => post.toWire
  | list .., page => page.toJson .wire

/-- The reply that tells an answer. Only errors of the service can be told. -/
def reply? (call : Call) : call.Reply → Option BlogConsole.Reply
  | .ok a => some (.response ⟨200, [], Text.encodeUtf8 (call.wire a).print⟩)
  | .error (.api e _) => e.reply?
  | .error _ => none

/-- The timestamps of an answer have offsets of whole minutes, if they have any. -/
def IsWhole : (call : Call) → call.Answer → Prop
  | insert _, post => post.IsWhole
  | get .., post => post.IsWhole
  | list .., page => page.IsWhole

/-- The answers that a reply can tell: values whose timestamps it can tell, and errors that can be
told. -/
inductive Told (call : Call) : call.Reply → Prop
  | value {a : call.Answer} : call.IsWhole a → Told call (.ok a)
  | error {e : ApiError} (origin : Option String) :
      e.Conveyed → Told call (.error (.api e origin))

/-- Two answers to a call are the same, but that an error may come from different failures. -/
inductive Agree (call : Call) : call.Reply → call.Reply → Prop
  | value (a : call.Answer) : Agree call (.ok a) (.ok a)
  | error (e : ApiError) (origin origin' : Option String) :
      Agree call (.error (.api e origin)) (.error (.api e origin'))

lemma read_wire {call : Call} {a : call.Answer} (whole : call.IsWhole a) :
    call.read (call.wire a) = .ok a := by
  cases call with
  | insert | get =>
    rw [read, wire, Post.toWire, (reads_post .wire).valid a whole]
    rfl
  | list =>
    rw [read, wire, (reads_postList .wire).valid a whole]
    rfl

end Call

/-- A response whose headers are in order and whose body is not packed. -/
def RawResponse.Plain (raw : RawResponse) : Prop :=
  ∃ r, raw.checked = .ok r ∧ r.header? "Content-Encoding" = none

/-- A reply tells the answer to a call. -/
inductive Encodes (call : Call) : call.Reply → Reply → Prop
  | value {a : call.Answer} {raw : RawResponse} :
      raw.Plain → raw.status = 200 → Client.readBody raw.body = .ok (call.wire a) →
      Encodes call (.ok a) (.response raw)
  | error {e : ApiError} {origin : Option String} {raw : RawResponse} :
      e.Conveyed → e.status = some (raw.status : Int) → raw.Plain →
      Client.readBody raw.body = .ok e.body → Encodes call (.error (.api e origin)) (.response raw)
  | unreached {e : ApiError} {origin : Option String} {message : String} :
      e.Conveyed → e.status = none → e.message = .string message →
      Encodes call (.error (.api e origin)) (.failure "ConnectError" message)

/-! ### Writing answers -/

lemma Client.readBody_value (call : Call) (a : call.Answer) :
    readBody (Text.encodeUtf8 (call.wire a).print) = .ok (call.wire a) := by
  cases call with
  | insert | get => exact readBody_post .wire a
  | list => exact readBody_postList .wire a

lemma ApiError.Conveyed.legible {e : ApiError} (h : e.Conveyed) : Json.Legible 4 e.body := by
  have alone (m : String) : Json.Legible 3 (.object [("message", .string m)]) :=
    .object (by simp) (by simpa using .string m)
  have reasoned (m reason : String) : Json.Legible 3 (.object [("message", .string m),
      ("errors", .array [.object [("reason", .string reason)]])]) := by
    have entry : Json.Legible 2 (.array [.object [("reason", .string reason)]]) :=
      .array (by simpa using .object (by simp) (by simpa using .string reason))
    exact .object (by simp) (by simpa using ⟨.string m, entry⟩)
  refine .object (List.nodup_singleton _) (List.forall_mem_singleton.mpr ?_)
  cases h with
  | transport => exact alone _
  | @status m _ reason =>
    cases reason with
    | none => exact alone m
    | some reason => exact reasoned m reason

lemma Client.readBody_error {e : ApiError} (h : e.Conveyed) :
    readBody (Text.encodeUtf8 e.body.print) = .ok e.body :=
  readBody_print h.legible (by decide)

lemma Call.Told.encodes {call : Call} {answer : call.Reply} (h : call.Told answer) :
    ∃ reply, call.reply? answer = some reply ∧ Encodes call answer reply := by
  cases h with
  | @value a _ => exact ⟨_, rfl, .value ⟨_, rfl, rfl⟩ rfl (Client.readBody_value call a)⟩
  | error _ conveyed =>
    have read := Client.readBody_error conveyed
    cases conveyed with
    | status message reason low high =>
      exact ⟨_, rfl, .error (.status message reason low high) rfl ⟨_, rfl, rfl⟩ read⟩
    | transport filled => exact ⟨_, rfl, .unreached (.transport filled) rfl rfl⟩

/-! ### Reading answers -/

namespace Client

variable {c : Client} {session : Session} {blog : Option String} {call : Call} {request : Request}
  {r : Response} {url : Url} {reply : Reply}

lemma errorOf_body {e : ApiError} (h : e.Conveyed) (status : e.status = some (r.status : Int))
    (body : readBody r.body = .ok e.body) :
    (errorOf r url call blog).2 = .error (.api e (some (r.statusMessage url))) := by
  have filled : r.body.isEmpty = false := by
    cases bytes : r.body with
    | nil =>
      rw [bytes] at body
      cases body
    | cons b bs => rfl
  cases h with
  | transport => cases status
  | @status message code reason low high =>
    have same : code = r.status := by simpa using status
    subst same
    rw [errorOf, errorObject, filled, body]
    cases reason with
    | none => rfl
    | some reason => rfl

lemma answer_failure (hs : c.session = some session) (fit : callFault? call = none)
    (hr : c.request session blog call = .ok request) {f : Failure}
    (h : (receive reply request.url call blog).2 = .error f) (rest : Transport) :
    (c.answer (reply :: rest) blog call).1 = rest ∧
      (c.answer (reply :: rest) blog call).2.2 = .error f := by
  rw [Client.answer, fit]
  dsimp only
  rw [exchange_cons hs hr, h]
  exact ⟨rfl, rfl⟩

/-- **What was encoded is answered.** -/
theorem answer_encoded (hs : c.session = some session) (fit : callFault? call = none)
    (hr : c.request session blog call = .ok request) (scheme : request.url.scheme ≠ [])
    {answer : call.Reply} (told : call.Told answer) (h : Encodes call answer reply)
    (rest : Transport) :
    (c.answer (reply :: rest) blog call).1 = rest ∧
      call.Agree answer (c.answer (reply :: rest) blog call).2.2 := by
  cases h with
  | @value a raw plain status body =>
    obtain ⟨whole⟩ := told
    obtain ⟨r, checked, unpacked⟩ := plain
    rw [answer_success hs fit hr scheme checked unpacked (by omega) body (call.read_wire whole)]
    exact ⟨rfl, .value a⟩
  | @error e origin raw conveyed status plain body =>
    obtain ⟨r, checked, unpacked⟩ := plain
    obtain ⟨sameStatus, sameBody⟩ := RawResponse.checked_ok checked
    rw [← sameStatus] at status
    have low : 400 ≤ r.status := by
      cases conveyed with
      | status message reason low high =>
        have same := Option.some.inj status
        omega
      | transport => cases status
    have failure : ¬ r.isSuccess = true := by
      rw [Response.isSuccess_iff]
      omega
    have received : (receive (.response raw) request.url call blog).2 =
        .error (.api e (some (r.statusMessage request.url))) := by
      rw [receive_plain checked unpacked scheme (.inr low), if_neg failure]
      exact errorOf_body conveyed status (sameBody ▸ body)
    obtain ⟨left, failed⟩ := answer_failure hs fit hr received rest
    exact ⟨left, failed ▸ .error e ..⟩
  | @unreached e origin message conveyed status spelled =>
    cases conveyed with
    | status => cases status
    | transport filled =>
      cases spelled
      have told : passedOn.contains "ConnectError" = false := by decide
      have received : (receive (.failure "ConnectError" message) request.url call blog).2 =
          .error (.api ⟨false, .string message, none, .null⟩ (some message)) := by
        simp only [receive, told, transportError, filled, Bool.false_eq_true, if_false]
      obtain ⟨left, failed⟩ := answer_failure hs fit hr received rest
      exact ⟨left, failed ▸ .error ..⟩

end Client

end BlogConsole

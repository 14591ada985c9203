import BlogConsole.Proofs.Client.Exchange
import BlogConsole.Proofs.Post.Restyling
import Mathlib.Data.List.Forall2

/-!
Replies whose bodies differ in style.

A success delivers the value that its body is the text of, however the text is encoded and packed.
If two successes deliver values that differ in style only, a call is answered alike by them: with
the same answer, or with a rejection for the same faults. What the call shows is the same.
-/

namespace BlogConsole

open Json

variable {α : Type} {call : Call} {v w : Json} {raw : RawResponse}
  {reply reply' : BlogConsole.Reply}

/-- What the answer to a call is read from. -/
def Call.role : Call → Role
  | .insert _ => .post
  | .get .. => .post
  | .list .. => .page

/-! ### Failures -/

/-- Failures that are the same, but that rejected values may have called a field by either of its
names. -/
inductive Failure.Restyled : Failure → Failure → Prop
  | same (f : Failure) : Restyled f f
  | rejected {ps qs : List Problem} :
      ps.map Problem.onWire = qs.map Problem.onWire → Restyled (.badRecord ps) (.badRecord qs)

/-- The same is reached, or failures that are the same but for the names of fields. -/
inductive Failure.Agree : Except Failure α → Except Failure α → Prop
  | ok (a : α) : Agree (.ok a) (.ok a)
  | error {f f' : Failure} : f.Restyled f' → Agree (.error f) (.error f')

namespace Failure

lemma agree_same (x : Except Failure α) : Agree x x := by
  cases x with
  | ok a => exact .ok a
  | error f => exact .error (.same f)

lemma Agree.toOption {x y : Except Failure α} (h : Agree x y) : x.toOption = y.toOption := by
  cases h <;> rfl

lemma agree_toExcept {x y : Checked α} (h : x.onWire = y.onWire) :
    Agree x.toExcept y.toExcept := by
  cases x with
  | valid a =>
    cases y with
    | valid b =>
      obtain rfl := Checked.valid.inj h
      exact .ok a
    | invalid qs => cases h
  | invalid ps =>
    cases y with
    | valid b => cases h
    | invalid qs => exact .error (.rejected (Checked.invalid.inj h))

end Failure

/-- A call reads the same answer from a value in every style. -/
lemma Call.read_restyled (h : Restyled call.role v w) :
    Failure.Agree (call.read v) (call.read w) := by
  cases call with
  | insert | get => exact Failure.agree_toExcept (indifferent_post.restyled h)
  | list => exact Failure.agree_toExcept (indifferent_postList.restyled h)

/-! ### Replies -/

/-- A response is a success, and its body, once it is opened, is the text of a value. -/
def RawResponse.Delivers (raw : RawResponse) (v : Json) : Prop :=
  ∃ packed r, raw.checked = .ok packed ∧ packed.unpacked = .ok r ∧ r.isSuccess = true ∧
    Client.readBody r.body = .ok v

/-- Replies that are the same, or successes that deliver values which differ in style only. -/
inductive Reply.Restyled (role : Role) : Reply → Reply → Prop
  | same (reply : Reply) : Restyled role reply reply
  | delivered {raw raw' : RawResponse} {v w : Json} :
      raw.Delivers v → raw'.Delivers w → Json.Restyled role v w →
      Restyled role (.response raw) (.response raw')

namespace Client

variable {c : Client} {blog : Option String} {tr tr' : Transport} {R : Reply → Reply → Prop}

/-- What is delivered is received, if the request went to a URL with a scheme. -/
lemma receive_delivers (h : raw.Delivers v) (url : Url) (call : Call) (blog : Option String) :
    receive (.response raw) url call blog =
      if url.scheme.isEmpty then ([], .error (.withoutScheme url)) else ([], .ok v) := by
  obtain ⟨packed, r, checked, unpacked, success, body⟩ := h
  have unmoved := r.location?_of_status (.inl (Response.isSuccess_iff.mp success).2)
  rw [receive, checked]
  dsimp only
  rw [unpacked]
  dsimp only
  rw [conclude, unmoved]
  dsimp only [Option.bind]
  rw [if_pos success, body]

/-- What is received shows the same. It is the same failure, or there are values from which the
call reads the same. -/
lemma receive_restyled (h : reply.Restyled call.role reply') (url : Url) (blog : Option String) :
    ∃ events,
      (∃ f, receive reply url call blog = (events, .error f) ∧
        receive reply' url call blog = (events, .error f)) ∨
      ∃ v w, receive reply url call blog = (events, .ok v) ∧
        receive reply' url call blog = (events, .ok w) ∧
        Failure.Agree (call.read v) (call.read w) := by
  cases h with
  | same =>
    obtain ⟨events, result⟩ := receive reply url call blog
    cases result with
    | error f => exact ⟨events, .inl ⟨f, rfl, rfl⟩⟩
    | ok v => exact ⟨events, .inr ⟨v, v, rfl, rfl, Failure.agree_same _⟩⟩
  | @delivered _ _ v w hv hw restyled =>
    rw [receive_delivers hv, receive_delivers hw]
    split
    · exact ⟨[], .inl ⟨_, rfl, rfl⟩⟩
    · exact ⟨[], .inr ⟨v, w, rfl, rfl, call.read_restyled restyled⟩⟩

/-- Either no reply is taken, whichever ones there are, or a request is sent. -/
lemma exchange_cases (c : Client) (blog : Option String) (call : Call) :
    (∃ f, ∀ tr, c.exchange tr blog call =
        (tr, [.notice (.requestSent (method call) (endpoint blog call))], .error f)) ∨
      ∃ session request, c.session = some session ∧ c.request session blog call = .ok request := by
  cases hs : c.session with
  | none =>
    refine .inl ⟨.notOpen, fun tr => ?_⟩
    rw [exchange, hs]
  | some session =>
    cases hr : c.request session blog call with
    | error f =>
      refine .inl ⟨f, fun tr => ?_⟩
      rw [exchange, hs]
      dsimp only
      rw [hr]
    | ok request => exact .inr ⟨session, request, rfl, hr⟩

/-- **Calls are answered alike in every style.** A call shows the same, and gets the same answer or
is rejected for the same faults. It uses up as many replies. -/
theorem answer_restyled (hR : ∀ reply reply', R reply reply' → reply.Restyled call.role reply')
    (given : List.Forall₂ R tr tr') (c : Client) (blog : Option String) :
    List.Forall₂ R (c.answer tr blog call).1 (c.answer tr' blog call).1 ∧
      (c.answer tr blog call).2.1 = (c.answer tr' blog call).2.1 ∧
      Failure.Agree (c.answer tr blog call).2.2 (c.answer tr' blog call).2.2 := by
  rw [answer, answer]
  cases callFault? call with
  | some f => exact ⟨given, rfl, .error (.same f)⟩
  | none =>
    dsimp only
    obtain ⟨f, unsent⟩ | ⟨session, request, hs, hr⟩ := c.exchange_cases blog call
    · rw [unsent, unsent]
      exact ⟨given, rfl, .error (.same f)⟩
    · cases given with
      | nil =>
        rw [exchange, hs]
        dsimp only
        rw [hr]
        exact ⟨.nil, rfl, .error (.same _)⟩
      | cons first later =>
        rw [exchange_cons hs hr, exchange_cons hs hr]
        obtain ⟨events, ⟨f, left, right⟩ | ⟨v, w, left, right, agree⟩⟩ :=
          receive_restyled (hR _ _ first) request.url blog
        · rw [left, right]
          exact ⟨later, rfl, .error (.same f)⟩
        · rw [left, right]
          dsimp only
          generalize call.read v = x at agree ⊢
          generalize call.read w = y at agree ⊢
          cases agree with
          | ok a => exact ⟨later, rfl, .ok a⟩
          | error restyled => exact ⟨later, rfl, .error restyled⟩

end Client

end BlogConsole

import BlogConsole.Proofs.Client.Encoding

/-!
Replies that refuse a call: what a client makes of a status from 400 on.

A refusal becomes an error of the service as soon as an object can be looked for in its body. The
body may be empty, hold an object of any shape, or be no JSON at all, if the charset of the response
can show it. JSON of any other kind, and JSON that is nested too deep, lead to another failure.
-/

namespace BlogConsole

/-- The body is JSON that is nested too deep to be read. -/
def Failure.isTooDeep : Failure → Bool
  | .badJson ⟨.tooDeep _, _, _, _⟩ => true
  | _ => false

/-- The bodies in which the object of an error can be looked for. -/
inductive Response.Searchable (r : Response) : Prop
  | empty : r.body = [] → Searchable r
  | object (ms : List (String × Json)) : Client.readBody r.body = .ok (.object ms) → Searchable r
  | page (f : Failure) : Client.readBody r.body = .error f → f.isTooDeep = false →
      r.pageFault? = none → Searchable r

namespace Client

variable {c : Client} {session : Session} {blog : Option String} {call : Call} {request : Request}
  {r : Response} {raw : RawResponse} {url : Url}

/-- A body that is no JSON has no object, unless it is nested too deep or cannot be shown. -/
lemma errorObject_page {f : Failure} (filled : r.body ≠ []) (read : readBody r.body = .error f) :
    errorObject r =
      if f.isTooDeep then .error f
      else match r.pageFault? with
        | some fault => .error (.during f.trace (.badPage fault))
        | none => .ok [] := by
  unfold errorObject
  rw [if_neg (mt List.isEmpty_iff.mp filled), read]
  split
  · next same => cases same
  · next same => cases same
  · next same => cases same; rfl
  · next f' deep same =>
    cases same
    have shallow : f.isTooDeep = false := by
      unfold Failure.isTooDeep
      split
      · exact absurd rfl (deep _ _ _ _)
      · rfl
    rw [shallow]
    rfl

/-- JSON that is no object has no members to look for. -/
lemma errorObject_other {v : Json} (read : readBody r.body = .ok v) (other : ∀ ms, v ≠ .object ms) :
    errorObject r = .error (.lacks v "get") := by
  have filled : r.body.isEmpty = false := by
    cases bytes : r.body with
    | nil => rw [bytes] at read; cases read
    | cons => rfl
  unfold errorObject
  rw [filled, read]
  cases v with
  | object ms => exact absurd rfl (other ms)
  | null | bool | int | float | string | array => rfl

/-- The object of an error is found in the bodies in which it can be looked for, and in no other. -/
lemma errorObject_cases (r : Response) :
    (r.Searchable ∧ ∃ error, errorObject r = .ok error) ∨
      (¬ r.Searchable ∧ ∃ f, errorObject r = .error f) := by
  by_cases empty : r.body = []
  · exact .inl ⟨.empty empty, [], by rw [errorObject, empty]; rfl⟩
  · cases read : readBody r.body with
    | ok v =>
      by_cases object : ∃ ms, v = .object ms
      · obtain ⟨ms, rfl⟩ := object
        refine .inl ⟨.object ms read, ?_⟩
        unfold errorObject
        rw [if_neg (mt List.isEmpty_iff.mp empty), read]
        dsimp only
        split <;> exact ⟨_, rfl⟩
      · refine .inr ⟨?_, _, errorObject_other read (not_exists.mp object)⟩
        rintro (empty' | ⟨ms, read'⟩ | ⟨f, read', -, -⟩)
        · exact empty empty'
        · exact object ⟨ms, Except.ok.inj (read.symm.trans read')⟩
        · cases read.symm.trans read'
    | error f =>
      have searchable : r.Searchable ↔ f.isTooDeep = false ∧ r.pageFault? = none := by
        constructor
        · rintro (empty' | ⟨ms, read'⟩ | ⟨f', read', shallow, page⟩)
          · exact absurd empty' empty
          · cases read.symm.trans read'
          · cases read.symm.trans read'
            exact ⟨shallow, page⟩
        · rintro ⟨shallow, page⟩
          exact .page f read shallow page
      rw [searchable, errorObject_page empty read]
      cases deep : f.isTooDeep with
      | true => exact .inr ⟨by simp, f, rfl⟩
      | false =>
        cases page : r.pageFault? with
        | none => exact .inl ⟨⟨rfl, rfl⟩, [], rfl⟩
        | some fault => exact .inr ⟨by simp, _, rfl⟩

/-- What a response that is no success comes to: an error of the service, or what stands in the way
of reading one. -/
lemma errorOf_cases (r : Response) (url : Url) (call : Call) (blog : Option String) :
    (r.Searchable ∧ ∃ message reason, (errorOf r url call blog).2 =
        .error (.api ⟨isAuthorizationStatus r.status, message, some r.status, reason⟩
          (some (r.statusMessage url)))) ∨
      (¬ r.Searchable ∧
        ∃ f, (errorOf r url call blog).2 = .error (.during [r.statusMessage url] f)) := by
  unfold errorOf
  obtain ⟨searchable, error, found⟩ | ⟨unsearchable, f, found⟩ := errorObject_cases r
  · rw [found]
    exact .inl ⟨searchable, _, _, rfl⟩
  · rw [found]
    exact .inr ⟨unsearchable, f, rfl⟩

lemma isAuthorizationStatus_iff {status : Nat} :
    isAuthorizationStatus status = true ↔ status = 401 ∨ status = 403 := by
  simp only [isAuthorizationStatus, Bool.or_eq_true, decide_eq_true_eq]
  omega

/-- **Refusals become errors of the service when their body can be searched.** A call is answered
with a status from 400 to 599, in headers that are in order and in a body that is not packed. It
comes to an error of the service exactly if the request went to a URL with a scheme and the object
of an error can be looked for in the body. The error has the status of the reply then, and it is one
of missing or insufficient credentials if the status is 401 or 403. A body that is JSON but no
object leads to another failure, met while the refusal was handled. -/
theorem refusal_conveyed (hs : c.session = some session) (fit : callFault? call = none)
    (hr : c.request session blog call = .ok request) (checked : raw.checked = .ok r)
    (plain : r.header? "Content-Encoding" = none) (status : 400 ≤ raw.status ∧ raw.status < 600)
    (rest : Transport) :
    (c.answer (.response raw :: rest) blog call).1 = rest ∧
      ((∃ e origin, (c.answer (.response raw :: rest) blog call).2.2 = .error (.api e origin)) ↔
        request.url.scheme ≠ [] ∧ r.Searchable) ∧
      (∀ e origin, (c.answer (.response raw :: rest) blog call).2.2 = .error (.api e origin) →
        e.status = some (raw.status : Int) ∧
          (e.authorization = true ↔ raw.status = 401 ∨ raw.status = 403)) ∧
      (∀ v, request.url.scheme ≠ [] → readBody raw.body = .ok v → (∀ ms, v ≠ .object ms) →
        (c.answer (.response raw :: rest) blog call).2.2 =
          .error (.during [r.statusMessage request.url] (.lacks v "get"))) := by
  have low : 400 ≤ r.status ∧ r.status = raw.status := by
    have := (RawResponse.checked_ok checked).1
    omega
  by_cases scheme : request.url.scheme = []
  · have came : (receive (.response raw) request.url call blog).2 =
        .error (.withoutScheme request.url) := by
      rw [receive_schemeless checked plain scheme]
    obtain ⟨used, answered⟩ := answer_failure hs fit hr came rest
    rw [answered]
    exact ⟨used, by simp [scheme], by simp, by simp [scheme]⟩
  · have failure : ¬ r.isSuccess = true := by
      rw [Response.isSuccess_iff]
      omega
    have came : receive (.response raw) request.url call blog =
        errorOf r request.url call blog := by
      rw [receive_plain checked plain scheme (.inr low.1), if_neg failure]
    have others (v : Json) (_ : request.url.scheme ≠ []) (read : readBody raw.body = .ok v)
        (other : ∀ ms, v ≠ .object ms) :
        (c.answer (.response raw :: rest) blog call).2.2 =
          .error (.during [r.statusMessage request.url] (.lacks v "get")) := by
      rw [← (RawResponse.checked_ok checked).2] at read
      refine (answer_failure hs fit hr ?_ rest).2
      rw [came, errorOf, errorObject_other read other]
    obtain ⟨searchable, message, reason, refused⟩ | ⟨unsearchable, f, refused⟩ :=
      errorOf_cases r request.url call blog
    · obtain ⟨used, answered⟩ := answer_failure hs fit hr (came ▸ refused) rest
      refine ⟨used, ?_, ?_, others⟩
      · simp [answered, scheme, searchable]
      · rw [answered]
        rintro e origin ⟨rfl⟩
        rw [isAuthorizationStatus_iff, low.2]
        exact ⟨rfl, Iff.rfl⟩
    · obtain ⟨used, answered⟩ := answer_failure hs fit hr (came ▸ refused) rest
      refine ⟨used, ?_, ?_, others⟩
      · simp [answered, unsearchable]
      · rw [answered]
        rintro e origin ⟨⟩

/-- The request with which an unnamed client asks for the listing of a host. -/
def listRequest : Request :=
  ⟨"GET", ⟨"https".toList, [], "h".toList, none, "/blogs/b/posts".toList, none, none⟩, none, none,
    [], defaultTimeout⟩

lemma request_list : (unnamed "https://h").request ⟨none⟩ (some "b") (.list none none none) =
    .ok listRequest := rfl

/-- A refusal whose body is an empty array. -/
def bracketed : RawResponse := ⟨500, [], [0x5B, 0x5D]⟩

lemma checked_bracketed : bracketed.checked = .ok ⟨500, [], [0x5B, 0x5D]⟩ := rfl

/-- The empty array has no members to look for. -/
theorem array_lacks_get :
    ((unnamed "https://h").answer [.response bracketed] (some "b") (.list none none none)).2.2 =
      .error (.during [Response.statusMessage ⟨500, [], [0x5B, 0x5D]⟩ listRequest.url]
        (.lacks (.array []) "get")) := by
  obtain ⟨-, -, -, others⟩ := refusal_conveyed (c := unnamed "https://h") rfl rfl request_list
    checked_bracketed rfl (by decide) []
  exact others (.array []) (by decide) rfl (by simp)

/-- Not every refusal becomes an error of the service. -/
theorem refusal_not_conveyed :
    ¬ ∀ (c : Client) (session : Session) (blog : Option String) (call : Call) (request : Request)
        (raw : RawResponse) (r : Response), c.session = some session → callFault? call = none →
        c.request session blog call = .ok request → raw.checked = .ok r →
        r.header? "Content-Encoding" = none → 400 ≤ raw.status ∧ raw.status < 600 →
        ∃ e origin, (c.answer [.response raw] blog call).2.2 = .error (.api e origin) := by
  intro conveyed
  obtain ⟨e, origin, conveyed⟩ :=
    conveyed (unnamed "https://h") ⟨none⟩ (some "b") (.list none none none)
    listRequest bracketed _ rfl rfl request_list checked_bracketed rfl (by decide)
  have missed :
      (receive (.response bracketed) listRequest.url (.list none none none) (some "b")).2 =
        .error (.during [Response.statusMessage ⟨500, [], [0x5B, 0x5D]⟩ listRequest.url]
          (.lacks (.array []) "get")) := by
    rw [receive_plain checked_bracketed rfl (by decide) (by decide)]
    rfl
  have answered := (answer_failure (c := unnamed "https://h") rfl rfl request_list missed []).2
  cases answered.symm.trans conveyed

end Client

end BlogConsole

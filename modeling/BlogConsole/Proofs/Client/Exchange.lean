import BlogConsole.Proofs.Client.Bodies
import BlogConsole.Proofs.Task.Verdict

/-!
Requests and replies: what a call sends, and what a reply comes to.

A call sends one request at most. A reply that is a success and is not packed comes to the value of
its body, as long as the request went to a URL with a scheme. So a post that the service sends back
as it was sent is read as the same post.
-/

namespace BlogConsole

variable {r : Response} {raw : RawResponse}

/-! ### Responses -/

lemma RawResponse.checked_ok (h : raw.checked = .ok r) :
    r.status = raw.status ∧ r.body = raw.body := by
  rw [checked] at h
  cases headers : raw.headers.mapM checkHeader with
  | error fault => rw [headers] at h; cases h
  | ok hs => rw [headers] at h; cases h; exact ⟨rfl, rfl⟩

lemma Response.unpacked_plain (h : r.header? "Content-Encoding" = none) : r.unpacked = .ok r := by
  have none : r.codings = [] := by
    rw [codings, h]
    decide +kernel
  rw [unpacked, none]
  split
  · rfl
  · rfl

/-- Only responses with a status from 300 to 399 send a request to another place. -/
lemma Response.location?_of_status (h : r.status < 300 ∨ 400 ≤ r.status) :
    r.location? = none := by
  have unmoved : r.status ∉ movedStatuses := by
    simp only [movedStatuses, List.mem_cons, List.not_mem_nil, or_false]
    omega
  rw [location?, if_neg (by simpa using unmoved)]

lemma Response.isSuccess_iff : r.isSuccess = true ↔ 200 ≤ r.status ∧ r.status < 300 := by
  simp [isSuccess]

namespace Client

variable {c : Client} {session : Session} {blog : Option String} {call : Call} {request : Request}
  {url : Url} {transport rest : Transport} {reply : Reply}

lemma receive_plain (hr : raw.checked = .ok r) (plain : r.header? "Content-Encoding" = none)
    (scheme : url.scheme ≠ []) (unmoved : r.status < 300 ∨ 400 ≤ r.status) :
    receive (.response raw) url call blog =
      if r.isSuccess then ([], readBody r.body) else errorOf r url call blog := by
  have absolute : ¬ url.scheme.isEmpty = true := by rwa [List.isEmpty_iff]
  rw [receive, hr]
  dsimp only
  rw [r.unpacked_plain plain]
  dsimp only
  rw [if_neg absolute, conclude, r.location?_of_status unmoved]
  rfl

/-- Without a scheme a plain response comes to nothing. -/
lemma receive_schemeless (hr : raw.checked = .ok r) (plain : r.header? "Content-Encoding" = none)
    (scheme : url.scheme = []) :
    receive (.response raw) url call blog = ([], .error (.withoutScheme url)) := by
  rw [receive, hr]
  dsimp only
  rw [r.unpacked_plain plain]
  dsimp only
  rw [scheme]
  rfl

lemma request_ok (h : c.request session blog call = .ok request) :
    c.url blog call = .ok request.url ∧ request.method = method call ∧
      request.body = (body call).getD [] := by
  rw [Client.request] at h
  cases hu : c.url blog call with
  | error f => rw [hu] at h; cases h
  | ok u => rw [hu] at h; cases h; exact ⟨rfl, rfl, rfl⟩

/-- An open client sends the request of a call and takes the next reply. -/
lemma exchange_cons (hs : c.session = some session)
    (hr : c.request session blog call = .ok request) :
    c.exchange (reply :: rest) blog call =
      (rest, .notice (.requestSent (method call) (endpoint blog call)) :: .request request ::
        (receive reply request.url call blog).1, (receive reply request.url call blog).2) := by
  rw [exchange, hs]
  dsimp only
  rw [hr]

lemma requests_answer (hs : c.session = some session) (fit : callFault? call = none)
    (hr : c.request session blog call = .ok request) (transport : Transport) :
    Event.requests (c.answer transport blog call).2.1 = [request] := by
  have sent {es : List Event} (h : Event.Noticed es) :
      Event.requests (.notice (.requestSent (method call) (endpoint blog call)) ::
        .request request :: es) = [request] := congrArg (request :: ·) h.requests
  rw [answer, fit]
  cases transport with
  | nil =>
    rw [exchange, hs]
    dsimp only
    rw [hr]
    exact sent Event.noticed_nil
  | cons reply rest =>
    rw [exchange_cons hs hr]
    dsimp only
    split
    · exact sent (noticed_receive _ _ _ _)
    · split
      · exact sent (noticed_receive _ _ _ _)
      · next a _ =>
        rw [List.cons_append, List.cons_append]
        refine sent fun e he => ?_
        exact (List.mem_append.mp he).elim (noticed_receive _ _ _ _ e) (noticed_success _ _ a e)

/-- A call that is answered by a plain success has the answer that its body is read as. -/
lemma answer_success (hs : c.session = some session) (fit : callFault? call = none)
    (hr : c.request session blog call = .ok request) (scheme : request.url.scheme ≠ [])
    (checked : raw.checked = .ok r) (plain : r.header? "Content-Encoding" = none)
    (status : 200 ≤ raw.status ∧ raw.status < 300) {v : Json} (hv : readBody raw.body = .ok v)
    {a : call.Answer} (ha : call.read v = .ok a) :
    c.answer (.response raw :: rest) blog call =
      (rest, .notice (.requestSent (method call) (endpoint blog call)) :: .request request ::
        success blog call a, .ok a) := by
  obtain ⟨sameStatus, sameBody⟩ := RawResponse.checked_ok checked
  rw [← sameStatus] at status
  rw [answer, fit]
  dsimp only
  rw [exchange_cons hs hr, receive_plain checked plain scheme (.inl status.2),
    if_pos (Response.isSuccess_iff.mpr status), sameBody, hv]
  dsimp only
  rw [ha]
  rfl

/-! ### Storing a post -/

lemma isWhole_of_answer {draft : Argument} {p : Post}
    (h : (c.answer transport blog (.insert draft)).2.2 = .ok p) : p.IsWhole := by
  rw [answer] at h
  split at h
  · cases h
  · dsimp only at h
    split at h
    · cases h
    · next v _ =>
      split at h
      · cases h
      · next a read =>
        obtain rfl := Except.ok.inj h
        rw [Call.read] at read
        cases checked : Post.ofJson v with
        | valid p =>
          rw [checked] at read
          obtain rfl := Except.ok.inj read
          exact Post.isWhole_ofJson checked
        | invalid ps => rw [checked] at read; cases read

/-- **A post is sent in its wire form, and the same bytes come back as the same post.** Storing a
post sends one request, whose body is the text of the post's wire form. If the request goes to a URL
with a scheme and the service answers it with a success whose body is the one of the request and is
not packed, then the call gives a post that is equal to the one sent, in every field, as long as its
timestamps have offsets of whole minutes, if any. With another offset the post is never given back
as it is.
-/
theorem insert_echoes (hs : c.session = some session) (p : Post)
    (hr : c.request session blog (.insert (.post p)) = .ok request) :
    (∀ transport, Event.requests (c.answer transport blog (.insert (.post p))).2.1 = [request]) ∧
      request.method = "POST" ∧ readBody request.body = .ok p.toWire ∧
      (request.url.scheme ≠ [] → p.IsWhole → ∀ raw r rest, raw.checked = .ok r →
        r.header? "Content-Encoding" = none → 200 ≤ raw.status ∧ raw.status < 300 →
        raw.body = request.body →
        c.answer (.response raw :: rest) blog (.insert (.post p)) =
          (rest,
            [.notice (.requestSent "POST" (endpoint blog (.insert (.post p)))), .request request,
              .notice (.postStored blog p.id)],
            .ok p)) ∧
      (¬ p.IsWhole → ∀ transport, (c.answer transport blog (.insert (.post p))).2.2 ≠ .ok p) := by
  obtain ⟨-, method, body⟩ := request_ok hr
  have sent : readBody request.body = .ok p.toWire := by
    rw [body]
    exact readBody_post .wire p
  refine ⟨requests_answer hs rfl hr, method, sent,
    fun scheme whole raw r rest checked plain status echo => ?_,
    fun other transport given => other (isWhole_of_answer given)⟩
  have read : (Call.insert (.post p)).read p.toWire = .ok p := by
    rw [Call.read, Post.toWire, (reads_post .wire).valid p whole]
    rfl
  exact answer_success hs rfl hr scheme checked plain status (echo ▸ sent) read

/-- An open client without credentials. -/
def unnamed (baseUrl : String) : Client :=
  { Client.new "" "" baseUrl defaultTimeout with session := some ⟨none⟩ }

/-- A place for posts on a host, which may be missing. -/
def postsOn (scheme host : String) : Url :=
  ⟨scheme.toList, [], host.toList, none, "/blogs/b/posts/".toList, none, none⟩

def storing (url : Url) (p : Post) : Request :=
  ⟨"POST", url, none, some "application/json", Text.encodeUtf8 p.toWire.print, defaultTimeout⟩

/-- A success that sends a post. -/
def echo (p : Post) : RawResponse := ⟨200, [], Text.encodeUtf8 p.toWire.print⟩

/-- A post of all kinds of characters that was published at noon, with an offset from UTC. -/
def atNoon (offset : UtcOffset) : Post :=
  { Post.empty with
    title := some "\"Zürich\" \\ 北 \n😀"
    content := some ""
    published := some
      ⟨⟨2020, 11, 5, by decide, by decide, by decide⟩,
        { TimeOfDay.midnight with
          hour := 12, micros := 250, hour_lt := by decide, micros_lt := by decide },
        some offset⟩
    labels := some ["b", "ä", "b"]
    author := some ⟨none, some "Ada", none⟩ }

lemma request_of_toOption (h : (c.request session blog call).toOption = some request) :
    c.request session blog call = .ok request := by
  cases made : c.request session blog call with
  | error f => rw [made] at h; cases h
  | ok q => rw [made] at h; exact congrArg Except.ok (Option.some.inj h)

/-- A post with an offset of hours and minutes comes back. -/
theorem noon_echoes :
    let p := atNoon ⟨-12600000000, by decide⟩
    ((unnamed "https://h").answer [.response (echo p)] (some "b") (.insert (.post p))).2.2 =
      .ok p := by
  intro p
  have sent : (unnamed "https://h").request ⟨none⟩ (some "b") (.insert (.post p)) =
      .ok (storing (postsOn "https" "h") p) := request_of_toOption (by decide +kernel)
  obtain ⟨-, -, -, echoes, -⟩ := insert_echoes rfl p sent
  have echoed := echoes (by decide) ⟨by decide, by decide⟩ (echo p) ⟨200, [], (echo p).body⟩ [] rfl
    rfl (by decide) rfl
  rw [echoed]

/-- An offset of an hour and a half minute is written as one of an hour. -/
lemma toWire_late : (atNoon ⟨3630000000, by decide⟩).toWire =
    (atNoon ⟨3600000000, by decide⟩).toWire := by
  have same : Timestamp.writeOffset (some ⟨3630000000, by decide⟩) =
      Timestamp.writeOffset (some ⟨3600000000, by decide⟩) := by decide
  simp only [Post.toWire, Post.toJson, Post.fields, atNoon, Option.map_some, Timestamp.text,
    Timestamp.write, same]

/-- Without a scheme in the base URL a request is sent, but what comes back is not read. With a
scheme it is, but half a minute of an offset is lost. -/
theorem echo_fails :
    (¬ ∀ (c : Client) (session : Session) (blog : Option String) (p : Post) (request : Request)
        (raw : RawResponse) (r : Response), c.session = some session →
        c.request session blog (.insert (.post p)) = .ok request → raw.checked = .ok r →
        r.header? "Content-Encoding" = none → 200 ≤ raw.status ∧ raw.status < 300 →
        raw.body = request.body →
        (c.answer [.response raw] blog (.insert (.post p))).2.2 = .ok p) ∧
      let p := atNoon ⟨3630000000, by decide⟩
      (unnamed "https://h").request ⟨none⟩ (some "b") (.insert (.post p)) =
          .ok (storing (postsOn "https" "h") p) ∧
        (echo p).body = (storing (postsOn "https" "h") p).body ∧
        ((unnamed "https://h").answer [.response (echo p)] (some "b") (.insert (.post p))).2.2 =
          .ok (atNoon ⟨3600000000, by decide⟩) := by
  constructor
  · intro echoes
    have sent : (unnamed "/").request ⟨none⟩ (some "b") (.insert (.post .empty)) =
        .ok (storing (postsOn "" "") .empty) := request_of_toOption (by decide +kernel)
    have echoed := echoes (unnamed "/") ⟨none⟩ (some "b") .empty _ (echo .empty)
      ⟨200, [], (echo .empty).body⟩ rfl sent rfl rfl (by decide) rfl
    rw [answer, exchange_cons rfl sent,
      receive_schemeless (r := ⟨200, [], (echo .empty).body⟩) rfl rfl rfl] at echoed
    cases echoed
  · intro p
    have sent : (unnamed "https://h").request ⟨none⟩ (some "b") (.insert (.post p)) =
        .ok (storing (postsOn "https" "h") p) := request_of_toOption (by decide +kernel)
    have read : (Call.insert (.post p)).read p.toWire =
        .ok (atNoon ⟨3600000000, by decide⟩) := by
      rw [toWire_late, Call.read, Post.toWire,
        (reads_post .wire).valid _ ⟨by decide, by decide⟩]
      rfl
    have checked : (echo p).checked = .ok ⟨200, [], (echo p).body⟩ := rfl
    have body : readBody (echo p).body = .ok p.toWire := readBody_post .wire p
    refine ⟨sent, rfl, ?_⟩
    rw [answer_success rfl rfl sent (by decide) checked rfl (by decide) body read]

end Client

end BlogConsole

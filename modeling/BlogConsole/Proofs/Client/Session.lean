import BlogConsole.Proofs.Client.Exchange
import BlogConsole.Proofs.Url.Below
import Mathlib.Data.List.Induction
import Mathlib.Data.List.TakeWhile

/-!
The life of a client: it is opened and closed, its attributes are assigned, and it is called.

A client reads what it was given at three times: the token when it is opened, the base URL and the
key at each call, and the time limit when it is made. So the session of a client is told by the
steps since it was last closed, and the request of a call by that session and by what was assigned
last. What a call is answered with changes neither.
-/

namespace BlogConsole

namespace Client

/-- What can happen to a client: it is opened, closed, given another token, key or base URL, or
called while its transport has some replies to give. -/
inductive Step
  | opens
  | closes
  | accessToken (token : String)
  | apiKey (key : String)
  | baseUrl (url : String)
  | call (blog : Option String) (call : Call) (replies : Transport)

namespace Step

def token? : Step → Option String
  | accessToken token => some token
  | _ => none

def key? : Step → Option String
  | apiKey key => some key
  | _ => none

def base? : Step → Option String
  | baseUrl url => some url
  | _ => none

def silent : Step → Step
  | call blog c _ => call blog c []
  | s => s

end Step

/-- The client after a step. An opening that fails leaves it as it is. -/
def step (c : Client) : Step → Client
  | .opens =>
    match c.opened with
    | .ok c' => c'
    | .error _ => c
  | .closes => c.closed
  | .accessToken token => { c with accessToken := token }
  | .apiKey key => { c with apiKey := key }
  | .baseUrl url => { c with baseUrl := url }
  | .call .. => c

def after (c : Client) (ss : List Step) : Client := ss.foldl step c

def sends (c : Client) : Step → List Request
  | .call blog call replies => Event.requests (c.answer replies blog call).2.1
  | _ => []

def sent (c : Client) : List Step → List Request
  | [] => []
  | s :: ss => c.sends s ++ (c.step s).sent ss

def latest (assigned? : Step → Option String) (initial : String) (ss : List Step) : String :=
  (ss.filterMap assigned?).getLast?.getD initial

/-- The header value that shows a token, if it is not empty. -/
def bearer (token : String) : Option String :=
  if token = "" then none else some ("Bearer " ++ token)

variable {c : Client} {session : Session} {s : Step} {ss : List Step} {blog : Option String}
  {call : Call} {a : Option String}

/-! ### Attributes -/

lemma after_append (c : Client) (ss ss' : List Step) :
    c.after (ss ++ ss') = (c.after ss).after ss' := List.foldl_append

lemma after_snoc (c : Client) (ss : List Step) (s : Step) :
    c.after (ss ++ [s]) = (c.after ss).step s := after_append c ss [s]

/-- What only its own assignments change is what was assigned last. -/
lemma after_latest {part : Client → String} {assigned? : Step → Option String}
    (h : ∀ c s, part (c.step s) = (assigned? s).getD (part c)) (c : Client) (ss : List Step) :
    part (c.after ss) = latest assigned? (part c) ss := by
  induction ss using List.reverseRecOn with
  | nil => rfl
  | append_singleton ss s ih =>
    rw [after_snoc, h, ih, latest, latest, List.filterMap_append, List.getLast?_append]
    cases hs : assigned? s with
    | none => simp [hs]
    | some v => simp [hs]

lemma step_opens (c : Client) : ∃ session, c.step .opens = { c with session := session } := by
  unfold step
  dsimp only
  split
  · next c' h =>
    rw [opened] at h
    split at h
    · exact ⟨c.session, (Except.ok.inj h).symm⟩
    · cases hc : credential c.accessToken with
      | error f => rw [hc] at h; cases h
      | ok a => rw [hc] at h; exact ⟨_, (Except.ok.inj h).symm⟩
  · exact ⟨c.session, rfl⟩

/-- Attributes change by their own assignments only, and the time limit never does. -/
lemma step_attributes (c : Client) (s : Step) :
    (c.step s).accessToken = s.token?.getD c.accessToken ∧
      (c.step s).apiKey = s.key?.getD c.apiKey ∧ (c.step s).baseUrl = s.base?.getD c.baseUrl ∧
      (c.step s).timeout = c.timeout := by
  cases s with
  | opens =>
    obtain ⟨session, h⟩ := c.step_opens
    rw [h]
    exact ⟨rfl, rfl, rfl, rfl⟩
  | closes | accessToken | apiKey | baseUrl | call => exact ⟨rfl, rfl, rfl, rfl⟩

lemma accessToken_after (c : Client) (ss : List Step) :
    (c.after ss).accessToken = latest Step.token? c.accessToken ss :=
  after_latest (fun c s => (step_attributes c s).1) c ss

lemma apiKey_after (c : Client) (ss : List Step) :
    (c.after ss).apiKey = latest Step.key? c.apiKey ss :=
  after_latest (fun c s => (step_attributes c s).2.1) c ss

lemma baseUrl_after (c : Client) (ss : List Step) :
    (c.after ss).baseUrl = latest Step.base? c.baseUrl ss :=
  after_latest (fun c s => (step_attributes c s).2.2.1) c ss

lemma timeout_after (c : Client) (ss : List Step) : (c.after ss).timeout = c.timeout := by
  induction ss using List.reverseRecOn with
  | nil => rfl
  | append_singleton ss s ih =>
    rw [after_snoc, ← ih]
    exact (step_attributes _ s).2.2.2

/-! ### The session -/

lemma credential_ok {token : String} :
    credential token = .ok a ↔ Text.Ascii token.toList ∧ a = bearer token := by
  rw [credential, bearer]
  by_cases empty : token = ""
  · subst empty
    simpa using eq_comm
  · rw [if_neg empty, if_neg empty]
    have ascii : Text.encodeError? .ascii ("Bearer " ++ token).toList = none ↔
        Text.Ascii token.toList := by
      rw [Text.encodeError?_ascii, String.toList_append, Text.ascii_append]
      exact and_iff_right (by decide)
    dsimp only
    rw [← ascii]
    cases h : Text.encodeError? .ascii ("Bearer " ++ token).toList with
    | none => simpa using eq_comm
    | some e => simp

/-- An open client keeps its session until it is closed. -/
lemma step_kept (h : c.session = some session) (hs : s ≠ .closes) :
    (c.step s).session = some session := by
  cases s with
  | opens => rw [step, opened, h]; exact h
  | closes => exact absurd rfl hs
  | accessToken | apiKey | baseUrl | call => exact h

lemma after_kept (h : c.session = some session) (hs : .closes ∉ ss) :
    (c.after ss).session = some session := by
  induction ss generalizing c with
  | nil => exact h
  | cons s ss ih =>
    obtain ⟨other, rest⟩ := not_or.mp (mt List.mem_cons.mpr hs)
    exact ih (step_kept h (Ne.symm other)) rest

/-- A closed client gets a session only when it is opened, with the token that it has then. -/
lemma step_fresh (h : c.session = none) :
    (c.step s).session = some ⟨a⟩ ↔ s = .opens ∧ credential c.accessToken = .ok a := by
  cases s with
  | opens =>
    rw [step, opened, h]
    cases hc : credential c.accessToken with
    | error f => simp [Except.map, h]
    | ok b => simp [Except.map]
  | closes => simp [step, closed]
  | accessToken | apiKey | baseUrl | call => simp [step, h]

/-- The session of a client that was closed at first: its client was opened with the token of that
time, when it was closed, and was not closed since. -/
lemma session_iff (h : c.session = none) :
    (c.after ss).session = some ⟨a⟩ ↔
      ∃ before later, ss = before ++ .opens :: later ∧ .closes ∉ later ∧
        (c.after before).session = none ∧ credential (c.after before).accessToken = .ok a := by
  constructor
  · intro open'
    -- the last step opened a closed client, or kept the session of an open one
    induction ss using List.reverseRecOn with
    | nil => cases h.symm.trans open'
    | append_singleton ss s ih =>
      rw [after_snoc] at open'
      cases session : (c.after ss).session with
      | none =>
        obtain ⟨rfl, ok⟩ := (step_fresh session).mp open'
        exact ⟨ss, [], rfl, List.not_mem_nil, session, ok⟩
      | some b =>
        have still : s ≠ .closes := by
          rintro rfl
          cases open'
        have same := (step_kept session still).symm.trans open'
        obtain ⟨before, later, rfl, unclosed, fresh, ok⟩ := ih (session.trans same)
        refine ⟨before, later ++ [s], by simp, ?_, fresh, ok⟩
        exact fun mem => (List.mem_append.mp mem).elim unclosed fun last =>
          still (List.mem_singleton.mp last).symm
  · rintro ⟨before, later, rfl, unclosed, fresh, ok⟩
    have opened : ((c.after before).step .opens).session = some ⟨a⟩ :=
      (step_fresh fresh).mpr ⟨rfl, ok⟩
    rw [after_append, after, List.foldl_cons]
    exact after_kept opened unclosed

/-- A client that was closed at first is open if it was opened with a token in ASCII and not closed
since. -/
lemma isOpen_iff (h : c.session = none) :
    (c.after ss).isOpen = true ↔
      ∃ before later, ss = before ++ .opens :: later ∧ .closes ∉ later ∧
        Text.Ascii (c.after before).accessToken.toList := by
  rw [isOpen, Option.isSome_iff_exists]
  constructor
  · rintro ⟨⟨b⟩, open'⟩
    obtain ⟨before, later, rfl, unclosed, -, ok⟩ := (session_iff h).mp open'
    exact ⟨before, later, rfl, unclosed, (credential_ok.mp ok).1⟩
  · rintro ⟨before, later, rfl, unclosed, ascii⟩
    cases session : (c.after before).session with
    | none =>
      exact ⟨_, (session_iff h).mpr
        ⟨before, later, rfl, unclosed, session, credential_ok.mpr ⟨ascii, rfl⟩⟩⟩
    | some b =>
      have opened : ((c.after before).step .opens).session = some b :=
        step_kept session (by simp)
      rw [after_append, after, List.foldl_cons]
      exact ⟨b, after_kept opened unclosed⟩

/-! ### Requests -/

lemma answer_closed (h : c.session = none) (fit : callFault? call = none) (replies : Transport)
    (blog : Option String) :
    c.answer replies blog call =
      (replies, [.notice (.requestSent (method call) (endpoint blog call))], .error .notOpen) := by
  rw [answer, fit]
  dsimp only
  rw [exchange, h]
  rfl

lemma answer_unplaced (h : c.session = some session) (fit : callFault? call = none) {f : Failure}
    (hu : c.url blog call = .error f) (replies : Transport) :
    c.answer replies blog call =
      (replies, [.notice (.requestSent (method call) (endpoint blog call))], .error f) := by
  have none : c.request session blog call = .error f := by
    rw [Client.request, hu]
    rfl
  rw [answer, fit]
  dsimp only
  rw [exchange, h]
  dsimp only
  rw [none]
  rfl

/-- A call uses up one reply at most. -/
lemma answer_transport (h : c.session = some session) (fit : callFault? call = none)
    {request : Request} (hr : c.request session blog call = .ok request) (replies : Transport) :
    (c.answer replies blog call).1 = replies.tail := by
  rw [answer, fit]
  dsimp only
  cases replies with
  | nil =>
    rw [exchange, h]
    dsimp only
    rw [hr]
    rfl
  | cons reply rest =>
    rw [exchange_cons h hr]
    dsimp only
    split
    · rfl
    · split <;> rfl

/-- The replies that a call leaves are the last ones of those it found. -/
lemma answer_suffix (c : Client) (replies : Transport) (blog : Option String) (call : Call) :
    (c.answer replies blog call).1 <:+ replies := by
  have left : (c.answer replies blog call).1 = replies ∨
      (c.answer replies blog call).1 = replies.tail := by
    cases fit : callFault? call with
    | some f => exact .inl (by rw [answer, fit])
    | none =>
      cases h : c.session with
      | none => exact .inl (by rw [answer_closed h fit])
      | some session =>
        cases hu : c.url blog call with
        | error f => exact .inl (by rw [answer_unplaced h fit hu])
        | ok url => exact .inr (answer_transport h fit (congrArg (Except.map _) hu) replies)
  obtain same | used := left
  · exact same.symm ▸ List.suffix_rfl
  · exact used.symm ▸ List.tail_suffix replies

lemma fault_not_api {f : Failure}
    (h : c.paramsFault? call = some f ∨ bodyFault? call = some f) (e : ApiError)
    (origin : Option String) : f ≠ .api e origin := by
  rintro rfl
  have text {o : Option Text.EncodeError} : o.map Failure.badText ≠ some (.api e origin) := by
    cases o <;> nofun
  obtain params | body := h
  · rw [paramsFault?] at params
    split at params
    · cases params
    · exact text params
  · cases call with
    | insert draft => exact text body
    | get | list => cases body

/-- What the URL of a call comes to, by what stands in its way: the text of its place, its
parameters, the length of its query, its body, or the name of its host. -/
inductive Addressed (c : Client) (blog : Option String) (call : Call) : Except Failure Url → Prop
  | unreadable {e : Url.Error} :
      Url.parse (c.baseUrl ++ "/" ++ endpoint blog call).toList = .error e →
      Addressed c blog call (.error (placeFailure e))
  | badParams {u : Url} {f : Failure} :
      Url.parse (c.baseUrl ++ "/" ++ endpoint blog call).toList = .ok u →
      c.paramsFault? call = some f → Addressed c blog call (.error f)
  | tooLong {u : Url} (part : String) :
      Url.parse (c.baseUrl ++ "/" ++ endpoint blog call).toList = .ok u →
      c.paramsFault? call = none →
      Addressed c blog call (.error (.badUrl (.componentTooLong part)))
  | badBody {u : Url} {f : Failure} :
      Url.parse (c.baseUrl ++ "/" ++ endpoint blog call).toList = .ok u →
      c.paramsFault? call = none → bodyFault? call = some f → Addressed c blog call (.error f)
  | badName {u : Url} {fault : Url.NameFault} :
      Url.parse (c.baseUrl ++ "/" ++ endpoint blog call).toList = .ok u →
      c.paramsFault? call = none → Url.nameFault? u.target.host = some fault →
      Addressed c blog call (.error (.badName fault))
  | placed {u : Url} :
      Url.parse (c.baseUrl ++ "/" ++ endpoint blog call).toList = .ok u →
      c.paramsFault? call = none → bodyFault? call = none →
      Url.nameFault? u.target.host = none →
      Addressed c blog call (.ok { u.target with
        query := Url.queryOf ((c.params call).map fun p => (p.1.toList, p.2.toList)) })

lemma url_addressed (c : Client) (blog : Option String) (call : Call) :
    c.Addressed blog call (c.url blog call) := by
  unfold Client.url
  cases read : Url.parse (c.baseUrl ++ "/" ++ endpoint blog call).toList with
  | error e => exact .unreadable read
  | ok u =>
    dsimp only [Except.mapError, bind, Except.bind]
    cases params : c.paramsFault? call with
    | some f => exact .badParams read params
    | none =>
      dsimp only
      obtain ⟨part, long⟩ | ok := Url.withParams_ok u.target
        ((c.params call).map fun p => (p.1.toList, p.2.toList))
      · rw [long]
        exact .tooLong part read params
      · rw [ok]
        dsimp only
        cases body : bodyFault? call with
        | some f => exact .badBody read params body
        | none =>
          cases name : Url.nameFault? u.target.host with
          | some fault => exact .badName read params name
          | none => exact .placed read params body name

lemma url_error {f : Failure} (h : c.url blog call = .error f) (e : ApiError)
    (origin : Option String) : f ≠ .api e origin := by
  have addressed := h ▸ c.url_addressed blog call
  cases addressed with
  | @unreadable fault => cases fault <;> nofun
  | badParams _ params => exact fault_not_api (.inl params) e origin
  | badBody _ _ body => exact fault_not_api (c := c) (.inr body) e origin
  | tooLong | badName => nofun

/-- A call sends its request and no other, or it fails without one. It does not fail with an error
of the service then. -/
lemma answer_sends (c : Client) (fit : callFault? call = none) (replies : Transport)
    (blog : Option String) :
    (∃ session request, c.session = some session ∧ c.request session blog call = .ok request ∧
      Event.requests (c.answer replies blog call).2.1 = [request]) ∨
    Event.requests (c.answer replies blog call).2.1 = [] ∧
      ∃ f, (c.answer replies blog call).2.2 = .error f ∧ ∀ e origin, f ≠ .api e origin := by
  cases hs : c.session with
  | none =>
    rw [answer_closed hs fit]
    exact .inr ⟨rfl, .notOpen, rfl, nofun⟩
  | some session =>
    cases hu : c.url blog call with
    | error f =>
      rw [answer_unplaced hs fit hu]
      exact .inr ⟨rfl, f, rfl, url_error hu⟩
    | ok url =>
      have made : c.request session blog call = .ok _ := congrArg (Except.map _) hu
      exact .inl ⟨session, _, rfl, made, requests_answer hs fit made replies⟩

lemma fit_of_api {replies : Transport} {e : ApiError} {origin : Option String}
    (h : (c.answer replies blog call).2.2 = .error (.api e origin)) : callFault? call = none := by
  rw [answer] at h
  split at h
  · next f fault =>
    cases call with
    | insert draft => cases draft <;> cases fault; cases h
    | get | list => cases fault
  · next none => exact none

lemma sent_of_api (fit : callFault? call = none) {replies : Transport} {e : ApiError}
    {origin : Option String} (h : (c.answer replies blog call).2.2 = .error (.api e origin)) :
    ∃ session request, c.session = some session ∧ c.request session blog call = .ok request ∧
      Event.requests (c.answer replies blog call).2.1 = [request] := by
  obtain sent | ⟨-, f, failed, other⟩ := answer_sends c fit replies blog
  · exact sent
  · exact absurd (Except.error.inj (failed.symm.trans h)) (other e origin)

lemma sent_of_ok (fit : callFault? call = none) {replies : Transport} {a : call.Answer}
    (h : (c.answer replies blog call).2.2 = .ok a) :
    ∃ request, Event.requests (c.answer replies blog call).2.1 = [request] := by
  obtain ⟨-, request, -, -, sent⟩ | ⟨-, f, failed, -⟩ := answer_sends c fit replies blog
  · exact ⟨request, sent⟩
  · cases failed.symm.trans h

/-- What a client sends does not depend on the replies to come. -/
lemma sends_silent (c : Client) (s : Step) : c.sends s.silent = c.sends s := by
  cases s with
  | opens | closes | accessToken | apiKey | baseUrl => rfl
  | call blog call replies =>
    rw [Step.silent, sends, sends]
    cases fault : callFault? call with
    | some f => rw [answer, answer, fault]
    | none =>
      cases session : c.session with
      | none => rw [answer_closed session fault, answer_closed session fault]
      | some session' =>
        cases url : c.url blog call with
        | error f => rw [answer_unplaced session fault url, answer_unplaced session fault url]
        | ok u =>
          have hr : ∃ request, c.request session' blog call = .ok request := by
            rw [Client.request, url]
            exact ⟨_, rfl⟩
          obtain ⟨request, hr⟩ := hr
          rw [requests_answer session fault hr, requests_answer session fault hr]

lemma step_silent (c : Client) (s : Step) : c.step s.silent = c.step s := by
  cases s <;> rfl

lemma sent_silent (c : Client) (ss : List Step) :
    c.after (ss.map Step.silent) = c.after ss ∧ c.sent (ss.map Step.silent) = c.sent ss := by
  induction ss generalizing c with
  | nil => exact ⟨rfl, rfl⟩
  | cons s ss ih =>
    obtain ⟨after, sent⟩ := ih (c.step s)
    rw [List.map_cons, Client.sent, Client.sent, sends_silent, step_silent, sent]
    refine ⟨?_, rfl⟩
    rw [Client.after, Client.after, List.foldl_cons, List.foldl_cons, step_silent]
    exact after

/-- The URL of a call is the target of what its place is read as, with the parameters of the call.
The body of the call can be written. -/
lemma url_ok {url : Url} (h : c.url blog call = .ok url) :
    ∃ u, Url.parse (c.baseUrl ++ "/" ++ endpoint blog call).toList = .ok u ∧
      bodyFault? call = none ∧
      url = { u.target with
        query := Url.queryOf ((c.params call).map fun p => (p.1.toList, p.2.toList)) } := by
  have addressed := h ▸ c.url_addressed blog call
  cases addressed with
  | placed read _ body => exact ⟨_, read, body, rfl⟩

/-- A call whose body cannot be written is not sent. It does not fail with an error of the service.
-/
lemma unwritten_unsent (c : Client) {f : Failure} (h : bodyFault? call = some f)
    (fit : callFault? call = none) (replies : Transport) (blog : Option String) :
    Event.requests (c.answer replies blog call).2.1 = [] ∧
      ∃ f, (c.answer replies blog call).2.2 = .error f ∧ ∀ e origin, f ≠ .api e origin := by
  obtain ⟨session, request, -, made, -⟩ | unsent := answer_sends c fit replies blog
  · obtain ⟨-, -, written, -⟩ := url_ok (request_ok made).1
    cases h.symm.trans written
  · exact unsent

/-- A URL below a base without user information has none. -/
lemma url_userinfo {url : Url} (base : Url.userOf c.baseUrl.toList = [])
    (h : c.url blog call = .ok url) : url.userinfo = [] := by
  have place : ∃ rest, (c.baseUrl ++ "/" ++ endpoint blog call).toList =
      c.baseUrl.toList ++ '/' :: ("blogs".toList ++ '/' :: rest) := by
    cases call <;> simp [endpoint, toString]
  obtain ⟨rest, place⟩ := place
  have none : Url.userOf (c.baseUrl.toList ++ '/' :: ("blogs".toList ++ '/' :: rest)) = [] :=
    Url.userOf_below base (by decide) (by simp) rest
  obtain ⟨u, read, -, rfl⟩ := url_ok h
  rw [place] at read
  dsimp only
  rw [Url.target]
  split
  · exact Url.parse_userinfo read none
  · rfl

lemma request_bearing (base : Url.userOf c.baseUrl.toList = []) {url : Url}
    (h : c.url blog call = .ok url) :
    c.request session blog call =
      .ok ⟨method call, url, session.authorization, (body call).map fun _ => "application/json",
        (body call).getD [], c.timeout⟩ := by
  have none : userCredential url.userinfo = none := by
    rw [url_userinfo base h]
    decide +kernel
  rw [Client.request, h]
  dsimp only [Except.map]
  rw [none]
  rfl

/-- **A client is what its steps made it.** A client is made, and any steps follow. Its key and its
base URL are those that were assigned last, its time limit is the one it was made with. It is open
if it was opened, with a token in ASCII, and not closed since. Its session shows the token that it
had when it was opened while it was closed, whatever was assigned since. While it is not open it
refuses every call and reaches no transport. While it is open, a call without a URL reaches no
transport, and any other one reaches it once, uses up one reply at most, and sends a request that is
made of the session, of what was assigned last, and of the call; the base URL has to be one without
user information, which would take the place of the session. A call leaves the client as it is, and
what calls are answered with makes no difference for any request. -/
theorem session_history (accessToken apiKey baseUrl : String) (timeout : Double)
    (ss : List Step) :
    let new := Client.new accessToken apiKey baseUrl timeout
    let now := new.after ss
    (now.apiKey = latest Step.key? apiKey ss ∧ now.baseUrl = latest Step.base? new.baseUrl ss ∧
        now.timeout = timeout) ∧
      (now.isOpen = true ↔ ∃ before later, ss = before ++ .opens :: later ∧ .closes ∉ later ∧
        Text.Ascii (latest Step.token? accessToken before).toList) ∧
      (∀ a, now.session = some ⟨a⟩ ↔ ∃ before later, ss = before ++ .opens :: later ∧
        .closes ∉ later ∧ (new.after before).isOpen = false ∧
        Text.Ascii (latest Step.token? accessToken before).toList ∧
        a = bearer (latest Step.token? accessToken before)) ∧
      (∀ blog call replies, callFault? call = none →
        let notice := Event.notice (.requestSent (method call) (endpoint blog call))
        (now.isOpen = false →
          now.answer replies blog call = (replies, [notice], .error .notOpen)) ∧
        (∀ a f, now.session = some ⟨a⟩ → now.url blog call = .error f →
          now.answer replies blog call = (replies, [notice], .error f)) ∧
        (∀ a url, now.session = some ⟨a⟩ → now.url blog call = .ok url →
          Url.userOf now.baseUrl.toList = [] →
          (now.answer replies blog call).1 = replies.tail ∧
            Event.requests (now.answer replies blog call).2.1 =
              [⟨method call, url, a, (body call).map fun _ => "application/json",
                (body call).getD [], timeout⟩])) ∧
      (∀ blog call replies, new.after (ss ++ [.call blog call replies]) = now) ∧
      ∀ ss', ss'.map Step.silent = ss.map Step.silent →
        new.after ss' = now ∧ new.sent ss' = new.sent ss := by
  intro new now
  have closed : new.session = none := rfl
  have limit : now.timeout = timeout := new.timeout_after ss
  have token (before : List Step) :
      (new.after before).accessToken = latest Step.token? accessToken before :=
    new.accessToken_after before
  refine ⟨⟨new.apiKey_after ss, new.baseUrl_after ss, limit⟩, ?_, fun a => ?_,
    fun blog call replies fit => ⟨fun shut => ?_, fun a f session url => ?_,
      fun a url session ok base => ?_⟩, fun blog call replies => new.after_snoc ss _,
    fun ss' same => ?_⟩
  · simp only [← token]
    exact isOpen_iff closed
  · simp only [← token, ← credential_ok, isOpen, Option.isSome_eq_false_iff,
      Option.isNone_iff_eq_none]
    exact session_iff closed
  · exact answer_closed (by simpa [isOpen] using shut) fit replies blog
  · exact answer_unplaced session fit url replies
  · have request : now.request ⟨a⟩ blog call = _ := request_bearing base ok
    rw [limit] at request
    exact ⟨answer_transport session fit request replies, requests_answer session fit request _⟩
  · obtain ⟨after, sent⟩ := new.sent_silent ss
    obtain ⟨after', sent'⟩ := new.sent_silent ss'
    rw [same] at after' sent'
    exact ⟨after'.symm.trans after, sent'.symm.trans sent⟩

/-- A client is opened, given another token, and called without being answered. -/
def unanswered : List Step :=
  [.opens, .accessToken "late", .call (some "b") (.list none none none) []]

/-- The next request still shows the token of the opening. -/
theorem shows_first_token :
    Event.requests (((Client.new "early" "" "https://h" defaultTimeout).after unanswered).answer []
      (some "b") (.list none none none)).2.1 =
        [⟨"GET", ⟨"https".toList, [], "h".toList, none, "/blogs/b/posts".toList, none, none⟩,
          some "Bearer early", none, [], defaultTimeout⟩] := by
  obtain ⟨-, -, -, called, -⟩ := session_history "early" "" "https://h" defaultTimeout unanswered
  obtain ⟨-, -, sends⟩ := called (some "b") (.list none none none) [] rfl
  exact (sends _ _ rfl rfl (by decide +kernel)).2

end Client

end BlogConsole

import BlogConsole.Proofs.Client.Query
import BlogConsole.Proofs.Command.Likeness
import BlogConsole.Proofs.Settings.Variation

/-!
Where the key of the service is disclosed.

The key is part of the URL of each request. Whatever shows such a URL shows the key, and three
things do: the wording that stands in for a missing one in a refusal, the failure of a request to a
URL without a scheme, and the trace of a failure that is met over a refusal, because its body cannot
be searched or because its message is no text. From there it comes into notices and into the title
of a post that could not be loaded. Two runs that have different keys differ in nothing else.
-/

namespace BlogConsole

/-! ### URLs with a key -/

/-- A URL with a key as its last parameter, and the same one with another key. -/
def Url.Keyed (k k' : String) (u u' : Url) : Prop :=
  ∃ ps : List (List Char × List Char), (∀ p ∈ ps, p.1 ≠ "key".toList) ∧
    u.query = some (form (ps ++ [("key".toList, k.toList)])) ∧
    u' = { u with query := some (form (ps ++ [("key".toList, k'.toList)])) }

/-- A request to a URL with a key, and the same request with another key. -/
def Request.Keyed (k k' : String) (q q' : Request) : Prop :=
  q.url.Keyed k k' q'.url ∧ q' = { q with url := q'.url }

def Failure.longQuery : Failure := .badUrl (.componentTooLong "query")

variable {k k' : String}

/-- A parameter at the end changes nothing but the query, and makes it too long at worst. -/
lemma Url.withParams_snoc (u : Url) (ps : List (List Char × List Char))
    (p p' : List Char × List Char) :
    (∃ e, u.withParams (ps ++ [p]) = .error e ∧ u.withParams (ps ++ [p']) = .error e) ∨
      (u.withParams (ps ++ [p]) = .ok { u with query := some (form (ps ++ [p])) } ∧
        u.withParams (ps ++ [p']) = .ok { u with query := some (form (ps ++ [p'])) }) ∨
      u.withParams (ps ++ [p]) = .error (.componentTooLong "query") ∨
      u.withParams (ps ++ [p']) = .error (.componentTooLong "query") := by
  have filled (p : List Char × List Char) : (ps ++ [p]).isEmpty = false := by simp
  unfold withParams
  simp only [filled, Bool.false_eq_true, if_false, Option.any_some]
  split_ifs <;> simp

namespace Client

variable {c : Client} {blog : Option String} {call : Call}

def ownParams (call : Call) : List (List Char × List Char) :=
  call.parameters.map fun p => (p.1.toList, p.2.toList)

lemma params_eq (call : Call) (filled : c.apiKey ≠ "") :
    ((c.params call).map fun p => (p.1.toList, p.2.toList)) =
      ownParams call ++ [("key".toList, c.apiKey.toList)] := by
  rw [params_parts, keyParameter, if_neg filled, List.map_append]
  rfl

lemma ownParams_ne_key : ∀ p ∈ ownParams call, p.1 ≠ "key".toList := by
  refine List.forall_mem_map.mpr fun p hp => ?_
  cases call with
  | insert => cases hp
  | get =>
    obtain ⟨v, -, rfl⟩ := List.mem_map.mp hp
    simp
  | list =>
    simp only [Call.parameters, List.mem_append, named, List.mem_map] at hp
    obtain (⟨v, -, rfl⟩ | ⟨v, -, rfl⟩) | ⟨v, -, rfl⟩ := hp <;> simp

/-- The parameters of a call have the same fault with every key that can be written. -/
lemma paramsFault?_keyed (writable : Text.encodeError? .unicode c.apiKey.toList = none)
    (writable' : Text.encodeError? .unicode k'.toList = none) (call : Call) :
    { c with apiKey := k' }.paramsFault? call = c.paramsFault? call := by
  have own {c : Client} (writable : Text.encodeError? .unicode c.apiKey.toList = none) :
      (c.params call).findSome? (fun p => Text.encodeError? .unicode p.2.toList) =
        call.parameters.findSome? fun p => Text.encodeError? .unicode p.2.toList := by
    rw [params_parts, keyParameter, List.findSome?_append]
    split
    · simp
    · simp [writable]
  rw [paramsFault?, paramsFault?, own writable, own (c := { c with apiKey := k' }) writable']

/-- The URLs of a call with two keys. They fail alike, or show the keys and are the same otherwise,
unless the query of one gets too long. -/
lemma url_keyed (filled : c.apiKey ≠ "") (filled' : k' ≠ "")
    (writable : Text.encodeError? .unicode c.apiKey.toList = none)
    (writable' : Text.encodeError? .unicode k'.toList = none) (blog : Option String)
    (call : Call) :
    (∃ f, c.url blog call = .error f ∧ { c with apiKey := k' }.url blog call = .error f) ∨
      (∃ u u', c.url blog call = .ok u ∧ { c with apiKey := k' }.url blog call = .ok u' ∧
        u.Keyed c.apiKey k' u') ∨
      c.url blog call = .error .longQuery ∨
      { c with apiKey := k' }.url blog call = .error .longQuery := by
  unfold Client.url
  rw [paramsFault?_keyed writable writable', params_eq call filled,
    params_eq (c := { c with apiKey := k' }) call filled']
  dsimp only [bind, Except.bind]
  cases Url.parse (c.baseUrl ++ "/" ++ endpoint blog call).toList with
  | error e => exact .inl ⟨_, rfl, rfl⟩
  | ok base =>
    dsimp only [Except.mapError]
    cases c.paramsFault? call with
    | some f => exact .inl ⟨f, rfl, rfl⟩
    | none =>
      dsimp only
      obtain ⟨e, bad, bad'⟩ | ⟨ok, ok'⟩ | long | long := base.target.withParams_snoc
        (ownParams call) ("key".toList, c.apiKey.toList) ("key".toList, k'.toList)
      · rw [bad, bad']
        exact .inl ⟨_, rfl, rfl⟩
      · rw [ok, ok']
        dsimp only
        cases (bodyFault? call).or ((Url.nameFault? base.target.host).map .badName) with
        | some f => exact .inl ⟨f, rfl, rfl⟩
        | none =>
          exact .inr (.inl ⟨_, _, rfl, rfl, ownParams call, ownParams_ne_key, rfl, rfl⟩)
      · exact .inr (.inr (.inl (by rw [long]; rfl)))
      · exact .inr (.inr (.inr (by rw [long]; rfl)))

end Client

/-! ### Replies -/

/-- The object of an error cannot be looked for in a response, or has no message, or one that is no
text. -/
def Response.lacksMessage (r : Response) : Bool :=
  match Client.errorObject r with
  | .error _ => true
  | .ok error =>
    match Json.member? error "message" with
    | some (.string _) => false
    | some .null => false
    | _ => true

/-- What is made of a response tells where it was asked for: it is no success and has no message. It
does not tell it if it sends the request to a bad place. -/
def Response.reveals (r : Response) : Bool :=
  match r.location?.bind Client.badPlace? with
  | some _ => false
  | none => !r.isSuccess && r.lacksMessage

/-- A reply is a response that opens to such a refusal. -/
def Reply.reveals : Reply → Bool
  | .failure .. => false
  | .response raw =>
    match raw.checked with
    | .error _ => false
    | .ok checked =>
      match checked.unpacked with
      | .error _ => false
      | .ok r => r.reveals

/-- Runs that differ in the key of their requests. The wording of a refusal and the trace of a
failure differ if one of the replies tells where it was asked for. A URL differs if it can be
reached and has no scheme. -/
def Likeness.ofKeys (k k' : String) (replies : Transport) (reached : Url → Prop) : Likeness where
  request := Request.Keyed k k'
  wording v v' := (∃ reply ∈ replies, reply.reveals = true) ∧
    ∃ (r : Response) (u u' : Url), u.Keyed k k' u' ∧ v = r.statusMessage u ∧ v' = r.statusMessage u'
  target u u' := reached u ∧ u.scheme = [] ∧ u.Keyed k k' u'
  trace ws ws' := (∃ reply ∈ replies, reply.reveals = true) ∧
    ∃ (r : Response) (u u' : Url) (rest : List String), u.Keyed k k' u' ∧
      ws = r.statusMessage u :: rest ∧ ws' = r.statusMessage u' :: rest
  spoils f := f = .longQuery
  spoils_other := by rintro f rfl e origin ⟨⟩

variable {replies : Transport} {reached : Url → Prop}

/-- Only requests differ if no reply tells where it was asked for and every URL has a scheme. -/
lemma Likeness.strict_ofKeys (worded : ∀ reply ∈ replies, reply.reveals = false)
    (schemed : ∀ u, reached u → u.scheme ≠ []) : (ofKeys k k' replies reached).Strict where
  wording := by
    rintro v v' ⟨⟨reply, mem, reveals⟩, -⟩
    cases (worded reply mem).symm.trans reveals
  target := fun u u' ⟨there, schemeless, _⟩ => schemed u there schemeless
  trace := by
    rintro ws ws' ⟨⟨reply, mem, reveals⟩, -⟩
    cases (worded reply mem).symm.trans reveals

namespace Client

variable {u u' : Url} {call : Call} {blog : Option String}

/-- The errors of a refusal differ if it has no message, or one that is no text. -/
lemma errorOf_keyed (keyed : u.Keyed k k' u') {r : Response}
    (given : r.lacksMessage = true → ∃ reply ∈ replies, reply.reveals = true) :
    List.Forall₂ (Event.Like (.ofKeys k k' replies reached)) (errorOf r u call blog).1
        (errorOf r u' call blog).1 ∧
      (Likeness.ofKeys k k' replies reached).Got (errorOf r u call blog).2
        (errorOf r u' call blog).2 := by
  have traced (lacks : r.lacksMessage = true) (rest : List String) :
      (Likeness.ofKeys k k' replies reached).trace (r.statusMessage u :: rest)
        (r.statusMessage u' :: rest) :=
    ⟨given lacks, r, u, u', rest, keyed, rfl, rfl⟩
  unfold errorOf
  cases object : errorObject r with
  | error f =>
    have lacks : r.lacksMessage = true := by rw [Response.lacksMessage, object]
    exact ⟨.nil, .agree (.error (.during f (traced lacks [])))⟩
  | ok error =>
    dsimp only
    cases message : Json.member? error "message" with
    | none =>
      have lacks : r.lacksMessage = true := by
        simp only [Response.lacksMessage, object, message]
      have reworded : (Likeness.ofKeys k k' replies reached).wording (r.statusMessage u)
          (r.statusMessage u') := ⟨given lacks, r, u, u', keyed, rfl, rfl⟩
      exact ⟨.cons (.notice (.errorReply reworded)) .nil,
        .api (.titled _ _ (.reworded reworded) rfl)⟩
    | some m =>
      rw [Option.getD_some, Option.getD_some]
      refine ⟨Event.forall₂_same rfl, .api ?_⟩
      cases m with
      | string | null => exact .titled _ _ (.same _) rfl
      | bool | int | float | array | object =>
        have lacks : r.lacksMessage = true := by
          simp only [Response.lacksMessage, object, message]
        exact .of_wordings (traced lacks _)

lemma conclude_keyed (keyed : u.Keyed k k' u') {r : Response}
    (given : r.reveals = true → ∃ reply ∈ replies, reply.reveals = true) :
    List.Forall₂ (Event.Like (.ofKeys k k' replies reached)) (conclude r u call blog).1
        (conclude r u' call blog).1 ∧
      (Likeness.ofKeys k k' replies reached).Got (conclude r u call blog).2
        (conclude r u' call blog).2 := by
  have same {x : Received} (quiet : Event.requests x.1 = []) :
      List.Forall₂ (Event.Like (.ofKeys k k' replies reached)) x.1 x.1 ∧
        (Likeness.ofKeys k k' replies reached).Got x.2 x.2 :=
    ⟨Event.forall₂_same quiet, .agree (Likeness.agree_same _)⟩
  unfold conclude
  cases stays : r.location?.bind badPlace? with
  | some place => cases place <;> exact same rfl
  | none =>
    dsimp only
    split
    · exact same rfl
    · next refused =>
      refine errorOf_keyed keyed fun lacks => given ?_
      rw [Response.reveals, stays]
      dsimp only
      rw [lacks, Bool.eq_false_of_not_eq_true refused]
      rfl

lemma receives_keyed (keyed : u.Keyed k k' u') (there : reached u) {reply : Reply}
    (given : reply ∈ replies) :
    Receives (.ofKeys k k' replies reached) u u' call blog reply := by
  have scheme : u'.scheme = u.scheme := by
    obtain ⟨ps, -, -, rfl⟩ := keyed
    rfl
  cases reply with
  | failure kind message => exact receives_same rfl
  | response raw =>
    cases checked : raw.checked with
    | error fault => exact receives_same (by rw [receive, receive, checked])
    | ok c =>
      cases unpacked : c.unpacked with
      | error fault =>
        refine receives_same ?_
        rw [receive, receive, checked]
        dsimp only
        rw [unpacked]
      | ok r =>
        have opened (u : Url) : receive (.response raw) u call blog =
            if u.scheme.isEmpty then ([], .error (.withoutScheme u))
            else conclude r u call blog := by
          rw [receive, checked]
          dsimp only
          rw [unpacked]
        have refusal (revealed : r.reveals = true) : ∃ reply ∈ replies, reply.reveals = true := by
          refine ⟨_, given, ?_⟩
          rw [Reply.reveals, checked]
          dsimp only
          rw [unpacked]
          exact revealed
        by_cases schemeless : u.scheme = []
        · rw [Receives, opened, opened, scheme, schemeless]
          exact ⟨.nil, .agree (.error (.withoutScheme ⟨there, schemeless, keyed⟩))⟩
        · have filled : ¬ u.scheme.isEmpty = true := by rwa [List.isEmpty_iff]
          rw [Receives, opened, opened, scheme, if_neg filled, if_neg filled]
          exact conclude_keyed keyed refusal

/-- Clients with different keys answer alike, unless a query gets too long. -/
lemma alike_ofKeys {c : Client} {session : Session} (hs : c.session = some session)
    (filled : c.apiKey ≠ "") (filled' : k' ≠ "")
    (writable : Text.encodeError? .unicode c.apiKey.toList = none)
    (writable' : Text.encodeError? .unicode k'.toList = none)
    (there : ∀ blog call u, c.url blog call = .ok u → reached u) :
    c.Alike (.ofKeys c.apiKey k' replies reached) replies { c with apiKey := k' } := by
  refine alike_of_requests hs hs fun blog call => ?_
  obtain failed | ⟨u, u', url, url', keyed⟩ | long :=
    url_keyed filled filled' writable writable' blog call
  · exact .inl failed
  · have sent (c : Client) {u : Url} (url : c.url blog call = .ok u) :
        c.request session blog call = .ok ⟨method call, u,
          (userCredential u.userinfo).or session.authorization,
          (body call).map fun _ => "application/json", (body call).getD [], c.timeout⟩ := by
      rw [Client.request, url]
      rfl
    have userinfo : u'.userinfo = u.userinfo := by
      obtain ⟨ps, -, -, rfl⟩ := keyed
      rfl
    refine .inr (.inl ⟨_, _, sent c url, sent _ url', ⟨keyed, ?_⟩, fun reply given => ?_⟩)
    · rw [userinfo]
    · exact receives_keyed keyed (there blog call u url) given
  · exact .inr (.inr ⟨.longQuery, rfl, long⟩)

lemma url_schemed {c : Client} {base : Url} (parsed : Url.parse c.baseUrl.toList = .ok base)
    (absolute : base.isAbsolute = true) (h : c.url blog call = .ok u) : u.scheme ≠ [] := by
  have place : (c.baseUrl ++ "/" ++ endpoint blog call).toList =
      c.baseUrl.toList ++ '/' :: (endpoint blog call).toList := by simp
  obtain ⟨v, parsed', -, rfl⟩ := url_ok h
  have below := Url.read_of_parse parsed'
  rw [place] at below
  have uncontrolled := Url.controlIn?_eq_none.mp (Url.read_ok below).1
  have rest : Url.Uncontrolled (endpoint blog call).toList := fun d hd =>
    uncontrolled d (List.mem_append_right _ (List.mem_cons_of_mem _ hd))
  obtain long | ⟨v', below', scheme, host⟩ :=
    Url.read_below (Url.read_of_parse parsed) absolute rest
  · cases below.symm.trans long
  · obtain rfl := Except.ok.inj (below.symm.trans below')
    have target : v.target = v := by
      rw [Url.target, if_pos]
      rwa [Url.isAbsolute, scheme, host]
    rw [target]
    dsimp only
    rw [scheme]
    exact fun none => by simp [Url.isAbsolute, none] at absolute

end Client

/-! ### Runs -/

namespace Command

variable {environment environment' : Environment} {file : Option String}

lemma alike_ofKeys {s s' : Settings} (key : s.apiKey = k) (key' : s'.apiKey = k')
    (same : ∀ other, other ≠ .apiKey → ∃ c, s.Holds other c ∧ s'.Holds other c)
    (filled : k ≠ "") (filled' : k' ≠ "")
    (writable : Text.encodeError? .unicode k.toList = none)
    (writable' : Text.encodeError? .unicode k'.toList = none)
    (there : ∀ blog call u, (clientOf s).url blog call = .ok u → reached u)
    (replies : Transport) : Alike (.ofKeys k k' replies reached) replies s s' := by
  obtain ⟨token, -, blogId, baseUrl, timeout, useMock, logLevel⟩ := Settings.fields_eq same
  constructor
  case blogId => exact blogId (by decide)
  case useMock => exact useMock (by decide)
  case logLevel => exact logLevel (by decide)
  case opened =>
    have other : clientOf s' = { clientOf s with apiKey := k' } := by
      simp only [clientOf, Client.new, token (by decide), baseUrl (by decide),
        timeout (by decide), key']
    have opening (c : Client) (closed : c.session = none) : c.opened =
        (Client.credential c.accessToken).map fun a => { c with session := some ⟨a⟩ } := by
      rw [Client.opened, closed]
    rw [other, opening _ rfl, opening { clientOf s with apiKey := k' } rfl]
    subst key
    cases Client.credential (clientOf s).accessToken with
    | error f => exact .inl ⟨f, rfl, rfl⟩
    | ok a =>
      exact .inr ⟨_, _, rfl, rfl,
        Client.alike_ofKeys (c := { clientOf s with session := some ⟨a⟩ }) rfl filled filled'
          writable writable' there⟩

/-- The URLs of the calls that a client can make with the settings of an environment and a file. -/
def Reached (environment : Environment) (file : Option String) (u : Url) : Prop :=
  ∃ s blog call, Settings.load environment file = .valid s ∧ (clientOf s).url blog call = .ok u

/-- **Runs with different keys are alike**, unless a query gets too long for one of them. -/
lemma run_keyed (varies : Settings.Varies .apiKey environment environment')
    (unreferred : Settings.Unreferred .apiKey file)
    (key : Settings.find? environment (Settings.fileVariables environment file) .apiKey = some k)
    (key' : Settings.find? environment' (Settings.fileVariables environment' file) .apiKey =
      some k')
    (filled : k ≠ "") (filled' : k' ≠ "")
    (writable : Text.encodeError? .unicode k.toList = none)
    (writable' : Text.encodeError? .unicode k'.toList = none)
    {args : List String} {clock : Timestamp}
    (short : .notice (.unexpected .longQuery) ∉ (run args environment file clock replies).events)
    (short' :
      .notice (.unexpected .longQuery) ∉ (run args environment' file clock replies).events) :
    (run args environment file clock replies).Like (.ofKeys k k' replies (Reached environment file))
      (run args environment' file clock replies) := by
  refine run_like (varies.lookup (by decide)) ?_ (by rintro f rfl; exact short)
    (by rintro f rfl; exact short')
  obtain invalid | ⟨s, s', valid, valid', holds, holds', same⟩ :=
    Settings.load_varies varies unreferred rfl
  · exact .inl invalid
  · rw [key] at holds
    rw [key'] at holds'
    exact .inr ⟨s, s', valid, valid', alike_ofKeys (Checked.valid.inj holds).symm
      (Checked.valid.inj holds').symm same filled filled' writable writable'
      (fun blog call u url => ⟨s, blog, call, valid, url⟩) replies⟩

/-- **The key is disclosed by refusals that tell where they were asked for, and by URLs without a
scheme, only.** Let two environments differ in the key alone, let both keys be not empty and fit to
be written, and let no query get too long for them. An environment file may be there, as long as
nothing in it refers to the key. For all arguments and all replies, the runs in these environments
end in the same way, complain of the same, have the same level of the log and send the same requests
but for the values of the key in their URLs. If the base URL has a scheme and a host, and no reply
tells where it was asked for (every one that refuses a call has a message for that, a text or null),
then they note the same, traces included, and print the same. -/
theorem key_disclosure (varies : Settings.Varies .apiKey environment environment')
    (unreferred : Settings.Unreferred .apiKey file)
    (key : Settings.find? environment (Settings.fileVariables environment file) .apiKey = some k)
    (key' : Settings.find? environment' (Settings.fileVariables environment' file) .apiKey =
      some k')
    (filled : k ≠ "") (filled' : k' ≠ "")
    (writable : Text.encodeError? .unicode k.toList = none)
    (writable' : Text.encodeError? .unicode k'.toList = none)
    (args : List String) (clock : Timestamp) (replies : Transport)
    (short : .notice (.unexpected .longQuery) ∉ (run args environment file clock replies).events)
    (short' :
      .notice (.unexpected .longQuery) ∉ (run args environment' file clock replies).events) :
    let report := run args environment file clock replies
    let report' := run args environment' file clock replies
    report.ending = report'.ending ∧ report.complaint = report'.complaint ∧
      report.level = report'.level ∧
      List.Forall₂ (Request.Keyed k k') (Event.requests report.events)
        (Event.requests report'.events) ∧
      ((∀ s, Settings.load environment file = .valid s →
          ∃ u, Url.parse (clientOf s).baseUrl.toList = .ok u ∧ u.isAbsolute = true) →
        (∀ reply ∈ replies, reply.reveals = false) →
        Event.notices report.events = Event.notices report'.events ∧
          Event.printed report.events = Event.printed report'.events) := by
  have alike := run_keyed varies unreferred key key' filled filled' writable writable' short short'
  refine ⟨alike.ending, alike.complaint, alike.level, Event.requests_like alike.events,
    fun absolute worded => ?_⟩
  have strict : (Likeness.ofKeys k k' replies (Reached environment file)).Strict := by
    refine Likeness.strict_ofKeys worded ?_
    rintro u ⟨s, blog, call, valid, url⟩
    obtain ⟨base, read, scheme⟩ := absolute s valid
    exact Client.url_schemed read scheme url
  exact ⟨strict.notices alike.events, strict.printed alike.events⟩

def keyed (k : String) : Environment := [("BLOGGER_API_KEY", k), ("BLOGGER_BLOG_ID", "b")]

lemma varies_keyed (k k' : String) : Settings.Varies .apiKey (keyed k) (keyed k') := by
  have named : Settings.fold "BLOGGER_API_KEY".toList = Settings.Key.apiKey.name.toList := by
    decide
  exact .cons ⟨rfl, fun other => absurd named other⟩ (.cons ⟨rfl, fun _ => rfl⟩ .nil)

lemma find?_one : Settings.find? (keyed "one") [] .apiKey = some "one" := by decide +kernel

lemma find?_two : Settings.find? (keyed "two") [] .apiKey = some "two" := by decide +kernel

/-- The run in which a post is asked for with a key, and one reply is given. -/
def asking (k : String) (reply : Reply) : Report :=
  run ["show", "--post-id", "p"] (keyed k) none Store.threePosts.clock [reply]

def worded : Reply :=
  .response ⟨404, [], Text.encodeUtf8
    (Json.object [("error", .object [("message", .string "Gone")])]).print⟩

def wordless : Reply := .response ⟨404, [], []⟩

def isUnexpected : Event → Bool
  | .notice (.unexpected _) => true
  | _ => false

lemma unexpected_notMem {es : List Event} (h : es.any isUnexpected = false) (f : Failure) :
    .notice (.unexpected f) ∉ es := fun mem => by
  cases h.symm.trans (List.any_eq_true.mpr ⟨_, mem, rfl⟩)

/-- A refusal with a message is shown without the key. -/
theorem worded_undisclosed :
    Event.printed (asking "one" worded).events = Event.printed (asking "two" worded).events := by
  have loaded : Settings.load (keyed "one") none =
      .valid ⟨"", "one", "b", Client.defaultBaseUrl, Client.defaultTimeout, false, .info⟩ := by
    decide +kernel
  have absolute (s : Settings) (valid : Settings.load (keyed "one") none = .valid s) :
      ∃ u, Url.parse (clientOf s).baseUrl.toList = .ok u ∧ u.isAbsolute = true := by
    cases loaded.symm.trans valid
    exact ⟨_, rfl, rfl⟩
  obtain ⟨-, -, -, -, seen⟩ := key_disclosure (varies_keyed "one" "two")
    (Settings.unreferred_none _) find?_one find?_two (by decide) (by decide) (by decide) (by decide)
    ["show", "--post-id", "p"] Store.threePosts.clock [worded]
    (unexpected_notMem (by decide +kernel) _) (unexpected_notMem (by decide +kernel) _)
  exact (seen absolute (by decide +kernel)).2

/-- A refusal without one is shown with the key. -/
theorem wordless_disclosed :
    ¬ ∀ (environment environment' : Environment) (k k' : String),
        Settings.Varies .apiKey environment environment' →
        Settings.find? environment [] .apiKey = some k →
        Settings.find? environment' [] .apiKey = some k' → k ≠ "" → k' ≠ "" →
        Text.encodeError? .unicode k.toList = none →
        Text.encodeError? .unicode k'.toList = none →
        ∀ (args : List String) (clock : Timestamp) (replies : Transport),
          .notice (.unexpected .longQuery) ∉ (run args environment none clock replies).events →
          .notice (.unexpected .longQuery) ∉ (run args environment' none clock replies).events →
          Event.printed (run args environment none clock replies).events =
            Event.printed (run args environment' none clock replies).events := by
  intro undisclosed
  have shown : Event.printed (asking "one" wordless).events ≠
      Event.printed (asking "two" wordless).events := by decide +kernel
  exact shown (undisclosed (keyed "one") (keyed "two") "one" "two" (varies_keyed "one" "two")
    find?_one find?_two (by decide) (by decide) (by decide) (by decide)
    ["show", "--post-id", "p"] Store.threePosts.clock [wordless]
    (unexpected_notMem (by decide +kernel) _) (unexpected_notMem (by decide +kernel) _))

end Command

end BlogConsole

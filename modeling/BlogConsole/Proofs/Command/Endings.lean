import BlogConsole.Command
import BlogConsole.Proofs.Client.Session
import BlogConsole.Proofs.Loop.Interchange

/-!
How the program ends, and what is seen of it until then.

The arguments are read first, then the settings; then the blog is chosen and the service opened; and
the sample looks for the option that it needs before it runs its task. Whatever is wrong at one of
these places ends the program before it comes to the next one, and only the task sends requests.
Its failure is noted once.
-/

namespace BlogConsole

/-! ### What is seen -/

namespace Event

/-- An event that is seen at every level of the log: an output, a request, or the notice of a
failure that the program did not expect. -/
def isSeen : Event → Bool
  | output _ => true
  | request _ => true
  | notice (.unexpected _) => true
  | _ => false

def seen (es : List Event) : List Event := es.filter isSeen

lemma seen_append (es fs : List Event) : seen (es ++ fs) = seen es ++ seen fs :=
  List.filter_append ..

lemma seen_logged (level : LogLevel) (es : List Event) :
    seen (es.filter (Command.isLogged level)) = seen es := by
  have logged (e : Event) (h : e.isSeen = true) : Command.isLogged level e = true := by
    cases e with
    | notice n =>
      cases n with
      | unexpected f => cases level <;> rfl
      | _ => cases h
    | _ => rfl
  rw [seen, List.filter_filter, seen]
  refine List.filter_congr fun e _ => ?_
  cases h : e.isSeen with
  | true => simp [logged e h]
  | false => rfl

lemma unexpected_notMem {es : List Event} (h : Quiet es) (f : Failure) :
    .notice (.unexpected f) ∉ es := by
  intro mem
  have noted : Notice.unexpected f ∈ notices es := List.mem_filterMap.mpr ⟨_, mem, rfl⟩
  cases h _ noted

end Event

/-! ### The task -/

lemma Entry.unexpected_notMem {es : List Entry} (h : ∀ e ∈ es, Event.Quiet e.events)
    (f : Failure) : .notice (.unexpected f) ∉ shown es := by
  intro mem
  obtain ⟨e, he, mem⟩ := List.mem_flatMap.mp mem
  exact Event.unexpected_notMem (h e he) f mem

namespace Task

variable {t t' : Task} {i : Nat} {isOpen : String → Bool} {args : List Argument} {w : Work}
  {es closing : List Entry} {o : Outcome}

lemma Closing.unexpected_notMem (h : Closing t i w o closing) (f : Failure) :
    .notice (.unexpected f) ∉ Entry.shown closing := by
  cases h with
  | returned r => exact Entry.unexpected_notMem (returning_quiet r) f
  | raised g => simp [raising, did, noted]
  | cancelled => simp [cancellation, did, noted]

lemma Turned.unexpected_notMem (h : Turned t i isOpen (t.workOf args) es t') (f : Failure) :
    .notice (.unexpected f) ∉ Entry.shown es := by
  have work {mid : List Entry} {w : Work} (hmid : Trace t.toSetup i (t.workOf args) mid w) :
      .notice (.unexpected f) ∉ Entry.shown mid :=
    Entry.unexpected_notMem (fun e he => (isWork_of_trace hmid e he).quiet) f
  cases h with
  | waits hmid => exact work hmid
  | ends hmid hc =>
    rw [Entry.shown_append, List.mem_append, not_or]
    exact ⟨work hmid, hc.unexpected_notMem f⟩

lemma Turned.gives (h : Turned t i isOpen (t.workOf args) es t') {r : Result}
    (hr : t'.outcome? = some (.result r)) : t.kind.Gives r := by
  cases h with
  | waits => cases hr
  | ends hmid hc ho =>
    have ended := Option.some.inj hr
    cases hc with
    | returned r' =>
      -- a report that fails would take the place of the result
      cases hmid.plain (Work.ofKind_plain t.blog t.kind args) with
      | done gives =>
        unfold outcomeOf at ended
        split at ended
        · cases ended
          exact gives
        · cases ended
    | raised => cases ended
    | cancelled => exact absurd rfl ho

end Task

namespace Loop

variable {service : Service} {u : Setup} {args : List Argument}

lemma lone_events (hf : u.callbacks.onStart.failure = none) (service : Service)
    (args : List Argument) :
    (lone service u args).events = Entry.shown ((lone service u args).own 0) := by
  obtain ⟨-, own, events, -⟩ := execute_run_self (i := 0) (l := new service [.ofSetup u]) rfl rfl
    hf args
  refine events.trans ((congrArg Entry.shown own).trans ?_).symm
  rw [Entry.shown_append, Entry.shown_append]
  rfl

lemma lone_turned (hf : u.callbacks.onStart.failure = none) (service : Service)
    (args : List Argument) :
    ∃ es t, (u.launched args).Turned 0 (fun _ => false) ((u.launched args).workOf args) es t ∧
      (lone service u args).task? 0 = some t ∧
      (lone service u args).own 0 = u.running.reportStart 0 ++ es := by
  have turned : (u.launched args).Turned 0 (fun _ => false) ((u.launched args).workOf args)
      (progress service u args).record (progress service u args).task :=
    Task.advance_turned 0 _ rfl _ service
  obtain ⟨settled, settlement⟩ := turned.settled
  obtain ⟨task, own, -⟩ := lone_starts hf service args
  rw [settled] at task
  rw [settlement, List.append_nil] at own
  exact ⟨_, _, turned, task, own⟩

lemma lone_unexpected_notMem (hf : u.callbacks.onStart.failure = none) (service : Service)
    (args : List Argument) (f : Failure) :
    .notice (.unexpected f) ∉ (lone service u args).events := by
  obtain ⟨es, t, turned, -, own⟩ := lone_turned hf service args
  rw [lone_events hf, own, Entry.shown_append, List.mem_append, not_or]
  exact ⟨Entry.unexpected_notMem Task.reportStart_quiet f, turned.unexpected_notMem f⟩

lemma lone_gives (hf : u.callbacks.onStart.failure = none) {r : Result}
    (hr : (lone service u args).outcome? 0 = some (.result r)) : u.kind.Gives r := by
  obtain ⟨es, t, turned, task, -⟩ := lone_turned hf service args
  rw [outcome?_some task] at hr
  exact turned.gives hr

lemma lone_tasks (hf : u.callbacks.onStart.failure = none) (service : Service)
    (args : List Argument) :
    ∃ t, (lone service u args).task? 0 = some t ∧ (lone service u args).tasks = [t] := by
  obtain ⟨task, -⟩ := lone_starts hf service args
  obtain ⟨other, -⟩ := execute_run_of_ne (l := new service [.ofSetup u]) rfl Nat.zero_ne_one args
  refine ⟨_, task, List.ext_getElem? fun n => ?_⟩
  match n with
  | 0 => exact task
  | n + 1 =>
    have few : (lone service u args).tasks.length ≤ 1 := List.getElem?_eq_none_iff.mp other
    rw [List.getElem?_eq_none_iff.mpr (by omega)]
    rfl

end Loop

/-! ### The sample -/

def Mode.kind : Mode → Kind
  | listPosts => .list Kind.defaultMaxPages
  | showPost => .load
  | createPost => .create

namespace Options

/-- The complaint about an option that the mode needs, if it is missing or empty. -/
def complaint? (o : Options) : Option String :=
  match o.mode with
  | .listPosts => none
  | .showPost => if o.postId.getD "" = "" then some "--post-id is required for 'show'" else none
  | .createPost => if o.title.getD "" = "" then some "--title is required for 'create'" else none

def setup (o : Options) (blog : String) : Setup := ⟨o.mode.kind, some blog, .reports, .console⟩

def arguments (o : Options) : List Argument :=
  match o.mode with
  | .listPosts => []
  | .showPost => [.text (o.postId.getD "")]
  | .createPost => [.post (Sample.draft (o.title.getD "") (o.content.getD ""))]

end Options

namespace Sample

variable {service : Service} {options : Options} {blog : String}

/-- A sample runs its task alone. The outcome gives the exit code. -/
lemma perform_of_outcome {o : Outcome}
    (outcome : (Loop.lone service (options.setup blog) options.arguments).outcome? 0 = some o) :
    perform service options.mode.kind (some blog) options.arguments =
      ⟨exitCode o, (Loop.lone service (options.setup blog) options.arguments).events⟩ := by
  obtain ⟨t, task, tasks⟩ := Loop.lone_tasks (u := options.setup blog) rfl service
    options.arguments
  have ran : ((Loop.new service [Task.new options.mode.kind (some blog) .reports .console]).execute
      0 options.arguments).1.run = Loop.lone service (options.setup blog) options.arguments := rfl
  rw [Loop.outcome?_some task] at outcome
  rw [perform, runTask]
  dsimp only
  rw [ran, tasks]
  dsimp only
  rw [outcome]
  rfl

lemma perform_eq (ungated : ∀ gate, ¬ service.Gated gate) (options : Options) (blog : String) :
    ∃ o, o ≠ .cancelled ∧
      (Loop.lone service (options.setup blog) options.arguments).outcome? 0 = some o ∧
      perform service options.mode.kind (some blog) options.arguments =
        ⟨exitCode o, (Loop.lone service (options.setup blog) options.arguments).events⟩ := by
  obtain ⟨o, ho, outcome⟩ := Loop.lone_ends (u := options.setup blog) ungated rfl
  exact ⟨o, ho, outcome, perform_of_outcome outcome⟩

/-- The option is looked for before the task is run. -/
lemma run_eq (service : Service) (options : Options) (blog : String) :
    run service options (some blog) =
      match options.complaint? with
      | some text => missing text
      | none => perform service options.mode.kind (some blog) options.arguments := by
  unfold run Options.complaint? Options.arguments
  cases options.mode with
  | listPosts => rfl
  | showPost =>
    dsimp only
    split
    · next empty => rw [if_pos empty]
    · next filled => rw [if_neg filled]; rfl
  | createPost =>
    dsimp only
    split
    · next empty => rw [if_pos empty]
    · next filled => rw [if_neg filled]; rfl

/-- The exit code of a result. A created post has to have an id. -/
def resultCode : Result → Nat
  | .created r => if r.post.id.getD "" = "" then 1 else 0
  | _ => 0

lemma exitCode_result (r : Result) : exitCode (.result r) = .ok (resultCode r) := by
  cases r <;> rfl

lemma resultCode_of_gives {mode : Mode} {r : Result} (h : mode.kind.Gives r)
    (other : mode ≠ .createPost) : resultCode r = 0 := by
  cases mode with
  | listPosts => cases h; rfl
  | showPost => cases h; rfl
  | createPost => exact absurd rfl other

end Sample

/-! ### The service -/

namespace Store

/-- A traversal fails if it fails at one of the items. -/
lemma mapM_error {α β ε : Type} {g : α → Except ε β} {xs : List α} :
    (∃ e, xs.mapM g = .error e) ↔ ∃ x ∈ xs, ∃ e, g x = .error e := by
  induction xs with
  | nil => simp [pure, Except.pure]
  | cons x xs ih =>
    simp only [List.mem_cons, exists_eq_or_imp, ← ih, List.mapM_cons]
    cases g x with
    | error e => simp [bind, Except.bind]
    | ok y => cases xs.mapM g <;> simp [bind, Except.bind, pure, Except.pure]

/-- A store cannot be made if one of the six days before the present is no date. -/
lemma seeded_error (pageSize : Int) (failWith : Option ApiError) (clock : Timestamp) :
    (∃ f, seeded pageSize failWith clock = .error f) ↔
      ∃ n, 1 ≤ n ∧ n ≤ 6 ∧ clock.daysEarlier? n = none := by
  have posts : (∃ f, seeded pageSize failWith clock = .error f) ↔
      ∃ f, seedPosts clock = .error f := by
    unfold seeded
    cases seedPosts clock <;> simp [Except.map]
  -- the posts are dated by their numbers
  have days : (seedTexts.zipIdx 1).map Prod.snd = List.range' 1 6 := rfl
  rw [posts, seedPosts, mapM_error]
  constructor
  · rintro ⟨e, he, f, failed⟩
    have day : e.2 ∈ List.range' 1 6 := days ▸ List.mem_map_of_mem he
    obtain ⟨low, high⟩ := List.mem_range'_1.mp day
    refine ⟨e.2, low, by omega, ?_⟩
    dsimp only at failed
    split at failed
    · cases failed
    · next undated => exact undated
  · rintro ⟨n, low, high, undated⟩
    have day : n ∈ (seedTexts.zipIdx 1).map Prod.snd := days ▸ List.mem_range'_1.mpr ⟨low, by omega⟩
    obtain ⟨e, he, rfl⟩ := List.mem_map.mp day
    refine ⟨e, he, .dateOutOfRange, ?_⟩
    dsimp only
    rw [undated]

end Store

namespace Command

/-- A run ended like this, and what is seen of it is what is seen of the events. -/
structure Report.Shows (r : Report) (ending : Ending) (es : List Event) : Prop where
  ending : r.ending = ending
  seen : Event.seen r.events = Event.seen es

lemma Report.Shows.congr {r : Report} {ending : Ending} {es fs : List Event}
    (h : r.Shows ending es) (same : Event.seen es = Event.seen fs) : r.Shows ending fs :=
  ⟨h.ending, h.seen.trans same⟩

/-- The service of a run, opened. -/
def service (options : Options) (settings : Settings) (clock : Timestamp)
    (transport : Transport) : Except Failure Service :=
  if options.mock || settings.useMock then
    (Store.seeded Store.defaultPageSize none clock).map .store
  else
    (Client.new settings.accessToken settings.apiKey settings.baseUrl settings.timeout).opened.map
      (.client · transport)

variable {options : Options} {settings : Settings} {clock : Timestamp} {transport : Transport}
  {s : Service}

/-- A service of a run lets no task wait. -/
lemma service_ungated (h : service options settings clock transport = .ok s) :
    ∀ gate, ¬ s.Gated gate := by
  unfold service at h
  split at h
  · cases hs : Store.seeded Store.defaultPageSize none clock with
    | error f => rw [hs] at h; cases h
    | ok store => rw [hs] at h; cases h; exact Service.store_ungated store
  · cases hc : (Client.new settings.accessToken settings.apiKey settings.baseUrl
        settings.timeout).opened with
    | error f => rw [hc] at h; cases h
    | ok client => rw [hc] at h; cases h; exact Service.client_ungated client transport

def sample (options : Options) (settings : Settings) (clock : Timestamp) (transport : Transport) :
    Sample.Report :=
  let mock := options.mock || settings.useMock
  let blog := blogOf options settings mock
  if mock then runMock options blog clock else runReal options settings blog transport

/-- What happens around a sample that runs on a store in memory. -/
def framed (mock : Bool) (es : List Event) : List Event :=
  if mock then .notice .storeOpened :: es ++ [.notice .storeClosed] else es

lemma seen_framed (mock : Bool) (es : List Event) :
    Event.seen (framed mock es) = Event.seen es := by
  cases mock with
  | false => rfl
  | true => exact (Event.seen_append es [.notice .storeClosed]).trans (List.append_nil _)

/-- The service is opened before the sample begins. -/
lemma sample_eq (options : Options) (settings : Settings) (clock : Timestamp)
    (transport : Transport) :
    sample options settings clock transport =
      match service options settings clock transport with
      | .error f => ⟨.error f, []⟩
      | .ok s =>
        let mock := options.mock || settings.useMock
        let report := Sample.run s options (some (blogOf options settings mock))
        ⟨report.code, framed mock report.events⟩ := by
  unfold sample service
  cases options.mock || settings.useMock with
  | true =>
    unfold runMock
    cases Store.seeded Store.defaultPageSize none clock <;> rfl
  | false =>
    unfold runReal
    dsimp only
    cases (Client.new settings.accessToken settings.apiKey settings.baseUrl
      settings.timeout).opened <;> rfl

/-- The blog is missing if neither the options nor the settings name one, but in mock mode one
stands in for it. -/
lemma blogOf_eq_empty {mock : Bool} :
    blogOf options settings mock = "" ↔
      options.blogId.getD "" = "" ∧ settings.blogId = "" ∧ mock = false := by
  unfold blogOf orElse
  split
  · next named =>
    split
    · next set => cases mock <;> simp [named, set, mockBlog]
    · next set => simp [set]
  · next named => simp [named]

lemma service_error_store (mock : (options.mock || settings.useMock) = true) :
    (∃ f, service options settings clock transport = .error f) ↔
      ∃ n, 1 ≤ n ∧ n ≤ 6 ∧ clock.daysEarlier? n = none := by
  rw [service, if_pos mock, ← Store.seeded_error Store.defaultPageSize none]
  cases Store.seeded Store.defaultPageSize none clock <;> simp [Except.map]

lemma service_error_client (mock : (options.mock || settings.useMock) = false) :
    (∃ f, service options settings clock transport = .error f) ↔
      ¬ Text.Ascii settings.accessToken.toList := by
  rw [service, mock, if_neg Bool.false_ne_true]
  have opened : (Client.new settings.accessToken settings.apiKey settings.baseUrl
      settings.timeout).opened =
        (Client.credential settings.accessToken).map fun a =>
          { Client.new settings.accessToken settings.apiKey settings.baseUrl settings.timeout with
            session := some ⟨a⟩ } := rfl
  rw [opened]
  cases h : Client.credential settings.accessToken with
  | ok a => simp [Except.map, (Client.credential_ok.mp h).1]
  | error f =>
    have mute : ¬ Text.Ascii settings.accessToken.toList := fun ascii => by
      cases h.symm.trans (Client.credential_ok.mpr ⟨ascii, rfl⟩)
    simp [Except.map, mute]

/-! ### Endings -/

/-- A run came to its sample, on this blog and this service. The sample complains of what it lacks.
If it lacks nothing, its task is executed alone and comes to its end: what is seen of the run is
what is seen of the task, and behind it, if it failed, the one notice of its failure. -/
structure Report.Samples (r : Report) (options : Options) (blog : String) (s : Service) :
    Prop where
  lacking : ∀ text, options.complaint? = some text →
    r.Shows (.code 2) [.output (text ++ "\n")]
  ends : options.complaint? = none → ∃ o, o ≠ .cancelled ∧
    (Loop.lone s (options.setup blog) options.arguments).outcome? 0 = some o
  expected : ∀ f, .notice (.unexpected f) ∉
    (Loop.lone s (options.setup blog) options.arguments).events
  result : options.complaint? = none → ∀ result,
    (Loop.lone s (options.setup blog) options.arguments).outcome? 0 = some (.result result) →
      (options.mode ≠ .createPost → Sample.resultCode result = 0) ∧
        r.Shows (.code (Sample.resultCode result))
          (Loop.lone s (options.setup blog) options.arguments).events
  failure : options.complaint? = none → ∀ f,
    (Loop.lone s (options.setup blog) options.arguments).outcome? 0 = some (.failure f) →
      r.Shows (.code 1) ((Loop.lone s (options.setup blog) options.arguments).events ++
        [.notice (.unexpected f)])

variable {args : List String} {environment : Environment} {file : Option String}

lemma run_help (parsed : Arguments.parse args = .error .help) (environment : Environment)
    (file : Option String) (clock : Timestamp) (transport : Transport) :
    (run args environment file clock transport).Shows (.exit 0)
      [.output (Arguments.help (Arguments.textWidth (environment.lookup "COLUMNS")))] := by
  unfold run
  rw [parsed]
  exact ⟨rfl, Event.seen_logged _ _⟩

lemma run_fault {fault : Arguments.Fault} (parsed : Arguments.parse args = .error (.fault fault))
    (environment : Environment) (file : Option String) (clock : Timestamp)
    (transport : Transport) : (run args environment file clock transport).Shows (.exit 2) [] := by
  unfold run
  rw [parsed]
  exact ⟨rfl, rfl⟩

lemma run_unset {faults : List Problem} (parsed : Arguments.parse args = .ok options)
    (loaded : Settings.load environment file = .invalid faults) (clock : Timestamp)
    (transport : Transport) : (run args environment file clock transport).Shows (.code 1) [] := by
  unfold run
  rw [parsed, loaded]
  exact ⟨rfl, Event.seen_logged _ _⟩

lemma run_configured (parsed : Arguments.parse args = .ok options)
    (loaded : Settings.load environment file = .valid settings) (clock : Timestamp)
    (transport : Transport) :
    (run args environment file clock transport).Shows
      (.code (perform options settings clock transport).1)
      (perform options settings clock transport).2 := by
  unfold run
  rw [parsed, loaded]
  exact ⟨rfl, Event.seen_logged _ _⟩

lemma run_blogless (parsed : Arguments.parse args = .ok options)
    (loaded : Settings.load environment file = .valid settings)
    (unnamed : blogOf options settings (options.mock || settings.useMock) = "") :
    (run args environment file clock transport).Shows (.code 1) [] := by
  have ran := run_configured parsed loaded clock transport
  unfold perform at ran
  dsimp only at ran
  rw [if_pos unnamed] at ran
  exact ran.congr rfl

lemma run_blog (parsed : Arguments.parse args = .ok options)
    (loaded : Settings.load environment file = .valid settings)
    (named : blogOf options settings (options.mock || settings.useMock) ≠ "") (clock : Timestamp)
    (transport : Transport) :
    match (sample options settings clock transport).code with
    | .ok n => (run args environment file clock transport).Shows (.code n)
        (sample options settings clock transport).events
    | .error f => (run args environment file clock transport).Shows (.code 1)
        ((sample options settings clock transport).events ++ [.notice (.unexpected f)]) := by
  have configured := run_configured parsed loaded clock transport
  have performed : perform options settings clock transport =
      match (sample options settings clock transport).code with
      | .ok n => (n, (sample options settings clock transport).events)
      | .error f =>
        (1, (sample options settings clock transport).events ++ [.notice (.unexpected f)]) :=
    if_neg named
  rw [performed] at configured
  cases code : (sample options settings clock transport).code with
  | ok n =>
    rw [code] at configured
    exact configured
  | error f =>
    rw [code] at configured
    exact configured

lemma run_unopened {f : Failure} (parsed : Arguments.parse args = .ok options)
    (loaded : Settings.load environment file = .valid settings)
    (named : blogOf options settings (options.mock || settings.useMock) ≠ "")
    (unopened : service options settings clock transport = .error f) :
    (run args environment file clock transport).Shows (.code 1) [.notice (.unexpected f)] := by
  have ran := run_blog parsed loaded named clock transport
  rw [sample_eq, unopened] at ran
  exact ran

lemma run_opened (parsed : Arguments.parse args = .ok options)
    (loaded : Settings.load environment file = .valid settings)
    (named : blogOf options settings (options.mock || settings.useMock) ≠ "")
    (opened : service options settings clock transport = .ok s) :
    (run args environment file clock transport).Samples options
      (blogOf options settings (options.mock || settings.useMock)) s := by
  have ran := run_blog parsed loaded named clock transport
  rw [sample_eq, opened] at ran
  dsimp only at ran
  -- from here on the mode matters for the frame of the events only
  generalize (options.mock || settings.useMock) = mock at ran ⊢
  generalize blogOf options settings mock = blog at ran ⊢
  rw [Sample.run_eq] at ran
  have framing := seen_framed mock
  obtain ⟨o, ho, outcome, performed⟩ := Sample.perform_eq (service_ungated opened) options blog
  constructor
  case expected => exact Loop.lone_unexpected_notMem rfl s options.arguments
  case lacking =>
    intro text lacks
    rw [lacks] at ran
    exact ran.congr (framing _)
  case ends => exact fun _ => ⟨o, ho, outcome⟩
  case result =>
    intro complete r result
    rw [result] at outcome
    cases outcome
    rw [complete, performed] at ran
    dsimp only at ran
    rw [Sample.exitCode_result] at ran
    exact ⟨Sample.resultCode_of_gives (Loop.lone_gives rfl result), ran.congr (framing _)⟩
  case failure =>
    intro complete f failed
    rw [failed] at outcome
    cases outcome
    rw [complete, performed] at ran
    refine Report.Shows.congr ran ?_
    rw [Event.seen_append, framing, Event.seen_append]

lemma Report.Samples.ends_code {r : Report} {blog : String} (h : r.Samples options blog s) :
    ∃ n ≤ 2, r.ending = .code n := by
  cases complaint : options.complaint? with
  | some text => exact ⟨2, le_rfl, (h.lacking text complaint).ending⟩
  | none =>
    obtain ⟨o, ho, outcome⟩ := h.ends complaint
    cases o with
    | result r' =>
      obtain ⟨-, shows⟩ := h.result complaint r' outcome
      refine ⟨_, ?_, shows.ending⟩
      unfold Sample.resultCode
      split
      · split <;> decide
      · decide
    | failure f => exact ⟨1, by decide, (h.failure complaint f outcome).ending⟩
    | cancelled => exact absurd rfl ho

lemma run_ending (args : List String) (environment : Environment) (file : Option String)
    (clock : Timestamp) (transport : Transport) :
    (run args environment file clock transport).ending = .exit 0 ∨
      (run args environment file clock transport).ending = .exit 2 ∨
      ∃ n ≤ 2, (run args environment file clock transport).ending = .code n := by
  cases parsed : Arguments.parse args with
  | error stop =>
    cases stop with
    | help => exact .inl (run_help parsed environment file clock transport).ending
    | fault f => exact .inr (.inl (run_fault parsed environment file clock transport).ending)
  | ok options =>
    refine .inr (.inr ?_)
    cases loaded : Settings.load environment file with
    | invalid faults => exact ⟨1, by decide, (run_unset parsed loaded clock transport).ending⟩
    | valid settings =>
      by_cases named : blogOf options settings (options.mock || settings.useMock) = ""
      · exact ⟨1, by decide, (run_blogless parsed loaded named).ending⟩
      · cases opened : service options settings clock transport with
        | error f => exact ⟨1, by decide, (run_unopened parsed loaded named opened).ending⟩
        | ok s => exact (run_opened parsed loaded named opened).ends_code

/-- **Every run ends, and does nothing before it is configured.** For all arguments, environments,
environment files and replies of the transport, the program ends while it reads its arguments, with
code 0 or 2, or with one of the codes 0, 1 and 2. What it looks at, it looks at in this order: the
arguments, with a request for help; the settings; the blog, which may be missing outside of mock
mode only; the service, which cannot be opened with an access token that is not ASCII, and in mock
mode only for want of dates; and what the sample lacks. What is wrong at one of these places ends
the run there, before anything is requested, and before anything is printed but help or the
complaint of the sample; only the failure of the service is noted as unexpected. Otherwise the task
is executed. -/
theorem run_ends (args : List String) (environment : Environment) (file : Option String)
    (clock : Timestamp) (transport : Transport) :
    let report := run args environment file clock transport
    (report.ending = .exit 0 ∨ report.ending = .exit 2 ∨ ∃ n ≤ 2, report.ending = .code n) ∧
      (Arguments.parse args = .error .help → report.Shows (.exit 0)
        [.output (Arguments.help (Arguments.textWidth (environment.lookup "COLUMNS")))]) ∧
      (∀ fault, Arguments.parse args = .error (.fault fault) → report.Shows (.exit 2) []) ∧
      ∀ options, Arguments.parse args = .ok options →
        (∀ faults, Settings.load environment file = .invalid faults →
          report.Shows (.code 1) []) ∧
        ∀ settings, Settings.load environment file = .valid settings →
          let mock := options.mock || settings.useMock
          let blog := blogOf options settings mock
          let opened := service options settings clock transport
          (blog = "" ↔ options.blogId.getD "" = "" ∧ settings.blogId = "" ∧ mock = false) ∧
          (mock = false → ((∃ f, opened = .error f) ↔ ¬ Text.Ascii settings.accessToken.toList)) ∧
          (mock = true →
            ((∃ f, opened = .error f) ↔ ∃ n, 1 ≤ n ∧ n ≤ 6 ∧ clock.daysEarlier? n = none)) ∧
          (blog = "" → report.Shows (.code 1) []) ∧
          (∀ f, blog ≠ "" → opened = .error f →
            report.Shows (.code 1) [.notice (.unexpected f)]) ∧
          ∀ s, blog ≠ "" → opened = .ok s → report.Samples options blog s :=
  ⟨run_ending args environment file clock transport,
    fun parsed => run_help parsed environment file clock transport,
    fun _ parsed => run_fault parsed environment file clock transport,
    fun _ parsed => ⟨fun _ loaded => run_unset parsed loaded clock transport,
      fun _ loaded => ⟨blogOf_eq_empty, service_error_client, service_error_store,
        run_blogless parsed loaded, fun _ => run_unopened parsed loaded,
        fun _ => run_opened parsed loaded⟩⟩⟩

/-- A post is asked for that a store in memory does not have at first. -/
def strayArguments : List String := ["show", "--mock", "--post-id", "stray"]

/-- The error of the store is shown in place of the post, and the run succeeds. -/
theorem stray_ends :
    (run strayArguments [] none Store.threePosts.clock []).Shows (.code 0)
      [.output "Loading post...\n", .output "\nNot Found\n"] := by
  obtain ⟨-, -, -, parsed⟩ := run_ends strayArguments [] none Store.threePosts.clock []
  obtain ⟨-, loaded⟩ := parsed ⟨.showPost, none, some "stray", none, none, true⟩ rfl
  obtain ⟨-, -, -, -, -, opened⟩ :=
    loaded ⟨"", "", "", Client.defaultBaseUrl, Client.defaultTimeout, false, .info⟩ rfl
  have samples := opened _ (by decide) rfl
  obtain ⟨-, shows⟩ := samples.result rfl (.post { Post.empty with title := some "Not Found" }) rfl
  exact shows.congr rfl

end Command

end BlogConsole

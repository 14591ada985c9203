import BlogConsole.Proofs.Command.Console

/-!
Mock mode is isolated from the service.

In mock mode a sample runs on a store in memory. Of the settings it takes the blog and the level of
the log only, and the blog does not have to be there. So it makes no difference what the settings
say of the service, what the transport has to give, and who turned the mode on.
-/

namespace BlogConsole

/-! ### The switch -/

namespace Arguments

/-- What was read so far, with mock mode on. -/
def State.mocked (s : State) : State := { s with options := { s.options with mock := true } }

lemma setValue_mocked (s : State) (v : Valued) (value : String) :
    setValue s.mocked v value = (setValue s v value).mocked := by
  cases v <;> rfl

lemma takeWord_mocked (s : State) (word : String) :
    takeWord s.mocked word = (takeWord s word).map State.mocked := by
  have mode : s.mocked.mode = s.mode := rfl
  unfold takeWord
  rw [mode]
  cases s.mode with
  | some _ => rfl
  | none => cases Mode.ofWord? word <;> rfl

lemma takeMarked_mocked (s : State) (afterMode : Bool) (words : List String) :
    takeMarked s.mocked afterMode words = (takeMarked s afterMode words).map State.mocked := by
  have mode : s.mocked.mode = s.mode := rfl
  unfold takeMarked
  rw [mode]
  cases s.mode with
  | some _ => rfl
  | none =>
    cases words with
    | nil => rfl
    | cons w rest =>
      dsimp only
      rw [takeWord_mocked]
      cases takeWord s w <;> rfl

/-- Mock mode that is on stays on, and changes nothing else. -/
lemma read_mocked (afterMode : Bool) (s : State) (ts : List Token) :
    read afterMode s.mocked ts = (read afterMode s ts).map State.mocked := by
  fun_induction read afterMode s ts with
  | case1 | case6 | case7 | case10 => rfl
  | case2 afterMode s w rest e taken => rw [read, takeWord_mocked, taken]; rfl
  | case3 afterMode s w rest next taken ih => rw [read, takeWord_mocked, taken]; exact ih
  | case4 afterMode s rest => exact takeMarked_mocked s afterMode _
  | case5 afterMode s u rest ih => rw [read]; exact ih
  | case8 afterMode s value rest v ih => rw [read, setValue_mocked]; exact ih
  | case9 afterMode s value rest flag other => cases flag <;> first | rfl | exact (other _ rfl).elim
  | case11 afterMode s rest ih => rw [read]; exact ih
  | case12 afterMode s v w rest ih => rw [read, setValue_mocked]; exact ih
  | case13 afterMode s rest v other => rw [read]; rfl; exact other

/-- The switch may stand before all other arguments. -/
lemma parse_mock (args : List String) :
    parse ("--mock" :: args) = (parse args).map fun o => { o with mock := true } := by
  have split : tokens ("--mock" :: args) = (tokens args).map (.option .mock none :: ·) := rfl
  unfold parse
  rw [split]
  cases tokens args with
  | error f => rfl
  | ok ts =>
    have first : read false .start (.option .mock none :: ts) = read false State.start.mocked ts :=
      rfl
    simp only [Except.map]
    rw [first, read_mocked]
    cases read false .start ts with
    | error e => rfl
    | ok s =>
      have extras : s.mocked.extras = s.extras := rfl
      simp only [Except.map, extras]
      split <;> rfl

end Arguments

/-! ### Work -/

namespace Work

variable {name : String} {blog : Option String} {w : Work}

lemma shows_requests (w : Work) (s : Store) :
    Event.requests (w.shows name blog (.store s)).events = [] := by
  induction w generalizing s with
  | done | failed => rfl
  | note n next ih => exact ih s
  | handle e next ih =>
    rw [shows, Showing.after, Event.requests_append, e.hint_requests, ih]
    rfl
  | ask c next ih =>
    have asked := (s.noticed_answer blog c).requests
    rw [shows, Showing.after, Event.requests_append]
    exact (congrArg₂ (· ++ ·) asked (ih _ _)).trans (List.append_nil _)

lemma Plain.shows {gives : Result → Prop} (h : w.Plain gives) (s : Service) :
    ∀ n ∈ Event.notices (w.shows name blog s).events,
      n.isOrdinary = true ∨ ∃ f, n = .taskFailed name f := by
  induction h generalizing s with
  | done => exact List.forall_mem_nil _
  | failed f => exact List.forall_mem_singleton.mpr (.inr ⟨f, rfl⟩)
  | note ordinary _ ih => exact List.forall_mem_cons.mpr ⟨.inl ordinary, ih s⟩
  | @handle e _ _ ih =>
    rw [Work.shows, Showing.after, Event.notices_append, e.hint_notices]
    exact ih s
  | @ask c _ _ ih =>
    rw [Work.shows, Showing.after, Event.notices_append]
    exact List.forall_mem_append.mpr
      ⟨fun n hn => .inl (s.serve_quiet 0 blog c n hn), ih _ _⟩

end Work

/-! ### Runs -/

namespace Sample

variable {service : Service} {options : Options} {blog : String}

lemma run_notices (ungated : ∀ gate, ¬ service.Gated gate) :
    ∀ n ∈ Event.notices (run service options (some blog)).events,
      n.isOrdinary = true ∨ ∃ name f, n = .taskFailed name f := by
  rw [run_shows ungated]
  cases options.complaint? with
  | some text => exact List.forall_mem_nil _
  | none =>
    intro n hn
    obtain ordinary | ⟨f, failed⟩ := (Work.ofKind_plain (some blog) options.mode.kind
      options.arguments).shows service n hn
    · exact .inl ordinary
    · exact .inr ⟨_, f, failed⟩

lemma run_requests (s : Store) :
    Event.requests (run (.store s) options (some blog)).events = [] := by
  rw [run_shows (Service.store_ungated s)]
  cases options.complaint? with
  | some text => rfl
  | none => exact Work.shows_requests (work options blog) s

end Sample

namespace Command

variable {args args' : List String} {environment environment' : Environment} {options : Options}
  {settings settings' : Settings} {clock : Timestamp} {transport transport' : Transport}
  {file file' : Option String}

lemma run_eq (parsed : Arguments.parse args = .ok options)
    (loaded : Settings.load environment file = .valid settings) (clock : Timestamp)
    (transport : Transport) :
    run args environment file clock transport =
      ⟨.code (perform options settings clock transport).1, "", settings.logLevel,
        (perform options settings clock transport).2.filter (isLogged settings.logLevel)⟩ := by
  unfold run
  rw [parsed, loaded]

/-- What a run makes of its sample: a failure is noted. -/
def concluded (report : Sample.Report) : Nat × List Event :=
  match report.code with
  | .ok n => (n, report.events)
  | .error f => (1, report.events ++ [.notice (.unexpected f)])

/-- A run in mock mode is told by its options, the blog of its settings and the present. -/
lemma perform_mock (on : (options.mock || settings.useMock) = true) (clock : Timestamp)
    (transport : Transport) :
    perform options settings clock transport =
      concluded (runMock options (blogOf options settings true) clock) := by
  have named : blogOf options settings true ≠ "" := fun none => by
    cases (blogOf_eq_empty.mp none).2.2
  unfold perform
  rw [on]
  exact if_neg named

/-- A sample in mock mode sends no requests, and does not miss its blog. -/
lemma runMock_events (options : Options) (blog : String) (clock : Timestamp) :
    Event.requests (runMock options blog clock).events = [] ∧
      .notice .blogMissing ∉ (runMock options blog clock).events := by
  unfold runMock
  cases Store.seeded Store.defaultPageSize none clock with
  | error f => exact ⟨rfl, List.not_mem_nil⟩
  | ok store =>
    have around (es : List Event) : .notice .storeOpened :: es ++ [.notice .storeClosed] =
        [.notice .storeOpened] ++ es ++ [.notice .storeClosed] := rfl
    have present : .notice .blogMissing ∉ (Sample.run (.store store) options (some blog)).events :=
      fun mem => by
        have noted : .blogMissing ∈ Event.notices _ := List.mem_filterMap.mpr ⟨_, mem, rfl⟩
        obtain ordinary | ⟨_, _, failed⟩ :=
          Sample.run_notices (Service.store_ungated store) _ noted
        · cases ordinary
        · cases failed
    dsimp only
    rw [around, Event.requests_append, Event.requests_append, Sample.run_requests]
    exact ⟨rfl, by simp [present]⟩

lemma perform_mock_events (on : (options.mock || settings.useMock) = true) (clock : Timestamp)
    (transport : Transport) :
    Event.requests (perform options settings clock transport).2 = [] ∧
      .notice .blogMissing ∉ (perform options settings clock transport).2 := by
  obtain ⟨unsent, present⟩ := runMock_events options (blogOf options settings true) clock
  rw [perform_mock on]
  unfold concluded
  split
  · exact ⟨unsent, present⟩
  · refine ⟨?_, by simp [present]⟩
    rw [Event.requests_append, unsent]
    rfl

lemma requests_logged (level : LogLevel) (es : List Event) :
    Event.requests (es.filter (isLogged level)) = Event.requests es := by
  rw [Event.requests, Event.requests, List.filterMap_filter]
  refine List.filterMap_congr fun e _ => ?_
  cases e with
  | notice n => cases isLogged level (.notice n) <;> rfl
  | _ => rfl

/-- **Mock mode is isolated from the service.** Let arguments and settings be read, with mock mode
on. Then the run sends no requests, and it does not miss its blog. Any other run with mock mode on
reports the same, with the same ending and the same events, if its arguments give the same options
but for the switch, and its settings have the same blog and the same level of the log: whatever
token, key, base URL and time limit they have, from the environment or from a file, whatever the
transports have to give, and whether the options, the settings or both turn the mode on. The switch
may be put before any arguments to turn it on. -/
theorem mock_isolated {mock : Bool} (parsed : Arguments.parse args = .ok options)
    (parsed' : Arguments.parse args' = .ok { options with mock := mock })
    (loaded : Settings.load environment file = .valid settings)
    (loaded' : Settings.load environment' file' = .valid settings')
    (on : (options.mock || settings.useMock) = true) (on' : (mock || settings'.useMock) = true)
    (blog : settings'.blogId = settings.blogId) (level : settings'.logLevel = settings.logLevel)
    (clock : Timestamp) (transport transport' : Transport) :
    let report := run args environment file clock transport
    Event.requests report.events = [] ∧ .notice .blogMissing ∉ report.events ∧
      run args' environment' file' clock transport' = report ∧
      Arguments.parse ("--mock" :: args) = .ok { options with mock := true } := by
  intro report
  have ran : report = _ := run_eq parsed loaded clock transport
  obtain ⟨unsent, present⟩ := perform_mock_events on clock transport
  refine ⟨?_, ?_, ?_, ?_⟩
  · rw [ran, requests_logged, unsent]
  · rw [ran]
    exact fun mem => present (List.mem_filter.mp mem).1
  · have sameBlog : blogOf { options with mock := mock } settings' true =
        blogOf options settings true := by
      rw [blogOf, blogOf, blog]
    rw [ran, run_eq parsed' loaded', perform_mock on, perform_mock on', sameBlog, level]
    rfl
  · rw [Arguments.parse_mock, parsed]
    rfl

/-- What the stray arguments say. -/
def strayOptions : Options := ⟨.showPost, none, some "stray", none, none, true⟩

def mockEnvironment : Environment := [("use_mock_blogger", "yes")]

def keyFile : String := "BLOGGER_API_KEY=k"

/-- A run in mock mode is the same without the switch and with settings of the service. -/
theorem stray_isolated :
    run ["show", "--post-id", "stray"] mockEnvironment (some keyFile) Store.threePosts.clock
        [.failure "ConnectError" "The network cannot be reached"] =
      run strayArguments [] none Store.threePosts.clock [] := by
  have parsed : Arguments.parse strayArguments = .ok strayOptions := rfl
  have parsed' : Arguments.parse ["show", "--post-id", "stray"] =
      .ok { strayOptions with mock := false } := rfl
  have loaded : Settings.load [] none =
      .valid ⟨"", "", "", Client.defaultBaseUrl, Client.defaultTimeout, false, .info⟩ := rfl
  have loaded' : Settings.load mockEnvironment (some keyFile) =
      .valid ⟨"", "k", "", Client.defaultBaseUrl, Client.defaultTimeout, true, .info⟩ := by
    decide +kernel
  obtain ⟨-, -, same, -⟩ := mock_isolated parsed parsed' loaded loaded' rfl rfl rfl rfl
    Store.threePosts.clock [] [.failure "ConnectError" "The network cannot be reached"]
  exact same

end Command

end BlogConsole

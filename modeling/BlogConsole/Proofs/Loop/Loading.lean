import BlogConsole.Proofs.Client.Session
import BlogConsole.Proofs.Loop.Agreement
import BlogConsole.Proofs.Loop.Interchange
import BlogConsole.Proofs.Loop.Served

/-!
Loading a post through a client, from its start to the report of what came of it.

An error of the service is to become a placeholder, a post that shows the message of the error as
its title. The message is taken from the reply as it is, and a title has to be a text: an error
whose message is anything else fails the task.
-/

namespace BlogConsole

open Entry

namespace Loading

abbrev call (id : Argument) : Call := .get id (some "title,content")

/-- What a task for loading a post does with an error, between its call and its end. -/
def dealing (id : Argument) : Except Failure Post → List Deed
  | .error (.api e _) => [.note (.loadFailed id e)]
  | _ => []

/-- The placeholder for an error. A missing message gives no title; one that is no text is met while
the error is handled. -/
def placeholder (e : ApiError) (origin : Option String) : Except Failure Post :=
  match e.message with
  | .string title => .ok { Post.empty with title := some title }
  | .null => .ok .empty
  | _ => .error (.during (Failure.api e origin).trace (.badRecord [⟨[.field "title"], .notText⟩]))

/-- What a task for loading a post comes to when its call is answered. -/
def result : Except Failure Post → Except Failure Result
  | .ok post => .ok (.post post)
  | .error (.api e origin) => (placeholder e origin).map .post
  | .error f => .error f

variable {u : Setup} {id : Argument} {ds : List Deed} {v : Except Failure Result}

def finished : Except Failure Result → Work
  | .ok r => .done r
  | .error f => .failed f

lemma placeholder_eq (e : ApiError) (origin : Option String) :
    Work.placeholder e origin = finished ((placeholder e origin).map .post) := by
  unfold Work.placeholder placeholder
  cases e.message <;> rfl

lemma load_eq (id : Argument) :
    Work.load id = .ask (call id) fun
      | .error (.api e origin) =>
        .note (.loadFailed id e) (finished (result (.error (.api e origin))))
      | reply => finished (result reply) := by
  refine congrArg (Work.ask (call id)) (funext fun reply => ?_)
  rcases reply with f | post
  · cases f with
    | api e origin => exact congrArg _ (placeholder_eq e origin)
    | _ => rfl
  · rfl

lemma comes_finished {v' : Except Failure Result} (h : (finished v').Comes u ds v) :
    ds = [] ∧ v = v' := by
  cases v' <;> cases h <;> exact ⟨rfl, rfl⟩

/-- The work makes one call, and its answer decides the rest. -/
lemma comes_load (h : (Work.load id).Comes u ds v) :
    ∃ reply : Except Failure Post,
      ds = .ask u.blog (call id) reply :: dealing id reply ∧ v = result reply := by
  rw [load_eq] at h
  cases h with
  | ask reply rest =>
    refine ⟨reply, ?_⟩
    rcases reply with f | post
    · cases f with
      | api e =>
        cases rest with
        | note rest =>
          obtain ⟨rfl, rfl⟩ := comes_finished rest
          exact ⟨rfl, rfl⟩
      | _ => obtain ⟨rfl, rfl⟩ := comes_finished rest; exact ⟨rfl, rfl⟩
    · obtain ⟨rfl, rfl⟩ := comes_finished rest
      exact ⟨rfl, rfl⟩

lemma filter_dealing (id : Argument) (reply : Except Failure Post) :
    (dealing id reply).filter (·.isAsk) = [] := by
  unfold dealing
  split <;> rfl

end Loading

namespace Loop

/-- **Loading a post turns errors of the service into placeholders, if their message is a text.** A
task for loading a post through a client that ends, and is not cancelled, makes one call, on the
replies that are left by then. If a post is answered, it reports this post. If an error of the
service is answered, one request was sent, that of the call; the error is noted; and if its message
is a text, a post is reported that has this text as its title and no other field. A missing message
gives a post without any field, and with a message of any other kind the task fails, without a
report, for a title has to be a text. If anything else is answered, the task fails with it. The task
does end when it runs, unless it is stopped. -/
theorem loading_reports (c : Client) (transport : Transport) (setups : List Setup)
    (ss : List Step) {i : Nat} (hi : i < setups.length) (hk : setups[i].kind = .load)
    {id : Argument} (ha : Accepted (.client c transport) setups ss i [id]) :
    let own := (after (.client c transport) setups ss).own i
    (∀ o, (after (.client c transport) setups ss).outcome? i = some o → o ≠ .cancelled →
      ∃ replies rest events reply, replies <:+ transport ∧
        c.answer replies setups[i].blog (Loading.call id) = (rest, events, reply) ∧
        deeds own =
          [.start "Loading post...", .ask setups[i].blog (Loading.call id) reply] ++
          Loading.dealing id reply ++ Deed.ending "LoadPostTask" (Loading.result reply) ∧
        o = setups[i].outcome (Loading.result reply) ∧
        Event.requests (shown own) = Event.requests events ∧
        ∀ e origin, reply = .error (.api e origin) →
          ∃ session request, c.session = some session ∧
            c.request session setups[i].blog (Loading.call id) = .ok request ∧
            Event.requests (shown own) = [request]) ∧
    (after (.client c transport) setups (ss ++ [.run])).Done i ∧
    (.cancel i ∉ ss → (after (.client c transport) setups ss).outcome? i ≠ some .cancelled) := by
  refine ⟨fun o ho hne => ?_, (ha.run_rests hi).2 fun gate h => ?_, after_uncancelled⟩
  · obtain ⟨ds, v, comes, own, outcome⟩ := ha.comes hi ho hne
    rw [hk] at comes own
    obtain ⟨reply, rfl, rfl⟩ := Loading.comes_load comes
    have once : (deeds ((after (.client c transport) setups ss).own i)).filter (·.isAsk) =
        [.ask setups[i].blog (Loading.call id) reply] := by
      rw [own, List.filter_append, Deed.filter_ending, List.append_nil,
        List.filter_cons_of_neg Bool.false_ne_true, List.filter_cons_of_pos rfl,
        Loading.filter_dealing]
    obtain ⟨s, leads, rfl, -, -, -, sent⟩ := served_once (own_shows (.client c transport) ss hi)
      (own_served (.client c transport) setups ss i) once
    -- the client stays the same, and calls use up the replies from the front
    obtain ⟨replies, later, rfl⟩ := leads.keeps
      (P := fun s => ∃ replies, replies <:+ transport ∧ s = .client c replies)
      (by
        rintro _ i blog call ⟨replies, later, rfl⟩
        exact ⟨_, (c.answer_suffix replies blog call).trans later, rfl⟩)
      ⟨transport, List.suffix_rfl, rfl⟩
    rcases answered : c.answer replies setups[i].blog (Loading.call id) with ⟨rest, events, reply⟩
    have served : (Service.client c replies).serve i setups[i].blog (Loading.call id) =
        ⟨.client c rest, events, none, reply⟩ := by
      rw [Service.serve, answered]
    rw [served] at own outcome sent
    refine ⟨replies, rest, events, reply, later, answered, own, outcome, sent,
      fun e origin he => ?_⟩
    have refused : (c.answer replies setups[i].blog (Loading.call id)).2.2 =
        .error (.api e origin) := by
      rw [answered]
      exact he
    obtain ⟨session, request, opened, made, requests⟩ := Client.sent_of_api rfl refused
    rw [answered] at requests
    exact ⟨session, request, opened, made, sent.trans requests⟩
  · exact absurd h (Service.client_ungated c transport gate)

lemma lone_load {c : Client} {transport : Transport} {u : Setup} (hk : u.kind = .load)
    (hf : u.callbacks.onStart.failure = none) {id : Argument} {reply : Except Failure Post}
    (h : (c.answer transport u.blog (Loading.call id)).2.2 = reply) :
    (lone (.client c transport) u [id]).outcome? 0 = some (u.outcome (Loading.result reply)) := by
  have ends (v : Except Failure Result) (s : Service) :
      ((u.launched [id]).advance 0 (fun _ => false) (Loading.finished v) s).task =
        (u.launched [id]).finish (u.outcome v) := by
    cases v <;> rfl
  have work : Work.ofKind u.blog u.kind [id] = Work.load id := by rw [hk]; rfl
  have ended : (progress (.client c transport) u [id]).task =
      (u.launched [id]).finish (u.outcome (Loading.result reply)) := by
    have same : (u.launched [id]).blog = u.blog := rfl
    rw [progress, work, Loading.load_eq, Task.advance, same]
    dsimp only [Service.serve, Task.Progress.after]
    rw [h]
    rcases reply with f | post
    · cases f <;> exact ends _ _
    · exact ends _ _
  obtain ⟨task, -⟩ := lone_starts hf (.client c transport) [id]
  rw [ended] at task
  exact outcome?_some task

def loadingOf (blog : String) : Setup := ⟨.load, some blog, .none, .console⟩

/-- The request with which an unnamed client asks for a post of a host. -/
def loadRequest : Request :=
  ⟨"GET",
    ⟨"https".toList, [], "h".toList, none, "/blogs/b/posts/p".toList,
      some "fields=title%2Ccontent".toList, none⟩,
    none, none, [], Client.defaultTimeout⟩

lemma request_load : (Client.unnamed "https://h").request ⟨none⟩ (some "b")
    (Loading.call (.text "p")) = .ok loadRequest := rfl

def unreached : Reply := .failure "ConnectError" "refused"

def unreachedError : ApiError := ⟨false, .string "refused", none, .null⟩

lemma answer_unreached : ((Client.unnamed "https://h").answer [unreached] (some "b")
    (Loading.call (.text "p"))).2.2 = .error (.api unreachedError (some "refused")) := by
  have came : (Client.receive unreached loadRequest.url (Loading.call (.text "p")) (some "b")).2 =
      .error (.api unreachedError (some "refused")) := rfl
  exact (Client.answer_failure rfl rfl request_load came []).2

/-- The message of a failure to reach the service becomes the title of a placeholder. -/
theorem unreached_shown :
    let r : Result := .post { Post.empty with title := some "refused" }
    let own := (lone (.client (Client.unnamed "https://h") [unreached]) (loadingOf "b")
      [.text "p"]).own 0
    deeds own =
        [.start "Loading post...",
          .ask (some "b") (Loading.call (.text "p"))
            (.error (.api unreachedError (some "refused"))),
          .note (.loadFailed (.text "p") unreachedError), .returned r, .complete r] ∧
      Event.requests (shown own) = [loadRequest] := by
  intro r own
  have ended : (lone (.client (Client.unnamed "https://h") [unreached]) (loadingOf "b")
      [.text "p"]).outcome? 0 = some (.result r) :=
    (lone_load rfl rfl answer_unreached).trans rfl
  obtain ⟨reported, -⟩ := loading_reports (Client.unnamed "https://h") [unreached] [loadingOf "b"]
    [.execute 0 [.text "p"], .run] Nat.one_pos rfl ⟨[], [.run], rfl, rfl⟩
  obtain ⟨replies, rest, events, reply, later, answered, own, outcome, -, sent⟩ :=
    reported _ ended nofun
  obtain rfl | rfl : replies = [unreached] ∨ replies = [] := by
    simpa [List.suffix_cons_iff] using later
  · obtain rfl : reply = .error (.api unreachedError (some "refused")) :=
      (congrArg (fun answer => answer.2.2) answered).symm.trans answer_unreached
    obtain ⟨session, request, opened, made, requests⟩ := sent _ _ rfl
    cases opened
    cases request_load.symm.trans made
    exact ⟨own, requests⟩
  · -- without a reply the task would have failed
    obtain rfl : reply = .error .outOfReplies :=
      (congrArg (fun answer => answer.2.2) answered).symm.trans rfl
    cases outcome

/-- A refusal whose message is a number: `{"error":{"message":5}}`. -/
def numbered : RawResponse :=
  ⟨500, [],
    [0x7B, 0x22, 0x65, 0x72, 0x72, 0x6F, 0x72, 0x22, 0x3A, 0x7B, 0x22, 0x6D, 0x65, 0x73, 0x73, 0x61,
      0x67, 0x65, 0x22, 0x3A, 0x35, 0x7D, 0x7D]⟩

/-- Not every error of the service becomes a placeholder. -/
theorem numbered_error_fails :
    ¬ ∀ (c : Client) (transport : Transport) (u : Setup) (id : Argument) (e : ApiError)
        (origin : Option String), u.kind = .load → u.callbacks = .console →
        (c.answer transport u.blog (Loading.call id)).2.2 = .error (.api e origin) →
        ∃ post, (lone (.client c transport) u [id]).outcome? 0 = some (.result (.post post)) := by
  intro shown
  obtain ⟨origin, came⟩ : ∃ origin, (Client.receive (.response numbered) loadRequest.url
      (Loading.call (.text "p")) (some "b")).2 =
        .error (.api ⟨false, .int 5, some 500, .null⟩ origin) := by
    rw [Client.receive_plain (r := ⟨500, [], numbered.body⟩) rfl rfl (by decide) (by decide)]
    exact ⟨_, rfl⟩
  have answered : ((Client.unnamed "https://h").answer [.response numbered] (some "b")
      (Loading.call (.text "p"))).2.2 = .error (.api ⟨false, .int 5, some 500, .null⟩ origin) :=
    (Client.answer_failure rfl rfl request_load came []).2
  obtain ⟨post, ended⟩ := shown (Client.unnamed "https://h") [.response numbered] (loadingOf "b")
    (.text "p") _ _ rfl rfl answered
  rw [lone_load rfl rfl answered] at ended
  cases ended

end Loop

end BlogConsole

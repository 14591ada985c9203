import BlogConsole.Proofs.Listing.Paging
import BlogConsole.Proofs.Loop.Creation
import BlogConsole.Proofs.Loop.Serial
import BlogConsole.Proofs.Task.Interchange

/-!
A client and a store are interchangeable for tasks.

A task that is executed on a client does what it does on a store, step by step, if the replies to
the client's requests tell what the store answers. The answers of a store can always be told. What a
client cannot do is to send a draft that cannot be written, and to tell fractions of a minute in the
offsets of timestamps.
-/

namespace BlogConsole.Loop

open Client (unnamed postsOn echo readBody_value)

variable {c : Client} {session : Session} {s : Store} {u : Setup} {args : List Argument}

/-- The loop in which one task is executed and runs on a service. -/
def lone (service : Service) (u : Setup) (args : List Argument) : Loop :=
  after service [u] [.execute 0 args, .run]

/-- How far the work of a lone task comes in its turn. -/
def progress (service : Service) (u : Setup) (args : List Argument) : Task.Progress :=
  (u.launched args).advance 0 (fun _ => false) (.ofKind u.blog u.kind args) service

lemma lone_fails {f : Failure} (hf : u.callbacks.onStart.failure = some f) (service : Service)
    (args : List Argument) :
    (lone service u args).task? 0 = some (u.running.atStage .abandoned) ∧
      (lone service u args).own 0 = u.running.reportStart 0 ∧
      (lone service u args).service = service := by
  have start : (Task.ofSetup u).callbacks.onStart.failure = some f := hf
  have launched : (Task.ofSetup u).launch 0 args =
      ⟨u.running.reportStart 0, u.running.atStage .abandoned, some f⟩ := by
    rw [Task.launch, start]
    rfl
  have fails := execute_fails (l := new service [.ofSetup u]) (i := 0) rfl args rfl start
  have ran : lone service u args = ((new service [.ofSetup u]).execute 0 args).1.run := rfl
  rw [ran, fails, launched]
  exact ⟨rfl, own_log_self _, rfl⟩

lemma lone_starts (hf : u.callbacks.onStart.failure = none) (service : Service)
    (args : List Argument) :
    (lone service u args).task? 0 = some (progress service u args).task.settled ∧
      (lone service u args).own 0 = u.running.reportStart 0 ++
        ((progress service u args).record ++ (progress service u args).task.settlement) ∧
      (lone service u args).service = (progress service u args).service := by
  obtain ⟨task, own, -, service⟩ := execute_run_self (i := 0)
    (l := new service [.ofSetup u]) rfl rfl hf args
  exact ⟨task, own, service⟩

/-- Without gates the work of a task comes to its end. -/
lemma progress_ends {service : Service} (ungated : ∀ gate, ¬ service.Gated gate) (u : Setup)
    (args : List Argument) :
    ∃ o, o ≠ .cancelled ∧ (progress service u args).task = (u.launched args).finish o :=
  Task.turn_ends (t := u.launched args) ungated rfl rfl rfl 0 fun _ => false

lemma lone_ends {service : Service} (ungated : ∀ gate, ¬ service.Gated gate)
    (hf : u.callbacks.onStart.failure = none) :
    ∃ o, o ≠ .cancelled ∧ (lone service u args).outcome? 0 = some o := by
  obtain ⟨o, ho, ended⟩ := progress_ends ungated u args
  obtain ⟨task, -⟩ := lone_starts hf service args
  rw [ended] at task
  exact ⟨o, ho, outcome?_some task⟩

lemma lone_told (hs : s.Tells) (hk : u.kind.Takes args) :
    ∀ e ∈ (lone (.store s) u args).own 0, e.Told u.blog := by
  have opening : ∀ e ∈ u.running.reportStart 0, e.Told u.blog := fun e he =>
    Entry.told_of_not_ask (Task.reportStart_no_ask e he)
  cases hf : u.callbacks.onStart.failure with
  | some f =>
    obtain ⟨-, own, -⟩ := lone_fails hf (.store s) args
    rwa [own]
  | none =>
    obtain ⟨-, own, -⟩ := lone_starts hf (.store s) args
    have work : ∀ e ∈ (progress (.store s) u args).record, e.Told u.blog :=
      Task.advance_told (t := u.launched args) (Work.ofKind_sendable hk u.blog) hs
    rw [own]
    refine List.forall_mem_append.mpr ⟨opening, List.forall_mem_append.mpr ⟨work, fun e he => ?_⟩⟩
    exact Entry.told_of_not_ask (Task.settlement_no_ask e he)

/-- A task does the same on a client as on a store, if the replies encode the answers. -/
lemma lone_alike (hc : c.session = some session) (hs : s.Tells) (hk : u.kind.Takes args)
    {replies : List Reply} (sent : ∀ e ∈ (lone (.store s) u args).own 0, e.SentBy c session)
    (encoded : List.Forall₂ Entry.EncodedBy (Entry.asks ((lone (.store s) u args).own 0)) replies) :
    (lone (.client c replies) u args).task? 0 = (lone (.store s) u args).task? 0 ∧
      List.Forall₂ (Entry.Alike c session) ((lone (.store s) u args).own 0)
        ((lone (.client c replies) u args).own 0) ∧
      (lone (.client c replies) u args).service = .client c [] := by
  have opening : List.Forall₂ (Entry.Alike c session) (u.running.reportStart 0)
      (u.running.reportStart 0) := Entry.alike_of_none Task.reportStart_no_ask
  cases hf : u.callbacks.onStart.failure with
  | some f =>
    obtain ⟨task, own, -⟩ := lone_fails hf (.store s) args
    obtain ⟨task', own', service'⟩ := lone_fails hf (.client c replies) args
    rw [own] at encoded
    obtain rfl := Entry.replies_of_none Task.reportStart_no_ask encoded
    rw [task, own, task', own']
    exact ⟨rfl, opening, service'⟩
  | none =>
    obtain ⟨task, own, -⟩ := lone_starts hf (.store s) args
    obtain ⟨task', own', service'⟩ := lone_starts hf (.client c replies) args
    obtain ⟨o, ho, ended⟩ := progress_ends (Service.store_ungated s) u args
    have unsettled : ((u.launched args).finish o).settlement = [] :=
      Task.settlement_of_ended rfl ho
    rw [ended, unsettled, List.append_nil] at own
    rw [own] at sent encoded ⊢
    rw [Entry.asks_append, Entry.asks_of_none Task.reportStart_no_ask, List.nil_append] at encoded
    obtain ⟨same, service, alike⟩ := Task.advance_alike (t := u.launched args) hc
      (Work.ofKind_sendable hk u.blog) hs (List.forall_mem_append.mp sent).2 encoded
    have same : (progress (.client c replies) u args).task = (u.launched args).finish o :=
      same.trans ended
    rw [same, unsettled, List.append_nil] at own'
    rw [task, own', task', same, ended]
    exact ⟨rfl, List.rel_append opening alike, service'.trans service⟩

/-- **A client and a store are interchangeable for tasks.** Let a store fail with nothing but errors
that replies can tell, with any posts, and let a task be executed on it with an argument that it is
meant for; a draft has to be one that can be sent and that comes back. The task comes to its end
there, unless its start fails, and every answer to its calls can be told by a reply. When a client
is given replies that tell these answers, one for each call, the task does the same on the client:
its outcome and its status are the same, and so is each of its entries, with the answers to its
calls, its notices, what it hands to its handler and what it reports. Each call is sent in one
request, and all replies are used up. -/
theorem client_like_store (hc : c.Ready session) (hs : s.Tells) (hk : u.kind.Takes args)
    (hb : ∀ b ∈ u.blog, Text.Word b.toList)
    (fits : ∀ p ∈ Entry.asked ((lone (.store s) u args).own 0), c.Fits p.1 p.2) :
    (u.callbacks.onStart.failure = none →
        ∃ o, o ≠ .cancelled ∧ (lone (.store s) u args).outcome? 0 = some o) ∧
      List.Forall₂ Entry.EncodedBy (Entry.asks ((lone (.store s) u args).own 0))
        (((lone (.store s) u args).own 0).filterMap Entry.reply?) ∧
      ∀ replies,
        List.Forall₂ Entry.EncodedBy (Entry.asks ((lone (.store s) u args).own 0)) replies →
        (lone (.client c replies) u args).task? 0 = (lone (.store s) u args).task? 0 ∧
          List.Forall₂ (Entry.Alike c session) ((lone (.store s) u args).own 0)
            ((lone (.client c replies) u args).own 0) ∧
          (lone (.client c replies) u args).service = .client c [] :=
  have told := lone_told hs hk
  ⟨lone_ends (Service.store_ungated s), Entry.encoded_replies told, fun _ encoded =>
    lone_alike hc.session hs hk (Entry.sentBy_of_told told hc hb fits) encoded⟩

def listingOf (blog : String) : Setup := ⟨.list 5, some blog, .none, .console⟩

lemma unnamed_ready : (unnamed "https://h").Ready ⟨none⟩ :=
  ⟨rfl, ⟨_, rfl, rfl, rfl⟩, by decide, by decide⟩

lemma threePosts_tells : Store.threePosts.Tells := ⟨fun e he => (by cases he), by decide⟩

/-- The posts of a store are listed by a client, too. -/
theorem threePosts_by_client :
    (lone (.client (unnamed "https://h")
        (((lone (.store .threePosts) (listingOf "b") []).own 0).filterMap Entry.reply?))
      (listingOf "b") []).outcome? 0 =
        some (.result (.posts [.empty, { Post.empty with id := some "a" }, .empty])) := by
  have calls : Entry.asked ((lone (.store .threePosts) (listingOf "b") []).own 0) =
      [(some "b", .list (some Work.listFields) none none),
        (some "b", .list (some Work.listFields) (some "page-1") none)] := by cbv
  have fits : ∀ p ∈ Entry.asked ((lone (.store .threePosts) (listingOf "b") []).own 0),
      (unnamed "https://h").Fits p.1 p.2 := by
    rw [calls]
    exact List.forall_mem_cons.mpr ⟨Client.fits_of_ok rfl,
      List.forall_mem_singleton.mpr (Client.fits_of_ok rfl)⟩
  have takes : (listingOf "b").kind.Takes [] := .list 5
  obtain ⟨-, told, same⟩ := client_like_store unnamed_ready threePosts_tells takes (by decide) fits
  have outcome : (lone (.store .threePosts) (listingOf "b") []).outcome? 0 =
      some (.result (.posts [.empty, { Post.empty with id := some "a" }, .empty])) := by cbv
  rw [← outcome, outcome?, (same _ told).1, outcome?]

/-! ### Drafts that make a difference -/

/-- A task for creating a post ends on a client as it does on a store, whenever the replies tell
what the store answers. -/
def CreatedAlike (draft : Post) : Prop :=
  ∀ (c : Client) (session : Session) (s : Store) (u : Setup) (replies : List Reply),
    c.Ready session → s.Tells → u.kind = .create → (∀ b ∈ u.blog, Text.Word b.toList) →
    (∀ p ∈ Entry.asked ((lone (.store s) u [.post draft]).own 0), c.Fits p.1 p.2) →
    List.Forall₂ Entry.EncodedBy (Entry.asks ((lone (.store s) u [.post draft]).own 0)) replies →
    (lone (.client c replies) u [.post draft]).outcome? 0 =
      (lone (.store s) u [.post draft]).outcome? 0

lemma lone_create {transport : Transport} (hk : u.kind = .create)
    (hf : u.callbacks.onStart.failure = none) {draft : Post} {reply : Except Failure Post}
    (h : (c.answer transport u.blog (.insert (.post draft))).2.2 = reply) :
    (lone (.client c transport) u [.post draft]).outcome? 0 =
      some (u.outcome (Creation.result draft reply)) := by
  have work : Work.ofKind u.blog u.kind [.post draft] = Work.create u.blog (.post draft) := by
    rw [hk]
    rfl
  have ended : (progress (.client c transport) u [.post draft]).task =
      (u.launched [.post draft]).finish (u.outcome (Creation.result draft reply)) := by
    have same : (u.launched [.post draft]).blog = u.blog := rfl
    rw [progress, work, Work.create, Task.advance, Task.advance, same]
    dsimp only [Service.serve, Task.Progress.after]
    rw [h]
    rcases reply with f | post
    · cases f <;> rfl
    · rfl
  obtain ⟨task, -⟩ := lone_starts hf (.client c transport) [.post draft]
  rw [ended] at task
  exact outcome?_some task

def creationOf (blog : String) : Setup := ⟨.create, some blog, .none, .console⟩

def kept (draft : Post) : Post :=
  { draft with id := some "mock_created_00000001", published := some Store.threePosts.clock }

/-- The place for the posts of a host does not get too long, whatever is stored there. -/
lemma fits_insert (draft : Argument) :
    (unnamed "https://h").Fits (some "b") (.insert draft) := by
  have endpoint : Client.endpoint (some "b") (.insert draft) = "blogs/b/posts/" := rfl
  have place : Url.parse ((unnamed "https://h").baseUrl ++ "/" ++ "blogs/b/posts/").toList =
      .ok (postsOn "https" "h") := rfl
  have params : (unnamed "https://h").paramsFault? (.insert draft) = none := rfl
  have target : (postsOn "https" "h").target.withParams
      (((unnamed "https://h").params (.insert draft)).map
        fun p => (p.1.toList, p.2.toList)) = .ok (postsOn "https" "h") := rfl
  have name : Url.nameFault? (postsOn "https" "h").host = none := rfl
  rw [Client.Fits, Client.url, endpoint, place]
  dsimp only [Except.mapError, bind, Except.bind]
  rw [params, target]
  dsimp only
  rw [name, Client.bodyFault?]
  cases Text.encodeError? .unicode draft.toJson.print with
  | none => constructor <;> simp
  | some e => constructor <;> simp

/-- If a client stores a draft as a store does, it gives back what the store keeps. -/
lemma CreatedAlike.answered {draft : Post} (h : CreatedAlike draft) :
    ∃ reply, ((unnamed "https://h").answer [reply] (some "b") (.insert (.post draft))).2.2 =
      .ok (kept draft) := by
  have call : Entry.asked ((lone (.store .threePosts) (creationOf "b") [.post draft]).own 0) =
      [(some "b", .insert (.post draft))] := rfl
  have answer : Entry.asks ((lone (.store .threePosts) (creationOf "b") [.post draft]).own 0) =
      [⟨.running, .ask (some "b") (.insert (.post draft)) (.ok (kept draft)),
        [.notice (.postKept (some "b") (some "mock_created_00000001"))]⟩] := rfl
  have stored : (lone (.store .threePosts) (creationOf "b") [.post draft]).outcome? 0 =
      some (.result (.created ⟨kept draft, "Post Created", "postId: mock_created_00000001"⟩)) := rfl
  have encodes :
      Encodes (.insert (.post draft)) (.ok (kept draft)) (.response (echo (kept draft))) :=
    .value ⟨_, rfl, rfl⟩ rfl (readBody_value (.insert (.post draft)) (kept draft))
  have encoded : List.Forall₂ Entry.EncodedBy
      (Entry.asks ((lone (.store .threePosts) (creationOf "b") [.post draft]).own 0))
      [.response (echo (kept draft))] := by
    rw [answer]
    exact .cons ⟨_, _, _, rfl, encodes⟩ .nil
  have same := h _ _ .threePosts (creationOf "b") _ unnamed_ready threePosts_tells rfl (by decide)
    (call ▸ List.forall_mem_singleton.mpr (fits_insert (.post draft))) encoded
  refine ⟨.response (echo (kept draft)), ?_⟩
  obtain ⟨reply, answered⟩ : ∃ reply, ((unnamed "https://h").answer
      [.response (echo (kept draft))] (some "b") (.insert (.post draft))).2.2 = reply := ⟨_, rfl⟩
  rw [answered]
  have ended := lone_create (u := creationOf "b") rfl rfl answered
  have same := ended.symm.trans (same.trans stored)
  rcases reply with f | post
  · cases f with
    | api e origin =>
      have created := Result.created.inj (Outcome.result.inj (Option.some.inj same))
      exact absurd (congrArg CreateResult.title created) (by simp)
    | _ => cases same
  · have created := Result.created.inj (Outcome.result.inj (Option.some.inj same))
    exact congrArg Except.ok (congrArg CreateResult.post created)

/-- A draft whose title is half of a pair of surrogates. -/
def lonelyDraft : Post := { Post.empty with title := some (String.singleton (Text.ofUnit 0xD800)) }

/-- A draft that was updated at noon, half a minute ahead of UTC. -/
def aheadDraft : Post :=
  { Post.empty with
    title := some "N"
    updated := (Client.atNoon ⟨30000000, by decide⟩).published }

/-- Not every draft can be sent, and not every draft that can comes back. -/
theorem drafts_differ :
    ¬ CreatedAlike lonelyDraft ∧
      (∀ t ∈ aheadDraft.texts, Text.Writable t.toList) ∧ ¬ CreatedAlike aheadDraft := by
  refine ⟨fun alike => ?_, by decide, fun alike => ?_⟩
  · obtain ⟨reply, answered⟩ := alike.answered
    have fault : ∃ f, Client.bodyFault? (.insert (.post lonelyDraft)) = some f := by
      rw [← Option.ne_none_iff_exists', Ne, Client.bodyFault?_post]
      decide
    obtain ⟨f, fault⟩ := fault
    obtain ⟨-, f, failed, -⟩ :=
      (unnamed "https://h").unwritten_unsent fault rfl [reply] (some "b")
    cases failed.symm.trans answered
  · obtain ⟨reply, answered⟩ := alike.answered
    exact absurd ((Client.isWhole_of_answer answered).updated _ rfl _ rfl) (by decide)

end BlogConsole.Loop

import BlogConsole.Proofs.Client.Session
import BlogConsole.Proofs.Loop.Serial
import BlogConsole.Proofs.Task.Console
import Mathlib.Data.List.Forall2

/-!
Runs that are alike.

Two runs are alike if they differ in their requests, in the wording of some errors of the service,
in some URLs without a scheme, in some traces of failures, and in what these are shown in. A task
cannot tell more than that: if its calls are answered alike, then it goes the same way, shows events
that are alike and ends alike. An error of the service may come from failures that are worded in any
way, unless the task fails over it.
-/

namespace BlogConsole

/-- In what runs may differ: in requests, in the wordings of errors of the service, in URLs without
a scheme that requests were to go to, and in traces of failures. A failure that spoils the
comparison may be met in one of the runs alone. -/
structure Likeness where
  request : Request → Request → Prop
  wording : String → String → Prop
  target : Url → Url → Prop
  trace : List String → List String → Prop
  spoils : Failure → Prop
  spoils_other : ∀ f, spoils f → ∀ e origin, f ≠ .api e origin

/-! ### What is alike -/

section

variable (L : Likeness)

/-- Errors of the service that differ in their wording at most. -/
inductive ApiError.Like : ApiError → ApiError → Prop
  | same (e : ApiError) : Like e e
  | reworded {authorization : Bool} {status : Option Int} {reason : Json} {v v' : String} :
      L.wording v v' →
      Like ⟨authorization, .string v, status, reason⟩ ⟨authorization, .string v', status, reason⟩

inductive Failure.Like : Failure → Failure → Prop
  | same (f : Failure) : Like f f
  | withoutScheme {u u' : Url} : L.target u u' → Like (.withoutScheme u) (.withoutScheme u')
  | during {ws ws' : List String} (f : Failure) :
      L.trace ws ws' → Like (.during ws f) (.during ws' f)

/-- The message of an error can be a title: it is a text or missing. -/
def ApiError.isTitled (e : ApiError) : Bool :=
  match e.message with
  | .string _ => true
  | .null => true
  | _ => false

/-- Errors of the service that are alike, with what they come from. That may be worded in any way if
it is never shown, as with a message that can be a title. -/
inductive ApiError.From : ApiError → Option String → ApiError → Option String → Prop
  | same (e : ApiError) (origin : Option String) : From e origin e origin
  | titled {e e' : ApiError} (origin origin' : Option String) :
      e.Like L e' → e.isTitled = true → From e origin e' origin'
  | traced {e : ApiError} {origin origin' : Option String} :
      L.trace (Failure.api e origin).trace (Failure.api e origin').trace → From e origin e origin'

/-- Results that are alike: a post that stands for an error may show another wording. -/
inductive Result.Like : Result → Result → Prop
  | same (r : Result) : Like r r
  | title {v v' : String} : L.wording v v' →
      Like (.post { Post.empty with title := some v }) (.post { Post.empty with title := some v' })

inductive Outcome.Like : Outcome → Outcome → Prop
  | result {r r' : Result} : r.Like L r' → Like (.result r) (.result r')
  | failure {f f' : Failure} : f.Like L f' → Like (.failure f) (.failure f')

inductive Notice.Like : Notice → Notice → Prop
  | same (n : Notice) : Like n n
  | errorReply {status : Nat} {reason : Json} {v v' endpoint method : String} : L.wording v v' →
      Like (.errorReply status reason (.string v) endpoint method)
        (.errorReply status reason (.string v') endpoint method)
  | createFailed {e e' : ApiError} : e.Like L e' → Like (.createFailed e) (.createFailed e')
  | loadFailed {id : Argument} {e e' : ApiError} : e.Like L e' →
      Like (.loadFailed id e) (.loadFailed id e')
  | listFailed {e e' : ApiError} : e.Like L e' → Like (.listFailed e) (.listFailed e')
  | taskFailed {name : String} {f f' : Failure} : f.Like L f' →
      Like (.taskFailed name f) (.taskFailed name f')
  | unexpected {f f' : Failure} : f.Like L f' → Like (.unexpected f) (.unexpected f')

inductive Event.Like : Event → Event → Prop
  | same {e : Event} : (∀ q, e ≠ .request q) → Like e e
  | request {q q' : Request} : L.request q q' → Like (.request q) (.request q')
  | notice {n n' : Notice} : n.Like L n' → Like (.notice n) (.notice n')
  | result {r r' : Result} : r.Like L r' →
      Like (.output (Display.resultText r)) (.output (Display.resultText r'))

structure Showing.Like (s s' : Showing) : Prop where
  events : List.Forall₂ (Event.Like L) s.events s'.events
  outcome : s.outcome.Like L s'.outcome

/-- The same is reached, or failures are met that are alike. -/
inductive Likeness.Agree {α : Type} : Except Failure α → Except Failure α → Prop
  | ok (a : α) : Agree (.ok a) (.ok a)
  | error {f f' : Failure} : f.Like L f' → Agree (.error f) (.error f')

/-- What is got from a service is alike: it agrees, or there are errors of the service that are
alike. -/
inductive Likeness.Got {α : Type} : Except Failure α → Except Failure α → Prop
  | agree {x x' : Except Failure α} : L.Agree x x' → Got x x'
  | api {e e' : ApiError} {origin origin' : Option String} :
      e.From L origin e' origin' → Got (.error (.api e origin)) (.error (.api e' origin'))

/-- Answers to a call that are alike, and leave the same replies to be given. -/
structure Client.Answered (tr : Transport) {call : Call}
    (x x' : Transport × List Event × call.Reply) : Prop where
  fewer : x.1 ⊆ tr
  rest : x'.1 = x.1
  events : List.Forall₂ (Event.Like L) x.2.1 x'.2.1
  reply : L.Got x.2.2 x'.2.2

/-- Two clients answer calls alike, as long as they have the same replies to give, out of some, and
none of their answers is spoiled. -/
def Client.Alike (replies : Transport) (c c' : Client) : Prop :=
  ∀ tr ⊆ replies, ∀ blog call,
    Answered L tr (c.answer tr blog call) (c'.answer tr blog call) ∨
      ∃ f, L.spoils f ∧
        ((c.answer tr blog call).2.2 = .error f ∨ (c'.answer tr blog call).2.2 = .error f)

end

variable {L : Likeness}

lemma ApiError.Like.hint {e e' : ApiError} (h : e.Like L e') : e.hint = e'.hint := by
  cases h <;> rfl

lemma ApiError.From.like {e e' : ApiError} {origin origin' : Option String}
    (h : e.From L origin e' origin') : e.Like L e' := by
  cases h with
  | same | traced => exact .same e
  | titled _ _ like => exact like

/-- The trace of an error that comes from a failure is its wording and that of the error. -/
lemma ApiError.From.of_wordings {e : ApiError} {v v' : String}
    (h : L.trace [v, e.message.plainText] [v', e.message.plainText]) :
    e.From L (some v) e (some v') := .traced h

lemma Likeness.agree_same {α : Type} (x : Except Failure α) : L.Agree x x := by
  cases x with
  | ok a => exact .ok a
  | error f => exact .error (.same f)

/-- Failures that are alike are the same error of the service, or both are none. -/
lemma Failure.Like.cases {f f' : Failure} (h : f.Like L f') :
    (∃ e origin, f = .api e origin ∧ f' = .api e origin) ∨
      ((∀ e origin, f ≠ .api e origin) ∧ ∀ e origin, f' ≠ .api e origin) := by
  cases h with
  | same =>
    cases f with
    | api e origin => exact .inl ⟨e, origin, rfl, rfl⟩
    | _ => exact .inr ⟨nofun, nofun⟩
  | withoutScheme | during => exact .inr ⟨nofun, nofun⟩

/-- What is got is the same, or errors of the service that are alike, or other failures that are. -/
lemma Likeness.Got.cases {α : Type} {x x' : Except Failure α} (h : L.Got x x') :
    (∃ a, x = .ok a ∧ x' = .ok a) ∨
      (∃ e origin e' origin', x = .error (.api e origin) ∧ x' = .error (.api e' origin') ∧
        e.From L origin e' origin') ∨
      ∃ f f', x = .error f ∧ x' = .error f' ∧ f.Like L f' ∧
        (∀ e origin, f ≠ .api e origin) ∧ ∀ e origin, f' ≠ .api e origin := by
  cases h with
  | api from' => exact .inr (.inl ⟨_, _, _, _, rfl, rfl, from'⟩)
  | agree agree =>
    cases agree with
    | ok a => exact .inl ⟨a, rfl, rfl⟩
    | @error f f' like =>
      obtain ⟨e, origin, rfl, rfl⟩ | ⟨other, other'⟩ := like.cases
      · exact .inr (.inl ⟨e, origin, e, origin, rfl, rfl, .same e origin⟩)
      · exact .inr (.inr ⟨f, f', rfl, rfl, like, other, other'⟩)

lemma Event.forall₂_same {es : List Event} (h : requests es = []) :
    List.Forall₂ (Event.Like L) es es := by
  refine List.forall₂_same.mpr fun e he => .same ?_
  rintro q rfl
  have sent : q ∈ requests es := List.mem_filterMap.mpr ⟨_, he, rfl⟩
  rw [h] at sent
  cases sent

/-! ### Clients -/

namespace Client

variable {c c' : Client} {session session' : Session} {replies tr : Transport} {call : Call}
  {blog : Option String} {q q' : Request}

def Receives (L : Likeness) (u u' : Url) (call : Call) (blog : Option String) (reply : Reply) :
    Prop :=
  List.Forall₂ (Event.Like L) (receive reply u call blog).1 (receive reply u' call blog).1 ∧
    L.Got (receive reply u call blog).2 (receive reply u' call blog).2

lemma receives_same {u u' : Url} {reply : Reply}
    (h : receive reply u' call blog = receive reply u call blog) :
    Receives L u u' call blog reply := by
  rw [Receives, h]
  exact ⟨Event.forall₂_same (noticed_receive reply u call blog).requests,
    .agree (Likeness.agree_same _)⟩

/-- A call is answered alike if its requests are alike, and what is received for them. -/
lemma answer_like (hs : c.session = some session) (hs' : c'.session = some session')
    (fit : callFault? call = none) (hq : c.request session blog call = .ok q)
    (hq' : c'.request session' blog call = .ok q') (h : L.request q q')
    (received : ∀ reply ∈ tr, Receives L q.url q'.url call blog reply) :
    Answered L tr (c.answer tr blog call) (c'.answer tr blog call) := by
  have sent {es es' : List Event} (events : List.Forall₂ (Event.Like L) es es') :
      List.Forall₂ (Event.Like L)
        (.notice (.requestSent (method call) (endpoint blog call)) :: .request q :: es)
        (.notice (.requestSent (method call) (endpoint blog call)) :: .request q' :: es') :=
    .cons (.same nofun) (.cons (.request h) events)
  rw [answer, answer, fit]
  cases tr with
  | nil =>
    rw [exchange, exchange, hs, hs']
    dsimp only
    rw [hq, hq']
    exact ⟨List.Subset.refl _, rfl, sent .nil, .agree (.error (.same _))⟩
  | cons reply rest =>
    have fewer : rest ⊆ reply :: rest := List.subset_cons_self ..
    obtain ⟨events, result⟩ := received reply (List.mem_cons_self ..)
    rw [exchange_cons hs hq, exchange_cons hs' hq']
    generalize receive reply q.url call blog = x at events result ⊢
    generalize receive reply q'.url call blog = x' at events result ⊢
    obtain ⟨es, r⟩ := x
    obtain ⟨es', r'⟩ := x'
    cases result with
    | api from' => exact ⟨fewer, rfl, sent events, .api from'⟩
    | agree result =>
      cases result with
      | error hf => exact ⟨fewer, rfl, sent events, .agree (.error hf)⟩
      | ok v =>
        dsimp only
        cases call.read v with
        | error f => exact ⟨fewer, rfl, sent events, .agree (.error (.same f))⟩
        | ok a =>
          have succeeded :
              List.Forall₂ (Event.Like L) (success blog call a) (success blog call a) :=
            Event.forall₂_same (noticed_success blog call a).requests
          exact ⟨fewer, rfl, List.rel_append (sent events) succeeded, .agree (.ok a)⟩

/-- **Clients answer alike if they send requests that are alike**, and receive what is alike for
them. -/
lemma alike_of_requests (hs : c.session = some session) (hs' : c'.session = some session')
    (sent : ∀ blog call,
      (∃ f, c.url blog call = .error f ∧ c'.url blog call = .error f) ∨
      (∃ q q', c.request session blog call = .ok q ∧ c'.request session' blog call = .ok q' ∧
        L.request q q' ∧ ∀ reply ∈ replies, Receives L q.url q'.url call blog reply) ∨
      ∃ f, L.spoils f ∧ (c.url blog call = .error f ∨ c'.url blog call = .error f)) :
    c.Alike L replies c' := by
  intro tr given blog call
  cases fit : callFault? call with
  | some f =>
    refine .inl ?_
    rw [answer, answer, fit]
    exact ⟨List.Subset.refl _, rfl, .nil, .agree (.error (.same f))⟩
  | none =>
    obtain ⟨f, url, url'⟩ | ⟨q, q', hq, hq', h, received⟩ | ⟨f, spoils, url | url⟩ := sent blog call
    · refine .inl ?_
      rw [answer_unplaced hs fit url, answer_unplaced hs' fit url']
      exact ⟨List.Subset.refl _, rfl, Event.forall₂_same rfl, .agree (.error (.same f))⟩
    · exact .inl (answer_like hs hs' fit hq hq' h fun reply mem => received reply (given mem))
    · exact .inr ⟨f, spoils, .inl (by rw [answer_unplaced hs fit url])⟩
    · exact .inr ⟨f, spoils, .inr (by rw [answer_unplaced hs' fit url])⟩

end Client

/-! ### Work -/

namespace Work

/-- Work that goes the same way if it is answered alike. It ends with a failure that is no error of
the service; such errors only answer calls that have no fault themselves. -/
inductive Like (L : Likeness) : Work → Work → Prop
  | done {r r' : Result} : r.Like L r' → Like L (done r) (done r')
  | failed {f f' : Failure} : f.Like L f' → Like L (failed f) (failed f')
  | note {n n' : Notice} {w w' : Work} : n.Like L n' → Like L w w' → Like L (note n w) (note n' w')
  | handle {e e' : ApiError} {w w' : Work} : e.Like L e' → Like L w w' →
      Like L (handle e w) (handle e' w')
  | ask {call : Call} {next next' : call.Reply → Work} :
      (∀ a, Like L (next (.ok a)) (next' (.ok a))) →
      (Client.callFault? call = none → ∀ e origin e' origin', e.From L origin e' origin' →
        Like L (next (.error (.api e origin))) (next' (.error (.api e' origin')))) →
      (∀ f, (∀ e origin, f ≠ .api e origin) →
        next (.error f) = failed f ∧ next' (.error f) = failed f) →
      Like L (ask call next) (ask call next')

lemma create_like (blog : Option String) (draft : Argument) :
    (create blog draft).Like L (create blog draft) := by
  refine .note (.same _) (.ask (fun a => .done (.same _)) (fun fit e o e' o' he => ?_)
    fun f other => ?_)
  · cases draft with
    | post p => exact .note (.createFailed he.like) (.handle he.like (.done (.same _)))
    | value v => cases fit
  · cases f with
    | api e origin => exact absurd rfl (other e origin)
    | _ => exact ⟨rfl, rfl⟩

lemma placeholder_string (e : ApiError) (origin : Option String) {v : String}
    (h : e.message = .string v) :
    placeholder e origin = done (.post { Post.empty with title := some v }) := by
  rw [placeholder, h]
  rfl

/-- A message that can be a title gives a placeholder, wherever the error comes from. -/
lemma placeholder_titled {e : ApiError} (h : e.isTitled = true) (origin origin' : Option String) :
    placeholder e origin = placeholder e origin' ∧ ∃ r, placeholder e origin = done r := by
  unfold ApiError.isTitled at h
  unfold placeholder
  split at h
  · next title => rw [title]; exact ⟨rfl, _, rfl⟩
  · next none => rw [none]; exact ⟨rfl, _, rfl⟩
  · cases h

lemma placeholder_like {e e' : ApiError} {origin origin' : Option String}
    (h : e.From L origin e' origin') :
    (placeholder e origin).Like L (placeholder e' origin') := by
  cases h with
  | same =>
    unfold placeholder
    split
    · exact .done (.same _)
    · exact .failed (.same _)
  | titled _ _ like titled =>
    cases like with
    | same =>
      obtain ⟨same, r, found⟩ := placeholder_titled titled origin origin'
      rw [← same, found]
      exact .done (.same r)
    | reworded h =>
      rw [placeholder_string _ _ rfl, placeholder_string _ _ rfl]
      exact .done (.title h)
  | traced h =>
    unfold placeholder
    split
    · exact .done (.same _)
    · exact .failed (.during _ h)

lemma load_like (id : Argument) : (load id).Like L (load id) := by
  refine .ask (fun a => .done (.same _)) (fun _ e o e' o' he => ?_) fun f other => ?_
  · exact .note (.loadFailed he.like) (placeholder_like he)
  · cases f with
    | api e origin => exact absurd rfl (other e origin)
    | _ => exact ⟨rfl, rfl⟩

lemma gather_like (left before : Nat) (token : Option String) (gathered : List Post) :
    (gather left before token gathered).Like L (gather left before token gathered) := by
  have dropped (e e' : ApiError) (he : e.Like L e') :
      (note (.listFailed e) (done (.posts []))).Like L (note (.listFailed e') (done (.posts []))) :=
    .note (.listFailed he) (.done (.same _))
  induction left generalizing before token gathered with
  | zero =>
    unfold gather
    refine .ask (fun page => ?_) (fun _ e _ e' _ he => dropped e e' he.like) fun f other => ?_
    · dsimp only
      split
      · exact .done (.same _)
      · exact .note (.same _) (.done (.same _))
    · cases f with
      | api e origin => exact absurd rfl (other e origin)
      | _ => exact ⟨rfl, rfl⟩
  | succ left ih =>
    unfold gather
    refine .ask (fun page => ?_) (fun _ e _ e' _ he => dropped e e' he.like) fun f other => ?_
    · dsimp only
      split
      · exact .done (.same _)
      · refine .note (.same _) ?_
        split
        · exact .done (.same _)
        · exact ih _ _ _
    · cases f with
      | api e origin => exact absurd rfl (other e origin)
      | _ => exact ⟨rfl, rfl⟩

/-- The work of a task goes the same way if it is answered alike. -/
lemma ofKind_like (blog : Option String) (kind : Kind) (args : List Argument) :
    (ofKind blog kind args).Like L (ofKind blog kind args) := by
  unfold ofKind
  split
  · exact create_like _ _
  · exact load_like _
  · exact gather_like _ _ _ _
  all_goals exact .failed (.same _)

variable {c c' : Client} {replies : Transport} {name : String} {blog : Option String}

/-- **Work shows what is alike if its calls are answered alike.** -/
lemma Like.shows {w w' : Work} (h : w.Like L w') (clients : c.Alike L replies c')
    {tr : Transport} (given : tr ⊆ replies)
    (spared : ∀ f, L.spoils f → (w.shows name blog (.client c tr)).outcome ≠ .failure f)
    (spared' : ∀ f, L.spoils f → (w'.shows name blog (.client c' tr)).outcome ≠ .failure f) :
    (w.shows name blog (.client c tr)).Like L (w'.shows name blog (.client c' tr)) := by
  induction h generalizing tr with
  | done hr => exact ⟨.cons (.result hr) .nil, .result hr⟩
  | failed hf => exact ⟨.cons (.notice (.taskFailed hf)) .nil, .failure hf⟩
  | note hn _ ih =>
    obtain ⟨events, outcome⟩ := ih given spared spared'
    exact ⟨.cons (.notice hn) events, outcome⟩
  | @handle e e' _ _ he _ ih =>
    obtain ⟨events, outcome⟩ := ih given spared spared'
    refine ⟨List.rel_append ?_ events, outcome⟩
    rw [← he.hint]
    exact Event.forall₂_same e.hint_requests
  | @ask call next next' _ _ other ihOk ihApi =>
    have asked (c : Client) (next : call.Reply → Work) :
        (Work.ask call next).shows name blog (.client c tr) =
          ((next (c.answer tr blog call).2.2).shows name blog
            (.client c (c.answer tr blog call).1)).after (c.answer tr blog call).2.1 := rfl
    rw [asked] at spared spared' ⊢
    rw [asked]
    obtain ⟨fewer, rest, events, reply⟩ | ⟨f, spoils, spoiled⟩ := clients tr given blog call
    · rw [rest] at spared' ⊢
      have given' := List.Subset.trans fewer given
      obtain ⟨a, ok, ok'⟩ | ⟨e, origin, e', origin', refused, refused', he⟩ |
        ⟨f, f', failed, failed', hf, unserved, unserved'⟩ := reply.cases
      · rw [ok] at spared ⊢
        rw [ok'] at spared' ⊢
        obtain ⟨events', outcome⟩ := ihOk a given' spared spared'
        exact ⟨List.rel_append events events', outcome⟩
      · rw [refused] at spared ⊢
        rw [refused'] at spared' ⊢
        obtain ⟨events', outcome⟩ :=
          ihApi (Client.fit_of_api refused) e origin e' origin' he given' spared spared'
        exact ⟨List.rel_append events events', outcome⟩
      · rw [failed, failed', (other f unserved).1, (other f' unserved').2]
        exact ⟨List.rel_append events (.cons (.notice (.taskFailed hf)) .nil), .failure hf⟩
    · -- a failure that spoils the comparison would be the outcome
      have ends := other f (L.spoils_other f spoils)
      rcases spoiled with spoiled | spoiled
      · rw [spoiled, ends.1] at spared
        exact absurd rfl (spared f spoils)
      · rw [spoiled, ends.2] at spared'
        exact absurd rfl (spared' f spoils)

end Work

end BlogConsole

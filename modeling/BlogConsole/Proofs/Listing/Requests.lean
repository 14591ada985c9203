import BlogConsole.Proofs.Client.Query
import BlogConsole.Proofs.Listing.Accumulation
import BlogConsole.Proofs.Loop.Served

/-!
The requests of a listing, told by the answers it gets.

A listing asks for its first page without a token, and for every further one with the token that the
page before named. A client writes the token into the query of its request. So the service is shown
the tokens that it gave away, one after the other, whatever they are made of.
-/

namespace BlogConsole

open Entry Event Work

/-- Calls of a client come upon the client itself, with the last ones of its replies. -/
lemma Service.Leads.client {c : Client} {transport : Transport} {s : Service}
    (h : (Service.client c transport).Leads s) :
    ∃ replies, replies <:+ transport ∧ s = .client c replies := by
  induction h with
  | here => exact ⟨transport, List.suffix_rfl, rfl⟩
  | serve _ i blog call ih =>
    obtain ⟨replies, later, rfl⟩ := ih
    exact ⟨_, (c.answer_suffix replies blog call).trans later, rfl⟩

namespace Listing

variable {u : Setup} {i : Nat} {blog token : Option String} {es : List Entry} {w : Work}

/-- Calls for pages, the first of them for the page of a token. Each but the last is answered by a
page, which names the token of the next call. -/
inductive Linked (blog : Option String) : Option String → List Entry → Prop
  | none (token : Option String) : Linked blog token []
  | last {e : Entry} {token : Option String} {reply : Except Failure PostList} :
      e.deed = .ask blog (call token) reply → Linked blog token [e]
  | next {e : Entry} {token : Option String} {page : PostList} {name : String}
      {es : List Entry} :
      e.deed = .ask blog (call token) (.ok page) → page.nextPageToken = some name →
      Linked blog (some name) es → Linked blog token (e :: es)

lemma asks_over {w' : Work} (h : Trace u i w es w') (hw : w.Over) : asks es = [] := by
  cases h with
  | stop => rfl
  | note | handle | ask => exact hw.elim

lemma asks_note {n : Notice} {w' : Work} (h : Trace u i (.note n w) es w') :
    asks es = [] ∨ ∃ es', Trace u i w es' w' ∧ asks es = asks es' := by
  cases h with
  | stop => exact .inl rfl
  | @note _ _ _ es' h => exact .inr ⟨es', h, rfl⟩

/-- After an answer a listing makes no more calls, or the answer is a page and the listing goes on
with the token that it names. -/
lemma asks_goOn {left before : Nat} {gathered : List Post} {answer : Except Failure PostList}
    {w' : Work} (h : Trace u i (goOn left before gathered answer) es w') :
    asks es = [] ∨ ∃ page name left' gathered' es', answer = .ok page ∧
      page.nextPageToken = some name ∧ left = left' + 1 ∧
      Trace u i (gather left' (before + 1) (some name) gathered') es' w' ∧ asks es = asks es' := by
  cases answer with
  | error f =>
    refine .inl ?_
    cases f with
    | api e =>
      obtain none | ⟨es', h, same⟩ := asks_note h
      · exact none
      · exact same.trans (asks_over h trivial)
    | _ => exact asks_over h trivial
  | ok page =>
    unfold goOn at h
    dsimp only at h
    split at h
    · exact .inl (asks_over h trivial)
    · obtain none | ⟨es', h, same⟩ := asks_note h
      · exact .inl none
      · split at h
        · exact .inl (same.trans (asks_over h trivial))
        · next goes =>
          obtain ⟨more, named⟩ := not_or.mp goes
          obtain ⟨left, rfl⟩ := Nat.exists_eq_succ_of_ne_zero more
          cases token : page.nextPageToken with
          | none => exact absurd (by rw [token]; rfl) named
          | some name =>
            rw [token] at h
            exact .inr ⟨page, name, left, _, es', rfl, token, rfl, h, same⟩

lemma linked_gather {left before : Nat} {gathered : List Post} {w' : Work}
    (h : Trace u i (gather left before token gathered) es w') :
    Linked u.blog token (asks es) := by
  induction left using Nat.strong_induction_on generalizing before token gathered es with
  | _ left ih =>
    rw [gather_eq] at h
    cases h with
    | stop => exact .none token
    | @ask _ _ reply events _ es _ h =>
      have first : asks (u.running.did (.ask u.blog (call token) reply) events :: es) =
          u.running.did (.ask u.blog (call token) reply) events :: asks es := rfl
      rw [first]
      obtain none | ⟨page, name, left', gathered', es', rfl, named, rfl, h, same⟩ := asks_goOn h
      · rw [none]
        exact .last rfl
      · rw [same]
        exact .next rfl named (ih left' (by omega) h)

/-- The calls of a task for a listing are linked, from the first page on. -/
lemma linked_of_life {t : Task} {args : List Argument} {own : List Entry} {m : Int}
    (h : t.Life i args own) (hk : t.kind = .list m) : Linked t.blog none (asks own) := by
  obtain ⟨mid, w, hmid, same⟩ := h.asks
  rw [same]
  rw [Task.workOf, hk] at hmid
  cases args with
  | nil => exact linked_gather hmid
  | cons arg args =>
    rw [asks_over hmid trivial]
    exact .none none

/-! ### What the service is shown -/

variable {c : Client} {transport : Transport}

def Shows (c : Client) (token : Option String) (request : Request) : Prop :=
  request.url.parameters? =
    some (("fields", listFields) :: (named "pageToken" token ++ Client.keyParameter c.apiKey))

/-- A call for some page of the listing of a blog sent a request, and a page came back, on some of
the replies of a transport. -/
def Brought (c : Client) (transport : Transport) (blog : Option String) (e : Entry)
    (request : Request) (page : PostList) : Prop :=
  ∃ token replies, replies <:+ transport ∧ e.deed = .ask blog (call token) (.ok page) ∧
    (c.answer replies blog (call token)).2 = (e.events, .ok page) ∧
    Event.requests e.events = [request]

lemma shows_of_mem {replies : Transport} {request : Request}
    (h : request ∈ Event.requests (c.answer replies blog (call token)).2.1) :
    Shows c token request := by
  have read := Client.query_read h
  cases token <;> exact read

lemma served_by_client {e : Entry} (h : e.ServedBy (.client c transport) i) {a : Call}
    {reply : a.Reply} (deed : e.deed = .ask blog a reply) :
    ∃ replies, replies <:+ transport ∧ reply = (c.answer replies blog a).2.2 ∧
      e.events = (c.answer replies blog a).2.1 := by
  obtain ⟨s, leads, answer, events⟩ := h blog a reply deed
  obtain ⟨replies, later, rfl⟩ := leads.client
  exact ⟨replies, later, answer, events⟩

/-- The requests of linked calls show the tokens that were named. -/
lemma Linked.requests (h : Linked blog token es)
    (served : ∀ e ∈ es, e.ServedBy (.client c transport) i) :
    let sent := es.flatMap fun e => Event.requests e.events
    (∀ request, sent[0]? = some request → Shows c token request) ∧
      ∀ k request, sent[k + 1]? = some request →
        ∃ e before page name, es[k]? = some e ∧ sent[k]? = some before ∧
          Brought c transport blog e before page ∧ page.nextPageToken = some name ∧
          Shows c (some name) request := by
  induction h with
  | none token => exact ⟨nofun, nofun⟩
  | @last e token reply deed =>
    obtain ⟨replies, later, answer, events⟩ :=
      served_by_client (List.forall_mem_singleton.mp served) deed
    rw [List.flatMap_singleton, events]
    refine ⟨fun request h => shows_of_mem (List.mem_of_getElem? h), fun k request h => ?_⟩
    obtain ⟨-, -, -, one⟩ := Client.request_of_mem (List.mem_of_getElem? h)
    rw [one] at h
    cases h
  | @next e token page name es deed named _ ih =>
    obtain ⟨here, there⟩ := List.forall_mem_cons.mp served
    obtain ⟨replies, later, answer, events⟩ := served_by_client here deed
    obtain ⟨before, sent⟩ := Client.sent_of_ok rfl answer.symm
    have brought : Brought c transport blog e before page :=
      ⟨token, replies, later, deed, Prod.ext events.symm answer.symm, events ▸ sent⟩
    obtain ⟨first, others⟩ := ih there
    rw [List.flatMap_cons, events, sent]
    refine ⟨fun request h => ?_, fun k request h => ?_⟩
    · cases h
      exact shows_of_mem (sent ▸ List.mem_singleton_self _)
    · cases k with
      | zero => exact ⟨e, before, page, name, rfl, rfl, brought, named, first request h⟩
      | succ k => exact others k request h

end Listing

open Listing

/-- **The service is shown the parameters as they are.** Whenever a call reaches the transport, the
query of its request is read back as the parameters of the call, which are its fields, its token and
its number of posts as far as it has them, and then the key, if it is not empty. Whatever else is
done to a loop, the first request of a task for a listing shows no token, and each further one shows
the token that was named by the page which the request before brought. -/
theorem Client.parameters_shown (c : Client) (transport : Transport) :
    (∀ blog call, ∀ request ∈ Event.requests (c.answer transport blog call).2.1,
      request.url.parameters? = some (call.parameters ++ keyParameter c.apiKey)) ∧
    ∀ (setups : List Setup) (ss : List Loop.Step) (i : Nat) (m : Int) (hi : i < setups.length),
      setups[i].kind = .list m →
      let own := (Loop.after (.client c transport) setups ss).own i
      let sent := Event.requests (shown own)
      (∀ request, sent[0]? = some request → Shows c none request) ∧
        ∀ k request, sent[k + 1]? = some request →
          ∃ e before page name, (asks own)[k]? = some e ∧ sent[k]? = some before ∧
            Brought c transport setups[i].blog e before page ∧ page.nextPageToken = some name ∧
            Shows c (some name) request := by
  refine ⟨fun blog call request h => query_read h, fun setups ss i m hi hk => ?_⟩
  obtain ⟨t, ht, setup⟩ := Loop.exists_task (.client c transport) ss hi
  obtain ⟨args, life⟩ := (Loop.after_sound (.client c transport) setups ss).life i t ht
  rw [← setup] at hk ⊢
  have told := Loop.own_served (.client c transport) setups ss i
  have served : ∀ e ∈ asks ((Loop.after (.client c transport) setups ss).own i),
      e.ServedBy (.client c transport) i := fun e he => told e (List.mem_of_mem_filter he)
  dsimp only
  rw [requests_of_shows life.shows]
  exact (linked_of_life life hk).requests served

namespace Listing

def keyed : Client := { Client.unnamed "https://h" with apiKey := "k&" }

/-- A page with one post: `{"items":[{}],"nextPageToken":"+ é"}`. -/
def oddPage : RawResponse :=
  ⟨200, [],
    [0x7B, 0x22, 0x69, 0x74, 0x65, 0x6D, 0x73, 0x22, 0x3A, 0x5B, 0x7B, 0x7D, 0x5D, 0x2C, 0x22, 0x6E,
      0x65, 0x78, 0x74, 0x50, 0x61, 0x67, 0x65, 0x54, 0x6F, 0x6B, 0x65, 0x6E, 0x22, 0x3A, 0x22,
      0x2B, 0x20, 0xC3, 0xA9, 0x22, 0x7D]⟩

def pagesOf (blog : String) : Setup := ⟨.list 2, some blog, .none, .console⟩

/-- A loop with such a task, which is given one page. -/
def oddLoop : Loop :=
  .after (.client keyed [.response oddPage]) [pagesOf "b"] [.execute 0 [], .run]

def oddRequest : Request :=
  ⟨"GET",
    ⟨"https".toList, [], "h".toList, none, "/blogs/b/posts".toList,
      some ("fields=items%28id%2Ctitle%29%2CnextPageToken&pageToken=%2B+%C3%A9&key=k%26").toList,
      none⟩,
    none, none, [], Client.defaultTimeout⟩

end Listing

/-- A token with a plus sign, a space and a letter that is not ASCII. -/
theorem Client.odd_token_shown :
    (Event.requests (shown (oddLoop.own 0)))[1]? = some oddRequest ∧
      oddRequest.url.parameters? =
        some [("fields", "items(id,title),nextPageToken"), ("pageToken", "+ é"), ("key", "k&")] ∧
      ∃ e before page, (asks (oddLoop.own 0))[0]? = some e ∧
        Brought keyed [.response oddPage] (some "b") e before page ∧
        page.nextPageToken = some "+ é" := by
  have sent : (Event.requests (shown (oddLoop.own 0)))[1]? = some oddRequest := by decide +kernel
  obtain ⟨calls, listings⟩ := parameters_shown keyed [.response oddPage]
  have read : oddRequest.url.parameters? =
      some [("fields", "items(id,title),nextPageToken"), ("pageToken", "+ é"), ("key", "k&")] :=
    calls (some "b") (call (some "+ é")) oddRequest (by decide +kernel)
  obtain ⟨e, before, page, name, asked, -, brought, named, shows⟩ :=
    (listings [pagesOf "b"] [.execute 0 [], .run] 0 2 Nat.one_pos rfl).2 0 oddRequest sent
  obtain rfl : "+ é" = name := by
    have same := read.symm.trans shows
    simpa using (List.cons.inj (List.cons.inj (Option.some.inj same)).2).1
  exact ⟨sent, read, e, before, page, asked, brought, named⟩

end BlogConsole

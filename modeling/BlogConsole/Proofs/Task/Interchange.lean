import BlogConsole.Proofs.Client.Address
import BlogConsole.Proofs.Client.Encoding
import BlogConsole.Proofs.Listing.Accumulation
import BlogConsole.Proofs.Post.Projection
import BlogConsole.Proofs.Task.Replay

/-!
Tasks on a store and on a client.

A task sees of its service nothing but the answers to its calls, and it does not look at where an
error comes from unless it fails itself. So when the replies that a client is given encode the
answers of a store, the task does the same on the client as on the store. Only its calls show
otherwise: each of them shows as a request.
-/

namespace BlogConsole

/-! ### Calls of tasks -/

/-- Arguments that a kind of task is meant for: a draft that can be sent, an id that is a word, or
nothing. -/
inductive Kind.Takes : Kind → List Argument → Prop
  | create {draft : Post} : draft.Sendable → Takes .create [.post draft]
  | load {id : String} : Text.Word id.toList → Takes .load [.text id]
  | list (maxPages : Int) : Takes (.list maxPages) []

/-- A listing that is answered so continues at a word, if it continues. -/
def Call.Continues : (call : Call) → call.Reply → Prop
  | .list .., .ok page => ∀ t ∈ page.nextPageToken, Text.Word t.toList
  | _, _ => True

namespace Work

/-- Work whose calls can be sent, as long as its listings continue at words, and that goes on in the
same way wherever an error comes from. -/
inductive Sendable : Work → Prop
  | done (r : Result) : Sendable (done r)
  | failed (f : Failure) : Sendable (failed f)
  | note {n : Notice} {next : Work} : Sendable next → Sendable (note n next)
  | handle {e : ApiError} {next : Work} : Sendable next → Sendable (handle e next)
  | ask {call : Call} {next : call.Reply → Work} :
      call.Sendable → (∀ answer, call.Continues answer → Sendable (next answer)) →
      (∀ answer answer', call.Told answer → call.Agree answer answer' →
        next answer = next answer') →
      Sendable (ask call next)

lemma create_sendable (blog : Option String) {draft : Post} (h : draft.Sendable) :
    (create blog (.post draft)).Sendable := by
  refine .note (.ask (.insert h) (fun answer _ => ?_) fun _ _ _ agree => by cases agree <;> rfl)
  split
  · exact .done _
  · exact .note (.handle (.done _))
  · exact .failed _

lemma placeholder_sendable (e : ApiError) (origin : Option String) :
    (placeholder e origin).Sendable := by
  unfold placeholder
  split
  · exact .done _
  · exact .failed _

lemma load_sendable {id : String} (h : Text.Word id.toList) : (load (.text id)).Sendable := by
  refine .ask (.get h) (fun answer _ => ?_) fun _ _ told agree => ?_
  · split
    · exact .done _
    · exact .note (placeholder_sendable _ _)
    · exact .failed _
  · cases agree with
    | value a => rfl
    | error e origin origin' =>
      -- the message of an error that can be told is a text, so that the placeholder is made
      cases told with
      | error _ conveyed => cases conveyed <;> rfl

lemma gather_sendable (left before : Nat) {token : Option String} (gathered : List Post)
    (h : ∀ t ∈ token, Text.Word t.toList) : (gather left before token gathered).Sendable := by
  refine gather_induct (T := fun token => ∀ t ∈ token, Text.Word t.toList) (fun _ => .done _)
    .failed (fun _ _ _ _ => .note) (fun _ _ => .note) (fun token next words fails goes => ?_) left
    before gathered h
  refine .ask (.list words) (fun answer continues => goes answer fun page answered t ht => ?_)
    fun _ _ _ agree => ?_
  · cases answered
    cases ht
    cases token : page.nextPageToken with
    | none => exact List.forall_mem_nil _
    | some t => exact continues t token
  · cases agree with
    | value => rfl
    | error => rw [fails, fails]

lemma ofKind_sendable {kind : Kind} {args : List Argument} (h : kind.Takes args)
    (blog : Option String) : (ofKind blog kind args).Sendable := by
  cases h with
  | create draft => exact create_sendable blog draft
  | load hid => exact load_sendable hid
  | list maxPages => exact gather_sendable _ _ _ fun t ht => by cases ht

end Work

/-! ### Answers of a store -/

namespace Store

/-- A store whose answers can be told: it fails with nothing but errors that can be told, and the
offset of the present has no fraction of a minute. -/
structure Tells (s : Store) : Prop where
  failWith : ∀ e ∈ s.failWith, e.Conveyed
  clock : s.clock.IsWhole

variable {s : Store} {call : Call}

lemma refusal_told (call : Call) (message : String) {status : Nat} (reason : String)
    (h : 400 ≤ status) (h' : status < 600)
    (permitted : Client.isAuthorizationStatus status = false) :
    call.Told (.error (refusal message status reason)) := by
  refine .error none ?_
  rw [← permitted]
  exact .status message (some reason) h h'

lemma insert_told (hs : s.Tells) (blog : Option String) {draft : Post} (h : draft.Sendable) :
    (s.insert blog (.post draft)).1.Tells ∧
      (Call.insert (.post draft)).Told (s.insert blog (.post draft)).2.2 := by
  unfold insert
  split
  · next e hf => exact ⟨hs, .error none (hs.failWith e hf)⟩
  · next same => cases same
  · next same =>
    cases same
    refine ⟨⟨hs.failWith, hs.clock⟩, .value ⟨?_, h.updated⟩⟩
    rintro _ ⟨rfl⟩
    exact hs.clock

/-- Loaded posts are told without their timestamps, and so are the posts of listings. -/
lemma isWhole_loaded (p : Post) :
    (p.project (fieldNames Work.postFields.toList)).IsWhole ∧
      (p.project ((itemFieldNames Work.listFields.toList).getD [])).IsWhole := by
  have loaded : fieldNames Work.postFields.toList = ["title".toList, "content".toList] := by
    decide
  have listed :
      (itemFieldNames Work.listFields.toList).getD [] = ["id".toList, "title".toList] := by
    decide
  have some_kept (name : List Char) (names : List (List Char))
      (h : Post.allFields ∉ name :: names) : ¬ Post.KeepsAll (name :: names) :=
    not_or.mpr ⟨List.cons_ne_nil _ _, h⟩
  rw [loaded, listed]
  exact ⟨p.isWhole_project (some_kept _ _ (by decide)) (by decide) (by decide),
    p.isWhole_project (some_kept _ _ (by decide)) (by decide) (by decide)⟩

lemma get_told (hs : s.Tells) (id : Argument) :
    (Call.get id (some Work.postFields)).Told (s.get id (some Work.postFields)) := by
  unfold get
  split
  · next e hf => exact .error none (hs.failWith e hf)
  · split
    · exact .value (isWhole_loaded _).1
    · exact refusal_told _ _ _ (by decide) (by decide) (by decide)

lemma list_told (hs : s.Tells) (token : Option String) (maxResults : Option Int) :
    (Call.list (some Work.listFields) token maxResults).Told
      (s.list (some Work.listFields) token maxResults).2 := by
  unfold list
  split
  · next e hf => exact .error none (hs.failWith e hf)
  · split
    · exact refusal_told _ _ _ (by decide) (by decide) (by decide)
    · refine .value fun items told p hp => ?_
      dsimp only at told
      split at told
      · cases told
      · cases told
        obtain ⟨q, -, rfl⟩ := List.mem_map.mp hp
        exact (isWhole_loaded q).2

lemma list_continues (s : Store) (fields token : Option String) (maxResults : Option Int) :
    (Call.list fields token maxResults).Continues (s.list fields token maxResults).2 := by
  unfold list
  split
  · trivial
  · split
    · trivial
    · intro t ht
      dsimp only at ht
      split at ht
      · cases ht
        exact word_pageToken _
      · cases ht

/-- A store answers the calls of tasks with what can be told, and still does so afterwards. -/
lemma answer_told (hs : s.Tells) (h : call.Sendable) (blog : Option String) :
    (s.answer blog call).1.Tells ∧ call.Continues (s.answer blog call).2.2 ∧
      call.Told (s.answer blog call).2.2 := by
  cases h with
  | insert draft =>
    obtain ⟨still, told⟩ := insert_told hs blog draft
    exact ⟨still, trivial, told⟩
  | get => exact ⟨hs, trivial, get_told hs _⟩
  | list => exact ⟨hs, list_continues s _ _ _, list_told hs _ _⟩

end Store

/-! ### Entries -/

namespace Entry

/-- A reply encodes the answer to the call that an entry tells of. -/
def EncodedBy (e : Entry) (reply : Reply) : Prop :=
  ∃ blog call answer, e.deed = .ask blog call answer ∧ Encodes call answer reply

/-- The reply that tells the answer to the call of an entry. -/
def reply? (e : Entry) : Option Reply :=
  match e.deed with
  | .ask _ call answer => call.reply? answer
  | _ => none

/-- If the entry tells of a call, it can be sent, and its answer can be told. -/
def Told (blog : Option String) (e : Entry) : Prop :=
  ∀ blog' call answer, e.deed = .ask blog' call answer →
    blog' = blog ∧ call.Sendable ∧ call.Told answer

/-- If the entry tells of a call, its answer can be told, and a client has a request for it, to a
URL with a scheme. -/
def SentBy (c : Client) (session : Session) (e : Entry) : Prop :=
  ∀ blog call answer, e.deed = .ask blog call answer →
    Client.callFault? call = none ∧ call.Told answer ∧
      ∃ request, c.request session blog call = .ok request ∧ request.url.scheme ≠ []

/-- Two entries tell the same, but that a call shows as the request of a client in the second, and
that an error may come from different failures. -/
inductive Alike (c : Client) (session : Session) : Entry → Entry → Prop
  | same {e : Entry} : e.deed.isAsk = false → Alike c session e e
  | asked {status : Status} {blog : Option String} {call : Call} {answer answer' : call.Reply}
      {events events' : List Event} {request : Request} :
      c.request session blog call = .ok request → Event.requests events' = [request] →
      call.Agree answer answer' →
      Alike c session ⟨status, .ask blog call answer, events⟩
        ⟨status, .ask blog call answer', events'⟩

variable {c : Client} {session : Session} {blog : Option String} {es : List Entry}

lemma told_of_not_ask {e : Entry} (h : e.deed.isAsk = false) : e.Told blog := by
  intro _ _ _ hd
  rw [hd] at h
  cases h

/-- The calls are sent by a client that is ready, unless their URLs get too long. -/
lemma sentBy_of_told (h : ∀ e ∈ es, e.Told blog) (hc : c.Ready session)
    (hb : ∀ b ∈ blog, Text.Word b.toList) (fits : ∀ p ∈ asked es, c.Fits p.1 p.2) :
    ∀ e ∈ es, e.SentBy c session := by
  intro e he blog' call answer hd
  obtain ⟨rfl, sendable, told⟩ := h e he _ _ _ hd
  have mem : (blog', call) ∈ asked es := by
    rw [asked, List.mem_filterMap]
    exact ⟨e, he, by rw [hd]⟩
  exact ⟨sendable.fit, told, hc.request hb sendable (fits (blog', call) mem)⟩

lemma alike_of_none (h : ∀ e ∈ es, e.deed.isAsk = false) :
    List.Forall₂ (Alike c session) es es :=
  List.forall₂_same.mpr fun e he => .same (h e he)

lemma replies_of_none {replies : List Reply} (h : ∀ e ∈ es, e.deed.isAsk = false)
    (encoded : List.Forall₂ EncodedBy (asks es) replies) : replies = [] := by
  rw [asks_of_none h] at encoded
  cases encoded
  rfl

/-- The answers of calls that can be told are encoded by the replies that tell them. -/
lemma encoded_replies (h : ∀ e ∈ es, e.Told blog) :
    List.Forall₂ EncodedBy (asks es) (es.filterMap reply?) := by
  induction es with
  | nil => exact .nil
  | cons e es ih =>
    obtain ⟨he, hes⟩ := List.forall_mem_cons.mp h
    obtain ⟨status, deed, events⟩ := e
    cases deed with
    | ask blog' call answer =>
      obtain ⟨-, -, told⟩ := he blog' call answer rfl
      obtain ⟨reply, written, encodes⟩ := told.encodes
      have first : reply? ⟨status, .ask blog' call answer, events⟩ = some reply := written
      rw [List.filterMap_cons_some first]
      exact .cons ⟨blog', call, answer, rfl, encodes⟩ (ih hes)
    | start | note | handle | returned | raised | complete | refused => exact ih hes

end Entry

namespace Task

variable {t : Task} {i : Nat} {isOpen : String → Bool} {c : Client} {session : Session}

lemma advance_told {w : Work} (hw : w.Sendable) {s : Store} (hs : s.Tells) :
    ∀ e ∈ (t.advance i isOpen w (.store s)).record, e.Told t.blog := by
  induction hw generalizing s with
  | done r => exact fun e he => Entry.told_of_not_ask (returning_no_ask r e he)
  | failed f => exact fun e he => Entry.told_of_not_ask (raising_no_ask f e he)
  | note _ ih => exact List.forall_mem_cons.mpr ⟨Entry.told_of_not_ask rfl, ih hs⟩
  | @handle e next _ ih =>
    refine List.forall_mem_append.mpr ⟨fun entry he => ?_, ih hs⟩
    exact Entry.told_of_not_ask (handle_no_ask e entry he)
  | @ask call next hcall _ _ ih =>
    obtain ⟨still, continues, told⟩ := Store.answer_told hs hcall t.blog
    refine List.forall_mem_cons.mpr ⟨?_, ih _ continues still⟩
    intro blog call' answer hd
    cases hd
    exact ⟨rfl, hcall, told⟩

/-- **Work goes the same way on a client as on a store**, if the replies encode the answers of the
store. They are used up then. -/
lemma advance_alike (hc : c.session = some session) {w : Work} (hw : w.Sendable) {s : Store}
    (hs : s.Tells) {replies : List Reply}
    (sent : ∀ e ∈ (t.advance i isOpen w (.store s)).record, e.SentBy c session)
    (encoded : List.Forall₂ Entry.EncodedBy
      (Entry.asks (t.advance i isOpen w (.store s)).record) replies) :
    (t.advance i isOpen w (.client c replies)).task = (t.advance i isOpen w (.store s)).task ∧
      (t.advance i isOpen w (.client c replies)).service = .client c [] ∧
      List.Forall₂ (Entry.Alike c session) (t.advance i isOpen w (.store s)).record
        (t.advance i isOpen w (.client c replies)).record := by
  induction hw generalizing s replies with
  | done r =>
    obtain rfl := Entry.replies_of_none (returning_no_ask r) encoded
    exact ⟨rfl, rfl, Entry.alike_of_none (returning_no_ask r)⟩
  | failed f =>
    obtain rfl := Entry.replies_of_none (raising_no_ask f) encoded
    exact ⟨rfl, rfl, Entry.alike_of_none (raising_no_ask f)⟩
  | note _ ih =>
    obtain ⟨task, service, record⟩ := ih hs (List.forall_mem_cons.mp sent).2 encoded
    exact ⟨task, service, .cons (.same rfl) record⟩
  | @handle e next _ ih =>
    have none : Entry.asks (t.handle i e) = [] := Entry.asks_of_none (handle_no_ask e)
    have record : (t.advance i isOpen (.handle e next) (.store s)).record =
        t.handle i e ++ (t.advance i isOpen next (.store s)).record := rfl
    rw [record, Entry.asks_append, none, List.nil_append] at encoded
    obtain ⟨task, service, alike⟩ := ih hs (List.forall_mem_append.mp sent).2 encoded
    exact ⟨task, service, List.rel_append (Entry.alike_of_none (handle_no_ask e)) alike⟩
  | @ask call next hcall _ same ih =>
    -- the first reply encodes the answer of the store, so the client goes on in the same way
    obtain ⟨first, later⟩ := List.forall_mem_cons.mp sent
    obtain ⟨fit, told, request, hr, scheme⟩ := first _ _ _ rfl
    obtain ⟨still, continues, -⟩ := Store.answer_told hs hcall t.blog
    have asked : Entry.asks (t.advance i isOpen (.ask call next) (.store s)).record =
        t.did (.ask t.blog call (s.answer t.blog call).2.2) (s.answer t.blog call).2.1 ::
          Entry.asks (t.advance i isOpen (next (s.answer t.blog call).2.2)
            (.store (s.answer t.blog call).1)).record := rfl
    rw [asked] at encoded
    obtain ⟨reply, rest, ⟨blog, call', answer, deed, encodes⟩, more, rfl⟩ :=
      List.forall₂_cons_left_iff.mp encoded
    cases deed
    have answered := Client.answer_encoded hc fit hr scheme told encodes rest
    have requests := Client.requests_answer hc fit hr (reply :: rest)
    have client : t.advance i isOpen (.ask call next) (.client c (reply :: rest)) =
        (t.advance i isOpen (next (c.answer (reply :: rest) t.blog call).2.2)
          (.client c (c.answer (reply :: rest) t.blog call).1)).after
            [t.did (.ask t.blog call (c.answer (reply :: rest) t.blog call).2.2)
              (c.answer (reply :: rest) t.blog call).2.1] := rfl
    rw [client]
    generalize c.answer (reply :: rest) t.blog call = p at answered requests ⊢
    obtain ⟨rest', events, answer'⟩ := p
    obtain ⟨rfl, agree⟩ := answered
    dsimp only
    rw [← same _ _ told agree]
    obtain ⟨task, service, alike⟩ := ih _ continues still later more
    exact ⟨task, service, .cons (.asked hr requests agree) alike⟩

end Task

end BlogConsole

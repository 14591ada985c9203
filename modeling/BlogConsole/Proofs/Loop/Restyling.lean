import BlogConsole.Proofs.Listing.Accumulation
import BlogConsole.Proofs.Task.Restyling
import Mathlib

/-!
Loops on replies that differ in style.

Every step of a loop keeps what two loops have in common that differ in the style of their replies:
the tasks are as far, have done the same and leave as many replies. So whatever is done to them,
they tell the same of every task, but for the names by which a rejection calls fields.
-/

namespace BlogConsole.Loop

variable {reads : Json.Role → Prop} {c : Client} {l l' : Loop} {i : Nat}

/-- Loops that are the same but for the style of the replies to come and the names in
rejections. -/
structure Restyled (reads : Json.Role → Prop) (c : Client) (l l' : Loop) : Prop where
  service : l.service.Restyled reads c l'.service
  tasks : ∀ i, Option.Rel (Task.Restyled reads) (l.task? i) (l'.task? i)
  queue : l'.queue = l.queue
  waiters : l'.waiters = l.waiters
  released : l'.released = l.released
  record : List.Forall₂ (fun p p' => p.1 = p'.1 ∧ p.2.Restyled p'.2) l.record l'.record

namespace Restyled

/-- A number is that of no task, or that of two tasks that are the same but for style. -/
lemma task_cases (h : Restyled reads c l l') (i : Nat) :
    (l.task? i = none ∧ l'.task? i = none) ∨
      ∃ t t', l.task? i = some t ∧ l'.task? i = some t' ∧ t.Restyled reads t' := by
  have same := h.tasks i
  cases ht : l.task? i with
  | none =>
    cases ht' : l'.task? i with
    | none => exact .inl ⟨rfl, rfl⟩
    | some t' => rw [ht, ht'] at same; cases same
  | some t =>
    cases ht' : l'.task? i with
    | none => rw [ht, ht'] at same; cases same
    | some t' =>
      rw [ht, ht'] at same
      cases same with
      | some same => exact .inr ⟨t, t', rfl, rfl, same⟩

/-! ### Steps -/

lemma setTask (h : Restyled reads c l l') {t t' u u' : Task} (hu : l.task? i = some u)
    (hu' : l'.task? i = some u') (ht : t.Restyled reads t') :
    Restyled reads c (l.setTask i t) (l'.setTask i t') := by
  refine { h with tasks := fun j => ?_ }
  by_cases hij : i = j
  · subst hij
    rw [task?_setTask_self t hu, task?_setTask_self t' hu']
    exact .some ht
  · rw [task?_setTask_of_ne t hij, task?_setTask_of_ne t' hij]
    exact h.tasks j

lemma log (h : Restyled reads c l l') (i : Nat) {es es' : List Entry}
    (hes : List.Forall₂ Entry.Restyled es es') :
    Restyled reads c (l.log i es) (l'.log i es') := by
  refine { h with record := List.rel_append h.record ?_ }
  rw [List.forall₂_map_left_iff, List.forall₂_map_right_iff]
  exact hes.imp fun _ _ same => ⟨rfl, same⟩

lemma enlist (h : Restyled reads c l l') {t t' : Task} (ht : t.Restyled reads t') (i : Nat) :
    Restyled reads c (l.enlist i t.stage) (l'.enlist i t'.stage) := by
  obtain ⟨t, -, stages⟩ := ht
  cases stages with
  | waiting gate =>
    exact { h with waiters := congrArg (· ++ [i]) h.waiters }
  | idle | abandoned | ready | ended => exact h

lemma proceed (h : Restyled reads c l l') (i : Nat) :
    Restyled reads c (l.proceed i) (l'.proceed i) := by
  obtain ⟨ht, ht'⟩ | ⟨t, t', ht, ht', same⟩ := h.task_cases i
  · rw [proceed_none ht, proceed_none ht']
    exact h
  · have turned := same.turn i l.isOpen h.service
    have taken : Restyled reads c (l.taking i (t.turn i l.isOpen l.service))
        (l'.taking i (t'.turn i l.isOpen l'.service)) :=
      { (h.setTask ht ht' turned.task).log i turned.record with service := turned.service }
    rw [proceed_some ht, proceed_some ht', isOpen_congr h.released]
    exact taken.enlist turned.task i

lemma settle (h : Restyled reads c l l') (i : Nat) :
    Restyled reads c (l.settle i) (l'.settle i) := by
  unfold Loop.settle
  obtain ⟨ht, ht'⟩ | ⟨t, t', ht, ht', same⟩ := h.task_cases i
  · rw [ht, ht']
    exact h
  · rw [ht, ht']
    exact (h.setTask ht ht' same.settled.1).log i same.settled.2

lemma foldl {f : Loop → Nat → Loop}
    (hf : ∀ l l' i, Restyled reads c l l' → Restyled reads c (f l i) (f l' i)) (is : List Nat)
    (h : Restyled reads c l l') : Restyled reads c (is.foldl f l) (is.foldl f l') := by
  induction is generalizing l l' with
  | nil => exact h
  | cons i is ih => exact ih (hf l l' i h)

lemma run (h : Restyled reads c l l') : Restyled reads c l.run l'.run := by
  unfold Loop.run
  rw [h.queue]
  exact foldl (fun _ _ i same => same.settle i) _
    (foldl (fun _ _ i same => same.proceed i) _ { h with queue := rfl })

lemma execute (h : Restyled reads c l l') (i : Nat) (args : List Argument) :
    Restyled reads c (l.execute i args).1 (l'.execute i args).1 := by
  unfold Loop.execute
  obtain ⟨ht, ht'⟩ | ⟨t, t', ht, ht', same⟩ := h.task_cases i
  · rw [ht, ht']
    exact h
  · obtain ⟨record, failure, task⟩ := same.launch i args
    have refusal : t'.refusal? = t.refusal? := by
      obtain ⟨t, -, -⟩ := same
      rfl
    rw [ht, ht']
    dsimp only
    rw [refusal]
    cases t.refusal? with
    | some f => exact h
    | none =>
      dsimp only
      rw [← failure, ← record]
      have launched := (h.setTask ht ht' task).log i (Entry.forall₂_same (t.launch i args).record)
      cases (t.launch i args).failure with
      | some f => exact launched
      | none => exact { launched with queue := congrArg (· ++ [i]) launched.queue }

lemma release (h : Restyled reads c l l') (gate : String) :
    Restyled reads c (l.release gate) (l'.release gate) := by
  have waits : l'.waitsAt gate = l.waitsAt gate := by
    funext i
    rw [Loop.waitsAt, Loop.waitsAt]
    obtain ⟨ht, ht'⟩ | ⟨t, t', ht, ht', same⟩ := h.task_cases i
    · rw [ht, ht']
    · rw [ht, ht']
      obtain ⟨t, -, stages⟩ := same
      cases stages <;> rfl
  constructor
  case service => exact h.service
  case record => exact h.record
  case tasks =>
    intro i
    rw [task?_release, task?_release]
    obtain ⟨ht, ht'⟩ | ⟨t, t', ht, ht', same⟩ := h.task_cases i
    · rw [ht, ht']
      exact .none
    · rw [ht, ht']
      exact .some (same.freed gate)
  all_goals simp only [Loop.release, waits, h.queue, h.waiters, h.released, isOpen_congr h.released]

lemma cancel (h : Restyled reads c l l') (i : Nat) :
    Restyled reads c (l.cancel i).1 (l'.cancel i).1 := by
  unfold Loop.cancel
  obtain ⟨ht, ht'⟩ | ⟨t, t', ht, ht', same⟩ := h.task_cases i
  · rw [ht, ht']
    exact h
  · have stopped := h.setTask ht ht' same.stop
    rw [ht, ht']
    obtain ⟨t, -, stages⟩ := same
    cases stages with
    | ready => exact stopped
    | waiting =>
      exact { stopped with
        queue := congrArg (· ++ [i]) h.queue
        waiters := congrArg (List.filter (· ≠ i)) h.waiters }
    | idle | abandoned | ended => exact h

/-- **Every step keeps loops the same but for style.** -/
lemma step (h : Restyled reads c l l') (s : Step) : Restyled reads c (l.step s) (l'.step s) := by
  cases s with
  | execute i args => exact h.execute i args
  | run => exact h.run
  | release gate => exact h.release gate
  | cancel i => exact h.cancel i

lemma steps (h : Restyled reads c l l') (ss : List Step) :
    Restyled reads c (l.steps ss) (l'.steps ss) := by
  induction ss generalizing l l' with
  | nil => exact h
  | cons s ss ih => exact ih (h.step s)

end Restyled

/-- Whatever is done to them, loops on replies that differ in style stay the same but for that. -/
lemma after_restyled {tr tr' : Transport} (setups : List Setup)
    (given : Transport.Restyled (fun role => ∃ u ∈ setups, u.kind.Reads role) tr tr') (c : Client)
    (ss : List Step) :
    Restyled (fun role => ∃ u ∈ setups, u.kind.Reads role) c (after (.client c tr) setups ss)
      (after (.client c tr') setups ss) := by
  refine Restyled.steps ?_ ss
  refine ⟨.client given, fun i => ?_, rfl, rfl, rfl, .nil⟩
  have made (service : Service) :
      (new service (setups.map Task.ofSetup)).task? i = setups[i]?.map Task.ofSetup :=
    List.getElem?_map
  rw [made, made]
  cases hu : setups[i]? with
  | none => exact .none
  | some u =>
    exact .some (.mk (Task.ofSetup u) (fun _ h => ⟨u, List.mem_of_getElem? hu, h⟩) .idle)

/-! ### What is told of a task -/

/-- Two loops tell the same of the task of a number: its status, its calls, what it sent, its result
if it has one, and its outcome and its deeds, but that in a rejection a field may go by either of
its names. -/
structure TellSame (l l' : Loop) (i : Nat) : Prop where
  status : l.status i = l'.status i
  calls : Entry.asked (l.own i) = Entry.asked (l'.own i)
  requests : Event.requests (Entry.shown (l.own i)) = Event.requests (Entry.shown (l'.own i))
  result : ∀ r, l.outcome? i = some (.result r) ↔ l'.outcome? i = some (.result r)
  outcome : Option.Rel Outcome.Restyled (l.outcome? i) (l'.outcome? i)
  deeds : List.Forall₂ Entry.Restyled (l.own i) (l'.own i)

/-- What is picked from lists is the same if it is the same of each of their items. -/
lemma filterMap_related {α β : Type} {R : α → α → Prop} {f : α → Option β}
    (hf : ∀ a a', R a a' → f a = f a') {as as' : List α} (h : List.Forall₂ R as as') :
    as.filterMap f = as'.filterMap f := by
  induction h with
  | nil => rfl
  | cons same _ ih => rw [List.filterMap_cons, List.filterMap_cons, hf _ _ same, ih]

lemma asked_restyled {es es' : List Entry} (h : List.Forall₂ Entry.Restyled es es') :
    Entry.asked es = Entry.asked es' := by
  refine filterMap_related (fun e e' same => ?_) h
  have deeds := same.deed
  generalize e.deed = deed at deeds ⊢
  generalize e'.deed = deed' at deeds ⊢
  cases deeds <;> rfl

lemma requests_restyled {es es' : List Event} (h : List.Forall₂ Event.Restyled es es') :
    Event.requests es = Event.requests es' := by
  refine filterMap_related (fun e e' same => ?_) h
  cases same <;> rfl

lemma shown_restyled {es es' : List Entry} (h : List.Forall₂ Entry.Restyled es es') :
    List.Forall₂ Event.Restyled (Entry.shown es) (Entry.shown es') := by
  induction h with
  | nil => exact .nil
  | cons same _ ih =>
    rw [Entry.shown_cons, Entry.shown_cons]
    exact List.rel_append same.events ih

lemma own_restyled
    (h : List.Forall₂ (fun p p' => p.1 = p'.1 ∧ p.2.Restyled p'.2) l.record l'.record) (i : Nat) :
    List.Forall₂ Entry.Restyled (l.own i) (l'.own i) := by
  rw [own, own, List.forall₂_map_left_iff, List.forall₂_map_right_iff]
  have mine := List.rel_filter (R := fun p p' : Nat × Entry => p.1 = p'.1 ∧ p.2.Restyled p'.2)
    (p := (·.1 = i)) (q := (·.1 = i)) (fun p p' same => by simp only [same.1]) h
  exact mine.imp fun _ _ same => same.2

lemma Restyled.tellSame (h : Restyled reads c l l') (i : Nat) : TellSame l l' i := by
  have deeds := own_restyled h.record i
  have requests := requests_restyled (shown_restyled deeds)
  obtain ⟨ht, ht'⟩ | ⟨t, t', ht, ht', same⟩ := h.task_cases i
  · have ends : l.outcome? i = none ∧ l'.outcome? i = none := by
      rw [outcome?, outcome?, ht, ht']
      exact ⟨rfl, rfl⟩
    refine ⟨?_, asked_restyled deeds, requests, ?_, ?_, deeds⟩
    · rw [status, status, ht, ht']
    · rw [ends.1, ends.2]
      exact fun _ => .rfl
    · rw [ends.1, ends.2]
      exact .none
  · obtain ⟨t, -, stages⟩ := same
    have outcome : Option.Rel Outcome.Restyled (l.outcome? i) (l'.outcome? i) := by
      rw [outcome?_some ht, outcome?_some ht']
      cases stages with
      | idle | abandoned | ready | waiting => exact .none
      | ended ho => exact .some ho
    refine ⟨?_, asked_restyled deeds, requests, fun r => ?_, outcome, deeds⟩
    · rw [status_some ht, status_some ht']
      rfl
    · generalize l.outcome? i = o at outcome ⊢
      generalize l'.outcome? i = o' at outcome ⊢
      cases outcome with
      | none => exact .rfl
      | some ho =>
        cases ho with
        | same => exact .rfl
        | failure => constructor <;> intro h <;> cases h

/-- **Replies are read alike in every style.** What a value is accepted as or rejected for does not
depend on the order of members, on members that are no fields, or on which of its names a field goes
by. So a call shows the same and gets the same answer from successes whose bodies differ in style
only. Whatever is done to them, tasks that are given such replies make the same calls and come to
the same result. -/
theorem styles_read_alike :
    (∀ v w, Json.Restyled .author v w → (Author.ofJson v).Same (Author.ofJson w)) ∧
      (∀ v w, Json.Restyled .post v w → (Post.ofJson v).Same (Post.ofJson w)) ∧
      (∀ v w, Json.Restyled .page v w → (PostList.ofJson v).Same (PostList.ofJson w)) ∧
      (∀ (c : Client) (blog : Option String) (call : Call) (raw raw' : RawResponse) (v w : Json)
        (later : Transport), raw.Delivers v → raw'.Delivers w → Json.Restyled call.role v w →
        (c.answer (.response raw :: later) blog call).2.1 =
            (c.answer (.response raw' :: later) blog call).2.1 ∧
          Failure.Agree (c.answer (.response raw :: later) blog call).2.2
            (c.answer (.response raw' :: later) blog call).2.2) ∧
      ∀ (c : Client) (setups : List Setup) (ss : List Step) (tr tr' : Transport),
        List.Forall₂ (fun reply reply' =>
          ∀ u ∈ setups, ∀ role, u.kind.Reads role → reply.Restyled role reply') tr tr' →
        ∀ i, TellSame (after (.client c tr) setups ss) (after (.client c tr') setups ss) i := by
  refine ⟨fun v w h => ?_, fun v w h => ?_, fun v w h => ?_, ?_, ?_⟩
  · exact Checked.same_of_onWire (Json.indifferent_author.restyled h)
  · exact Checked.same_of_onWire (Json.indifferent_post.restyled h)
  · exact Checked.same_of_onWire (Json.indifferent_postList.restyled h)
  · intro c blog call raw raw' v w later hv hw restyled
    have given : List.Forall₂ (Reply.Restyled call.role) (.response raw :: later)
        (.response raw' :: later) :=
      .cons (.delivered hv hw restyled) (List.forall₂_same.mpr fun reply _ => .same reply)
    exact (Client.answer_restyled (fun _ _ h => h) given c blog).2
  · intro c setups ss tr tr' given i
    have given : Transport.Restyled (fun role => ∃ u ∈ setups, u.kind.Reads role) tr tr' :=
      given.imp fun _ _ h role ⟨u, hu, reads⟩ => h u hu role reads
    exact (after_restyled setups given c ss).tellSame i

/-! ### A page in two styles -/

def terseAuthor : Json := .object [("displayName", .string "Ada")]

/-- The same author with a picture. -/
def wordyAuthor : Json :=
  .object [("image", .object [("url", .string "//h/i")]), ("display_name", .string "Ada")]

def tersePost : Json := .object [("id", .string "a"), ("author", terseAuthor)]

def wordyPost : Json := .object [("author", wordyAuthor), ("id", .string "a")]

def tersePage : Json :=
  .object [("items", .array [tersePost]), ("nextPageToken", .string "more")]

def wordyPage : Json :=
  .object [("next_page_token", .string "more"), ("kind", .null), ("items", .array [wordyPost])]

def postOfAda : Post := { Post.empty with id := some "a", author := some ⟨none, some "Ada", none⟩ }

lemma author_restyled : Json.Restyled .author terseAuthor wordyAuthor :=
  .trans _ _ _
    (.rel _ _ (.rename [] [] ("displayName", "display_name") (.string "Ada") (by decide) (by decide)
      (by decide)))
    (.rel _ _ (.add [] [("display_name", .string "Ada")] "image" _ (by decide)))

lemma post_restyled : Json.Restyled .post tersePost wordyPost :=
  .trans _ _ _ (Json.Restyled.member [("id", .string "a")] [] author_restyled)
    (.rel _ _ (.reorder (by decide) (.swap _ _ _)))

lemma page_restyled : Json.Restyled .page tersePage wordyPage := by
  have items : Json.Restyled .page tersePage
      (.object [("items", .array [wordyPost]), ("nextPageToken", .string "more")]) :=
    Json.Restyled.member [] [("nextPageToken", .string "more")]
      (Json.Restyled.item [] [] post_restyled)
  have token := Json.Restyles.rename (r := .page) [("items", .array [wordyPost])] []
    ("nextPageToken", "next_page_token") (.string "more") (by decide) (by decide) (by decide)
  have kind := Json.Restyles.add (r := .page) [("items", .array [wordyPost])]
    [("next_page_token", .string "more")] "kind" .null (by decide)
  exact .trans _ _ _ items (.trans _ _ _ (.rel _ _ token) (.trans _ _ _ (.rel _ _ kind)
    (.rel _ _ (.reorder (by decide) (List.reverse_perm _).symm))))

def successWith (v : Json) : RawResponse := ⟨200, [], Text.encodeUtf8 v.print⟩

lemma tersePage_delivered : (successWith tersePage).Delivers tersePage :=
  ⟨_, _, rfl, Response.unpacked_plain rfl, rfl, by cbv⟩

lemma wordyPage_delivered : (successWith wordyPage).Delivers wordyPage :=
  ⟨_, _, rfl, Response.unpacked_plain rfl, rfl, by cbv⟩

/-- A task that is given a page and then an empty one. -/
def listingFrom (page : Json) : Loop :=
  after (.client (.unnamed "https://h")
      [.response (successWith page), .response (successWith (.object []))])
    [⟨.list 2, some "b", .none, .console⟩] [.execute 0 [], .run]

def postsOf : Outcome → Option (List Post)
  | .result (.posts ps) => some ps
  | _ => none

lemma of_postsOf {o : Option Outcome} {ps : List Post} (h : o.bind postsOf = some ps) :
    o = some (.result (.posts ps)) := by
  obtain ⟨o, rfl, found⟩ := Option.bind_eq_some_iff.mp h
  unfold postsOf at found
  split at found
  · cases found
    rfl
  · cases found

theorem wordy_page_read :
    Author.ofJson wordyAuthor = .valid ⟨none, some "Ada", none⟩ ∧
      Post.ofJson wordyPost = .valid postOfAda ∧
      PostList.ofJson wordyPage = .valid ⟨some [postOfAda], some "more"⟩ ∧
      ((Client.unnamed "https://h").answer [.response (successWith wordyPage)] (some "b")
        (.list none none none)).2.2.toOption = some ⟨some [postOfAda], some "more"⟩ ∧
      (listingFrom wordyPage).outcome? 0 = some (.result (.posts [postOfAda])) := by
  obtain ⟨author, post, page, calls, tasks⟩ := styles_read_alike
  refine ⟨?_, ?_, ?_, ?_, ?_⟩
  · exact ((author _ _ author_restyled).valid _).mp (by cbv)
  · exact ((post _ _ post_restyled).valid _).mp (by cbv)
  · exact ((page _ _ page_restyled).valid _).mp (by cbv)
  · rw [← (calls _ _ (.list none none none) _ _ _ _ [] tersePage_delivered wordyPage_delivered
      page_restyled).2.toOption]
    decide +kernel
  · have terse : (listingFrom tersePage).outcome? 0 = some (.result (.posts [postOfAda])) :=
      of_postsOf (by decide +kernel)
    refine ((tasks _ _ _ _ _ (.cons ?_ (.cons ?_ .nil)) 0).result _).mp terse
    · intro u hu role reads
      rw [List.mem_singleton] at hu
      subst hu
      cases reads
      exact .delivered tersePage_delivered wordyPage_delivered page_restyled
    · exact fun _ _ _ _ => .same _

end BlogConsole.Loop

import BlogConsole.Store
import Mathlib.Data.List.Nodup
import Mathlib.Tactic.Lemma

/-!
What a store keeps over a run of operations.

A store keeps two lists, in opposite orders: the posts that it serves, with the newest one first,
and the posts that it created since it was last told to forget them, with the oldest one first. Both
are told by the creations of the run, that is, by the insertions that were answered with a post.
-/

namespace BlogConsole.Store

/-- What can happen to a store: it is called, opened or closed, which changes nothing, told to
forget what it created, to fail, or to make pages of another size. The present and the number that
the next id is made of come from outside and may become anything. -/
inductive Operation
  | call (blog : Option String) (call : Call)
  | opened
  | closed
  | clearCreated
  | failWith (error : Option ApiError)
  | pageSize (n : Int)
  | outside (clock : Timestamp) (inserted : Nat)

/-- A post that was created, and the draft that it was created from. -/
structure Creation where
  draft : Post
  post : Post

def act (s : Store) : Operation → Store
  | .call blog c => (s.answer blog c).1
  | .opened => s
  | .closed => s
  | .clearCreated => s.clearCreated
  | .failWith e => { s with failWith := e }
  | .pageSize n => { s with pageSize := n }
  | .outside clock inserted => { s with clock := clock, inserted := inserted }

def run (s : Store) (ops : List Operation) : Store := ops.foldl act s

/-- The creation that an operation comes to: an insertion that is answered with a post. -/
def creation? (s : Store) : Operation → Option Creation
  | .call blog (.insert (.post draft)) =>
    match (s.answer blog (.insert (.post draft))).2.2 with
    | .ok post => some ⟨draft, post⟩
    | .error _ => none
  | _ => none

def creations (s : Store) : List Operation → List Creation
  | [] => []
  | op :: ops => (s.creation? op).toList ++ (s.act op).creations ops

def Creation.posts (cs : List Creation) : List Post := cs.map Creation.post

variable {s : Store} {blog : Option String} {call : Call} {op : Operation} {c : Creation}

/-! ### One operation -/

/-- An insertion fails and leaves the store as it is, or it puts a copy of its draft in front of the
posts and behind those created. -/
lemma insert_cases (s : Store) (blog : Option String) (draft : Argument) :
    (∃ f, s.insert blog draft = (s, [], .error f)) ∨
      ∃ p id events, draft = .post p ∧
        s.insert blog draft =
          ({ s with
              posts := { p with id := some id, published := some s.clock } :: s.posts
              created := s.created ++ [{ p with id := some id, published := some s.clock }]
              inserted := s.inserted + 1 },
            events, .ok { p with id := some id, published := some s.clock }) := by
  unfold insert
  split
  · exact .inl ⟨_, rfl⟩
  · exact .inl ⟨_, rfl⟩
  · exact .inr ⟨_, createdId (s.inserted + 1), _, rfl, rfl⟩

lemma answer_still
    (h : (∃ f, (s.answer blog call).2.2 = .error f) ∨ ∀ draft, call ≠ .insert draft) :
    (s.answer blog call).1 = s := by
  cases call with
  | insert draft =>
    obtain ⟨f, failed⟩ | other := h
    · obtain ⟨f', same⟩ | ⟨p, id, events, rfl, inserted⟩ := s.insert_cases blog draft
      · rw [answer, same]
      · rw [answer, inserted] at failed
        cases failed
    · exact absurd rfl (other draft)
  | get | list => rfl

lemma act_insert (s : Store) (blog : Option String) (draft : Argument) :
    (s.act (.call blog (.insert draft)) = s ∧ s.creation? (.call blog (.insert draft)) = none) ∨
      ∃ c id, s.creation? (.call blog (.insert draft)) = some c ∧
        c.post = { c.draft with id := some id, published := some s.clock } ∧
        s.act (.call blog (.insert draft)) =
          { s with
            posts := c.post :: s.posts
            created := s.created ++ [c.post]
            inserted := s.inserted + 1 } := by
  obtain ⟨f, failed⟩ | ⟨p, id, events, rfl, inserted⟩ := s.insert_cases blog draft
  · refine .inl ⟨?_, ?_⟩
    · rw [act, answer, failed]
    · cases draft with
      | value v => rfl
      | post p => rw [creation?, answer, failed]
  · refine .inr ⟨⟨p, { p with id := some id, published := some s.clock }⟩, id, ?_, rfl, ?_⟩
    · rw [creation?, answer, inserted]
    · rw [act, answer, inserted]

lemma act_posts (s : Store) (op : Operation) :
    (s.act op).posts = Creation.posts (s.creation? op).toList ++ s.posts := by
  cases op with
  | call blog call =>
    cases call with
    | insert draft =>
      obtain ⟨same, none⟩ | ⟨c, id, made, -, next⟩ := s.act_insert blog draft
      · rw [same, none]
        rfl
      · rw [next, made]
        rfl
    | get | list => rfl
  | opened | closed | clearCreated | failWith | pageSize | outside => rfl

/-- An operation puts its creation behind those created, unless it makes the store forget them. -/
lemma act_created (h : op ≠ .clearCreated) :
    (s.act op).created = s.created ++ Creation.posts (s.creation? op).toList := by
  cases op with
  | call blog call =>
    cases call with
    | insert draft =>
      obtain ⟨same, none⟩ | ⟨c, id, made, -, next⟩ := s.act_insert blog draft
      · rw [same, none]
        exact (List.append_nil _).symm
      · rw [next, made]
        rfl
    | get | list => exact (List.append_nil _).symm
  | clearCreated => exact absurd rfl h
  | opened | closed | failWith | pageSize | outside => exact (List.append_nil _).symm

lemma creation_copies (h : s.creation? op = some c) :
    ∃ id, c.post = { c.draft with id := some id, published := c.post.published } := by
  cases op with
  | call blog call =>
    cases call with
    | insert draft =>
      obtain ⟨-, none⟩ | ⟨c', id, made, copy, -⟩ := s.act_insert blog draft
      · cases none.symm.trans h
      · cases made.symm.trans h
        refine ⟨id, ?_⟩
        rw [copy]
    | get | list => cases h
  | opened | closed | clearCreated | failWith | pageSize | outside => cases h

/-! ### Runs -/

/-- A run puts its creations in front of the posts, the last one first. -/
lemma run_posts (s : Store) (ops : List Operation) :
    (s.run ops).posts = (Creation.posts (s.creations ops)).reverse ++ s.posts := by
  induction ops generalizing s with
  | nil => rfl
  | cons op ops ih =>
    have step := (ih (s.act op)).trans (congrArg _ (s.act_posts op))
    have single : (Creation.posts (s.creation? op).toList).reverse =
        Creation.posts (s.creation? op).toList := by
      cases s.creation? op <;> rfl
    rw [creations, Creation.posts, List.map_append, List.reverse_append, List.append_assoc]
    exact single.symm ▸ step

/-- A run in which nothing is forgotten puts its creations behind those created. -/
lemma run_created {ops : List Operation} (h : .clearCreated ∉ ops) :
    (s.run ops).created = s.created ++ Creation.posts (s.creations ops) := by
  induction ops generalizing s with
  | nil => exact (List.append_nil _).symm
  | cons op ops ih =>
    obtain ⟨other, rest⟩ := not_or.mp (mt List.mem_cons.mpr h)
    have step := ih (s := s.act op) rest
    rw [act_created (Ne.symm other), List.append_assoc] at step
    rw [creations, Creation.posts, List.map_append]
    exact step

lemma run_forgotten {before after : List Operation} (h : .clearCreated ∉ after) :
    (s.run (before ++ .clearCreated :: after)).created =
      Creation.posts ((s.run (before ++ [.clearCreated])).creations after) := by
  have forgotten : (s.run (before ++ [.clearCreated])).created = [] := by
    rw [run, List.foldl_append]
    rfl
  have whole : s.run (before ++ .clearCreated :: after) =
      (s.run (before ++ [.clearCreated])).run after := by
    rw [run, run, run, ← List.foldl_append, List.append_assoc]
    rfl
  rw [whole, run_created h, forgotten]
  rfl

lemma creations_copy {ops : List Operation} (h : c ∈ s.creations ops) :
    ∃ id, c.post = { c.draft with id := some id, published := c.post.published } := by
  induction ops generalizing s with
  | nil => cases h
  | cons op ops ih =>
    obtain here | later := List.mem_append.mp h
    · exact creation_copies (Option.mem_toList.mp here)
    · exact ih later

/-! ### Fetching what was created -/

/-- The first post with an id, among posts that have different ids, is the post with the id. -/
lemma find?_of_nodup {ps rest : List Post} (distinct : (ps.map Post.id).Nodup) {p : Post}
    (hp : p ∈ ps) {id : String} (hid : p.id = some id) :
    (ps ++ rest).find? (Argument.text id).isIdOf = some p := by
  induction ps with
  | nil => cases hp
  | cons q ps ih =>
    obtain ⟨fresh, distinct⟩ := List.nodup_cons.mp distinct
    obtain rfl | hp := List.mem_cons.mp hp
    · exact List.find?_cons_of_pos (by simpa [Argument.isIdOf, Argument.text] using hid)
    · have other : q.id ≠ some id := fun same =>
        fresh (same.trans hid.symm ▸ List.mem_map_of_mem hp)
      rw [List.cons_append, List.find?_cons_of_neg
        (by simpa [Argument.isIdOf, Argument.text] using other)]
      exact ih distinct hp

lemma project_all (p : Post) : p.project (fieldNames (Option.getD none "").toList) = p := rfl

lemma get_found (hf : s.failWith = none) {id : Argument} {p : Post}
    (h : s.posts.find? id.isIdOf = some p) : s.get id none = .ok p := by
  rw [get, hf]
  dsimp only
  rw [h]
  exact congrArg Except.ok (project_all p)

/-- **A store keeps its history.** A store starts with some posts, and any operations follow. Then
it serves the posts that were created, the newest one first, and behind them the posts it started
with. It remembers the posts that were created since it was last told to forget them, the oldest one
first. Every created post is its draft but for the id and the date. A call that fails, and a call
that stores nothing, leaves the store as it is. And if the ids that were given are different from
each other, each created post is fetched by its id as long as the store does not fail, whatever
posts it started with and whatever it was told to forget. -/
theorem keeps_history (posts : List Post) (pageSize : Int) (failWith : Option ApiError)
    (clock : Timestamp) (ops : List Operation) :
    let start := ofPosts posts pageSize failWith clock
    let now := start.run ops
    let made := start.creations ops
    now.posts = (Creation.posts made).reverse ++ posts ∧
      (.clearCreated ∉ ops → now.created = Creation.posts made) ∧
      (∀ before after, ops = before ++ .clearCreated :: after → .clearCreated ∉ after →
        now.created = Creation.posts ((start.run (before ++ [.clearCreated])).creations after)) ∧
      (∀ c ∈ made, c.post = { c.draft with id := c.post.id, published := c.post.published }) ∧
      (∀ blog call,
        (∃ f, (now.answer blog call).2.2 = .error f) ∨ (∀ draft, call ≠ .insert draft) →
          (now.answer blog call).1 = now) ∧
      (((Creation.posts made).map Post.id).Nodup → now.failWith = none →
        ∀ c ∈ made, ∃ id, c.post.id = some id ∧
          ∀ blog, (now.answer blog (.get (.text id) none)).2.2 = .ok c.post) := by
  intro start now made
  refine ⟨run_posts _ _, run_created, ?_, ?_, fun _ _ => answer_still, ?_⟩
  · rintro before after rfl
    exact run_forgotten
  · intro c hc
    obtain ⟨id, copy⟩ := creations_copy hc
    rw [copy]
  · intro distinct sound c hc
    obtain ⟨id, copy⟩ := creations_copy hc
    have named : c.post.id = some id := by rw [copy]
    refine ⟨id, named, fun blog => get_found sound ?_⟩
    rw [run_posts]
    refine find?_of_nodup ?_ (List.mem_reverse.mpr (List.mem_map_of_mem hc)) named
    rw [List.map_reverse, List.nodup_reverse]
    exact distinct

def spring : Timestamp := ⟨⟨2001, 4, 30, by decide, by decide, by decide⟩, .midnight, none⟩

/-- A post with the id that the first created post is given. -/
def namesake : Post := { Post.empty with id := some (createdId 1) }

/-- Two posts are created, and the first one is forgotten in between. -/
def forgetful : List Operation :=
  [.call none (.insert (.post .empty)), .clearCreated,
    .call none (.insert (.post { Post.empty with title := some "Second" }))]

/-- The first post is fetched although it was forgotten and has a namesake. -/
theorem forgotten_post_fetched :
    (((ofPosts [namesake] 10 none spring).run forgetful).answer none
      (.get (.text (createdId 1)) none)).2.2 =
        .ok { namesake with published := some spring } := by
  obtain ⟨-, -, -, -, -, fetched⟩ := keeps_history [namesake] 10 none spring forgetful
  obtain ⟨id, named, found⟩ := fetched (by decide +kernel) rfl
    ⟨.empty, { namesake with published := some spring }⟩ (List.mem_cons_self ..)
  cases named
  exact found none

end BlogConsole.Store

import BlogConsole.Proofs.Listing.Accumulation
import BlogConsole.Proofs.Listing.Paging
import BlogConsole.Proofs.Loop.Serializability

/-!
A listing of a store gives its first posts.

The answers to a listing on a store are its pages, one after the other, for every page names the
next one by a token that is read back. So the listing ends when it has loaded as many pages as it
may, or all there are.
-/

namespace BlogConsole

open Entry Work Store Text

/-- A post with its id and its title only. -/
def Post.summary (p : Post) : Post := { Post.empty with id := p.id, title := p.title }

/-- The first posts of a store in their order, of each of them the id and the title only. -/
def Store.summaries (s : Store) (count : Nat) : List Post := (s.posts.take count).map Post.summary

namespace Listing

variable {s : Store} {size : Nat}

lemma project_listFields (p : Post) : p.project (selected (some listFields)) = p.summary := by
  have names : selected (some listFields) = ["id".toList, "title".toList] := by decide +kernel
  rw [names]
  rfl

def pages (s : Store) (size : Nat) : Answers := fun n => .ok (s.pageAt (some listFields) size n)

def loads (s : Store) (size : Nat) (maxPages : Int) : Nat :=
  min (max 1 maxPages).toNat (pageCount s.posts.length size)

/-! ### The answers -/

/-- The page behind which no post is left ends a listing, and so does every page after it. -/
lemma ends_pages (hpos : 0 < size) (n : Nat) :
    Ends (pages s size n) ↔ pageCount s.posts.length size ≤ n + 1 := by
  rw [← not_lt, lt_pageCount hpos]
  constructor
  · rintro (empty | unnamed) more
    · obtain ⟨items, hitems, length⟩ :=
        (pageAt_full hpos more :
          ∃ items, (s.pageAt (some listFields) size n).items = some items ∧ _)
      rw [hitems, Option.getD_some] at empty
      rw [empty] at length
      exact hpos.ne length
    · rw [pageAt, if_pos more] at unnamed
      exact pageToken_ne_empty _ unnamed
  · intro all
    refine .inr ?_
    rw [pageAt, if_neg all]
    rfl

lemma pageOf?_next (hpos : 0 < size) {n : Nat}
    (more : n + 1 < pageCount s.posts.length size) (few : n + 1 < 10 ^ maxIntegerDigits) :
    pageOf? (s.pageAt (some listFields) size n).nextPageToken = some ((n + 1 : Nat) : Int) := by
  rw [pageAt, if_pos ((lt_pageCount hpos).mp more), pageOf?_pageToken, Int.natAbs_natCast,
    if_pos few]

variable {u : Setup} {i : Nat} {w : Work} {es : List Entry} {left before : Nat}
  {token : Option String} {gathered : List Post} {page : PostList}

/-- After a page a listing ends, or it asks for the page that the token names. -/
lemma trace_goOn (h : Trace u i (goOn left before gathered (.ok page)) es w) :
    answered es = [] ∨
      ∃ e es', es = e :: es' ∧ answered es = answered es' ∧ left ≠ 0 ∧
        page.nextPageToken.getD "" ≠ "" ∧
        Trace u i (gather (left - 1) (before + 1) page.nextPageToken
          (gathered ++ posts (.ok page))) es' w := by
  have ended {r : Result} {es : List Entry} (h : Trace u i (.done r) es w) : es = [] := by
    cases h
    rfl
  unfold goOn at h
  dsimp only at h
  split at h
  · rw [ended h]
    exact .inl rfl
  · cases h with
    | stop => exact .inl rfl
    | @note _ _ _ es' h =>
      split at h
      · rw [ended h]
        exact .inl rfl
      · next more =>
        rw [not_or] at more
        exact .inr ⟨_, es', rfl, rfl, more.1, more.2, h⟩

lemma follows_pages (hf : s.failWith = none) (hs : s.pageSize = size) (hpos : 0 < size)
    (few : min (before + left + 1) (pageCount s.posts.length size) ≤ 10 ^ maxIntegerDigits)
    (ht : pageOf? token = some (before : Int))
    (h : Trace u i (gather left before token gathered) es w) (reads : ∀ e ∈ es, e.ReadsFrom s) :
    Follows (fun j => pages s size (before + j)) (answered es) := by
  induction left using Nat.strong_induction_on generalizing before token gathered es with
  | _ left ih =>
    rw [gather_eq] at h
    cases h with
    | stop => exact fun j answer h => by cases h
    | @ask _ _ reply events _ es _ h =>
      obtain ⟨read, reads⟩ := List.forall_mem_cons.mp reads
      have page : reply = pages s size before := (read _ _ _ rfl).trans (list_page hf hs ht)
      rw [page] at h
      rintro (_ | j) answer ha
      · exact page.symm.trans (Option.some.inj ha)
      · obtain none | ⟨e, es', rfl, same, hleft, named, h⟩ := trace_goOn h
        · have given : (answered es)[j]? = some answer := ha
          rw [none] at given
          cases given
        · have more : before + 1 < pageCount s.posts.length size := by
            by_contra all
            refine named ?_
            rw [pageAt, if_neg (mt (lt_pageCount hpos).mpr all)]
            rfl
          have next := pageOf?_next hpos more (by omega)
          have later := ih (left - 1) (by omega) (by omega) next h
            (List.forall_mem_cons.mp reads).2 j answer (same ▸ ha)
          exact (congrArg (pages s size) (by omega)).trans later

/-! ### The last page -/

/-- A listing of a store ends when it has loaded all pages, or as many as it may. -/
lemma loads_of_least (hpos : 0 < size) {maxPages : Int} {n : Nat}
    (h : IsLeast {n | Last maxPages (pages s size) n} n) : n + 1 = loads s size maxPages := by
  have counted : 0 < pageCount s.posts.length size := lt_of_lt_of_le one_pos (le_max_left _ _)
  have last (j : Nat) : Last maxPages (pages s size) j ↔ loads s size maxPages ≤ j + 1 := by
    rw [Last, ends_pages hpos, loads, min_le_iff, or_comm]
    omega
  have enough := (last n).mp h.1
  have first : loads s size maxPages - 1 ∈ {n | Last maxPages (pages s size) n} :=
    (last _).mpr (by omega)
  have := h.2 first
  have : 0 < loads s size maxPages := lt_min (by omega) counted
  omega

lemma gathered_pages (hpos : 0 < size) (maxPages : Int) :
    Listing.gathered (pages s size) (loads s size maxPages) =
      s.summaries (min s.posts.length ((max 1 maxPages).toNat * size)) := by
  have first := items_of_first s (some listFields) size (loads s size maxPages)
  rw [List.flatMap_map] at first
  have projected : (Post.project (selected (some listFields))) = Post.summary :=
    funext project_listFields
  have sizes : s.posts.take (loads s size maxPages * size) =
      s.posts.take (min s.posts.length ((max 1 maxPages).toNat * size)) := by
    rw [List.take_eq_take_iff, loads]
    rcases Nat.le_total (max 1 maxPages).toNat (pageCount s.posts.length size) with h | h
    · rw [Nat.min_eq_left h]
      omega
    · have all : s.posts.length ≤ pageCount s.posts.length size * size := by
        obtain ⟨k, hk⟩ := Nat.exists_eq_add_one.mpr
          (lt_of_lt_of_le one_pos (le_max_left _ _) : 0 < pageCount s.posts.length size)
        rw [hk]
        exact not_lt.mp fun h => by have := (lt_pageCount hpos).mpr h; omega
      have more := Nat.mul_le_mul_right size h
      rw [Nat.min_eq_right h]
      omega
  rw [summaries, ← sizes, ← projected]
  exact first

/-- The calls of a listing of a store: the first one without a token, and then one with the token of
each further page. -/
lemma calls_pages (hpos : 0 < size) (blog : Option String) {maxPages : Int} {n : Nat}
    (h : n + 1 = loads s size maxPages) :
    calls (pages s size) n blog none =
      (List.range (loads s size maxPages)).map fun (j : Nat) =>
        (blog, call (if j = 0 then none else some (pageToken j))) := by
  rw [calls, h]
  refine List.map_congr_left fun j hj => ?_
  cases j with
  | zero => rfl
  | succ j =>
    have more : j + 1 < pageCount s.posts.length size :=
      lt_of_lt_of_le (List.mem_range.mp hj) (min_le_right _ _)
    have named : (s.pageAt (some listFields) size j).nextPageToken =
        some (pageToken (j + 1 : Nat)) := if_pos ((lt_pageCount hpos).mp more)
    exact congrArg (fun token => (blog, call token)) named

end Listing

lemma Task.Life.follows_pages {s : Store} {size : Nat} {t : Task} {i : Nat} {own : List Entry}
    {m : Int} (h : Life t i [] own) (hk : t.kind = .list m) (hf : s.failWith = none)
    (hs : s.pageSize = size) (hpos : 0 < size)
    (few : Listing.loads s size m ≤ 10 ^ maxIntegerDigits)
    (reads : ∀ e ∈ own, e.ReadsFrom s) :
    Listing.Follows (Listing.pages s size) (answered own) := by
  have work : t.workOf [] = gather (m - 1).toNat 0 none [] := by
    rw [workOf, hk]
    rfl
  have enough : min (0 + (m - 1).toNat + 1) (pageCount s.posts.length size) ≤
      10 ^ maxIntegerDigits := by
    have same : 0 + (m - 1).toNat + 1 = (max 1 m).toNat := by omega
    rwa [same]
  have follows {mid : List Entry} {w : Work} (hmid : Trace t.toSetup i (t.workOf []) mid w)
      {closing : List Entry} (hc : ∀ e ∈ closing, e.ofListing = false)
      (hown : own = t.opening i ++ mid ++ closing) :
      Listing.Follows (Listing.pages s size) (answered own) := by
    rw [hown] at reads ⊢
    rw [(told_between mid opening_untold hc).2.1]
    rw [work] at hmid
    have paged := Listing.follows_pages hf hs hpos enough rfl hmid fun e he =>
      reads e (List.mem_append_left _ (List.mem_append_right _ he))
    simpa only [Nat.zero_add] using paged
  cases h with
  | idle => exact fun j answer h => by cases h
  | abandoned => exact follows (.stop _) (List.forall_mem_nil _) (by simp)
  | ready _ _ _ hmid => exact follows hmid (List.forall_mem_nil _) (by simp)
  | waiting _ _ _ hmid => exact follows hmid (List.forall_mem_nil _) (by simp)
  | ended _ _ _ hmid hc => exact follows hmid hc.untold rfl

namespace Loop

variable {s : Store} {setups : List Setup} {i : Nat} {u : Setup}

lemma run_reads {m : Int} (hu : setups[i]? = some u) (hk : u.kind = .list m)
    (hstart : u.callbacks.onStart.failure = none) :
    ∀ e ∈ (after (.store s) setups [.execute i [], .run]).own i, e.ReadsFrom s := by
  have first : i ∉ ([] : List Execution).map Prod.fst := List.not_mem_nil
  obtain ⟨s', hs, reads⟩ := serial_reads s setups (p := (i, [])) [] hu hk hstart first
  cases hs
  exact reads

/-- **A listing of a store gives its first posts.** A listing that is executed and runs on a store
loads as many pages as it may, which is at least one, or all there are, if these are fewer. It asks
for the first page without a token, and then for each further page by its number; page numbers have
to be short enough to be read back. Others see all it does. It completes with the posts of these
pages in their order, of each of them the id and the title only. -/
theorem loads_first_posts (s : Store) (setups : List Setup) {i : Nat} {u : Setup} {m : Int}
    {size : Nat} (hu : setups[i]? = some u) (hk : u.kind = .list m)
    (hstart : u.callbacks.onStart.failure = none) (hf : s.failWith = none) (hs : s.pageSize = size)
    (hpos : 0 < size)
    (few : min (max 1 m).toNat (max 1 (s.posts.length ⌈/⌉ size)) ≤ 10 ^ maxIntegerDigits) :
    asked ((after (.store s) setups [.execute i [], .run]).own i) =
        (List.range (min (max 1 m).toNat (max 1 (s.posts.length ⌈/⌉ size)))).map (fun (j : Nat) =>
          (u.blog, Listing.call (if j = 0 then none else some (pageToken j)))) ∧
      (∀ e ∈ (after (.store s) setups [.execute i [], .run]).own i,
        e.Evident (.store s) u i) ∧
      completions ((after (.store s) setups [.execute i [], .run]).own i) =
        [.posts (s.summaries (min s.posts.length ((max 1 m).toNat * size)))] ∧
      ((u.callbacks.onComplete
          (.posts (s.summaries (min s.posts.length ((max 1 m).toNat * size))))).failure = none →
        (after (.store s) setups [.execute i [], .run]).outcome? i =
          some (.result (.posts (s.summaries (min s.posts.length ((max 1 m).toNat * size)))))) ∧
      (after (.store s) setups [.execute i [], .run]).status i = .finished := by
  obtain ⟨hi, rfl⟩ := List.getElem?_eq_some_iff.mp hu
  have idle : (new (.store s) (setups.map Task.ofSetup)).task? i = some (.ofSetup setups[i]) := by
    rw [task?_new, hu, Option.map_some]
  have started : ((after (.store s) setups []).execute i []).2 = .ok () := by
    rw [after, steps, List.foldl_nil, execute_starts idle [] rfl hstart]
  -- the listing has ended, and nobody stopped it
  have accepted : Accepted (.store s) setups [.execute i []] i [] := ⟨[], [], rfl, started⟩
  obtain ⟨⟨o, ho⟩, finished⟩ := (accepted.run_rests hi).2 fun _ h => h.elim
  have uncancelled : o ≠ .cancelled := by
    rintro rfl
    have uncalled : Step.cancel i ∉ [.execute i []] ++ [.run] := by simp
    exact after_uncancelled uncalled ho
  have accepted' : Accepted (.store s) setups [.execute i [], .run] i [] :=
    ⟨[], [.run], rfl, started⟩
  obtain ⟨t, ht, setup, underway, life⟩ := accepted'.underway hi
  have kind : t.kind = .list m := by rw [← hk, ← setup]
  have follows := life.follows_pages kind hf hs hpos few (run_reads hu hk hstart)
  obtain ⟨n, least, listed⟩ := life.listed kind underway follows
  have loaded := Listing.loads_of_least hpos least
  have all : Listing.result (Listing.pages s size) n [] =
      .ok (s.summaries (min s.posts.length ((max 1 m).toNat * size))) := by
    rw [← Listing.gathered_pages hpos m, ← loaded]
    rfl
  rw [← outcome?_some ht, setup] at listed
  obtain ⟨completed, outcome⟩ := listed.result o _ ho uncancelled all
  refine ⟨?_, own_evident _ _ hi, completed, fun hc => ho.trans (congrArg some (outcome hc)),
    finished⟩
  exact ((listed.all o ho uncancelled).1).trans (Listing.calls_pages hpos _ loaded)

/-- Three posts with contents, on pages of two. -/
def shelf : Store :=
  let post (id : String) : Post := { Post.empty with id := some id, content := some "text" }
  { Store.threePosts with posts := [post "1", post "2", post "3"] }

/-- A listing that may load no page loads one all the same. -/
theorem shelf_loads :
    asked ((after (.store shelf) [⟨.list 0, some "b", .none, .console⟩]
        [.execute 0 [], .run]).own 0) = [(some "b", Listing.call none)] ∧
      (after (.store shelf) [⟨.list 0, some "b", .none, .console⟩]
        [.execute 0 [], .run]).outcome? 0 =
        some (.result (.posts [{ Post.empty with id := some "1" },
          { Post.empty with id := some "2" }])) := by
  have few : min (max 1 (0 : Int)).toNat (max 1 (shelf.posts.length ⌈/⌉ 2)) ≤
      10 ^ maxIntegerDigits := (min_le_left _ _).trans (Nat.one_le_pow _ _ (by decide))
  obtain ⟨calls, -, -, outcome, -⟩ := loads_first_posts shelf [⟨.list 0, some "b", .none, .console⟩]
    (i := 0) (m := 0) rfl rfl rfl rfl rfl two_pos few
  exact ⟨calls, outcome rfl⟩

end Loop

end BlogConsole

import BlogConsole.Proofs.Text.Integer
import BlogConsole.Store
import Mathlib

/-!
Paging through the posts of a store.

A page is named by its number, which its token spells. `pageAt` is the page of a number as a piece
of the posts; a caller who passes on the token of every page gets these pages one after the other,
up to the first one behind which no post is left.
-/

namespace BlogConsole.Store

open Text

variable {s : Store} {blog fields token : Option String} {maxResults : Option Int} {size page : Nat}

/-! ### Tokens -/

lemma toList_pageToken (page : Int) :
    (pageToken page).toList = tokenWord ++ (toString page).toList := String.toList_append

lemma pageToken_ne_empty (page : Int) : pageToken page ≠ "" := by
  intro h
  have spelled := toList_pageToken page
  rw [h] at spelled
  cases spelled

/-- A page number is read back from its token, unless it has too many digits. -/
theorem pageOf?_pageToken (page : Int) :
    pageOf? (some (pageToken page)) =
      if page.natAbs < 10 ^ maxIntegerDigits then some page else none := by
  rw [pageOf?]
  dsimp only
  rw [if_neg (pageToken_ne_empty page), toList_pageToken,
    if_pos (List.isPrefixOf_iff_prefix.mpr (List.prefix_append _ _)), List.drop_left,
    readInteger_toString]

/-! ### Pages -/

/-- The names of the fields of posts that a selection for a listing keeps. -/
def selected (fields : Option String) : List (List Char) :=
  (itemFieldNames (fields.getD "").toList).getD []

/-- The page of a number: its posts with the selected fields, and the token of the next page if
there are posts behind it. -/
def pageAt (s : Store) (fields : Option String) (size page : Nat) : PostList :=
  let items := ((s.posts.drop (page * size)).take size).map (·.project (selected fields))
  ⟨if items.isEmpty then none else some items,
    if (page + 1) * size < s.posts.length then some (pageToken (page + 1 : Nat)) else none⟩

/-- A slice between two positions that count from the start. -/
lemma slice_natCast {α : Type} (xs : List α) (start count : Nat) :
    slice xs start (start + count : Nat) = (xs.drop start).take count := by
  have counted (n : Nat) : position xs.length n = min n xs.length := by
    rw [position, if_neg (by omega), Int.toNat_natCast]
  unfold slice
  dsimp only
  rw [counted, counted, List.drop_take]
  rcases Nat.le_total start xs.length with h | h
  · rw [Nat.min_eq_left h, List.take_eq_take_iff, List.length_drop]
    omega
  · rw [Nat.min_eq_right h, List.drop_of_length_le h, List.drop_length, List.take_nil,
      List.take_nil]

lemma list_page (hf : s.failWith = none) (hs : s.effectiveSize maxResults = size)
    (ht : pageOf? token = some (page : Int)) :
    (s.list fields token maxResults).2 = .ok (s.pageAt fields size page) := by
  have start : (page : Int) * size = (page * size : Nat) := by push_cast; rfl
  have stop : ((page * size : Nat) : Int) + size = (page * size + size : Nat) := by push_cast; rfl
  have behind : ((page * size + size : Nat) : Int) < s.posts.length ↔
      (page + 1) * size < s.posts.length := by
    rw [Int.ofNat_lt, Nat.succ_mul]
  unfold list
  rw [hf, ht, hs]
  dsimp only
  rw [start, stop, slice_natCast, pageAt, selected]
  simp only [decide_eq_true_eq, behind]
  rfl

/-! ### Walks -/

/-- The pages that a caller gets who begins with a token and passes on the token of every page, up
to a page without one. -/
inductive Walk (blog fields : Option String) (maxResults : Option Int) :
    Store → Option String → List PostList → Prop
  | last {s : Store} {token : Option String} {page : PostList} :
      (s.answer blog (.list fields token maxResults)).2.2 = .ok page →
      page.nextPageToken = none → Walk blog fields maxResults s token [page]
  | next {s : Store} {token : Option String} {page : PostList} {token' : String}
      {pages : List PostList} :
      (s.answer blog (.list fields token maxResults)).2.2 = .ok page →
      page.nextPageToken = some token' →
      Walk blog fields maxResults (s.answer blog (.list fields token maxResults)).1 (some token')
        pages →
      Walk blog fields maxResults s token (page :: pages)

/-- The number of pages. There is one page at least. -/
def pageCount (posts size : Nat) : Nat := max 1 (posts ⌈/⌉ size)

lemma lt_pageCount {posts : Nat} (hs : 0 < size) :
    page + 1 < pageCount posts size ↔ (page + 1) * size < posts := by
  have behind : page + 1 < posts ⌈/⌉ size ↔ (page + 1) * size < posts := by
    rw [← not_le, ceilDiv_le_iff_le_mul hs, not_le, Nat.mul_comm]
  rw [pageCount, lt_max_iff, behind]
  omega

/-- A walk that begins with the token of a page goes through the pages from this one on. `left` is
the number of pages behind it. -/
lemma walk_iff (hf : s.failWith = none) (hs : s.effectiveSize maxResults = size) (hpos : 0 < size)
    (few : pageCount s.posts.length size ≤ 10 ^ maxIntegerDigits) (left : Nat)
    (hleft : page + left + 1 = pageCount s.posts.length size)
    (ht : pageOf? token = some (page : Int)) (pages : List PostList) :
    Walk blog fields maxResults s token pages ↔
      pages = (List.range' page (left + 1)).map (s.pageAt fields size) := by
  have answer {token : Option String} {page : Nat} (ht : pageOf? token = some (page : Int)) :
      (s.answer blog (.list fields token maxResults)).2.2 = .ok (s.pageAt fields size page) :=
    list_page hf hs ht
  induction left generalizing page token pages with
  | zero =>
    have alone : (s.pageAt fields size page).nextPageToken = none :=
      if_neg fun h => by have := (lt_pageCount hpos).mpr h; omega
    constructor
    · intro walk
      cases walk with
      | last h =>
        cases (answer ht).symm.trans h
        rfl
      | next h hnext =>
        cases (answer ht).symm.trans h
        cases alone.symm.trans hnext
    · rintro rfl
      exact .last (answer ht) alone
  | succ left ih =>
    have more : page + 1 < pageCount s.posts.length size := by omega
    have next : (s.pageAt fields size page).nextPageToken = some (pageToken (page + 1 : Nat)) :=
      if_pos ((lt_pageCount hpos).mp more)
    -- the token of the next page is read back, for its number is below that of the pages
    have read : pageOf? (some (pageToken (page + 1 : Nat))) = some ((page + 1 : Nat) : Int) := by
      rw [pageOf?_pageToken, Int.natAbs_natCast, if_pos (lt_of_lt_of_le more few)]
    have rest := ih (by omega) read
    constructor
    · intro walk
      cases walk with
      | last h hlast =>
        cases (answer ht).symm.trans h
        cases next.symm.trans hlast
      | next h hnext walk =>
        cases (answer ht).symm.trans h
        cases next.symm.trans hnext
        rw [(rest _).mp walk]
        rfl
    · rintro rfl
      exact .next (answer ht) next ((rest _).mpr rfl)

/-! ### Completeness -/

def itemsOf (page : PostList) : List Post := page.items.getD []

lemma itemsOf_pageAt (s : Store) (fields : Option String) (size page : Nat) :
    itemsOf (s.pageAt fields size page) =
      ((s.posts.drop (page * size)).take size).map (·.project (selected fields)) := by
  unfold itemsOf pageAt
  dsimp only
  split
  · next h => rw [List.isEmpty_iff.mp h]; rfl
  · rfl

lemma items_of_first (s : Store) (fields : Option String) (size count : Nat) :
    ((List.range count).map (s.pageAt fields size)).flatMap itemsOf =
      (s.posts.take (count * size)).map (·.project (selected fields)) := by
  induction count with
  | zero => simp
  | succ count ih =>
    rw [List.range_succ, List.map_append, List.flatMap_append, ih, List.map_singleton,
      List.flatMap_singleton, itemsOf_pageAt, ← List.map_append, Nat.succ_mul, List.take_add]

lemma pageAt_full (hpos : 0 < size) (h : (page + 1) * size < s.posts.length) :
    ∃ items, (s.pageAt fields size page).items = some items ∧ items.length = size := by
  rw [Nat.succ_mul] at h
  have length : (((s.posts.drop (page * size)).take size).map
      (·.project (selected fields))).length = size := by
    rw [List.length_map, List.length_take, List.length_drop]
    omega
  refine ⟨_, if_neg fun empty => ?_, length⟩
  rw [List.isEmpty_iff.mp empty, List.length_nil] at length
  omega

/-- **Paging loses and repeats nothing.** A caller who begins without a token and passes on the
token of every page comes to the end, and on one way only. The number of pages is that of the posts
divided by the size of a page, rounded up, and at least one. All pages but the last are full, a blog
without posts gives one page without items, and the items of all pages, put end to end, are the
posts in their order, with the selected fields. -/
theorem walk_complete (s : Store) (blog fields : Option String) (maxResults : Option Int)
    {size : Nat} (hf : s.failWith = none) (hs : s.effectiveSize maxResults = size) (hpos : 0 < size)
    (few : pageCount s.posts.length size ≤ 10 ^ maxIntegerDigits) :
    ∃ pages, (∀ pages', Walk blog fields maxResults s none pages' ↔ pages' = pages) ∧
      pages.length = max 1 (s.posts.length ⌈/⌉ size) ∧
      (∀ page ∈ pages.dropLast, ∃ items, page.items = some items ∧ items.length = size) ∧
      (s.posts = [] → pages = [⟨none, none⟩]) ∧
      pages.flatMap itemsOf = s.posts.map (·.project (selected fields)) := by
  have counted : 0 < pageCount s.posts.length size := lt_of_lt_of_le one_pos (le_max_left _ _)
  obtain ⟨left, hleft⟩ := Nat.exists_eq_add_one.mpr counted
  refine ⟨(List.range (left + 1)).map (s.pageAt fields size), fun pages => ?_, ?_, ?_, ?_, ?_⟩
  · rw [List.range_eq_range']
    exact walk_iff hf hs hpos few left (by omega) rfl pages
  · rw [List.length_map, List.length_range, ← hleft, pageCount]
  · rw [List.range_succ, List.map_append, List.map_singleton, List.dropLast_concat]
    intro page hp
    obtain ⟨n, hn, rfl⟩ := List.mem_map.mp hp
    have more : n + 1 < pageCount s.posts.length size := by
      have := List.mem_range.mp hn
      omega
    exact pageAt_full hpos ((lt_pageCount hpos).mp more)
  · intro empty
    have one : left = 0 := by
      rw [empty, List.length_nil, pageCount, zero_ceilDiv] at hleft
      exact (Nat.succ.inj hleft).symm
    have bare : s.pageAt fields size 0 = ⟨none, none⟩ := by
      rw [pageAt, empty]
      simp
    rw [one]
    exact congrArg (fun page => [page]) bare
  · have covered : s.posts.length ≤ (left + 1) * size :=
      not_lt.mp fun h => by have := (lt_pageCount hpos).mpr h; omega
    rw [items_of_first, List.take_of_length_le covered]

/-- Three posts on pages of two. -/
def threePosts : Store :=
  .ofPosts [.empty, { Post.empty with id := some "a" }, .empty] 2 none
    ⟨⟨1970, 1, 1, by decide, by decide, by decide⟩, .midnight, none⟩

theorem threePosts_walk :
    ∃ pages, Walk none (some "items(id)") (some 0) threePosts none pages ∧ pages.length = 2 ∧
      pages.flatMap itemsOf = [.empty, { Post.empty with id := some "a" }, .empty] := by
  have few : pageCount threePosts.posts.length 2 ≤ 10 ^ maxIntegerDigits :=
    (by decide : pageCount threePosts.posts.length 2 ≤ 10).trans (Nat.le_self_pow (by decide) 10)
  obtain ⟨pages, walk, length, -, -, items⟩ :=
    walk_complete threePosts none (some "items(id)") (some 0) rfl rfl two_pos few
  refine ⟨pages, (walk pages).mpr rfl, length, items.trans ?_⟩
  cbv

end BlogConsole.Store

import BlogConsole.Proofs.Listing.Paging

/-!
The pages that arbitrary tokens lead to.

A token spells a whole number or nothing at all. The numbers from zero on are those of pages. A
negative number is the number of no page, and yet it is not refused: it counts from the end of the
posts, and what is served for it begins and ends where no page does, unless the last page is full.
-/

namespace BlogConsole.Store

open Text

variable {s : Store} {fields token : Option String} {maxResults : Option Int} {size : Nat}

lemma pageToken_injective : Function.Injective pageToken := by
  intro a b same
  have spelled := congrArg String.toList same
  rw [toList_pageToken, toList_pageToken, List.append_right_inj] at spelled
  exact toString_injective (String.toList_inj.mp spelled)

/-! ### Negative numbers -/

lemma position_neg (length : Nat) {n : Nat} (h : 0 < n) :
    position length (-(n : Int)) = length - n := by
  rw [position, if_pos (by omega)]
  omega

/-- What is served for the negative number `-(back + 1)`: the posts up to `back` pages before the
end, as many as fill a page if there are so many, and the token of the next number. There are none
for `-1`: its page would end at the place zero, which counts from the start. -/
def pageFromEnd (s : Store) (fields : Option String) (size back : Nat) : PostList :=
  let stop := if back = 0 then 0 else s.posts.length - back * size
  let chunk := (s.posts.take stop).drop (s.posts.length - (back + 1) * size)
  let items := chunk.map (·.project (selected fields))
  ⟨if items.isEmpty then none else some items,
    if back = 0 ∧ s.posts = [] then none else some (pageToken (-(back : Int)))⟩

lemma list_fromEnd (hf : s.failWith = none) (hs : s.effectiveSize maxResults = size)
    (hpos : 0 < size) {back : Nat} (ht : pageOf? token = some (Int.negSucc back)) :
    (s.list fields token maxResults).2 = .ok (s.pageFromEnd fields size back) := by
  have start : Int.negSucc back * size = -(((back + 1) * size : Nat) : Int) := by
    rw [Int.negSucc_eq]
    push_cast
    ring
  have stop : -(((back + 1) * size : Nat) : Int) + size = -((back * size : Nat) : Int) := by
    push_cast
    ring
  have next : Int.negSucc back + 1 = -(back : Int) := by omega
  have ends : position s.posts.length (-((back * size : Nat) : Int)) =
      if back = 0 then 0 else s.posts.length - back * size := by
    split
    · next first =>
      subst first
      simp [position]
    · next later => exact position_neg _ (Nat.mul_pos (Nat.pos_of_ne_zero later) hpos)
  have behind : -((back * size : Nat) : Int) < s.posts.length ↔ ¬ (back = 0 ∧ s.posts = []) := by
    rw [← List.length_eq_zero_iff]
    rcases Nat.eq_zero_or_pos back with rfl | later
    · omega
    · have := Nat.mul_pos later hpos
      omega
  unfold list
  rw [hf, ht, hs]
  dsimp only
  rw [start, stop, next, slice, ends, position_neg _ (Nat.mul_pos back.succ_pos hpos), pageFromEnd,
    selected]
  simp only [decide_eq_true_eq, behind, ite_not]

/-- What is served for a negative number is no page, for it names the token of a number that follows
none of them; only a blog without posts has nothing to serve and no token to name. -/
lemma pageFromEnd_iff (s : Store) (fields : Option String) (size back : Nat) :
    (∃ page, s.pageFromEnd fields size back = s.pageAt fields size page) ↔
      back = 0 ∧ s.posts = [] := by
  constructor
  · rintro ⟨page, same⟩
    by_contra filled
    have named : (s.pageAt fields size page).nextPageToken = some (pageToken (-(back : Int))) := by
      rw [← same, pageFromEnd, if_neg filled]
    rw [pageAt] at named
    dsimp only at named
    split at named
    · have number := pageToken_injective (Option.some.inj named)
      omega
    · cases named
  · rintro ⟨rfl, empty⟩
    refine ⟨0, ?_⟩
    rw [pageFromEnd, pageAt, empty]
    simp

/-! ### All tokens -/

/-- What a listing may come to if every token leads to a page or is refused. -/
def Aligned (s : Store) (fields : Option String) (size : Nat) (reply : Except Failure PostList) :
    Prop :=
  reply = .error (refusal "Invalid page token" 400 "invalid") ∨
    ∃ page, reply = .ok (s.pageAt fields size page)

/-- **A token leads to a page or is refused, unless it spells a negative number.** A token that
spells no whole number is refused, and one that spells the number of a page leads to this page: the
posts from its first place on, as many as fill a page, and the token of the next page if there are
posts behind it. A token that spells a negative number is not refused, but is served posts that
count from the end, with the token of the next number; and this is never a page, except for the
number `-1` in a blog without posts. -/
theorem list_aligned_iff (s : Store) (fields : Option String) (token : String)
    (maxResults : Option Int) {size : Nat} (hf : s.failWith = none)
    (hs : s.effectiveSize maxResults = size) (hpos : 0 < size) :
    (pageOf? (some token) = none → (s.list fields (some token) maxResults).2 =
        .error (refusal "Invalid page token" 400 "invalid")) ∧
      (∀ page : Nat, pageOf? (some token) = some (page : Int) →
        (s.list fields (some token) maxResults).2 = .ok (s.pageAt fields size page)) ∧
      (∀ back : Nat, pageOf? (some token) = some (-(back + 1 : Int)) →
        (s.list fields (some token) maxResults).2 = .ok (s.pageFromEnd fields size back)) ∧
      (s.Aligned fields size (s.list fields (some token) maxResults).2 ↔
        ∀ number, pageOf? (some token) = some number →
          0 ≤ number ∨ (number = -1 ∧ s.posts = [])) := by
  have refused (unread : pageOf? (some token) = none) : (s.list fields (some token) maxResults).2 =
      .error (refusal "Invalid page token" 400 "invalid") := by
    unfold list
    rw [hf, unread]
  have negative (back : Nat) : -(back + 1 : Int) = Int.negSucc back := (Int.negSucc_eq back).symm
  refine ⟨refused, fun page ht => list_page hf hs ht,
    fun back ht => list_fromEnd hf hs hpos (negative back ▸ ht), ?_⟩
  cases read : pageOf? (some token) with
  | none => exact iff_of_true (.inl (refused read)) nofun
  | some number =>
    cases number with
    | ofNat page =>
      refine iff_of_true (.inr ⟨page, list_page hf hs read⟩) fun number same => .inl ?_
      cases same
      exact Int.natCast_nonneg page
    | negSucc back =>
      have served : s.Aligned fields size (.ok (s.pageFromEnd fields size back)) ↔
          back = 0 ∧ s.posts = [] := by
        rw [← pageFromEnd_iff s fields size back, Aligned]
        simp
      rw [list_fromEnd hf hs hpos read, served]
      constructor
      · rintro ⟨rfl, empty⟩ number same
        cases same
        exact .inr ⟨rfl, empty⟩
      · intro listed
        obtain low | ⟨first, empty⟩ := listed _ rfl
        · exact absurd low (by omega)
        · exact ⟨by omega, empty⟩

/-- The second page from the end of three posts begins before the first one. -/
theorem threePosts_fromEnd :
    (threePosts.list none (some "page--2") none).2 = .ok ⟨some [.empty], some "page--1"⟩ := by
  have read : pageOf? (some "page--2") = some (-(1 + 1 : Int)) := by decide +kernel
  obtain ⟨-, -, served, -⟩ := list_aligned_iff threePosts none "page--2" none rfl rfl two_pos
  exact (served 1 read).trans rfl

/-- Not every token leads to a page or is refused. -/
theorem negative_token_misaligned :
    ¬ ∀ (s : Store) (fields : Option String) (token : String) (maxResults : Option Int)
        (size : Nat), s.failWith = none → s.effectiveSize maxResults = size → 0 < size →
        s.Aligned fields size (s.list fields (some token) maxResults).2 := by
  intro aligned
  have read : pageOf? (some "page--2") = some (Int.negSucc 1) := by decide +kernel
  have listed := aligned threePosts none "page--2" none 2 rfl rfl two_pos
  rw [list_fromEnd rfl rfl two_pos read, Aligned] at listed
  obtain refused | ⟨page, same⟩ := listed
  · cases refused
  · have first := (pageFromEnd_iff threePosts none 2 1).mp ⟨page, Except.ok.inj same⟩
    exact absurd first.1 one_ne_zero

end BlogConsole.Store

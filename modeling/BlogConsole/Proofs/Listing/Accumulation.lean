import BlogConsole.Proofs.Loop.Agreement
import Mathlib.Order.Bounds.Basic

/-!
What a task for a listing does, told by the answers it gets.

The answers are numbered from the first call on. `Last` says with which of them a listing may end;
it ends with the first such one. The calls, the notices and the result are lists over the answers up
to that one, and the induction is on the number of pages that may still be loaded.
-/

namespace BlogConsole

open Entry Event Work

namespace Listing

/-! ### Answers -/

/-- The answers to the calls of a listing. -/
abbrev Answers := Nat → Except Failure PostList

def posts : Except Failure PostList → List Post
  | .ok page => page.items.getD []
  | .error _ => []

def next : Except Failure PostList → Option String
  | .ok page => page.nextPageToken
  | .error _ => none

/-- An answer after which there is no further page: it is no page, or it has no posts, or it names
no token. -/
def Ends : Except Failure PostList → Prop
  | .ok page => page.items.getD [] = [] ∨ page.nextPageToken.getD "" = ""
  | .error _ => True

def call (token : Option String) : Call := .list (some listFields) token none

variable (r : Answers) (n : Nat)

/-- The token of a call: the first one of the listing, and then the one that the answer before
names. -/
def token (first : Option String) : Nat → Option String
  | 0 => first
  | n + 1 => next (r n)

def gathered : List Post := (List.range n).flatMap fun j => posts (r j)

/-- The result of a listing that ends with an answer, after some posts. -/
def result (before : List Post) : Except Failure (List Post) :=
  match r n with
  | .ok _ => .ok (before ++ gathered r (n + 1))
  | .error (.api ..) => .ok []
  | .error f => .error f

def calls (blog : Option String) (first : Option String) : List (Option String × Call) :=
  (List.range (n + 1)).map fun j => (blog, call (token r first j))

/-- The notices on the pages of a listing that ends with an answer: one for each page with posts,
with its number, the number of its posts and of all posts up to it. -/
def notices (pages total : Nat) : List Notice :=
  (List.range (n + 1)).filterMap fun j =>
    if posts (r j) = [] then none
    else some (.pageFetched (pages + j + 1) (posts (r j)).length
      (total + (gathered r (j + 1)).length))

/-! ### Without the first answer -/

def tail : Answers := fun n => r (n + 1)

variable {r n}

lemma token_succ (first : Option String) (j : Nat) :
    token r first (j + 1) = token (tail r) (next (r 0)) j := by
  cases j <;> rfl

lemma gathered_succ : gathered r (n + 1) = posts (r 0) ++ gathered (tail r) n := by
  rw [gathered, List.range_succ_eq_map, List.flatMap_cons, List.flatMap_map]
  rfl

lemma gathered_one : gathered r 1 = posts (r 0) := by
  rw [gathered_succ]
  exact List.append_nil _

lemma notices_zero (pages total : Nat) :
    notices r 0 pages total =
      if posts (r 0) = [] then []
      else [.pageFetched (pages + 1) (posts (r 0)).length (total + (posts (r 0)).length)] := by
  unfold notices
  rw [List.range_one, List.filterMap_cons, List.filterMap_nil, gathered_one]
  by_cases h : posts (r 0) = []
  · rw [if_pos h, if_pos h]
  · rw [if_neg h, if_neg h]

lemma calls_succ (blog first : Option String) :
    calls r (n + 1) blog first = (blog, call first) :: calls (tail r) n blog (next (r 0)) := by
  rw [calls, List.range_succ_eq_map, List.map_cons, List.map_map]
  exact congrArg _ (List.map_congr_left fun j _ => by rw [Function.comp_apply, token_succ])

lemma result_succ (before : List Post) :
    result r (n + 1) before = result (tail r) n (before ++ posts (r 0)) := by
  unfold result
  rw [gathered_succ, List.append_assoc]
  rfl

lemma notices_succ (pages total : Nat) (h : posts (r 0) ≠ []) :
    notices r (n + 1) pages total =
      .pageFetched (pages + 1) (posts (r 0)).length (total + (posts (r 0)).length) ::
        notices (tail r) n (pages + 1) (total + (posts (r 0)).length) := by
  have first : gathered r (0 + 1) = posts (r 0) := gathered_one
  rw [notices, List.range_succ_eq_map, List.filterMap_cons_some (b := _) (by rw [if_neg h]),
    List.filterMap_map, first]
  refine congrArg _ (List.filterMap_congr fun j _ => ?_)
  rw [Function.comp_apply, Nat.succ_eq_add_one, gathered_succ, List.length_append]
  have page : pages + (j + 1) + 1 = pages + 1 + j + 1 := by omega
  rw [page, Nat.add_assoc total]
  rfl

/-! ### The last answer -/

/-- A listing of at most so many pages may end with an answer. One page is loaded in any case. -/
def Last (maxPages : Int) (r : Answers) (n : Nat) : Prop := Ends (r n) ∨ max 1 maxPages ≤ n + 1

lemma last_zero {maxPages : Int} (h : Ends (r 0) ∨ maxPages ≤ 1) :
    IsLeast {n | Last maxPages r n} 0 := by
  refine ⟨h.imp_right fun h => ?_, fun n _ => Nat.zero_le n⟩
  simp [h]

lemma last_succ {left : Nat} (hr : ¬ Ends (r 0)) (h : IsLeast {n | Last (left + 1) (tail r) n} n) :
    IsLeast {n | Last (left + 1 + 1) r n} (n + 1) := by
  have shift (j : Nat) : Last (left + 1 + 1) r (j + 1) ↔ Last (left + 1) (tail r) j := by
    unfold Last tail
    refine or_congr_right ?_
    omega
  refine ⟨(shift n).mpr h.1, fun j hj => ?_⟩
  cases j with
  | zero =>
    rcases hj with hj | hj
    · exact absurd hj hr
    · omega
  | succ j => exact Nat.succ_le_succ (h.2 ((shift j).mp hj))

end Listing

/-! ### What entries tell of a listing -/

namespace Entry

variable {es : List Entry}

def asked (es : List Entry) : List (Option String × Call) :=
  es.filterMap fun e =>
    match e.deed with
    | .ask blog call _ => some (blog, call)
    | _ => none

/-- The answers that were given to calls for pages. -/
def answered (es : List Entry) : List (Except Failure PostList) :=
  es.filterMap fun e =>
    match e.deed with
    | .ask _ (.list ..) reply => some reply
    | _ => none

def pagesNoted (es : List Entry) : List Notice :=
  es.filterMap fun e =>
    match e.deed with
    | .note (.pageFetched page count total) => some (.pageFetched page count total)
    | _ => none

/-- The entry is a call or a notice on a page. -/
def ofListing (e : Entry) : Bool :=
  match e.deed with
  | .ask .. => true
  | .note (.pageFetched ..) => true
  | _ => false

lemma ofListing_of_refused {e : Entry} (h : e.deed.isRefused = true) : e.ofListing = false := by
  unfold ofListing
  cases hd : e.deed with
  | ask | note => rw [hd] at h; cases h
  | _ => rfl

lemma nothing_told (h : ∀ e ∈ es, e.ofListing = false) :
    asked es = [] ∧ answered es = [] ∧ pagesNoted es = [] := by
  have no_ask (e : Entry) (he : e ∈ es) {blog : Option String} {call : Call} {reply : call.Reply}
      (hd : e.deed = .ask blog call reply) : False := by
    have := h e he
    rw [ofListing, hd] at this
    cases this
  refine ⟨?_, ?_, ?_⟩
  · refine List.filterMap_eq_nil_iff.mpr fun e he => ?_
    cases hd : e.deed with
    | ask => exact (no_ask e he hd).elim
    | _ => rfl
  · refine List.filterMap_eq_nil_iff.mpr fun e he => ?_
    cases hd : e.deed with
    | ask => exact (no_ask e he hd).elim
    | _ => rfl
  · refine List.filterMap_eq_nil_iff.mpr fun e he => ?_
    have := h e he
    cases hd : e.deed with
    | note n =>
      rw [ofListing, hd] at this
      cases n with
      | pageFetched => cases this
      | _ => rfl
    | _ => rfl

lemma told_between (es : List Entry) {before after : List Entry}
    (hb : ∀ e ∈ before, e.ofListing = false) (ha : ∀ e ∈ after, e.ofListing = false) :
    asked (before ++ es ++ after) = asked es ∧ answered (before ++ es ++ after) = answered es ∧
      pagesNoted (before ++ es ++ after) = pagesNoted es := by
  obtain ⟨asked_before, answered_before, pages_before⟩ := nothing_told hb
  obtain ⟨asked_after, answered_after, pages_after⟩ := nothing_told ha
  unfold asked answered pagesNoted at *
  simp only [List.filterMap_append, asked_before, answered_before, pages_before, asked_after,
    answered_after, pages_after, List.nil_append, List.append_nil, and_self]

end Entry

/-- Some work came to its end. -/
def Work.Over : Work → Prop
  | .done _ => True
  | .failed _ => True
  | _ => False

namespace Listing

def Follows (r : Answers) (given : List (Except Failure PostList)) : Prop :=
  ∀ j answer, given[j]? = some answer → r j = answer

/-- What the traces of some work tell: first of its calls and its notices on pages, and when it is
done all of them, and how it ended. -/
def Tells (u : Setup) (i : Nat) (r : Answers) (w : Work) (calls : List (Option String × Call))
    (pages : List Notice) (last : Work) : Prop :=
  ∀ es w', Trace u i w es w' → Follows r (answered es) →
    asked es <+: calls ∧ pagesNoted es <+: pages ∧
      (w'.Over → asked es = calls ∧ pagesNoted es = pages ∧ w' = last)

variable {u : Setup} {i : Nat} {r : Answers} {w last : Work}
  {cs : List (Option String × Call)} {ns : List Notice}

lemma tells_over (hw : w.Over) : Tells u i r w [] [] w := by
  intro es w' h _
  cases h with
  | stop => exact ⟨List.prefix_rfl, List.prefix_rfl, fun _ => ⟨rfl, rfl, rfl⟩⟩
  | note | handle | ask => exact hw.elim

lemma tells_note {n : Notice} (h : Tells u i r w cs ns last) :
    Tells u i r (.note n w) cs (pagesNoted [u.running.noted n] ++ ns) last := by
  intro es w' ht hr
  cases ht with
  | stop => exact ⟨List.nil_prefix, List.nil_prefix, fun h => h.elim⟩
  | @note _ _ _ es ht =>
    obtain ⟨calls, pages, whole⟩ := h es w' ht hr
    have split : pagesNoted (u.running.noted n :: es) =
        pagesNoted [u.running.noted n] ++ pagesNoted es :=
      List.filterMap_append (l := [u.running.noted n])
    rw [split]
    refine ⟨calls, (List.prefix_append_right_inj _).mpr pages, fun hw => ?_⟩
    obtain ⟨calls, pages, ended⟩ := whole hw
    exact ⟨calls, by rw [pages], ended⟩

/-- The answer to a call for a page is the first one. -/
lemma tells_ask {first : Option String} {next : Except Failure PostList → Work}
    (h : Tells u i (tail r) (next (r 0)) cs ns last) :
    Tells u i r (.ask (call first) next) ((u.blog, call first) :: cs) ns last := by
  intro es w' ht hr
  cases ht with
  | stop => exact ⟨List.nil_prefix, List.nil_prefix, fun h => h.elim⟩
  | @ask _ _ reply events _ es _ ht =>
    have given : r 0 = reply := hr 0 reply rfl
    rw [given] at h
    obtain ⟨calls, pages, whole⟩ := h es w' ht fun j a ha => hr (j + 1) a ha
    refine ⟨(List.prefix_cons_inj _).mpr calls, pages, fun hw => ?_⟩
    obtain ⟨calls, pages, ended⟩ := whole hw
    exact ⟨congrArg _ calls, pages, ended⟩

/-! ### The listing -/

def ending : Except Failure (List Post) → Work
  | .ok posts => done (.posts posts)
  | .error f => failed f

def goOn (left before : Nat) (gathered : List Post) (answer : Except Failure PostList) : Work :=
  match answer with
  | .error (.api e _) => note (.listFailed e) (done (.posts []))
  | .error f => failed f
  | .ok page =>
    if posts (.ok page) = [] then done (.posts gathered)
    else
      note (.pageFetched (before + 1) (posts (.ok page)).length
          (gathered ++ posts (.ok page)).length) <|
        if left = 0 ∨ page.nextPageToken.getD "" = "" then
          done (.posts (gathered ++ posts (.ok page)))
        else gather (left - 1) (before + 1) page.nextPageToken (gathered ++ posts (.ok page))

lemma gather_eq (left before : Nat) (first : Option String) (gathered : List Post) :
    gather left before first gathered = ask (call first) (goOn left before gathered) := by
  have named {token : Option String} (h : token.getD "" ≠ "") : some (token.getD "") = token := by
    cases token with
    | none => exact absurd rfl h
    | some token => rfl
  cases left with
  | zero =>
    unfold gather
    refine congrArg (ask _) (funext fun answer => ?_)
    rcases answer with (_ | _) | ⟨_ | _ | ⟨post, items⟩, token⟩ <;> rfl
  | succ left =>
    unfold gather
    refine congrArg (ask _) (funext fun answer => ?_)
    rcases answer with (_ | _) | ⟨_ | _ | ⟨post, items⟩, token⟩
    case succ.ok.some.cons =>
      by_cases ht : token.getD "" = ""
      · simp [goOn, posts, ht]
      · simp [goOn, posts, ht, named ht]
    all_goals rfl

variable {left before : Nat} {gathered : List Post} {answer : Except Failure PostList}

/-- An answer with which a listing ends. -/
lemma tells_end (h : Ends (r 0) ∨ left = 0) :
    Tells u i (tail r) (goOn left before gathered (r 0)) []
      (notices r 0 before gathered.length) (ending (result r 0 gathered)) := by
  have posted := gathered_one (r := r)
  rw [notices_zero]
  unfold result
  rw [posted]
  generalize r 0 = answer at h
  cases answer with
  | error f =>
    cases f with
    | api e => exact tells_note (n := .listFailed e) (tells_over trivial)
    | _ => exact tells_over trivial
  | ok page =>
    unfold goOn
    dsimp only
    by_cases hp : posts (.ok page) = []
    · rw [if_pos hp, if_pos hp, hp, List.append_nil]
      exact tells_over trivial
    · have stops : left = 0 ∨ page.nextPageToken.getD "" = "" := by
        obtain (h | h) | h := h
        · exact absurd h hp
        · exact .inr h
        · exact .inl h
      rw [if_neg hp, if_neg hp, if_pos stops, ← List.length_append]
      exact tells_note (n := .pageFetched _ _ _) (tells_over trivial)

/-- An answer after which a listing goes on. -/
lemma tells_next (h : ¬ Ends answer)
    (ht : Tells u i r (gather left (before + 1) (next answer) (gathered ++ posts answer))
      cs ns last) :
    posts answer ≠ [] ∧
      Tells u i r (goOn (left + 1) before gathered answer) cs
        (.pageFetched (before + 1) (posts answer).length
          (gathered.length + (posts answer).length) :: ns) last := by
  cases answer with
  | error f => exact absurd trivial h
  | ok page =>
    have hp : posts (.ok page) ≠ [] := fun hp => h (.inl hp)
    have htoken : page.nextPageToken.getD "" ≠ "" := fun ht => h (.inr ht)
    refine ⟨hp, ?_⟩
    unfold goOn
    dsimp only
    rw [if_neg hp, if_neg (not_or.mpr ⟨Nat.succ_ne_zero left, htoken⟩), ← List.length_append]
    exact tells_note (n := .pageFetched _ _ _) ht

/-- The traces of a listing follow its reference, up to the first answer with which it may end. -/
lemma tells_gather (left before : Nat) (first : Option String) (gathered : List Post)
    (r : Answers) :
    ∃ n, IsLeast {n | Last (left + 1) r n} n ∧
      Tells u i r (gather left before first gathered) (calls r n u.blog first)
        (notices r n before gathered.length) (ending (result r n gathered)) := by
  induction left generalizing before first gathered r with
  | zero =>
    rw [gather_eq]
    exact ⟨0, last_zero (.inr (by simp)), tells_ask (tells_end (.inr rfl))⟩
  | succ left ih =>
    rw [gather_eq]
    by_cases h : Ends (r 0)
    · exact ⟨0, last_zero (.inl h), tells_ask (tells_end (.inl h))⟩
    · obtain ⟨n, least, told⟩ := ih (before + 1) (next (r 0)) (gathered ++ posts (r 0)) (tail r)
      obtain ⟨hp, told⟩ := tells_next h told
      refine ⟨n + 1, last_succ h least, ?_⟩
      rw [calls_succ, notices_succ before _ hp, result_succ]
      rw [List.length_append] at told
      exact tells_ask told

/-- At most so many pages are loaded, but at least one. -/
lemma least_le {maxPages : Int} {n : Nat} (h : IsLeast {n | Last maxPages r n} n) :
    (n : Int) + 1 ≤ max 1 maxPages := by
  have bound : (max 1 maxPages - 1).toNat ∈ {n | Last maxPages r n} := .inr (by omega)
  have := h.2 bound
  omega

/-- What a listing comes to whose answers start with `r`, when `n` is the first of them with which
it may end. -/
structure Listed (u : Setup) (r : Answers) (n : Nat) (own : List Entry)
    (outcome : Option Outcome) : Prop where
  calls : asked own <+: calls r n u.blog none
  pages : pagesNoted own <+: notices r n 0 0
  all : ∀ o, outcome = some o → o ≠ .cancelled →
    asked own = Listing.calls r n u.blog none ∧ pagesNoted own = notices r n 0 0
  result : ∀ o posts, outcome = some o → o ≠ .cancelled → result r n [] = .ok posts →
    completions own = [.posts posts] ∧
      ((u.callbacks.onComplete (.posts posts)).failure = none → o = .result (.posts posts))
  failure : ∀ o f, outcome = some o → o ≠ .cancelled → Listing.result r n [] = .error f →
    completions own = [] ∧ failures own = [f] ∧ o = .failure f

end Listing

namespace Task

open Listing

variable {t : Task} {i : Nat} {own : List Entry} {m : Int} {r : Answers}

lemma opening_untold : ∀ e ∈ t.opening i, e.ofListing = false := by
  intro e he
  rcases List.mem_cons.mp he with rfl | he
  · rfl
  · exact ofListing_of_refused (mem_react he).2.1

lemma Closing.untold {w : Work} {o : Outcome} {closing : List Entry}
    (h : Closing t i w o closing) : ∀ e ∈ closing, e.ofListing = false := by
  intro e he
  cases h with
  | returned r =>
    rcases List.mem_cons.mp he with rfl | he
    · rfl
    · rcases List.mem_cons.mp he with rfl | he
      · rfl
      · exact ofListing_of_refused (mem_react he).2.1
  | raised f =>
    rcases List.mem_cons.mp he with rfl | he
    · rfl
    · rw [List.mem_singleton] at he
      subst he
      rfl
  | cancelled =>
    rw [List.mem_singleton] at he
    subst he
    rfl

lemma Closing.isOver {w : Work} {o : Outcome} {closing : List Entry} (h : Closing t i w o closing)
    (ho : o ≠ .cancelled) : w.Over := by
  cases h with
  | returned | raised => trivial
  | cancelled => exact absurd rfl ho

lemma listed_of_mid {u : Setup} {n : Nat} {w w' : Work} {mid : List Entry}
    (htells : Tells u i r w (calls r n u.blog none) (notices r n 0 0) (ending (result r n [])))
    (hmid : Trace u i w mid w') (hr : Follows r (answered (t.opening i ++ mid))) :
    Listed u r n (t.opening i ++ mid) none := by
  obtain ⟨asked, answered, pages⟩ := told_between mid opening_untold (List.forall_mem_nil _)
  rw [List.append_nil] at asked answered pages
  rw [answered] at hr
  obtain ⟨calls, noted, -⟩ := htells mid w' hmid hr
  constructor
  case calls => rwa [asked]
  case pages => rwa [pages]
  case all | result | failure => simp

/-- A listing that has ended by itself made all of them, and ended with its result. -/
lemma listed_of_closing {n : Nat} {w w' : Work} {o : Outcome} {mid closing : List Entry}
    (htells : Tells t.toSetup i r w (calls r n t.blog none) (notices r n 0 0)
      (ending (result r n [])))
    (hmid : Trace t.toSetup i w mid w') (hw : ∀ e ∈ mid, e.IsWork)
    (hc : Closing t i w' o closing) (hr : Follows r (answered (t.opening i ++ mid ++ closing))) :
    Listed t.toSetup r n (t.opening i ++ mid ++ closing) (some o) := by
  obtain ⟨asked, answered, pages⟩ := told_between mid opening_untold hc.untold
  rw [answered] at hr
  obtain ⟨calls, noted, whole⟩ := htells mid w' hmid hr
  have mute : Mute (t.opening i ++ mid) := opening_mute.append (work_mute hw)
  constructor
  case calls => rwa [asked]
  case pages => rwa [pages]
  case all =>
    rintro _ ⟨⟩ ho
    obtain ⟨calls, noted, -⟩ := whole (hc.isOver ho)
    exact ⟨asked.trans calls, pages.trans noted⟩
  case result =>
    rintro _ posts ⟨⟩ ho hresult
    have last := (whole (hc.isOver ho)).2.2
    rw [hresult, ending] at last
    subst last
    cases hc with
    | cancelled => exact absurd rfl ho
    | returned =>
      refine ⟨?_, fun hf => by rw [outcomeOf, hf]⟩
      rw [completions_append, mute.completions, (completions_returning _ _ _).1]
      rfl
  case failure =>
    rintro _ f ⟨⟩ ho hresult
    have last := (whole (hc.isOver ho)).2.2
    rw [hresult, ending] at last
    subst last
    cases hc with
    | cancelled => exact absurd rfl ho
    | raised =>
      rw [completions_append, mute.completions, failures_append, mute.failures]
      exact ⟨rfl, rfl, rfl⟩

lemma Life.listed (h : Life t i [] own) (hk : t.kind = .list m) (hu : t.Underway)
    (hr : Follows r (answered own)) :
    ∃ n, IsLeast {n | Last m r n} n ∧ Listed t.toSetup r n own t.outcome? := by
  have work : t.workOf [] = gather (m - 1).toNat 0 none [] := by
    rw [workOf, hk]
    rfl
  obtain ⟨n, least, tells⟩ :=
    tells_gather (u := t.toSetup) (i := i) (m - 1).toNat 0 none [] r
  have cap : Last ((m - 1).toNat + 1) r = Last m r := by
    funext n
    have same : max 1 (((m - 1).toNat : Int) + 1) = max 1 m := by omega
    unfold Last
    rw [same]
  rw [← work] at tells
  rw [cap] at least
  refine ⟨n, least, ?_⟩
  cases h with
  | idle hs | abandoned hs => rw [Underway, hs] at hu; exact hu.elim
  | ready hs _ _ hmid => rw [outcome?, hs]; exact listed_of_mid tells hmid hr
  | waiting hs _ _ hmid => rw [outcome?, hs]; exact listed_of_mid tells hmid hr
  | ended hs _ _ hmid hc =>
    rw [outcome?, hs]
    exact listed_of_closing tells hmid (isWork_of_trace hmid) hc hr

end Task

/-- **Accumulation of a listing.** A listing with answers `r` ends with the first of them that is no
page, or has no posts, or names no token, or is the last one that may be loaded. Up to that one it
asks for each page with the token of the one before, notes each page with its counts, and gathers
the posts, and others see all of that. It returns the posts, or nothing after an error of the
service; any other failure fails it. It does so to the end unless it is stopped, and does not have
to wait at open gates. -/
theorem Loop.listing_accumulates (service : Service) (setups : List Setup) (ss : List Loop.Step)
    (i : Nat) (m : Int) (r : Listing.Answers) (hi : i < setups.length)
    (hk : setups[i].kind = .list m) (h : Accepted service setups ss i [])
    (hr : Listing.Follows r (answered ((after service setups ss).own i))) :
    (∃ n : Nat, IsLeast {n | Listing.Last m r n} n ∧ (n : Int) + 1 ≤ max 1 m ∧
      Listing.Listed setups[i] r n ((after service setups ss).own i)
        ((after service setups ss).outcome? i)) ∧
    (∀ e ∈ (after service setups ss).own i, e.Evident service setups[i] i) ∧
    ((∀ gate, service.Gated gate → (after service setups ss).isOpen gate = true) →
      (after service setups (ss ++ [.run])).Done i) ∧
    (.cancel i ∉ ss → (after service setups ss).outcome? i ≠ some .cancelled) := by
  refine ⟨?_, own_evident service ss hi, (h.run_rests hi).2, after_uncancelled⟩
  obtain ⟨t, ht, setup, hu, life⟩ := h.underway hi
  rw [← setup] at hk
  obtain ⟨n, least, listed⟩ := life.listed hk hu hr
  rw [outcome?_some ht, ← setup]
  exact ⟨n, least, Listing.least_le least, listed⟩

namespace Listing

/-- A page that names the same token as the one before. -/
def samePage : PostList := ⟨some [Post.empty], some "next"⟩

/-- A service that answers every call for a page with the same one. -/
def sameService : Service :=
  .script fun _ => ⟨none, fun
    | .list .. => .ok samePage
    | c => c.fail .outOfReplies⟩

def twoPages : Setup := ⟨.list 2, none, .none, .console⟩

end Listing

open Listing

/-- A listing whose pages all name the same token ends nevertheless. -/
theorem Loop.same_page_accumulates :
    (∃ n : Nat, IsLeast {n | Last 2 (fun _ => .ok samePage) n} n ∧ (n : Int) + 1 ≤ max 1 2 ∧
      Listed twoPages (fun _ => .ok samePage) n
        ((after sameService [twoPages] [.execute 0 [], .run]).own 0)
        ((after sameService [twoPages] [.execute 0 [], .run]).outcome? 0)) ∧
    (after sameService [twoPages] [.execute 0 [], .run, .run]).Done 0 ∧
    (after sameService [twoPages] [.execute 0 [], .run]).outcome? 0 ≠ some .cancelled := by
  have same : ∀ answer ∈ answered ((after sameService [twoPages] [.execute 0 [], .run]).own 0),
      answer.toOption = some samePage := by decide +kernel
  have follows : Follows (fun _ => .ok samePage)
      (answered ((after sameService [twoPages] [.execute 0 [], .run]).own 0)) := by
    intro j answer h
    have given := same answer (List.mem_of_getElem? h)
    cases answer with
    | ok page => exact congrArg Except.ok (Option.some.inj given).symm
    | error f => cases given
  obtain ⟨listed, -, ends, uncancelled⟩ := listing_accumulates sameService [twoPages]
    [.execute 0 [], .run] 0 2 (fun _ => .ok samePage) Nat.one_pos rfl ⟨[], [.run], rfl, rfl⟩ follows
  refine ⟨listed, ends fun gate h => ?_, uncancelled (by simp)⟩
  obtain ⟨n, hn⟩ := h
  cases hn

end BlogConsole

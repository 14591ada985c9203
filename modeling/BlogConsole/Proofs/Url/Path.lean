import BlogConsole.Proofs.Text.Split
import BlogConsole.Proofs.Url.Below
import BlogConsole.Proofs.Url.Escape

/-!
Paths below a base.

A path is a list of segments with slashes between them. Reading it takes away the segments that
stand for a place, which are one dot and two dots, and writes every other segment by itself. So what
stands below a base is found behind the path of the base, segment by segment, as long as none of the
segments is made of dots.
-/

namespace BlogConsole.Url

open Text

variable {cs rest : List Char} {segments kept : List (List Char)}

/-! ### Segments -/

def joined (segments : List (List Char)) : List Char := ['/'].intercalate segments

def writtenPath : List Char → List Char := escapeExcept (printsExcept pathEscaped)

lemma joined_splitOn (cs : List Char) : joined (cs.splitOn '/') = cs :=
  List.intercalate_splitOn '/'

lemma splitOn_joined (filled : segments ≠ []) (h : ∀ s ∈ segments, '/' ∉ s) :
    (joined segments).splitOn '/' = segments := List.splitOn_intercalate '/' h filled

lemma joined_append (front : List (List Char)) (h : segments ≠ []) :
    joined (front ++ segments) = joined (front ++ [[]]) ++ joined segments :=
  intercalate_append '/' front h

lemma writtenPath_joined (segments : List (List Char)) :
    writtenPath (joined segments) = joined (segments.map writtenPath) := by
  induction segments with
  | nil => rfl
  | cons s segments ih =>
    cases segments with
    | nil => simp [joined]
    | cons next segments =>
      have cut (s next : List Char) (segments : List (List Char)) :
          joined (s :: next :: segments) = s ++ '/' :: joined (next :: segments) := by
        rw [joined, List.intercalate_cons_cons, List.append_assoc]
        rfl
      rw [cut, writtenPath, escapeExcept_slash (by decide), ← writtenPath, ih, List.map_cons,
        List.map_cons, List.map_cons, cut]

/-! ### Dots -/

/-- A segment that does not stand for a place. -/
def Solid (s : List Char) : Prop := s ≠ ['.'] ∧ s ≠ ['.', '.']

/-- The segments kept so far, the last one first, and one more segment. -/
def keep (kept : List (List Char)) (s : List Char) : List (List Char) :=
  if s = ['.'] then kept
  else if s = ['.', '.'] then if kept = [[]] then kept else kept.drop 1
  else s :: kept

lemma keep_solid {s : List Char} (h : Solid s) (kept : List (List Char)) :
    keep kept s = s :: kept := by
  rw [keep, if_neg h.1, if_neg h.2]

/-- A segment is added to those kept, or some of these go. -/
lemma keep_cases (kept : List (List Char)) (s : List Char) :
    Solid s ∧ keep kept s = s :: kept ∨ keep kept s <:+ kept := by
  rw [keep]
  split_ifs with one two first
  · exact .inr List.suffix_rfl
  · exact .inr List.suffix_rfl
  · exact .inr (List.drop_suffix 1 kept)
  · exact .inl ⟨⟨one, two⟩, rfl⟩

lemma dropDots_eq (kept segments : List (List Char)) :
    dropDots kept segments = (segments.foldl keep kept).reverse := by
  induction segments generalizing kept with
  | nil => rfl
  | cons s segments ih =>
    rw [dropDots, List.foldl_cons, keep]
    split_ifs <;> exact ih _

lemma withoutDots_eq (path : List Char) :
    withoutDots path = joined ((path.splitOn '/').foldl keep []).reverse := by
  rw [withoutDots, splitWhere_eq_splitOn, dropDots_eq]
  rfl

lemma foldl_keep_solid (h : ∀ s ∈ segments, Solid s) (kept : List (List Char)) :
    segments.foldl keep kept = segments.reverse ++ kept := by
  induction segments generalizing kept with
  | nil => rfl
  | cons s segments ih =>
    obtain ⟨first, others⟩ := List.forall_mem_cons.mp h
    rw [List.foldl_cons, keep_solid first, ih others, List.reverse_cons, List.append_assoc]
    rfl

/-- What is kept in the end are some of the segments on top of some of those kept before. -/
lemma foldl_keep (kept segments : List (List Char)) :
    ∃ added base, segments.foldl keep kept = added ++ base ∧ added.reverse.Sublist segments ∧
      (∀ s ∈ added, Solid s) ∧ base <:+ kept := by
  induction segments generalizing kept with
  | nil => exact ⟨[], kept, rfl, List.Sublist.refl _, List.forall_mem_nil _, List.suffix_rfl⟩
  | cons s segments ih =>
    obtain ⟨added, base, whole, sub, solid, left⟩ := ih (keep kept s)
    rw [List.foldl_cons]
    obtain ⟨hs, more⟩ | fewer := keep_cases kept s
    · rw [more, List.suffix_cons_iff] at left
      rcases left with rfl | left
      · refine ⟨added ++ [s], kept, by rw [whole]; simp, ?_, ?_, List.suffix_rfl⟩
        · rw [List.reverse_append]
          exact sub.cons_cons s
        · exact List.forall_mem_append.mpr ⟨solid, List.forall_mem_singleton.mpr hs⟩
      · exact ⟨added, base, whole, sub.cons s, solid, left⟩
    · exact ⟨added, base, whole, sub.cons s, solid, left.trans fewer⟩

/-! ### Places -/

/-- The path of a URL, with its dots or without them. -/
def settled (bare : Bool) (path : List Char) : List Char := if bare then path else withoutDots path

def front (bare : Bool) (place : List Char) : List (List Char) :=
  if bare then place.splitOn '/' else ((place.splitOn '/').foldl keep []).reverse

lemma slash_notMem_front {bare : Bool} {place s : List Char} (h : s ∈ front bare place) :
    '/' ∉ s := by
  have part : s ∈ place.splitOn '/' := by
    rw [front] at h
    split at h
    · exact h
    · obtain ⟨added, base, whole, sub, -, left⟩ := foldl_keep [] (place.splitOn '/')
      rw [whole, List.suffix_nil.mp left, List.append_nil] at h
      exact sub.subset h
  exact notMem_of_mem_splitOn part

/-- The segments below a place follow it, if none of them stands for a place itself. -/
lemma settled_below (bare : Bool) (place : List Char)
    (solid : bare = false → ∀ s ∈ rest.splitOn '/', Solid s) :
    settled bare (place ++ '/' :: rest) = joined (front bare place ++ rest.splitOn '/') := by
  cases bare with
  | true =>
    have whole : front true place ++ rest.splitOn '/' = (place ++ '/' :: rest).splitOn '/' :=
      (splitOn_append_cons '/' place rest).symm
    rw [whole, joined_splitOn]
    rfl
  | false =>
    have kept : settled false (place ++ '/' :: rest) = withoutDots (place ++ '/' :: rest) := rfl
    rw [kept, withoutDots_eq, splitOn_append_cons, List.foldl_append,
      foldl_keep_solid (solid rfl), List.reverse_append, List.reverse_reverse]
    rfl

/-! ### Bases -/

def inPath (c : Char) : Bool := !(c = '?' || c = '#')

/-- A text below which paths stand: it has no query and no fragment, and does not end with a
slash. -/
structure IsBase (cs : List Char) : Prop where
  plain : ∀ c ∈ cs, inPath c = true
  last : cs.getLast? ≠ some '/'

def afterAuthority : List Char → List Char
  | '/' :: '/' :: rest => rest.dropWhile inAuthority
  | cs => cs

lemma ofText_path (cs : List Char) :
    (Parts.ofText cs).path = (afterAuthority (splitScheme cs).2).takeWhile inPath := by
  have ends : inPath = fun c => !(decide (c = '?') || decide (c = '#')) := rfl
  unfold Parts.ofText afterAuthority
  dsimp only
  rw [ends]
  generalize (splitScheme cs).2 = after
  split
  · rfl
  · simp_all

lemma splitScheme_suffix (cs : List Char) : (splitScheme cs).2 <:+ cs := by
  unfold splitScheme
  dsimp only
  split
  · next rest after =>
    split
    · have later : rest <:+ cs.dropWhile isSchemeChar := after ▸ List.suffix_cons ':' rest
      exact later.trans (List.dropWhile_suffix _)
    · exact List.suffix_rfl
  · exact List.suffix_rfl

lemma afterAuthority_suffix (cs : List Char) : afterAuthority cs <:+ cs := by
  unfold afterAuthority
  split
  · next rest => exact (List.dropWhile_suffix _).trans (List.suffix_append ['/', '/'] rest)
  · exact List.suffix_rfl

/-- A text that goes on after a slash has the same authority, and its path goes on. -/
lemma authority_below (hcs : cs ≠ ['/']) (hrest : rest.head? ≠ some '/') :
    authorityAfter (cs ++ '/' :: rest) = authorityAfter cs ∧
      afterAuthority (cs ++ '/' :: rest) = afterAuthority cs ++ '/' :: rest := by
  have stop : inAuthority '/' = false := by decide
  match cs with
  | [] =>
    cases rest with
    | nil => exact ⟨rfl, rfl⟩
    | cons c rest =>
      have other : c ≠ '/' := fun same => hrest (congrArg some same)
      simp [authorityAfter, afterAuthority, other]
  | [c] =>
    have other : c ≠ '/' := fun same => hcs (congrArg ([·]) same)
    simp [authorityAfter, afterAuthority, other]
  | c :: d :: cs =>
    by_cases slash : c = '/'
    · by_cases slash' : d = '/'
      · subst slash slash'
        exact ⟨takeWhile_stop stop cs rest, dropWhile_stop stop cs rest⟩
      · simp [authorityAfter, afterAuthority, slash']
    · simp [authorityAfter, afterAuthority, slash]

/-- The parts of a text below a base: those of the base, and a path that goes on. -/
lemma IsBase.ofText (h : IsBase cs) : ∃ place, ∀ rest, rest.head? ≠ some '/' →
    (Parts.ofText (cs ++ '/' :: rest)).scheme = (splitScheme cs).1 ∧
      (Parts.ofText (cs ++ '/' :: rest)).authority = authorityAfter (splitScheme cs).2 ∧
      (Parts.ofText (cs ++ '/' :: rest)).path = place ++ '/' :: rest.takeWhile inPath := by
  refine ⟨afterAuthority (splitScheme cs).2, fun rest hrest => ?_⟩
  have scheme := splitScheme_below cs rest
  have after : (splitScheme cs).2 ≠ ['/'] := by
    intro slash
    obtain ⟨front, whole⟩ := splitScheme_suffix cs
    rw [slash] at whole
    exact h.last (by rw [← whole, List.getLast?_append]; rfl)
  obtain ⟨authority, path⟩ := authority_below after hrest
  have plain : ∀ c ∈ afterAuthority (splitScheme cs).2, inPath c = true := fun c hc =>
    h.plain c (((afterAuthority_suffix _).trans (splitScheme_suffix cs)).subset hc)
  refine ⟨?_, ?_, ?_⟩
  · have first (text : List Char) : (Parts.ofText text).scheme = (splitScheme text).1 := rfl
    rw [first, scheme]
  · rw [ofText_authority, scheme]
    exact authority
  · rw [ofText_path, scheme, path, List.takeWhile_append_of_pos plain,
      List.takeWhile_cons_of_pos (by decide)]

/-! ### Characters -/

lemma after?_suffix {mark : Char} (h : after? mark cs = some rest) : rest <:+ cs := by
  cases cs with
  | nil => cases h
  | cons c cs =>
    rw [after?] at h
    split at h
    · obtain rfl := Option.some.inj h
      exact List.suffix_cons c cs
    · cases h

def afterPath (cs : List Char) : List Char :=
  (afterAuthority (splitScheme cs).2).dropWhile inPath

lemma ofText_tail (cs : List Char) :
    (Parts.ofText cs).query = (after? '?' (afterPath cs)).map (·.takeWhile (· ≠ '#')) ∧
      (Parts.ofText cs).fragment = after? '#' ((afterPath cs).dropWhile (· ≠ '#')) := by
  have ends : inPath = fun c => !(decide (c = '?') || decide (c = '#')) := rfl
  unfold Parts.ofText afterPath afterAuthority
  dsimp only
  rw [ends]
  generalize (splitScheme cs).2 = after
  split
  · exact ⟨rfl, rfl⟩
  · simp_all

lemma ofText_subset (cs : List Char) :
    (Parts.ofText cs).authority ⊆ cs ∧ (Parts.ofText cs).path ⊆ cs ∧
      (Parts.ofText cs).query.getD [] ⊆ cs ∧ (Parts.ofText cs).fragment.getD [] ⊆ cs := by
  have scheme := (splitScheme_suffix cs).subset
  have authority : authorityAfter (splitScheme cs).2 ⊆ (splitScheme cs).2 := by
    unfold authorityAfter
    split
    · next rest whole =>
      rw [whole]
      exact fun c hc => List.mem_cons_of_mem _ (List.mem_cons_of_mem _
        ((List.takeWhile_sublist _).subset hc))
    · exact List.nil_subset _
  have behind := List.Subset.trans (afterAuthority_suffix (splitScheme cs).2).subset scheme
  have tail : afterPath cs ⊆ cs := List.Subset.trans (List.dropWhile_suffix _).subset behind
  obtain ⟨query, fragment⟩ := ofText_tail cs
  refine ⟨?_, ?_, ?_, ?_⟩
  · rw [ofText_authority]
    exact List.Subset.trans authority scheme
  · rw [ofText_path]
    exact List.Subset.trans (List.takeWhile_sublist _).subset behind
  · rw [query]
    cases marked : after? '?' (afterPath cs) with
    | none => exact List.nil_subset _
    | some q =>
      exact List.Subset.trans (List.takeWhile_sublist _).subset
        (List.Subset.trans (after?_suffix marked).subset tail)
  · rw [fragment]
    cases marked : after? '#' ((afterPath cs).dropWhile (· ≠ '#')) with
    | none => exact List.nil_subset _
    | some f =>
      exact List.Subset.trans (after?_suffix marked).subset
        (List.Subset.trans (List.dropWhile_suffix _).subset tail)

lemma splitAuthority_subset (authority : List Char) :
    (splitAuthority authority).1 ⊆ authority := by
  have user :
      (splitAuthority authority).1 = ((splitLast '@' authority).getD ([], authority)).1 := by
    unfold splitAuthority
    rfl
  rw [user, splitLast]
  split
  · exact (List.take_sublist _ _).subset
  · exact List.nil_subset _

lemma mem_joined {c : Char} (h : c ∈ joined segments) : c = '/' ∨ ∃ s ∈ segments, c ∈ s := by
  induction segments with
  | nil => cases h
  | cons s segments ih =>
    cases segments with
    | nil => exact .inr ⟨s, List.mem_singleton_self s, by simpa [joined] using h⟩
    | cons next segments =>
      rw [joined, List.intercalate_cons_cons, List.append_assoc, List.mem_append] at h
      rcases h with here | later
      · exact .inr ⟨s, List.mem_cons_self .., here⟩
      · rcases List.mem_cons.mp later with slash | later
        · exact .inl slash
        · exact (ih later).imp_right fun ⟨t, ht, hc⟩ => ⟨t, List.mem_cons_of_mem _ ht, hc⟩

lemma mem_joined_of_mem {c : Char} {s : List Char} (hs : s ∈ segments) (hc : c ∈ s) :
    c ∈ joined segments := by
  induction segments with
  | nil => cases hs
  | cons t segments ih =>
    cases segments with
    | nil =>
      obtain rfl := List.mem_singleton.mp hs
      simpa [joined] using hc
    | cons next segments =>
      rw [joined, List.intercalate_cons_cons, List.append_assoc, List.mem_append]
      rcases List.mem_cons.mp hs with rfl | later
      · exact .inl hc
      · exact .inr (List.mem_cons_of_mem _ (ih later))

lemma mem_withoutDots {c : Char} {path : List Char} (h : c ∈ withoutDots path) :
    c = '/' ∨ c ∈ path := by
  rw [withoutDots_eq] at h
  refine (mem_joined h).imp_right fun ⟨s, hs, hc⟩ => ?_
  obtain ⟨added, base, whole, sub, -, left⟩ := foldl_keep [] (path.splitOn '/')
  rw [whole, List.suffix_nil.mp left, List.append_nil] at hs
  rw [← joined_splitOn path]
  exact mem_joined_of_mem (sub.subset hs) hc

/-! ### Reading -/

variable {p p' : Parts} {u v : Url}

/-- A URL that keeps the dots of its path: it has neither a scheme nor an authority. -/
def isBare (u : Url) : Bool :=
  u.scheme.isEmpty && !(!u.userinfo.isEmpty || !u.host.isEmpty || u.port.isSome)

lemma ofParts_shorter (h : ofParts p = .ok u) (scheme : p'.scheme = p.scheme)
    (authority : p'.authority = p.authority) (shorter : p'.path <+: p.path) :
    ∃ v, ofParts p' = .ok v ∧ v.isBare = u.isBare ∧ v.isAbsolute = u.isAbsolute ∧
      v.path = settled u.isBare p'.path ∧ u.path = settled u.isBare p.path := by
  have less {mark : List Char} (starts : mark.isPrefixOf p'.path = true) :
      mark.isPrefixOf p.path = true := by
    rw [List.isPrefixOf_iff_prefix] at starts ⊢
    exact starts.trans shorter
  unfold ofParts at h ⊢
  rw [scheme, authority]
  dsimp only at h ⊢
  cases host : normalHost (splitAuthority p.authority).2.1 with
  | error e => rw [host] at h; cases h
  | ok name =>
    cases port : normalPort (p.scheme.map Char.toLower) (splitAuthority p.authority).2.2 with
    | error e => rw [host, port] at h; cases h
    | ok n =>
      rw [host, port] at h
      dsimp only [bind, Except.bind] at h ⊢
      split at h
      · cases h
      · next slashes =>
        split at h
        · cases h
        · next colon =>
          cases h
          have still {mark : List Char} {bare : Bool}
              (none : ¬ (bare && mark.isPrefixOf p.path) = true) :
              ¬ (bare && mark.isPrefixOf p'.path) = true := by
            rw [Bool.and_eq_true] at none ⊢
            exact fun both => none ⟨both.1, less both.2⟩
          rw [if_neg (still slashes), if_neg (still colon)]
          exact ⟨_, rfl, rfl, rfl, rfl, rfl⟩

lemma ofParts_tail (h : ofParts p = .ok u) :
    u.path = settled u.isBare p.path ∧ u.query = p.query ∧ u.fragment = p.fragment := by
  unfold ofParts at h
  dsimp only at h
  cases host : normalHost (splitAuthority p.authority).2.1 with
  | error e => rw [host] at h; cases h
  | ok name =>
    cases port : normalPort (p.scheme.map Char.toLower) (splitAuthority p.authority).2.2 with
    | error e => rw [host, port] at h; cases h
    | ok n =>
      rw [host, port] at h
      dsimp only [bind, Except.bind] at h
      split at h
      · cases h
      · split at h
        · cases h
        · cases h
          exact ⟨rfl, rfl, rfl⟩

lemma parse_eq_read (plain : Text.Writable cs) : parse cs = read cs := by
  have clean {part : List Char} (sub : ∀ c ∈ part, c = '/' ∨ c ∈ cs) : escapable part = .ok () := by
    rw [escapable, List.find?_eq_none.mpr]
    intro c hc
    rcases sub c hc with rfl | mem
    · decide
    · rw [plain c mem]
      exact Bool.false_ne_true
  obtain ⟨authority, path, query, fragment⟩ := ofText_subset cs
  unfold parse read
  cases screen cs with
  | error e => rfl
  | ok _ =>
    dsimp only [bind, Except.bind]
    rw [clean fun c hc => .inr (authority (splitAuthority_subset _ hc))]
    dsimp only
    cases made : ofParts (.ofText cs) with
    | error e => rfl
    | ok u =>
      obtain ⟨kept, sameQuery, sameFragment⟩ := ofParts_tail made
      have inside : ∀ c ∈ u.path, c = '/' ∨ c ∈ cs := by
        intro c hc
        rw [kept, settled] at hc
        split at hc
        · exact .inr (path hc)
        · exact (mem_withoutDots hc).imp_right fun mem => path mem
      dsimp only
      rw [sameQuery, sameFragment, clean inside, clean fun c hc => .inr (query hc),
        clean fun c hc => .inr (fragment hc)]
      rfl

/-- A prefix of a text that may be a URL may be one, too. -/
lemma screen_prefix {ds : List Char} (h : screen ds = .ok ()) (starts : cs <+: ds) :
    screen cs = .ok () := by
  rw [screen] at h ⊢
  split at h
  · cases h
  · next short =>
    split at h
    · cases h
    · next clean =>
      rw [controlIn?_eq_none] at clean
      have uncontrolled : controlIn? cs = none :=
        controlIn?_eq_none.mpr fun c hc => clean c (starts.subset hc)
      have := starts.length_le
      rw [if_neg (by omega), uncontrolled]

lemma isBare_of_isAbsolute (h : u.isAbsolute = true) : u.isBare = false := by
  have filled : u.scheme ≠ [] ∧ u.host ≠ [] := by simpa [isAbsolute] using h
  simp [isBare, filled.1]

/-- What stands below a base is read as a URL only if the base with a slash is. The two have the
same kind, and the one path goes on below the other. -/
lemma read_base (h : IsBase cs) (hrest : rest.head? ≠ some '/')
    (below : read (cs ++ '/' :: rest) = .ok u) :
    ∃ v place bare, read (cs ++ ['/']) = .ok v ∧ v.isAbsolute = u.isAbsolute ∧
      (u.isAbsolute = true → bare = false) ∧
      v.path = writtenPath (settled bare (place ++ ['/'])) ∧
      u.path = writtenPath (settled bare (place ++ '/' :: rest.takeWhile inPath)) := by
  have screened : screen (cs ++ '/' :: rest) = .ok () := by
    cases fit : screen (cs ++ '/' :: rest) with
    | error e => rw [read, fit] at below; cases below
    | ok _ => rfl
  have shorter : screen (cs ++ ['/']) = .ok () :=
    screen_prefix screened ⟨rest, by rw [List.append_assoc]; rfl⟩
  obtain ⟨place, parts⟩ := h.ofText
  obtain ⟨scheme, authority, path⟩ := parts rest hrest
  obtain ⟨scheme', authority', path'⟩ := parts [] (by simp)
  obtain ⟨-, w, made, rfl⟩ := read_ok below
  obtain ⟨v, made', -, absolute, short, long⟩ := ofParts_shorter made
    (scheme'.trans scheme.symm) (authority'.trans authority.symm) (by
      rw [path, path']
      exact ⟨rest.takeWhile inPath, by rw [List.append_assoc]; rfl⟩)
  rw [path'] at short
  rw [path] at long
  refine ⟨v.escaped, place, w.isBare, ?_, absolute, isBare_of_isAbsolute (u := w),
    congrArg writtenPath short, congrArg writtenPath long⟩
  rw [read, shorter]
  dsimp only [bind, Except.bind]
  rw [made']
  rfl

/-- The target of a URL below another one goes on in the same way. -/
lemma target_below (same : v.isAbsolute = u.isAbsolute) (below : u.path = v.path ++ rest)
    (filled : rest ≠ []) (hrest : rest.head? ≠ some '/') :
    u.target.path = v.target.path ++ rest := by
  obtain ⟨c, rest, rfl⟩ := List.exists_cons_of_ne_nil filled
  have stays : (c :: rest).dropWhile (· = '/') = c :: rest :=
    List.dropWhile_cons_of_neg (by simpa using hrest)
  rw [target, target, same]
  split
  · exact below
  · have drop : u.path.dropWhile (· = '/') = v.path.dropWhile (· = '/') ++ c :: rest := by
      rw [below, List.dropWhile_append, stays]
      split
      · next none => rw [List.isEmpty_iff.mp none]; rfl
      · rfl
    rw [drop]
    rfl

end BlogConsole.Url

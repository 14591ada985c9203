import BlogConsole.Proofs.Url.Path
import Mathlib.Data.List.TakeWhile

/-!
Segments that are found again below a base.

A text is found in a path as it was put there if it has no mark that ends a path or a segment, is
not made of dots, and has no escape. No other text is: what reading makes of a path are some of the
segments that were put there, and none of them is read as more characters than it has, so that there
is no room for anything else.
-/

namespace BlogConsole.Url

variable {cs ds rest text place : List Char} {segments more : List (List Char)} {bare : Bool}

/-- A text that stands in a path as it is. -/
structure IsSegment (cs : List Char) : Prop where
  slash : '/' ∉ cs
  plain : ∀ c ∈ cs, inPath c = true
  solid : Solid cs
  unescaped : ¬ HasEscape cs

lemma writtenPath_slash {s : List Char} (h : '/' ∉ s) : '/' ∉ writtenPath s :=
  slash_notMem_escapeExcept h

lemma solid_nil : Solid [] := ⟨nofun, nofun⟩

lemma settled_place (bare : Bool) (place : List Char) :
    settled bare (place ++ ['/']) = joined (front bare place ++ [[]]) :=
  settled_below bare place fun _ => List.forall_mem_singleton.mpr solid_nil

lemma writtenPath_below (place : List Char) (filled : segments ≠ [])
    (slash : ∀ s ∈ segments, '/' ∉ s) (solid : bare = false → ∀ s ∈ segments, Solid s) :
    writtenPath (settled bare (place ++ '/' :: joined segments)) =
      writtenPath (settled bare (place ++ ['/'])) ++ joined (segments.map writtenPath) := by
  have parts := splitOn_joined filled slash
  have below : settled bare (place ++ '/' :: joined segments) =
      joined (front bare place ++ segments) := by
    rw [settled_below bare place (by rwa [parts]), parts]
  rw [below, settled_place, writtenPath_joined, writtenPath_joined, List.map_append,
    List.map_append]
  exact joined_append _ (by simpa using filled)

/-! ### Where segments come from -/

lemma splitOn_writtenPath (filled : segments ≠ []) (slash : ∀ s ∈ segments, '/' ∉ s) :
    (writtenPath (joined segments)).splitOn '/' = segments.map writtenPath := by
  rw [writtenPath_joined]
  refine splitOn_joined (by simpa using filled) ?_
  rw [List.forall_mem_map]
  exact fun s hs => writtenPath_slash (slash s hs)

lemma splitOn_place (bare : Bool) (place rest : List Char) :
    (writtenPath (settled bare (place ++ ['/'])) ++ rest).splitOn '/' =
      (front bare place).map writtenPath ++ rest.splitOn '/' := by
  have parts : rest.splitOn '/' ≠ [] := List.splitOn_ne_nil '/' rest
  have whole : writtenPath (settled bare (place ++ ['/'])) ++ rest =
      joined ((front bare place).map writtenPath ++ rest.splitOn '/') := by
    rw [settled_place, writtenPath_joined, List.map_append, joined_append _ parts, joined_splitOn]
    rfl
  rw [whole]
  refine splitOn_joined (List.append_ne_nil_of_right_ne_nil _ parts) fun s hs => ?_
  rcases List.mem_append.mp hs with hs | hs
  · obtain ⟨t, ht, rfl⟩ := List.mem_map.mp hs
    exact writtenPath_slash (slash_notMem_front ht)
  · exact Text.notMem_of_mem_splitOn hs

/-- What stands below a place are some of the segments of the place and some of those that were put
there, in this order. -/
lemma settled_parts (place text : List Char) :
    ∃ kept added : List (List Char),
      settled false (place ++ '/' :: text) = joined (kept ++ added) ∧
      (∀ s ∈ kept, '/' ∉ s) ∧ kept.length ≤ (front false place).length ∧
      added.Sublist (text.splitOn '/') ∧ ∀ s ∈ added, Solid s := by
  have front_eq : front false place = ((place.splitOn '/').foldl keep []).reverse := rfl
  obtain ⟨added, base, whole, sub, solid, left⟩ :=
    foldl_keep ((place.splitOn '/').foldl keep []) (text.splitOn '/')
  refine ⟨base.reverse, added.reverse, ?_, fun s hs => ?_, ?_, sub,
    fun s hs => solid s (List.mem_reverse.mp hs)⟩
  · have dots : settled false (place ++ '/' :: text) = withoutDots (place ++ '/' :: text) := rfl
    rw [dots, withoutDots_eq, Text.splitOn_append_cons, List.foldl_append, whole,
      List.reverse_append]
  · have kept : s ∈ front false place := by
      rw [front_eq, List.mem_reverse]
      exact left.subset (List.mem_reverse.mp hs)
    exact slash_notMem_front kept
  · rw [front_eq, List.length_reverse, List.length_reverse]
    exact left.length_le

/-- The segments below a place are some of those that were put there. -/
lemma sources_below (filled : rest ≠ [])
    (h : writtenPath (settled false (place ++ '/' :: text)) =
      writtenPath (settled false (place ++ ['/'])) ++ rest) :
    ∃ segments : List (List Char), segments.Sublist (text.splitOn '/') ∧
      (∀ s ∈ segments, Solid s) ∧ segments.map writtenPath = rest.splitOn '/' := by
  obtain ⟨kept, added, long, unslashed, fewer, sub, solid⟩ := settled_parts place text
  rw [long] at h
  have parts : kept ++ added ≠ [] := by
    intro none
    rw [none] at h
    exact filled (List.append_eq_nil_iff.mp h.symm).2
  have slash : ∀ s ∈ kept ++ added, '/' ∉ s := fun s hs =>
    (List.mem_append.mp hs).elim (unslashed s) fun new =>
      Text.notMem_of_mem_splitOn (sub.subset new)
  have same := congrArg (List.splitOn '/') h
  rw [splitOn_writtenPath parts slash, splitOn_place, List.map_append] at same
  -- the place has kept no more than it had, so the last segments are new
  have lengths := congrArg List.length same
  simp only [List.length_append, List.length_map] at lengths
  have ends : rest.splitOn '/' <:+ kept.map writtenPath ++ added.map writtenPath := by
    rw [same]
    exact List.suffix_append _ _
  obtain ⟨first, cut⟩ : rest.splitOn '/' <:+ added.map writtenPath :=
    List.suffix_of_suffix_length_le ends (List.suffix_append _ _)
      (by rw [List.length_map]; omega)
  obtain ⟨below, segments, split, -, written⟩ := List.map_eq_append_iff.mp cut.symm
  have new : segments.Sublist added := split ▸ List.sublist_append_right below segments
  exact ⟨segments, new.trans sub, fun s hs => solid s (new.subset hs), written⟩

/-! ### Room for segments -/

/-- The characters of some segments, with one mark for each of them. -/
def room : List (List Char) → Nat
  | [] => 0
  | s :: segments => s.length + 1 + room segments

lemma length_joined (filled : segments ≠ []) : (joined segments).length + 1 = room segments := by
  induction segments with
  | nil => exact absurd rfl filled
  | cons s segments ih =>
    cases segments with
    | nil => simp [joined, room]
    | cons next segments =>
      have cut : joined (s :: next :: segments) = s ++ '/' :: joined (next :: segments) := by
        rw [joined, List.intercalate_cons_cons, List.append_assoc]
        rfl
      have later := ih (List.cons_ne_nil _ _)
      simp only [cut, room, List.length_append, List.length_cons] at later ⊢
      omega

lemma room_sublist (h : segments.Sublist more) :
    room segments ≤ room more ∧ (room segments = room more → segments = more) := by
  induction h with
  | slnil => exact ⟨Nat.le_refl _, fun _ => rfl⟩
  | cons s h ih =>
    simp only [room] at ih ⊢
    omega
  | cons_cons s h ih =>
    simp only [room] at ih ⊢
    exact ⟨by omega, fun same => congrArg _ (ih.2 (by omega))⟩

/-- Segments of a text up to the end of its path take all the room of the text only if they are all
its segments and no mark ends the path. -/
lemma whole_of_room (filled : more ≠ [])
    (sub : segments.Sublist (((joined more).takeWhile inPath).splitOn '/'))
    (full : room more ≤ room segments) :
    (joined more).takeWhile inPath = joined more ∧ segments = (joined more).splitOn '/' := by
  obtain ⟨less, all⟩ := room_sublist sub
  have cut := List.takeWhile_prefix (p := inPath) (l := joined more)
  have shorter := cut.length_le
  have there := length_joined (List.splitOn_ne_nil '/' ((joined more).takeWhile inPath))
  have put := length_joined filled
  rw [joined_splitOn] at there
  have uncut := cut.eq_of_length (by omega)
  have same := all (by omega)
  rw [uncut] at same
  exact ⟨uncut, same⟩

/-! ### The place of a post -/

variable {blog id : List Char}

def postSegments (blog id : List Char) : List (List Char) :=
  ["blogs".toList, blog, "posts".toList, id]

/-- A path leads to a post of a blog: it has four segments, and the second and the last one are read
as the two ids. -/
def LeadsTo (blog id path : List Char) : Prop :=
  ∃ b p, Text.splitWhere (· = '/') path = ["blogs".toList, b, "posts".toList, p] ∧
    unescape b = Text.encodeUtf8 blog ∧ unescape p = Text.encodeUtf8 id

lemma LeadsTo.head {path : List Char} (h : LeadsTo blog id path) : path.head? = some 'b' := by
  obtain ⟨b, p, parts, -⟩ := h
  rw [Text.splitWhere_eq_splitOn] at parts
  rw [← joined_splitOn path, parts]
  rfl

lemma LeadsTo.unique {blog' id' path : List Char} (h : LeadsTo blog id path)
    (h' : LeadsTo blog' id' path) : blog = blog' ∧ id = id' := by
  have back (cs : List Char) : Text.decodeUtf8 false 0 (Text.encodeUtf8 cs) = .ok cs :=
    Text.decodeUtf8_encodeUtf8 cs
  have injective {cs ds : List Char} (same : Text.encodeUtf8 cs = Text.encodeUtf8 ds) :
      cs = ds := Except.ok.inj ((back cs).symm.trans (same ▸ back ds))
  obtain ⟨b, p, parts, hb, hp⟩ := h
  obtain ⟨b', p', parts', hb', hp'⟩ := h'
  simp only [parts, List.cons.injEq, true_and, and_true] at parts'
  obtain ⟨rfl, rfl⟩ := parts'
  exact ⟨injective (hb.symm.trans hb'), injective (hp.symm.trans hp')⟩

lemma joined_postSegments (blog id : List Char) :
    joined (postSegments blog id) =
      "blogs".toList ++ '/' :: (blog ++ '/' :: ("posts".toList ++ '/' :: id)) := by
  simp [joined, postSegments, List.intercalate]

/-- The ids are split like the rest of a path. -/
lemma splitOn_postSegments (blog id : List Char) :
    (joined (postSegments blog id)).splitOn '/' =
      "blogs".toList :: (blog.splitOn '/' ++ "posts".toList :: id.splitOn '/') := by
  have blogs : "blogs".toList.splitOn '/' = ["blogs".toList] := Text.splitOn_of_notMem (by decide)
  have posts : "posts".toList.splitOn '/' = ["posts".toList] := Text.splitOn_of_notMem (by decide)
  rw [joined_postSegments, Text.splitOn_append_cons, Text.splitOn_append_cons,
    Text.splitOn_append_cons, blogs, posts]
  rfl

/-- A path ends at the first mark in the ids. -/
lemma takeWhile_postSegments :
    (joined (postSegments blog id)).takeWhile inPath = joined (postSegments blog id) ↔
      (∀ c ∈ blog, inPath c = true) ∧ ∀ c ∈ id, inPath c = true := by
  have plain : ∀ c ∈ "blogs".toList ++ "posts".toList, inPath c = true :=
    List.all_eq_true.mp (by decide)
  rw [List.forall_mem_append] at plain
  rw [List.takeWhile_eq_self_iff, joined_postSegments]
  have slash : inPath '/' = true := rfl
  simp only [List.forall_mem_append, List.forall_mem_cons, slash, true_and]
  exact ⟨fun ⟨_, hb, _, hi⟩ => ⟨hb, hi⟩, fun ⟨hb, hi⟩ => ⟨plain.1, hb, plain.2, hi⟩⟩

/-- A text that is its own only part has no separator. -/
lemma slash_notMem_of_length (h : (cs.splitOn '/').length = 1) :
    cs.splitOn '/' = [cs] ∧ '/' ∉ cs := by
  obtain ⟨part, one⟩ := List.length_eq_one_iff.mp h
  have same : joined [part] = cs := one ▸ joined_splitOn cs
  obtain rfl : part = cs := by simpa [joined] using same
  exact ⟨one, Text.notMem_of_mem_splitOn (one ▸ List.mem_singleton_self part)⟩

/-- Ids that are segments are found below a place. -/
lemma leadsTo_below (hb : IsSegment blog) (hi : IsSegment id) (bare : Bool) (place : List Char) :
    ∃ rest, writtenPath (settled bare
        (place ++ '/' :: (joined (postSegments blog id)).takeWhile inPath)) =
          writtenPath (settled bare (place ++ ['/'])) ++ rest ∧ LeadsTo blog id rest := by
  have slash : ∀ s ∈ postSegments blog id, '/' ∉ s := by
    simp [postSegments, hb.slash, hi.slash]
  have solid : ∀ s ∈ postSegments blog id, Solid s := by
    have words : Solid "blogs".toList ∧ Solid "posts".toList := by simp [Solid]
    simp only [postSegments, List.forall_mem_cons]
    exact ⟨words.1, hb.solid, words.2, hi.solid, List.forall_mem_nil _⟩
  have filled : postSegments blog id ≠ [] := List.cons_ne_nil _ _
  rw [takeWhile_postSegments.mpr ⟨hb.plain, hi.plain⟩,
    writtenPath_below place filled slash fun _ => solid]
  refine ⟨_, rfl, writtenPath blog, writtenPath id, ?_, ?_, ?_⟩
  · rw [Text.splitWhere_eq_splitOn, ← writtenPath_joined, splitOn_writtenPath filled slash]
    rfl
  · rw [writtenPath, unescape_escapeExcept, unescape_of_not_hasEscape hb.unescaped]
  · rw [writtenPath, unescape_escapeExcept, unescape_of_not_hasEscape hi.unescaped]

lemma ids_of_four {s₁ s₂ s₃ s₄ : List Char}
    (whole : [s₁, s₂, s₃, s₄] = (joined (postSegments blog id)).splitOn '/') :
    '/' ∉ blog ∧ '/' ∉ id ∧ s₂ = blog ∧ s₄ = id := by
  rw [splitOn_postSegments] at whole
  have lengths := congrArg List.length whole
  have parts₂ := List.length_pos_iff.mpr (List.splitOn_ne_nil '/' blog)
  have parts₄ := List.length_pos_iff.mpr (List.splitOn_ne_nil '/' id)
  simp only [List.length_cons, List.length_nil, List.length_append] at lengths
  have alone : (blog.splitOn '/').length = 1 ∧ (id.splitOn '/').length = 1 := by omega
  obtain ⟨one₂, slash₂⟩ := slash_notMem_of_length alone.1
  obtain ⟨one₄, slash₄⟩ := slash_notMem_of_length alone.2
  rw [one₂, one₄] at whole
  simp only [List.cons_append, List.nil_append, List.cons.injEq, and_true] at whole
  obtain ⟨-, same₂, -, same₄⟩ := whole
  exact ⟨slash₂, slash₄, same₂, same₄⟩

/-- Only ids that are segments are found below a place without dots. -/
lemma isSegment_of_leadsTo {rest : List Char}
    (h : writtenPath (settled false
        (place ++ '/' :: (joined (postSegments blog id)).takeWhile inPath)) =
      writtenPath (settled false (place ++ ['/'])) ++ rest)
    (leads : LeadsTo blog id rest) : IsSegment blog ∧ IsSegment id := by
  obtain ⟨b, p, parts, hb, hp⟩ := leads
  rw [Text.splitWhere_eq_splitOn] at parts
  have filled : rest ≠ [] := by
    rintro rfl
    simp at parts
  obtain ⟨segments, sub, solid, written⟩ := sources_below filled h
  rw [parts] at written
  obtain ⟨s₁, s₂, s₃, s₄, rfl⟩ : ∃ s₁ s₂ s₃ s₄, segments = [s₁, s₂, s₃, s₄] :=
    List.length_eq_four.mp (by simpa using congrArg List.length written)
  simp only [List.map_cons, List.map_nil, List.cons.injEq, and_true] at written
  obtain ⟨blogs, rfl, posts, rfl⟩ := written
  have read (s : List Char) : unescape (writtenPath s) = unescape s := unescape_escapeExcept s
  rw [read] at hb hp
  have word₁ : unescape s₁ = Text.encodeUtf8 "blogs".toList := by rw [← read, blogs]; rfl
  have word₃ : unescape s₃ = Text.encodeUtf8 "posts".toList := by rw [← read, posts]; rfl
  -- each of the four is at least as long as what it is read as, so they take all the room
  have long₁ := (length_of_unescape word₁).1
  have long₂ := length_of_unescape hb
  have long₃ := (length_of_unescape word₃).1
  have long₄ := length_of_unescape hp
  have full : room (postSegments blog id) ≤ room [s₁, s₂, s₃, s₄] := by
    simp only [room, postSegments]
    omega
  obtain ⟨uncut, whole⟩ := whole_of_room (List.cons_ne_nil _ _) sub full
  obtain ⟨slash₂, slash₄, rfl, rfl⟩ := ids_of_four whole
  obtain ⟨plain₂, plain₄⟩ := takeWhile_postSegments.mp uncut
  simp only [List.forall_mem_cons] at solid
  exact ⟨⟨slash₂, plain₂, solid.2.1, fun escaped => Nat.lt_irrefl _ (long₂.2 escaped)⟩,
    ⟨slash₄, plain₄, solid.2.2.2.1, fun escaped => Nat.lt_irrefl _ (long₄.2 escaped)⟩⟩

end BlogConsole.Url

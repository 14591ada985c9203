import BlogConsole.Post.Validation
import BlogConsole.Post.Wire
import BlogConsole.Proofs.Timestamp.RoundTrip

/-!
Posts that are written are read back, in both forms.

An absent field is left out or null, and no field that is there is null. So every field is found
under the one of its names that its form gives it, or it is known to be absent.

Writing keeps whole minutes of an offset from UTC only. Offsets that were read have no other ones,
so that all that is read can be written and read again.
-/

namespace BlogConsole

open Checked Json

variable {α : Type} {fit : α → Prop} {check : Json → Checked α} {encode : α → Json}
  {form : WireForm}

/-! ### Members -/

namespace WireForm

variable {fields : List (String × Option Json)} {name other : String} {o : Option Json}

/-- What stands for a field in an object, if anything does. -/
def value? : WireForm → Option Json → Option Json
  | wire, o => o
  | full, o => some (o.getD .null)

lemma members_cons (form : WireForm) (name : String) (o : Option Json)
    (fields : List (String × Option Json)) :
    form.members ((name, o) :: fields) =
      ((form.value? o).map (name, ·)).toList ++ form.members fields := by
  cases form with
  | full => rfl
  | wire => cases o <;> rfl

lemma member?_cons (form : WireForm) (found name : String) (o : Option Json)
    (fields : List (String × Option Json)) :
    member? (form.members ((found, o) :: fields)) name =
      if found = name then (form.value? o).or (member? (form.members fields) name)
      else member? (form.members fields) name := by
  rw [members_cons, member?]
  cases form.value? o with
  | none => simp [member?]
  | some v =>
    rw [Option.map_some, Option.toList_some, List.singleton_append, List.lookup_cons]
    by_cases h : found = name
    · rw [if_pos h, h, beq_self_eq_true]
      rfl
    · rw [if_neg h, beq_false_of_ne (Ne.symm h)]
      rfl

lemma member?_absent (form : WireForm) (h : name ∉ fields.map Prod.fst) :
    member? (form.members fields) name = none := by
  induction fields with
  | nil => cases form <;> rfl
  | cons f fields ih =>
    rw [List.map_cons, List.mem_cons, not_or] at h
    rw [member?_cons, if_neg (Ne.symm h.1), ih h.2]

lemma member?_mem (form : WireForm) (distinct : (fields.map Prod.fst).Nodup)
    (h : (name, o) ∈ fields) :
    member? (form.members fields) name = form.value? o := by
  induction fields with
  | nil => cases h
  | cons f fields ih =>
    rw [List.map_cons, List.nodup_cons] at distinct
    rw [member?_cons]
    obtain rfl | h := List.mem_cons.mp h
    · rw [if_pos rfl, form.member?_absent distinct.1, Option.or_none]
    · have later : f.1 ≠ name := by
        rintro rfl
        exact distinct.1 (List.mem_map.mpr ⟨_, h, rfl⟩)
      rw [if_neg later, ih distinct.2 h]

end WireForm

/-! ### Fields -/

/-- Checking undoes the writing of fit values, only such values are read, and null is not written.
-/
structure Reads (fit : α → Prop) (check : Json → Checked α) (encode : α → Json) : Prop where
  valid : ∀ a, fit a → check (encode a) = .valid a
  fits : ∀ v a, check v = .valid a → fit a
  ne_null : ∀ a, encode a ≠ .null

/-- Any value will do. -/
def Any (_ : α) : Prop := True

section

variable {fields : List (String × Option Json)} {name other : String} {o : Option α}

/-- A field is found under the name that its form gives it, if its other name is no name of a
field. -/
lemma field?_members {v : Option Json} (distinct : (fields.map Prod.fst).Nodup)
    (mem : (form.pick name other, v) ∈ fields)
    (unused : form.pick other name ∈ fields.map Prod.fst → other = name) :
    field? (form.members fields) name other =
      (form.value? v).map (form.pick name other, ·) := by
  have used := form.member?_mem distinct mem
  by_cases same : other = name
  · subst same
    have pick : form.pick other other = other := by cases form <;> rfl
    rw [pick] at used ⊢
    rw [field?, used]
    cases form.value? v <;> rfl
  · have absent := form.member?_absent (mt unused same)
    cases form with
    | wire =>
      rw [WireForm.pick] at used absent ⊢
      rw [field?, used, absent]
      cases v <;> rfl
    | full =>
      rw [WireForm.pick] at used absent ⊢
      rw [field?, used, absent]

/-- An optional field is read back under the name that its form gives it, if its other name is no
name of a field. -/
lemma optional_members (h : Reads fit check encode) (ho : ∀ a ∈ o, fit a)
    (distinct : (fields.map Prod.fst).Nodup)
    (mem : (form.pick name other, o.map encode) ∈ fields)
    (unused : form.pick other name ∈ fields.map Prod.fst → other = name) :
    Json.optional check (form.members fields) name other = .valid o := by
  rw [Json.optional, field?_members distinct mem unused]
  cases o with
  | none => cases form <;> rfl
  | some a =>
    have written : form.value? ((some a).map encode) = some (encode a) := by cases form <;> rfl
    rw [written, Option.map_some]
    split
    · next h => cases h
    · next null => exact absurd (Prod.mk.inj (Option.some.inj null)).2 (h.ne_null a)
    · next found =>
      obtain ⟨rfl, rfl⟩ := Prod.mk.inj (Option.some.inj found)
      rw [h.valid a (ho a rfl)]
      rfl

lemma optional_members_self (h : Reads fit check encode) (ho : ∀ a ∈ o, fit a)
    (distinct : (fields.map Prod.fst).Nodup) (mem : (name, o.map encode) ∈ fields) :
    Json.optional check (form.members fields) name name = .valid o := by
  have pick : form.pick name name = name := by cases form <;> rfl
  exact optional_members h ho distinct (pick.symm ▸ mem) fun _ => rfl

lemma Reads.optional (h : Reads fit check encode) {ms : List (String × Json)}
    (read : Json.optional check ms name other = .valid o) : ∀ a ∈ o, fit a := by
  rintro a rfl
  rw [Json.optional] at read
  split at read
  · cases read
  · cases read
  · obtain ⟨_, found, same⟩ := map_eq_valid.mp (under_eq_valid.mp read)
    obtain rfl := Option.some.inj same
    exact h.fits _ _ found

end

/-! ### Parts -/

lemma reads_string : Reads Any asString .string :=
  ⟨fun _ _ => rfl, fun _ _ _ => trivial, fun _ h => by cases h⟩

lemma reads_timestamp : Reads Timestamp.IsWhole asTimestamp fun t => .string t.text := by
  refine ⟨fun t whole => by rw [asTimestamp, Timestamp.ofJson_text whole], fun v t h => ?_,
    fun _ h => by cases h⟩
  rw [asTimestamp] at h
  split at h
  · next read =>
    obtain rfl := Checked.valid.inj h
    exact Timestamp.isWhole_ofJson read
  · cases h

lemma Reads.list (h : Reads fit check encode) :
    Reads (fun as => ∀ a ∈ as, fit a) (asList check) fun as => .array (as.map encode) := by
  have items (as : List α) (index : Nat) (has : ∀ a ∈ as, fit a) :
      checkItems check index (as.map encode) = .valid as := by
    induction as generalizing index with
    | nil => rfl
    | cons a as ih =>
      rw [List.forall_mem_cons] at has
      rw [List.map_cons, checkItems, h.valid a has.1, ih _ has.2]
      rfl
  have read (vs : List Json) (index : Nat) (as : List α)
      (valid : checkItems check index vs = .valid as) : ∀ a ∈ as, fit a := by
    induction vs generalizing index as with
    | nil =>
      obtain rfl := Checked.valid.inj valid
      exact List.forall_mem_nil _
    | cons v vs ih =>
      obtain ⟨_, first, rest, others, rfl⟩ := apply_eq_valid.mp valid
      obtain ⟨a, item, rfl⟩ := map_eq_valid.mp first
      exact List.forall_mem_cons.mpr ⟨h.fits v a (under_eq_valid.mp item), ih _ rest others⟩
  refine ⟨fun as has => items as 0 has, fun v as valid => ?_, fun _ h => by cases h⟩
  cases v with
  | array vs => exact read vs 0 as valid
  | _ => cases valid

/-! ### Posts -/

lemma Author.nodup_fields (a : Author) : ((a.fields form).map Prod.fst).Nodup := by
  change ["id", form.pick "displayName" "display_name", "url"].Nodup
  cases form <;> decide

lemma Post.nodup_fields (p : Post) : ((p.fields form).map Prod.fst).Nodup := by
  change ["id", "title", "content", "url", "published", "updated", "labels", "author"].Nodup
  decide

lemma PostList.nodup_fields (l : PostList) : ((l.fields form).map Prod.fst).Nodup := by
  change ["items", form.pick "nextPageToken" "next_page_token"].Nodup
  cases form <;> decide

/-- A post whose timestamps have offsets of whole minutes, if they have any. -/
structure Post.IsWhole (p : Post) : Prop where
  published : ∀ t ∈ p.published, t.IsWhole
  updated : ∀ t ∈ p.updated, t.IsWhole

def PostList.IsWhole (l : PostList) : Prop := ∀ ps ∈ l.items, ∀ p ∈ ps, p.IsWhole

/-- An outcome with such a post. -/
def CreateResult.IsWhole (r : CreateResult) : Prop := r.post.IsWhole

lemma any_mem (o : Option α) : ∀ a ∈ o, Any a := fun _ _ => trivial

lemma reads_author (form : WireForm) : Reads Any Author.ofJson (Author.toJson form) := by
  refine ⟨fun a _ => ?_, fun _ _ _ => trivial, fun _ h => by cases h⟩
  have distinct : ((a.fields form).map Prod.fst).Nodup := a.nodup_fields
  have unused : form.pick "display_name" "displayName" ∉ (a.fields form).map Prod.fst := by
    change _ ∉ ["id", form.pick "displayName" "display_name", "url"]
    cases form <;> decide
  simp only [Author.toJson, Author.ofJson]
  rw [optional_members_self reads_string (any_mem a.id) distinct (by simp [Author.fields]),
    optional_members reads_string (any_mem a.displayName) distinct (by simp [Author.fields])
      fun h => (unused h).elim,
    optional_members_self reads_string (any_mem a.url) distinct (by simp [Author.fields])]
  rfl

lemma Post.isWhole_ofJson {v : Json} {p : Post} (h : Post.ofJson v = .valid p) : p.IsWhole := by
  cases v with
  | object ms =>
    simp only [Post.ofJson, apply_eq_valid, map_eq_valid] at h
    obtain ⟨_, ⟨_, ⟨_, ⟨_, ⟨_, ⟨_, ⟨_, ⟨_, -, rfl⟩, _, -, rfl⟩, _, -, rfl⟩, _, -, rfl⟩,
      _, published, rfl⟩, _, updated, rfl⟩, _, -, rfl⟩, _, -, rfl⟩ := h
    exact ⟨reads_timestamp.optional published, reads_timestamp.optional updated⟩
  | _ => cases h

lemma reads_post (form : WireForm) : Reads Post.IsWhole Post.ofJson (Post.toJson form) := by
  refine ⟨fun p whole => ?_, fun _ _ => Post.isWhole_ofJson, fun _ h => by cases h⟩
  have distinct : ((p.fields form).map Prod.fst).Nodup := p.nodup_fields
  simp only [Post.toJson, Post.ofJson]
  rw [optional_members_self reads_string (any_mem p.id) distinct (by simp [Post.fields]),
    optional_members_self reads_string (any_mem p.title) distinct (by simp [Post.fields]),
    optional_members_self reads_string (any_mem p.content) distinct (by simp [Post.fields]),
    optional_members_self reads_string (any_mem p.url) distinct (by simp [Post.fields]),
    optional_members_self reads_timestamp whole.published distinct (by simp [Post.fields]),
    optional_members_self reads_timestamp whole.updated distinct (by simp [Post.fields]),
    optional_members_self (o := p.labels) reads_string.list (fun _ _ _ _ => trivial) distinct
      (by simp [Post.fields]),
    optional_members_self (reads_author form) (any_mem p.author) distinct (by simp [Post.fields])]
  rfl

lemma reads_postList (form : WireForm) :
    Reads PostList.IsWhole PostList.ofJson (PostList.toJson form) := by
  refine ⟨fun l whole => ?_, fun v l h => ?_, fun _ h => by cases h⟩
  · have distinct : ((l.fields form).map Prod.fst).Nodup := l.nodup_fields
    have unused : form.pick "next_page_token" "nextPageToken" ∉ (l.fields form).map Prod.fst := by
      change _ ∉ ["items", form.pick "nextPageToken" "next_page_token"]
      cases form <;> decide
    simp only [PostList.toJson, PostList.ofJson]
    rw [optional_members_self (reads_post form).list whole distinct (by simp [PostList.fields]),
      optional_members reads_string (any_mem l.nextPageToken) distinct
        (by simp [PostList.fields]) fun h => (unused h).elim]
    rfl
  · cases v with
    | object ms =>
      obtain ⟨_, first, _, -, rfl⟩ := apply_eq_valid.mp h
      obtain ⟨_, items, rfl⟩ := map_eq_valid.mp first
      exact (reads_post form).list.optional items
    | _ => cases h

lemma reads_createResult (form : WireForm) :
    Reads CreateResult.IsWhole CreateResult.ofJson (CreateResult.toJson form) := by
  refine ⟨fun r whole => ?_, fun v r h => ?_, fun _ h => by cases h⟩
  · have post : required Post.ofJson
        [("post", r.post.toJson form), ("title", .string r.title), ("message", .string r.message)]
        "post" = .valid r.post := by
      change ((Post.ofJson (r.post.toJson form)).under _) = _
      rw [(reads_post form).valid _ whole]
      rfl
    simp only [CreateResult.toJson, CreateResult.ofJson]
    rw [post]
    rfl
  · cases v with
    | object ms =>
      simp only [CreateResult.ofJson, apply_eq_valid, map_eq_valid] at h
      obtain ⟨_, ⟨_, ⟨_, post, rfl⟩, _, -, rfl⟩, _, -, rfl⟩ := h
      rw [required] at post
      split at post
      · cases post
      · exact Post.isWhole_ofJson (under_eq_valid.mp post)
    | _ => cases h

/-! ### Round trips -/

/-- Checking undoes encoding: what was accepted is fit, it is accepted again and is the same, no two
fit values are encoded alike, and a fit value that was encoded and checked is encoded as before. -/
structure RoundTrips (fit : α → Prop) (encode : α → Json) (check : Json → Checked α) : Prop where
  fits : ∀ v a, check v = .valid a → fit a
  valid : ∀ a, fit a → check (encode a) = .valid a
  accepted : ∀ v a, check v = .valid a → check (encode a) = check v
  injective : ∀ a b, fit a → fit b → encode a = encode b → a = b
  stable : ∀ a, fit a → (check (encode a)).map encode = .valid (encode a)

lemma Reads.roundTrips (h : Reads fit check encode) : RoundTrips fit encode check where
  fits := h.fits
  valid := h.valid
  accepted v a ha := (h.valid a (h.fits v a ha)).trans ha.symm
  injective a b ha hb same := by
    have read := congrArg check same
    rw [h.valid a ha, h.valid b hb] at read
    exact Checked.valid.inj read
  stable a ha := by rw [h.valid a ha, Checked.map_valid]

/-- **Posts that are written are read back.** In both forms, authors, posts, pages and outcomes are
read as what was written: absent fields are told from empty ones, labels keep their order, and
timestamps keep their fraction and their offset. Offsets have to be of whole minutes, as they are in
all that was read. -/
theorem models_round_trip (form : WireForm) :
    RoundTrips Any (Author.toJson form) Author.ofJson ∧
      RoundTrips Post.IsWhole (Post.toJson form) Post.ofJson ∧
      RoundTrips PostList.IsWhole (PostList.toJson form) PostList.ofJson ∧
      RoundTrips CreateResult.IsWhole (CreateResult.toJson form) CreateResult.ofJson :=
  ⟨(reads_author form).roundTrips, (reads_post form).roundTrips, (reads_postList form).roundTrips,
    (reads_createResult form).roundTrips⟩

end BlogConsole

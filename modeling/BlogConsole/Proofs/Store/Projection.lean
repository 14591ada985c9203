import BlogConsole.Proofs.Listing.Paging
import BlogConsole.Proofs.Post.Projection

/-!
The fields that a store keeps of the posts it serves.

A fetched post is projected to the fields that its call names, and the posts of a page to those that
the call names between `items(` and the next parenthesis. Both ways lead to one projection.
-/

namespace BlogConsole

def PostList.mapItems (g : Post → Post) (page : PostList) : PostList :=
  { page with items := page.items.map fun posts => posts.map g }

lemma itemFieldNames_items {fields : List Char} (unclosed : ')' ∉ fields) (rest : List Char) :
    itemFieldNames ("items(".toList ++ fields ++ ')' :: rest) = some (fieldNames fields) := by
  have found : afterWord "items(".toList ("items(".toList ++ fields ++ ')' :: rest) =
      some (fields ++ ')' :: rest) := by
    rw [List.append_assoc]
    exact if_pos (List.isPrefixOf_iff_prefix.mpr (List.prefix_append _ _))
  have closed : (fields ++ ')' :: rest).contains ')' = true := by simp
  have inside : (fields ++ ')' :: rest).takeWhile (· ≠ ')') = fields := by
    have kept : ∀ c ∈ fields, decide (c ≠ ')') = true := fun c hc =>
      decide_eq_true fun same => unclosed (same ▸ hc)
    rw [List.takeWhile_append_of_pos kept, List.takeWhile_cons_of_neg (by simp), List.append_nil]
  rw [itemFieldNames, found]
  dsimp only
  rw [if_pos closed, inside]

namespace Store

variable {s : Store} {blog : Option String} {p : Post} {before after : List Post}

/-- The first post with an id, or the first one without, is found by what it has in place of one. -/
lemma find?_first (first : ∀ q ∈ before, q.id ≠ p.id) :
    (before ++ p :: after).find? (Argument.value (.ofOption p.id)).isIdOf = some p := by
  have found (q : Post) : (Argument.value (.ofOption p.id)).isIdOf q = decide (q.id = p.id) := by
    cases p.id with
    | none => cases h : q.id <;> simp [Json.ofOption, Argument.isIdOf, h]
    | some id => rfl
  have passed : before.find? (Argument.value (.ofOption p.id)).isIdOf = none :=
    List.find?_eq_none.mpr fun q hq => by rw [found, decide_eq_true_eq]; exact first q hq
  rw [List.find?_append, passed, Option.none_or, List.find?_cons_of_pos]
  rw [found, decide_eq_true_eq]

/-- A post is fetched with the fields that are named, and the store stays as it is. -/
lemma answer_get (hf : s.failWith = none) (posts : s.posts = before ++ p :: after)
    (first : ∀ q ∈ before, q.id ≠ p.id) (fields : String) :
    s.answer blog (.get (.value (.ofOption p.id)) (some fields)) =
      (s, [], .ok (p.project (fieldNames fields.toList))) := by
  have reply : s.get (.value (.ofOption p.id)) (some fields) =
      .ok (p.project (fieldNames fields.toList)) := by
    rw [get, hf]
    dsimp only
    rw [posts, find?_first first]
    rfl
  rw [answer, reply]

lemma answer_list (s : Store) (blog fields token : Option String) (maxResults : Option Int) :
    s.answer blog (.list fields token maxResults) =
      (s, (s.answer blog (.list none token maxResults)).2.1,
        (s.answer blog (.list none token maxResults)).2.2.map
          (PostList.mapItems (·.project (selected fields)))) := by
  have whole (posts : List Post) : posts.map (·.project []) = posts := List.map_id posts
  simp only [answer, list]
  cases s.failWith with
  | some e => rfl
  | none =>
    cases pageOf? token with
    | none => rfl
    | some page =>
      have unselected : (itemFieldNames (Option.getD none "").toList).getD [] = [] := rfl
      rw [unselected]
      simp only [whole, Except.map, PostList.mapItems, selected]
      cases slice s.posts (page * s.effectiveSize maxResults)
        (page * s.effectiveSize maxResults + s.effectiveSize maxResults) <;> rfl

/-- **Projections are exact, and the same on both ways.** A selection names what stands between its
commas, without blanks. The first post with an id is fetched with its named fields, and this always
succeeds. A listing that selects the same fields of its items serves the page that it serves
otherwise, with the same projection of its posts, whatever follows the selection. No names keep a
post as it is, and so does the name that stands for all fields. Other names keep the fields that
they name, each with its value; it is as if the named fields were written and what was written were
checked, if offsets are of whole minutes, which is all that is written. Projecting once more changes
nothing, and texts that name the same fields project alike. -/
theorem projects_exactly (s : Store) (blog : Option String) (fields : String)
    (hf : s.failWith = none) :
    let names := fieldNames fields.toList
    (∀ name, name ∈ names ↔
        name ≠ [] ∧ ∃ part ∈ fields.toList.splitOn ',', Text.trim part = name) ∧
      (∀ before p after, s.posts = before ++ p :: after → (∀ q ∈ before, q.id ≠ p.id) →
        s.answer blog (.get (.value (.ofOption p.id)) (some fields)) =
          (s, [], .ok (p.project names))) ∧
      (∀ rest token maxResults, ')' ∉ fields.toList →
        (s.answer blog (.list (some ("items(" ++ fields ++ ")" ++ rest)) token maxResults)).2.2 =
          (s.answer blog (.list none token maxResults)).2.2.map
            (PostList.mapItems (·.project names))) ∧
      ∀ p : Post,
        (names = [] ∨ Post.allFields ∈ names → p.project names = p) ∧
        (¬ (names = [] ∨ Post.allFields ∈ names) →
          (∀ f : Post.Field,
            f.get (p.project names) = if f.name.toList ∈ names then f.get p else none) ∧
          (p.IsWhole → Post.ofJson (p.dump names) = .valid (p.project names))) ∧
        (p.project names).project names = p.project names ∧
        ∀ others : String, (∀ name, name ∈ fieldNames others.toList ↔ name ∈ names) →
          p.project (fieldNames others.toList) = p.project names := by
  intro names
  refine ⟨fun name => mem_fieldNames, fun before p after posts first => answer_get hf posts first _,
    fun rest token maxResults unclosed => ?_, fun p => ⟨fun all => Post.project_all all p,
      fun some_names => ⟨Post.get_project some_names p, Post.ofJson_dump some_names⟩,
      Post.project_project names p, fun others same => Post.project_congr same p⟩⟩
  have items : selected (some ("items(" ++ fields ++ ")" ++ rest)) = names := by
    have spelled : ("items(" ++ fields ++ ")" ++ rest).toList =
        "items(".toList ++ fields.toList ++ ')' :: rest.toList := by
      simp only [String.toList_append, List.append_assoc]
      rfl
    rw [selected, Option.getD_some, spelled, itemFieldNames_items unclosed]
    rfl
  rw [answer_list, items]

def signed : Post :=
  { Post.empty with
    id := some "a"
    title := some "Signed"
    published := some threePosts.clock
    labels := some ["b", "a"]
    author := some ⟨none, some "Ada", none⟩ }

/-- A store in which a post without an id comes first. -/
def signedSecond : Store := ofPosts [.empty, signed] 2 none threePosts.clock

theorem signed_projected :
    let kept : Post := { signed with id := none, title := none, published := none }
    (signedSecond.answer none (.get (.text "a") (some " author ,,labels, name,author"))).2.2 =
        .ok kept ∧
      (signedSecond.answer none
          (.list (some "items( author ,,labels, name,author),etag") none none)).2.2 =
        .ok ⟨some [.empty, kept], none⟩ := by
  intro kept
  obtain ⟨-, fetched, listed, -⟩ :=
    projects_exactly signedSecond none " author ,,labels, name,author" rfl
  have selection : ')' ∉ " author ,,labels, name,author".toList := by decide +kernel
  have get := fetched [.empty] signed [] rfl (by decide)
  exact ⟨(congrArg (fun answer => answer.2.2) get).trans rfl,
    (listed ",etag" none none selection).trans rfl⟩

/-- Not every name that is no name of a field is ignored. -/
theorem wildcard_keeps_all :
    ¬ ∀ (s : Store) (before after : List Post) (p : Post) (fields : String),
        s.failWith = none → s.posts = before ++ p :: after → (∀ q ∈ before, q.id ≠ p.id) →
        fieldNames fields.toList ≠ [] →
        ∃ q, (s.answer none (.get (.value (.ofOption p.id)) (some fields))).2.2 = .ok q ∧
          ∀ f : Post.Field,
            f.get q = if f.name.toList ∈ fieldNames fields.toList then f.get p else none := by
  intro ignored
  have first : ∀ q ∈ [Post.empty], q.id ≠ signed.id := by decide
  obtain ⟨q, reply, kept⟩ :=
    ignored signedSecond [.empty] [] signed "__all__" rfl rfl first (by decide +kernel)
  have posts : signedSecond.posts = [.empty] ++ signed :: [] := rfl
  rw [answer_get rfl posts first] at reply
  cases reply
  exact absurd (kept .title) (by decide +kernel)

end Store

end BlogConsole

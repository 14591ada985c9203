import BlogConsole.Post.Projection
import BlogConsole.Proofs.Post.RoundTrip
import BlogConsole.Proofs.Text.Split
import Mathlib

/-!
Keeping only some fields of a post.

A projection is told field by field. It is also what writing the named fields and checking what was
written comes to, so that nothing is lost on the way: not the names of authors, the dates or the
labels. One name is special, for it stands for all fields, whatever else is named.
-/

namespace BlogConsole

open Json

variable {names others : List (List Char)} {p q : Post}

/-! ### Names -/

/-- The names in a text are what stands between its commas, without the blanks around it, as long as
something is left. -/
lemma mem_fieldNames {name cs : List Char} :
    name ∈ fieldNames cs ↔ name ≠ [] ∧ ∃ part ∈ cs.splitOn ',', Text.trim part = name := by
  rw [fieldNames, Text.splitWhere_eq_splitOn, List.mem_filter, List.mem_map, decide_eq_true_eq,
    and_comm]

namespace Post

/-! ### Fields -/

inductive Field
  | id | title | content | url | published | updated | labels | author
  deriving DecidableEq, Repr

namespace Field

abbrev Value : Field → Type
  | id | title | content | url => String
  | published | updated => Timestamp
  | labels => List String
  | author => Author

def name : Field → String
  | id => "id"
  | title => "title"
  | content => "content"
  | url => "url"
  | published => "published"
  | updated => "updated"
  | labels => "labels"
  | author => "author"

def get : (f : Field) → Post → Option f.Value
  | id, p => p.id
  | title, p => p.title
  | content, p => p.content
  | url, p => p.url
  | published, p => p.published
  | updated, p => p.updated
  | labels, p => p.labels
  | author, p => p.author

end Field

lemma ext_get (h : ∀ f : Field, f.get p = f.get q) : p = q := by
  cases p
  cases q
  exact mk.injEq .. ▸
    ⟨h .id, h .title, h .content, h .url, h .published, h .updated, h .labels, h .author⟩

/-! ### Projections -/

/-- Names that keep all fields: none at all, or the one that stands for all. -/
def KeepsAll (names : List (List Char)) : Prop := names = [] ∨ allFields ∈ names

lemma project_all (h : KeepsAll names) (p : Post) : p.project names = p := if_pos h

/-- A projection keeps the fields that are named, each with its value, and no others. -/
lemma get_project (h : ¬ KeepsAll names) (p : Post) (f : Field) :
    f.get (p.project names) = if f.name.toList ∈ names then f.get p else none := by
  have some_names : p.project names = _ := if_neg h
  rw [some_names]
  cases f <;> rfl

/-- A projection without timestamps. -/
lemma isWhole_project (h : ¬ KeepsAll names) (published : Field.published.name.toList ∉ names)
    (updated : Field.updated.name.toList ∉ names) (p : Post) : (p.project names).IsWhole := by
  have unpublished : (p.project names).published = none :=
    (get_project h p .published).trans (if_neg published)
  have unchanged : (p.project names).updated = none :=
    (get_project h p .updated).trans (if_neg updated)
  exact ⟨by simp [unpublished], by simp [unchanged]⟩

lemma project_project (names : List (List Char)) (p : Post) :
    (p.project names).project names = p.project names := by
  by_cases h : KeepsAll names
  · exact project_all h _
  · refine ext_get fun f => ?_
    rw [get_project h, get_project h]
    split <;> rfl

/-- The order of names and their repetition do not matter. -/
lemma project_congr (same : ∀ name, name ∈ names ↔ name ∈ others) (p : Post) :
    p.project names = p.project others := by
  have empty : names = [] ↔ others = [] := by
    simp only [List.eq_nil_iff_forall_not_mem, same]
  have all : KeepsAll names ↔ KeepsAll others := or_congr empty (same allFields)
  by_cases h : KeepsAll names
  · rw [project_all h, project_all (all.mp h)]
  · refine ext_get fun f => ?_
    rw [get_project h, get_project (mt all.mpr h)]
    simp only [same]

/-! ### Writing the named fields -/

def namedFields (names : List (List Char)) (p : Post) : List (String × Option Json) :=
  (p.fields .full).filter fun f => names.contains f.1.toList

def dump (names : List (List Char)) (p : Post) : Json :=
  .object (WireForm.full.members (p.namedFields names))

lemma optional_named {α : Type} {fit : α → Prop} {check : Json → Checked α} {encode : α → Json}
    {name : String} {o : Option α} (h : Reads fit check encode) (ho : ∀ a ∈ o, fit a)
    (mem : (name, o.map encode) ∈ p.fields .full) :
    Json.optional check (WireForm.full.members (p.namedFields names)) name name =
      .valid (if name.toList ∈ names then o else none) := by
  split
  · next named =>
    have part : (p.namedFields names).Sublist (p.fields .full) := List.filter_sublist
    exact optional_members_self h ho ((part.map Prod.fst).nodup p.nodup_fields)
      (List.mem_filter.mpr ⟨mem, List.contains_iff_mem.mpr named⟩)
  · next unnamed =>
    have absent : name ∉ (p.namedFields names).map Prod.fst := by
      intro found
      obtain ⟨f, kept, rfl⟩ := List.mem_map.mp found
      exact unnamed (List.contains_iff_mem.mp (List.mem_filter.mp kept).2)
    rw [Json.optional, field?, WireForm.full.member?_absent absent]
    rfl

/-- Checking the named fields that were written gives the projection. -/
lemma ofJson_dump (h : ¬ KeepsAll names) (whole : p.IsWhole) :
    Post.ofJson (p.dump names) = .valid (p.project names) := by
  have some_names : p.project names = _ := if_neg h
  rw [some_names]
  simp only [dump, Post.ofJson]
  rw [optional_named reads_string (any_mem p.id) (by simp [Post.fields]),
    optional_named reads_string (any_mem p.title) (by simp [Post.fields]),
    optional_named reads_string (any_mem p.content) (by simp [Post.fields]),
    optional_named reads_string (any_mem p.url) (by simp [Post.fields]),
    optional_named reads_timestamp whole.published (by simp [Post.fields]),
    optional_named reads_timestamp whole.updated (by simp [Post.fields]),
    optional_named (o := p.labels) reads_string.list (fun _ _ _ _ => trivial)
      (by simp [Post.fields]),
    optional_named (reads_author .full) (any_mem p.author) (by simp [Post.fields])]
  rfl

end Post

end BlogConsole

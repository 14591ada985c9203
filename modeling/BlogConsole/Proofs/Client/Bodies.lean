import BlogConsole.Client
import BlogConsole.Proofs.Json.RoundTrip
import BlogConsole.Proofs.Post.RoundTrip

/-!
Bodies that hold printed objects are read back.

Posts and pages are objects without numbers and not deep, so their text is read as what they are. An
object starts with two characters of ASCII, so its bytes show that they are UTF-8.
-/

namespace BlogConsole

open Json

variable {form : WireForm} {depth : Nat} {fields : List (String × Option Json)}
  {ms : List (String × Json)}

/-! ### Posts are legible -/

/-- The names of the members are among those of the fields, in their order. -/
lemma WireForm.names_sublist (form : WireForm) (fields : List (String × Option Json)) :
    ((form.members fields).map Prod.fst).Sublist (fields.map Prod.fst) := by
  induction fields with
  | nil => cases form <;> exact .slnil
  | cons f fields ih =>
    rw [members_cons]
    cases form.value? f.2 with
    | none => exact ih.cons _
    | some v => exact ih.cons_cons _

/-- The members are the values of fields, or null. -/
lemma WireForm.mem_members {m : String × Json} (h : m ∈ form.members fields) :
    m.2 = .null ∨ (m.1, some m.2) ∈ fields := by
  cases form with
  | wire =>
    obtain ⟨⟨name, o⟩, mem, found⟩ := List.mem_filterMap.mp h
    obtain ⟨v, rfl, rfl⟩ := Option.map_eq_some_iff.mp found
    exact .inr mem
  | full =>
    obtain ⟨⟨name, o⟩, mem, rfl⟩ := List.mem_map.mp h
    cases o with
    | none => exact .inl rfl
    | some v => exact .inr mem

lemma legible_members (distinct : (fields.map Prod.fst).Nodup)
    (values : ∀ f ∈ fields, ∀ v ∈ f.2, Legible depth v) :
    Legible (depth + 1) (.object (form.members fields)) := by
  refine .object (distinct.sublist (form.names_sublist fields)) fun m hm => ?_
  obtain null | mem := WireForm.mem_members hm
  · rw [null]
    exact .null
  · exact values _ mem _ rfl

/-- The values of an optional field are legible if those that may stand in it are. -/
lemma legible_map {α : Type} {encode : α → Json} (o : Option α)
    (h : ∀ a ∈ o, Legible depth (encode a)) : ∀ v ∈ o.map encode, Legible depth v := by
  cases o with
  | none => exact fun v hv => by cases hv
  | some a =>
    rintro v ⟨rfl⟩
    exact h a rfl

lemma legible_array {α : Type} {encode : α → Json} (as : List α)
    (h : ∀ a ∈ as, Legible depth (encode a)) : Legible (depth + 1) (.array (as.map encode)) := by
  refine .array fun v hv => ?_
  obtain ⟨a, ha, rfl⟩ := List.mem_map.mp hv
  exact h a ha

lemma Author.legible (form : WireForm) (a : Author) : Legible 1 (a.toJson form) := by
  refine legible_members a.nodup_fields ?_
  simp only [fields, List.forall_mem_cons]
  exact ⟨legible_map _ fun s _ => .string s, legible_map _ fun s _ => .string s,
    legible_map _ fun s _ => .string s, List.forall_mem_nil _⟩

lemma Post.legible (form : WireForm) (p : Post) : Legible 2 (p.toJson form) := by
  refine legible_members p.nodup_fields ?_
  have text (o : Option String) : ∀ v ∈ o.map Json.string, Legible 1 v :=
    legible_map _ fun s _ => .string s
  simp only [fields, List.forall_mem_cons]
  exact ⟨text _, text _, text _, text _, legible_map _ fun t _ => .string t.text,
    legible_map _ fun t _ => .string t.text,
    legible_map _ fun ls _ => legible_array ls fun s _ => .string s,
    legible_map _ fun a _ => a.legible form, List.forall_mem_nil _⟩

lemma PostList.legible (form : WireForm) (l : PostList) : Legible 4 (l.toJson form) := by
  refine legible_members l.nodup_fields ?_
  simp only [fields, List.forall_mem_cons]
  exact ⟨legible_map _ fun ps _ => legible_array ps fun p _ => p.legible form,
    legible_map _ fun s _ => .string s, List.forall_mem_nil _⟩

/-! ### Bodies -/

lemma decode_print_object (ms : List (String × Json)) :
    Text.decode (Text.encodeUtf8 (print (.object ms))) = .ok (print (.object ms)) := by
  cases ms with
  | nil => exact Text.decode_encodeUtf8 (by decide) (by decide) (by decide) (by decide) _
  | cons m ms => exact Text.decode_encodeUtf8 (by decide) (by decide) (by decide) (by decide) _

/-- **Printed objects are read from bodies.** -/
theorem Client.readBody_print (legible : Legible depth (.object ms)) (h : depth ≤ maxDepth) :
    readBody (Text.encodeUtf8 (print (.object ms))) = .ok (.object ms) := by
  rw [readBody, decode_print_object]
  dsimp only
  rw [parse_print legible h]

lemma Client.readBody_post (form : WireForm) (p : Post) :
    readBody (Text.encodeUtf8 (p.toJson form).print) = .ok (p.toJson form) :=
  readBody_print (p.legible form) (by decide)

lemma Client.readBody_postList (form : WireForm) (l : PostList) :
    readBody (Text.encodeUtf8 (l.toJson form).print) = .ok (l.toJson form) :=
  readBody_print (l.legible form) (by decide)

end BlogConsole

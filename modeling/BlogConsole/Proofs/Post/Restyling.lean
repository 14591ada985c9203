import BlogConsole.Post.Validation
import Mathlib.Data.List.Nodup
import Mathlib.Data.List.Perm.Basic
import Mathlib.Logic.Relation
import Mathlib.Tactic.Lemma

/-!
Values that differ in style.

Whoever writes a value may list the members of an object in any order, may add members that are no
fields, and may use either name of a field that has two. What such a value is read as does not
depend on this. What is a field depends on what the object stands for, so a change of style is one
of a value in some role.

A fault is named by the way to it, and this way has the names that were used. So the faults of a
value are the same in every style once all fields go by the names that they have on the wire.
-/

namespace BlogConsole

open Checked

variable {α β : Type}

/-! ### Names on the wire -/

def wireName : String → String
  | "display_name" => "displayName"
  | "next_page_token" => "nextPageToken"
  | name => name

def Step.onWire : Step → Step
  | field name => field (wireName name)
  | index n => index n

/-- A fault with the names that fields have on the wire. -/
def Problem.onWire (p : Problem) : Problem := { p with path := p.path.map Step.onWire }

namespace Checked

/-- A checked value, with the names that fields have on the wire in its faults. -/
def onWire : Checked α → Checked α
  | valid a => valid a
  | invalid ps => invalid (ps.map Problem.onWire)

@[simp] lemma onWire_map (g : α → β) (x : Checked α) : (x.map g).onWire = x.onWire.map g := by
  cases x <;> rfl

@[simp] lemma onWire_apply (g : Checked (α → β)) (x : Checked α) :
    (g.apply x).onWire = g.onWire.apply x.onWire := by
  cases g with
  | valid g => cases x <;> rfl
  | invalid ps =>
    cases x with
    | valid a => rfl
    | invalid qs => exact congrArg invalid List.map_append

@[simp] lemma onWire_under (step : Step) (x : Checked α) :
    (x.under step).onWire = x.onWire.under step.onWire := by
  cases x with
  | valid a => rfl
  | invalid ps =>
    refine congrArg invalid ?_
    rw [List.map_map, List.map_map]
    rfl

/-- Two checks come to the same: to the same value, or to the same faults in the same order, but
that a field with two names may go by either. -/
structure Same (x y : Checked α) : Prop where
  valid : ∀ a, x = .valid a ↔ y = .valid a
  invalid : (∃ ps, x = .invalid ps) ↔ ∃ ps, y = .invalid ps
  faults : x.problems.map Problem.onWire = y.problems.map Problem.onWire

lemma same_of_onWire {x y : Checked α} (h : x.onWire = y.onWire) : x.Same y := by
  cases x with
  | valid a =>
    cases y with
    | valid b =>
      obtain rfl := Checked.valid.inj h
      exact ⟨fun _ => .rfl, .rfl, rfl⟩
    | invalid qs => cases h
  | invalid ps =>
    cases y with
    | valid b => cases h
    | invalid qs => exact ⟨fun _ => ⟨nofun, nofun⟩, ⟨fun _ => ⟨qs, rfl⟩, fun _ => ⟨ps, rfl⟩⟩,
        Checked.invalid.inj h⟩

end Checked

namespace Json

/-! ### Styles -/

/-- What a value of a reply stands for: a page, a post, an author, or something without fields. An
array has the role of its items. -/
inductive Role
  | page
  | post
  | author
  | other
  deriving DecidableEq, Repr

namespace Role

/-- The fields of an object in a role: the name of each on the wire, and its other name, which may
be the same. -/
def fields : Role → List (String × String)
  | page => [("items", "items"), ("nextPageToken", "next_page_token")]
  | post =>
    ["id", "title", "content", "url", "published", "updated", "labels", "author"].map fun name =>
      (name, name)
  | author => [("id", "id"), ("displayName", "display_name"), ("url", "url")]
  | other => []

def Names (r : Role) (name : String) : Prop := ∃ f ∈ r.fields, name = f.1 ∨ name = f.2

instance (r : Role) (name : String) : Decidable (r.Names name) :=
  inferInstanceAs (Decidable (∃ f ∈ r.fields, name = f.1 ∨ name = f.2))

def ofMember : Role → String → Role
  | page, "items" => post
  | post, "author" => author
  | _, _ => other

lemma fields_apart {r : Role} {f g : String × String} (hf : f ∈ r.fields) (hg : g ∈ r.fields)
    (h : f ≠ g) : f.1 ≠ g.1 ∧ f.1 ≠ g.2 ∧ f.2 ≠ g.1 ∧ f.2 ≠ g.2 := by
  have apart : ∀ f ∈ r.fields, ∀ g ∈ r.fields, f ≠ g →
      f.1 ≠ g.1 ∧ f.1 ≠ g.2 ∧ f.2 ≠ g.1 ∧ f.2 ≠ g.2 := by
    cases r <;> decide
  exact apart f hf g hg h

/-- Both names of a field are one on the wire. -/
lemma wireName_other {r : Role} {f : String × String} (hf : f ∈ r.fields) :
    wireName f.2 = wireName f.1 := by
  have same : ∀ f ∈ r.fields, wireName f.2 = wireName f.1 := by
    cases r <;> decide
  exact same f hf

end Role

/-- A change of style of a value in a role: the members of an object come in another order, a member
is added that is no field, a field goes by its other name, which no member has, or a part of the
value changes its style. Members have different names. -/
inductive Restyles : Role → Json → Json → Prop
  | reorder {r : Role} {ms ns : List (String × Json)} :
      (ms.map Prod.fst).Nodup → ms.Perm ns → Restyles r (object ms) (object ns)
  | add {r : Role} (before after : List (String × Json)) (name : String) (v : Json) :
      ¬ r.Names name →
      Restyles r (object (before ++ after)) (object (before ++ (name, v) :: after))
  | rename {r : Role} (before after : List (String × Json)) (f : String × String) (v : Json) :
      f ∈ r.fields → f.1 ∉ (before ++ after).map Prod.fst → f.2 ∉ (before ++ after).map Prod.fst →
      Restyles r (object (before ++ (f.1, v) :: after)) (object (before ++ (f.2, v) :: after))
  | member {r : Role} (before after : List (String × Json)) {name : String} {v w : Json} :
      Restyles (r.ofMember name) v w →
      Restyles r (object (before ++ (name, v) :: after)) (object (before ++ (name, w) :: after))
  | item {r : Role} (before after : List Json) {v w : Json} :
      Restyles r v w → Restyles r (array (before ++ v :: after)) (array (before ++ w :: after))

/-- Values in a role that differ in style: some changes, and changes undone, lead from one to the
other. -/
def Restyled (r : Role) : Json → Json → Prop := Relation.EqvGen (Restyles r)

variable {r : Role} {v w : Json} {ms ns before after : List (String × Json)} {name k : String}

lemma Restyled.member (before after : List (String × Json)) (h : Restyled (r.ofMember name) v w) :
    Restyled r (object (before ++ (name, v) :: after)) (object (before ++ (name, w) :: after)) := by
  induction h with
  | rel v w change => exact .rel _ _ (.member before after change)
  | refl v => exact .refl _
  | symm v w _ ih => exact ih.symm
  | trans u v w _ _ ih ih' => exact ih.trans _ _ _ ih'

/-- An array differs in style if one of its items does. -/
lemma Restyled.item (before after : List Json) (h : Restyled r v w) :
    Restyled r (array (before ++ v :: after)) (array (before ++ w :: after)) := by
  induction h with
  | rel v w change => exact .rel _ _ (.item before after change)
  | refl v => exact .refl _
  | symm v w _ ih => exact ih.symm
  | trans u v w _ _ ih ih' => exact ih.trans _ _ _ ih'

/-! ### Members -/

/-- The order of members with different names does not matter. -/
lemma member?_perm (h : ms.Perm ns) (distinct : (ms.map Prod.fst).Nodup) (k : String) :
    member? ms k = member? ns k := by
  induction h with
  | nil => rfl
  | cons m _ ih =>
    rw [List.map_cons, List.nodup_cons] at distinct
    have rest := ih distinct.2
    rw [member?, member?] at rest
    rw [member?, member?, List.lookup_cons, List.lookup_cons, rest]
  | swap m n rest =>
    have apart : n.1 ≠ m.1 := by
      rw [List.map_cons, List.nodup_cons] at distinct
      exact fun same => distinct.1 (same ▸ List.mem_map_of_mem (List.mem_cons_self ..))
    rw [member?, member?, List.lookup_cons, List.lookup_cons, List.lookup_cons, List.lookup_cons]
    by_cases h : k = m.1
    · rw [beq_false_of_ne (h ▸ apart.symm)]
    · rw [beq_false_of_ne h]
  | trans first _ ih ih' =>
    exact (ih distinct).trans (ih' ((first.map Prod.fst).nodup distinct))

lemma member?_insert (h : k ≠ name) (v : Json) :
    member? (before ++ (name, v) :: after) k = member? (before ++ after) k := by
  rw [member?, member?, List.lookup_append, List.lookup_append, List.lookup_cons,
    beq_false_of_ne h]

lemma member?_absent (h : k ∉ ms.map Prod.fst) : member? ms k = none := by
  refine List.lookup_eq_none_iff.mpr fun m hm => bne_iff_ne.mpr ?_
  rintro rfl
  exact h (List.mem_map_of_mem hm)

lemma member?_self (h : name ∉ (before ++ after).map Prod.fst) (v : Json) :
    member? (before ++ (name, v) :: after) name = some v := by
  rw [List.map_append, List.mem_append, not_or] at h
  have absent := member?_absent h.1
  rw [member?] at absent
  rw [member?, List.lookup_append, absent, List.lookup_cons_self]
  rfl

/-- With another value in a member the same is found, or both values are. -/
lemma member?_replace (before after : List (String × Json)) (v w : Json) (k : String) :
    member? (before ++ (name, v) :: after) k = member? (before ++ (name, w) :: after) k ∨
      k = name ∧ member? (before ++ (name, v) :: after) k = some v ∧
        member? (before ++ (name, w) :: after) k = some w := by
  by_cases h : k = name
  · subst h
    have found (u : Json) :
        member? (before ++ (k, u) :: after) k = (before.lookup k).or (some u) := by
      rw [member?, List.lookup_append, List.lookup_cons_self]
    rw [found, found]
    cases before.lookup k with
    | some u => exact .inl rfl
    | none => exact .inr ⟨rfl, rfl, rfl⟩
  · rw [member?_insert h, member?_insert h]
    exact .inl rfl

/-! ### Fields -/

/-- What a field is found as in two styles of an object: as the same, as the same value under its
two names, or as values that differ in style. -/
inductive Found (r : Role) (f : String × String) :
    Option (String × Json) → Option (String × Json) → Prop
  | same (o : Option (String × Json)) : Found r f o o
  | renamed (v : Json) : Found r f (some (f.1, v)) (some (f.2, v))
  | restyled {name : String} {v w : Json} :
      name = f.1 ∨ name = f.2 → Restyles (r.ofMember name) v w →
      Found r f (some (name, v)) (some (name, w))

lemma field?_congr {f : String × String} (h : member? ms f.1 = member? ns f.1)
    (h' : member? ms f.2 = member? ns f.2) : field? ms f.1 f.2 = field? ns f.1 f.2 := by
  rw [field?, h, h', field?]

lemma found_rename {f g : String × String} (hf : f ∈ r.fields) (hg : g ∈ r.fields)
    (absent : g.1 ∉ (before ++ after).map Prod.fst)
    (absent' : g.2 ∉ (before ++ after).map Prod.fst) (v : Json) :
    Found r f (field? (before ++ (g.1, v) :: after) f.1 f.2)
      (field? (before ++ (g.2, v) :: after) f.1 f.2) := by
  by_cases same : f = g
  · subst same
    by_cases one : f.1 = f.2
    · rw [← one]
      exact .same _
    · rw [field?, field?, member?_self absent, member?_insert one, member?_absent absent,
        member?_self absent']
      exact .renamed v
  · have found (name : String) (apart : f.1 ≠ name) (apart' : f.2 ≠ name) :
        field? (before ++ (name, v) :: after) f.1 f.2 = field? (before ++ after) f.1 f.2 :=
      field?_congr (member?_insert apart v) (member?_insert apart' v)
    obtain ⟨h, h', h'', h'''⟩ := Role.fields_apart hf hg same
    rw [found g.1 h h'', found g.2 h' h''']
    exact .same _

lemma found_member (h : Restyles (r.ofMember name) v w) (f : String × String) :
    Found r f (field? (before ++ (name, v) :: after) f.1 f.2)
      (field? (before ++ (name, w) :: after) f.1 f.2) := by
  rw [field?, field?]
  -- the other name of a field is looked up only where the first one is missing
  obtain first | ⟨hn, hv, hw⟩ := member?_replace before after v w f.1
  · rw [first]
    cases member? (before ++ (name, w) :: after) f.1 with
    | some u => exact .same _
    | none =>
      obtain second | ⟨hn, hv, hw⟩ := member?_replace before after v w f.2
      · rw [second]
        exact .same _
      · rw [hv, hw]
        exact .restyled (.inr rfl) (hn ▸ h)
  · rw [hv, hw]
    exact .restyled (.inl rfl) (hn ▸ h)

/-- A change of style changes the name and the style of what a field is found as, at most. -/
lemma found_restyles (h : Restyles r (object ms) (object ns)) {f : String × String}
    (hf : f ∈ r.fields) : Found r f (field? ms f.1 f.2) (field? ns f.1 f.2) := by
  cases h with
  | reorder distinct perm =>
    rw [field?_congr (member?_perm perm distinct f.1) (member?_perm perm distinct f.2)]
    exact .same _
  | add _ _ name v foreign =>
    have apart : f.1 ≠ name ∧ f.2 ≠ name :=
      ⟨fun h => foreign ⟨f, hf, .inl h.symm⟩, fun h => foreign ⟨f, hf, .inr h.symm⟩⟩
    rw [field?_congr (member?_insert apart.1 v) (member?_insert apart.2 v)]
    exact .same _
  | rename _ _ _ v hg absent absent' => exact found_rename hf hg absent absent' v
  | member _ _ h => exact found_member h f

/-! ### Checks -/

lemma Restyles.shape (h : Restyles r v w) :
    (∃ vs ws, v = array vs ∧ w = array ws) ∨ ∃ ms ns, v = object ms ∧ w = object ns := by
  cases h with
  | item => exact .inl ⟨_, _, rfl, rfl⟩
  | reorder | add | rename | member => exact .inr ⟨_, _, rfl, rfl⟩

/-- A check does not depend on the style of values in a role. -/
def Indifferent (check : Json → Checked α) (r : Role) : Prop :=
  ∀ v w, Restyles r v w → (check v).onWire = (check w).onWire

variable {check : Json → Checked α}

/-- What holds of one change holds of any number of them. -/
lemma Indifferent.restyled (h : Indifferent check r) (hv : Restyled r v w) :
    (check v).onWire = (check w).onWire := by
  induction hv with
  | rel v w change => exact h v w change
  | refl => rfl
  | symm _ _ _ ih => exact ih.symm
  | trans _ _ _ _ _ ih ih' => exact ih.trans ih'

lemma indifferent_string (r : Role) : Indifferent asString r := by
  intro v w h
  obtain ⟨vs, ws, rfl, rfl⟩ | ⟨ms, ns, rfl, rfl⟩ := h.shape <;> rfl

lemma indifferent_timestamp (r : Role) : Indifferent asTimestamp r := by
  intro v w h
  obtain ⟨vs, ws, rfl, rfl⟩ | ⟨ms, ns, rfl, rfl⟩ := h.shape <;> rfl

lemma checkItems_restyles (h : (check v).onWire = (check w).onWire) (before after : List Json)
    (index : Nat) :
    (checkItems check index (before ++ v :: after)).onWire =
      (checkItems check index (before ++ w :: after)).onWire := by
  induction before generalizing index with
  | nil => simp only [List.nil_append, checkItems, onWire_apply, onWire_map, onWire_under, h]
  | cons u before ih =>
    simp only [List.cons_append, checkItems, onWire_apply, ih]

/-- An array is read in every style of its items. -/
lemma Indifferent.list (h : Indifferent check r) : Indifferent (asList check) r := by
  intro v w change
  cases change with
  | item before after change => exact checkItems_restyles (h _ _ change) before after 0
  | reorder | add | rename | member => rfl

lemma optional_restyles (h : Restyles r (object ms) (object ns)) {f : String × String}
    (hf : f ∈ r.fields)
    (hc : ∀ name, name = f.1 ∨ name = f.2 → Indifferent check (r.ofMember name)) :
    (Json.optional check ms f.1 f.2).onWire = (Json.optional check ns f.1 f.2).onWire := by
  have found := found_restyles h hf
  rw [Json.optional, Json.optional]
  generalize field? ms f.1 f.2 = x at found ⊢
  generalize field? ns f.1 f.2 = y at found ⊢
  cases found with
  | same => rfl
  | renamed v =>
    have step : (Step.field f.1).onWire = (Step.field f.2).onWire :=
      congrArg Step.field (Role.wireName_other hf).symm
    cases v with
    | null => rfl
    | _ => simp only [onWire_under, step]
  | @restyled name v w used change =>
    have same := hc name used v w change
    obtain ⟨vs, ws, rfl, rfl⟩ | ⟨ms, ns, rfl, rfl⟩ := change.shape
    all_goals simp only [onWire_under, onWire_map, same]

/-! ### Posts -/

lemma indifferent_author : Indifferent Author.ofJson .author := by
  intro v w h
  obtain ⟨vs, ws, rfl, rfl⟩ | ⟨ms, ns, rfl, rfl⟩ := h.shape
  · rfl
  · have text (f : String × String) (hf : f ∈ Role.author.fields) :
        (Json.optional asString ms f.1 f.2).onWire = (Json.optional asString ns f.1 f.2).onWire :=
      optional_restyles h hf fun _ _ => indifferent_string _
    simp only [Author.ofJson, onWire_apply, onWire_map]
    rw [text ("id", "id") (by decide), text ("displayName", "display_name") (by decide),
      text ("url", "url") (by decide)]

lemma indifferent_post : Indifferent Post.ofJson .post := by
  intro v w h
  obtain ⟨vs, ws, rfl, rfl⟩ | ⟨ms, ns, rfl, rfl⟩ := h.shape
  · rfl
  · have field {α : Type} {check : Json → Checked α} (name : String)
        (hf : (name, name) ∈ Role.post.fields)
        (hc : Indifferent check (Role.post.ofMember name)) :
        (Json.optional check ms name name).onWire = (Json.optional check ns name name).onWire :=
      optional_restyles h hf fun used hused => by
        obtain rfl | rfl := hused <;> exact hc
    have text (name : String) (hf : (name, name) ∈ Role.post.fields) :=
      field name hf (indifferent_string _)
    simp only [Post.ofJson, onWire_apply, onWire_map]
    rw [text "id" (by decide), text "title" (by decide), text "content" (by decide),
      text "url" (by decide), field "published" (by decide) (indifferent_timestamp _),
      field "updated" (by decide) (indifferent_timestamp _),
      field "labels" (by decide) (indifferent_string _).list,
      field "author" (by decide) indifferent_author]

lemma indifferent_postList : Indifferent PostList.ofJson .page := by
  intro v w h
  obtain ⟨vs, ws, rfl, rfl⟩ | ⟨ms, ns, rfl, rfl⟩ := h.shape
  · rfl
  · have items : (Json.optional (asList Post.ofJson) ms "items" "items").onWire =
        (Json.optional (asList Post.ofJson) ns "items" "items").onWire :=
      optional_restyles (f := ("items", "items")) h (by decide) fun name used => by
        obtain rfl | rfl := used <;> exact indifferent_post.list
    have token : (Json.optional asString ms "nextPageToken" "next_page_token").onWire =
        (Json.optional asString ns "nextPageToken" "next_page_token").onWire :=
      optional_restyles (f := ("nextPageToken", "next_page_token")) h (by decide) fun _ _ =>
        indifferent_string _
    simp only [PostList.ofJson, onWire_apply, onWire_map]
    rw [items, token]

end Json

end BlogConsole

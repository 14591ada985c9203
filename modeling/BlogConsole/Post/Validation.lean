import BlogConsole.Json.Basic
import BlogConsole.Post.Basic
import BlogConsole.Timestamp.Reading

/-!
Checking JSON values against the types of posts.

All faults of a value are collected, field by field in the order of the type and item by item.
Members that are no field are ignored. A field with two names takes the value of the first name
that is there. Null is the absence of an optional field.
-/

namespace BlogConsole

/-- A step on the way from a value to one of its parts. -/
inductive Step
  | field (name : String)
  | index (n : Nat)
  deriving DecidableEq, Repr

/-- Why a value is not of its type. -/
inductive TypeCause
  | notText
  | notList
  | notRecord (type : String)
  | missing
  | timestamp (cause : Timestamp.Cause)
  | notBool
  | notNumber
  | notLogLevel
  deriving DecidableEq, Repr

/-- A fault of a value: the way to the faulty part, and the cause. -/
structure Problem where
  path : List Step
  cause : TypeCause
  deriving DecidableEq, Repr

def TypeCause.code : TypeCause → String
  | notText => "string_type"
  | notList => "list_type"
  | notRecord _ => "model_type"
  | missing => "missing"
  | timestamp .wrongType => "datetime_type"
  | timestamp .loneSurrogate => "string_unicode"
  | timestamp (.notADate _) => "datetime_from_date_parsing"
  | timestamp _ => "datetime_parsing"
  | notBool => "bool_parsing"
  | notNumber => "float_parsing"
  | notLogLevel => "literal_error"

def TypeCause.message : TypeCause → String
  | notText => "Input should be a valid string"
  | notList => "Input should be a valid list"
  | notRecord type => s!"Input should be a valid dictionary or instance of {type}"
  | missing => "Field required"
  | timestamp cause => cause.message
  | notBool => "Input should be a valid boolean, unable to interpret input"
  | notNumber => "Input should be a valid number, unable to parse string as a number"
  | notLogLevel => "Input should be 'DEBUG', 'INFO', 'WARNING' or 'ERROR'"

/-- A value of a type, or the faults that keep it from being one. -/
inductive Checked (α : Type)
  | valid (a : α)
  | invalid (problems : List Problem)
  deriving DecidableEq, Repr

namespace Checked

def problems {α : Type} : Checked α → List Problem
  | valid _ => []
  | invalid ps => ps

def map {α β : Type} (f : α → β) : Checked α → Checked β
  | valid a => valid (f a)
  | invalid ps => invalid ps

/-- A checked function of a checked value; the faults of both are kept in order. -/
def apply {α β : Type} : Checked (α → β) → Checked α → Checked β
  | valid f, valid a => valid (f a)
  | valid _, invalid ps => invalid ps
  | invalid ps, valid _ => invalid ps
  | invalid ps, invalid qs => invalid (ps ++ qs)

def under {α : Type} (step : Step) : Checked α → Checked α
  | valid a => valid a
  | invalid ps => invalid (ps.map fun p => { p with path := step :: p.path })

def fail {α : Type} (cause : TypeCause) : Checked α := invalid [⟨[], cause⟩]

@[simp] theorem map_valid {α β : Type} (f : α → β) (a : α) : map f (valid a) = valid (f a) := rfl
@[simp] theorem map_invalid {α β : Type} (f : α → β) (ps : List Problem) :
    map f (invalid ps) = invalid ps := rfl
@[simp] theorem apply_valid {α β : Type} (f : α → β) (a : α) :
    apply (valid f) (valid a) = valid (f a) := rfl
@[simp] theorem under_valid {α : Type} (step : Step) (a : α) :
    under step (valid a) = valid a := rfl

theorem map_eq_valid {α β : Type} {f : α → β} {x : Checked α} {b : β} :
    x.map f = valid b ↔ ∃ a, x = valid a ∧ f a = b := by
  cases x <;> simp

theorem apply_eq_valid {α β : Type} {f : Checked (α → β)} {x : Checked α} {b : β} :
    f.apply x = valid b ↔ ∃ g, f = valid g ∧ ∃ a, x = valid a ∧ g a = b := by
  cases f <;> cases x <;> simp [apply]

theorem under_eq_valid {α : Type} {step : Step} {x : Checked α} {a : α} :
    x.under step = valid a ↔ x = valid a := by
  cases x <;> simp [under]

end Checked

open Checked

namespace Json

def asString : Json → Checked String
  | string s => valid s
  | _ => fail .notText

def asTimestamp (v : Json) : Checked Timestamp :=
  match Timestamp.ofJson v with
  | .ok t => valid t
  | .error cause => fail (.timestamp cause)

/-- The items of an array, each checked; the first one stands at `index`. -/
def checkItems {α : Type} (check : Json → Checked α) (index : Nat) : List Json → Checked (List α)
  | [] => valid []
  | v :: vs =>
    apply (((check v).under (.index index)).map List.cons) (checkItems check (index + 1) vs)

def asList {α : Type} (check : Json → Checked α) : Json → Checked (List α)
  | array items => checkItems check 0 items
  | _ => fail .notList

/-- The first of two names under which a member is there. -/
def field? (members : List (String × Json)) (name other : String) : Option (String × Json) :=
  match member? members name with
  | some v => some (name, v)
  | none => (member? members other).map (other, ·)

def optional {α : Type} (check : Json → Checked α) (members : List (String × Json))
    (name other : String) : Checked (Option α) :=
  match field? members name other with
  | none => valid none
  | some (_, null) => valid none
  | some (found, v) => ((check v).map some).under (.field found)

def required {α : Type} (check : Json → Checked α) (members : List (String × Json))
    (name : String) : Checked α :=
  match member? members name with
  | none => (fail .missing).under (.field name)
  | some v => (check v).under (.field name)

end Json

open Json

def Author.ofJson : Json → Checked Author
  | .object ms =>
    let text (name other : String) := optional asString ms name other
    ((text "id" "id").map Author.mk)
      |>.apply (text "displayName" "display_name")
      |>.apply (text "url" "url")
  | _ => fail (.notRecord "Author")

def Post.ofJson : Json → Checked Post
  | .object ms =>
    let field {α : Type} (check : Json → Checked α) (name : String) := optional check ms name name
    ((field asString "id").map Post.mk)
      |>.apply (field asString "title")
      |>.apply (field asString "content")
      |>.apply (field asString "url")
      |>.apply (field asTimestamp "published")
      |>.apply (field asTimestamp "updated")
      |>.apply (field (asList asString) "labels")
      |>.apply (field Author.ofJson "author")
  | _ => fail (.notRecord "Post")

def PostList.ofJson : Json → Checked PostList
  | .object ms =>
    ((optional (asList Post.ofJson) ms "items" "items").map PostList.mk)
      |>.apply (optional asString ms "nextPageToken" "next_page_token")
  | _ => fail (.notRecord "PostList")

def CreateResult.ofJson : Json → Checked CreateResult
  | .object ms =>
    ((required Post.ofJson ms "post").map CreateResult.mk)
      |>.apply (required asString ms "title")
      |>.apply (required asString ms "message")
  | _ => fail (.notRecord "CreatePostResult")

end BlogConsole

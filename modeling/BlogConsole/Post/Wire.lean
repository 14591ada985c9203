import BlogConsole.Json.Basic
import BlogConsole.Post.Basic

/-!
Posts as JSON, in two forms. The wire form names fields as the service does and leaves out what is
absent, at every level. The full form has all fields, under the library's own names, and null for
what is absent.
-/

namespace BlogConsole

inductive WireForm
  | wire
  | full
  deriving DecidableEq, Repr

namespace WireForm

/-- The members that stand for fields some of which are absent. -/
def members (form : WireForm) (fields : List (String × Option Json)) : List (String × Json) :=
  match form with
  | wire => fields.filterMap fun f => f.2.map (f.1, ·)
  | full => fields.map fun f => (f.1, f.2.getD .null)

/-- The name of a field that the two forms call by two names. -/
def pick (form : WireForm) (wireName fullName : String) : String :=
  match form with
  | wire => wireName
  | full => fullName

end WireForm

def Author.fields (form : WireForm) (a : Author) : List (String × Option Json) :=
  [("id", a.id.map .string),
    (form.pick "displayName" "display_name", a.displayName.map .string),
    ("url", a.url.map .string)]

def Author.toJson (form : WireForm) (a : Author) : Json := .object (form.members (a.fields form))

def Post.fields (form : WireForm) (p : Post) : List (String × Option Json) :=
  [("id", p.id.map .string),
    ("title", p.title.map .string),
    ("content", p.content.map .string),
    ("url", p.url.map .string),
    ("published", p.published.map fun t => .string t.text),
    ("updated", p.updated.map fun t => .string t.text),
    ("labels", p.labels.map fun ls => .array (ls.map .string)),
    ("author", p.author.map (Author.toJson form))]

def Post.toJson (form : WireForm) (p : Post) : Json := .object (form.members (p.fields form))

def PostList.fields (form : WireForm) (l : PostList) : List (String × Option Json) :=
  [("items", l.items.map fun ps => .array (ps.map (Post.toJson form))),
    (form.pick "nextPageToken" "next_page_token", l.nextPageToken.map .string)]

def PostList.toJson (form : WireForm) (l : PostList) : Json :=
  .object (form.members (l.fields form))

def CreateResult.toJson (form : WireForm) (r : CreateResult) : Json :=
  .object
    [("post", r.post.toJson form), ("title", .string r.title), ("message", .string r.message)]

def Post.toWire (p : Post) : Json := p.toJson .wire

def PostList.toWire (l : PostList) : Json := l.toJson .wire

end BlogConsole

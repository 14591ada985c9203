import BlogConsole.Post.Basic
import BlogConsole.Text.Blank

/-!
Keeping only some fields of a post. The fields are named in a text with commas between the names.
-/

namespace BlogConsole

/-- The names in a text: the parts between commas, trimmed, without the empty ones. -/
def fieldNames (cs : List Char) : List (List Char) :=
  ((Text.splitWhere (· = ',') cs).map Text.trim).filter (· ≠ [])

def afterWord (word : List Char) : List Char → Option (List Char)
  | [] => if word = [] then some [] else none
  | c :: cs =>
    if word.isPrefixOf (c :: cs) then some ((c :: cs).drop word.length) else afterWord word cs

/-- The names of the fields of items in a selection for a listing: those between `items(` and the
next `)`. -/
def itemFieldNames (cs : List Char) : Option (List (List Char)) :=
  match afterWord "items(".toList cs with
  | none => none
  | some rest => if rest.contains ')' then some (fieldNames (rest.takeWhile (· ≠ ')'))) else none

namespace Post

def allFields : List Char := "__all__".toList

/-- The post with only the named fields. Without names it keeps all. -/
def project (names : List (List Char)) (p : Post) : Post :=
  let keep {α : Type} (name : String) (v : Option α) : Option α :=
    if name.toList ∈ names then v else none
  if names = [] ∨ allFields ∈ names then p
  else
    { id := keep "id" p.id
      title := keep "title" p.title
      content := keep "content" p.content
      url := keep "url" p.url
      published := keep "published" p.published
      updated := keep "updated" p.updated
      labels := keep "labels" p.labels
      author := keep "author" p.author }

end Post

end BlogConsole

import BlogConsole.Timestamp.Basic

/-!
Posts of a blog, their authors, pages of a listing, and the outcome of an attempt to create a post.
Replies may leave out any field, so every field of a post is optional.
-/

namespace BlogConsole

structure Author where
  id : Option String
  displayName : Option String
  url : Option String
  deriving DecidableEq, Repr

structure Post where
  id : Option String
  title : Option String
  content : Option String
  url : Option String
  published : Option Timestamp
  updated : Option Timestamp
  labels : Option (List String)
  author : Option Author
  deriving DecidableEq, Repr

def Post.empty : Post := ⟨none, none, none, none, none, none, none, none⟩

/-- A page of a listing: its posts, if any were sent, and the token of the next page. -/
structure PostList where
  items : Option (List Post)
  nextPageToken : Option String
  deriving DecidableEq, Repr

/-- What the dialog after an attempt to create a post shows. -/
structure CreateResult where
  post : Post
  title : String
  message : String
  deriving DecidableEq, Repr

end BlogConsole

import BlogConsole.Event
import BlogConsole.Post.Projection

/-!
A blog in memory, in place of the service. It keeps its posts with the newest one first, remembers
which of them it created, and hands out pages of them. It can be told to fail at every call.
-/

namespace BlogConsole

/-- A blog in memory. `inserted` counts the posts ever created; their ids are made of it. -/
structure Store where
  posts : List Post
  created : List Post
  pageSize : Int
  failWith : Option ApiError
  inserted : Nat
  clock : Timestamp
  deriving BEq, Repr

namespace Store

/-- The titles and contents of the posts that a store starts with. -/
def seedTexts : List (String × String) :=
  [("Hello from the Blogger API",
      "<p>This post was written through the posts.insert call.</p>"),
    ("Paginating through posts",
      "<p>posts.list returns a nextPageToken while more pages remain.</p>"),
    ("Partial responses",
      "<p>The fields parameter trims the response to what the UI needs.</p>"),
    ("Drafts and publishing",
      "<p>New posts are published immediately unless saved as drafts.</p>"),
    ("Working with labels",
      "<p>Labels group related posts on the blog.</p>"),
    ("OAuth scopes",
      "<p>Writing posts needs the blogger scope; reading public posts does not.</p>")]

def seedAuthor : Author := ⟨some "mock_author", some "Mock Author", none⟩

/-- The posts that a store starts with. The `n`-th was published `n` days before the present. -/
def seedPosts (clock : Timestamp) : Except Failure (List Post) :=
  (seedTexts.zipIdx 1).mapM fun ((title, content), n) =>
    match clock.daysEarlier? n with
    | some published =>
      .ok { Post.empty with
        id := some s!"mock_{n}"
        title := some title
        content := some content
        published := some published
        author := some seedAuthor }
    | none => .error .dateOutOfRange

def defaultPageSize : Int := 10

def ofPosts (posts : List Post) (pageSize : Int) (failWith : Option ApiError) (clock : Timestamp) :
    Store :=
  ⟨posts, [], pageSize, failWith, 0, clock⟩

def seeded (pageSize : Int) (failWith : Option ApiError) (clock : Timestamp) :
    Except Failure Store :=
  (seedPosts clock).map fun posts => ofPosts posts pageSize failWith clock

def createdId (n : Nat) : String := "mock_created_" ++ String.ofList (Text.hexPadded 8 n)

def refusal (message : String) (status : Int) (reason : String) : Failure :=
  .api ⟨false, .string message, some status, .string reason⟩ none

/-- Creates a post: a copy of the draft with a new id and the present as its date. The draft has to
be a post. -/
def insert (s : Store) (blog : Option String) (draft : Argument) :
    Store × List Event × Except Failure Post :=
  match s.failWith, draft with
  | some e, _ => (s, [], .error (.api e none))
  | none, .value v => (s, [], .error (.lacks v "model_copy"))
  | none, .post draft =>
    let n := s.inserted + 1
    let post := { draft with id := some (createdId n), published := some s.clock }
    ({ s with posts := post :: s.posts, created := s.created ++ [post], inserted := n },
      [.notice (.postKept blog post.id)], .ok post)

/-- The first post with an id, with the selected fields. -/
def get (s : Store) (id : Argument) (fields : Option String) : Except Failure Post :=
  match s.failWith with
  | some e => .error (.api e none)
  | none =>
    match s.posts.find? id.isIdOf with
    | some post => .ok (post.project (fieldNames (fields.getD "").toList))
    | none => .error (refusal "Not Found" 404 "notFound")

/-! ### Pages -/

def tokenWord : List Char := "page-".toList

def pageToken (page : Int) : String := "page-" ++ toString page

/-- The page of a token; no token and the empty one are for the first page. The word at its start
may be left out. -/
def pageOf? (token : Option String) : Option Int :=
  match token with
  | none => some 0
  | some t =>
    if t = "" then some 0
    else
      let cs := t.toList
      Text.readInteger (if tokenWord.isPrefixOf cs then cs.drop tokenWord.length else cs)

/-- A position in a list of a length, where a negative number counts from the end. -/
def position (length : Nat) (n : Int) : Nat :=
  if n < 0 then (n + length).toNat else min n.toNat length

/-- The items of a list from one position to before another. -/
def slice {α : Type} (xs : List α) (start stop : Int) : List α :=
  let i := position xs.length start
  (xs.take (position xs.length stop)).drop i

/-- The number of posts on a page: what the call asks for, unless it is missing or zero. -/
def effectiveSize (s : Store) (maxResults : Option Int) : Int :=
  match maxResults with
  | some n => if n = 0 then s.pageSize else n
  | none => s.pageSize

/-- One page of the listing, with the selected fields of its posts. -/
def list (s : Store) (fields token : Option String) (maxResults : Option Int) :
    List Event × Except Failure PostList :=
  match s.failWith with
  | some e => ([], .error (.api e none))
  | none =>
    match pageOf? token with
    | none => ([], .error (refusal "Invalid page token" 400 "invalid"))
    | some page =>
      let size := s.effectiveSize maxResults
      let start := page * size
      let chunk := slice s.posts start (start + size)
      let names := (itemFieldNames (fields.getD "").toList).getD []
      let hasNext : Bool := start + size < s.posts.length
      let items := chunk.map (·.project names)
      ([.notice (.pageServed page chunk.length hasNext)],
        .ok ⟨if items.isEmpty then none else some items,
          if hasNext then some (pageToken (page + 1)) else none⟩)

def clearCreated (s : Store) : Store := { s with created := [] }

def answer (s : Store) (blog : Option String) : (c : Call) → Store × List Event × c.Reply
  | .insert draft => s.insert blog draft
  | .get id fields => (s, [], s.get id fields)
  | .list fields token maxResults =>
    let (events, reply) := s.list fields token maxResults
    (s, events, reply)

end Store

end BlogConsole

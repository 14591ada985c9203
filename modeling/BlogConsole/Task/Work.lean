import BlogConsole.Service

/-!
What tasks do between their start and their completion, as a tree of steps: write a notice, hand an
error to the handler, or make a call and go on with its reply.

The three tasks turn an error of the service into a substitute result. Other failures end them.
-/

namespace BlogConsole

inductive Work
  | done (result : Result)
  | failed (failure : Failure)
  | note (notice : Notice) (next : Work)
  | handle (error : ApiError) (next : Work)
  | ask (call : Call) (next : call.Reply → Work)

/-- The kinds of tasks: create a post, load one, load the listing up to a number of pages, and a
task without work. -/
inductive Kind
  | create
  | load
  | list (maxPages : Int)
  | bare
  deriving DecidableEq, Repr

namespace Kind

def name : Kind → String
  | create => "CreatePostTask"
  | load => "LoadPostTask"
  | list _ => "LoadPostListTask"
  | bare => "BackgroundTask"

def progress : Kind → String
  | create => "Creating post..."
  | load => "Loading post..."
  | list _ => "Loading post list..."
  | bare => "Working..."

/-- The number of pages of a listing that are loaded, unless it is set. -/
def defaultMaxPages : Int := 5

end Kind

namespace Work

/-- Stores a draft. If the service fails, the result is the draft as it was, which has to be a
post. -/
def create (blog : Option String) (draft : Argument) : Work :=
  note (.insertStarted blog) <| ask (.insert draft) fun
    | .ok post =>
      done (.created ⟨post, "Post Created", "postId: " ++ Display.orNone post.id⟩)
    | .error (.api e origin) =>
      note (.createFailed e) <| handle e <|
        match draft.asPost.under (.field "post") with
        | .valid post => done (.created ⟨post, "Create Failed", "Please Retry"⟩)
        | .invalid ps => failed (.during (Failure.api e origin).trace (.badRecord ps))
    | .error f => failed f

def postFields : String := "title,content"

/-- A post that shows the message of an error as its title. The message has to be a text or
missing. -/
def placeholder (e : ApiError) (origin : Option String) : Work :=
  match Post.ofJson (.object [("title", e.message)]) with
  | .valid post => done (.post post)
  | .invalid ps => failed (.during (Failure.api e origin).trace (.badRecord ps))

/-- Loads a post. If the service fails, the result is a placeholder. -/
def load (id : Argument) : Work :=
  ask (.get id (some postFields)) fun
    | .ok post => done (.post post)
    | .error (.api e origin) => note (.loadFailed id e) (placeholder e origin)
    | .error f => failed f

def listFields : String := "items(id,title),nextPageToken"

/-- Loads the page of a token, and then at most `left` more pages. `before` pages are loaded, with
the posts `gathered`. The listing ends with a page that has no posts or no token. If the service
fails, nothing stays. -/
def gather : (left before : Nat) → (token : Option String) → (gathered : List Post) → Work
  | left, before, token, gathered =>
    ask (.list (some listFields) token none) fun
      | .ok page =>
        match page.items.getD [] with
        | [] => done (.posts gathered)
        | items =>
          let gathered := gathered ++ items
          let next := page.nextPageToken.getD ""
          note (.pageFetched (before + 1) items.length gathered.length) <|
            match left with
            | 0 => done (.posts gathered)
            | left + 1 =>
              if next = "" then done (.posts gathered)
              else gather left (before + 1) (some next) gathered
      | .error (.api e _) => note (.listFailed e) (done (.posts []))
      | .error f => failed f

/-- Loads the listing up to a number of pages, but at least one page. -/
def list (maxPages : Int) : Work := gather (maxPages - 1).toNat 0 none []

/-- The work of a task of a kind with its arguments. The task itself counts as one of them. -/
def ofKind (blog : Option String) (kind : Kind) (args : List Argument) : Work :=
  let refused (fault : ArgumentFault) : Work := failed (.badArguments kind.name fault)
  match kind, args with
  | .create, [draft] => create blog draft
  | .load, [id] => load id
  | .list maxPages, [] => list maxPages
  | .bare, _ => failed .noWork
  | .create, [] => refused (.missing "post")
  | .load, [] => refused (.missing "post_id")
  | .list _, _ => refused (.tooMany 1 (args.length + 1))
  | _, _ => refused (.tooMany 2 (args.length + 1))

end Work

end BlogConsole

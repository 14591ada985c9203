import BlogConsole.Call

/-!
Notices: what the program writes to its log. A notice has a level, a name and a context of named
details. Those of failures that nothing expects come with a trace: what was worded on the way.
-/

namespace BlogConsole

/-- The level of a notice. An exception is an error that comes with a failure. -/
inductive Level
  | debug
  | info
  | warning
  | error
  | exception
  deriving DecidableEq, Repr

def Level.name : Level → String
  | debug => "debug"
  | info => "info"
  | warning => "warning"
  | error => "error"
  | exception => "exception"

/-- The weight of a level: the more, the graver. -/
def Level.weight : Level → Nat
  | debug => 10
  | info => 20
  | warning => 30
  | error => 40
  | exception => 40

inductive Notice
  | requestSent (method endpoint : String)
  | errorReply (status : Nat) (reason message : Json) (endpoint method : String)
  | transportFailed (endpoint method message : String)
  | postStored (blog post : Option String)
  | storeOpened
  | storeClosed
  | postKept (blog post : Option String)
  | pageServed (page : Int) (count : Nat) (hasNext : Bool)
  | insertStarted (blog : Option String)
  | createFailed (error : ApiError)
  | handlerFailed (failure : Failure)
  | loadFailed (post : Argument) (error : ApiError)
  | pageFetched (page count total : Nat)
  | listFailed (error : ApiError)
  | taskFailed (task : String) (failure : Failure)
  | taskCancelled (task : String)
  | blogMissing
  | settingsInvalid (failure : Failure)
  | unexpected (failure : Failure)
  deriving BEq, Repr

/-- A detail of a notice: a value, or the wording of a failure. -/
inductive Detail
  | value (v : Json)
  | failure (f : Failure)

def Detail.text : Detail → String
  | value v => v.text
  | failure f => f.message

namespace Notice

def level : Notice → Level
  | requestSent .. => .debug
  | errorReply .. => .warning
  | transportFailed .. => .warning
  | postStored .. => .info
  | storeOpened => .info
  | storeClosed => .info
  | postKept .. => .info
  | pageServed .. => .debug
  | insertStarted _ => .debug
  | createFailed _ => .error
  | handlerFailed _ => .error
  | loadFailed .. => .error
  | pageFetched .. => .info
  | listFailed _ => .error
  | taskFailed .. => .error
  | taskCancelled _ => .info
  | blogMissing => .error
  | settingsInvalid _ => .error
  | unexpected _ => .exception

def name : Notice → String
  | requestSent .. => "blogger_api_request"
  | errorReply .. => "api_error_details"
  | transportFailed .. => "transport_error"
  | postStored .. => "post_created"
  | storeOpened => "mock_client_opened"
  | storeClosed => "mock_client_closed"
  | postKept .. => "mock_post_created"
  | pageServed .. => "mock_list_page"
  | insertStarted _ => "executing_posts_insert"
  | createFailed _ => "create_post_failed"
  | handlerFailed _ => "error_handler_failed"
  | loadFailed .. => "load_post_failed"
  | pageFetched .. => "fetched_posts_page"
  | listFailed _ => "load_post_list_failed"
  | taskFailed .. => "task_failed"
  | taskCancelled _ => "task_cancelled"
  | blogMissing => "configuration_error"
  | settingsInvalid _ => "configuration_error"
  | unexpected _ => "unexpected_error"

def natural (n : Nat) : Json := .int n

def values : List (String × Json) → List (String × Detail) := List.map fun p => (p.1, .value p.2)

def context : Notice → List (String × Detail)
  | requestSent method endpoint =>
    values [("method", .string method), ("endpoint", .string endpoint)]
  | errorReply status reason message endpoint method =>
    values [("status_code", natural status), ("reason", reason), ("error_msg", message),
      ("endpoint", .string endpoint), ("method", .string method)]
  | transportFailed endpoint method message =>
    values [("endpoint", .string endpoint), ("method", .string method), ("error", .string message)]
  | postStored blog post => values [("blog_id", .ofOption blog), ("post_id", .ofOption post)]
  | storeOpened => []
  | storeClosed => []
  | postKept blog post => values [("blog_id", .ofOption blog), ("post_id", .ofOption post)]
  | pageServed page count hasNext =>
    values [("page", .int page), ("count", natural count), ("has_next", .bool hasNext)]
  | insertStarted blog => values [("blog_id", .ofOption blog)]
  | createFailed e =>
    values [("error", e.message), ("status_code", (e.status.map .int).getD .null)]
  | handlerFailed f => [("error", .failure f)]
  | loadFailed post e => values [("post_id", post.toJson), ("error", e.message)]
  | pageFetched page count total =>
    values [("page", natural page), ("count", natural count), ("total", natural total)]
  | listFailed e => values [("error", e.message)]
  | taskFailed task f => [("task", .value (.string task)), ("error", .failure f)]
  | taskCancelled task => values [("task", .string task)]
  | blogMissing =>
    values [("error", .string "No blog id; set BLOGGER_BLOG_ID or pass --blog-id")]
  | settingsInvalid f => [("error", .failure f)]
  | unexpected f => [("error", .failure f)]

def trace : Notice → List String
  | taskFailed _ f => f.trace
  | unexpected f => f.trace
  | _ => []

/-- A notice as text: level, name and context on one line, and then the trace. -/
def text (n : Notice) : String :=
  n.level.name ++ " " ++ n.name ++
    String.join (n.context.map fun d => " " ++ d.1 ++ "=" ++ d.2.text) ++
    String.join (n.trace.map ("\n" ++ ·))

end Notice

end BlogConsole

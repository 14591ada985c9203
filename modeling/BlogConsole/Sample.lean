import BlogConsole.Arguments.Basic
import BlogConsole.Task.Loop

/-!
The samples: one task on a service, with the console as its display.

A sample ends with an exit code: 2 if something it needs is missing, 1 if no post was created, else
0. If its task fails, the sample fails with it.
-/

namespace BlogConsole.Sample

/-- How a sample ended, and what happened. -/
structure Report where
  code : Except Failure Nat
  events : List Event

def runTask (service : Service) (kind : Kind) (blog : Option String) (args : List Argument) :
    Outcome × List Event :=
  let task := Task.new kind blog .reports .console
  let l := (Loop.new service [task]).execute 0 args |>.1.run
  match l.tasks with
  | [t] => (t.outcome?.getD .cancelled, l.events)
  | _ => (.cancelled, l.events)

/-- The exit code of an outcome. A task that was cancelled, or that created a post without an id,
did not succeed. -/
def exitCode : Outcome → Except Failure Nat
  | .result (.created r) => .ok (if r.post.id.getD "" = "" then 1 else 0)
  | .result _ => .ok 0
  | .failure f => .error f
  | .cancelled => .ok 1

def perform (service : Service) (kind : Kind) (blog : Option String) (args : List Argument) :
    Report :=
  let (outcome, events) := runTask service kind blog args
  ⟨exitCode outcome, events⟩

/-- The end of a sample that misses something it needs. -/
def missing (text : String) : Report := ⟨.ok 2, [.output (text ++ "\n")]⟩

def draft (title content : String) : Post :=
  { Post.empty with title := some title, content := some content }

def run (service : Service) (options : Options) (blog : Option String) : Report :=
  match options.mode with
  | .createPost =>
    match options.title.getD "" with
    | "" => missing "--title is required for 'create'"
    | title => perform service .create blog [.post (draft title (options.content.getD ""))]
  | .showPost =>
    match options.postId.getD "" with
    | "" => missing "--post-id is required for 'show'"
    | id => perform service .load blog [.text id]
  | .listPosts => perform service (.list Kind.defaultMaxPages) blog []

end BlogConsole.Sample

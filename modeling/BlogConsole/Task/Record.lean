import BlogConsole.Event

/-!
Records of what a task does. An entry says what the task did and in which status it was then, and it
holds the events by which others saw it.

Not every deed shows the same way: a start is a line on a console and a report to other callbacks,
and a call to a client shows as its request. The end of a task's work does not show at all.
-/

namespace BlogConsole

/-- What a task does: report its start, make a call that is given a reply, write a notice, hand an
error to its handler, come to the end of its work with a result or a failure, report its result, and
be refused when its callback executes it again. -/
inductive Deed
  | start (message : String)
  | ask (blog : Option String) (call : Call) (reply : call.Reply)
  | note (notice : Notice)
  | handle (error : ApiError)
  | returned (result : Result)
  | raised (failure : Failure)
  | complete (result : Result)
  | refused (failure : Failure)

structure Entry where
  status : Status
  deed : Deed
  events : List Event

namespace Entry

def shown (es : List Entry) : List Event := es.flatMap (·.events)

@[simp] theorem shown_nil : shown [] = [] := rfl
@[simp] theorem shown_cons (e : Entry) (es : List Entry) :
    shown (e :: es) = e.events ++ shown es := rfl
@[simp] theorem shown_append (es fs : List Entry) : shown (es ++ fs) = shown es ++ shown fs :=
  List.flatMap_append

end Entry

end BlogConsole

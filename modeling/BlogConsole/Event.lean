import BlogConsole.Display
import BlogConsole.Notice

/-!
Events: everything that the outside world sees of a run, in order. Tasks are known by their number.
-/

namespace BlogConsole

inductive Event
  | notice (n : Notice)
  | request (r : Request)
  | output (text : String)
  | called (task : Nat) (blog : Option String) (call : Call)
  | started (task : Nat) (message : String) (status : Status)
  | completed (task : Nat) (result : Result) (status : Status)
  | handled (task : Nat) (error : ApiError)
  | refused (task : Nat) (failure : Failure)

namespace Event

def notices (es : List Event) : List Notice :=
  es.filterMap fun
    | notice n => some n
    | _ => none

@[simp] theorem notices_nil : notices [] = [] := rfl
@[simp] theorem notices_append (es fs : List Event) :
    notices (es ++ fs) = notices es ++ notices fs := List.filterMap_append

def requests (es : List Event) : List Request :=
  es.filterMap fun
    | request r => some r
    | _ => none

def printed (es : List Event) : String :=
  String.join (es.filterMap fun
    | output text => some text
    | _ => none)

end Event

end BlogConsole

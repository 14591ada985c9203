import BlogConsole.Http
import BlogConsole.Json.Parser
import BlogConsole.Json.Printer
import BlogConsole.Post.Validation
import BlogConsole.Text.Charset

/-!
What can go wrong, by cause, and how each cause is worded.

An error of the service is the one kind of failure that tasks expect; they turn it into a
substitute result. Every other failure ends the task that meets it.
-/

namespace BlogConsole

/-- An error that the service reported, or a failure to reach it. Message and reason come from the
reply as they are, so they may be any value; a missing reason is null. An error without a status
did not come from a reply. -/
structure ApiError where
  authorization : Bool
  message : Json
  status : Option Int
  reason : Json
  deriving BEq, Repr

/-- A task has not started, has started, or has ended. -/
inductive Status
  | pending
  | running
  | finished
  deriving DecidableEq, Repr

def Status.name : Status → String
  | pending => "pending"
  | running => "running"
  | finished => "finished"

/-- A task was not given the argument it needs, or was given more than it takes. The task itself
counts as one argument. -/
inductive ArgumentFault
  | missing (name : String)
  | tooMany (taken given : Nat)
  deriving DecidableEq, Repr

/-- What can go wrong. An error of the service comes from a failure of the exchange with it, worded
so, unless it was made up by a store. A failure may be met during the handling of others, which are
worded so, the earliest one first. -/
inductive Failure
  | api (error : ApiError) (origin : Option String)
  | badRecord (problems : List Problem)
  | badJson (error : Json.SyntaxError)
  | badBytes (error : Text.DecodeError)
  | badText (error : Text.EncodeError)
  | badHeader (fault : HeaderFault)
  | badPage (fault : Text.CharsetFault)
  | lacks (value : Json) (part : String)
  | badUrl (error : Url.Error)
  | badName (fault : Url.NameFault)
  | withoutScheme (url : Url)
  | redirectWithoutHost
  | notOpen
  | outOfReplies
  | alreadyExecuted (status : Status)
  | noWork
  | badArguments (task : String) (fault : ArgumentFault)
  | dateOutOfRange
  | numberTooLong
  | thrown (kind message : String)
  | during (earlier : List String) (failure : Failure)
  deriving BEq, Repr

namespace Json

def typeName : Json → String
  | null => "NoneType"
  | bool _ => "bool"
  | int _ => "int"
  | float _ => "float"
  | string _ => "str"
  | array _ => "list"
  | object _ => "dict"

end Json

def Step.text : Step → String
  | field name => name
  | index n => toString n

/-- A fault as text: the way to the part and the cause. -/
def Problem.text (p : Problem) : String :=
  ".".intercalate (p.path.map Step.text) ++ ": " ++ p.cause.message

def HeaderFault.message : HeaderFault → String
  | notAscii e => e.message
  | notText v => s!"Header value must be str or bytes, not <class '{v.typeName}'>"

def ArgumentFault.message (task : String) (fault : ArgumentFault) : String :=
  let work := task ++ ".run_in_background() "
  match fault with
  | missing name => s!"{work}missing 1 required positional argument: '{name}'"
  | tooMany taken given =>
    let arguments := if taken = 1 then "argument" else "arguments"
    s!"{work}takes {taken} positional {arguments} but {given} were given"

def Failure.message : Failure → String
  | api e _ => e.message.plainText
  | badRecord ps => "\n".intercalate (ps.map Problem.text)
  | badJson e => e.message
  | badBytes e => e.message
  | badText e => e.message
  | badHeader fault => fault.message
  | badPage fault => fault.message
  | lacks v part => s!"'{v.typeName}' object has no attribute '{part}'"
  | badUrl e => e.message
  | badName fault => fault.message
  | withoutScheme url => "unknown url type: " ++ Text.quoted url.text
  | redirectWithoutHost => "For absolute URLs, path must be empty or begin with '/'"
  | notOpen => "Client not initialized. Use 'async with' context manager."
  | outOfReplies => "script exhausted"
  | alreadyExecuted s => s!"Cannot execute task: the task is already {s.name}"
  | noWork => ""
  | badArguments task fault => fault.message task
  | dateOutOfRange => "date value out of range"
  | numberTooLong =>
    s!"Exceeds the limit ({Text.maxIntegerDigits} digits) for integer string conversion; " ++
      "use sys.set_int_max_str_digits() to increase the limit"
  | thrown _ message => message
  | during _ f => f.message

/-- The wordings of a failure and of all that it goes back to, the earliest one first. What a
library met on the way to a failure of its own is left out. -/
def Failure.trace : Failure → List String
  | api e origin => origin.toList ++ [e.message.plainText]
  | during earlier f => earlier ++ f.trace
  | f => [f.message]

def Checked.toExcept {α : Type} : Checked α → Except Failure α
  | valid a => .ok a
  | invalid ps => .error (.badRecord ps)

end BlogConsole

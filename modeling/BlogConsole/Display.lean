import BlogConsole.Json.Printer
import BlogConsole.Markup
import BlogConsole.Post.Basic

/-!
The console as a display of tasks: a progress message when a task starts, and its result when it
completes.
-/

namespace BlogConsole

inductive Result
  | created (result : CreateResult)
  | post (post : Post)
  | posts (posts : List Post)
  deriving DecidableEq, Repr

/-- What a display can be asked to show: the result of a task, or a plain value. -/
inductive Shown
  | result (result : Result)
  | plain (value : Json)

/-- A display is busy between the start and the completion of a task, and it keeps what it was
asked to show. -/
structure Display where
  busy : Bool
  results : List Shown

namespace Display

def fresh : Display := ⟨false, []⟩

/-- The title of a post, or a stand-in for a missing or empty one. -/
def titleOf (p : Post) : String :=
  match p.title with
  | some t => if t = "" then "(untitled)" else t
  | none => "(untitled)"

def orNone (s : Option String) : String := s.getD "None"

/-- A post: an empty line, the title, and the content as plain text unless it is empty. -/
def postText (p : Post) : String :=
  let body :=
    match p.content with
    | some c => if c = "" then "" else Markup.strip c ++ "\n"
    | none => ""
  "\n" ++ titleOf p ++ "\n" ++ body

def inThree (n : Nat) : String :=
  let ds := Nat.toDigits 10 n
  String.ofList (List.replicate (3 - ds.length) ' ' ++ ds)

def lineText (n : Nat) (p : Post) : String :=
  inThree n ++ ". " ++ titleOf p ++ "  [" ++ orNone p.id ++ "]\n"

/-- A list of posts: an empty line and a numbered line for each. -/
def listText : List Post → String
  | [] => "\nNo posts\n"
  | posts => "\n" ++ String.join ((posts.zipIdx 1).map fun e => lineText e.2 e.1)

/-- A dialog: its title in brackets and its message. -/
def alertText (title message : String) : String := "\n[" ++ title ++ "] " ++ message ++ "\n"

def resultText : Result → String
  | .created r => alertText r.title r.message ++ postText r.post
  | .post p => postText p
  | .posts ps => listText ps

def shownText : Shown → String
  | .result r => resultText r
  | .plain v => v.plainText ++ "\n"

/-- A task starts: the display is busy and prints the message. -/
def start (d : Display) (message : String) : Display × String :=
  ({ d with busy := true }, message ++ "\n")

/-- A task completes: the display is no longer busy and prints the value. -/
def complete (d : Display) (v : Shown) : Display × String :=
  (⟨false, d.results ++ [v]⟩, shownText v)

end Display

end BlogConsole

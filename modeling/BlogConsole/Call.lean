import BlogConsole.Failure
import BlogConsole.Post.Literal
import BlogConsole.Post.Wire

/-!
The three calls on a blog's posts, and what each is answered with.

A call is given its post or its id by whoever makes it, and takes what it is given: any value may
stand where a post or an id belongs. Whether it is of use shows when the call is answered.
-/

namespace BlogConsole

/-- What a call or a task is given: a post, or some other value. -/
inductive Argument
  | post (post : Post)
  | value (value : Json)
  deriving BEq, Repr

def Argument.text (s : String) : Argument := .value (.string s)

def Argument.toJson : Argument → Json
  | post p => p.toWire
  | value v => v

def Argument.asPost : Argument → Checked Post
  | post p => .valid p
  | value v => Post.ofJson v

/-- An argument is the id of a post. Null is the id of a post without one. -/
def Argument.isIdOf (a : Argument) (p : Post) : Bool :=
  match a with
  | value (.string s) => p.id = some s
  | value .null => p.id.isNone
  | _ => false

def Argument.plainText : Argument → String
  | post p => p.plainText
  | value v => v.plainText

/-- A call on the posts of a blog: store a post, fetch one, or fetch one page of the listing. A call
may select fields; a listing may continue at a token and bound the number of posts. -/
inductive Call
  | insert (draft : Argument)
  | get (id : Argument) (fields : Option String)
  | list (fields token : Option String) (maxResults : Option Int)
  deriving BEq, Repr

abbrev Call.Answer : Call → Type
  | insert _ => Post
  | get .. => Post
  | list .. => PostList

abbrev Call.Reply (c : Call) : Type := Except Failure c.Answer

def Call.fail (c : Call) (f : Failure) : c.Reply := .error f

def Call.read : (c : Call) → Json → c.Reply
  | insert _, v => (Post.ofJson v).toExcept
  | get .., v => (Post.ofJson v).toExcept
  | list .., v => (PostList.ofJson v).toExcept

end BlogConsole

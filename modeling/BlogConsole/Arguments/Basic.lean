import BlogConsole.Text.Digit
import BlogConsole.Text.Literal

/-!
The arguments of the command line.

An argument that starts with a hyphen is an option, unless it is a hyphen alone, looks like a
negative number or has a space in it. Long options may be shortened as long as they stay unique, and
may carry their value after an equals sign. After `--` nothing is an option. Arguments that find no
place are collected and faulted at the end; every other fault ends the reading at once, and so does
the request for help.
-/

namespace BlogConsole

/-- What the program is to do. -/
inductive Mode
  | listPosts
  | showPost
  | createPost
  deriving DecidableEq, Repr

def Mode.ofWord? (s : String) : Option Mode :=
  if s = "list" then some .listPosts
  else if s = "show" then some .showPost
  else if s = "create" then some .createPost
  else none

structure Options where
  mode : Mode
  blogId : Option String
  postId : Option String
  title : Option String
  content : Option String
  mock : Bool
  deriving DecidableEq, Repr

namespace Arguments

inductive Valued
  | blogId
  | postId
  | title
  | content
  deriving DecidableEq, Repr

inductive Flag
  | help
  | mock
  | valued (v : Valued)
  deriving DecidableEq, Repr

def longOptions : List (String × Flag) :=
  [("--help", .help), ("--blog-id", .valued .blogId), ("--post-id", .valued .postId),
    ("--title", .valued .title), ("--content", .valued .content), ("--mock", .mock)]

def Flag.name : Flag → String
  | help => "-h/--help"
  | mock => "--mock"
  | valued .blogId => "--blog-id"
  | valued .postId => "--post-id"
  | valued .title => "--title"
  | valued .content => "--content"

inductive Fault
  | ambiguous (argument : String) (candidates : List String)
  | noValue (flag : Flag)
  | needlessValue (flag : Flag) (value : String)
  | badMode (word : String)
  | unrecognized (arguments : List String)
  deriving DecidableEq, Repr

def Fault.message : Fault → String
  | ambiguous argument candidates =>
    s!"ambiguous option: {argument} could match " ++ ", ".intercalate candidates
  | noValue flag => s!"argument {flag.name}: expected one argument"
  | needlessValue flag value =>
    s!"argument {flag.name}: ignored explicit argument " ++ Text.quoted value
  | badMode word =>
    "argument mode: invalid choice: " ++ Text.quoted word ++
      " (choose from 'list', 'show', 'create')"
  | unrecognized arguments => "unrecognized arguments: " ++ " ".intercalate arguments

/-- Why the arguments give no options: help is asked for, or there is a fault. -/
inductive Stop
  | help
  | fault (fault : Fault)
  deriving DecidableEq, Repr

/-! ### Kinds of arguments -/

/-- What an argument is by itself: a plain word, the mark that ends options, a long option with the
value after its equals sign, the short option with what follows it, or an unknown option. -/
inductive Token
  | word (text : String)
  | mark
  | option (flag : Flag) (value : Option String)
  | short (tail : Option (List Char))
  | unknown (text : String)
  deriving DecidableEq, Repr

/-- A hyphen, then digits, perhaps with a point among or before them. One line end may follow. -/
def looksNegative (cs : List Char) : Bool :=
  let isDigit (c : Char) : Bool := (Text.digitValue? c).isSome
  let body (cs : List Char) : Bool :=
    match cs.dropWhile isDigit with
    | [] => !cs.isEmpty
    | '.' :: rest => !rest.isEmpty && rest.all isDigit
    | _ => false
  match cs with
  | '-' :: rest => body rest || (rest.getLast? = some '\n' && body rest.dropLast)
  | _ => false

def splitEquals (cs : List Char) : List Char × Option (List Char) :=
  match cs.dropWhile (· ≠ '=') with
  | [] => (cs, none)
  | _ :: rest => (cs.takeWhile (· ≠ '='), some rest)

/-- The long options that an argument may stand for when its name is no option's whole name. -/
def candidates (cs : List Char) : List (String × Token) :=
  let (name, value) := splitEquals cs
  (longOptions.filter fun o => name.isPrefixOf o.1.toList).map fun o =>
    (o.1, .option o.2 (value.map String.ofList))

/-- What an argument with a hyphen at its start is if it stands for no known option. -/
def otherToken (arg : String) : Token :=
  let cs := arg.toList
  if looksNegative cs || cs.contains ' ' then .word arg else .unknown arg

def Token.ofArgument (arg : String) : Except Fault Token :=
  let cs := arg.toList
  match cs with
  | '-' :: '-' :: _ =>
    let (name, value) := splitEquals cs
    match longOptions.lookup (String.ofList name) with
    | some flag => .ok (.option flag (value.map String.ofList))
    | none =>
      match candidates cs with
      | [(_, token)] => .ok token
      | [] => .ok (otherToken arg)
      | many => .error (.ambiguous arg (many.map (·.1)))
  | '-' :: 'h' :: '=' :: tail => .ok (.short (some tail))
  | ['-', 'h'] => .ok (.short none)
  | '-' :: 'h' :: tail => .ok (.short (some tail))
  | '-' :: _ :: _ => .ok (otherToken arg)
  | _ => .ok (.word arg)

/-- What each argument is. Behind the mark that ends options all are words. -/
def tokens : List String → Except Fault (List Token)
  | [] => .ok []
  | arg :: rest =>
    if arg = "--" then .ok (.mark :: rest.map .word)
    else
      match Token.ofArgument arg with
      | .error f => .error f
      | .ok t => (tokens rest).map (t :: ·)

/-! ### Reading -/

/-- What was read so far: the mode, if it had its place, the options, and the arguments without a
place. -/
structure State where
  mode : Option Mode
  options : Options
  extras : List String
  deriving DecidableEq, Repr

def State.start : State := ⟨none, ⟨.listPosts, none, none, none, none, false⟩, []⟩

def Options.set (o : Options) (value : String) : Valued → Options
  | .blogId => { o with blogId := some value }
  | .postId => { o with postId := some value }
  | .title => { o with title := some value }
  | .content => { o with content := some value }

/-- Gives an option its value. The mark that ends options is an empty value. -/
def setValue (s : State) (v : Valued) (value : String) : State :=
  { s with options := Options.set s.options (if value = "--" then "" else value) v }

/-- What the text after the short option leads to: more such options, or a fault. -/
def shortTail : List Char → Stop
  | ['h'] => .help
  | 'h' :: rest => shortTail rest
  | cs => .fault (.needlessValue .help (String.ofList cs))

/-- A word where the mode may stand. -/
def takeWord (s : State) (word : String) : Except Stop State :=
  match s.mode with
  | some _ => .ok { s with extras := s.extras ++ [word] }
  | none =>
    match Mode.ofWord? word with
    | some m => .ok { s with mode := some m, options := { s.options with mode := m } }
    | none => .error (.fault (.badMode word))

/-- The words behind the mark that ends options. The mark belongs to the mode, before or after it,
and has a place of its own only then. -/
def takeMarked (s : State) (afterMode : Bool) (words : List String) : Except Stop State :=
  match s.mode with
  | none =>
    match words with
    | [] => .ok s
    | w :: rest => (takeWord s w).map fun s => { s with extras := s.extras ++ rest }
  | some _ =>
    .ok { s with extras := s.extras ++ (if afterMode then words else "--" :: words) }

def Token.word? : Token → Option String
  | word text => some text
  | _ => none

/-- Reads what the arguments are, from left to right. The flag tells whether the token before was
the mode. -/
def read : (afterMode : Bool) → State → List Token → Except Stop State
  | _, s, [] => .ok s
  | _, s, .word w :: rest =>
    match takeWord s w with
    | .error e => .error e
    | .ok next => read s.mode.isNone next rest
  | afterMode, s, .mark :: rest => takeMarked s afterMode (rest.filterMap Token.word?)
  | _, s, .unknown u :: rest => read false { s with extras := s.extras ++ [u] } rest
  | _, _, .short none :: _ => .error .help
  | _, _, .short (some tail) :: _ => .error (shortTail tail)
  | _, s, .option flag (some value) :: rest =>
    match flag with
    | .valued v => read false (setValue s v value) rest
    | flag => .error (.fault (.needlessValue flag value))
  | _, s, .option flag none :: rest =>
    match flag with
    | .help => .error .help
    | .mock => read false { s with options := { s.options with mock := true } } rest
    | .valued v =>
      match rest with
      | .word w :: rest => read false (setValue s v w) rest
      | _ => .error (.fault (.noValue (.valued v)))

def parse (args : List String) : Except Stop Options :=
  match tokens args with
  | .error f => .error (.fault f)
  | .ok ts =>
    match read false .start ts with
    | .error e => .error e
    | .ok s =>
      if s.extras.isEmpty then .ok s.options else .error (.fault (.unrecognized s.extras))

end Arguments

end BlogConsole

import BlogConsole.Text.Blank

/-!
Environment files: lines of a name, an equals sign and a value.

Values stand bare, in single quotes or in double quotes; the latter two may go over several lines,
which then end with line feeds. A line that cannot be read is skipped. In every value `${NAME}` and
`${NAME:-default}` stand for the value of a variable.
-/

namespace BlogConsole.EnvFile

/-- A text with a line feed at the end of every line. A carriage return ends a line too, alone or
together with a line feed. -/
def unifyLines : List Char → List Char
  | [] => []
  | '\r' :: '\n' :: cs => '\n' :: unifyLines cs
  | '\r' :: cs => '\n' :: unifyLines cs
  | c :: cs => c :: unifyLines cs

def isLineEnd (c : Char) : Bool := c = '\n'

def isGap (c : Char) : Bool := Text.isBlank c && !isLineEnd c

/-- The text after the blanks at its start that stay in the line. -/
def skipGap (cs : List Char) : List Char := cs.dropWhile isGap

def skipLine (cs : List Char) : List Char := (cs.dropWhile fun c => !isLineEnd c).drop 1

/-! ### Names -/

/-- The text after the word `export` and blanks, if it starts so. -/
def skipExport (cs : List Char) : List Char :=
  if "export".toList.isPrefixOf cs then
    let rest := cs.drop 6
    if rest.head?.any isGap then skipGap rest else cs
  else cs

def isNameChar (c : Char) : Bool := c ≠ '=' && c ≠ '#' && !Text.isBlank c

/-- The name at the start of a binding, and the text after it. A comment has no name. -/
def name? (cs : List Char) : Option (Option (List Char) × List Char) :=
  match cs with
  | '#' :: _ => some (none, cs)
  | '\'' :: rest =>
    let name := rest.takeWhile (· ≠ '\'')
    match name, rest.dropWhile (· ≠ '\'') with
    | [], _ => none
    | _, [] => none
    | name, _ :: after => some (some name, after)
  | cs =>
    match cs.takeWhile isNameChar with
    | [] => none
    | name => some (some name, cs.dropWhile isNameChar)

/-! ### Values -/

/-- The text inside quotes up to the quote that closes, and the text after it. A backslash takes the
next character with it, which has to be in the same line. -/
def quotedText (quote : Char) : List Char → Option (List Char × List Char)
  | [] => none
  | c :: cs =>
    if c = quote then some ([], cs)
    else if c = '\\' then
      match cs with
      | [] => none
      | d :: rest =>
        if isLineEnd d then none
        else (quotedText quote rest).map fun r => (c :: d :: r.1, r.2)
    else (quotedText quote cs).map fun r => (c :: r.1, r.2)

/-- What a letter after a backslash stands for between single quotes. -/
def singleEscape? (c : Char) : Option Char := if c = '\\' ∨ c = '\'' then some c else none

/-- What a letter after a backslash stands for between double quotes. -/
def doubleEscape? (c : Char) : Option Char :=
  if c = '\\' ∨ c = '\'' ∨ c = '"' then some c
  else if c = 'a' then some '\x07'
  else if c = 'b' then some '\x08'
  else if c = 'f' then some '\x0c'
  else if c = 'n' then some '\n'
  else if c = 'r' then some '\r'
  else if c = 't' then some '\t'
  else if c = 'v' then some '\x0b'
  else none

/-- A text with its escapes undone. A backslash before any other letter stays. -/
def undoEscapes (escape? : Char → Option Char) : List Char → List Char
  | [] => []
  | [c] => [c]
  | c :: d :: rest =>
    if c = '\\' then
      match escape? d with
      | some e => e :: undoEscapes escape? rest
      | none => c :: undoEscapes escape? (d :: rest)
    else c :: undoEscapes escape? (d :: rest)

/-- A line without a comment, which is blanks and a `#` at least, and what follows. -/
def dropComment : List Char → List Char
  | [] => []
  | c :: cs =>
    if Text.isBlank c ∧ (cs.dropWhile Text.isBlank).head? = some '#' then []
    else c :: dropComment cs

/-- The value after an equals sign, and the text after it. -/
def value? (cs : List Char) : Option (List Char × List Char) :=
  let rest := skipGap cs
  match rest with
  | [] => some ([], [])
  | c :: inner =>
    if c = '\'' then (quotedText '\'' inner).map fun r => (undoEscapes singleEscape? r.1, r.2)
    else if c = '"' then (quotedText '"' inner).map fun r => (undoEscapes doubleEscape? r.1, r.2)
    else if c = '#' ∧ rest.length < cs.length then some ([], rest)
    else
      let line := rest.takeWhile fun c => !isLineEnd c
      some (Text.dropEnd Text.isBlank (dropComment line), rest.dropWhile fun c => !isLineEnd c)

/-! ### Bindings -/

/-- A name with its value; a name may stand without one. -/
structure Binding where
  name : List Char
  value : Option (List Char)
  deriving DecidableEq, Repr

/-- The text after the end of a line, before which blanks and a comment may stand. -/
def lineEnd? (cs : List Char) : Option (List Char) :=
  let rest := skipGap cs
  let rest :=
    match rest with
    | '#' :: _ => rest.dropWhile fun c => !isLineEnd c
    | rest => rest
  match rest with
  | [] => some []
  | c :: after => if isLineEnd c then some after else none

/-- The binding at the start of a text, if the line can be read and has one, and the text after the
line. -/
def binding (cs : List Char) : Option Binding × List Char :=
  match name? (skipExport cs) with
  | none => (none, skipLine (skipExport cs))
  | some (name, rest) =>
    let rest := skipGap rest
    let ending (value : Option (List Char)) (after : List Char) : Option Binding × List Char :=
      match lineEnd? after with
      | some next => (name.map (Binding.mk · value), next)
      | none => (none, skipLine after)
    match rest with
    | '=' :: after =>
      match value? after with
      | some (value, next) => ending (some value) next
      | none => (none, skipLine (skipGap after))
    | rest => ending none rest

/-- The bindings of a text, in order. The first argument bounds the number of lines. -/
def bindingsFrom : Nat → List Char → List Binding
  | 0, _ => []
  | fuel + 1, cs =>
    match cs.dropWhile Text.isBlank with
    | [] => []
    | cs =>
      let (found, rest) := binding cs
      found.toList ++ bindingsFrom fuel rest

/-- The bindings of a file, in order. A byte order mark at its start does not count. -/
def bindings (cs : List Char) : List Binding :=
  let cs :=
    match unifyLines cs with
    | '\ufeff' :: rest => rest
    | cs => cs
  bindingsFrom (cs.length + 1) cs

/-! ### Variables in values -/

/-- The variables that are known: names with their values, if they have one. -/
abbrev Variables : Type := List (List Char × Option (List Char))

/-- The value of a variable, or else a default. A variable that is known without a value is
empty. -/
def lookUp (vars : Variables) (name default : List Char) : List Char :=
  match vars.lookup name with
  | some value => value.getD []
  | none => default

/-- A variable at the start of a text, after its opening brace: its name, its default, and the text
after the closing brace. -/
def reference? (cs : List Char) : Option (List Char × List Char × List Char) :=
  let stops (c : Char) : Bool := c = '\x7d' || c = ':'
  let name := cs.takeWhile fun c => !stops c
  match cs.dropWhile fun c => !stops c with
  | '\x7d' :: after => some (name, [], after)
  | ':' :: '-' :: rest =>
    match rest.dropWhile (· ≠ '\x7d') with
    | _ :: after => some (name, rest.takeWhile (· ≠ '\x7d'), after)
    | [] => none
  | _ => none

/-- A value with its variables replaced. The first argument bounds the length of the value. -/
def expandFrom (vars : Variables) : Nat → List Char → List Char
  | 0, _ => []
  | _ + 1, [] => []
  | fuel + 1, c :: cs =>
    match c, cs with
    | '$', '\x7b' :: rest =>
      match reference? rest with
      | some (name, default, after) => lookUp vars name default ++ expandFrom vars fuel after
      | none => c :: expandFrom vars fuel cs
    | _, _ => c :: expandFrom vars fuel cs

def expand (vars : Variables) (cs : List Char) : List Char := expandFrom vars (cs.length + 1) cs

/-- Gives a variable a value: in its old place if it is known, else at the end. -/
def putVariable (name : List Char) (value : Option (List Char)) : Variables → Variables
  | [] => [(name, value)]
  | (n, v) :: rest =>
    if n = name then (name, value) :: rest else (n, v) :: putVariable name value rest

/-- The variables of a file: each value may refer to earlier names of the file, and after them to
the environment. -/
def resolve (environment : List (List Char × List Char)) (bs : List Binding) : Variables :=
  let outer : Variables := environment.map fun p => (p.1, some p.2)
  bs.foldl
    (fun vars b => putVariable b.name (b.value.map (expand (vars ++ outer))) vars)
    []

end BlogConsole.EnvFile

import BlogConsole.Json.Basic
import BlogConsole.Text.Digit
import BlogConsole.Text.Encoding

/-!
Reading JSON text.

Besides standard JSON the words `NaN`, `Infinity` and `-Infinity` are numbers. Of two members with
one name the later value stays. An escape may spell a lone surrogate. Arrays and objects stand in
one another up to a certain depth. The first fault ends the reading; it is named together with the
place where it shows.
-/

namespace BlogConsole.Json

/-- Why a text is no JSON. -/
inductive SyntaxCause
  | expectingValue
  | extraData
  | expectingName
  | expectingColon
  | expectingComma
  | unterminatedString
  | controlCharacter
  | badEscape
  | badUnicodeEscape
  | integerTooLong (digits : Nat)
  | tooDeep (container : String)
  deriving DecidableEq, Repr

def SyntaxCause.message : SyntaxCause → String
  | expectingValue => "Expecting value"
  | extraData => "Extra data"
  | expectingName => "Expecting property name enclosed in double quotes"
  | expectingColon => "Expecting ':' delimiter"
  | expectingComma => "Expecting ',' delimiter"
  | unterminatedString => "Unterminated string starting at"
  | controlCharacter => "Invalid control character at"
  | badEscape => "Invalid \\escape"
  | badUnicodeEscape => "Invalid \\uXXXX escape"
  | integerTooLong digits =>
    s!"Exceeds the limit ({Text.maxIntegerDigits} digits) for integer string conversion: " ++
      s!"value has {digits} digits; use sys.set_int_max_str_digits() to increase the limit"
  | tooDeep container =>
    s!"maximum recursion depth exceeded while decoding a JSON {container} from a unicode string"

/-- A fault in a text: its cause, the place in characters, and the same place as line and
column. -/
structure SyntaxError where
  cause : SyntaxCause
  position : Nat
  line : Nat
  column : Nat
  deriving DecidableEq, Repr

def SyntaxError.message (e : SyntaxError) : String :=
  match e.cause with
  | .integerTooLong _ => e.cause.message
  | .tooDeep _ => e.cause.message
  | cause => s!"{cause.message}: line {e.line} column {e.column} (char {e.position})"

/-- A fault met while reading: its cause, and how many characters were left from its place on. -/
structure Fault where
  cause : SyntaxCause
  left : Nat
  deriving DecidableEq, Repr

/-- The result of reading a part of a text: what was read, and the rest of the text. -/
abbrev Reading (α : Type) := Except Fault (α × List Char)

def failAt {α : Type} (cause : SyntaxCause) (rest : List Char) : Except Fault α :=
  .error ⟨cause, rest.length⟩

def isSpace (c : Char) : Bool := c = ' ' || c = '\t' || c = '\n' || c = '\r'

/-- The text after its leading blanks. -/
def skipSpaces (cs : List Char) : List Char := cs.dropWhile isSpace

def dropWord? : List Char → List Char → Option (List Char)
  | [], cs => some cs
  | w :: ws, c :: cs => if w = c then dropWord? ws cs else none
  | _ :: _, [] => none

/-! ### Numbers -/

def hexDigit? (c : Char) : Option Nat :=
  if '0' ≤ c ∧ c ≤ '9' then some (c.toNat - 0x30)
  else if 'a' ≤ c ∧ c ≤ 'f' then some (c.toNat - 0x57)
  else if 'A' ≤ c ∧ c ≤ 'F' then some (c.toNat - 0x37)
  else none

def spanDigits (cs : List Char) : List Nat × List Char :=
  (cs.takeWhile Char.isDigit |>.filterMap Text.asciiDigit?, cs.dropWhile Char.isDigit)

/-- The digits after a point, if a point and a digit come next. -/
def fraction (cs : List Char) : Option (List Nat × List Char) :=
  match cs with
  | '.' :: rest =>
    match spanDigits rest with
    | ([], _) => none
    | found => some found
  | _ => none

/-- The exponent, if a whole one comes next. -/
def exponent (cs : List Char) : Option (Int × List Char) :=
  match cs with
  | c :: rest =>
    if c = 'e' ∨ c = 'E' then
      let (negative, body) := Text.splitSign rest
      match spanDigits body with
      | ([], _) => none
      | (ds, rest) => some (if negative then -(Text.ofDigits ds : Int) else Text.ofDigits ds, rest)
    else none
  | [] => none

/-- The whole part of a number: one zero, or digits that do not start with zero. -/
def wholePart (cs : List Char) : Option (List Nat × List Char) :=
  match cs with
  | '0' :: rest => some ([0], rest)
  | cs =>
    match spanDigits cs with
    | ([], _) => none
    | found => some found

/-- A number without its sign. With a fraction or an exponent it has double precision, else it is
whole. -/
def unsignedNumber (negative : Bool) (cs : List Char) :
    Option (Except SyntaxCause Json × List Char) :=
  match wholePart cs with
  | none => none
  | some (whole, rest) =>
    let decimal := fraction rest
    let rest := (decimal.map (·.2)).getD rest
    let power := exponent rest
    let rest := (power.map (·.2)).getD rest
    match decimal, power with
    | none, none =>
      if Text.maxIntegerDigits < whole.length then
        some (.error (.integerTooLong whole.length), rest)
      else
        let n : Int := Text.ofDigits whole
        some (.ok (int (if negative then -n else n)), rest)
    | _, _ =>
      let places := (decimal.map (·.1)).getD []
      some (.ok (float (Double.ofDecimal negative (Text.ofDigits (whole ++ places))
        ((power.map (·.1)).getD 0 - places.length))), rest)

def number (cs : List Char) : Reading Json :=
  let found :=
    match cs with
    | '-' :: rest => unsignedNumber true rest
    | cs => unsignedNumber false cs
  match found with
  | some (.ok v, rest) => .ok (v, rest)
  | some (.error cause, _) => failAt cause cs
  | none => failAt .expectingValue cs

/-! ### Strings -/

/-- The unit that four digits in base sixteen spell at the start of a text. -/
def unit? : List Char → Option (Nat × List Char)
  | a :: b :: c :: d :: rest =>
    match hexDigit? a, hexDigit? b, hexDigit? c, hexDigit? d with
    | some a, some b, some c, some d => some (0x1000 * a + 0x100 * b + 0x10 * c + d, rest)
    | _, _, _, _ => none
  | _ => none

/-- The character that a letter after a backslash stands for. -/
def escaped? (c : Char) : Option Char :=
  if c = '"' ∨ c = '\\' ∨ c = '/' then some c
  else if c = 'b' then some '\x08'
  else if c = 'f' then some '\x0c'
  else if c = 'n' then some '\n'
  else if c = 'r' then some '\r'
  else if c = 't' then some '\t'
  else none

/-- The character of an escape that spells a unit, and the text after it. A first surrogate and a
second one after it make one character. The argument is the text after `\u`; a unit has to be
followed by more text. -/
def unicodeEscape (cs : List Char) : Reading Char :=
  let bad {α : Type} (rest : List Char) : Except Fault α :=
    .error ⟨.badUnicodeEscape, rest.length + 1⟩
  match unit? cs with
  | none => bad cs
  | some (_, []) => bad cs
  | some (high, rest) =>
    match rest with
    | '\\' :: 'u' :: more =>
      if Text.isHighSurrogate high ∧ 5 ≤ more.length then
        match unit? more with
        | none => bad more
        | some (low, after) =>
          if Text.isLowSurrogate low then .ok (Text.joinSurrogates high low, after)
          else .ok (Text.ofUnit high, rest)
      else .ok (Text.ofUnit high, rest)
    | _ => .ok (Text.ofUnit high, rest)

/-- The characters of a string up to its closing quote. `start` counts the characters left at its
opening quote; the first argument bounds the characters left now. -/
def stringBody (start : Nat) : Nat → List Char → Reading (List Char)
  | 0, _ => .error ⟨.unterminatedString, start⟩
  | _ + 1, [] => .error ⟨.unterminatedString, start⟩
  | fuel + 1, c :: rest =>
    if c = '"' then .ok ([], rest)
    else if c = '\\' then
      match rest with
      | [] => .error ⟨.unterminatedString, start⟩
      | e :: after =>
        if e = 'u' then
          match unicodeEscape after with
          | .error fault => .error fault
          | .ok (d, after) => (stringBody start fuel after).map fun r => (d :: r.1, r.2)
        else
          match escaped? e with
          | some d => (stringBody start fuel after).map fun r => (d :: r.1, r.2)
          | none => failAt .badEscape (c :: rest)
    else if c.toNat < 0x20 then failAt .controlCharacter (c :: rest)
    else (stringBody start fuel rest).map fun r => (c :: r.1, r.2)

/-- A string, from the character after its opening quote on. -/
def stringTail (cs : List Char) : Reading String :=
  (stringBody (cs.length + 1) (cs.length + 1) cs).map fun r => (String.ofList r.1, r.2)

/-! ### Values -/

/-- A value that is a word, or a number. -/
def scalar (cs : List Char) : Reading Json :=
  let words : List (String × Json) :=
    [("null", null), ("true", bool true), ("false", bool false), ("NaN", float .nan),
      ("Infinity", float (.infinite false)), ("-Infinity", float (.infinite true))]
  match words.findSome? fun w => (dropWord? w.1.toList cs).map (w.2, ·) with
  | some found => .ok found
  | none => number cs

/-- Values may stand inside this many arrays and objects. The reader that is described recurs into
each of them, and its limit counts the calls around it too: `980` is what is left of a limit of
`1000` where the program reads a reply. -/
def maxDepth : Nat := 980

mutual

/-- The value at the start of a text. The first argument bounds the depth of the recursion, `depth`
is the number of arrays and objects that may still be opened. -/
def value : Nat → (depth : Nat) → List Char → Reading Json
  | 0, _, cs => failAt .expectingValue cs
  | _ + 1, _, [] => failAt .expectingValue []
  | fuel + 1, depth, c :: rest =>
    if c = '"' then (stringTail rest).map fun r => (string r.1, r.2)
    else if c = '[' then
      match depth with
      | 0 => failAt (.tooDeep "array") (c :: rest)
      | depth + 1 =>
        match skipSpaces rest with
        | ']' :: after => .ok (array [], after)
        | rest => (items fuel depth rest).map fun r => (array r.1, r.2)
    else if c = '\x7b' then
      match depth with
      | 0 => failAt (.tooDeep "object") (c :: rest)
      | depth + 1 =>
        match skipSpaces rest with
        | '\x7d' :: after => .ok (object [], after)
        | rest => (members fuel depth rest).map fun r => (ofMembers r.1, r.2)
    else scalar (c :: rest)

/-- The items of an array from a value on, up to the closing bracket. -/
def items : Nat → (depth : Nat) → List Char → Reading (List Json)
  | 0, _, cs => failAt .expectingValue cs
  | fuel + 1, depth, cs =>
    match value fuel depth cs with
    | .error fault => .error fault
    | .ok (v, rest) =>
      match skipSpaces rest with
      | ']' :: after => .ok ([v], after)
      | ',' :: after => (items fuel depth (skipSpaces after)).map fun r => (v :: r.1, r.2)
      | rest => failAt .expectingComma rest

/-- The members of an object from a name on, up to the closing brace. -/
def members : Nat → (depth : Nat) → List Char → Reading (List (String × Json))
  | 0, _, cs => failAt .expectingName cs
  | fuel + 1, depth, cs =>
    match cs with
    | '"' :: rest =>
      match stringTail rest with
      | .error fault => .error fault
      | .ok (name, rest) =>
        match skipSpaces rest with
        | ':' :: rest =>
          match value fuel depth (skipSpaces rest) with
          | .error fault => .error fault
          | .ok (v, rest) =>
            match skipSpaces rest with
            | '\x7d' :: after => .ok ([(name, v)], after)
            | ',' :: after =>
              (members fuel depth (skipSpaces after)).map fun r => ((name, v) :: r.1, r.2)
            | rest => failAt .expectingComma rest
        | rest => failAt .expectingColon rest
    | cs => failAt .expectingName cs

end

def document (cs : List Char) : Except Fault Json :=
  match value (2 * cs.length + 2) maxDepth (skipSpaces cs) with
  | .error fault => .error fault
  | .ok (v, rest) =>
    match skipSpaces rest with
    | [] => .ok v
    | rest => failAt .extraData rest

/-- A fault in a text, with its place as line and column. -/
def Fault.locate (cs : List Char) (fault : Fault) : SyntaxError :=
  let position := cs.length - fault.left
  let before := cs.take position
  { cause := fault.cause
    position := position
    line := before.count '\n' + 1
    column := (before.reverse.takeWhile (· ≠ '\n')).length + 1 }

def parse (cs : List Char) : Except SyntaxError Json :=
  (document cs).mapError (Fault.locate cs)

end BlogConsole.Json

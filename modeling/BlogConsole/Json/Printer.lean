import BlogConsole.Json.Basic
import BlogConsole.Number.Shortest
import BlogConsole.Text.Literal

/-!
JSON values as text, without blanks. Characters outside ASCII stand for themselves; only quotes,
backslashes and controls are escaped. In text that is shown lone surrogates are escaped as well.
-/

namespace BlogConsole.Json

def escapeChar (c : Char) : List Char :=
  if c = '"' then ['\\', '"']
  else if c = '\\' then ['\\', '\\']
  else if c = '\n' then ['\\', 'n']
  else if c = '\r' then ['\\', 'r']
  else if c = '\t' then ['\\', 't']
  else if c = '\x08' then ['\\', 'b']
  else if c = '\x0c' then ['\\', 'f']
  else if c.toNat < 0x20 then '\\' :: 'u' :: Text.hexPadded 4 c.toNat
  else [c]

def printString (cs : List Char) : List Char := '"' :: cs.flatMap escapeChar ++ ['"']

/-- The text of a number that is not whole. -/
def printDouble : Double → List Char
  | .nan => "NaN".toList
  | .infinite negative => if negative then "-Infinity".toList else "Infinity".toList
  | x => x.write

mutual

def print : Json → List Char
  | null => ['n', 'u', 'l', 'l']
  | bool true => ['t', 'r', 'u', 'e']
  | bool false => ['f', 'a', 'l', 's', 'e']
  | int n => (toString n).toList
  | float x => printDouble x
  | string s => printString s.toList
  | array [] => ['[', ']']
  | array (v :: vs) => '[' :: print v ++ printItems vs
  | object [] => ['\x7b', '\x7d']
  | object ((name, v) :: ms) =>
    '\x7b' :: printString name.toList ++ ':' :: print v ++ printMembers ms

/-- The items of an array after the first one, and its end. -/
def printItems : List Json → List Char
  | [] => [']']
  | v :: vs => ',' :: print v ++ printItems vs

/-- The members of an object after the first one, and its end. -/
def printMembers : List (String × Json) → List Char
  | [] => ['\x7d']
  | (name, v) :: ms => ',' :: printString name.toList ++ ':' :: print v ++ printMembers ms

end

/-- A character of a text that is shown. -/
def escapeSurrogate (c : Char) : List Char :=
  if Text.isSurrogate c then '\\' :: 'u' :: Text.hexPadded 4 (Text.codePoint c) else [c]

def text (v : Json) : String := String.ofList ((print v).flatMap escapeSurrogate)

mutual

/-- A value as messages show it: with words for null and for truth values, quoted literals for
strings, and blanks after commas and colons. -/
def literal : Json → List Char
  | null => ['N', 'o', 'n', 'e']
  | bool true => ['T', 'r', 'u', 'e']
  | bool false => ['F', 'a', 'l', 's', 'e']
  | int n => (toString n).toList
  | float x => x.write
  | string s => Text.literal s.toList
  | array [] => ['[', ']']
  | array (v :: vs) => '[' :: literal v ++ literalItems vs
  | object [] => ['\x7b', '\x7d']
  | object ((name, v) :: ms) =>
    '\x7b' :: Text.literal name.toList ++ ':' :: ' ' :: literal v ++ literalMembers ms

/-- The items of an array after the first one, and its end, as messages show them. -/
def literalItems : List Json → List Char
  | [] => [']']
  | v :: vs => ',' :: ' ' :: literal v ++ literalItems vs

/-- The members of an object after the first one, and its end, as messages show them. -/
def literalMembers : List (String × Json) → List Char
  | [] => ['\x7d']
  | (name, v) :: ms =>
    ',' :: ' ' :: Text.literal name.toList ++ ':' :: ' ' :: literal v ++ literalMembers ms

end

/-- A value as plain text: a string as it is, any other value as messages show it. -/
def plainText : Json → String
  | string s => s
  | v => String.ofList (literal v)

end BlogConsole.Json

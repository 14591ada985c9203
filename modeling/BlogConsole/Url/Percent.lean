import BlogConsole.Json.Parser
import BlogConsole.Text.Encoding

/-!
Percent encoding, for the components of a URL and for the fields of a form.

A component keeps the characters that its place admits and the escapes that it already has; every
other character becomes the escapes of its UTF-8 bytes. A form keeps letters, digits and four marks
only, and writes a space as a plus sign, so that it can be read back.
-/

namespace BlogConsole.Url

def hexUpper (n : Nat) : Char := if n < 10 then Char.ofNat (0x30 + n) else Char.ofNat (0x37 + n)

def escapeByte (b : UInt8) : List Char := ['%', hexUpper (b.toNat / 16), hexUpper (b.toNat % 16)]

def escapeChar (c : Char) : List Char := (String.utf8EncodeChar c).flatMap escapeByte

/-- A character that no component ever escapes. -/
def isUnreserved (c : Char) : Bool := c.isAlphanum || c = '-' || c = '.' || c = '_' || c = '~'

def isHexDigit (c : Char) : Bool := (Json.hexDigit? c).isSome

def printsExcept (excluded : List Char) (c : Char) : Bool :=
  0x20 ≤ c.toNat && c.toNat < 0x7F && !excluded.contains c

def fragmentEscaped : List Char := [' ', '"', '<', '>', '\x60']

def queryEscaped : List Char := [' ', '"', '#', '<', '>']

def pathEscaped : List Char := queryEscaped ++ ['?', '\x60', '\x7b', '\x7d']

def userEscaped : List Char := pathEscaped ++ ['/', ';', '=', '@', '[', '\\', ']', '^', '|']

/-- A component in which the admitted characters and the escapes stay as they are. -/
def escapeExcept (admitted : Char → Bool) : List Char → List Char
  | [] => []
  | c :: cs =>
    match c, cs with
    | '%', a :: b :: rest =>
      if isHexDigit a && isHexDigit b then '%' :: a :: b :: escapeExcept admitted rest
      else (if admitted '%' then ['%'] else escapeChar '%') ++
        escapeExcept admitted (a :: b :: rest)
    | c, cs =>
      (if isUnreserved c || admitted c then [c] else escapeChar c) ++ escapeExcept admitted cs

/-- The bytes of a component whose escapes are undone. Other characters stand for their UTF-8
bytes. -/
def unescape : List Char → List UInt8
  | [] => []
  | '%' :: a :: b :: rest =>
    match Json.hexDigit? a, Json.hexDigit? b with
    | some m, some n => UInt8.ofNat (16 * m + n) :: unescape rest
    | _, _ => 0x25 :: unescape (a :: b :: rest)
  | c :: cs => String.utf8EncodeChar c ++ unescape cs

/-! ### Forms -/

def formChar (c : Char) : List Char :=
  if isUnreserved c then [c] else if c = ' ' then ['+'] else escapeChar c

def formText (cs : List Char) : List Char := cs.flatMap formChar

/-- A name and a value of a form, with an equals sign between. -/
def formPair (pair : List Char × List Char) : List Char :=
  formText pair.1 ++ '=' :: formText pair.2

def form (pairs : List (List Char × List Char)) : List Char :=
  (pairs.map formPair).intersperse ['&'] |>.flatten

end BlogConsole.Url

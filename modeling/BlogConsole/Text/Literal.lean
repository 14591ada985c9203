import BlogConsole.Text.Printable

/-!
Surrogates that stand alone, and quoted literals: a text as an error message shows it, with quotes
around it and escapes inside.

Surrogates are the numbers from `0xD800` to `0xDFFF`, two of which stand for one character above
`U+FFFF` in texts of sixteen-bit units. One without its partner is no character, and yet texts from
outside may hold it. It is kept as the private-use character whose code point is greater by
`0x100000`; `codePoint` undoes that. So the characters from `U+10D800` to `U+10DFFF` stand for
surrogates and never for themselves: a text with one of these private-use characters cannot be told
from a text with a surrogate, and what holds of all texts is said of texts without them.

The quotes of a literal are single, unless the text holds a single quote and no double one.
-/

namespace BlogConsole.Text

/-! ### Surrogates -/

/-- The first and the second half of a pair of surrogates. -/
def isHighSurrogate (n : Nat) : Bool := 0xD800 ≤ n && n < 0xDC00
@[inherit_doc isHighSurrogate] def isLowSurrogate (n : Nat) : Bool := 0xDC00 ≤ n && n < 0xE000

def joinSurrogates (high low : Nat) : Char :=
  Char.ofNat (0x10000 + 0x400 * (high - 0xD800) + (low - 0xDC00))

/-- The character that keeps a number: a surrogate has a character in its place. -/
def ofUnit (n : Nat) : Char :=
  if isHighSurrogate n || isLowSurrogate n then Char.ofNat (0x100000 + n) else Char.ofNat n

/-- The number that a character keeps: a surrogate, or the character's own code point. -/
def codePoint (c : Char) : Nat :=
  if 0x10D800 ≤ c.toNat && c.toNat < 0x10E000 then c.toNat - 0x100000 else c.toNat

def isSurrogate (c : Char) : Bool := codePoint c ≠ c.toNat

/-! ### Literals -/

/-- A number in base sixteen with lower-case digits, filled with zeros to a width. -/
def hexPadded (width n : Nat) : List Char :=
  let ds := Nat.toDigits 16 n
  List.replicate (width - ds.length) '0' ++ ds

def codeEscape (c : Char) : List Char :=
  let n := codePoint c
  if n < 0x100 then '\\' :: 'x' :: hexPadded 2 n
  else if n < 0x10000 then '\\' :: 'u' :: hexPadded 4 n
  else '\\' :: 'U' :: hexPadded 8 n

def literalQuote (cs : List Char) : Char :=
  if cs.contains '\'' && !cs.contains '"' then '"' else '\''

def literalChar (quote c : Char) : List Char :=
  if c = quote ∨ c = '\\' then ['\\', c]
  else if c = '\n' then ['\\', 'n']
  else if c = '\r' then ['\\', 'r']
  else if c = '\t' then ['\\', 't']
  else if isPrintable c then [c]
  else codeEscape c

def literal (cs : List Char) : List Char :=
  let quote := literalQuote cs
  quote :: cs.flatMap (literalChar quote) ++ [quote]

def quoted (s : String) : String := String.ofList (literal s.toList)

end BlogConsole.Text

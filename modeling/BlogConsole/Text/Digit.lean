import BlogConsole.Text.Blank

/-!
Decimal digits of all scripts, and the reading of whole numbers from text.

A whole number may stand between white characters; it has one sign at most, and single underscores
may stand between its digits.
-/

namespace BlogConsole.Text

/-- The code points of the zeros of Unicode's decimal digits. The nine other digits follow each. -/
def zeroDigits : List Nat :=
  [0x30, 0x660, 0x6F0, 0x7C0, 0x966, 0x9E6, 0xA66, 0xAE6, 0xB66, 0xBE6, 0xC66, 0xCE6, 0xD66, 0xDE6,
    0xE50, 0xED0, 0xF20, 0x1040, 0x1090, 0x17E0, 0x1810, 0x1946, 0x19D0, 0x1A80, 0x1A90, 0x1B50,
    0x1BB0, 0x1C40, 0x1C50, 0xA620, 0xA8D0, 0xA900, 0xA9D0, 0xA9F0, 0xAA50, 0xABF0, 0xFF10,
    0x104A0, 0x10D30, 0x11066, 0x110F0, 0x11136, 0x111D0, 0x112F0, 0x11450, 0x114D0, 0x11650,
    0x116C0, 0x11730, 0x118E0, 0x11950, 0x11C50, 0x11D50, 0x11DA0, 0x16A60, 0x16AC0, 0x16B50,
    0x1D7CE, 0x1D7D8, 0x1D7E2, 0x1D7EC, 0x1D7F6, 0x1E140, 0x1E2F0, 0x1E950, 0x1FBF0]

def digitValue? (c : Char) : Option Nat :=
  zeroDigits.findSome? fun z =>
    if z ≤ c.toNat ∧ c.toNat ≤ z + 9 then some (c.toNat - z) else none

def asciiDigit? (c : Char) : Option Nat :=
  if '0' ≤ c ∧ c ≤ '9' then some (c.toNat - 0x30) else none

/-- The number that digits spell, the first digit being the highest. -/
def ofDigits (ds : List Nat) : Nat := ds.foldl (fun n d => 10 * n + d) 0

/-- The digits of a text in which single underscores may stand between digits. The flag tells
whether the character before was a digit. -/
def spacedDigits? (value? : Char → Option Nat) : Bool → List Char → Option (List Nat)
  | afterDigit, [] => if afterDigit then some [] else none
  | afterDigit, c :: cs =>
    match value? c with
    | some d => (spacedDigits? value? true cs).map (d :: ·)
    | none => if c = '_' ∧ afterDigit then spacedDigits? value? false cs else none

/-- Splits off one sign; `true` stands for minus. -/
def splitSign : List Char → Bool × List Char
  | '-' :: cs => (true, cs)
  | '+' :: cs => (false, cs)
  | cs => (false, cs)

def maxIntegerDigits : Nat := 4300

def readInteger (cs : List Char) : Option Int :=
  let (negative, body) := splitSign (trimBy isWhite cs)
  match spacedDigits? digitValue? false body with
  | some ds =>
    if ds.length ≤ maxIntegerDigits then
      some (if negative then -(ofDigits ds : Int) else ofDigits ds)
    else none
  | none => none

end BlogConsole.Text

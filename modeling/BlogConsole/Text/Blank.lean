/-!
Blank characters, taking them off the ends of a text, and splitting a text at every character of a
class.

Two classes occur. The white characters are those with the Unicode property `White_Space`; the
blank ones are these and the four information separators `U+001C` to `U+001F`.
-/

namespace BlogConsole.Text

/-- A character lies in one of the given ranges of code points, ends included. -/
def inRanges (ranges : List (Nat × Nat)) (c : Char) : Bool :=
  ranges.any fun r => r.1 ≤ c.toNat && c.toNat ≤ r.2

def whiteRanges : List (Nat × Nat) :=
  [(0x09, 0x0D), (0x20, 0x20), (0x85, 0x85), (0xA0, 0xA0), (0x1680, 0x1680), (0x2000, 0x200A),
    (0x2028, 0x2029), (0x202F, 0x202F), (0x205F, 0x205F), (0x3000, 0x3000)]

def isWhite (c : Char) : Bool := inRanges whiteRanges c

def isBlank (c : Char) : Bool := isWhite c || inRanges [(0x1C, 0x1F)] c

def dropEnd (p : Char → Bool) (cs : List Char) : List Char := (cs.reverse.dropWhile p).reverse

/-- The text without the characters of a class at its two ends. -/
def trimBy (p : Char → Bool) (cs : List Char) : List Char := dropEnd p (cs.dropWhile p)

def trim (cs : List Char) : List Char := trimBy isBlank cs

/-- The parts of a text between the characters of a class, always one more than there are such
characters. -/
def splitWhere (sep : Char → Bool) : List Char → List (List Char)
  | [] => [[]]
  | c :: cs =>
    match splitWhere sep cs with
    | [] => [[c]]
    | part :: parts => if sep c then [] :: part :: parts else (c :: part) :: parts

@[simp] theorem splitWhere_nil (sep : Char → Bool) : splitWhere sep [] = [[]] := rfl

end BlogConsole.Text

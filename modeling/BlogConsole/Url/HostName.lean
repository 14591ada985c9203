import BlogConsole.Text.Blank
import BlogConsole.Text.Direction
import BlogConsole.Text.Joining
import BlogConsole.Text.Literal
import BlogConsole.Text.Lowercase
import BlogConsole.Text.Mark
import BlogConsole.Text.Normal
import BlogConsole.Text.Script
import BlogConsole.Url.LabelCharacter
import BlogConsole.Url.Punycode

/-!
Host names in all scripts.

A name is made of labels with dots between them. A label in another script than ASCII is written as
`xn--` and its Punycode. Labels may not have every character, nor every order of characters; what is
wrong with a label is found in a fixed order.
-/

namespace BlogConsole.Url

/-- A character of a label, with its position from one on and the whole label. -/
structure LabelPlace where
  char : Char
  position : Nat
  label : List Char
  deriving DecidableEq, Repr

/-- Why a text is no label or no name. -/
inductive NameFault
  | emptyName
  | nameTooLong
  | emptyLabel
  | noContent
  | trailingHyphen
  | notPunycode
  | notComposed
  | innerHyphens
  | outerHyphen
  | startsWithMark
  | character (place : LabelPlace)
  | joiner (place : LabelPlace)
  | context (place : LabelPlace)
  | unknownDirection (place : LabelPlace)
  | firstDirection (label : List Char)
  | direction (position : Nat) (rightToLeft : Bool)
  | mixedNumbers
  | lastDirection
  deriving DecidableEq, Repr

/-- A code point as messages show it. -/
def LabelPlace.point (p : LabelPlace) : String :=
  "U+" ++ (String.ofList (Text.hexPadded 4 (Text.codePoint p.char))).toUpper

def LabelPlace.shown (p : LabelPlace) : String := String.ofList (Text.literal p.label)

def NameFault.message : NameFault → String
  | emptyName => "Empty domain"
  | nameTooLong => "Domain too long"
  | emptyLabel => "Empty Label"
  | noContent => "Malformed A-label, no Punycode eligible content found"
  | trailingHyphen => "A-label must not end with a hyphen"
  | notPunycode => "Invalid A-label"
  | notComposed => "Label must be in Normalization Form C"
  | innerHyphens => "Label has disallowed hyphens in 3rd and 4th position"
  | outerHyphen => "Label must not start or end with a hyphen"
  | startsWithMark => "Label begins with an illegal combining character"
  | character p => s!"Codepoint {p.point} at position {p.position} of {p.shown} not allowed"
  | joiner p =>
    s!"Unknown codepoint adjacent to joiner {p.point} at position {p.position} in {p.shown}"
  | context p => s!"Codepoint {p.point} not allowed at position {p.position} in {p.shown}"
  | unknownDirection p => s!"Unknown directionality in label {p.shown} at position {p.position}"
  | firstDirection label =>
    s!"First codepoint in label {String.ofList (Text.literal label)} must be directionality " ++
      "L, R or AL"
  | direction position true =>
    s!"Invalid direction for codepoint at position {position} in a right-to-left label"
  | direction position false =>
    s!"Invalid direction for codepoint at position {position} in a left-to-right label"
  | mixedNumbers => "Can not mix numeral types in a right-to-left label"
  | lastDirection => "Label ends with illegal codepoint directionality"

/-! ### Characters in context -/

/-- A letter before joins with what follows it, perhaps through other characters. -/
def joinsBefore (before : List Char) : Bool :=
  (before.dropWhile Text.isTransparent).head?.any Text.joinsNext

/-- A letter behind joins with what precedes it, perhaps through other characters. -/
def joinsBehind (behind : List Char) : Bool :=
  (behind.dropWhile Text.isTransparent).head?.any Text.joinsPrevious

/-- A joiner or a non-joiner is in place: the one has to follow a mark that takes the vowel from a
letter, the other may also stand between letters that join. What it follows has to be a known
character. `before` has the last character first. -/
def joinerFits (c : Char) (before behind : List Char) : Bool :=
  let afterVirama := before.head?.any fun c => Text.combiningClass c = Text.viramaClass
  let isKnown := before.head?.all fun c => Text.direction c ≠ .unknown
  isKnown && (afterVirama || (c = '\u200c' && joinsBefore before && joinsBehind behind))

/-- Digits of Arabic, and the other digits in use with Arabic script. -/
def arabicDigits : List (Nat × Nat) := [(0x660, 0x669)]
@[inherit_doc arabicDigits] def easternDigits : List (Nat × Nat) := [(0x6F0, 0x6F9)]

/-- A character that is in place only next to others, or in a label with or without others: whether
it is such a character, and if so, whether it is in place. `before` has the last character first.
-/
def inContext? (label : List Char) (c : Char) (before behind : List Char) : Option Bool :=
  if c = '\u00b7' then some (before.head? = some 'l' && behind.head? = some 'l')
  else if c = '\u0375' then some (behind.head?.any (Text.inRanges Text.greekRanges))
  else if c = '\u05f3' ∨ c = '\u05f4' then
    some (before.head?.any (Text.inRanges Text.hebrewRanges))
  else if c = '\u30fb' then
    some (label.any fun d => d ≠ '\u30fb' && Text.inRanges Text.japaneseRanges d)
  else if Text.inRanges arabicDigits c then some (!label.any (Text.inRanges easternDigits))
  else if Text.inRanges easternDigits c then some (!label.any (Text.inRanges arabicDigits))
  else none

/-- The first character of a label that is not in place. `before` has the last character first. -/
def characterFault? (label : List Char) : (before : List Char) → List Char → Option NameFault
  | _, [] => none
  | before, c :: behind =>
    let place : LabelPlace := ⟨c, before.length + 1, label⟩
    let fault :=
      if isLabelChar c then none
      else if c = '\u200c' ∨ c = '\u200d' then
        if joinerFits c before behind then none else some (.joiner place)
      else
        match inContext? label c before behind with
        | some true => none
        | some false => some (.context place)
        | none => some (.character place)
    fault.or (characterFault? label (c :: before) behind)

/-! ### Direction -/

/-- The directions of labels from right to left, and of those from left to right. -/
def rightDirections : List Text.Direction :=
  [.rightToLeft, .arabicLetter, .arabicNumber, .number, .separator, .neutral, .boundary, .mark]
@[inherit_doc rightDirections] def leftDirections : List Text.Direction :=
  [.leftToRight, .number, .separator, .neutral, .boundary, .mark]

/-- The directions in which a label from right to left may end, marks apart, and those in which one
from left to right may. -/
def rightEnds : List Text.Direction := [.rightToLeft, .arabicLetter, .number, .arabicNumber]
@[inherit_doc rightEnds] def leftEnds : List Text.Direction := [.leftToRight, .number]

/-- Checks the directions of a label from right to left. `number` is the direction of the numbers so
far, if there were any, and `ended` tells whether the label may end. -/
def rightToLeftFault? : (position : Nat) → (number : Option Text.Direction) → (ended : Bool) →
    List Text.Direction → Option NameFault
  | _, _, ended, [] => if ended then none else some .lastDirection
  | position, number, ended, d :: ds =>
    let isNumber := d = .number || d = .arabicNumber
    if !rightDirections.contains d then some (.direction position true)
    else if isNumber && number.any (· ≠ d) then some .mixedNumbers
    else
      rightToLeftFault? (position + 1) (if isNumber then some d else number)
        (rightEnds.contains d || (ended && d = .mark)) ds

def leftToRightFault? : (position : Nat) → (ended : Bool) → List Text.Direction →
    Option NameFault
  | _, ended, [] => if ended then none else some .lastDirection
  | position, ended, d :: ds =>
    if !leftDirections.contains d then some (.direction position false)
    else leftToRightFault? (position + 1) (leftEnds.contains d || (ended && d = .mark)) ds

/-- Checks the directions of a label. They matter only if a character is written from right to left,
but they have to be known. -/
def directionFault? (label : List Char) : Option NameFault :=
  let ds := label.map Text.direction
  match (label.zipIdx 1).find? fun p => Text.direction p.1 = .unknown with
  | some (c, position) => some (.unknownDirection ⟨c, position, label⟩)
  | none =>
    if ds.any fun d => d = .rightToLeft || d = .arabicLetter || d = .arabicNumber then
      match ds.head? with
      | some .rightToLeft => rightToLeftFault? 1 none false ds
      | some .arabicLetter => rightToLeftFault? 1 none false ds
      | some .leftToRight => leftToRightFault? 1 false ds
      | _ => some (.firstDirection label)
    else none

/-! ### Labels -/

/-- What is wrong with a label in its own script. -/
def labelFault? (label : List Char) : Option NameFault :=
  if label.isEmpty then some .emptyLabel
  else if !Text.isComposed label then some .notComposed
  else if (label.drop 2).take 2 = ['-', '-'] then some .innerHyphens
  else if label.head? = some '-' ∨ label.getLast? = some '-' then some .outerHyphen
  else if label.head?.any Text.isMark then some .startsWithMark
  else (characterFault? label [] label).or (directionFault? label)

def punycodeMark : List Char := "xn--".toList

/-- What is wrong with a label in ASCII, perhaps in Punycode. -/
def asciiLabelFault? (label : List Char) : Option NameFault :=
  if punycodeMark.isPrefixOf label then
    let content := label.drop punycodeMark.length
    if content.isEmpty then some .noContent
    else if content.getLast? = some '-' then some .trailingHyphen
    else
      match Punycode.read? content with
      | none => some .notPunycode
      | some points => labelFault? (points.map Text.ofUnit)
  else labelFault? label

def asciiLabel? (label : List Char) : Option (List Char) :=
  let isAscii := label.all fun c => c.toNat < 0x80
  let written := if isAscii then label else punycodeMark ++ Punycode.write label
  match if isAscii then asciiLabelFault? label else labelFault? label with
  | some _ => none
  | none => if written.length ≤ 63 then some written else none

/-! ### Names -/

/-- The dots between labels. -/
def isLabelDot (c : Char) : Bool := c = '.' || c = '\u3002' || c = '\uff0e' || c = '\uff61'

/-- The labels of a name. A dot may stand at the end; the flag tells whether one does. -/
def labelsOf (cs : List Char) : List (List Char) × Bool :=
  let labels := Text.splitWhere isLabelDot cs
  if labels.getLast? = some [] then (labels.dropLast, true) else (labels, false)

/-- The greatest length of a name with a dot at its end; without the dot it is one less. -/
def maxNameLength : Nat := 254

/-- A name in lower case, written in ASCII. -/
def asciiName? (name : List Char) : Option (List Char) := do
  let cs := Text.lowercase name
  let (labels, dotted) := labelsOf cs
  let written ← labels.mapM asciiLabel?
  let whole := ((written ++ if dotted then [[]] else []).intersperse ['.']).flatten
  if cs.length ≤ maxNameLength ∧ whole.length + (if dotted then 0 else 1) ≤ maxNameLength then
    some whole
  else none

/-- What is wrong with a name that starts with a label in Punycode. All labels of such a name are
read; other names are not looked at. -/
def nameFault? (name : List Char) : Option NameFault :=
  if !punycodeMark.isPrefixOf name then none
  else if maxNameLength < name.length then some .nameTooLong
  else (labelsOf name).1.findSome? asciiLabelFault?

end BlogConsole.Url

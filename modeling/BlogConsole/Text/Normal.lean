import BlogConsole.Text.CombiningClass
import BlogConsole.Text.Composition

/-!
Composed text: every character and the marks behind it are written with as few characters as there
are composites for them, and the marks stand in the order of their classes.

A text is composed when taking it apart, ordering the marks and putting it together again gives the
same text.
-/

namespace BlogConsole.Text

/-! ### Hangul -/

/-- The first and the last of the syllables of Hangul. -/
def firstSyllable : Nat := 0xAC00
@[inherit_doc firstSyllable] def lastSyllable : Nat := 0xD7A3

/-- A syllable is made of one of 19 leading consonants, one of 21 vowels and, perhaps, one of 27
trailing consonants. -/
def firstLeading : Nat := 0x1100
@[inherit_doc firstLeading] def firstVowel : Nat := 0x1161
@[inherit_doc firstLeading] def beforeTrailing : Nat := 0x11A7

/-- The two parts of a syllable: the syllable without its trailing consonant and that consonant, or
else the leading consonant and the vowel. -/
def syllableParts (n : Nat) : Nat × Nat :=
  let k := n - firstSyllable
  if k % 28 = 0 then (firstLeading + k / 588, firstVowel + k % 588 / 28)
  else (n - k % 28, beforeTrailing + k % 28)

def syllable? (a b : Nat) : Option Nat :=
  if firstLeading ≤ a ∧ a < firstLeading + 19 ∧ firstVowel ≤ b ∧ b < firstVowel + 21 then
    some (firstSyllable + (a - firstLeading) * 588 + (b - firstVowel) * 28)
  else if firstSyllable ≤ a ∧ a ≤ lastSyllable ∧ (a - firstSyllable) % 28 = 0 ∧
      beforeTrailing < b ∧ b < beforeTrailing + 28 then
    some (a + (b - beforeTrailing))
  else none

/-! ### Composites -/

def composite? (a b : Char) : Option Char :=
  let listed := (compositeTable.lookup b.toNat).bind fun pairs => pairs.lookup a.toNat
  (listed.or (syllable? a.toNat b.toNat)).map Char.ofNat

def parts? (c : Char) : Option (Char × Char) :=
  let n := c.toNat
  let found :=
    if firstSyllable ≤ n ∧ n ≤ lastSyllable then some (syllableParts n)
    else
      compositeTable.findSome? fun row =>
        (row.2.find? fun p => p.2 = n).map fun p => (p.1, row.1)
  found.map fun p => (Char.ofNat p.1, Char.ofNat p.2)

/-- A character taken apart. The first argument bounds the number of its parts. -/
def takeApart : Nat → Char → List Char
  | 0, c => [c]
  | fuel + 1, c =>
    match parts? c with
    | some (a, b) => takeApart fuel a ++ [b]
    | none => [c]

/-- Puts a mark behind all marks of a lower class that follow it. -/
def insertMark (c : Char) : List Char → List Char
  | [] => [c]
  | d :: ds =>
    if combiningClass d ≠ 0 ∧ combiningClass d < combiningClass c then d :: insertMark c ds
    else c :: d :: ds

def orderMarks (cs : List Char) : List Char := cs.foldr insertMark []

/-- Puts a text together. `start` is the last character that started anew, and `marks` are the marks
since then that found no place in it, the last one first. A mark of the same class or a higher one
keeps a mark behind it from the start. -/
def composeFrom : (start : Char) → (marks : List Char) → List Char → List Char
  | start, marks, [] => start :: marks.reverse
  | start, marks, c :: cs =>
    let free :=
      match marks with
      | [] => true
      | d :: _ => combiningClass d < combiningClass c
    match if free then composite? start c else none with
    | some joined => composeFrom joined marks cs
    | none =>
      if combiningClass c = 0 then start :: marks.reverse ++ composeFrom c [] cs
      else composeFrom start (c :: marks) cs

def compose : List Char → List Char
  | [] => []
  | c :: cs => composeFrom c [] cs

def isComposed (cs : List Char) : Bool :=
  !cs.any isReplaced && compose (orderMarks (cs.flatMap (takeApart 4))) = cs

end BlogConsole.Text

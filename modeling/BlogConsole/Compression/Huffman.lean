import BlogConsole.Compression.Bits

/-!
Canonical prefix codes, given by the length of each symbol's code word.

Among the words of one length the symbols stand in order, and the words of a length come after those
of the shorter lengths. A code is held as the lists of the symbols of each length, from one on.
-/

namespace BlogConsole.Compression

/-- A prefix code: the symbols whose words have the length one, two, and so on. -/
structure PrefixCode where
  levels : List (List Nat)
  deriving DecidableEq, Repr

namespace PrefixCode

/-- The code in which the `n`-th symbol has a word of the `n`-th length; length zero is for a symbol
without a word. -/
def ofLengths (lengths : List Nat) : PrefixCode :=
  let longest := max 1 (lengths.foldl max 0)
  ⟨(List.range longest).map fun k =>
    (lengths.zipIdx.filter fun p => p.1 = k + 1).map (·.2)⟩

/-- The number of words of the greatest length that are left without a symbol. It is negative when
there are more words than fit. -/
def room (c : PrefixCode) : Int :=
  c.levels.foldl (fun left symbols => 2 * left - symbols.length) 1

def isEmpty (c : PrefixCode) : Bool := c.levels.all List.isEmpty

/-- Every sequence of bits starts with a word, or there is no word at all. -/
def isComplete (c : PrefixCode) : Bool := c.isEmpty || c.room = 0

/-- The code is complete, or has only one word, which is one bit long. -/
def isUsable (c : PrefixCode) : Bool := c.isComplete || (c.levels.length = 1 && 0 ≤ c.room)

/-- The symbol of the word that bits start with, if they start with one. `word` is the word read so
far and `first` the first one that is left at its length. -/
def symbolFrom : List (List Nat) → (word first : Nat) → Reader (Option Nat)
  | [], _, _, bits => .ok (none, bits)
  | _ :: _, _, _, [] => .error .truncated
  | symbols :: levels, word, first, b :: bits =>
    let word := 2 * word + b.toNat
    let first := 2 * first
    match symbols[word - first]? with
    | some n => .ok (some n, bits)
    | none => symbolFrom levels word (first + symbols.length) bits

/-- The symbol of the word that bits start with, if they start with one. -/
def symbol (c : PrefixCode) : Reader (Option Nat) := symbolFrom c.levels 0 0

end PrefixCode

end BlogConsole.Compression

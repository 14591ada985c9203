/-!
Filling lines with words.

A text is cut into words and the single blanks between them. A line takes what fits into its width;
blanks at its two ends are dropped. A word that is too long for any line is split where the line
ends.
-/

namespace BlogConsole.Text

/-- The words of a text and the blanks between them, in order. -/
def chunks : List Char → List (List Char)
  | [] => []
  | c :: cs =>
    if c = ' ' then [' '] :: chunks cs
    else
      match chunks cs with
      | [] => [[c]]
      | part :: parts => if part = [' '] then [c] :: part :: parts else (c :: part) :: parts

/-- The chunks that fit into a width, and those after them. -/
def fitting (width : Nat) : List (List Char) → List (List Char) × List (List Char)
  | [] => ([], [])
  | part :: parts =>
    if part.length ≤ width then
      let (taken, left) := fitting (width - part.length) parts
      (part :: taken, left)
    else ([], part :: parts)

/-- The first line of chunks, and the chunks after it. The start of a word that no line has room for
fills up the line. -/
def firstLine (width : Nat) (parts : List (List Char)) : List (List Char) × List (List Char) :=
  match fitting width parts with
  | (taken, []) => (taken, [])
  | (taken, next :: left) =>
    if width < next.length then
      let room := width - taken.flatten.length
      (taken ++ [next.take room], next.drop room :: left)
    else (taken, next :: left)

/-- The chunks of a line without a blank at its end, or without the empty start of a word. -/
def dropLastBlank (parts : List (List Char)) : List (List Char) :=
  match parts.getLast? with
  | some last => if last.all (· = ' ') then parts.dropLast else parts
  | none => parts

/-- Lines of chunks. The first argument bounds the number of lines. -/
def linesFrom (width : Nat) : Nat → List (List Char) → List (List Char)
  | 0, _ => []
  | _ + 1, [] => []
  | fuel + 1, parts =>
    let (line, left) := firstLine width parts
    let left := if left.head? = some [' '] then left.drop 1 else left
    (dropLastBlank line).flatten :: linesFrom width fuel left

def wrap (width : Nat) (cs : List Char) : List (List Char) :=
  linesFrom width (cs.length + 1) (chunks cs)

end BlogConsole.Text

import BlogConsole.Text.Blank

/-!
Taking the tags out of marked-up text.

A tag is a `<`, one or more characters other than `>`, and a `>`. The scan deletes the leftmost tag
and goes on after it. It holds back what it has read since a `<` until it knows whether a tag ends
there: at a `>` the held text goes away, unless it is empty; at the end of the text it stays.
-/

namespace BlogConsole.Markup

/-- The text without its tags. The first argument is the text held back since a `<`, last character
first, or nothing outside of a possible tag. -/
def scan : Option (List Char) → List Char → List Char
  | none, [] => []
  | none, c :: cs => if c = '<' then scan (some []) cs else c :: scan none cs
  | some held, [] => '<' :: held.reverse
  | some held, c :: cs =>
    if c = '>' then
      if held.isEmpty then '<' :: '>' :: scan none cs else scan none cs
    else scan (some (c :: held)) cs

def dropTags (cs : List Char) : List Char := scan none cs

/-- The plain text of marked-up text: no tags, and no blanks at its ends. -/
def strip (s : String) : String := String.ofList (Text.trim (dropTags s.toList))

@[simp] theorem scan_nil : scan none [] = [] := rfl

@[simp] theorem scan_held_nil (held : List Char) : scan (some held) [] = '<' :: held.reverse := rfl

theorem scan_open (cs : List Char) : scan none ('<' :: cs) = scan (some []) cs := by
  simp [scan]

theorem scan_plain {c : Char} (h : c ≠ '<') (cs : List Char) :
    scan none (c :: cs) = c :: scan none cs := by
  simp [scan, h]

end BlogConsole.Markup

import BlogConsole.Post.Basic
import BlogConsole.Text.Literal

/-!
Posts as messages show them: every field with its name, an equals sign and the literal of its value.
-/

namespace BlogConsole

/-- The literal of a value that may be missing. -/
def optionLiteral {α : Type} (literal : α → List Char) : Option α → List Char
  | some a => literal a
  | none => "None".toList

def textLiteral : Option String → List Char := optionLiteral fun s => Text.literal s.toList

def fieldLiterals (separator : String) (fields : List (String × List Char)) : List Char :=
  separator.toList.intercalate (fields.map fun f => f.1.toList ++ '=' :: f.2)

/-- The literal of a time zone with an offset. Whole minutes, which are read, are given in seconds;
any other offset is a span of days, which alone may be negative, seconds and microseconds. -/
def UtcOffset.literal (o : UtcOffset) : String :=
  if o.IsWhole then s!"TzInfo({o.seconds})"
  else
    let parts := [("days", o.micros / 86400000000),
      ("seconds", o.micros % 86400000000 / 1000000), ("microseconds", o.micros % 1000000)]
    let shown := (parts.filter (·.2 ≠ 0)).map fun p => p.1 ++ "=" ++ toString p.2
    "datetime.timezone(datetime.timedelta(" ++ ", ".intercalate shown ++ "))"

/-- The literal of a timestamp. Seconds are left out if they and their fraction are zero, and so is
a fraction of zero. -/
def Timestamp.literal (t : Timestamp) : List Char :=
  let tail := if t.time.micros = 0 then [] else [t.time.micros]
  let tail := if t.time.second = 0 ∧ tail = [] then [] else t.time.second :: tail
  let numbers := [t.date.year, t.date.month, t.date.day, t.time.hour, t.time.minute] ++ tail
  let zone :=
    match t.offset with
    | some o => ["tzinfo=" ++ o.literal]
    | none => []
  ("datetime.datetime(" ++ ", ".intercalate (numbers.map toString ++ zone) ++ ")").toList

def Author.literal (a : Author) : List Char :=
  "Author(".toList ++
    fieldLiterals ", "
      [("id", textLiteral a.id), ("display_name", textLiteral a.displayName),
        ("url", textLiteral a.url)] ++
    [')']

def labelsLiteral (labels : List String) : List Char :=
  '[' :: ", ".toList.intercalate (labels.map fun l => Text.literal l.toList) ++ [']']

def Post.plainText (p : Post) : String :=
  String.ofList <|
    fieldLiterals " "
      [("id", textLiteral p.id), ("title", textLiteral p.title),
        ("content", textLiteral p.content), ("url", textLiteral p.url),
        ("published", optionLiteral Timestamp.literal p.published),
        ("updated", optionLiteral Timestamp.literal p.updated),
        ("labels", optionLiteral labelsLiteral p.labels),
        ("author", optionLiteral Author.literal p.author)]

end BlogConsole

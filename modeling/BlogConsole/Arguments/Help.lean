import BlogConsole.Arguments.Basic
import BlogConsole.Text.Wrap

/-!
How the program is used, as text for a terminal of some width.

The usage line is broken between its parts: under the name of the program if that leaves enough
room, otherwise with the name on a line of its own. The help text lists the arguments in a left
column, and what they are for in a right one.
-/

namespace BlogConsole.Arguments

def program : String := "blogger-samples"

/-- An argument in the help text: how it stands in the usage line, how it is called, and what it is
for. -/
structure Entry where
  usage : String
  call : String
  purpose : String
  deriving DecidableEq, Repr

def modeEntry : Entry :=
  ⟨"[\x7blist,show,create\x7d]", "\x7blist,show,create\x7d", "Sample to run (default: list)"⟩

def optionEntries : List Entry :=
  [⟨"[-h]", "-h, --help", "show this help message and exit"⟩,
    ⟨"[--blog-id BLOG_ID]", "--blog-id BLOG_ID",
      "Blog ID (overrides BLOGGER_BLOG_ID env var)"⟩,
    ⟨"[--post-id POST_ID]", "--post-id POST_ID", "Post to show (only used with 'show' mode)"⟩,
    ⟨"[--title TITLE]", "--title TITLE", "Title of the new post (only used with 'create' mode)"⟩,
    ⟨"[--content CONTENT]", "--content CONTENT",
      "HTML content of the new post (only used with 'create' mode)"⟩,
    ⟨"[--mock]", "--mock", "Use mock Blogger client (no credentials needed)"⟩]

/-! ### The width -/

/-- The width of a terminal that does not tell its own. -/
def defaultColumns : Int := 80

/-- The width of the text on a terminal with a number of columns, given as a text: two columns stay
free. -/
def textWidth (columns : Option String) : Int :=
  let told := (columns.bind fun s => Text.readInteger s.toList).getD 0
  (if 0 < told then told else defaultColumns) - 2

/-! ### Usage -/

/-- Parts on lines that are indented, with blanks between the parts. A part goes to a new line if it
passes the width, unless the line is empty. `used` counts the columns used in the first line. -/
def fillLines (width : Int) (indent : Nat) : (used : Nat) → (line : List String) → List String →
    List (List String)
  | _, line, [] => if line.isEmpty then [] else [line]
  | used, line, part :: parts =>
    if width < used + part.length + (if line.isEmpty then 0 else 1) && !line.isEmpty then
      line :: fillLines width indent (indent + part.length) [part] parts
    else
      fillLines width indent (used + part.length + (if line.isEmpty then 0 else 1))
        (line ++ [part]) parts

def lineText (parts : List String) : String := " ".intercalate parts

def indented (width : Int) (indent : Nat) (parts : List String) : List String :=
  (fillLines width indent indent [] parts).map fun line => "".pushn ' ' indent ++ lineText line

def usageMark : String := "usage: "

def usageLines (width : Int) : List String :=
  let options := optionEntries.map (·.usage)
  let place := [modeEntry.usage]
  let whole := usageMark ++ lineText (program :: options ++ place)
  let start := usageMark.length + program.length
  if whole.length ≤ width then [whole]
  else if 4 * start ≤ 3 * width then
    let indent := start + 1
    match fillLines width indent usageMark.length [] (program :: options) with
    | [] => []
    | first :: rest =>
      (usageMark ++ lineText first) ::
        rest.map (fun line => "".pushn ' ' indent ++ lineText line) ++ indented width indent place
  else
    let indent := usageMark.length
    let lines :=
      match indented width indent (options ++ place) with
      | [line] => [line]
      | _ => indented width indent options ++ indented width indent place
    (usageMark ++ program) :: lines

def usage (width : Int) : String := String.join ((usageLines width).map (· ++ "\n"))

/-! ### Help -/

def purposeColumn (width : Int) : Nat :=
  let longest := ((modeEntry :: optionEntries).map (·.call.length)).foldl max 0
  min (longest + 4) (min 24 (max (width - 20) 4)).toNat

/-- An argument in the help text. If it is too long for the left column, what it is for starts on
the next line. -/
def entryText (width : Int) (e : Entry) : String :=
  let column := purposeColumn width
  let room := (max (width - column) 11).toNat
  let blank := "".pushn ' ' column
  let head := "  " ++ e.call
  let start :=
    if head.length + 2 ≤ column then head.pushn ' ' (column - head.length)
    else head ++ "\n" ++ blank
  let lines := (Text.wrap room e.purpose.toList).map String.ofList
  start ++ ("\n" ++ blank).intercalate lines ++ "\n"

def description : String := "Blogger samples - create, show and list posts with the Blogger API"

def examplesText : String :=
  "Examples:\n" ++
  "  blogger-samples list                          # List up to five pages of posts\n" ++
  "  blogger-samples show --post-id 123            # Show one post\n" ++
  "  blogger-samples create --title \"Hi\" --content \"<p>Hello</p>\"\n" ++
  "  blogger-samples list --mock                   # Use mock data (no credentials needed)\n" ++
  "        \n"

def help (width : Int) : String :=
  usage width ++ "\n" ++ description ++ "\n" ++
  "\npositional arguments:\n" ++ entryText width modeEntry ++
  "\noptions:\n" ++ String.join (optionEntries.map (entryText width)) ++
  "\n" ++ examplesText

def faultText (width : Int) (f : Fault) : String :=
  usage width ++ program ++ ": error: " ++ f.message ++ "\n"

end BlogConsole.Arguments

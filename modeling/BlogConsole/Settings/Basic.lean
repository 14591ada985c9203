import BlogConsole.Client
import BlogConsole.Settings.EnvFile
import BlogConsole.Text.Blank

/-!
The settings of the program. Each is taken from the environment, else from an environment file, else
it has a default. Case does not matter in names. All settings with a bad value are faulted, in
order.
-/

namespace BlogConsole

/-- The level from which on notices are logged. -/
inductive LogLevel
  | debug
  | info
  | warning
  | error
  deriving DecidableEq, Repr

def LogLevel.name : LogLevel → String
  | debug => "DEBUG"
  | info => "INFO"
  | warning => "WARNING"
  | error => "ERROR"

/-- The least weight of the notices that are logged. -/
def LogLevel.weight : LogLevel → Nat
  | debug => 10
  | info => 20
  | warning => 30
  | error => 40

structure Settings where
  accessToken : String
  apiKey : String
  blogId : String
  baseUrl : String
  timeout : Double
  useMock : Bool
  logLevel : LogLevel
  deriving DecidableEq, Repr

abbrev Environment : Type := List (String × String)

namespace Settings

/-! ### Values -/

/-- A switch: one of six words for each side, in any case. -/
def readBool (s : String) : Checked Bool :=
  let word := s.toLower
  if ["0", "off", "f", "false", "n", "no"].contains word then .valid false
  else if ["1", "on", "t", "true", "y", "yes"].contains word then .valid true
  else .fail .notBool

def spanDigits (cs : List Char) : List Nat × List Char :=
  ((cs.takeWhile Char.isDigit).filterMap Text.asciiDigit?, cs.dropWhile Char.isDigit)

/-- The exponent that a text is, if it is one; the empty text is the exponent zero. -/
def readExponent (cs : List Char) : Option Int :=
  match cs with
  | [] => some 0
  | c :: rest =>
    if c = 'e' ∨ c = 'E' then
      let (negative, body) := Text.splitSign rest
      match spanDigits body with
      | ([], _) => none
      | (ds, []) => some (if negative then -(Text.ofDigits ds : Int) else Text.ofDigits ds)
      | _ => none
    else none

/-- A decimal number without its sign. -/
def readDecimal (negative : Bool) (cs : List Char) : Option Double :=
  let (whole, rest) := spanDigits cs
  let (places, rest) :=
    match rest with
    | '.' :: rest => spanDigits rest
    | rest => ([], rest)
  if whole.isEmpty && places.isEmpty then none
  else
    (readExponent rest).map fun e =>
      Double.ofDecimal negative (Text.ofDigits (whole ++ places)) (e - places.length)

/-- A decimal number, or a word for infinity or for no number. -/
def plainDouble? (cs : List Char) : Option Double :=
  let (negative, body) := Text.splitSign cs
  let word := (String.ofList body).toLower
  if word = "inf" ∨ word = "infinity" then some (.infinite negative)
  else if word = "nan" then some .nan
  else readDecimal negative body

/-- The text without its underscores, if each of them stands alone between other characters. -/
def withoutUnderscores? (cs : List Char) : Option (List Char) :=
  let parts := Text.splitWhere (· = '_') cs
  if parts.any List.isEmpty then none else some parts.flatten

/-- A number, with white characters around it or with single underscores anywhere inside it. -/
def readDouble (s : String) : Checked Double :=
  let cs := s.toList
  match (plainDouble? (Text.trimBy Text.isWhite cs)).or
      ((withoutUnderscores? cs).bind plainDouble?) with
  | some x => .valid x
  | none => .fail .notNumber

/-- A level, exactly as it is called. -/
def readLogLevel (s : String) : Checked LogLevel :=
  match [LogLevel.debug, .info, .warning, .error].find? (·.name = s) with
  | some l => .valid l
  | none => .fail .notLogLevel

/-! ### Names -/

/-- The names of the settings, by what they set. -/
inductive Key
  | accessToken
  | apiKey
  | blogId
  | baseUrl
  | timeout
  | useMock
  | logLevel
  deriving DecidableEq, Repr

def Key.name : Key → String
  | accessToken => "blogger_access_token"
  | apiKey => "blogger_api_key"
  | blogId => "blogger_blog_id"
  | baseUrl => "blogger_base_url"
  | timeout => "request_timeout_seconds"
  | useMock => "use_mock_blogger"
  | logLevel => "log_level"

/-- The names of all settings, in order. -/
def Key.all : List Key := [accessToken, apiKey, blogId, baseUrl, timeout, useMock, logLevel]

/-- A character in lower case, for the letters that names of settings have. The Kelvin sign is a
capital `k`. -/
def lowerChar (c : Char) : Char := if c = '\u212a' then 'k' else c.toLower

/-- A name in lower case. -/
def fold (name : List Char) : List Char := name.map lowerChar

/-- The text of a setting: that of the last variable of the environment whose name is the setting's
in some case, else that of such a variable of the file. -/
def find? (environment : Environment) (file : EnvFile.Variables) (key : Key) : Option String :=
  let named (n : List Char) : Bool := fold n = key.name.toList
  let outer := environment.reverse.find? fun p => named p.1.toList
  let inner := file.reverse.find? fun p => named p.1
  (outer.map (·.2)).or (inner.bind fun p => p.2.map String.ofList)

def fileVariables (environment : Environment) (file : Option String) : EnvFile.Variables :=
  match file with
  | none => []
  | some text =>
    EnvFile.resolve (environment.map fun p => (p.1.toList, p.2.toList))
      (EnvFile.bindings text.toList)

def readText (s : String) : Checked String := .valid s

def load (environment : Environment) (file : Option String) : Checked Settings :=
  let vars := fileVariables environment file
  let setting {α : Type} (read : String → Checked α) (key : Key) (default : α) : Checked α :=
    match find? environment vars key with
    | some s => (read s).under (.field key.name)
    | none => .valid default
  ((setting readText .accessToken "").map Settings.mk)
    |>.apply (setting readText .apiKey "")
    |>.apply (setting readText .blogId "")
    |>.apply (setting readText .baseUrl Client.defaultBaseUrl)
    |>.apply (setting readDouble .timeout Client.defaultTimeout)
    |>.apply (setting readBool .useMock false)
    |>.apply (setting readLogLevel .logLevel .info)

end Settings

end BlogConsole

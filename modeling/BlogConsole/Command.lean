import BlogConsole.Arguments.Help
import BlogConsole.Sample
import BlogConsole.Settings.Basic

/-!
The command line: read the arguments, read the settings, choose the blog and the service, and run
the sample.

Nothing is printed and no request is made before arguments and settings are read and the blog is
known. Every failure of the sample ends with exit code 1 and a notice.
-/

namespace BlogConsole.Command

/-- How the program ended: with a code of its own, or while reading its arguments. -/
inductive Ending
  | code (n : Nat)
  | exit (n : Nat)
  deriving DecidableEq, Repr

/-- A run of the program: how it ended, what it wrote to standard error, the level of its log at the
end, and what happened. -/
structure Report where
  ending : Ending
  complaint : String
  level : LogLevel
  events : List Event

def initialLevel : LogLevel := .info

def orElse (s other : String) : String := if s = "" then other else s

/-- The blog that stands in for none in mock mode. -/
def mockBlog : String := "mock_blog"

/-- The blog to work on: that of the options, else that of the settings, else none outside of mock
mode. -/
def blogOf (options : Options) (settings : Settings) (mock : Bool) : String :=
  orElse (options.blogId.getD "") <|
    orElse settings.blogId (if mock then mockBlog else "")

def runMock (options : Options) (blog : String) (clock : Timestamp) : Sample.Report :=
  match Store.seeded Store.defaultPageSize none clock with
  | .error f => ⟨.error f, []⟩
  | .ok store =>
    let report := Sample.run (.store store) options (some blog)
    ⟨report.code, .notice .storeOpened :: report.events ++ [.notice .storeClosed]⟩

def runReal (options : Options) (settings : Settings) (blog : String) (transport : Transport) :
    Sample.Report :=
  let client := Client.new settings.accessToken settings.apiKey settings.baseUrl settings.timeout
  match client.opened with
  | .error f => ⟨.error f, []⟩
  | .ok client => Sample.run (.client client transport) options (some blog)

/-- The program with its options and settings: the exit code and what happened. -/
def perform (options : Options) (settings : Settings) (clock : Timestamp)
    (transport : Transport) : Nat × List Event :=
  let mock := options.mock || settings.useMock
  let blog := blogOf options settings mock
  if blog = "" then (1, [.notice .blogMissing])
  else
    let report :=
      if mock then runMock options blog clock else runReal options settings blog transport
    match report.code with
    | .ok n => (n, report.events)
    | .error f => (1, report.events ++ [.notice (.unexpected f)])

/-- A notice is logged at a level. Everything else that happens is no matter of levels. -/
def isLogged (level : LogLevel) : Event → Bool
  | .notice n => level.weight ≤ n.level.weight
  | _ => true

/-- Runs the program. There may be an environment file. -/
def run (args : List String) (environment : Environment) (file : Option String)
    (clock : Timestamp) (transport : Transport) : Report :=
  let report (ending : Ending) (level : LogLevel) (events : List Event) : Report :=
    ⟨ending, "", level, events.filter (isLogged level)⟩
  let width := Arguments.textWidth (environment.lookup "COLUMNS")
  match Arguments.parse args with
  | .error .help => report (.exit 0) initialLevel [.output (Arguments.help width)]
  | .error (.fault f) =>
    { report (.exit 2) initialLevel [] with complaint := Arguments.faultText width f }
  | .ok options =>
    match Settings.load environment file with
    | .invalid ps => report (.code 1) initialLevel [.notice (.settingsInvalid (.badRecord ps))]
    | .valid settings =>
      let (code, events) := perform options settings clock transport
      report (.code code) settings.logLevel events

end BlogConsole.Command

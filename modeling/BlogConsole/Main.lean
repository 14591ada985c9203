import BlogConsole.Command
import Std.Time.DateTime.Timestamp

/-!
The program on the command line: it prints to standard output, and writes notices and complaints to
standard error.

It runs without a network, so that the service cannot be reached; a store in memory can. There is no
environment file next to it.
-/

namespace BlogConsole.Main

/-- The variables of the environment that settings are taken from, in lower and in upper case, and
the width of the terminal. -/
def environment : IO Environment := do
  let names := "COLUMNS" :: Settings.Key.all.flatMap fun k => [k.name, k.name.toUpper]
  names.filterMapM fun name => do
    return (← IO.getEnv name).map (name, ·)

def present : IO (Except Timestamp.Cause Timestamp) := do
  let now ← Std.Time.Timestamp.now
  return Timestamp.ofMicros (now.toNanosecondsSinceUnixEpoch.val / 1000)

def offline : Transport := [.failure "ConnectError" "The network cannot be reached"]

def showEvent : Event → IO Unit
  | .output text => IO.print text
  | .notice n => IO.eprintln n.text
  | _ => pure ()

def exitCode : Command.Ending → UInt32
  | .code n => n.toUInt32
  | .exit n => n.toUInt32

def run (args : List String) : IO UInt32 := do
  match ← present with
  | .error cause =>
    IO.eprintln cause.message
    return 1
  | .ok clock =>
    let report := Command.run args (← environment) none clock offline
    for e in report.events do
      showEvent e
    IO.eprint report.complaint
    return exitCode report.ending

end BlogConsole.Main

def main (args : List String) : IO UInt32 := BlogConsole.Main.run args

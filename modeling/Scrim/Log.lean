import Scrim.Failure

/-!
# Log lines and the console

A log line has a level, a message and perhaps a cause. A `Logger` either hands its lines to whoever
captures them or writes them to the console under a tag; the console logger drops debug lines
unless they are asked for.
-/

namespace Scrim

/-- The level of a log line. -/
inductive Level
  | debug
  | info
  | warn
  | error
deriving Repr, DecidableEq

/-- The name by which a level is reported. -/
def Level.name : Level → String
  | .debug => "debug"
  | .info => "info"
  | .warn => "warn"
  | .error => "error"

/-- Every level. -/
def Level.all : List Level := [.debug, .info, .warn, .error]

/-- The level of a given name. -/
def Level.ofName? (name : String) : Option Level :=
  all.find? fun level => level.name == name

/-- One line of a log. The cause is there only if the line was written with one. -/
structure LogLine where
  level : Level
  message : String
  cause : Option Failure := none

/-- How the console is called: each level has its own channel, and plain lines share that of the
informational ones. -/
def Level.channel : Level → String
  | .debug => "debug"
  | .info => "log"
  | .warn => "warn"
  | .error => "error"

/-- One call of the console. -/
structure ConsoleCall where
  channel : String
  text : String
  cause : Option Value := none

/-- A plain line on the console. -/
def ConsoleCall.plain (text : String) : ConsoleCall :=
  ⟨Level.info.channel, text, none⟩

/-- What becomes of the lines that are logged. -/
inductive Logger
  /-- They are handed over as they are. -/
  | captured
  /-- They go to the console under a tag, debug lines only if wanted. -/
  | console (tag : String) (debug : Bool)
deriving Repr

namespace Logger

/-- The console calls that a line makes under a tag. A cause that is itself absent counts as none;
a real one is announced by a colon and passed along. Debug and informational lines carry none. -/
def consoleCalls (tag : String) (debug : Bool) (line : LogLine) : List ConsoleCall :=
  let text := "[" ++ tag ++ "] " ++ line.message
  let channel := line.level.channel
  let withCause : ConsoleCall :=
    match line.cause.map Failure.value with
    | none => ⟨channel, text, none⟩
    | some .absent => ⟨channel, text, none⟩
    | some cause => ⟨channel, text ++ ":", some cause⟩
  match line.level with
  | .debug => if debug then [⟨channel, text, none⟩] else []
  | .info => [⟨channel, text, none⟩]
  | .warn => [withCause]
  | .error => [withCause]

end Logger

end Scrim

import Scrim.Show

/-!
# The command line

Plays the show on the real clock. Options are read from the environment; the output is
plain.
-/

namespace Scrim

/-- The clock in milliseconds. -/
def readClock : IO Float := do
  return (← IO.monoNanosNow).toFloat / 1000000

/-- Makes one console call; warnings and errors go to the error channel. -/
def callConsole (call : ConsoleCall) : IO Unit := do
  let text := match call.cause.bind Value.describe? with
    | none => call.text
    | some cause => call.text ++ " " ++ cause
  if call.channel = Level.warn.channel ∨ call.channel = Level.error.channel then IO.eprintln text
  else IO.println text

/-- Lets notices be known on the console. -/
def callNotices (palette : Palette) (notices : List Show.Notice) : IO Unit :=
  (notices.flatMap (Show.Notice.calls palette)).forM callConsole

/-- Ticks for as long as the show is running, and gives the exit code for how it then stands. Nobody
has said yet why a tick failed. -/
partial def keepTicking (palette : Palette) (s : Show) : IO UInt32 := do
  match s.standing with
  | .running =>
    IO.sleep 50
    let (s, notices) := s.tick (← readClock)
    callNotices palette notices
    keepTicking palette s
  | .broken failure =>
    if let .ok message := failure.message then IO.eprintln message
    return s.standing.exitCode.toUInt32
  | _ => return s.standing.exitCode.toUInt32

/-- Reads the environment of the options. -/
def readEnvironment : IO Options.Environment := do
  return {
    debug := ← IO.getEnv Options.Flag.debug.variableName
    surfaceTrace := ← IO.getEnv Options.Flag.surfaceTrace.variableName
    showTransactions := ← IO.getEnv Options.Flag.showTransactions.variableName
    surfaceName := ← IO.getEnv Options.surfaceNameVariable }

end Scrim

open Scrim in
/-- Plays the show; the exit code tells whether the options could be used and the show was not
broken off. -/
def main : IO UInt32 := do
  let palette : Palette := ⟨false⟩
  match Options.resolve {} (← readEnvironment) with
  | .error errors =>
    callNotices palette (errors.map .complaint)
    return 1
  | .ok options =>
    let (s, notices) := Show.first options palette (← readClock)
    callNotices palette notices
    keepTicking palette s

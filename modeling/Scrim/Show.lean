import Scrim.Session

/-!
# The show

A scripted show of one dimmer on a terminal: fade in, retarget in mid-flight, fade out, release. The
show owns the ticker. Each number of its programme is announced and carried out in a transaction,
then the dimmer is advanced once per tick, each time in a transaction, until it settles; then the
next number begins in the same instant.

A show that fails goes no further. If the dimmer cannot be created or a number fails, the show says
so as its last word; nobody is left to say anything if a tick fails. Either way the exit code tells.

A show is a state machine: `Show.first` gives its first state, `Show.tick` moves it on, and both
give the notices that went out meanwhile. `Show.play` drives it by a clock whose ticks are late by
given amounts.
-/

namespace Scrim

/-- A number of a show's programme. -/
structure Show.Act where
  label : String
  operation : Operation

/-- How a show stands. -/
inductive Show.Standing
  /-- The ticker is running. -/
  | running
  /-- The programme is through and the ticker stopped. -/
  | settled
  /-- The dimmer could not be created, or a number failed. -/
  | failed (failure : Failure)
  /-- A tick failed. -/
  | broken (failure : Failure)

/-- The exit code of a show that stands like this. -/
def Show.Standing.exitCode : Show.Standing → Nat
  | .running => 0
  | .settled => 0
  | .failed _ => 1
  | .broken _ => 1

/-- A show in progress. -/
structure Show where
  session : Session
  /-- The numbers that have not begun. -/
  upcoming : List Show.Act
  standing : Show.Standing := .running

namespace Show

/-- The stacking layer of the show. -/
def layer : Float := 21000

/-- How many ticks an onlooker waits for a show to settle. -/
def patience : Nat := 10000

/-- The milliseconds from one tick to the next. -/
def frame : Float := 50

/-- The programme. -/
def programme : List Act :=
  [⟨"fade in to 0.6 over 600ms", .present (.number layer) (.number 0.6) (.number 600)⟩,
   ⟨"retarget to 0.3 over 300ms", .present (.number layer) (.number 0.3) (.number 300)⟩,
   ⟨"dismiss over 400ms", .dismiss (.number 400)⟩]

/-! ### Console output -/

/-- Something that a show lets be known. -/
inductive Notice
  /-- What becomes visible of the session. -/
  | reported (report : Report)
  /-- A number of the programme begins. -/
  | announced (label : String)
  /-- A line of the dimmer's state. -/
  | dumped (line : String)
  /-- Options cannot be used. -/
  | complaint (error : String)
  /-- The show is over because of a failure. -/
  | failed (failure : Failure)

/-- How a report of the session appears on the console; status lines are set in by two blanks. -/
def consoleCalls : Report → List ConsoleCall
  | .console call => [call]
  | .line text => [.plain ("  " ++ text)]
  | _ => []

/-- How a notice appears on the console. -/
def Notice.calls (palette : Palette) : Notice → List ConsoleCall
  | .reported report => consoleCalls report
  | .announced label => [.plain (palette.paint .cyan (">> " ++ label))]
  | .dumped line => [.plain (palette.paint .dim line)]
  | .complaint error => [⟨Level.error.channel, palette.paint .red ("config: " ++ error), none⟩]
  | .failed failure =>
    [⟨Level.error.channel, palette.paint .red "Dimmer demo failed:", some failure.value⟩]

/-! ### The state machine -/

/-- Has the dimmer carry out an operation in a transaction of its own. -/
def inTransaction (s : Session) (operation : Operation) : Entry Session Session.Answer :=
  Script.run (.scope [.action (.command 0 (.operate operation)) false] (.ok .absent) false) s

/-- The notices of a step of the session. -/
def noticesOf (entry : Entry Session Session.Answer) : List Notice :=
  entry.reports.map .reported

/-- A show that fails, with a last notice of that. -/
def fail (s : Show) (failure : Failure) : Show × List Notice :=
  ({ s with standing := .failed failure }, [.failed failure])

/-- Ends the show: its state is dumped. -/
def conclude (s : Show) : Show × List Notice :=
  let dumped := s.session.dimmers.flatMap fun d => d.dump "  " s.session.now
  ({ s with standing := .settled }, dumped.map .dumped)

/-- Carries out a number in a transaction and goes on, unless the number fails. -/
def carryOut (s : Show) (act : Act) (onward : Show → Show × List Notice) : Show × List Notice :=
  let entry := inTransaction s.session act.operation
  let s := { s with session := entry.after }
  let (s, notices) :=
    match entry.failure? with
    | some failure => s.fail failure
    | none => onward s
  (s, .announced act.label :: noticesOf entry ++ notices)

/-- Begins the next number, or ends the show after the dimmer has been released. -/
def next (s : Show) : Show × List Notice :=
  match s.upcoming with
  | act :: rest => { s with upcoming := rest }.carryOut act fun s => (s, [])
  | [] => s.carryOut ⟨"release", .release⟩ conclude

/-- The session in which the show takes place, before it has a dimmer: one display, and a log that
goes to the console. -/
def stage (options : Options) (palette : Palette) (now : Float) : Session :=
  { compositor := .ofDisplays [(0, ⟨1920, 1080⟩)] { palette }
    clock := fun _ => now
    logger := .console "OverlayDimmer" options.debug }

/-- The show after its first number has begun, and the notices so far. -/
def first (options : Options) (palette : Palette) (now : Float) : Show × List Notice :=
  let created := (stage options palette now).createDimmer options 0
  let s : Show := { session := created.after, upcoming := programme }
  let (s, notices) :=
    match created.outcome with
    | .error failure => s.fail failure
    | .ok _ => s.next
  (s, created.reports.map .reported ++ notices)

/-- Whether a tick found the dimmer at rest. -/
def atRest : Entry Session Session.Answer → Bool
  | .scope _ [.action ⟨_, .ok (.ofDimmer (.more false)), _⟩] _ => true
  | _ => false

/-- One tick of the show at a clock value. -/
def tick (s : Show) (now : Float) : Show × List Notice :=
  let entry := inTransaction (s.session.stopped now) .advance
  let s := { s with session := entry.after }
  match entry.failure? with
  | some failure => ({ s with standing := .broken failure }, noticesOf entry)
  | none =>
    if atRest entry then
      let (s, notices) := s.next
      (s, noticesOf entry ++ notices)
    else (s, noticesOf entry)

/-! ### Playing -/

/-- What a show came to. -/
structure Playbill where
  palette : Palette
  /-- The notices before the first tick. -/
  opening : List Notice
  /-- The notices of each tick. -/
  ticked : List (List Notice)
  /-- The show as its ticks left it, if there was one. -/
  show? : Option Show

namespace Playbill

/-- All notices in order. -/
def notices (p : Playbill) : List Notice :=
  p.opening ++ p.ticked.flatten

/-- All console calls. -/
def calls (p : Playbill) : List ConsoleCall :=
  p.notices.flatMap (Notice.calls p.palette)

/-- How many ticks there were. -/
def ticks (p : Playbill) : Nat :=
  p.ticked.length

/-- The exit code, which tells whether the options could be used and nothing failed. -/
def exitCode (p : Playbill) : Nat :=
  match p.show? with
  | none => 1
  | some s => s.standing.exitCode

/-- How the show stands; where there is none, there is nothing to wait for. -/
def standing (p : Playbill) : Standing :=
  match p.show? with
  | none => .settled
  | some s => s.standing

end Playbill

/-- Runs ticks for as long as the show is running, at most `fuel` of them, after the first `ticks`.
Tick number `k` comes one frame and `late k` milliseconds after the one before. -/
def runTicks (late : Nat → Float) : Nat → Nat → Show → List (List Notice) × Show
  | 0, _, s => ([], s)
  | fuel + 1, ticks, s =>
    match s.standing with
    | .running =>
      let (s, notices) := s.tick (s.session.now + (frame + late ticks))
      let (later, s) := runTicks late fuel (ticks + 1) s
      (notices :: later, s)
    | _ => ([], s)

/-- The lateness of each tick, from a list that is gone through again and again. An empty list
knows no lateness. -/
def cycle (late : List Float) (k : Nat) : Float :=
  (late[k % late.length]?).getD (0 / 0)

/-- Plays the show from a clock value, with ticks that are late by the given amounts, for at most
`fuel` ticks. With options that cannot be used there is no show. -/
def play (env : Options.Environment) (palette : Palette) (start : Float) (late : List Float)
    (fuel : Nat) : Playbill :=
  match Options.resolve {} env with
  | .error errors => { palette, opening := errors.map .complaint, ticked := [], show? := none }
  | .ok options =>
    let (s, opening) := first options palette start
    let (ticked, s) := runTicks (cycle late) fuel 0 s
    { palette, opening, ticked, show? := some s }

end Show

end Scrim

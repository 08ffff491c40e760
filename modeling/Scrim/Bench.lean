import Scrim.Dimmer.Command

/-!
# The bench

A bench drives one dimmer without a compositor. It records all that the dimmer does, its clock is
set by hand, its one display can be resized or taken away, and its surface refuses the primitives
it is told to refuse.
-/

namespace Scrim

/-- How a bench is set up. -/
structure Bench.Setup where
  /-- The display that the dimmer is made for. -/
  displayId : Float := 0
  /-- The size of display zero, the only one there can be. -/
  display : Option Size := some ⟨1920, 1080⟩
  /-- Whether surfaces cannot be allocated. -/
  creationFails : Bool := false
  /-- The kinds of primitive that the surface refuses from the start. -/
  failing : List Primitive.Kind := []
  /-- The first reading of the clock. -/
  start : Float := 0
  /-- How far each reading moves the clock; without a drift it stands still. -/
  drift : Option Float := none
  options : Options := {}
  logger : Logger := .captured

/-- A bench with its dimmer and its records. -/
structure Bench where
  dimmer : Dimmer
  now : Float
  drift : Option Float
  logger : Logger
  display : Option Size
  failing : List Primitive.Kind
  opens : Nat := 0
  closes : Nat := 0
  /-- The primitives that reached the surface since they were last cleared. -/
  calls : List Primitive := []
  /-- The captured log. -/
  lines : List LogLine := []
  /-- The surfaces asked for. -/
  requests : List SurfaceRequest := []

namespace Bench

/-- The name of the surface that a bench hands out, whatever name was asked for. -/
def surfaceName : String := "DimSurface"

/-- The clock reading after so many others. -/
def reading (b : Bench) (taken : Nat) : Float :=
  match b.drift with
  | none => b.now
  | some drift => Nat.repeat (· + drift) taken b.now

/-- Why the surface refuses a primitive, if it does. -/
def refusalIn (failing : List Primitive.Kind) (primitive : Primitive) : Option Failure :=
  if primitive.kind ∈ failing then some (.refused primitive.kind) else none

/-- What the dimmer can learn from the bench. -/
def surroundings (b : Bench) : Surroundings where
  display := if b.dimmer.display == 0 then b.display else none
  reading := b.reading
  refusal := refusalIn b.failing

/-- Records one event. -/
def record (b : Bench) : Event → Bench
  | .log line =>
    match b.logger with
    | .captured => { b with lines := b.lines ++ [line] }
    | .console .. => b
  | .call _ primitive _ => { b with calls := b.calls ++ [primitive] }
  | .requested request _ => { b with requests := b.requests ++ [request] }
  | .opened => { b with opens := b.opens + 1 }
  | .closed => { b with closes := b.closes + 1 }

/-- What becomes visible of an event. -/
def reportsOf (logger : Logger) : Event → List Report
  | .log line => logger.reports line
  | .call _ primitive _ => [.call primitive]
  | .requested request _ => [.requested request]
  | .opened => [.opened]
  | .closed => [.closed]

/-- Takes over the dimmer, the clock and the events of a turn. -/
def absorb (b : Bench) (t : Turn) : Bench :=
  t.events.foldl record { b with dimmer := t.dimmer, now := b.reading t.readings }

/-- What becomes visible of a turn. -/
def reports (b : Bench) (t : Turn) : List Report :=
  t.events.flatMap (reportsOf b.logger)

/-- The turn in which the dimmer of a bench is created. -/
def creation (setup : Setup) : Turn :=
  let admission := fun _ =>
    if setup.creationFails then .error .allocation else .ok { id := 0, name := surfaceName }
  Dimmer.create setup.options setup.displayId admission (refusalIn setup.failing)

/-- What an action on the bench may answer. -/
inductive Answer
  | nothing
  | ofDimmer (answer : Dimmer.Answer)
  | messages (messages : List String)
  | calls (calls : List Primitive)
  | requests (requests : List SurfaceRequest)
  | value (v : Value)

/-- A bench at work: its dimmer has just been created. -/
def start (setup : Setup) : Reply Bench Answer :=
  let t := creation setup
  let b : Bench :=
    { dimmer := t.dimmer, now := setup.start, drift := setup.drift, logger := setup.logger,
      display := setup.display, failing := setup.failing }
  { after := b.absorb t, outcome := .ok .nothing, reports := b.reports t }

/-- What can be done on a bench. -/
inductive Action
  /-- Tells the dimmer something. -/
  | command (command : Dimmer.Command)
  /-- Sets the clock. -/
  | setTime (now : Float)
  /-- Resizes the display or takes it away. -/
  | setDisplay (display : Option Size)
  /-- Makes the surface refuse a kind of primitive. -/
  | fail (kind : Primitive.Kind)
  /-- Makes the surface refuse nothing. -/
  | failClear
  /-- The recorded primitives of a kind. -/
  | callsNamed (kind : Primitive.Kind)
  /-- Forgets the recorded primitives. -/
  | callsClear
  /-- The captured messages of a level. -/
  | messagesAt (level : Level)
  /-- The surfaces asked for. -/
  | requests

/-- Has the dimmer carry out an operation. -/
def operate (b : Bench) (operation : Operation) : Reply Bench (Option Bool) :=
  let (t, outcome) := b.dimmer.perform b.surroundings operation
  { after := b.absorb t, outcome, reports := b.reports t }

/-- The bench as it carries its dimmer. -/
def rig : Rig Bench where
  dimmer := Bench.dimmer
  operate operation b := b.operate operation
  moveClock step b := { b with now := b.now + step }
  readClock b := (b.reading 0, { b with now := b.reading 1 })

/-- Carries out an action. -/
def act (action : Action) (b : Bench) : Reply Bench Answer :=
  match action with
  | .command command => (rig.carryOut command b).map Answer.ofDimmer
  | .setTime now => { after := { b with now }, outcome := .ok .nothing }
  | .setDisplay display => { after := { b with display }, outcome := .ok .nothing }
  | .fail kind => { after := { b with failing := kind :: b.failing }, outcome := .ok .nothing }
  | .failClear => { after := { b with failing := [] }, outcome := .ok .nothing }
  | .callsNamed kind =>
    { after := b, outcome := .ok (.calls (b.calls.filter fun call => call.kind == kind)) }
  | .callsClear => { after := { b with calls := [] }, outcome := .ok .nothing }
  | .messagesAt level =>
    { after := b
      outcome := .ok (.messages
        ((b.lines.filter fun line => line.level == level).map LogLine.message)) }
  | .requests => { after := b, outcome := .ok (.requests b.requests) }

instance : Stage Bench Action Answer where
  act := act
  enter b := (b.record .opened, [.opened])
  leave b := { after := b.record .closed, outcome := .ok (), reports := [.closed] }
  returned := .value

/-- Plays a script on a new bench. The first entry is that of the creation. -/
def play (setup : Setup) (script : List (Script Action)) : List (Entry Bench Answer) :=
  let creation := start setup
  .action creation :: Script.play script creation.after

end Bench

end Scrim

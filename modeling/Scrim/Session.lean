import Scrim.Compositor.Basic
import Scrim.Dimmer.Command

/-!
# Sessions on a compositor

A session is a compositor in use: surfaces that are handled directly through slots, and dimmers
that each have a surface of their own on the same compositor. A dimmer's turn is computed from what
the compositor would say to it, and its events are then carried out on the compositor one by one
(`Session.replay`).

The clock of a session gives one reading after another (`Session.clock`), and each is taken once.
So time may pass between the readings of a single operation.
-/

namespace Scrim

/-- A compositor with the slots and dimmers that use it. -/
structure Session where
  compositor : Compositor
  /-- The surface in each slot, by its number on the compositor. -/
  slots : List Nat := []
  dimmers : List Dimmer := []
  /-- The readings that the clock gives from now on, in order. -/
  clock : Nat → Float := fun _ => 0
  /-- What becomes of the dimmers' log. -/
  logger : Logger := .captured

namespace Session

/-- What an action in a session may answer. -/
inductive Answer
  | nothing
  | ofDimmer (answer : Dimmer.Answer)
  /-- The number of a new slot or dimmer. -/
  | number (n : Nat)
  | display (size : Option Size)
  | surface (surface : Compositor.Surface)
  | line (text : String)
  | value (v : Value)

/-! ### The clock -/

/-- What the clock reads next. -/
def now (s : Session) : Float :=
  s.clock 0

/-- The session after some readings of its clock have been taken. -/
def drop (s : Session) (taken : Nat) : Session :=
  { s with clock := fun k => s.clock (k + taken) }

/-- The session with its clock stopped at a reading. -/
def stopped (s : Session) (now : Float) : Session :=
  { s with clock := fun _ => now }

/-! ### Dimmers on a compositor -/

/-- What a dimmer can learn from a session. -/
def surroundings (s : Session) (d : Dimmer) : Surroundings where
  display := s.compositor.display? d.display
  reading := s.clock
  refusal _ := d.handle.bind fun handle => s.compositor.refusal handle.id

/-- Closes a transaction of the compositor. -/
def closeTransaction (s : Session) : Reply Session Unit :=
  let closing := s.compositor.leave
  { after := { s with compositor := closing.after }
    outcome := closing.outcome
    reports := closing.lines.map Report.line }

/-- Carries out one event of a dimmer. -/
def carryOut (s : Session) : Event → Reply Session Unit
  | .log line => { after := s, outcome := .ok (), reports := s.logger.reports line }
  | .call id primitive refusal =>
    { outcome := .ok ()
      after := match refusal with
        | none => { s with compositor := s.compositor.accept id primitive }
        | some _ => s }
  | .requested request refusal =>
    { outcome := .ok ()
      after := match refusal with
        | none => { s with compositor := s.compositor.add request }
        | some _ => s }
  | .opened => { after := { s with compositor := s.compositor.enter }, outcome := .ok () }
  | .closed => s.closeTransaction

/-- Carries out events in order, up to the first that fails. -/
def replay : List Event → Session → Reply Session Unit
  | [], s => { after := s, outcome := .ok () }
  | event :: rest, s =>
    let first := s.carryOut event
    match first.outcome with
    | .error _ => first
    | .ok _ =>
      let later := replay rest first.after
      { later with reports := first.reports ++ later.reports }

/-- The turn in which a dimmer is created. Its surface takes the next number, and is fit for use
inside the transaction that the creation opens. -/
def creation (s : Session) (options : Options) (display : Float) : Turn :=
  let c := s.compositor.enter
  let admission (request : SurfaceRequest) : Except Failure Handle :=
    match c.create request with
    | .ok (_, id) => .ok { id, name := request.name }
    | .error failure => .error failure
  let refusal (_ : Primitive) := (c.add (Dimmer.request options)).refusal c.surfaces.length
  Dimmer.create options display admission refusal

/-- Creates a dimmer. If closing its transaction fails, the dimmer is lost, but its surface
stays. -/
def createDimmer (s : Session) (options : Options) (display : Float) : Reply Session Answer :=
  let t := s.creation options display
  let reply := s.replay t.events
  match reply.outcome with
  | .error failure => { reply with outcome := .error failure }
  | .ok _ =>
    { reply with
      after := { reply.after with dimmers := reply.after.dimmers ++ [t.dimmer] }
      outcome := .ok (.number s.dimmers.length) }

/-- Has a dimmer carry out an operation. -/
def operate (s : Session) (index : Nat) (operation : Operation) : Reply Session (Option Bool) :=
  match s.dimmers[index]? with
  | none => { after := s, outcome := .error (.noSuchDimmer index) }
  | some d =>
    let (t, outcome) := d.perform (s.surroundings d) operation
    let reply := { s.drop t.readings with dimmers := s.dimmers.set index t.dimmer }.replay t.events
    { reply with outcome }

/-! ### Actions -/

/-- What can be done in a session. -/
inductive Action
  /-- Creates a surface and puts it in a new slot. -/
  | create (request : SurfaceRequest)
  /-- Puts a surface from the screen, counted in creation order, in a new slot. -/
  | adopt (index : Nat)
  /-- Issues a primitive on the surface in a slot. -/
  | issue (slot : Nat) (primitive : Primitive)
  /-- The fields of the surface in a slot. -/
  | surface (slot : Nat)
  /-- The status line of the surface in a slot. -/
  | status (slot : Nat)
  /-- Takes the surface in a slot off the screen. -/
  | remove (slot : Nat)
  /-- Announces a change of the surface in a slot. -/
  | beginChange (slot : Nat)
  /-- Opens a transaction. -/
  | enter
  /-- Closes a transaction. -/
  | leave
  /-- The size of a display. -/
  | display (key : Float)
  /-- Adds or resizes a display. -/
  | setDisplay (key : Float) (size : Size)
  /-- Sets the clock, and stops it there. -/
  | setTime (now : Float)
  /-- Creates a dimmer for a display. -/
  | createDimmer (display : Float) (options : Options)
  /-- Tells a dimmer something. -/
  | command (index : Nat) (command : Dimmer.Command)

/-- An action that only changes the compositor. -/
def change (s : Session) (changed : Except Failure Compositor) : Reply Session Answer :=
  match changed with
  | .error failure => { after := s, outcome := .error failure }
  | .ok compositor => { after := { s with compositor }, outcome := .ok .nothing }

/-- An action on the surface in a slot. -/
def onSlot (s : Session) (slot : Nat)
    (action : Nat → Compositor.Surface → Reply Session Answer) : Reply Session Answer :=
  match s.slots[slot]? with
  | none => { after := s, outcome := .error (.emptySlot slot) }
  | some id =>
    match s.compositor.surfaces[id]? with
    | none => { after := s, outcome := .error (.emptySlot slot) }
    | some surface => action id surface

/-- Puts a surface in a new slot. -/
def fillSlot (s : Session) (id : Nat) : Reply Session Answer :=
  { after := { s with slots := s.slots ++ [id] }, outcome := .ok (.number s.slots.length) }

/-- The session as it carries one of its dimmers, `d` standing for a missing one. -/
def rig (index : Nat) (d : Dimmer) : Rig Session where
  dimmer s := s.dimmers[index]?.getD d
  operate operation s := s.operate index operation
  moveClock step s := { s with clock := fun k => s.clock k + step }
  readClock s := (s.now, s.drop 1)

/-- Carries out an action. -/
def act (action : Action) (s : Session) : Reply Session Answer :=
  match action with
  | .create request =>
    match s.compositor.create request with
    | .error failure => { after := s, outcome := .error failure }
    | .ok (compositor, id) => { s with compositor }.fillSlot id
  | .adopt index =>
    match s.compositor.live[index]? with
    | none => { after := s, outcome := .error (.emptySlot index) }
    | some id => s.fillSlot id
  | .issue slot primitive => s.onSlot slot fun id _ => s.change (s.compositor.issue id primitive)
  | .surface slot =>
    s.onSlot slot fun _ surface => { after := s, outcome := .ok (.surface surface) }
  | .status slot => s.onSlot slot fun _ surface =>
    { after := s, outcome := (s.compositor.style.line surface).map Answer.line }
  | .remove slot => s.onSlot slot fun id _ => s.change (.ok (s.compositor.remove id))
  | .beginChange slot => s.onSlot slot fun id _ => s.change (s.compositor.beginChange id)
  | .enter => s.change (.ok s.compositor.enter)
  | .leave => s.closeTransaction.map fun _ => .nothing
  | .display key => { after := s, outcome := .ok (.display (s.compositor.display? key)) }
  | .setDisplay key size => s.change (.ok (s.compositor.setDisplay key size))
  | .setTime now => { after := s.stopped now, outcome := .ok .nothing }
  | .createDimmer display options => s.createDimmer options display
  | .command index command =>
    match s.dimmers[index]? with
    | none => { after := s, outcome := .error (.noSuchDimmer index) }
    | some d => ((rig index d).carryOut command s).map Answer.ofDimmer

instance : Stage Session Action Answer where
  act := act
  enter s := ({ s with compositor := s.compositor.enter }, [])
  leave := closeTransaction
  returned := .value

end Session

end Scrim

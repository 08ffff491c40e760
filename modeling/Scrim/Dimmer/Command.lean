import Scrim.Dimmer.Operations
import Scrim.Script

/-!
# Commands to a dimmer

What a script can tell a dimmer, wherever the dimmer works: operations, questions about its state,
and a whole run of ticks. `Rig` says how a stage carries a dimmer: where it is, how an operation
on it goes, and how the clock is read and moved. Commands are carried out alike on every rig.
-/

namespace Scrim

namespace Dimmer

/-- What a dimmer can be told. -/
inductive Command
  /-- Carry out an operation. -/
  | operate (operation : Operation)
  /-- Say how it stands. -/
  | query
  /-- Write the diagnostic block. -/
  | dump (lead : String)
  /-- Let the clock move and advance, at most so many times and only while that is needed. -/
  | run (tick : Float) (times : Nat)

/-- What a command can be answered with. -/
inductive Answer
  | nothing
  /-- Whether more advancing is needed. -/
  | more (needed : Bool)
  /-- How the dimmer stands. -/
  | standing (dimming animating : Bool) (target : Float) (showing : Bool)
  /-- The diagnostic block. -/
  | lines (lines : List String)
  /-- The alphas after the ticks of a run. -/
  | alphas (alphas : List Float)

/-- The answer to an operation. -/
def Answer.ofResult : Option Bool → Answer
  | none => .nothing
  | some needed => .more needed

end Dimmer

/-- How a stage carries a dimmer. -/
structure Rig (σ : Type) where
  dimmer : σ → Dimmer
  /-- Has the dimmer carry out an operation. -/
  operate : Operation → σ → Reply σ (Option Bool)
  /-- Lets the clock move by some milliseconds. -/
  moveClock : Float → σ → σ
  /-- Reads the clock as the dimmer would. -/
  readClock : σ → Float × σ

namespace Rig

variable {σ : Type} (rig : Rig σ)

/-- One tick of a run: moves the clock and advances. Says whether more is needed, and yields the
alpha and the reports. -/
def tick (step : Float) (s : σ) : σ × Bool × Float × List Report :=
  let reply := rig.operate .advance (rig.moveClock step s)
  let more := match reply.outcome with
    | .ok (some needed) => needed
    | _ => false
  (reply.after, more, (rig.dimmer reply.after).alpha, reply.reports)

/-- Carries out a command. -/
def carryOut (command : Dimmer.Command) (s : σ) : Reply σ Dimmer.Answer :=
  match command with
  | .operate operation => (rig.operate operation s).map Dimmer.Answer.ofResult
  | .query =>
    let d := rig.dimmer s
    { after := s, outcome := .ok (.standing d.isDimming d.isAnimating d.target d.showing) }
  | .dump lead =>
    let (now, s) := rig.readClock s
    { after := s, outcome := .ok (.lines ((rig.dimmer s).dump lead now)) }
  | .run step times =>
    let (s, yields) := repeatWhile (rig.tick step) times s
    { after := s, outcome := .ok (.alphas (yields.map Prod.fst))
      reports := yields.flatMap Prod.snd }

end Rig

end Scrim

import Scrim.Log

/-!
# Guarded blocks

A surface may refuse any primitive, and a refusal is not to reach the logic that issued it. Surface
work is therefore done in guarded blocks: a block is a list of acts, the first act that fails ends
it, and the failure is logged as a warning under the block's context. Whoever attempted the block is
then told of the failure. That can fail in turn, if the value that was raised cannot be written out,
and this failure nothing guards against (`Block.Outcome.escape`).

What happens is recorded as `Event`s, in order. A primitive appears as one `Event.call`, whether it
was refused or not, right after the announcements of the handle's tracers.
-/

namespace Scrim

/-- Something that a dimmer did. -/
inductive Event
  | log (line : LogLine)
  /-- A primitive reached the surface, which may have refused it. -/
  | call (surface : Nat) (primitive : Primitive) (refusal : Option Failure)
  /-- A surface was asked for, perhaps in vain. -/
  | requested (request : SurfaceRequest) (refusal : Option Failure)
  /-- A transaction was opened. -/
  | opened
  /-- A transaction was closed. -/
  | closed

/-- The event of logging a line without a cause. -/
def Event.say (level : Level) (message : String) : Event :=
  .log ⟨level, message, none⟩

/-- The events of issuing a primitive through a handle. -/
def Handle.issue (handle : Handle) (primitive : Primitive) (refusal : Option Failure) :
    List Event :=
  (handle.announcements primitive).map (Event.say .info) ++ [.call handle.id primitive refusal]

namespace Block

/-- One act of a block. -/
inductive Act
  /-- Logs a debug line. -/
  | note (message : String)
  /-- Issues a primitive. -/
  | issue (primitive : Primitive)
  /-- Raises a value. -/
  | raise (value : Value)

/-- What came of a block. -/
structure Outcome where
  events : List Event
  failure : Option Failure

/-- An outcome that began with other events. -/
def Outcome.after (events : List Event) (outcome : Outcome) : Outcome :=
  { outcome with events := events ++ outcome.events }

/-- Runs a block on a surface that refuses as told. The acts after a failed one do not happen. -/
def run (refusal : Primitive → Option Failure) (handle : Handle) : List Act → Outcome
  | [] => ⟨[], none⟩
  | .note message :: rest => (run refusal handle rest).after [.say .debug message]
  | .issue primitive :: rest =>
    match refusal primitive with
    | some failure => ⟨handle.issue primitive (some failure), some failure⟩
    | none => (run refusal handle rest).after (handle.issue primitive none)
  | .raise value :: _ => ⟨[], some (.raised value)⟩

@[simp] theorem run_nil (refusal : Primitive → Option Failure) (handle : Handle) :
    run refusal handle [] = ⟨[], none⟩ := rfl

/-- A refused primitive ends a block: the acts after it do not happen. -/
theorem run_issue_of_refused {refusal : Primitive → Option Failure} {primitive : Primitive}
    {failure : Failure} (h : refusal primitive = some failure) (handle : Handle)
    (rest : List Act) :
    run refusal handle (.issue primitive :: rest)
      = ⟨handle.issue primitive (some failure), some failure⟩ := by
  simp only [run, h]

/-- An accepted primitive leaves the block to go on. -/
theorem run_issue_of_accepted {refusal : Primitive → Option Failure} {primitive : Primitive}
    (h : refusal primitive = none) (handle : Handle) (rest : List Act) :
    run refusal handle (.issue primitive :: rest)
      = (run refusal handle rest).after (handle.issue primitive none) := by
  simp only [run, h]

/-- The events of a block together with the warning about its failure, if it failed. -/
def Outcome.reported (context : String) (outcome : Outcome) : List Event :=
  match outcome.failure with
  | none => outcome.events
  | some failure => outcome.events ++ [.log ⟨.warn, "Failure " ++ context, some failure⟩]

/-- What whoever attempted a block is told: nothing if it went through, else the text of its
failure. To tell it may fail in turn, after the failure has been logged. -/
def Outcome.told (outcome : Outcome) : Except Failure (Option String) :=
  match outcome.failure with
  | none => .ok none
  | some failure => failure.message.map some

/-- The failure that gets out of a block: that of telling its own. -/
def Outcome.escape (outcome : Outcome) : Option Failure :=
  match outcome.told with
  | .ok _ => none
  | .error reason => some reason

/-- What gets out of a block is what keeps its failure from being told. -/
theorem Outcome.escape_eq (outcome : Outcome) :
    outcome.escape = outcome.failure.bind Failure.untold := by
  unfold escape told
  cases outcome.failure with
  | none => rfl
  | some failure =>
    rw [Option.bind_some, Failure.untold]
    dsimp only
    cases failure.message <;> rfl

end Block

end Scrim

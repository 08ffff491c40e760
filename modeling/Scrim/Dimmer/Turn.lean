import Scrim.Dimmer.Basic

/-!
# Turns

An operation of a dimmer is one turn. What the operation learns from outside are its
`Surroundings`: the size of the display, the readings of the clock, and which primitives the
surface refuses. They stay as they are during one operation, since nobody else acts meanwhile and
the only primitive that ends a surface is the last of its turn. What the operation does is the
`Turn` that it leaves: the dimmer afterwards, the number of clock readings taken, the events in
order, and the failure that ended it early, if one did. Only the failure to tell what the surface
refused something with can do that (`Turn.attempt`), and then nothing follows (`Turn.andThen`).
-/

namespace Scrim

/-- What an operation can learn from outside. -/
structure Surroundings where
  /-- The size of the dimmer's display, if there is such a display. -/
  display : Option Size
  /-- The readings of the clock, in the order in which they are taken. -/
  reading : Nat → Float
  /-- Why the surface refuses a primitive, if it does. -/
  refusal : Primitive → Option Failure

/-- A turn so far. -/
structure Turn where
  dimmer : Dimmer
  readings : Nat := 0
  events : List Event := []
  /-- The failure that has ended the operation early. -/
  failure : Option Failure := none

namespace Turn

/-- Adds events at the end. -/
def emit (t : Turn) (events : List Event) : Turn :=
  { t with events := t.events ++ events }

/-- Logs a line without a cause. -/
def say (t : Turn) (level : Level) (message : String) : Turn :=
  t.emit [.say level message]

/-- Logs a debug line. -/
def debug (t : Turn) (message : String) : Turn :=
  t.say .debug message

/-- Changes the dimmer. -/
def update (t : Turn) (change : Dimmer → Dimmer) : Turn :=
  { t with dimmer := change t.dimmer }

/-- What the clock reads next. -/
def now (t : Turn) (w : Surroundings) : Float :=
  w.reading t.readings

/-- Counts a reading of the clock. -/
def tookReading (t : Turn) : Turn :=
  { t with readings := t.readings + 1 }

/-- Adds the events of a guarded block. What gets out of the block ends the operation. -/
def attempt (t : Turn) (context : String) (outcome : Block.Outcome) : Turn :=
  { t.emit (outcome.reported context) with failure := outcome.escape }

/-- Goes on with an operation, unless a failure has ended it. -/
def andThen (t : Turn) (next : Turn → Turn) : Turn :=
  match t.failure with
  | none => next t
  | some _ => t

/-- What the caller of an operation learns of it: what it comes to, or the failure that ended it. -/
def answer (t : Turn) (result : Option Bool) : Except Failure (Option Bool) :=
  match t.failure with
  | none => .ok result
  | some failure => .error failure

/-- Complains that there is no surface, and comes to rest. -/
def collapse (t : Turn) (operation : String) : Turn :=
  (t.say .error (operation ++ ": no surface")).update Dimmer.collapsed

/-! ### What the steps of a turn change -/

@[simp] theorem dimmer_emit (t : Turn) (events : List Event) : (t.emit events).dimmer = t.dimmer :=
  rfl

@[simp] theorem events_emit (t : Turn) (events : List Event) :
    (t.emit events).events = t.events ++ events := rfl

@[simp] theorem dimmer_debug (t : Turn) (message : String) : (t.debug message).dimmer = t.dimmer :=
  rfl

@[simp] theorem readings_debug (t : Turn) (message : String) :
    (t.debug message).readings = t.readings := rfl

@[simp] theorem dimmer_update (t : Turn) (change : Dimmer → Dimmer) :
    (t.update change).dimmer = change t.dimmer := rfl

@[simp] theorem readings_update (t : Turn) (change : Dimmer → Dimmer) :
    (t.update change).readings = t.readings := rfl

@[simp] theorem events_update (t : Turn) (change : Dimmer → Dimmer) :
    (t.update change).events = t.events := rfl

@[simp] theorem dimmer_collapse (t : Turn) (operation : String) :
    (t.collapse operation).dimmer = t.dimmer.collapsed := rfl

@[simp] theorem dimmer_tookReading (t : Turn) : t.tookReading.dimmer = t.dimmer := rfl

@[simp] theorem readings_tookReading (t : Turn) : t.tookReading.readings = t.readings + 1 := rfl

/-! ### Going on and ending early -/

section

variable {t : Turn} {next : Turn → Turn} {result : Option Bool} {failure : Failure}

theorem andThen_of_going (h : t.failure = none) : t.andThen next = next t := by
  unfold andThen
  rw [h]

/-- What has ended goes no further. -/
theorem andThen_of_ended (h : t.failure ≠ none) : t.andThen next = t := by
  obtain ⟨failure, h_failure⟩ := Option.ne_none_iff_exists'.mp h
  unfold andThen
  rw [h_failure]

/-- **What has ended is where it ended, and what goes on goes on.** -/
theorem andThen_cases {P : Turn → Prop} (h_ended : t.failure ≠ none → P t)
    (h_going : t.failure = none → P (next t)) : P (t.andThen next) := by
  by_cases h : t.failure = none
  · rw [andThen_of_going h]
    exact h_going h
  · rw [andThen_of_ended h]
    exact h_ended h

/-- A turn that has not ended early has got through each of its parts. -/
theorem going_of_andThen (h : (t.andThen next).failure = none) :
    t.failure = none ∧ (next t).failure = none := by
  by_cases h_here : t.failure = none
  · rw [andThen_of_going h_here] at h
    exact ⟨h_here, h⟩
  · rw [andThen_of_ended h_here] at h
    exact absurd h h_here

theorem answer_of_going (h : t.failure = none) : t.answer result = .ok result := by
  unfold answer
  rw [h]

theorem answer_eq_error_iff : t.answer result = .error failure ↔ t.failure = some failure := by
  unfold answer
  cases t.failure with
  | none => exact iff_of_false nofun nofun
  | some failure' => exact ⟨fun h => congrArg some (Except.error.inj h),
      fun h => congrArg Except.error (Option.some.inj h)⟩

end

end Turn

end Scrim

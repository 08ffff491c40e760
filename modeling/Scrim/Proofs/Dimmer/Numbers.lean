import Scrim.Proofs.Dimmer.Recasting

/-!
# The number of a surface

A dimmer knows its surface by a number, which depends on how many surfaces have been created
before. It passes the number on with each call and does nothing else with it. A dimmer whose surface
has another number therefore does the same in the same surroundings (`Dimmer.turn_unnumbered`), and
so does one that is created for another surface (`Dimmer.create_unnumbered`).

What is left of a dimmer, an event or a turn when numbers are set to zero is called `unnumbered`. To
leave the numbers out is a `Recasting`, which carries every hold.
-/

namespace Scrim

def Handle.unnumbered (handle : Handle) : Handle :=
  { handle with id := 0 }

def Dimmer.unnumbered (d : Dimmer) : Dimmer :=
  { d with handle := d.handle.map Handle.unnumbered }

def Event.unnumbered : Event → Event
  | .call _ primitive refusal => .call 0 primitive refusal
  | e => e

def Turn.unnumbered (t : Turn) : Turn :=
  { t with dimmer := t.dimmer.unnumbered, events := t.events.map Event.unnumbered }

/-- Tracers announce a primitive by the name of the surface. -/
theorem Handle.issue_unnumbered (handle : Handle) (primitive : Primitive)
    (refusal : Option Failure) :
    handle.unnumbered.issue primitive refusal
      = (handle.issue primitive refusal).map Event.unnumbered := by
  unfold issue
  rw [List.map_append, List.map_map]
  rfl

namespace Recasting

/-- To leave the numbers out. -/
def numberless : Recasting where
  handle := Handle.unnumbered
  event e := [e.unnumbered]
  event_log _ := rfl
  event_refused _ _ := rfl
  event_opened := rfl
  event_closed := rfl

theorem numberless_carries (handle : Handle) : numberless.Carries handle := by
  intro primitive refusal
  exact (handle.issue_unnumbered primitive refusal).trans List.map_eq_flatMap

theorem turn_numberless (t : Turn) : numberless.turn t = t.unnumbered :=
  congrArg (Turn.mk t.dimmer.unnumbered t.readings · t.failure) List.map_eq_flatMap.symm

end Recasting

namespace Dimmer

open Recasting

/-- **A dimmer does the same whatever the number of its surface is.** -/
theorem turn_unnumbered (d : Dimmer) (s : Step) : d.unnumbered.turn s = (d.turn s).unnumbered :=
  (turn_step (fun handle _ => numberless_carries handle) s).trans (turn_numberless _)

/-- It answers the same, too. -/
theorem answer_unnumbered (d : Dimmer) (s : Step) : d.unnumbered.answer s = d.answer s :=
  Recasting.answer_eq (fun handle _ => numberless_carries handle) s

theorem hold_unnumbered (options : Options) (given : Handle) :
    hold options given.unnumbered = (hold options given).unnumbered := by
  unfold hold
  rw [apply_ite Handle.unnumbered]
  rfl

/-- **A dimmer is created alike whatever the number of its surface is.** -/
theorem create_unnumbered (options : Options) (refusal : Primitive → Option Failure)
    (display : Float) (admission : SurfaceRequest → Except Failure Handle) :
    create options display (fun request => (admission request).map Handle.unnumbered) refusal
      = (create options display admission refusal).unnumbered := by
  rw [← turn_numberless]
  -- numbers are taken off what is granted, and nothing else depends on them
  refine Recasting.create rfl ?_ ?_ display refusal
  · intro failure h_admission
    rw [h_admission]
    rfl
  · intro given h_admission
    refine ⟨given.unnumbered, ?_, numberless_carries _, hold_unnumbered options given, ?_⟩
    · rw [h_admission]
      rfl
    · -- a surface is noted by its name
      unfold noted
      split <;> rfl

end Dimmer

end Scrim

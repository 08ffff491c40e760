/-!
# Timelines

A fade runs along a timeline: from the alpha that was applied when it started, over a duration in
milliseconds, toward a target that is kept apart from the timeline. Progress depends on the clock
alone, so a caller may sample as often or as seldom as it likes.
-/

namespace Scrim

/-- Where a fade started, when, and how long it is to take. -/
structure Timeline where
  startAlpha : Float := 0
  startTime : Float := 0
  duration : Float := 0
deriving Repr

namespace Timeline

/-- The clock value at which the target is reached. -/
def finish (t : Timeline) : Float :=
  t.startTime + t.duration

/-- Whether a fade of the given duration that starts now would finish strictly before this one. -/
def outrunBy (t : Timeline) (duration now : Float) : Bool :=
  decide (now + duration < t.finish)

/-- The alpha at a clock value: linear from the start, and stopped at the target in the direction
of travel. A timeline without duration is at its target. -/
def sample (t : Timeline) (target now : Float) : Float :=
  if t.duration ≤ 0 then target
  else
    let rise := target - t.startAlpha
    let alpha := t.startAlpha + rise * (now - t.startTime) / t.duration
    if (0 < rise ∧ target < alpha) ∨ (rise < 0 ∧ alpha < target) then target else alpha

end Timeline

end Scrim

import Scrim.Block
import Scrim.Options
import Scrim.Placement
import Scrim.Request
import Scrim.Timeline

/-!
# The state of a dimmer

A dimmer drives the alpha of one surface toward a target along a timeline, and keeps the surface
placed over its display. Its state holds what it last told the surface; it never asks the surface
back. It holds no handle if the surface could not be had or has been released.
-/

namespace Scrim

/-- A dimmer, by what it knows. -/
structure Dimmer where
  /-- The display that it covers. -/
  display : Float
  /-- The hold on its surface, if it has one. -/
  handle : Option Handle := none
  /-- The alpha last applied. -/
  alpha : Float := 0
  /-- The alpha that it heads for. -/
  target : Float := 0
  /-- The timeline last started. It is stale unless the dimmer is animating. -/
  timeline : Timeline := {}
  /-- The footprint of the last placement. -/
  footprint : Footprint := {}
  /-- Whether the surface was last told to show. -/
  showing : Bool := false
deriving Repr

namespace Dimmer

/-- Whether the dim is on, or heading there. -/
def isDimming (d : Dimmer) : Bool :=
  d.target != 0

/-- Whether a fade is still in progress. -/
def isAnimating (d : Dimmer) : Bool :=
  d.target != d.alpha

/-- Whether a present request starts a new timeline: while animating, if it heads elsewhere or
would arrive strictly earlier; while idle, if it heads away from the alpha in place. -/
def commits (d : Dimmer) (request : PresentRequest) (now : Float) : Bool :=
  if d.isAnimating then
    d.target != request.alpha || d.timeline.outrunBy request.duration now
  else
    d.alpha != request.alpha

/-- What reaching an alpha does to the visibility of the surface: it hides at zero, shows above
zero, and otherwise stays as it is. -/
def visibilityAt (d : Dimmer) (alpha : Float) : Option Bool :=
  if alpha == 0 && d.showing then some false
  else if decide (0 < alpha) && !d.showing then some true
  else none

/-- A dimmer that has lost its surface is at rest at alpha zero. -/
def collapsed (d : Dimmer) : Dimmer :=
  { d with target := 0, alpha := 0 }

/-- A diagnostic block of five lines, each with the given lead, at a clock value. -/
def dump (d : Dimmer) (lead : String) (now : Float) : List String :=
  let n := Number.text
  let name := (d.handle.map Handle.name).getD "null"
  [s!"{lead}surface={name}",
   s!"{lead} layer={n d.footprint.layer} alpha={n d.alpha}",
   s!"{lead}lastWidth={n d.footprint.width} lastHeight={n d.footprint.height}",
   s!"{lead}Last animation: startTime={n d.timeline.startTime} duration={n d.timeline.duration} " ++
     s!"curTime={n now}",
   s!"{lead} startAlpha={n d.timeline.startAlpha} targetAlpha={n d.target}"]

end Dimmer

end Scrim

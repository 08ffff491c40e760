import Scrim.Surface

/-!
# Surfaces as a compositor keeps them

A compositor keeps the whole state of each surface. `Surface.after` is what an accepted primitive
does to it; whether a primitive is accepted is for the compositor to say.
-/

namespace Scrim.Compositor

/-- A surface of a compositor. -/
structure Surface where
  name : String
  /-- The display on whose layer stack the surface is. -/
  display : Float := 0
  x : Float := 0
  y : Float := 0
  width : Float
  height : Float
  layer : Float := 0
  alpha : Float := 1
  visible : Bool
  destroyed : Bool := false
deriving Repr

namespace Surface

/-- A new surface, as it was asked for. -/
def ofRequest (request : SurfaceRequest) : Surface :=
  { name := request.name, width := request.width, height := request.height,
    visible := !request.hidden }

/-- The surface after an accepted primitive. -/
def after (s : Surface) : Primitive → Surface
  | .layerStack display => { s with display }
  | .position x y => { s with x, y }
  | .size width height => { s with width, height }
  | .layer layer => { s with layer }
  | .alpha alpha => { s with alpha }
  | .show => { s with visible := true }
  | .hide => { s with visible := false }
  | .destroy => { s with destroyed := true }

end Surface

end Scrim.Compositor

import Scrim.Number.Whole

/-!
# Covering a display

The surface is half as large again as its display on each axis and is set back by a sixth of its
own extent, which leaves a quarter of the display's size before the display and as much after it. A
rotated frame that shows the surface then has no uncovered corner.
-/

namespace Scrim

/-- The logical size of a display. -/
structure Size where
  width : Float
  height : Float
deriving Repr

/-- Where a surface lies and how far it extends. -/
structure Placement where
  width : Float
  height : Float
  x : Float
  y : Float
deriving Repr

/-- How many times larger than its display a surface is. -/
def oversize : Float := 1.5

namespace Placement

/-- The extent of the surface along an axis of the given logical size. -/
def extent (size : Float) : Float :=
  Number.truncate (size * oversize)

/-- The offset of a surface of the given extent along an axis. -/
def offset (extent : Float) : Float :=
  0 - Number.truncate (extent / 6)

/-- The placement that covers a display. -/
def covering (display : Size) : Placement :=
  let width := extent display.width
  let height := extent display.height
  { width, height, x := offset width, y := offset height }

end Placement

/-- The stacking layer of a surface that has not been given one. -/
def unsetLayer : Float := -1

/-- What identifies the placement of a surface: its extents and its stacking layer. The offsets
follow from the extents. -/
structure Footprint where
  width : Float := 0
  height : Float := 0
  layer : Float := unsetLayer
deriving Repr

/-- Whether two footprints differ in any part. A part that is not a number differs from
everything, and the two zeros are equal. -/
def Footprint.differs (a b : Footprint) : Bool :=
  a.width != b.width || a.height != b.height || a.layer != b.layer

end Scrim

import Scrim.Compositor.Status
import Scrim.Placement

/-!
# The compositor

A compositor in memory that draws to a terminal. Changes are made inside transactions, which nest;
when the outermost one closes after any change, a frame is drawn. A change outside a transaction is
refused, and so is a change of a destroyed surface.

Every surface ever created keeps its place in `surfaces`, so that a number refers to one surface
for good. `live` holds the numbers of those still on the screen, in creation order.
-/

namespace Scrim

/-- A compositor with its displays and surfaces. -/
structure Compositor where
  /-- The displays by their keys, each key once. -/
  displays : List (Float × Size) := []
  style : Compositor.StatusStyle := {}
  surfaces : List Compositor.Surface := []
  live : List Nat := []
  /-- How many transactions are open. -/
  depth : Nat := 0
  /-- Whether anything changed since the last frame. -/
  dirty : Bool := false
deriving Repr

namespace Compositor

/-! ### Displays -/

/-- Whether two numbers are the same key: equal, or both not a number. -/
def sameKey (a b : Float) : Bool :=
  a == b || (a.isNaN && b.isNaN)

/-- The size of a display, if there is one of that key. -/
def display? (c : Compositor) (key : Float) : Option Size :=
  (c.displays.find? fun entry => sameKey entry.1 key).map Prod.snd

/-- Adds or resizes a display. -/
def setDisplay (c : Compositor) (key : Float) (size : Size) : Compositor :=
  { c with displays := (key, size) :: c.displays.filter fun entry => !sameKey entry.1 key }

/-- A compositor without surfaces; of several displays of one key the last counts. -/
def ofDisplays (displays : List (Float × Size)) (style : StatusStyle) : Compositor :=
  displays.foldl (fun c entry => c.setDisplay entry.1 entry.2) { style }

/-! ### Surfaces -/

/-- The surfaces on the screen, in creation order. -/
def liveSurfaces (c : Compositor) : List Surface :=
  c.live.filterMap fun id => c.surfaces[id]?

/-- Why a surface cannot be had, if so. -/
def creationRefusal (request : SurfaceRequest) : Option Failure :=
  if request.width ≤ 0 ∨ request.height ≤ 0 then
    some (.invalidSize request.width request.height request.name)
  else none

/-- The compositor with a new surface on top. -/
def add (c : Compositor) (request : SurfaceRequest) : Compositor :=
  { c with
    surfaces := c.surfaces ++ [.ofRequest request]
    live := c.live ++ [c.surfaces.length] }

/-- Creates a surface; it may be created outside transactions, and nothing is drawn for it. -/
def create (c : Compositor) (request : SurfaceRequest) : Except Failure (Compositor × Nat) :=
  match creationRefusal request with
  | some failure => .error failure
  | none => .ok (c.add request, c.surfaces.length)

/-- Takes a surface off the screen without ending it. -/
def remove (c : Compositor) (id : Nat) : Compositor :=
  { c with live := c.live.erase id }

/-! ### Changes -/

/-- Why a change of a named surface cannot begin, if so. -/
def changeRefusal (c : Compositor) (name : String) : Option Failure :=
  if c.depth = 0 then some (.outsideTransaction name) else none

/-- Notes that a surface is about to change. -/
def beginChange (c : Compositor) (id : Nat) : Except Failure Compositor :=
  match c.surfaces[id]? with
  | none => .error (.emptySlot id)
  | some s =>
    match c.changeRefusal s.name with
    | some failure => .error failure
    | none => .ok { c with dirty := true }

/-- Why primitives on a surface are refused, if they are. That the surface is at its end comes
before that no transaction is open. -/
def refusal (c : Compositor) (id : Nat) : Option Failure :=
  match c.surfaces[id]? with
  | none => some (.emptySlot id)
  | some s => if s.destroyed then some (.destroyed s.name) else c.changeRefusal s.name

/-- The compositor after an accepted primitive. -/
def accept (c : Compositor) (id : Nat) (primitive : Primitive) : Compositor :=
  let c := { c with surfaces := c.surfaces.modify id fun s => s.after primitive, dirty := true }
  match primitive with
  | .destroy => c.remove id
  | _ => c

/-- Carries out a primitive on a surface. -/
def issue (c : Compositor) (id : Nat) (primitive : Primitive) : Except Failure Compositor :=
  match c.refusal id with
  | some failure => .error failure
  | none => .ok (c.accept id primitive)

/-! ### Transactions -/

/-- Opens a transaction. -/
def enter (c : Compositor) : Compositor :=
  { c with depth := c.depth + 1 }

/-- What closing a transaction came to. -/
structure Closing where
  after : Compositor
  lines : List String
  outcome : Except Failure Unit

/-- The compositor with one transaction fewer. -/
def exited (c : Compositor) : Compositor :=
  { c with depth := c.depth - 1 }

/-- Draws a frame. One that fails has drawn the lines before the failing one, and is not drawn
again. -/
def draw (c : Compositor) : Closing :=
  let frame := c.style.frame c.liveSurfaces
  { after := { c with dirty := false }
    lines := frame.lines
    outcome := match frame.failure with
      | none => .ok ()
      | some failure => .error failure }

/-- Closes a transaction. The outermost one draws a frame if anything changed. -/
def leave (c : Compositor) : Closing :=
  if c.depth = 0 then ⟨c, [], .error .nothingToClose⟩
  else if c.depth = 1 ∧ c.dirty = true then c.exited.draw
  else ⟨c.exited, [], .ok ()⟩

/-! ### Depth -/

@[simp] theorem depth_accept (c : Compositor) (id : Nat) (primitive : Primitive) :
    (c.accept id primitive).depth = c.depth := by
  cases primitive <;> rfl

end Compositor

end Scrim

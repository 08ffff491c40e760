import Scrim.Compositor.Surface
import Scrim.Failure
import Scrim.Number.Whole
import Scrim.Palette
import Scrim.Text.Units

/-!
# Status lines

A frame of the compositor is one status line for each live surface. The line of a visible surface
ends in a bar whose filled cells stand for its alpha, and in that alpha as a percentage; a hidden
surface just says so.

Cells are text repeated, and text cannot be repeated a negative or an infinite number of times. An
alpha outside `[0, 1]` can ask for that, and then the line, and with it the rest of the frame,
fails. So does a line that would be longer than a text can be, which is found out before it is
written.
-/

namespace Scrim.Compositor

/-- How status lines look. -/
structure StatusStyle where
  palette : Palette := ⟨false⟩
  /-- The number of cells of a bar. -/
  barWidth : Float := 20
deriving Repr

/-- The greatest length of a text, in units of UTF-16: `2 ^ 29 - 24`. -/
def longestText : Nat := 536870888

/-- How often a cell is repeated when a number asks for it. -/
def cellCount (count : Float) : Except Failure Nat :=
  match Number.count? count with
  | none => .error (.invalidCount count)
  | some n => if n ≤ longestText then .ok n else .error .textTooLong

/-- A bar by its cells: the filled ones, and after them the empty ones. -/
structure Bar where
  full : Nat
  empty : Nat
deriving Repr, DecidableEq

/-- A bar as text. -/
def Bar.render (palette : Palette) (bar : Bar) : String :=
  palette.paint .gray (String.ofList (List.replicate bar.full '█'))
    ++ palette.paint .dim (String.ofList (List.replicate bar.empty '·'))

/-- The length of a bar as text. -/
def Bar.length (palette : Palette) (bar : Bar) : Nat :=
  palette.span .gray bar.full + palette.span .dim bar.empty

/-- The length of a bar is that of its text. -/
theorem units_render (palette : Palette) (bar : Bar) :
    Text.units (bar.render palette) = bar.length palette := by
  have cells (tint : Tint) (n : Nat) (c : Char) (unbroken : c ≠ '\n') (plain : c ≠ '\x1b')
      (narrow : Text.unitsOf c = 1) :
      Text.units (palette.paint tint (String.ofList (List.replicate n c)))
        = palette.span tint n := by
    rw [Palette.units_paint, Text.units_replicate, narrow, Nat.mul_one]
    · simpa using fun _ => unbroken.symm
    · simpa using fun _ => plain.symm
  rw [Bar.render, Text.units_append, cells .gray, cells .dim, Bar.length] <;> decide

/-- A frame as far as it came: its lines, and why it stopped short, if it did. -/
structure Frame where
  lines : List String
  failure : Option Failure

namespace StatusStyle

/-- The number of filled cells at an alpha. -/
def filled (style : StatusStyle) (alpha : Float) : Float :=
  Number.roundHalfUp (alpha * style.barWidth)

/-- The bar at an alpha. The filled cells are coloured before the empty ones are counted. -/
def bar (style : StatusStyle) (alpha : Float) : Except Failure Bar :=
  match cellCount (style.filled alpha) with
  | .error failure => .error failure
  | .ok full =>
    if longestText < style.palette.span .gray full then .error .textTooLong
    else (cellCount (style.barWidth - style.filled alpha)).map fun empty => ⟨full, empty⟩

/-- An alpha as a percentage. -/
def percentage (alpha : Float) : Float :=
  Number.roundHalfUp (alpha * 100)

/-- The part of a status line that every surface has. -/
def head (s : Surface) : String :=
  let n := Number.text
  s!"{s.name} display={n s.display} layer={n s.layer} {n s.width}x{n s.height}@({n s.x},{n s.y})"

/-- The status line of a surface. Only cells can make it too long. -/
def line (style : StatusStyle) (s : Surface) : Except Failure String :=
  let before := head s ++ " "
  if !s.visible then .ok (before ++ style.palette.paint .dim "hidden")
  else
    match style.bar s.alpha with
    | .error failure => .error failure
    | .ok bar =>
      let behind := " " ++ Number.text (percentage s.alpha) ++ "%"
      if longestText < Text.units before + bar.length style.palette + Text.units behind then
        .error .textTooLong
      else .ok (before ++ bar.render style.palette ++ behind)

/-- The status lines of several surfaces, up to the first that fails. -/
def frame (style : StatusStyle) : List Surface → Frame
  | [] => ⟨[], none⟩
  | s :: rest =>
    match style.line s with
    | .error failure => ⟨[], some failure⟩
    | .ok line =>
      let later := style.frame rest
      { later with lines := line :: later.lines }

end StatusStyle

end Scrim.Compositor

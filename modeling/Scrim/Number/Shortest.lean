/-!
# The shortest decimal of a binary number

`Decimal.shortest m q` is the decimal with the fewest digits that reads back as the double
`m · 2 ^ q`, and the nearest of those to it.

A decimal reads back as the double exactly if it lies in the double's `Cell`: the reals that are
nearer to it than to any other double, the two ends belonging to the cell of an even mantissa. The
search tries the grids `10 ^ k` from the coarsest that could meet the cell downwards. On each grid
only the two neighbours of the number can be the nearest hit, so those two are tested, in exact
arithmetic over a common denominator.
-/

namespace Scrim.Number

/-- The number `digits · 10 ^ exponent`. -/
structure Decimal where
  digits : Nat
  exponent : Int
deriving Repr, DecidableEq

/-- A positive double with the ends of its rounding interval, as numerators over `unit`. -/
structure Cell where
  value : Nat
  low : Nat
  high : Nat
  unit : Nat
  /-- Whether the ends themselves round to the double. -/
  closed : Bool

namespace Cell

/-- The cell of `mantissa · 2 ^ exponent`. The gap below the least mantissa of a binade is half
the gap above it, except at the smallest exponent of all. -/
def ofBinary (mantissa : Nat) (exponent : Int) : Cell :=
  let scale := Nat.pow 2 exponent.toNat
  let below := if mantissa = Nat.pow 2 52 ∧ -1074 < exponent then 1 else 2
  { value := 4 * mantissa * scale
    low := (4 * mantissa - below) * scale
    high := (4 * mantissa + 2) * scale
    unit := 4 * Nat.pow 2 (-exponent).toNat
    closed := mantissa % 2 == 0 }

/-- Whether `c · 10 ^ k` lies in the cell. -/
def contains (cell : Cell) (c : Nat) (k : Int) : Bool :=
  let point := c * Nat.pow 10 k.toNat * cell.unit
  let fine := Nat.pow 10 (-k).toNat
  if cell.closed then
    decide (cell.low * fine ≤ point) && decide (point ≤ cell.high * fine)
  else
    decide (cell.low * fine < point) && decide (point < cell.high * fine)

/-- The greatest multiple of `10 ^ k` that is not above the number. -/
def floorOn (cell : Cell) (k : Int) : Nat :=
  cell.value * Nat.pow 10 (-k).toNat / (cell.unit * Nat.pow 10 k.toNat)

/-- Of the multiples `c` and `c + 1` of `10 ^ k` around the number, the nearer one; halfway
between them, the even one. -/
def nearer (cell : Cell) (c : Nat) (k : Int) : Nat :=
  let twice := 2 * cell.value * Nat.pow 10 (-k).toNat
  let middle := (2 * c + 1) * Nat.pow 10 k.toNat * cell.unit
  if twice < middle then c
  else if middle < twice then c + 1
  else if c % 2 = 0 then c else c + 1

/-- The hit on the grid `10 ^ k`, if the grid meets the cell. -/
def hit? (cell : Cell) (k : Int) : Option Nat :=
  let c := cell.floorOn k
  match cell.contains c k, cell.contains (c + 1) k with
  | true, true => some (cell.nearer c k)
  | true, false => some c
  | false, true => some (c + 1)
  | false, false => none

/-- Searches the grids `10 ^ k`, `10 ^ (k - 1)`, … for the first that meets the cell. -/
def search (cell : Cell) : Nat → Int → Decimal
  | 0, k => ⟨cell.floorOn k, k⟩
  | grids + 1, k =>
    match cell.hit? k with
    | some c => ⟨c, k⟩
    | none => cell.search grids (k - 1)

end Cell

/-- The same number without trailing zeros among its digits. -/
def Decimal.normal (d : Decimal) : Decimal :=
  if d.digits ≠ 0 ∧ d.digits % 10 = 0 then Decimal.normal ⟨d.digits / 10, d.exponent + 1⟩ else d
termination_by d.digits
decreasing_by omega

/-- The shortest decimal that reads back as `mantissa · 2 ^ exponent`. The number is below
`2 ^ b` for `b = log2 mantissa + 1 + exponent`, and `30103 / 100000` is just above `log10 2`, so
the search starts at most two grids above the leading digit; seventeen digits always suffice. -/
def Decimal.shortest (mantissa : Nat) (exponent : Int) : Decimal :=
  let bits : Int := mantissa.log2 + 1 + exponent
  ((Cell.ofBinary mantissa exponent).search 20 ((bits * 30103).fdiv 100000 + 1)).normal

end Scrim.Number

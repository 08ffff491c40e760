/-!
# Whole numbers among doubles

All quantities of the library are IEEE doubles. This module holds what concerns their whole part:
cutting the fraction off (`truncate`), rounding a half upwards (`roundHalfUp`), telling whole
numbers from others (`isWhole`), and reading a double as a number of repetitions (`count?`).

Each function opens the double into sign, mantissa and exponent and works on exact natural numbers,
so no intermediate result is ever rounded.
-/

namespace Scrim.Number

open Float.Model (UnpackedFloat)

/-- The whole part of `mantissa · 2 ^ exponent`. -/
def wholePart (mantissa : Nat) (exponent : Int) : Nat :=
  if 0 ≤ exponent then mantissa * Nat.pow 2 exponent.toNat
  else mantissa / Nat.pow 2 (-exponent).toNat

/-- A magnitude below `2 ^ 53` under a sign. Zero keeps the sign, so a negative number that
shrinks to nothing becomes negative zero. -/
def signed (sign : UnpackedFloat.Sign) (magnitude : Nat) : Float :=
  match sign with
  | .positive => magnitude.toUInt64.toFloat
  | .negative => -magnitude.toUInt64.toFloat

/-- The number without its fraction, that is, rounded toward zero. A double whose exponent is not
negative has no fraction and is returned as it is. -/
def truncate (x : Float) : Float :=
  match x.toModel.unpack with
  | .finite sign m e _ => if 0 ≤ e then x else signed sign (wholePart m e)
  | _ => x

/-- The nearest whole number; of two equally near ones the greater. A number in `[-0.5, 0)`
rounds to negative zero. -/
def roundHalfUp (x : Float) : Float :=
  match x.toModel.unpack with
  | .finite sign m e _ =>
    if 0 ≤ e then x
    else
      let one := Nat.pow 2 (-e).toNat
      match sign with
      | .positive => signed .positive ((2 * m + one) / (2 * one))
      | .negative => signed .negative ((2 * m + one - 1) / (2 * one))
  | _ => x

/-- Whether the number is finite and has no fraction. -/
def isWhole (x : Float) : Bool :=
  x.isFinite && truncate x == x

/-- The number of repetitions that `x` asks for: its fraction does not count, and a quantity that
is not a number asks for none. There is no such number below zero and at infinity. -/
def count? (x : Float) : Option Nat :=
  match x.toModel.unpack with
  | .notANumber => some 0
  | .zero _ => some 0
  | .infinity _ => none
  | .finite .positive m e _ => some (wholePart m e)
  | .finite .negative m e _ => if wholePart m e = 0 then some 0 else none

end Scrim.Number

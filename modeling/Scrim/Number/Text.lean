import Scrim.Number.Shortest

/-!
# Numbers in text

`text x` is how a double appears in log messages, dumps and status lines: its shortest decimal,
written positionally in the middle range and with an exponent outside it, as `Layout.standard`
says. Zero is written without a sign.
-/

namespace Scrim.Number

open Float.Model (UnpackedFloat)

/-- Where positional writing starts and ends. The *point* of a decimal is the number of digits
before its decimal point; it is negative when zeros follow the point first. -/
structure Layout where
  /-- Positional writing needs a point above this. -/
  lowest : Int
  /-- Positional writing needs a point up to this. -/
  highest : Int

/-- Positional from a millionth up to twenty-one digits before the point. -/
def Layout.standard : Layout := ⟨-6, 21⟩

/-- The digits of a decimal, laid out. An exponent always shows its sign, and the digits before it
have a point only if there are several. -/
def Decimal.render (layout : Layout) (d : Decimal) : String :=
  let digits := (Nat.toDigits 10 d.digits)
  let point : Int := digits.length + d.exponent
  if layout.lowest < point ∧ point ≤ layout.highest then
    if point ≤ 0 then
      "0." ++ String.ofList (List.replicate (-point).toNat '0' ++ digits)
    else if digits.length ≤ point then
      String.ofList (digits ++ List.replicate (point - digits.length).toNat '0')
    else
      String.ofList (digits.take point.toNat) ++ "." ++ String.ofList (digits.drop point.toNat)
  else
    let power := point - 1
    let fraction := if digits.length = 1 then "" else "." ++ String.ofList (digits.drop 1)
    let sign := if power < 0 then "-" else "+"
    String.ofList (digits.take 1) ++ fraction ++ "e" ++ sign ++ toString power.natAbs

/-- How a number appears in text. -/
def text (x : Float) : String :=
  match x.toModel.unpack with
  | .notANumber => "NaN"
  | .infinity .positive => "Infinity"
  | .infinity .negative => "-Infinity"
  | .zero _ => "0"
  | .finite .positive m e _ => (Decimal.shortest m e).render .standard
  | .finite .negative m e _ => "-" ++ (Decimal.shortest m e).render .standard

end Scrim.Number

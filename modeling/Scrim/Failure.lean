import Scrim.Contract
import Scrim.Surface

/-!
# Failures

Every way in which a call can fail, by cause. `Failure.value` is the failure as a value that can be
reported, and `Failure.message` its text. A failure by which a caller raised a value that cannot be
written out has no text, and asking for it is a failure of its own.
-/

namespace Scrim

/-- Why a call failed. -/
inductive Failure
  /-- Arguments were outside their contract. -/
  | invalidRequest (issues : List Issue)
  /-- A recorded surface was told to refuse this kind of primitive. -/
  | refused (kind : Primitive.Kind)
  /-- A surface could not be allocated. -/
  | allocation
  /-- A surface was asked for with an extent that is not positive. -/
  | invalidSize (width height : Float) (name : String)
  /-- A transaction was closed while none was open. -/
  | nothingToClose
  /-- A surface was changed while no transaction was open. -/
  | outsideTransaction (name : String)
  /-- A surface was changed after its end. -/
  | destroyed (name : String)
  /-- A text was to be repeated a negative or infinite number of times. -/
  | invalidCount (count : Float)
  /-- A text was to be repeated more often than the longest text allows. -/
  | textTooLong
  /-- No surface stands in this slot. -/
  | emptySlot (slot : Nat)
  /-- No dimmer has this number. -/
  | noSuchDimmer (index : Nat)
  /-- A value that cannot be written out was to be. -/
  | notDescribable
  /-- A caller's own code raised a value. -/
  | raised (value : Value)
deriving Inhabited

namespace Failure

/-- The failure as a value to be reported. -/
def value : Failure → Value
  | .invalidRequest issues =>
    .error .general ("Invalid dim request: " ++ "; ".intercalate (issues.map Issue.text))
  | .refused kind => .error .general (kind.name ++ " rejected")
  | .allocation => .error .general "surface allocation failed"
  | .invalidSize width height name =>
    .error .general
      ("Invalid surface size " ++ Number.text width ++ "x" ++ Number.text height ++ " for " ++ name)
  | .nothingToClose => .error .general "transaction_close called with no open transaction"
  | .outsideTransaction name =>
    .error .general ("Surface " ++ name ++ " mutated outside a transaction")
  | .destroyed name => .error .general ("Surface " ++ name ++ " already destroyed")
  | .invalidCount count => .error .range ("Invalid count value: " ++ Number.text count)
  | .textTooLong => .error .range "Invalid string length"
  | .emptySlot slot => .error .general ("No surface in slot " ++ toString slot)
  | .noSuchDimmer index => .error .general ("No dimmer " ++ toString index)
  | .notDescribable => .error .type "Cannot convert object to primitive value"
  | .raised value => value

end Failure

/-- What a value says when it is the cause of a failure, or the failure to say it. -/
def Value.message (value : Value) : Except Failure String :=
  match value.message? with
  | some message => .ok message
  | none => .error .notDescribable

namespace Failure

/-- The text of a failure, or the failure to tell it. -/
def message (failure : Failure) : Except Failure String :=
  failure.value.message

/-- Why a failure cannot be told, if it cannot. -/
def untold (failure : Failure) : Option Failure :=
  match failure.message with
  | .ok _ => none
  | .error reason => some reason

end Failure

end Scrim

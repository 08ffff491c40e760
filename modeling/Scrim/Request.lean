import Scrim.Failure
import Scrim.Number.Whole

/-!
# Requests

The arguments of presenting and dismissing a dim, checked before anything else happens. A layer is
a whole number, an alpha lies in `[0, 1]`, and a duration is a whole number of milliseconds that is
not negative. An accepted argument is passed on unchanged.
-/

namespace Scrim

namespace Request

/-- The rule of stacking layers. -/
def layerRules : List (Rule Float) :=
  [⟨Number.isWhole, "layer must be an integer"⟩]

/-- The rules of alphas. -/
def alphaRules : List (Rule Float) :=
  [⟨Float.isFinite, "targetAlpha must be finite"⟩,
   ⟨fun x => !decide (x < 0), "targetAlpha must be within [0, 1]"⟩,
   ⟨fun x => !decide (1 < x), "targetAlpha must be within [0, 1]"⟩]

/-- The rules of durations. -/
def durationRules : List (Rule Float) :=
  [⟨Float.isFinite, "durationMs must be finite"⟩,
   ⟨Number.isWhole, "durationMs must be an integer"⟩,
   ⟨fun x => !decide (x < 0), "durationMs must be >= 0"⟩]

end Request

/-- A request to dim: at this layer, to this alpha, over this many milliseconds. -/
structure PresentRequest where
  layer : Float
  alpha : Float
  duration : Float
deriving Repr

/-- A request to end the dim over this many milliseconds. -/
structure DismissRequest where
  duration : Float
deriving Repr

open Contract Request

/-- Checks the arguments of a present request. -/
def PresentRequest.check (layer alpha duration : Value) : Except Failure PresentRequest :=
  match number layerRules layer, number alphaRules alpha, number durationRules duration with
  | .ok layer, .ok alpha, .ok duration => .ok { layer, alpha, duration }
  | layer, alpha, duration =>
    .error (.invalidRequest
      (issues "layer" layer ++ issues "targetAlpha" alpha ++ issues "durationMs" duration))

/-- Checks the argument of a dismiss request. -/
def DismissRequest.check (duration : Value) : Except Failure DismissRequest :=
  match number durationRules duration with
  | .ok duration => .ok { duration }
  | duration => .error (.invalidRequest (issues "durationMs" duration))

end Scrim

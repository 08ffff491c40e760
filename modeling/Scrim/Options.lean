import Scrim.Contract
import Scrim.Number.Whole
import Scrim.Text.Blank

/-!
# Options

The options of a dimmer are resolved from three layers: an explicit override stands before the
environment, and the environment before the default. A blank variable counts as unset. A flag
variable that is not blank has to be one of eight spellings; a malformed one is reported before
the merged options are checked against their contract.
-/

namespace Scrim

/-- The options of a dimmer. -/
structure Options where
  /-- Whether the console logger keeps debug lines. -/
  debug : Bool := false
  /-- Whether every primitive is announced before it is issued. -/
  surfaceTrace : Bool := false
  /-- Whether the creation of the surface is announced. -/
  showTransactions : Bool := false
  /-- The name of the surface. -/
  surfaceName : String := "DimSurface"
  /-- The extent of the surface on both axes until it is first placed. -/
  initialSize : Float := 16
deriving Repr

namespace Options

/-- The options that are on or off. -/
inductive Flag
  | debug
  | surfaceTrace
  | showTransactions
deriving Repr, DecidableEq

namespace Flag

/-- Every flag, in the order in which they are reported. -/
def all : List Flag := [.debug, .surfaceTrace, .showTransactions]

/-- The variable that sets a flag. -/
def variableName : Flag → String
  | .debug => "DIMMER_DEBUG"
  | .surfaceTrace => "DIMMER_SURFACE_TRACE"
  | .showTransactions => "DIMMER_SHOW_TRANSACTIONS"

/-- The spellings of a flag that is on. -/
def onSpellings : List String := ["1", "true", "yes", "on"]

/-- The spellings of a flag that is off. -/
def offSpellings : List String := ["0", "false", "no", "off"]

/-- Reads a flag, whatever the blanks around it and the case of its letters. The spellings have
ASCII letters only, so lowering those is enough. -/
def parse? (raw : String) : Option Bool :=
  let spelling := (Text.trim raw).toLower
  if spelling ∈ onSpellings then some true
  else if spelling ∈ offSpellings then some false
  else none

end Flag

/-- The variable that names the surface. -/
def surfaceNameVariable : String := "DIMMER_SURFACE_NAME"

/-- The environment, as far as it concerns the options. -/
structure Environment where
  debug : Option String := none
  surfaceTrace : Option String := none
  showTransactions : Option String := none
  surfaceName : Option String := none
deriving Repr

namespace Environment

/-- The environment in which variables are looked up this way. -/
def ofLookup (get : String → Option String) : Environment where
  debug := get Flag.debug.variableName
  surfaceTrace := get Flag.surfaceTrace.variableName
  showTransactions := get Flag.showTransactions.variableName
  surfaceName := get surfaceNameVariable

/-- The raw text of the variable of a flag. -/
def raw (env : Environment) : Flag → Option String
  | .debug => env.debug
  | .surfaceTrace => env.surfaceTrace
  | .showTransactions => env.showTransactions

/-- The variable of a flag, unless it is unset or blank. -/
def given? (env : Environment) (flag : Flag) : Option String :=
  (env.raw flag).filter fun raw => !Text.isBlankText raw

/-- What the environment says of a flag: nothing, a value, or something malformed. -/
def flag? (env : Environment) (flag : Flag) : Option Bool :=
  (env.given? flag).bind Flag.parse?

/-- The complaints about malformed flag variables, quoting their raw text. -/
def complaints (env : Environment) : List String :=
  Flag.all.filterMap fun flag =>
    match env.given? flag with
    | none => none
    | some raw =>
      match Flag.parse? raw with
      | some _ => none
      | none => some (flag.variableName ++ " must be a boolean flag, got \"" ++ raw ++ "\"")

/-- The name of the surface that the environment gives, without the blanks around it. -/
def name? (env : Environment) : Option String :=
  (env.surfaceName.filter fun raw => !Text.isBlankText raw).map Text.trim

end Environment

/-- Explicit options, not yet checked; an absent one is not overridden. -/
structure Overrides where
  debug : Value := .absent
  surfaceTrace : Value := .absent
  showTransactions : Value := .absent
  surfaceName : Value := .absent
  initialSize : Value := .absent

/-- The override, if there is one, else the value of the layer below. -/
def layered (override below : Value) : Value :=
  if override.isAbsent then below else override

/-- A flag from its override, the environment or its default. -/
def layeredFlag (override : Value) (env : Option Bool) (fallback : Bool) : Value :=
  layered override (.flag (env.getD fallback))

/-- The rule of surface names. -/
def nameRules : List (Rule String) :=
  [⟨fun s => s != "", "surfaceName must be non-empty"⟩]

/-- The rules of initial sizes. -/
def sizeRules : List (Rule Float) :=
  [⟨Number.isWhole, "Expected integer, received float"⟩,
   ⟨fun x => !decide (x ≤ 0), "initialSize must be > 0"⟩]

open Contract

/-- Checks merged options against their contract; the issues come in field order. -/
def check (merged : Overrides) : Except (List Issue) Options :=
  match flag merged.debug, flag merged.surfaceTrace, flag merged.showTransactions,
      text nameRules merged.surfaceName, number sizeRules merged.initialSize with
  | .ok debug, .ok surfaceTrace, .ok showTransactions, .ok surfaceName, .ok initialSize =>
    .ok { debug, surfaceTrace, showTransactions, surfaceName, initialSize }
  | debug, surfaceTrace, showTransactions, surfaceName, initialSize =>
    .error (issues "debug" debug ++ issues "surfaceTrace" surfaceTrace
      ++ issues "showTransactions" showTransactions ++ issues "surfaceName" surfaceName
      ++ issues "initialSize" initialSize)

/-- The three layers merged, field by field. -/
def merge (overrides : Overrides) (env : Environment) : Overrides :=
  let default : Options := {}
  { debug := layeredFlag overrides.debug (env.flag? .debug) default.debug
    surfaceTrace :=
      layeredFlag overrides.surfaceTrace (env.flag? .surfaceTrace) default.surfaceTrace
    showTransactions :=
      layeredFlag overrides.showTransactions (env.flag? .showTransactions) default.showTransactions
    surfaceName := layered overrides.surfaceName (.text (env.name?.getD default.surfaceName))
    initialSize := layered overrides.initialSize (.number default.initialSize) }

/-- Resolves the options from overrides and environment, or lists what is wrong with them. -/
def resolve (overrides : Overrides) (env : Environment) : Except (List String) Options :=
  match env.complaints with
  | [] =>
    match check (merge overrides env) with
    | .ok options => .ok options
    | .error issues => .error (issues.map Issue.text)
  | complaints => .error complaints

end Options

end Scrim

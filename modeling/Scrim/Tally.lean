import Scrim.Script

/-!
# Counting transactions

A stage that does nothing but count how often transactions were opened and closed, and scopes
nested on it to a given depth.
-/

namespace Scrim

/-- How often transactions were opened and closed. -/
structure Tally where
  opens : Nat := 0
  closes : Nat := 0
deriving Repr, DecidableEq

namespace Tally

/-- How many transactions are open. -/
def depth (t : Tally) : Int :=
  t.opens - t.closes

/-- The only action looks at the tally; a scope answers with the value it returns. -/
instance : Stage Tally Unit Value where
  act _ t := { after := t, outcome := .ok .absent }
  enter t := ({ t with opens := t.opens + 1 }, [.opened])
  leave t := { after := { t with closes := t.closes + 1 }, outcome := .ok (), reports := [.closed] }
  returned := id

/-- Scopes nested inside one another, each of which looks at the tally first and ends in the same
way. -/
def nest (ending : Except Value Value) : Nat → List (Script Unit)
  | 0 => []
  | depth + 1 => [.scope (.action () false :: nest ending depth) ending false]

mutual

/-- The depths seen by the actions of a step, outermost first. -/
def depthsSeen : Entry Tally Value → List Int
  | .action reply => [reply.after.depth]
  | .scope _ inner _ => depthsSeenIn inner

/-- The depths seen by the actions of several steps. -/
def depthsSeenIn : List (Entry Tally Value) → List Int
  | [] => []
  | entry :: rest => depthsSeen entry ++ depthsSeenIn rest

end

/-- What nested scopes come to on a fresh tally. -/
structure Nested where
  outcome : Except Failure Value
  during : List Int
  tally : Tally

/-- Runs scopes nested to a depth. At depth zero there is only the ending. -/
def runNested (depth : Nat) (ending : Except Value Value) : Nested :=
  let ended : BodyEnd Tally Value := Script.runBody (nest ending depth) {}
  let outcome :=
    match ended.entries.getLast? with
    | some entry => entry.reply.outcome
    | none => Script.conclude id (.ok ()) none ending
  { outcome, during := depthsSeenIn ended.entries, tally := ended.after }

end Tally

end Scrim

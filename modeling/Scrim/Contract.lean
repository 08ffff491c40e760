import Scrim.Value

/-!
# Contracts on untyped fields

A checked entry point states for each field a kind and a list of rules. A field of the wrong kind
raises one issue that names the kinds; a field of the right kind raises one issue for every rule
it breaks, in the order of the rules. Issues of several fields are collected in field order, so a
refusal always lists all that is wrong.
-/

namespace Scrim

/-- Something wrong with one field. -/
structure Issue where
  field : String
  complaint : String
deriving Repr, DecidableEq

/-- An issue as it is reported. -/
def Issue.text (issue : Issue) : String :=
  "[" ++ issue.field ++ "] " ++ issue.complaint

/-- A condition on the values of a field, and what is said of a value that breaks it. -/
structure Rule (α : Type) where
  admits : α → Bool
  complaint : String

/-- The complaints of the rules that a value breaks. -/
def Rule.complaints {α : Type} (rules : List (Rule α)) (x : α) : List String :=
  (rules.filter fun rule => !rule.admits x).map Rule.complaint

namespace Contract

/-- The complaint about a value of the wrong kind; an absent one is just required. -/
def mistyped (expected : String) (value : Value) : String :=
  if value.isAbsent then "Required" else "Expected " ++ expected ++ ", received " ++ value.kind

/-- A value against the rules of its field. -/
def judge {α : Type} (rules : List (Rule α)) (x : α) : Except (List String) α :=
  match Rule.complaints rules x with
  | [] => .ok x
  | complaints => .error complaints

/-- A field that holds a number. -/
def number (rules : List (Rule Float)) : Value → Except (List String) Float
  | .number x => if x.isNaN then .error [mistyped "number" (.number x)] else judge rules x
  | value => .error [mistyped "number" value]

/-- A field that holds a flag. -/
def flag : Value → Except (List String) Bool
  | .flag b => .ok b
  | value => .error [mistyped "boolean" value]

/-- A field that holds a text. -/
def text (rules : List (Rule String)) : Value → Except (List String) String
  | .text s => judge rules s
  | value => .error [mistyped "string" value]

/-- The issues of a checked field. -/
def issues {α : Type} (field : String) : Except (List String) α → List Issue
  | .ok _ => []
  | .error complaints => complaints.map (Issue.mk field)

end Contract

end Scrim

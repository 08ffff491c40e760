import Scrim.Number.Text

/-!
# Values

The library's checked entry points take arguments of any kind and refuse the wrong ones, and a
caller's own code may raise anything at all. `Value` is such untyped data: what stands at the
boundary before it has been checked, or passes through unchecked.

`Value.message?` is the text that a value contributes when it is reported as the cause of a failure.
Not every value has one, since a record can claim its description for itself.
-/

namespace Scrim

/-- The class of an error value. -/
inductive ErrorClass
  | general
  | type
  | range
deriving Repr, DecidableEq

/-- The name by which an error class is reported. -/
def ErrorClass.name : ErrorClass → String
  | .general => "Error"
  | .type => "TypeError"
  | .range => "RangeError"

/-- The kinds of values that the library can only name: things to be called, identities, and
objects other than plain records. -/
inductive ForeignKind
  | function
  | symbol
  | bigint
  | date
  | map
  | set
  | promise
  | object
deriving Repr, DecidableEq

/-- The name of a foreign kind in complaints. -/
def ForeignKind.name : ForeignKind → String
  | .function => "function"
  | .symbol => "symbol"
  | .bigint => "bigint"
  | .date => "date"
  | .map => "map"
  | .set => "set"
  | .promise => "promise"
  | .object => "object"

/-- Untyped data. `absent` stands for an argument or entry that was not given. The entries of a
record are plain data; an object with entries to be called is foreign, and so is all that the
library does not know otherwise. What a foreign value says when it is written out is its own
affair, and it may refuse to say anything. -/
inductive Value
  | absent
  | null
  | flag (b : Bool)
  | number (x : Float)
  | text (s : String)
  | list (items : List Value)
  | record (fields : List (String × Value))
  | error (cls : ErrorClass) (message : String)
  | foreign (foreignKind : ForeignKind) (description : Option String)
deriving Inhabited

namespace Value

/-- The kind of a value, as named in complaints about mistyped arguments. A number that is not a
number is of a kind of its own. -/
def kind : Value → String
  | .absent => "undefined"
  | .null => "null"
  | .flag _ => "boolean"
  | .number x => if x.isNaN then "nan" else "number"
  | .text _ => "string"
  | .list _ => "array"
  | .record _ => "object"
  | .error .. => "object"
  | .foreign foreignKind _ => foreignKind.name

/-- Whether nothing was given. -/
def isAbsent : Value → Bool
  | .absent => true
  | _ => false

/-- The name of the entry that would describe its record. An entry is data and describes nothing, so
a record that has one of this name cannot be written out. -/
def describer : String := "toString"

mutual

/-- A value written out, if that is possible. A list is its entries joined by commas; a record shows
no entries. -/
def describe? : Value → Option String
  | .absent => some "undefined"
  | .null => some "null"
  | .flag b => some (if b then "true" else "false")
  | .number x => some (Number.text x)
  | .text s => some s
  | .list items => (describeEntries? items).map fun entries => ",".intercalate entries
  | .record fields =>
    if fields.any fun field => field.1 == describer then none else some "[object Object]"
  | .error cls message => some (if message = "" then cls.name else cls.name ++ ": " ++ message)
  | .foreign _ description => description

/-- The entries of a list written out, if each of them can be; one that is null or absent leaves
its place empty. A symbol is written out by itself but never as an entry. -/
def describeEntries? : List Value → Option (List String)
  | [] => some []
  | .absent :: rest => (describeEntries? rest).map fun entries => "" :: entries
  | .null :: rest => (describeEntries? rest).map fun entries => "" :: entries
  | .foreign .symbol _ :: _ => none
  | item :: rest =>
    match item.describe? with
    | none => none
    | some entry => (describeEntries? rest).map fun entries => entry :: entries

end

/-- What a value says when it is the cause of a failure: an error its message, anything else
itself, if it can be written out. -/
def message? : Value → Option String
  | .error _ message => some message
  | value => value.describe?

end Value

end Scrim

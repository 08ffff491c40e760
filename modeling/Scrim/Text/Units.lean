/-!
# The length of text

The length of a text is counted in units of UTF-16: a character beyond the sixteen-bit range takes
two of them, any other one.
-/

namespace Scrim.Text

/-- The units that a character takes. -/
def unitsOf (c : Char) : Nat :=
  if c.toNat < 0x10000 then 1 else 2

/-- The length of a text in units. -/
def units (s : String) : Nat :=
  s.toList.foldr (fun c rest => unitsOf c + rest) 0

/-- Lengths add up when texts are joined. -/
theorem units_append (s t : String) : units (s ++ t) = units s + units t := by
  unfold units
  rw [String.toList_append]
  induction s.toList with
  | nil => simp
  | cons c rest ih =>
    rw [List.cons_append, List.foldr_cons, List.foldr_cons, ih, Nat.add_assoc]

/-- Only the empty text has no length. -/
theorem units_eq_zero_iff {s : String} : units s = 0 ↔ s = "" := by
  constructor
  · intro none
    cases chars : s.toList with
    | nil => exact String.toList_eq_nil_iff.1 chars
    | cons c rest => simp [units, chars, unitsOf] at none; grind
  · rintro rfl
    rfl

/-- A character repeated takes its units as often. -/
theorem units_replicate (n : Nat) (c : Char) :
    units (String.ofList (List.replicate n c)) = n * unitsOf c := by
  unfold units
  rw [String.toList_ofList]
  induction n with
  | zero => simp
  | succ n ih => rw [List.replicate_succ, List.foldr_cons, ih, Nat.succ_mul, Nat.add_comm]

end Scrim.Text

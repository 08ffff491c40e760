import Scrim.Proofs.Number.Binary

/-!
# The order of doubles

`toRat` is the place of a double on the line. Apart from what is not a number, which compares with
nothing, doubles compare as their places do, the two zeros being one place.
-/

open Float.Model (Format UnpackedFloat)
open Float.Model.UnpackedFloat

namespace Scrim.Number

/-- Where a double lies on the line. -/
def toRat (x : Float) : ℚ :=
  place x.toModel.unpack

/-! ### Comparisons -/

theorem le_iff_compare (x y : Float) :
    x ≤ y ↔ (x.toModel.unpack.compare y.toModel.unpack).any (·.isLE) = true :=
  decide_eq_true_iff

theorem lt_iff_compare (x y : Float) :
    x < y ↔ x.toModel.unpack.compare y.toModel.unpack = some .lt := by
  refine decide_eq_true_iff.trans ?_
  exact beq_iff_eq

theorem beq_iff_compare (x y : Float) :
    (x == y) = true ↔ x.toModel.unpack.compare y.toModel.unpack = some .eq := by
  change (x.toModel.unpack.compare y.toModel.unpack == some .eq) = true ↔ _
  exact beq_iff_eq

theorem compare_toModel {x y : Float} (hx : x.isNaN = false) (hy : y.isNaN = false) :
    x.toModel.unpack.compare y.toModel.unpack = some (compare (toRat x) (toRat y)) :=
  compare_eq (canonical_unpack _) (canonical_unpack _) hx hy

theorem le_iff {x y : Float} (hx : x.isNaN = false) (hy : y.isNaN = false) :
    x ≤ y ↔ toRat x ≤ toRat y := by
  rw [le_iff_compare, compare_toModel hx hy, Option.any_some]
  rw [Ordering.isLE_iff_ne_gt]
  exact compare_le_iff_le

theorem lt_iff {x y : Float} (hx : x.isNaN = false) (hy : y.isNaN = false) :
    x < y ↔ toRat x < toRat y := by
  rw [lt_iff_compare, compare_toModel hx hy, Option.some.injEq]
  exact compare_lt_iff_lt

theorem beq_iff {x y : Float} (hx : x.isNaN = false) (hy : y.isNaN = false) :
    (x == y) = true ↔ toRat x = toRat y := by
  rw [beq_iff_compare, compare_toModel hx hy, Option.some.injEq]
  exact compare_eq_iff_eq

/-! ### What is not a number compares with nothing -/

theorem compare_notANumber_left (u : UnpackedFloat) : UnpackedFloat.compare .notANumber u = none :=
  rfl

theorem compare_notANumber_right (u : UnpackedFloat) :
    u.compare .notANumber = none := by
  cases u <;> rfl

theorem unpack_of_isNaN {x : Float} (h : x.isNaN = true) : x.toModel.unpack = .notANumber := by
  change x.toModel.unpack.isNaN = true at h
  generalize x.toModel.unpack = u at h
  cases u with
  | notANumber => rfl
  | infinity s => exact Bool.noConfusion h
  | zero s => exact Bool.noConfusion h
  | finite s m e hm => exact Bool.noConfusion h

/-- Numbers of which something is known by comparison are numbers. -/
theorem isNaN_of_compare {x y : Float} {o : Ordering}
    (h : x.toModel.unpack.compare y.toModel.unpack = some o) :
    x.isNaN = false ∧ y.isNaN = false := by
  refine ⟨?_, ?_⟩
  · by_contra h_nan
    -- what is not a number compares with nothing, on either side
    rw [unpack_of_isNaN (Bool.eq_true_of_not_eq_false h_nan), compare_notANumber_left] at h
    exact absurd h (by simp)
  · by_contra h_nan
    rw [unpack_of_isNaN (Bool.eq_true_of_not_eq_false h_nan), compare_notANumber_right] at h
    exact absurd h (by simp)

theorem isNaN_of_le {x y : Float} (h : x ≤ y) : x.isNaN = false ∧ y.isNaN = false := by
  rw [le_iff_compare, Option.any_eq_true] at h
  obtain ⟨o, h_compare, -⟩ := h
  exact isNaN_of_compare h_compare

theorem isNaN_of_lt {x y : Float} (h : x < y) : x.isNaN = false ∧ y.isNaN = false :=
  isNaN_of_compare ((lt_iff_compare x y).mp h)

theorem isNaN_of_beq {x y : Float} (h : (x == y) = true) : x.isNaN = false ∧ y.isNaN = false :=
  isNaN_of_compare ((beq_iff_compare x y).mp h)

theorem toRat_le_of_le {x y : Float} (h : x ≤ y) : toRat x ≤ toRat y :=
  (le_iff (isNaN_of_le h).1 (isNaN_of_le h).2).mp h

theorem toRat_lt_of_lt {x y : Float} (h : x < y) : toRat x < toRat y :=
  (lt_iff (isNaN_of_lt h).1 (isNaN_of_lt h).2).mp h

theorem toRat_eq_of_beq {x y : Float} (h : (x == y) = true) : toRat x = toRat y :=
  (beq_iff (isNaN_of_beq h).1 (isNaN_of_beq h).2).mp h

/-! ### Finite numbers -/

/-- A finite double lies short of the limit on both sides, and only a finite one does. -/
theorem isFinite_iff {x : Float} (hx : x.isNaN = false) :
    x.isFinite = true ↔ -limit < toRat x ∧ toRat x < limit :=
  isFinite_iff_place (canonical_unpack _) hx

theorem isNaN_of_isFinite {x : Float} (h : x.isFinite = true) : x.isNaN = false := by
  change x.toModel.unpack.isFinite = true at h
  change x.toModel.unpack.isNaN = false
  generalize x.toModel.unpack = u at h ⊢
  cases h using finite_cases with
  | zero s => rfl
  | finite s m e hm => rfl

/-- A number between finite ones is finite. -/
theorem isFinite_of_le_of_le {x y z : Float} (hx : x.isFinite = true) (hz : z.isFinite = true)
    (h₁ : x ≤ y) (h₂ : y ≤ z) : y.isFinite = true := by
  have h_x := ((isFinite_iff (isNaN_of_isFinite hx)).mp hx).1
  have h_z := ((isFinite_iff (isNaN_of_isFinite hz)).mp hz).2
  -- it lies short of the limit, as the numbers around it do
  exact (isFinite_iff (isNaN_of_le h₁).2).mpr
    ⟨h_x.trans_le (toRat_le_of_le h₁), (toRat_le_of_le h₂).trans_lt h_z⟩

@[simp] theorem toRat_zero : toRat 0 = 0 := by
  decide +kernel

end Scrim.Number

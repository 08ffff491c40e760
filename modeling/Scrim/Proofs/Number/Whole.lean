import Mathlib.Algebra.Order.Floor.Semifield
import Scrim.Number.Whole
import Scrim.Proofs.Number.Laws
import Scrim.Proofs.Number.Precision

/-!
# Whole numbers among doubles

A double is opened into sign, mantissa and exponent to tell whether it is whole, to cut its fraction
off, or to round it. Seen from its place on the line, a number is whole if the place is an integer
(`isWhole_iff`): either it has no digits behind the point at all, or it equals its whole part, which
divides the mantissa by a power of two. Of a number that is not negative, cutting the fraction off
leaves the floor of its place (`lies_truncate`), and rounding leads to the floor of its place and a
half (`lies_roundHalfUp`).
-/

open Float.Model (UnpackedFloat)
open Float.Model.UnpackedFloat

namespace Scrim.Number

variable {x w : Float}

/-! ### Whole numbers -/

/-- A magnitude of up to fifty-three bits is a double. -/
theorem lies_signed_positive {n : ℕ} (h : n ≤ 2 ^ 53) :
    Lies (signed .positive n).toModel.unpack n := by
  have h_lies : Lies (signed .positive n).toModel.unpack
      (round ((n.toUInt64.toNat : ℤ) * 2 ^ (0 : ℤ))) :=
    lies_normalize n.toUInt64.toNat 0 .positive
  -- the magnitude passes through a machine word, which it fits
  have h_small : n.toUInt64.toNat = n := Nat.mod_eq_of_lt (h.trans_lt (by norm_num))
  rwa [h_small, zpow_zero, mul_one, Int.cast_natCast, round_natCast h] at h_lies

theorem lies_neg {u : UnpackedFloat} {q : ℚ} (h : Lies u q) : Lies u.neg (-q) := by
  refine ⟨?_, ?_⟩
  · have h_num := h.isNaN_eq
    cases u with
    | notANumber => exact Bool.noConfusion h_num
    | infinity s | zero s | finite s m e hm => rfl
  · rw [place_neg, h.place_eq]

/-- A magnitude of up to fifty-three bits is a double under either sign. -/
theorem lies_signed (s : Sign) {n : ℕ} (h : n ≤ 2 ^ 53) :
    Lies (signed s n).toModel.unpack (side s n) := by
  have h_positive := lies_signed_positive h
  cases s with
  | positive => exact h_positive
  | negative =>
    change Lies (Float.Model.pack (signed .positive n).toModel.unpack.neg).unpack (-n)
    rw [unpack_pack (canonical_neg (canonical_unpack _))]
    exact lies_neg h_positive

theorem exists_intCast_side (s : Sign) (n : ℤ) : ∃ k : ℤ, side s n = k := by
  cases s
  · exact ⟨-n, (Int.cast_neg n).symm⟩
  · exact ⟨n, rfl⟩

theorem exists_intCast_of_side {s : Sign} {q : ℚ} {n : ℤ} (h : side s q = n) :
    ∃ k : ℤ, q = k := by
  cases s
  · exact ⟨-n, by rw [Int.cast_neg, ← h, side_negative, neg_neg]⟩
  · exact ⟨n, h⟩

/-- With an exponent that is not negative, a mantissa stands for a natural number. -/
theorem mul_two_zpow_of_nonneg (m : ℕ) {e : ℤ} (h : 0 ≤ e) :
    (m * 2 ^ e : ℚ) = (m * 2 ^ e.toNat : ℕ) := by
  push_cast
  rw [← zpow_natCast, Int.toNat_of_nonneg h]

/-- With a negative one, it stands for a fraction. -/
theorem mul_two_zpow_of_neg (m : ℕ) {e : ℤ} (h : ¬0 ≤ e) :
    (m * 2 ^ e : ℚ) = m / (2 ^ (-e).toNat : ℕ) := by
  have h_exp : e = -((-e).toNat : ℤ) := by omega
  push_cast
  rw [div_eq_mul_inv, ← zpow_natCast, ← zpow_neg, ← h_exp]

/-- A finite number has no fraction, or it is a mantissa divided by a power of two, and its whole
part is the quotient without the remainder. -/
theorem truncate_cases (hx : x.isFinite = true) :
    ((∃ n : ℤ, toRat x = n) ∧ truncate x = x) ∨
      ∃ (s : Sign) (m k : ℕ), toRat x = side s (m / 2 ^ k) ∧
        Lies (truncate x).toModel.unpack (side s (m / 2 ^ k : ℕ)) := by
  have h_canonical := canonical_unpack x.toModel
  have h_place : toRat x = place x.toModel.unpack := rfl
  unfold truncate
  change x.toModel.unpack.isFinite = true at hx
  generalize x.toModel.unpack = u at hx h_canonical h_place ⊢
  cases hx using finite_cases with
  | zero s => exact Or.inl ⟨⟨0, by rw [h_place]; rfl⟩, rfl⟩
  | finite s m e hm =>
    dsimp only
    split
    · next h_e =>
      -- no digits stand behind the point, and nothing is cut off
      refine Or.inl ⟨?_, rfl⟩
      rw [h_place, place, mul_two_zpow_of_nonneg m h_e]
      exact exists_intCast_side s _
    · next h_e =>
      refine Or.inr ⟨s, m, (-e).toNat, ?_, ?_⟩
      · rw [h_place, place, mul_two_zpow_of_neg m h_e, Nat.cast_pow, Nat.cast_ofNat]
      · -- what is left of the mantissa still fits
        have h_small : m / 2 ^ (-e).toNat ≤ 2 ^ 53 :=
          (Nat.div_le_self ..).trans h_canonical.digits.le
        rw [wholePart, if_neg h_e]
        exact lies_signed s h_small

/-- **A double is whole if it is an integer.** -/
theorem isWhole_iff : isWhole x = true ↔ x.isFinite = true ∧ ∃ n : ℤ, toRat x = n := by
  unfold isWhole
  rw [Bool.and_eq_true_iff]
  refine and_congr_right fun hx => ?_
  have hx_num := isNaN_of_isFinite hx
  rcases truncate_cases hx with ⟨h_int, h_same⟩ | ⟨s, m, k, h_rat, h_cut⟩
  · rw [h_same]
    exact iff_of_true (Number.beq_refl hx_num) h_int
  · rw [beq_iff h_cut.isNaN_eq hx_num, toRat_of_lies h_cut, h_rat]
    refine ⟨fun h_eq => ?_, fun ⟨n, h_n⟩ => ?_⟩
    · rw [← h_eq]
      exact exists_intCast_side s (m / 2 ^ k : ℕ)
    · -- an integer mantissa over a power of two leaves no remainder
      obtain ⟨q, h_q⟩ := exists_intCast_of_side h_n
      have h_pow : (2 : ℚ) ^ k ≠ 0 := by positivity
      have h_mul : (m : ℤ) = q * 2 ^ k := by
        rw [div_eq_iff h_pow] at h_q
        exact_mod_cast h_q
      have h_dvd : 2 ^ k ∣ m := by
        have h_int : ((2 ^ k : ℕ) : ℤ) ∣ m := ⟨q, by rw [h_mul, mul_comm]; push_cast; rfl⟩
        exact Int.natCast_dvd_natCast.mp h_int
      rw [Nat.cast_div_charZero h_dvd, Nat.cast_pow, Nat.cast_ofNat]

/-- What fits into fifty-three bits is finite. -/
theorem isFinite_of_abs_le {q : ℚ} (h : Lies x.toModel.unpack q) (hq : |q| ≤ 2 ^ 53) :
    x.isFinite = true :=
  isFinite_of_lies h (lt_limit_of_le hq)

theorem isFinite_of_natCast {n : ℕ} (h : Lies x.toModel.unpack n) (hn : n ≤ 2 ^ 53) :
    x.isFinite = true := by
  refine isFinite_of_abs_le h ?_
  rw [Nat.abs_cast]
  exact_mod_cast hn

/-- An integer that fits makes a whole number. -/
theorem isWhole_of_intCast {n : ℤ} (h : Lies x.toModel.unpack n) (hn : |n| ≤ 2 ^ 53) :
    isWhole x = true :=
  isWhole_iff.mpr ⟨isFinite_of_abs_le h (by exact_mod_cast hn), n, toRat_of_lies h⟩

/-- A finite number that is not negative is a zero, or has a positive sign. -/
theorem finite_nonneg_cases (hx : x.isFinite = true) (h : 0 ≤ x) :
    ((∃ s, x.toModel.unpack = .zero s) ∧ toRat x = 0) ∨
      ∃ m e hm, x.toModel.unpack = .finite .positive m e hm ∧ Fits m e ∧ toRat x = m * 2 ^ e := by
  have h_rat := toRat_nonneg h
  have h_canonical := canonical_unpack x.toModel
  have h_place : toRat x = place x.toModel.unpack := rfl
  change x.toModel.unpack.isFinite = true at hx
  generalize x.toModel.unpack = u at hx h_canonical h_place ⊢
  cases hx using finite_cases with
  | zero s => exact Or.inl ⟨⟨s, rfl⟩, h_place⟩
  | finite s m e hm =>
    rw [h_place] at h_rat ⊢
    cases s with
    | positive => exact Or.inr ⟨m, e, hm, rfl, h_canonical, rfl⟩
    | negative =>
      -- a negative sign would put it below zero
      have h_pos : (0 : ℚ) < m * 2 ^ e := by positivity
      exact absurd h_rat (not_le.mpr (neg_neg_of_pos h_pos))

/-- What is whole and not negative is a natural number. -/
theorem exists_natCast_of_isWhole (h : isWhole x = true) (h_nonneg : 0 ≤ x) :
    ∃ n : ℕ, toRat x = n := by
  obtain ⟨-, n, h_n⟩ := isWhole_iff.mp h
  have h_rat := toRat_nonneg h_nonneg
  rw [h_n, Int.cast_nonneg_iff] at h_rat
  obtain ⟨k, rfl⟩ := Int.eq_ofNat_of_zero_le h_rat
  exact ⟨k, h_n⟩

/-! ### Whole parts -/

/-- The whole part of a mantissa at an exponent is the floor of what it stands for. -/
theorem wholePart_eq_floor (m : ℕ) (e : ℤ) : wholePart m e = ⌊(m * 2 ^ e : ℚ)⌋₊ := by
  unfold wholePart
  split
  · next h_e =>
    rw [mul_two_zpow_of_nonneg m h_e, Nat.floor_natCast]
    rfl
  · next h_e =>
    rw [mul_two_zpow_of_neg m h_e, Nat.floor_div_eq_div]
    rfl

/-- A number that is not negative loses its fraction. -/
theorem lies_truncate (hx_fin : x.isFinite = true) (hx : 0 ≤ x) :
    Lies (truncate x).toModel.unpack ⌊toRat x⌋₊ := by
  have h_num := isNaN_of_isFinite hx_fin
  unfold truncate
  rcases finite_nonneg_cases hx_fin hx with
    ⟨⟨s, h_zero⟩, h_rat⟩ | ⟨m, e, hm, h_unpack, h_fits, h_rat⟩
  · rw [h_zero, h_rat, Nat.floor_zero, Nat.cast_zero]
    exact ⟨h_num, h_rat⟩
  · rw [h_unpack]
    dsimp only
    split
    · next h_e =>
      rw [mul_two_zpow_of_nonneg m h_e] at h_rat
      rw [h_rat, Nat.floor_natCast]
      exact ⟨h_num, h_rat⟩
    · next h_e =>
      -- digits are cut off, and what is left of fifty-three bits is written as a double exactly
      have h_small : wholePart m e ≤ 2 ^ 53 := by
        rw [wholePart, if_neg h_e]
        exact (Nat.div_le_self ..).trans h_fits.digits.le
      rw [h_rat, ← wholePart_eq_floor]
      exact lies_signed_positive h_small

/-- A number that is not negative is rounded to the whole part of a half more. -/
theorem lies_roundHalfUp (hx_fin : x.isFinite = true) (hx : 0 ≤ x) :
    Lies (roundHalfUp x).toModel.unpack ⌊toRat x + 1 / 2⌋₊ := by
  have h_num := isNaN_of_isFinite hx_fin
  unfold roundHalfUp
  rcases finite_nonneg_cases hx_fin hx with
    ⟨⟨s, h_zero⟩, h_rat⟩ | ⟨m, e, hm, h_unpack, h_fits, h_rat⟩
  · have h_none : ⌊(0 + 1 / 2 : ℚ)⌋₊ = 0 := by norm_num
    rw [h_zero, h_rat, h_none, Nat.cast_zero]
    exact ⟨h_num, h_rat⟩
  · rw [h_unpack]
    dsimp only
    split
    · next h_e =>
      rw [mul_two_zpow_of_nonneg m h_e] at h_rat
      -- a half more does not lead to the next whole number
      have h_same : ⌊((m * 2 ^ e.toNat : ℕ) + 1 / 2 : ℚ)⌋₊ = m * 2 ^ e.toNat := by
        rw [add_comm, Nat.floor_add_natCast (by norm_num)]
        norm_num
      rw [h_rat, h_same]
      exact ⟨h_num, h_rat⟩
    · next h_e =>
      rw [mul_two_zpow_of_neg m h_e] at h_rat
      change Lies (signed .positive
        ((2 * m + 2 ^ (-e).toNat) / (2 * 2 ^ (-e).toNat))).toModel.unpack _
      have h_pos : 0 < 2 ^ (-e).toNat := by positivity
      generalize 2 ^ (-e).toNat = one at h_rat h_pos ⊢
      -- in units of the last digit, the number is `m` and a half is half of `one`
      have h_units : (m / one + 1 / 2 : ℚ) = (2 * m + one : ℕ) / (2 * one : ℕ) := by
        push_cast
        field_simp
      -- nothing is lost when the rounded magnitude is written as a double
      have h_small : (2 * m + one) / (2 * one) ≤ 2 ^ 53 := by
        have h_digits := h_fits.digits
        rw [Nat.div_le_iff_le_mul_add_pred (by omega)]
        nlinarith
      rw [h_rat, h_units, Nat.floor_div_eq_div]
      exact lies_signed_positive h_small

/-- A number that is not negative asks for as many repetitions as its whole part is. -/
theorem count?_eq_floor (hx_fin : x.isFinite = true) (hx : 0 ≤ x) :
    count? x = some ⌊toRat x⌋₊ := by
  unfold count?
  rcases finite_nonneg_cases hx_fin hx with ⟨⟨s, h_zero⟩, h_rat⟩ | ⟨m, e, hm, h_unpack, -, h_rat⟩
  · rw [h_zero, h_rat, Nat.floor_zero]
  · rw [h_unpack, h_rat]
    exact congrArg some (wholePart_eq_floor m e)

end Scrim.Number

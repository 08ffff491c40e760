import Scrim.Proofs.Number.Order

/-!
# Rounding as it is computed

A mantissa that has lost digits keeps two bits on what it lost. `Keeps` says which rationals such a
mantissa may stand for, and shifting keeps them (`Keeps.shiftRight`). So the mantissa that is
rounded to even at last is the nearest whole number of what was meant at first, and
`lies_roundWithAccuracy` concludes that the computed double is the nearest double.
-/

open Float.Model (Format UnpackedFloat totalExponent)
open Float.Model.UnpackedFloat

namespace Scrim.Number

/-! ### Lost digits -/

/-- The rational `q` is what a mantissa with its two bits stands for. -/
def Keeps (em : ExtendedMantissa) (q : ℚ) : Prop :=
  match em with
  | ⟨m, false, false⟩ => q = m
  | ⟨m, false, true⟩ => m < q ∧ q < m + 1 / 2
  | ⟨m, true, false⟩ => q = m + 1 / 2
  | ⟨m, true, true⟩ => m + 1 / 2 < q ∧ q < m + 1

/-- What is kept is at least the mantissa and below the next. -/
theorem Keeps.bounds {em : ExtendedMantissa} {q : ℚ} (h : Keeps em q) :
    (em.mantissa : ℚ) ≤ q ∧ q < em.mantissa + 1 := by
  obtain ⟨m, r, s⟩ := em
  cases r <;> cases s
  · -- nothing was lost
    obtain rfl : q = m := h
    constructor <;> dsimp only <;> linarith
  · -- less than a half was lost
    obtain ⟨h₁, h₂⟩ : (m : ℚ) < q ∧ q < m + 1 / 2 := h
    constructor <;> dsimp only <;> linarith
  · -- a half was lost
    obtain rfl : q = m + 1 / 2 := h
    constructor <;> dsimp only <;> linarith
  · -- more than a half was lost
    obtain ⟨h₁, h₂⟩ : (m : ℚ) + 1 / 2 < q ∧ q < m + 1 := h
    constructor <;> dsimp only <;> linarith

theorem Keeps.floor {em : ExtendedMantissa} {q : ℚ} (h : Keeps em q) :
    ⌊q⌋ = (em.mantissa : ℤ) := by
  rw [Int.floor_eq_iff]
  exact_mod_cast h.bounds

/-- Rounding the mantissa by its bits gives the nearest whole number. -/
theorem Keeps.roundedMantissa {em : ExtendedMantissa} {q : ℚ} (h : Keeps em q) :
    (em.roundedMantissa : ℤ) = nearestWhole q := by
  have h_floor := h.floor
  obtain ⟨m, r, s⟩ := em
  unfold nearestWhole
  rw [h_floor]
  cases r <;> cases s
  · obtain rfl : q = m := h
    rw [if_pos (by norm_num)]
    rfl
  · obtain ⟨h₁, h₂⟩ : (m : ℚ) < q ∧ q < m + 1 / 2 := h
    rw [if_pos (by push_cast; linarith)]
    rfl
  · -- the tie, which both break toward the even mantissa
    obtain rfl : q = m + 1 / 2 := h
    rw [if_neg (by push_cast; linarith), if_neg (by push_cast; linarith)]
    rfl
  · obtain ⟨h₁, h₂⟩ : (m : ℚ) + 1 / 2 < q ∧ q < m + 1 := h
    rw [if_neg (by push_cast; linarith), if_pos (by push_cast; linarith)]
    rfl

/-- A shift by one digit halves what is kept. -/
theorem Keeps.shiftRightOne {em : ExtendedMantissa} {q : ℚ} (h : Keeps em q) :
    Keeps em.shiftRightOne (q / 2) := by
  obtain ⟨m, r, s⟩ := em
  -- the last digit becomes the first bit, and the bits there were become the second
  rcases Nat.even_or_odd' m with ⟨k, rfl | rfl⟩
  · have h_half : 2 * k / 2 = k := by omega
    have h_bit : (2 * k % 2 != 0) = false := by simp
    cases r <;> cases s <;>
      simp only [Keeps, ExtendedMantissa.shiftRightOne, h_half, h_bit, Bool.or_false, Bool.or_true,
        Bool.or_self] at h ⊢ <;>
      push_cast at h
    · linarith
    all_goals constructor <;> linarith
  · have h_half : (2 * k + 1) / 2 = k := by omega
    have h_bit : ((2 * k + 1) % 2 != 0) = true := by simp
    cases r <;> cases s <;>
      simp only [Keeps, ExtendedMantissa.shiftRightOne, h_half, h_bit, Bool.or_false, Bool.or_true,
        Bool.or_self] at h ⊢ <;>
      push_cast at h
    · linarith
    all_goals constructor <;> linarith

theorem Keeps.shiftRight {em : ExtendedMantissa} {q : ℚ} (h : Keeps em q) (n : ℕ) :
    Keeps (em >>> n) (q / 2 ^ n) := by
  change Keeps (n.repeat ExtendedMantissa.shiftRightOne em) (q / 2 ^ n)
  -- digit by digit, as the mantissa is shifted
  induction n with
  | zero =>
    rw [pow_zero, div_one]
    exact h
  | succ n ih =>
    have h_next := ih.shiftRightOne
    rwa [div_div, ← pow_succ] at h_next

/-! ### The exponent -/

/-- The format's exponent of a mantissa, by its digits. -/
theorem targetExponent_eq (m : ℕ) (e : ℤ) :
    Format.binary64.targetExponent (totalExponent m e) = max ((m.log2 : ℤ) + e - 52) (-1074) := by
  change max ((m.log2 : ℤ) + 1 + e - 53) (-1074) = _
  omega

/-- The format's exponent of a mantissa that has enough digits is the grid of what is meant. -/
theorem targetExponent_eq_grid {m : ℕ} {e : ℤ} {acc : Accuracy} {q : ℚ} (hq : 0 < q)
    (h_keeps : Keeps (.ofMantissaAndAccuracy m acc) (q / 2 ^ e))
    (h_enough : e ≤ Format.binary64.targetExponent (totalExponent m e)) :
    Format.binary64.targetExponent (totalExponent m e) = grid q := by
  have h_mantissa : (ExtendedMantissa.ofMantissaAndAccuracy m acc).mantissa = m := by
    cases acc with
    | exact => rfl
    | inexact o => cases o <;> rfl
  obtain ⟨h_le, h_lt⟩ := h_keeps.bounds
  rw [h_mantissa] at h_le h_lt
  rw [le_div_iff₀ (by positivity)] at h_le
  rw [div_lt_iff₀ (by positivity)] at h_lt
  rw [targetExponent_eq] at h_enough ⊢
  rcases Nat.eq_zero_or_pos m with rfl | hm
  · -- without digits the number is far below the finest grid
    have h_e : e ≤ -1074 := by
      rw [Nat.log2_zero] at h_enough
      omega
    have h_small : q < 2 ^ (-1021 : ℤ) := by
      calc q < 2 ^ e := by simpa using h_lt
        _ ≤ 2 ^ (-1021 : ℤ) := zpow_le_zpow_right₀ (by norm_num) (by omega)
    rw [grid_eq_of_lt hq h_small, Nat.log2_zero]
    omega
  · -- what was lost does not reach the next binade
    have h_low : ((2 ^ m.log2 : ℕ) : ℚ) ≤ m := by exact_mod_cast Nat.log2_self_le hm.ne'
    have h_high : ((m : ℚ) + 1) ≤ (2 ^ (m.log2 + 1) : ℕ) := by exact_mod_cast Nat.lt_log2_self
    have h_binade_low : (2 : ℚ) ^ ((m.log2 : ℤ) + e) ≤ q := by
      refine le_trans ?_ h_le
      rw [zpow_add₀ (by norm_num), zpow_natCast]
      push_cast at h_low
      exact mul_le_mul_of_nonneg_right h_low (by positivity)
    have h_binade_high : q < (2 : ℚ) ^ ((m.log2 : ℤ) + e + 1) := by
      refine h_lt.trans_le ?_
      rw [show (m.log2 : ℤ) + e + 1 = ((m.log2 + 1 : ℕ) : ℤ) + e by push_cast; ring,
        zpow_add₀ (by norm_num), zpow_natCast]
      push_cast at h_high
      exact mul_le_mul_of_nonneg_right h_high (by positivity)
    rw [grid_eq_of_mem_binade h_binade_low h_binade_high]

/-! ### The rounded number -/

/-- The unpacked number `u` is a number, and lies at `q`. -/
structure Lies (u : UnpackedFloat) (q : ℚ) : Prop where
  isNaN_eq : u.isNaN = false
  place_eq : place u = q

/-- A number that is on the grid when it is packed, is stopped at the limit. -/
theorem lies_pack_finite (s : Sign) {m : ℕ} {e : ℤ} (hm : 0 < m) (h_digits : m < 2 ^ 53)
    (h_low : -1074 ≤ e) (h_full : 2 ^ 52 ≤ m ∨ e = -1074) :
    Lies (Float.Model.pack (.finite s m e hm)).unpack (side s (min (m * 2 ^ e) limit)) := by
  by_cases h_high : e ≤ 971
  · have h_fits : Fits m e := ⟨h_digits, h_low, h_high, h_full⟩
    rw [unpack_pack (u := .finite s m e hm) h_fits, min_eq_left (h_fits.bounds hm).2.le]
    exact ⟨rfl, rfl⟩
  · -- the mantissa is full, so the number is beyond the limit
    have h_over : 971 < e := not_le.mp h_high
    have h_m : ((2 ^ 52 : ℤ) : ℚ) ≤ m := by
      exact_mod_cast h_full.resolve_right (by omega)
    have h_limit : limit ≤ m * 2 ^ e := by
      calc limit ≤ 2 ^ (((52 : ℕ) : ℤ) + e) := zpow_le_zpow_right₀ (by norm_num) (by omega)
        _ = (2 ^ 52 : ℤ) * 2 ^ e := two_zpow_add 52 e
        _ ≤ m * 2 ^ e := mul_le_mul_of_nonneg_right h_m (by positivity)
    rw [unpack_pack_of_overflow s hm h_over, min_eq_right h_limit]
    exact ⟨rfl, rfl⟩

/-- A mantissa of at most fifty-three digits is not shifted again. -/
theorem shiftToTargetExponent_of_lt {n : ℕ} {t : ℤ} (hn : n < 2 ^ 53) (ht : -1074 ≤ t) :
    shiftToTargetExponent Format.binary64 n t .exact = (⟨n, false, false⟩, t) := by
  have h_log : n.log2 ≤ 52 := by
    rcases Nat.eq_zero_or_pos n with rfl | hn_pos
    · decide
    · have := (Nat.log2_lt hn_pos.ne').mpr hn
      omega
  have h_target : Format.binary64.targetExponent (totalExponent n t) ≤ t := by
    rw [targetExponent_eq]
    omega
  -- the difference is cut off at zero, so nothing is shifted
  have h_shift : (Format.binary64.targetExponent (totalExponent n t) - t).toNat = 0 := by omega
  unfold shiftToTargetExponent shiftToExponent
  simp only [h_shift]
  rw [Nat.cast_zero, add_zero]
  rfl

/-- A mantissa that rounding has carried over to the next power of two is shifted once more. -/
theorem shiftToTargetExponent_carry {t : ℤ} (ht : -1074 ≤ t) :
    shiftToTargetExponent Format.binary64 (2 ^ 53) t .exact = (⟨2 ^ 52, false, false⟩, t + 1) := by
  have h_target : Format.binary64.targetExponent (totalExponent (2 ^ 53) t) = t + 1 := by
    have h_log : Nat.log2 (2 ^ 53) = 53 := Nat.log2_two_pow
    rw [targetExponent_eq, h_log]
    omega
  have h_shift : (t + 1 - t).toNat = 1 := by omega
  unfold shiftToTargetExponent shiftToExponent
  simp only [h_target, h_shift]
  rfl

/-- **The computed rounding is rounding to the nearest double.** -/
theorem lies_roundWithAccuracy (s : Sign) {m : ℕ} {e : ℤ} {acc : Accuracy} {q : ℚ} (hq : 0 < q)
    (h_keeps : Keeps (.ofMantissaAndAccuracy m acc) (q / 2 ^ e))
    (h_enough : e ≤ Format.binary64.targetExponent (totalExponent m e)) :
    Lies (Float.Model.pack (roundWithAccuracy Format.binary64 s m e acc)).unpack
      (side s (round q)) := by
  have h_target := targetExponent_eq_grid hq h_keeps h_enough
  rw [h_target] at h_enough
  -- the first shift brings the mantissa onto the grid
  obtain ⟨k, hk⟩ := Int.le.dest h_enough
  have h_first : shiftToTargetExponent Format.binary64 m e acc
      = (ExtendedMantissa.ofMantissaAndAccuracy m acc >>> k, grid q) := by
    have h_count : (e + k - e).toNat = k := by omega
    unfold shiftToTargetExponent shiftToExponent
    simp only [h_target, ← hk, h_count]
  have h_shifted : Keeps (ExtendedMantissa.ofMantissaAndAccuracy m acc >>> k) (q / 2 ^ grid q) := by
    have h := h_keeps.shiftRight k
    rwa [div_div, ← zpow_natCast (2 : ℚ) k, ← zpow_add₀ (by norm_num), hk] at h
  -- there its bits tell the nearest point
  have h_rounded := h_shifted.roundedMantissa
  unfold roundWithAccuracy
  rw [h_first]
  dsimp only
  generalize (ExtendedMantissa.ofMantissaAndAccuracy m acc >>> k).roundedMantissa = n
    at h_rounded ⊢
  have h_low := neg_1074_le_grid q
  have h_value : (n * 2 ^ grid q : ℚ) = onGrid q := by
    rw [onGrid, ← h_rounded, Int.cast_natCast]
  have h_full : 2 ^ 52 ≤ n ∨ grid q = -1074 := by
    rcases h_low.lt_or_eq with h_coarse | h_fine
    · have := le_nearestWhole_grid hq h_coarse
      exact Or.inl (by omega)
    · exact Or.inr h_fine.symm
  -- the point has at most fifty-three digits, or is the power of two behind them
  have h_carry := nearestWhole_grid_le q
  rw [round_of_nonneg hq.le, ← h_value]
  rcases (show n < 2 ^ 53 ∨ n = 2 ^ 53 by omega) with h_digits | rfl
  · rw [shiftToTargetExponent_of_lt h_digits h_low]
    dsimp only
    split_ifs with h_zero
    · -- everything was lost
      rw [unpack_pack (u := .zero s) trivial, h_zero, Nat.cast_zero, zero_mul,
        min_eq_left limit_pos.le, side_zero]
      exact ⟨rfl, rfl⟩
    · exact lies_pack_finite s _ h_digits h_low h_full
  · -- rounding has carried over, and the second shift takes the digit back
    rw [shiftToTargetExponent_carry h_low]
    dsimp only
    rw [dif_neg (by norm_num)]
    have h_same : (((2 ^ 53 : ℕ) : ℚ) * 2 ^ grid q) = ((2 ^ 52 : ℕ) : ℚ) * 2 ^ (grid q + 1) := by
      rw [zpow_add₀ (by norm_num)]
      push_cast
      ring
    rw [h_same]
    exact lies_pack_finite s _ (by norm_num) (by omega) (Or.inl le_rfl)

end Scrim.Number

import Scrim.Proofs.Number.Rounded

/-!
# The arithmetic of doubles

Each operation on finite doubles is the exact operation on their places followed by one rounding:
`lies_add`, `lies_sub`, `lies_mul` and `lies_div` say so of unpacked numbers. The operations first
line the exponents up without losing a digit, so the exact result is never in doubt, and leave what
remains to the rounding of `lies_roundWithAccuracy`.
-/

open Float.Model (Format UnpackedFloat totalExponent)
open Float.Model.UnpackedFloat

namespace Scrim.Number

/-! ### Exact values -/

/-- Digits added at the end are taken back by the exponent. -/
theorem shiftLeft_mul_two_zpow (m : ℕ) (e : ℤ) (k : ℕ) :
    ((m <<< k : ℕ) : ℚ) * 2 ^ (e - k) = m * 2 ^ e := by
  rw [Nat.shiftLeft_eq, zpow_sub₀ (by norm_num), zpow_natCast]
  push_cast
  rw [mul_assoc, mul_div_cancel₀ _ (by positivity)]

theorem log2_shiftLeft {m : ℕ} (hm : 0 < m) (k : ℕ) : (m <<< k).log2 = m.log2 + k := by
  have h_low := Nat.log2_self_le hm.ne'
  have h_high : m < 2 ^ (m.log2 + 1) := Nat.lt_log2_self
  have h_pos : 0 < 2 ^ k := by positivity
  rw [Nat.shiftLeft_eq, Nat.log2_eq_iff (Nat.mul_pos hm h_pos).ne']
  refine ⟨?_, ?_⟩
  · rw [pow_add]
    exact Nat.mul_le_mul_right _ h_low
  · rw [show m.log2 + k + 1 = m.log2 + 1 + k by omega, pow_add]
    exact Nat.mul_lt_mul_of_pos_right h_high h_pos

theorem round_side (s : Sign) (q : ℚ) : round (side s q) = side s (round q) := by
  cases s
  · exact round_neg q
  · rfl

/-- A number of at most fifty-three digits, none too fine or too great, is its own rounding. -/
theorem round_of_digits {m : ℕ} {e : ℤ} (h_digits : m < 2 ^ 53) (h_low : -1074 ≤ e)
    (h_high : e ≤ 971) : round (m * 2 ^ e) = m * 2 ^ e := by
  rw [round_of_nonneg (by positivity), onGrid_eq_self h_digits h_low]
  exact min_eq_left (finite_lt_limit h_digits h_high).le

/-- A number as the format holds it is its own rounding. -/
theorem round_eq_self {m : ℕ} {e : ℤ} (h : Fits m e) : round (m * 2 ^ e) = m * 2 ^ e :=
  round_of_digits h.digits h.low h.high

/-- Natural numbers of up to fifty-three bits are doubles. -/
theorem round_natCast {m : ℕ} (h : m ≤ 2 ^ 53) : round (m : ℚ) = m := by
  rcases h.lt_or_eq with h_lt | rfl
  · have h_self := round_of_digits h_lt (show -1074 ≤ (0 : ℤ) by norm_num) (by norm_num)
    rwa [zpow_zero, mul_one] at h_self
  · -- the bound itself has one bit
    have h_self := round_of_digits (show 1 < 2 ^ 53 by norm_num)
      (show -1074 ≤ (53 : ℤ) by norm_num) (by norm_num)
    rw [Nat.cast_one, one_mul] at h_self
    exact_mod_cast h_self

/-- And so are integers. -/
theorem round_intCast {n : ℤ} (h : |n| ≤ 2 ^ 53) : round (n : ℚ) = n := by
  obtain ⟨m, rfl | rfl⟩ := n.eq_nat_or_neg
  · rw [Int.cast_natCast]
    exact round_natCast (by simpa using h)
  · rw [Int.cast_neg, Int.cast_natCast, round_neg, round_natCast (by simpa using h)]

theorem round_place {u : UnpackedFloat} (hu : Canonical u) (h_fin : u.isFinite = true) :
    round (place u) = place u := by
  cases h_fin using finite_cases with
  | zero s => exact round_zero
  | finite s m e hm => rw [place, round_side, round_eq_self hu]

/-- What packing keeps lies where it lay. -/
theorem lies_pack {u : UnpackedFloat} (hu : Canonical u) (h_num : u.isNaN = false) {q : ℚ}
    (hq : place u = q) : Lies (Float.Model.pack u).unpack q := by
  rw [unpack_pack hu]
  exact ⟨h_num, hq⟩

/-! ### Rounding from any exponent -/

theorem lies_round (s : Sign) {m : ℕ} (e : ℤ) (hm : 0 < m) :
    Lies (Float.Model.pack (UnpackedFloat.round Format.binary64 s m e)).unpack
      (side s (round (m * 2 ^ e))) := by
  have h_target := targetExponent_eq m e
  unfold UnpackedFloat.round decreaseExponent
  dsimp only
  rw [h_target]
  generalize hk : (e - max ((m.log2 : ℤ) + e - 52) (-1074)).toNat = k
  have h_keeps :
      Keeps (.ofMantissaAndAccuracy (m <<< k) .exact) (m * 2 ^ e / 2 ^ (e - (k : ℤ))) := by
    change (m * 2 ^ e / 2 ^ (e - (k : ℤ)) : ℚ) = (m <<< k : ℕ)
    rw [← shiftLeft_mul_two_zpow m e k]
    exact mul_div_cancel_right₀ _ (by positivity)
  refine lies_roundWithAccuracy s (by positivity) h_keeps ?_
  -- digits and exponent move together, so the format asks for the same exponent as before
  rw [targetExponent_eq, log2_shiftLeft hm]
  push_cast
  omega

/-- A signed mantissa at any exponent, normalized. -/
theorem lies_normalize (n : ℤ) (e : ℤ) (z : Sign) :
    Lies (Float.Model.pack (UnpackedFloat.normalize Format.binary64 n e z)).unpack
      (round (n * 2 ^ e)) := by
  unfold UnpackedFloat.normalize
  rcases lt_trichotomy n 0 with h_neg | rfl | h_pos
  · -- the sign is taken off before rounding and put on again
    obtain ⟨m, rfl⟩ := Int.exists_eq_neg_ofNat h_neg.le
    have hm : 0 < m := by omega
    have h_lies := lies_round .negative e hm
    rw [compare_lt_iff_lt.mpr h_neg]
    simp only [neg_neg, Int.toNat_natCast]
    rwa [← round_side, side, ← neg_mul, ← Int.cast_natCast, ← Int.cast_neg] at h_lies
  · rw [compare_eq_iff_eq.mpr rfl]
    refine lies_pack (u := .zero z) trivial rfl ?_
    rw [Int.cast_zero, zero_mul, round_zero]
    rfl
  · obtain ⟨m, rfl⟩ := Int.eq_ofNat_of_zero_le h_pos.le
    have hm : 0 < m := by omega
    have h_lies := lies_round .positive e hm
    rw [compare_gt_iff_gt.mpr h_pos]
    simp only [Int.toNat_natCast]
    rwa [← round_side, side, ← Int.cast_natCast] at h_lies

/-! ### Sums and differences -/

/-- A signed mantissa, with its exponent brought down to a smaller one. -/
theorem apply_shiftLeft_mul_two_zpow (s : Sign) (m : ℕ) {e t : ℤ} (h : t ≤ e) :
    ((s.apply (m <<< (e - t).toNat : ℕ) : ℤ) : ℚ) * 2 ^ t = side s (m * 2 ^ e) := by
  have h_down : e - ((e - t).toNat : ℤ) = t := by omega
  have h_value := shiftLeft_mul_two_zpow m e (e - t).toNat
  rw [h_down] at h_value
  cases s
  · rw [side, ← h_value, Sign.apply, Int.cast_neg, Int.cast_natCast, neg_mul]
  · rw [side, ← h_value, Sign.apply, Int.cast_natCast]

/-- The sum of finite numbers is their exact sum, rounded. -/
theorem lies_add {u v : UnpackedFloat} (hu : Canonical u) (hv : Canonical v)
    (hu_fin : u.isFinite = true) (hv_fin : v.isFinite = true) :
    Lies (Float.Model.pack (UnpackedFloat.add Format.binary64 u v)).unpack
      (round (place u + place v)) := by
  cases hu_fin using finite_cases with
  | zero s =>
    rw [show place (.zero s) = 0 from rfl, zero_add, round_place hv hv_fin]
    cases hv_fin using finite_cases with
    | zero s' => cases s <;> cases s' <;> exact lies_pack (u := .zero _) trivial rfl rfl
    | finite s' m e hm => exact lies_pack hv rfl rfl
  | finite s m e hm =>
    cases hv_fin using finite_cases with
    | zero s' =>
      rw [show place (.zero s') = 0 from rfl, add_zero, round_place hu rfl]
      exact lies_pack hu rfl rfl
    | finite s' m' e' hm' =>
      -- both mantissas are brought down to the smaller exponent
      have h_lies := lies_normalize
        (s.apply (m <<< (e - min e e').toNat : ℕ) + s'.apply (m' <<< (e' - min e e').toNat : ℕ))
        (min e e') .positive
      rwa [Int.cast_add, add_mul, apply_shiftLeft_mul_two_zpow s m (min_le_left e e'),
        apply_shiftLeft_mul_two_zpow s' m' (min_le_right e e')] at h_lies

theorem place_neg (u : UnpackedFloat) : place u.neg = -place u := by
  have h_side (s : Sign) (q : ℚ) : side (-s) q = -side s q := by
    cases s
    · exact (neg_neg q).symm
    · rfl
  cases u with
  | notANumber => exact neg_zero.symm
  | infinity s => exact h_side s limit
  | zero s => exact neg_zero.symm
  | finite s m e hm => exact h_side s (m * 2 ^ e)

theorem canonical_neg {u : UnpackedFloat} (hu : Canonical u) : Canonical u.neg := by
  cases u with
  | notANumber => trivial
  | infinity s => trivial
  | zero s => trivial
  | finite s m e hm => exact hu

theorem isFinite_neg (u : UnpackedFloat) : u.neg.isFinite = u.isFinite := by
  cases u <;> rfl

/-- To subtract is to add the negative. -/
theorem sub_eq_add_negated (u v : UnpackedFloat) :
    UnpackedFloat.sub Format.binary64 u v = UnpackedFloat.add Format.binary64 u v.neg := by
  have h_apply (s : Sign) (n : ℤ) : (-s).apply n = -s.apply n := by
    cases s
    · exact (neg_neg n).symm
    · rfl
  cases u <;> cases v
  case finite.finite s m e hm s' m' e' hm' =>
    -- the difference of the signed mantissas is the sum with the second one negated
    simp only [UnpackedFloat.sub, UnpackedFloat.add, UnpackedFloat.neg, h_apply]
    rfl
  all_goals rfl

/-- The difference of finite numbers is their exact difference, rounded. -/
theorem lies_sub {u v : UnpackedFloat} (hu : Canonical u) (hv : Canonical v)
    (hu_fin : u.isFinite = true) (hv_fin : v.isFinite = true) :
    Lies (Float.Model.pack (UnpackedFloat.sub Format.binary64 u v)).unpack
      (round (place u - place v)) := by
  have h_lies := lies_add hu (canonical_neg hv) hu_fin ((isFinite_neg v).trans hv_fin)
  rwa [← sub_eq_add_negated, place_neg, ← sub_eq_add_neg] at h_lies

/-! ### Products -/

theorem side_mul_side (s s' : Sign) (q r : ℚ) : side s q * side s' r = side (s * s') (q * r) := by
  cases s <;> cases s'
  · exact neg_mul_neg q r
  · exact neg_mul q r
  · exact mul_neg q r
  · rfl

/-- The product of finite numbers is their exact product, rounded. -/
theorem lies_mul {u v : UnpackedFloat} (hu : Canonical u) (hv : Canonical v)
    (hu_fin : u.isFinite = true) (hv_fin : v.isFinite = true) :
    Lies (Float.Model.pack (UnpackedFloat.mul Format.binary64 u v)).unpack
      (round (place u * place v)) := by
  have h_zero (s : Sign) : Lies (Float.Model.pack (.zero s)).unpack 0 :=
    lies_pack (u := .zero s) trivial rfl rfl
  cases hu_fin using finite_cases with
  | zero s =>
    rw [show place (.zero s) = 0 from rfl, zero_mul, round_zero]
    cases hv_fin using finite_cases with
    | zero s' => exact h_zero _
    | finite s' m e hm => exact h_zero _
  | finite s m e hm =>
    cases hv_fin using finite_cases with
    | zero s' =>
      rw [show place (.zero s') = 0 from rfl, mul_zero, round_zero]
      exact h_zero _
    | finite s' m' e' hm' =>
      rw [place, place, side_mul_side, round_side]
      -- the product of the mantissas is exact, so nothing is lost before rounding
      have h_value : (m * 2 ^ e * (m' * 2 ^ e') : ℚ) = (m * m' : ℕ) * 2 ^ (e + e') := by
        rw [zpow_add₀ (by norm_num)]
        push_cast
        ring
      refine lies_roundWithAccuracy (s * s') (by positivity) ?_ ?_
      · change (m * 2 ^ e * (m' * 2 ^ e') / 2 ^ (e + e') : ℚ) = (m * m' : ℕ)
        rw [h_value]
        exact mul_div_cancel_right₀ _ (by positivity)
      · -- one full factor has digits enough, and without one the exponent is far below the grid
        rw [targetExponent_eq]
        have h_full : 2 ^ 52 ≤ m * m' ∨ e + e' ≤ -1074 := by
          rcases hu.full with h | h
          · exact Or.inl (h.trans (Nat.le_mul_of_pos_right m hm'))
          rcases hv.full with h' | h'
          · exact Or.inl (h'.trans (Nat.le_mul_of_pos_left m' hm))
          · exact Or.inr (by omega)
        rcases h_full with h | h
        · have h_log : 52 ≤ (m * m').log2 := (Nat.le_log2 (by positivity)).mpr h
          omega
        · omega

/-! ### Quotients -/

theorem side_div_side (s s' : Sign) (q r : ℚ) : side s q / side s' r = side (s / s') (q / r) := by
  cases s <;> cases s'
  · exact neg_div_neg_eq q r
  · exact neg_div r q
  · exact div_neg q
  · rfl

/-- A quotient cut down to a whole number keeps its two bits. -/
theorem keeps_accuracyOfFraction {m d : ℕ} (hd : 0 < d) :
    Keeps (.ofMantissaAndAccuracy (m / d) (accuracyOfFraction (m % d) d)) (m / d) := by
  have h_mod : m % d < d := Nat.mod_lt m hd
  have h_d : (0 : ℚ) < d := by exact_mod_cast hd
  have h_split : (m / d : ℚ) = (m / d : ℕ) + (m % d : ℕ) / d := by
    have h_nat : (d * (m / d : ℕ) + (m % d : ℕ) : ℚ) = m := by exact_mod_cast Nat.div_add_mod m d
    rw [div_eq_iff h_d.ne', add_mul, div_mul_cancel₀ _ h_d.ne', mul_comm, h_nat]
  generalize m % d = r at h_mod h_split ⊢
  rw [h_split]
  unfold accuracyOfFraction
  split_ifs with h_zero
  · -- the division came out even
    change ((m / d : ℕ) + r / d : ℚ) = (m / d : ℕ)
    rw [h_zero, Nat.cast_zero, zero_div, add_zero]
  -- else the fraction is compared with a half
  have h_r : (0 : ℚ) < r := by exact_mod_cast Nat.pos_of_ne_zero h_zero
  have h_pos : (0 : ℚ) < r / d := by positivity
  have h_one : (r / d : ℚ) < 1 := by
    rw [div_lt_one h_d]
    exact_mod_cast h_mod
  rcases lt_trichotomy (2 * r) d with h | h | h
  · have h_half : (r / d : ℚ) < 1 / 2 := by
      rw [div_lt_div_iff₀ h_d (by norm_num)]
      have : (2 * r : ℚ) < d := by exact_mod_cast h
      linarith
    rw [compare_lt_iff_lt.mpr h]
    exact ⟨by linarith, by linarith⟩
  · have h_half : (r / d : ℚ) = 1 / 2 := by
      rw [div_eq_div_iff h_d.ne' (by norm_num)]
      have : (2 * r : ℚ) = d := by exact_mod_cast h
      linarith
    rw [compare_eq_iff_eq.mpr h, h_half]
    rfl
  · have h_half : (1 / 2 : ℚ) < r / d := by
      rw [div_lt_div_iff₀ (by norm_num) h_d]
      have : (d : ℚ) < 2 * r := by exact_mod_cast h
      linarith
    rw [compare_gt_iff_gt.mpr h]
    exact ⟨by linarith, by linarith⟩

/-- The quotient of finite numbers is their exact quotient, rounded, if the divisor is not zero. -/
theorem lies_div {u v : UnpackedFloat} (hu : Canonical u) (hv : Canonical v)
    (hu_fin : u.isFinite = true) (hv_fin : v.isFinite = true) (hv_ne : place v ≠ 0) :
    Lies (Float.Model.pack (UnpackedFloat.div Format.binary64 u v)).unpack
      (round (place u / place v)) := by
  cases hv_fin using finite_cases with
  | zero s' => exact absurd rfl hv_ne
  | finite s' m' e' hm' =>
    cases hu_fin using finite_cases with
    | zero s =>
      rw [show place (.zero s) = 0 from rfl, zero_div, round_zero]
      exact lies_pack (u := .zero _) trivial rfl rfl
    | finite s m e hm =>
      rw [place, place, side_div_side, round_side]
      have h_target : Format.binary64.targetExponent (totalExponent m e - totalExponent m' e')
          = max ((m.log2 : ℤ) - m'.log2 + (e - e') - 53) (-1074) := by
        change max ((m.log2 : ℤ) + 1 + e - (m'.log2 + 1 + e') - 53) (-1074) = _
        omega
      unfold UnpackedFloat.div divCore
      dsimp only
      rw [h_target]
      generalize ht : min (e - e') (max ((m.log2 : ℤ) - m'.log2 + (e - e') - 53) (-1074)) = t
      generalize hk : (e - e' - t).toNat = k
      -- the dividend is given `k` digits more, which makes `t` the exponent of the quotient
      have h_down : e - e' - (k : ℤ) = t := by omega
      have h_value : (m * 2 ^ e / (m' * 2 ^ e') / 2 ^ t : ℚ) = (m <<< k : ℕ) / m' := by
        have h_shift := shiftLeft_mul_two_zpow m (e - e') k
        rw [h_down, zpow_sub₀ (by norm_num)] at h_shift
        calc (m * 2 ^ e / (m' * 2 ^ e') / 2 ^ t : ℚ)
            = m * (2 ^ e / 2 ^ e') / 2 ^ t / m' := by field_simp
          _ = (m <<< k : ℕ) / m' := by rw [← h_shift, mul_div_cancel_right₀ _ (by positivity)]
      refine lies_roundWithAccuracy (s / s') (by positivity) ?_ ?_
      · rw [h_value]
        exact keeps_accuracyOfFraction hm'
      · rw [targetExponent_eq]
        by_cases h_low : t ≤ -1074
        · omega
        · -- enough digits were added for a quotient of fifty-three
          have h_digits : m'.log2 + 53 ≤ m.log2 + k := by omega
          have h_quotient : 2 ^ 52 ≤ m <<< k / m' := by
            rw [Nat.le_div_iff_mul_le hm']
            calc 2 ^ 52 * m' ≤ 2 ^ 52 * 2 ^ (m'.log2 + 1) :=
                  Nat.mul_le_mul_left _ Nat.lt_log2_self.le
              _ = 2 ^ (m'.log2 + 53) := by rw [← pow_add]; congr 1; omega
              _ ≤ 2 ^ (m.log2 + k) := Nat.pow_le_pow_right (by norm_num) h_digits
              _ ≤ m <<< k := by
                  rw [Nat.shiftLeft_eq, pow_add]
                  exact Nat.mul_le_mul_right _ (Nat.log2_self_le hm.ne')
          have h_log : 52 ≤ (m <<< k / m').log2 :=
            (Nat.le_log2 (by omega)).mpr h_quotient
          omega

end Scrim.Number

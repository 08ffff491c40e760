import Mathlib
import Scrim.Proofs.Number.Nearest

/-!
# Doubles taken apart

A double is packed into sign, exponent and mantissa bits. `Canonical` says which unpacked numbers
the format holds, `unpack_pack` that packing loses nothing of them, and `place` where on the line an
unpacked number lies. Canonical numbers compare as their places do (`compare_eq`).
-/

open Float.Model (Format UnpackedFloat)
open Float.Model.UnpackedFloat

namespace Scrim.Number

/-! ### Canonical numbers -/

/-- A finite number is a zero, or has a mantissa and an exponent. -/
@[elab_as_elim]
theorem finite_cases {motive : (u : UnpackedFloat) → u.isFinite = true → Prop}
    (zero : ∀ s, motive (.zero s) rfl) (finite : ∀ s m e hm, motive (.finite s m e hm) rfl)
    {u : UnpackedFloat} (h : u.isFinite = true) : motive u h := by
  cases u with
  | notANumber => exact Bool.noConfusion h
  | infinity s => exact Bool.noConfusion h
  | zero s => exact zero s
  | finite s m e hm => exact finite s m e hm

/-- A mantissa and an exponent as the format holds them: fifty-three binary digits, or fewer on the
finest grid. -/
structure Fits (m : ℕ) (e : ℤ) : Prop where
  digits : m < 2 ^ 53
  low : -1074 ≤ e
  high : e ≤ 971
  full : 2 ^ 52 ≤ m ∨ e = -1074

/-- An unpacked number as the format holds it. -/
def Canonical : UnpackedFloat → Prop
  | .finite _ m e _ => Fits m e
  | _ => True

/-- The mantissa bits behind the leading one that the format leaves out. -/
theorem toNat_leading_append (v : BitVec 52) : (1#1 ++ v).toNat = 2 ^ 52 + v.toNat := by
  rw [BitVec.toNat_append, ← Nat.shiftLeft_add_eq_or_of_lt v.isLt, Nat.shiftLeft_eq]
  rfl

/-- What a double holds is canonical. -/
theorem canonical_unpack (x : Float.Model) : Canonical x.unpack := by
  have h_mantissa := (@unpackMantissa Format.binary64 x.toBits.toBitVec).isLt
  have h_exponent := (@unpackExponent Format.binary64 x.toBits.toBitVec).isLt
  unfold Float.Model.unpack
  fun_cases UnpackedFloat.unpack with
  | case1 => trivial
  | case2 => trivial
  | case3 => trivial
  | case4 v w e u s h_max h_zero h_pos =>
    -- a subnormal number
    have h_e : w.toNat = 0 := by rw [h_zero]; rfl
    refine ⟨?_, ?_, ?_, Or.inr ?_⟩
    all_goals simp only [e, h_e, Format.exponentBias]
    · exact h_mantissa.trans (by decide)
    all_goals decide
  | case5 v w e u s h_max h_zero =>
    -- a normal number
    have h_ne_zero : w.toNat ≠ 0 := fun h => h_zero (BitVec.eq_of_toNat_eq h)
    have h_ne_max : w.toNat ≠ 2047 := fun h => h_max (BitVec.eq_of_toNat_eq h)
    have h_lt : w.toNat < 2048 := h_exponent
    have h_e : e = (w.toNat : Int) - 1075 := rfl
    have h_m : (1#1 ++ v).toNat = 2 ^ 52 + v.toNat := toNat_leading_append v
    have h_v : v.toNat < 2 ^ 52 := h_mantissa
    change Fits (1#1 ++ v).toNat e
    rw [h_m, h_e]
    refine ⟨?_, ?_, ?_, Or.inl ?_⟩ <;> omega

/-! ### Packing -/

/-- What is read from packed parts. -/
theorem unpack_packComponents (s : Sign) (w : BitVec 11) (v : BitVec 52) :
    UnpackedFloat.unpack Format.binary64 (packComponents Format.binary64 s w v)
      = if w = -1#11 then if v = 0#52 then .infinity s else .notANumber
        else if w = 0#11 then
          if h : v = 0#52 then .zero s
          else .finite s v.toNat (-1074) (Nat.pos_of_ne_zero fun hv => h (BitVec.eq_of_toNat_eq hv))
        else .finite s (1#1 ++ v).toNat ((w.toNat : Int) - 1075)
          (by rw [toNat_leading_append]; omega) := by
  unfold UnpackedFloat.unpack
  -- reading a part back gives the part, and the cases are then the same on both sides
  simp only [unpackMantissa_packComponents, unpackExponent_packComponents,
    unpackSign_packComponents, Sign.ofBitVec_toBitVec]
  split_ifs with h_max h_zero h_exp h_mant
  · rfl
  · rfl
  · rfl
  · subst h_exp
    rfl
  · rfl

/-- How a finite number is packed: as an infinity if its exponent is too great, without the
leading bit of a full mantissa, and with exponent bits zero otherwise. -/
theorem pack_finite (s : Sign) {m : ℕ} {e : ℤ} (hm : 0 < m) :
    UnpackedFloat.pack Format.binary64 (.finite s m e hm)
      = if 2 ^ 11 ≤ (e + 1075).toNat + 1 then packedInfinity Format.binary64 s
        else if m.log2 + 1 = 53 then
          packComponents Format.binary64 s (BitVec.ofNat 11 (e + 1075).toNat) (BitVec.ofNat 52 m)
        else packComponents Format.binary64 s 0#11 (BitVec.ofNat 52 m) := by
  -- the bias of the exponent, and the digits of the mantissa that stand behind its point
  have h_bias : e + (Format.binary64.exponentBias : ℤ) + ((52 : ℕ) : ℤ) = e + 1075 := by
    have h : (Format.binary64.exponentBias : ℤ) = 1023 := by decide
    omega
  simp only [UnpackedFloat.pack, h_bias]
  rfl

theorem unpack_pack_normal (s : Sign) {m : ℕ} {e : ℤ} (hm : 0 < m) (h_full : 2 ^ 52 ≤ m)
    (h_digits : m < 2 ^ 53) (h_low : -1074 ≤ e) (h_high : e ≤ 971) :
    (Float.Model.pack (.finite s m e hm)).unpack = .finite s m e hm := by
  have h_log : m.log2 = 52 := (Nat.log2_eq_iff hm.ne').mpr ⟨h_full, h_digits⟩
  have h_word : (BitVec.ofNat 11 (e + 1075).toNat).toNat = (e + 1075).toNat := by
    rw [BitVec.toNat_ofNat, Nat.mod_eq_of_lt (by omega)]
  -- the exponent bits are neither those of an infinity nor those of a subnormal number
  have h_not_max : BitVec.ofNat 11 (e + 1075).toNat ≠ -1#11 := by
    intro h
    have h_nat : (BitVec.ofNat 11 (e + 1075).toNat).toNat = 2047 := congrArg BitVec.toNat h
    omega
  have h_not_zero : BitVec.ofNat 11 (e + 1075).toNat ≠ 0#11 := by
    intro h
    have h_nat : (BitVec.ofNat 11 (e + 1075).toNat).toNat = 0 := congrArg BitVec.toNat h
    omega
  -- the leading bit is left out and put back
  have h_mantissa : (1#1 ++ BitVec.ofNat 52 m).toNat = m := by
    rw [toNat_leading_append, BitVec.toNat_ofNat]
    omega
  change UnpackedFloat.unpack Format.binary64 (UnpackedFloat.pack Format.binary64 _) = _
  rw [pack_finite, if_neg (by omega), if_pos (by omega), unpack_packComponents, if_neg h_not_max,
    if_neg h_not_zero]
  simp only [h_word, h_mantissa]
  congr 1
  omega

theorem unpack_pack_subnormal (s : Sign) {m : ℕ} (hm : 0 < m) (h_short : m < 2 ^ 52) :
    (Float.Model.pack (.finite s m (-1074) hm)).unpack = .finite s m (-1074) hm := by
  have h_log : m.log2 < 52 := (Nat.log2_lt hm.ne').mpr h_short
  have h_mantissa : (BitVec.ofNat 52 m).toNat = m := by
    rw [BitVec.toNat_ofNat, Nat.mod_eq_of_lt (by omega)]
  -- the exponent bits are zero, so only the mantissa tells the number from a zero
  have h_not_zero : BitVec.ofNat 52 m ≠ 0#52 := by
    intro h
    have h_nat : (BitVec.ofNat 52 m).toNat = 0 := congrArg BitVec.toNat h
    omega
  change UnpackedFloat.unpack Format.binary64 (UnpackedFloat.pack Format.binary64 _) = _
  rw [pack_finite, if_neg (by decide), if_neg (by omega), unpack_packComponents,
    if_neg (by decide), if_pos rfl, dif_neg h_not_zero]
  simp only [h_mantissa]

/-- **Packing loses nothing of a canonical number.** -/
theorem unpack_pack {u : UnpackedFloat} (hu : Canonical u) : (Float.Model.pack u).unpack = u := by
  cases u with
  | infinity s => exact unpack_packComponents s _ _
  | notANumber => exact unpack_packComponents .positive _ _
  | zero s => exact unpack_packComponents s _ _
  | finite s m e hm =>
    by_cases h_normal : 2 ^ 52 ≤ m
    · exact unpack_pack_normal s hm h_normal hu.digits hu.low hu.high
    · obtain rfl : e = -1074 := hu.full.resolve_left h_normal
      exact unpack_pack_subnormal s hm (by omega)

/-- A number that needs a greater exponent than there is becomes infinite. -/
theorem unpack_pack_of_overflow (s : Sign) {m : ℕ} {e : ℤ} (hm : 0 < m) (he : 971 < e) :
    (Float.Model.pack (.finite s m e hm)).unpack = .infinity s := by
  change UnpackedFloat.unpack Format.binary64 (UnpackedFloat.pack Format.binary64 _) = _
  rw [pack_finite, if_pos (by omega)]
  exact unpack_packComponents s _ _

/-! ### Places -/

/-- The number at a distance from zero, on the side that a sign tells. -/
def side : Sign → ℚ → ℚ
  | .positive, q => q
  | .negative, q => -q

/-- Where an unpacked number lies on the line. What is not a number has no place; it is given the
place of zero. -/
def place : UnpackedFloat → ℚ
  | .infinity s => side s limit
  | .notANumber => 0
  | .zero _ => 0
  | .finite s m e _ => side s (m * 2 ^ e)

theorem side_positive (q : ℚ) : side .positive q = q := rfl

theorem side_negative (q : ℚ) : side .negative q = -q := rfl

@[simp] theorem side_zero (s : Sign) : side s 0 = 0 := by
  cases s
  · exact neg_zero
  · rfl

/-- A finite canonical number lies short of the limit. -/
theorem finite_lt_limit {m : ℕ} {e : ℤ} (hm : m < 2 ^ 53) (he : e ≤ 971) :
    (m * 2 ^ e : ℚ) < limit := by
  have h_m : (m : ℚ) < (2 ^ 53 : ℤ) := by exact_mod_cast hm
  have h_exp : ((53 : ℕ) : ℤ) + e ≤ 1024 := by omega
  calc (m * 2 ^ e : ℚ) < (2 ^ 53 : ℤ) * 2 ^ e := mul_lt_mul_of_pos_right h_m (by positivity)
    _ = 2 ^ (((53 : ℕ) : ℤ) + e) := (two_zpow_add 53 e).symm
    _ ≤ limit := zpow_le_zpow_right₀ (by norm_num) h_exp

/-- Canonical mantissas on a coarser grid are the greater numbers. -/
theorem finite_lt_of_exponent_lt {m₁ m₂ : ℕ} {e₁ e₂ : ℤ} (h₁ : m₁ < 2 ^ 53) (h₂ : 2 ^ 52 ≤ m₂)
    (h : e₁ < e₂) : (m₁ * 2 ^ e₁ : ℚ) < m₂ * 2 ^ e₂ := by
  have h_m₁ : (m₁ : ℚ) < 2 ^ 53 := by exact_mod_cast h₁
  have h_m₂ : (2 ^ 52 : ℚ) ≤ m₂ := by exact_mod_cast h₂
  calc (m₁ * 2 ^ e₁ : ℚ) < 2 ^ 53 * 2 ^ e₁ := mul_lt_mul_of_pos_right h_m₁ (by positivity)
    _ = 2 ^ 52 * 2 ^ (1 + e₁) := by
        rw [zpow_add₀ (by norm_num)]
        ring
    _ ≤ 2 ^ 52 * 2 ^ e₂ :=
        mul_le_mul_of_nonneg_left (zpow_le_zpow_right₀ (by norm_num) (by omega)) (by positivity)
    _ ≤ m₂ * 2 ^ e₂ := mul_le_mul_of_nonneg_right h_m₂ (by positivity)

/-- Two positive canonical numbers compare by exponent first and mantissa second. -/
theorem compare_finite {m₁ m₂ : ℕ} {e₁ e₂ : ℤ} (h₁ : Fits m₁ e₁) (h₂ : Fits m₂ e₂) :
    (compare e₁ e₂).then (compare m₁ m₂) = compare (m₁ * 2 ^ e₁ : ℚ) (m₂ * 2 ^ e₂) := by
  have h_low₁ := h₁.low
  have h_low₂ := h₂.low
  rcases lt_trichotomy e₁ e₂ with h_lt | rfl | h_gt
  · -- the second exponent is above the least, so its mantissa is full
    have h_place : (m₁ * 2 ^ e₁ : ℚ) < m₂ * 2 ^ e₂ :=
      finite_lt_of_exponent_lt h₁.digits (h₂.full.resolve_right (by omega)) h_lt
    rw [compare_lt_iff_lt.mpr h_lt, compare_lt_iff_lt.mpr h_place]
    rfl
  · -- on one grid the mantissas decide
    have h_pos : (0 : ℚ) < 2 ^ e₁ := by positivity
    rw [compare_eq_iff_eq.mpr rfl]
    change compare m₁ m₂ = _
    rcases lt_trichotomy m₁ m₂ with h_lt | rfl | h_gt
    · have h_place : (m₁ * 2 ^ e₁ : ℚ) < m₂ * 2 ^ e₁ :=
        mul_lt_mul_of_pos_right (by exact_mod_cast h_lt) h_pos
      rw [compare_lt_iff_lt.mpr h_lt, compare_lt_iff_lt.mpr h_place]
    · rw [compare_eq_iff_eq.mpr rfl, compare_eq_iff_eq.mpr rfl]
    · have h_place : (m₂ * 2 ^ e₁ : ℚ) < m₁ * 2 ^ e₁ :=
        mul_lt_mul_of_pos_right (by exact_mod_cast h_gt) h_pos
      rw [compare_gt_iff_gt.mpr h_gt, compare_gt_iff_gt.mpr h_place]
  · have h_place : (m₂ * 2 ^ e₂ : ℚ) < m₁ * 2 ^ e₁ :=
      finite_lt_of_exponent_lt h₂.digits (h₁.full.resolve_right (by omega)) h_gt
    rw [compare_gt_iff_gt.mpr h_gt, compare_gt_iff_gt.mpr h_place]
    rfl

theorem compare_neg_neg (q r : ℚ) : compare (-q) (-r) = (compare q r).swap := by
  rcases lt_trichotomy q r with h_lt | rfl | h_gt
  · rw [compare_lt_iff_lt.mpr h_lt, compare_gt_iff_gt.mpr (neg_lt_neg h_lt)]
    rfl
  · rw [compare_eq_iff_eq.mpr rfl, compare_eq_iff_eq.mpr rfl]
    rfl
  · rw [compare_gt_iff_gt.mpr h_gt, compare_lt_iff_lt.mpr (neg_lt_neg h_gt)]
    rfl

/-- A positive finite number lies strictly between zero and the limit. -/
theorem Fits.bounds {m : ℕ} {e : ℤ} (h : Fits m e) (hm : 0 < m) :
    (0 : ℚ) < m * 2 ^ e ∧ (m * 2 ^ e : ℚ) < limit :=
  ⟨by positivity, finite_lt_limit h.digits h.high⟩

/-- **Canonical numbers compare as their places do.** -/
theorem compare_eq {u v : UnpackedFloat} (hu : Canonical u) (hv : Canonical v)
    (hu_num : u.isNaN = false) (hv_num : v.isNaN = false) :
    u.compare v = some (compare (place u) (place v)) := by
  have h_limit := limit_pos
  have below {q r : ℚ} (h : q < r) : some Ordering.lt = some (compare q r) :=
    congrArg some (compare_lt_iff_lt.mpr h).symm
  have above {q r : ℚ} (h : r < q) : some Ordering.gt = some (compare q r) :=
    congrArg some (compare_gt_iff_gt.mpr h).symm
  have level {q : ℚ} : some Ordering.eq = some (compare q q) :=
    congrArg some (compare_eq_iff_eq.mpr rfl).symm
  -- signs and infinities decide all cases but that of two finite numbers on one side of zero
  cases u with
  | notANumber => exact absurd hu_num (by decide)
  | infinity s =>
    cases v with
    | notANumber => exact absurd hv_num (by decide)
    | infinity s' =>
      cases s <;> cases s'
      · exact level
      · exact below (show -limit < limit by linarith)
      · exact above (show -limit < limit by linarith)
      · exact level
    | zero s' =>
      cases s
      · exact below (show -limit < 0 by linarith)
      · exact above h_limit
    | finite s' m e hm =>
      obtain ⟨h_pos, h_lt⟩ := Fits.bounds hv hm
      cases s <;> cases s'
      · exact below (show -limit < -(m * 2 ^ e : ℚ) by linarith)
      · exact below (show -limit < (m * 2 ^ e : ℚ) by linarith)
      · exact above (show -(m * 2 ^ e : ℚ) < limit by linarith)
      · exact above h_lt
  | zero s =>
    cases v with
    | notANumber => exact absurd hv_num (by decide)
    | infinity s' =>
      cases s'
      · exact above (show -limit < 0 by linarith)
      · exact below h_limit
    | zero s' => exact level
    | finite s' m e hm =>
      obtain ⟨h_pos, h_lt⟩ := Fits.bounds hv hm
      cases s'
      · exact above (show -(m * 2 ^ e : ℚ) < 0 by linarith)
      · exact below h_pos
  | finite s m e hm =>
    obtain ⟨h_pos, h_lt⟩ := Fits.bounds hu hm
    cases v with
    | notANumber => exact absurd hv_num (by cases s <;> decide)
    | infinity s' =>
      cases s <;> cases s'
      · exact above (show -limit < -(m * 2 ^ e : ℚ) by linarith)
      · exact below (show -(m * 2 ^ e : ℚ) < limit by linarith)
      · exact above (show -limit < (m * 2 ^ e : ℚ) by linarith)
      · exact below h_lt
    | zero s' =>
      cases s
      · exact below (show -(m * 2 ^ e : ℚ) < 0 by linarith)
      · exact above h_pos
    | finite s' m' e' hm' =>
      obtain ⟨h_pos', h_lt'⟩ := Fits.bounds hv hm'
      cases s <;> cases s'
      · -- two negative numbers compare the other way around
        change some ((compare e e').then (compare m m')).swap = some (compare (-_) (-_))
        rw [compare_neg_neg, compare_finite hu hv]
      · exact below (show -(m * 2 ^ e : ℚ) < m' * 2 ^ e' by linarith)
      · exact above (show -(m' * 2 ^ e' : ℚ) < m * 2 ^ e by linarith)
      · exact congrArg some (compare_finite hu hv)

/-- The finite among the canonical numbers are those short of the limit. -/
theorem isFinite_iff_place {u : UnpackedFloat} (hu : Canonical u) (hu_num : u.isNaN = false) :
    u.isFinite = true ↔ -limit < place u ∧ place u < limit := by
  have h_limit := limit_pos
  cases u with
  | notANumber => exact Bool.noConfusion hu_num
  | infinity s =>
    -- an infinity stands at the limit itself
    refine ⟨fun h => Bool.noConfusion h, ?_⟩
    intro h
    cases s
    · exact absurd h.1 (lt_irrefl _)
    · exact absurd h.2 (lt_irrefl _)
  | zero s => exact ⟨fun _ => ⟨neg_lt_zero.mpr h_limit, h_limit⟩, fun _ => rfl⟩
  | finite s m e hm =>
    obtain ⟨h_pos, h_lt⟩ := Fits.bounds hu hm
    refine ⟨fun _ => ?_, fun _ => rfl⟩
    cases s
    · change -limit < -(m * 2 ^ e : ℚ) ∧ -(m * 2 ^ e : ℚ) < limit
      constructor <;> linarith
    · change -limit < (m * 2 ^ e : ℚ) ∧ (m * 2 ^ e : ℚ) < limit
      constructor <;> linarith

end Scrim.Number

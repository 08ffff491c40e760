import Scrim.Number.Whole
import Scrim.Proofs.Number.Arithmetic

/-!
# Laws of doubles

What the arithmetic of doubles keeps of the laws of numbers. Rounding is monotone and leaves doubles
alone, so a result keeps what bounds an operand (`round_mul_le` and its like), signs come out right,
and different doubles differ by more than rounding takes away (`sub_pos_of_lt`). Finite operands may
have infinite results. The laws of bounds and signs therefore admit an infinite operand where a
result can have become one.
-/

open Float.Model (Format UnpackedFloat)
open Float.Model.UnpackedFloat

namespace Scrim.Number

/-! ### The order -/

protected theorem le_refl {x : Float} (hx : x.isNaN = false) : x ≤ x :=
  (le_iff hx hx).mpr le_rfl

protected theorem le_trans {x y z : Float} (h₁ : x ≤ y) (h₂ : y ≤ z) : x ≤ z :=
  (le_iff (isNaN_of_le h₁).1 (isNaN_of_le h₂).2).mpr
    ((toRat_le_of_le h₁).trans (toRat_le_of_le h₂))

protected theorem le_of_lt {x y : Float} (h : x < y) : x ≤ y :=
  (le_iff (isNaN_of_lt h).1 (isNaN_of_lt h).2).mpr (toRat_lt_of_lt h).le

protected theorem le_of_beq {x y : Float} (h : (x == y) = true) : x ≤ y :=
  (le_iff (isNaN_of_beq h).1 (isNaN_of_beq h).2).mpr (toRat_eq_of_beq h).le

/-- Of two numbers that do not compare one way, the other way holds. -/
protected theorem le_of_not_lt {x y : Float} (hx : x.isNaN = false) (hy : y.isNaN = false)
    (h : ¬y < x) : x ≤ y := by
  rw [lt_iff hy hx, not_lt] at h
  exact (le_iff hx hy).mpr h

protected theorem lt_of_not_le {x y : Float} (hx : x.isNaN = false) (hy : y.isNaN = false)
    (h : ¬y ≤ x) : x < y := by
  rw [le_iff hy hx, not_le] at h
  exact (lt_iff hx hy).mpr h

protected theorem not_le_of_lt {x y : Float} (h : x < y) : ¬y ≤ x := fun h_le =>
  absurd (toRat_lt_of_lt h) (not_lt.mpr (toRat_le_of_le h_le))

protected theorem lt_of_le_of_lt {x y z : Float} (h₁ : x ≤ y) (h₂ : y < z) : x < z :=
  (lt_iff (isNaN_of_le h₁).1 (isNaN_of_lt h₂).2).mpr
    ((toRat_le_of_le h₁).trans_lt (toRat_lt_of_lt h₂))

protected theorem lt_of_lt_of_le {x y z : Float} (h₁ : x < y) (h₂ : y ≤ z) : x < z :=
  (lt_iff (isNaN_of_lt h₁).1 (isNaN_of_le h₂).2).mpr
    ((toRat_lt_of_lt h₁).trans_le (toRat_le_of_le h₂))

protected theorem beq_symm {x y : Float} (h : (x == y) = true) : (y == x) = true :=
  (beq_iff (isNaN_of_beq h).2 (isNaN_of_beq h).1).mpr (toRat_eq_of_beq h).symm

protected theorem beq_trans {x y z : Float} (h₁ : (x == y) = true) (h₂ : (y == z) = true) :
    (x == z) = true :=
  (beq_iff (isNaN_of_beq h₁).1 (isNaN_of_beq h₂).2).mpr
    ((toRat_eq_of_beq h₁).trans (toRat_eq_of_beq h₂))

protected theorem beq_refl {x : Float} (hx : x.isNaN = false) : (x == x) = true :=
  (beq_iff hx hx).mpr rfl

/-- What is less is different. -/
protected theorem bne_of_lt {x y : Float} (h : x < y) : (x != y) = true := by
  apply Bool.eq_true_of_not_eq_false
  intro h_eq
  rw [bne, Bool.not_eq_false'] at h_eq
  exact (toRat_lt_of_lt h).ne (toRat_eq_of_beq h_eq)

protected theorem bne_symm {x y : Float} (h : (x != y) = true) : (y != x) = true := by
  apply Bool.eq_true_of_not_eq_false
  intro h_eq
  rw [bne, Bool.not_eq_false'] at h_eq
  rw [bne, Number.beq_symm h_eq] at h
  exact Bool.noConfusion h

/-- Different numbers differ in a direction. -/
protected theorem lt_or_gt_of_bne {x y : Float} (hx : x.isNaN = false) (hy : y.isNaN = false)
    (h : (x != y) = true) : x < y ∨ y < x := by
  rw [lt_iff hx hy, lt_iff hy hx]
  apply lt_or_gt_of_ne
  intro h_eq
  rw [bne, (beq_iff hx hy).mpr h_eq] at h
  exact Bool.noConfusion h

/-! ### Operations on finite doubles -/

section Finite

variable {x y : Float} (hx : x.isFinite = true) (hy : y.isFinite = true)

include hx

theorem round_toRat : round (toRat x) = toRat x :=
  round_place (canonical_unpack _) hx

include hy

theorem lies_toModel_add : Lies (x + y).toModel.unpack (round (toRat x + toRat y)) :=
  lies_add (canonical_unpack _) (canonical_unpack _) hx hy

theorem lies_toModel_sub : Lies (x - y).toModel.unpack (round (toRat x - toRat y)) :=
  lies_sub (canonical_unpack _) (canonical_unpack _) hx hy

theorem lies_toModel_mul : Lies (x * y).toModel.unpack (round (toRat x * toRat y)) :=
  lies_mul (canonical_unpack _) (canonical_unpack _) hx hy

theorem lies_toModel_div (hy_ne : toRat y ≠ 0) :
    Lies (x / y).toModel.unpack (round (toRat x / toRat y)) :=
  lies_div (canonical_unpack _) (canonical_unpack _) hx hy hy_ne

end Finite

/-! ### Operations on infinite doubles -/

/-- A number that is not finite is an infinity. -/
theorem isFinite_or_infinity {x : Float} (hx : x.isNaN = false) :
    x.isFinite = true ∨ ∃ s, x.toModel.unpack = .infinity s := by
  change x.toModel.unpack.isNaN = false at hx
  change x.toModel.unpack.isFinite = true ∨ _
  -- of the four kinds of doubles one is excluded
  generalize x.toModel.unpack = u at hx ⊢
  cases u with
  | notANumber => exact Bool.noConfusion hx
  | infinity s => exact Or.inr ⟨s, rfl⟩
  | zero s => exact Or.inl rfl
  | finite s m e hm => exact Or.inl rfl

theorem lies_infinity (s : Sign) : Lies (Float.Model.pack (.infinity s)).unpack (side s limit) :=
  lies_pack (u := .infinity s) trivial rfl rfl

/-- An infinity absorbs what is finite. -/
theorem lies_add_infinity {u v : UnpackedFloat} {s : Sign} (hu : u.isFinite = true)
    (hv : v = .infinity s) :
    Lies (Float.Model.pack (UnpackedFloat.add Format.binary64 u v)).unpack (side s limit) := by
  subst hv
  cases hu using finite_cases with
  | zero s' => exact lies_infinity s
  | finite s' m e hm => exact lies_infinity s

theorem side_pos {q : ℚ} (hq : 0 < q) {s : Sign} (h : 0 < side s q) : s = .positive := by
  cases s
  · have h_neg : 0 < -q := h
    exact absurd h_neg (by linarith)
  · rfl

theorem side_neg {q : ℚ} (hq : 0 < q) {s : Sign} (h : side s q < 0) : s = .negative := by
  cases s
  · rfl
  · have h_neg : q < 0 := h
    exact absurd h_neg (by linarith)

/-- A positive factor keeps an infinity. -/
theorem lies_mul_infinity_of_pos {u v : UnpackedFloat} {s : Sign} (hu : u.isFinite = true)
    (h_pos : 0 < place u) (hv : v = .infinity s) :
    Lies (Float.Model.pack (UnpackedFloat.mul Format.binary64 u v)).unpack (side s limit) := by
  subst hv
  cases hu using finite_cases with
  | zero s' => exact absurd h_pos (lt_irrefl _)
  | finite s' m e hm =>
    -- a factor on the positive side has the positive sign
    obtain rfl := side_pos (by positivity) h_pos
    cases s
    · exact lies_infinity .negative
    · exact lies_infinity .positive

/-- A negative factor turns an infinity around. -/
theorem lies_mul_infinity_of_neg {u v : UnpackedFloat} {s : Sign} (hu : u.isFinite = true)
    (h_neg : place u < 0) (hv : v = .infinity s) :
    Lies (Float.Model.pack (UnpackedFloat.mul Format.binary64 u v)).unpack (-side s limit) := by
  subst hv
  cases hu using finite_cases with
  | zero s' => exact absurd h_neg (lt_irrefl _)
  | finite s' m e hm =>
    obtain rfl := side_neg (by positivity) h_neg
    cases s
    · have h := lies_infinity .positive
      rwa [show side .positive limit = -side .negative limit from (neg_neg _).symm] at h
    · exact lies_infinity .negative

/-- A positive divisor keeps an infinity. -/
theorem lies_infinity_div_of_pos {u v : UnpackedFloat} {s : Sign} (hu : u = .infinity s)
    (hv : v.isFinite = true) (h_pos : 0 < place v) :
    Lies (Float.Model.pack (UnpackedFloat.div Format.binary64 u v)).unpack (side s limit) := by
  subst hu
  cases hv using finite_cases with
  | zero s' => exact absurd h_pos (lt_irrefl _)
  | finite s' m e hm =>
    obtain rfl := side_pos (by positivity) h_pos
    cases s
    · exact lies_infinity .negative
    · exact lies_infinity .positive

/-! ### Comparing results -/

@[simp] theorem isFinite_zero : (0 : Float).isFinite = true := by
  decide +kernel

@[simp] theorem isFinite_one : (1 : Float).isFinite = true := by
  decide +kernel

theorem lies_zero : Lies (0 : Float).toModel.unpack 0 :=
  ⟨isNaN_of_isFinite isFinite_zero, toRat_zero⟩

theorem lies_toRat {x : Float} (hx : x.isNaN = false) : Lies x.toModel.unpack (toRat x) :=
  ⟨hx, rfl⟩

theorem toRat_of_lies {x : Float} {q : ℚ} (h : Lies x.toModel.unpack q) : toRat x = q :=
  h.place_eq

/-- What lies short of the limit on both sides is finite. -/
theorem isFinite_of_lies {x : Float} {q : ℚ} (h : Lies x.toModel.unpack q) (hq : |q| < limit) :
    x.isFinite = true := by
  have h_rat := toRat_of_lies h
  exact (isFinite_iff h.isNaN_eq).mpr (h_rat ▸ abs_lt.mp hq)

theorem le_of_lies {x y : Float} {q r : ℚ} (hx : Lies x.toModel.unpack q)
    (hy : Lies y.toModel.unpack r) (h : q ≤ r) : x ≤ y := by
  refine (le_iff hx.isNaN_eq hy.isNaN_eq).mpr ?_
  rwa [toRat, toRat, hx.place_eq, hy.place_eq]

theorem lt_of_lies {x y : Float} {q r : ℚ} (hx : Lies x.toModel.unpack q)
    (hy : Lies y.toModel.unpack r) (h : q < r) : x < y := by
  refine (lt_iff hx.isNaN_eq hy.isNaN_eq).mpr ?_
  rwa [toRat, toRat, hx.place_eq, hy.place_eq]

theorem toRat_nonneg {x : Float} (h : 0 ≤ x) : 0 ≤ toRat x := by
  have h_le := toRat_le_of_le h
  rwa [toRat_zero] at h_le

theorem toRat_pos {x : Float} (h : 0 < x) : 0 < toRat x := by
  have h_lt := toRat_lt_of_lt h
  rwa [toRat_zero] at h_lt

theorem toRat_nonpos {x : Float} (h : x ≤ 0) : toRat x ≤ 0 := by
  have h_le := toRat_le_of_le h
  rwa [toRat_zero] at h_le

theorem toRat_neg {x : Float} (h : x < 0) : toRat x < 0 := by
  have h_lt := toRat_lt_of_lt h
  rwa [toRat_zero] at h_lt

/-- An infinity that is not negative is the positive one. -/
theorem eq_positive_of_nonneg {x : Float} {s : Sign} (h : 0 ≤ x)
    (hs : x.toModel.unpack = .infinity s) : s = .positive := by
  have h_side : 0 ≤ side s limit := by
    have h_nonneg := toRat_nonneg h
    rwa [toRat, hs] at h_nonneg
  cases s
  · have h_neg : 0 ≤ -limit := h_side
    exact absurd limit_pos (by linarith)
  · rfl

/-- An infinity that is not positive is the negative one. -/
theorem eq_negative_of_nonpos {x : Float} {s : Sign} (h : x ≤ 0)
    (hs : x.toModel.unpack = .infinity s) : s = .negative := by
  have h_side : side s limit ≤ 0 := by
    have h_nonpos := toRat_nonpos h
    rwa [toRat, hs] at h_nonpos
  cases s
  · rfl
  · have h_pos : limit ≤ 0 := h_side
    exact absurd limit_pos (by linarith)

/-! ### Differences -/

theorem sub_nonneg_of_le {x y : Float} (hx : x.isFinite = true) (hy : y.isFinite = true)
    (h : x ≤ y) : 0 ≤ y - x := by
  have h_rat := toRat_le_of_le h
  exact le_of_lies lies_zero (lies_toModel_sub hy hx) (round_nonneg (by linarith))

/-- Every finite double is a multiple of the smallest positive one. -/
theorem exists_toRat_eq {x : Float} (hx : x.isFinite = true) :
    ∃ n : ℤ, toRat x = n * 2 ^ (-1074 : ℤ) := by
  have h_canonical := canonical_unpack x.toModel
  change x.toModel.unpack.isFinite = true at hx
  unfold toRat
  generalize x.toModel.unpack = u at hx h_canonical ⊢
  cases hx using finite_cases with
  | zero s => exact ⟨0, by rw [Int.cast_zero, zero_mul]; rfl⟩
  | finite s m e hm =>
    -- the exponent of a double is not below that of the smallest one
    have h_low := h_canonical.low
    exact ⟨_, (apply_shiftLeft_mul_two_zpow s m h_low).symm⟩

/-- The smallest positive double stays as it is. -/
theorem round_two_zpow_neg_1074 : round (2 ^ (-1074 : ℤ)) = 2 ^ (-1074 : ℤ) := by
  have h := round_of_digits (show 1 < 2 ^ 53 by norm_num) (le_refl (-1074)) (by norm_num)
  rwa [Nat.cast_one, one_mul] at h

/-- Rounding does not close the gap between different doubles. -/
theorem round_sub_pos {x y : Float} (hx : x.isFinite = true) (hy : y.isFinite = true)
    (h : toRat x < toRat y) : 0 < round (toRat y - toRat x) := by
  obtain ⟨n, hn⟩ := exists_toRat_eq hx
  obtain ⟨k, hk⟩ := exists_toRat_eq hy
  have h_unit : (0 : ℚ) < 2 ^ (-1074 : ℤ) := by positivity
  have h_lt : n < k := by
    rw [hn, hk] at h
    exact_mod_cast lt_of_mul_lt_mul_right h h_unit.le
  -- two multiples of the unit differ by the unit at least, which rounding leaves alone
  have h_gap : (2 : ℚ) ^ (-1074 : ℤ) ≤ toRat y - toRat x := by
    have h_one : ((n : ℚ) + 1) ≤ k := by exact_mod_cast h_lt
    have h_scaled := mul_le_mul_of_nonneg_right h_one h_unit.le
    rw [hn, hk]
    linarith
  calc (0 : ℚ) < 2 ^ (-1074 : ℤ) := h_unit
    _ = round (2 ^ (-1074 : ℤ)) := round_two_zpow_neg_1074.symm
    _ ≤ round (toRat y - toRat x) := round_mono h_gap

theorem sub_pos_of_lt {x y : Float} (hx : x.isFinite = true) (hy : y.isFinite = true)
    (h : x < y) : 0 < y - x :=
  lt_of_lies lies_zero (lies_toModel_sub hy hx) (round_sub_pos hx hy (toRat_lt_of_lt h))

theorem sub_neg_of_lt {x y : Float} (hx : x.isFinite = true) (hy : y.isFinite = true)
    (h : x < y) : x - y < 0 := by
  have h_pos := round_sub_pos hx hy (toRat_lt_of_lt h)
  -- the difference the other way is positive, and rounding keeps mirrors
  rw [← neg_sub, round_neg] at h_pos
  exact lt_of_lies (lies_toModel_sub hx hy) lies_zero (by linarith)

/-- Numbers between zero and a bound do not differ by more than the bound. -/
theorem isFinite_sub {x y b : Float} (hb : b.isFinite = true) (hx : 0 ≤ x) (hx_le : x ≤ b)
    (hy : 0 ≤ y) (hy_le : y ≤ b) : (x - y).isFinite = true := by
  have hx_fin := isFinite_of_le_of_le isFinite_zero hb hx hx_le
  have hy_fin := isFinite_of_le_of_le isFinite_zero hb hy hy_le
  have h_lies := lies_toModel_sub hx_fin hy_fin
  have hx_rat := toRat_nonneg hx
  have hy_rat := toRat_nonneg hy
  have hx_le_rat := toRat_le_of_le hx_le
  have hy_le_rat := toRat_le_of_le hy_le
  have h_bound := ((isFinite_iff (isNaN_of_isFinite hb)).mp hb).2
  -- rounding does not carry the difference over the bound on either side
  have h_above : round (toRat x - toRat y) ≤ toRat b :=
    (round_mono (by linarith)).trans_eq (round_toRat hb)
  have h_below : -toRat b ≤ round (toRat x - toRat y) := by
    refine le_trans (le_of_eq ?_) (round_mono (show -toRat b ≤ toRat x - toRat y by linarith))
    rw [round_neg, round_toRat hb]
  refine (isFinite_iff h_lies.isNaN_eq).mpr ?_
  rw [toRat, h_lies.place_eq]
  constructor <;> linarith

/-! ### Products and quotients -/

/-- A product with a positive factor keeps what bounds the other from below. -/
theorem round_mul_le {c x : Float} {y : ℚ} (hc : c.isFinite = true) (hc_pos : 0 < c) (hx : 0 ≤ x)
    (hy : y ≤ toRat x) : ∃ q, Lies (c * x).toModel.unpack q ∧ round (toRat c * y) ≤ q := by
  rcases isFinite_or_infinity (isNaN_of_le hx).2 with hx_fin | ⟨s, hs⟩
  · exact ⟨_, lies_toModel_mul hc hx_fin,
      round_mono (mul_le_mul_of_nonneg_left hy (toRat_pos hc_pos).le)⟩
  · -- the operand is infinite already, and stays on its side
    obtain rfl := eq_positive_of_nonneg hx hs
    exact ⟨limit, lies_mul_infinity_of_pos hc (toRat_pos hc_pos) hs, round_le_limit _⟩

/-- A product with a negative factor turns what bounds the other around. -/
theorem mul_le_round {c x : Float} {y : ℚ} (hc : c.isFinite = true) (hc_neg : c < 0) (hx : 0 ≤ x)
    (hy : y ≤ toRat x) : ∃ q, Lies (c * x).toModel.unpack q ∧ q ≤ round (toRat c * y) := by
  rcases isFinite_or_infinity (isNaN_of_le hx).2 with hx_fin | ⟨s, hs⟩
  · exact ⟨_, lies_toModel_mul hc hx_fin,
      round_mono (mul_le_mul_of_nonpos_left hy (toRat_neg hc_neg).le)⟩
  · -- an infinity is turned around, and below everything then
    obtain rfl := eq_positive_of_nonneg hx hs
    refine ⟨_, lies_mul_infinity_of_neg hc (toRat_neg hc_neg) hs, ?_⟩
    rw [side_positive]
    exact neg_limit_le_round _

theorem round_div_le {x d : Float} {y : ℚ} (hx : 0 ≤ x) (hd : d.isFinite = true) (hd_pos : 0 < d)
    (hy : y ≤ toRat x) : ∃ q, Lies (x / d).toModel.unpack q ∧ round (y / toRat d) ≤ q := by
  have hd_rat := toRat_pos hd_pos
  rcases isFinite_or_infinity (isNaN_of_le hx).2 with hx_fin | ⟨s, hs⟩
  · exact ⟨_, lies_toModel_div hx_fin hd hd_rat.ne',
      round_mono (div_le_div_of_nonneg_right hy hd_rat.le)⟩
  · obtain rfl := eq_positive_of_nonneg hx hs
    exact ⟨limit, lies_infinity_div_of_pos hs hd hd_rat, round_le_limit _⟩

theorem div_le_round {x d : Float} {y : ℚ} (hx : x ≤ 0) (hd : d.isFinite = true) (hd_pos : 0 < d)
    (hy : toRat x ≤ y) : ∃ q, Lies (x / d).toModel.unpack q ∧ q ≤ round (y / toRat d) := by
  have hd_rat := toRat_pos hd_pos
  rcases isFinite_or_infinity (isNaN_of_le hx).1 with hx_fin | ⟨s, hs⟩
  · exact ⟨_, lies_toModel_div hx_fin hd hd_rat.ne',
      round_mono (div_le_div_of_nonneg_right hy hd_rat.le)⟩
  · obtain rfl := eq_negative_of_nonpos hx hs
    refine ⟨_, lies_infinity_div_of_pos hs hd hd_rat, ?_⟩
    rw [side_negative]
    exact neg_limit_le_round _

theorem mul_nonneg_of_pos {c x : Float} (hc : c.isFinite = true) (hc_pos : 0 < c) (hx : 0 ≤ x) :
    0 ≤ c * x := by
  obtain ⟨q, h_lies, h_le⟩ := round_mul_le hc hc_pos hx (toRat_nonneg hx)
  rw [mul_zero, round_zero] at h_le
  exact le_of_lies lies_zero h_lies h_le

theorem mul_nonpos_of_neg {c x : Float} (hc : c.isFinite = true) (hc_neg : c < 0) (hx : 0 ≤ x) :
    c * x ≤ 0 := by
  obtain ⟨q, h_lies, h_le⟩ := mul_le_round hc hc_neg hx (toRat_nonneg hx)
  rw [mul_zero, round_zero] at h_le
  exact le_of_lies h_lies lies_zero h_le

theorem div_nonneg_of_pos {x d : Float} (hx : 0 ≤ x) (hd : d.isFinite = true) (hd_pos : 0 < d) :
    0 ≤ x / d := by
  obtain ⟨q, h_lies, h_le⟩ := round_div_le hx hd hd_pos (toRat_nonneg hx)
  rw [zero_div, round_zero] at h_le
  exact le_of_lies lies_zero h_lies h_le

theorem div_nonpos_of_pos {x d : Float} (hx : x ≤ 0) (hd : d.isFinite = true) (hd_pos : 0 < d) :
    x / d ≤ 0 := by
  obtain ⟨q, h_lies, h_le⟩ := div_le_round hx hd hd_pos (toRat_nonpos hx)
  rw [zero_div, round_zero] at h_le
  exact le_of_lies h_lies lies_zero h_le

/-! ### Sums -/

/-- A sum keeps what bounds a summand from below. -/
theorem round_add_le {x q : Float} {y : ℚ} (hx : x.isFinite = true) (hq : 0 ≤ q)
    (hy : y ≤ toRat q) : ∃ r, Lies (x + q).toModel.unpack r ∧ round (toRat x + y) ≤ r := by
  rcases isFinite_or_infinity (isNaN_of_le hq).2 with hq_fin | ⟨s, hs⟩
  · exact ⟨_, lies_toModel_add hx hq_fin, round_mono (by linarith)⟩
  · obtain rfl := eq_positive_of_nonneg hq hs
    exact ⟨limit, lies_add_infinity hx hs, round_le_limit _⟩

theorem add_le_round {x q : Float} {y : ℚ} (hx : x.isFinite = true) (hq : q ≤ 0)
    (hy : toRat q ≤ y) : ∃ r, Lies (x + q).toModel.unpack r ∧ r ≤ round (toRat x + y) := by
  rcases isFinite_or_infinity (isNaN_of_le hq).1 with hq_fin | ⟨s, hs⟩
  · exact ⟨_, lies_toModel_add hx hq_fin, round_mono (by linarith)⟩
  · obtain rfl := eq_negative_of_nonpos hq hs
    refine ⟨_, lies_add_infinity hx hs, ?_⟩
    rw [side_negative]
    exact neg_limit_le_round _

theorem le_add_of_nonneg {x q : Float} (hx : x.isFinite = true) (hq : 0 ≤ q) : x ≤ x + q := by
  obtain ⟨r, h_lies, h_le⟩ := round_add_le hx hq (toRat_nonneg hq)
  rw [add_zero, round_toRat hx] at h_le
  exact le_of_lies (lies_toRat (isNaN_of_isFinite hx)) h_lies h_le

/-- Adding zero leaves the place. -/
theorem lies_add_zero {x z : Float} (hx : x.isFinite = true) (hz : z.isFinite = true)
    (h_zero : toRat z = 0) : Lies (x + z).toModel.unpack (toRat x) := by
  have h_lies := lies_toModel_add hx hz
  rwa [h_zero, add_zero, round_toRat hx] at h_lies

/-! ### Whole numbers -/

theorem toRat_one : toRat 1 = 1 := by
  decide +kernel

/-- A positive number that equals its whole part is at least one. -/
theorem one_le_of_isWhole {x : Float} (h : isWhole x = true) (h_pos : 0 < x) : 1 ≤ x := by
  obtain ⟨h_finite, h_same⟩ := Bool.and_eq_true_iff.mp h
  have h_rat := toRat_pos h_pos
  have h_truncate := toRat_eq_of_beq h_same
  refine (le_iff (isNaN_of_isFinite isFinite_one) (isNaN_of_isFinite h_finite)).mpr ?_
  rw [toRat_one]
  change x.toModel.unpack.isFinite = true at h_finite
  rw [truncate] at h_truncate
  have h_place : toRat x = place x.toModel.unpack := rfl
  generalize x.toModel.unpack = u at h_finite h_truncate h_place
  cases h_finite using finite_cases with
  | zero s => exact absurd h_place h_rat.ne'
  | finite s m e hm =>
    rw [h_place] at h_rat
    obtain rfl := side_pos (by positivity) h_rat
    rw [h_place]
    change (1 : ℚ) ≤ m * 2 ^ e
    dsimp only at h_truncate
    split at h_truncate
    · next h_e =>
      -- a mantissa of one at least, and nothing behind the point
      have h_m : (1 : ℚ) ≤ m := by exact_mod_cast hm
      exact one_le_mul_of_one_le_of_one_le h_m (one_le_zpow₀ (by norm_num) h_e)
    · next h_e =>
      -- a number below one has no whole part, which would make it zero
      by_contra h_small
      have h_exp : e = -((-e).toNat : ℤ) := by omega
      have h_lt : m < 2 ^ (-e).toNat := by
        rw [h_exp, zpow_neg, zpow_natCast, ← div_eq_mul_inv, not_le, div_lt_one (by positivity)]
          at h_small
        exact_mod_cast h_small
      have h_none : wholePart m e = 0 := by
        rw [wholePart, if_neg h_e]
        exact Nat.div_eq_of_lt h_lt
      rw [h_none, h_place] at h_truncate
      have h_zero : toRat (signed .positive 0) = 0 := by decide +kernel
      exact h_rat.ne (h_zero.symm.trans h_truncate)

end Scrim.Number

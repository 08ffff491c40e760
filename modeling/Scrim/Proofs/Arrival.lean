import Scrim.Proofs.Number.Precision
import Scrim.Proofs.Timeline

/-!
# Where a fade arrives

The line of a fade is computed with four roundings: of the rise, of its product with the time that
has passed, of the share of that which belongs to one millisecond, and of the sum with the start.
When the duration has passed, they may leave the line a little short of the target, by at most
`2 ^ -50` (`sub_le_travelled`). A little later there is nothing left that they could take away
(`le_travelled`). Below the normal range rounding does not keep to shares; but there the rise is
exact, and of its product it takes less than half a unit.

A fade downwards is a fade upwards in the mirror, since rounding does not know the direction of the
line. `Timeline.Underway` collects what is needed of a fade, and three results say how far from the
target its samples are.
-/

namespace Scrim

namespace Number

theorem travelled_neg (s g d y : ℚ) : travelled (-s) (-g) d y = -travelled s g d y := by
  have h_rise : -g - -s = -(g - s) := by ring
  unfold travelled
  rw [h_rise, round_neg, neg_mul, round_neg, neg_div, round_neg, ← neg_add, round_neg]

theorem round_one : round 1 = 1 := by
  have h_round := round_toRat isFinite_one
  rwa [toRat_one] at h_round

/-- Half of the finest unit is small next to the share that rounding takes of one. -/
theorem two_zpow_neg_1075_le : (2 : ℚ) ^ (-1075 : ℤ) ≤ 1 / 2 ^ 60 := by
  have h_le : (2 : ℚ) ^ (-1075 : ℤ) ≤ 2 ^ (-60 : ℤ) :=
    zpow_le_zpow_right₀ (by norm_num) (by norm_num)
  exact h_le.trans_eq (by norm_num)

section Travelled

variable {s g d y : ℚ} (hd : 1 ≤ d)

include hd

/-! ### On time -/

/-- Multiplying by a duration and dividing by it again loses hardly anything. -/
theorem sub_le_round_mul_div {rise : ℚ} (h_pos : 0 ≤ rise) (h_one : rise ≤ 1)
    (h_limit : d ≤ limit) : rise - 1 / 2 ^ 51 ≤ round (round (rise * d) / d) := by
  have hd_pos : 0 < d := by linarith
  have h_product : 0 ≤ rise * d := by positivity
  have h_product_le : rise * d ≤ d := mul_le_of_le_one_left hd_pos.le h_one
  -- first what the product has lost
  have h_travelled := sub_le_round h_product (h_product_le.trans h_limit)
  have h_travelled_pos := round_nonneg h_product
  have h_travelled_le := round_le_limit (rise * d)
  generalize round (rise * d) = travelled at h_travelled h_travelled_pos h_travelled_le ⊢
  -- dividing by the duration does not increase what rounding has taken
  have h_quotient : rise - (rise / 2 ^ 53 + 2 ^ (-1075 : ℤ)) ≤ travelled / d := by
    rw [le_div_iff₀ hd_pos]
    have h_tiny : (2 : ℚ) ^ (-1075 : ℤ) ≤ 2 ^ (-1075 : ℤ) * d :=
      le_mul_of_one_le_right (by positivity) hd
    linarith
  -- and then what the quotient has
  have h_quotient_le : travelled / d ≤ limit :=
    (div_le_self h_travelled_pos hd).trans h_travelled_le
  have h_share := sub_le_round (by positivity : 0 ≤ travelled / d) h_quotient_le
  linarith [two_zpow_neg_1075_le]

/-- **On time, the computed way is hardly short of its end.** -/
theorem sub_le_travelled (h_limit : d ≤ limit) (hs : -1 ≤ s) (h_lt : s < g) (hg : g ≤ 1)
    (h_unit : g - s ≤ 1) (h_round : round g = g) : g - 1 / 2 ^ 50 ≤ travelled s g d d := by
  have h_pos : 0 < g - s := sub_pos.mpr h_lt
  have h_one : (1 : ℚ) ≤ limit := (lt_limit_of_le (by norm_num)).le
  -- the rise may have lost a share, and what is made of it another
  have h_rise := sub_le_round h_pos.le (h_unit.trans h_one)
  have h_rise_pos := round_nonneg h_pos.le
  have h_rise_le := round_mono h_unit
  rw [round_one] at h_rise_le
  unfold travelled
  generalize round (g - s) = rise at h_rise h_rise_pos h_rise_le ⊢
  have h_share := sub_le_round_mul_div hd h_rise_pos h_rise_le h_limit
  have h_share_pos : 0 ≤ round (round (rise * d) / d) :=
    round_nonneg (div_nonneg (round_nonneg (by positivity)) (by linarith))
  generalize round (round (rise * d) / d) = share at h_share h_share_pos ⊢
  rcases le_or_gt g (s + share) with h_there | h_short
  · calc g - 1 / 2 ^ 50 ≤ g := by linarith
      _ = round g := h_round.symm
      _ ≤ round (s + share) := round_mono h_there
  · -- the sum lies between the two ends, where rounding takes little
    have h_abs : |s + share| ≤ 1 := abs_le.mpr ⟨by linarith, by linarith⟩
    have h_sum := (abs_le.mp (abs_round_sub_le (h_abs.trans h_one))).1
    linarith [two_zpow_neg_1075_le]

/-! ### A little later -/

/-- Multiplying by a little more than a duration and dividing by it loses nothing. -/
theorem le_round_mul_div {rise : ℚ} (h_multiple : Multiple rise) (h_pos : 0 < rise)
    (h_one : rise ≤ 1) (h_limit : d + d / 2 ^ 50 ≤ limit) :
    rise ≤ round (round (round rise * (d + d / 2 ^ 50)) / d) := by
  have hd_pos : 0 < d := by linarith
  have h_way : 0 < rise * d := by positivity
  have h_product : rise * (d + d / 2 ^ 50) = rise * d + rise * d / 2 ^ 50 := by ring
  rcases lt_or_ge (rise * (d + d / 2 ^ 50)) (2 ^ (-1021 : ℤ)) with h_small | h_large
  · -- on the finest grid the rise is exact, and half a unit is lost at most
    have h_rise_le : rise ≤ rise * d := le_mul_of_one_le_right h_pos.le hd
    have h_rise_small : rise < 2 ^ (-1021 : ℤ) := by linarith
    rw [h_multiple.round_eq h_pos h_rise_small]
    have h_travelled := (abs_le.mp (abs_round_sub_le_finest (by positivity) h_small)).1
    apply h_multiple.le_round_of_sub_lt h_pos h_rise_small
    rw [lt_div_iff₀ hd_pos, sub_mul]
    have h_tiny : (2 : ℚ) ^ (-1075 : ℤ) ≤ 2 ^ (-1075 : ℤ) * d :=
      le_mul_of_one_le_right (by positivity) hd
    linarith
  · -- elsewhere every step takes a small share, and there is more than enough
    have h_one_le : (1 : ℚ) ≤ limit := by linarith
    have h_rise := h_multiple.sub_share_le_round h_pos (h_one.trans h_one_le)
    have h_rise_le := round_mono h_one
    rw [round_one] at h_rise_le
    generalize round rise = rounded at h_rise h_rise_le ⊢
    have h_later : 0 ≤ d + d / 2 ^ 50 := by positivity
    have h_low := mul_le_mul_of_nonneg_right h_rise h_later
    have h_high := mul_le_mul_of_nonneg_right h_rise_le h_later
    have h_normal : (2 : ℚ) ^ (-1022 : ℤ) ≤ rounded * (d + d / 2 ^ 50) := by
      have h_half : (2 : ℚ) ^ (-1022 : ℤ) = 2 ^ (-1021 : ℤ) / 2 := by
        rw [div_eq_mul_inv, ← zpow_sub_one₀ (by norm_num)]
        norm_num only
      rw [h_half]
      linarith
    have h_travelled := (abs_le.mp (abs_round_sub_le_share h_normal (by linarith))).1
    apply h_multiple.le_round_of_add_share_le h_pos h_one
    rw [le_div_iff₀ hd_pos]
    linarith

/-- **A little later, the computed way has come to its end.** -/
theorem le_travelled (h_multiple : Multiple (g - s)) (h_lt : s < g) (h_unit : g - s ≤ 1)
    (h_round : round g = g) (h_later : d + d / 2 ^ 50 ≤ y) (h_limit : y ≤ limit) :
    g ≤ travelled s g d y := by
  have h_pos : 0 < g - s := sub_pos.mpr h_lt
  have h_share := le_round_mul_div hd h_multiple h_pos h_unit (h_later.trans h_limit)
  -- more time leads no less far, as every step keeps the order
  have h_mono : round (round (round (g - s) * (d + d / 2 ^ 50)) / d)
      ≤ round (round (round (g - s) * y) / d) := by
    have h_product := mul_le_mul_of_nonneg_left h_later (round_nonneg h_pos.le)
    exact round_mono (div_le_div_of_nonneg_right (round_mono h_product) (by linarith))
  calc g = round g := h_round.symm
    _ ≤ travelled s g d y := round_mono (by linarith)

end Travelled

theorem multiple_sub {x y : Float} (hx : x.isFinite = true) (hy : y.isFinite = true) :
    Multiple (toRat x - toRat y) := by
  obtain ⟨n, hn⟩ := exists_toRat_eq hx
  obtain ⟨k, hk⟩ := exists_toRat_eq hy
  refine ⟨n - k, ?_⟩
  rw [hn, hk, Int.cast_sub, sub_mul]

theorem toRat_le_limit {x : Float} (hx : 0 ≤ x) : toRat x ≤ limit := by
  have hx_num := (isNaN_of_le hx).2
  rcases isFinite_or_infinity hx_num with hx_fin | ⟨s, hs⟩
  · exact ((isFinite_iff hx_num).mp hx_fin).2.le
  · obtain rfl := eq_positive_of_nonneg hx hs
    rw [toRat, hs]
    exact le_rfl

end Number

open Number

theorem InUnit.toRat_nonneg {x : Float} (h : InUnit x) : 0 ≤ toRat x :=
  Number.toRat_nonneg h.nonneg

theorem InUnit.toRat_le_one {x : Float} (h : InUnit x) : toRat x ≤ 1 := by
  have h_le := toRat_le_of_le h.le_one
  rwa [toRat_one] at h_le

/-! ### The samples of a fade -/

/-- A fade that has somewhere to go and takes a millisecond at least, at a clock value that is not
before its start. -/
structure Timeline.Underway (t : Timeline) (target now : Float) : Prop where
  one_le : 1 ≤ t.duration
  isFinite : t.duration.isFinite = true
  start_inUnit : InUnit t.startAlpha
  target_inUnit : InUnit target
  ne : (t.startAlpha != target) = true
  elapsed : 0 ≤ now - t.startTime

namespace Timeline.Underway

variable {t : Timeline} {target now : Float} (h : t.Underway target now)

include h

theorem duration_pos : 0 < t.duration :=
  Number.lt_of_lt_of_le (by decide +kernel) h.one_le

theorem one_le_toRat : 1 ≤ toRat t.duration := by
  have h_le := toRat_le_of_le h.one_le
  rwa [toRat_one] at h_le

section Up

variable (h_up : t.startAlpha < target)

include h_up

theorem le_line : t.startAlpha ≤ t.line target now :=
  Timeline.le_line h.duration_pos h.isFinite h.start_inUnit h.target_inUnit h_up h.elapsed

theorem lies_sample_up :
    Lies (t.sample target now).toModel.unpack (min (toRat (t.line target now)) (toRat target)) :=
  Timeline.lies_sample_up h.duration_pos h.isFinite h.start_inUnit h.target_inUnit h_up h.elapsed

theorem travelled_le_toRat_line {y : ℚ} (hy : y ≤ toRat (now - t.startTime)) :
    travelled (toRat t.startAlpha) (toRat target) (toRat t.duration) y
      ≤ toRat (t.line target now) := by
  obtain ⟨q, h_line, hq⟩ := travelled_le_line h.duration_pos h.isFinite h.start_inUnit
    h.target_inUnit h_up h.elapsed hy
  rwa [toRat_of_lies h_line]

end Up

section Down

variable (h_down : target < t.startAlpha)

include h_down

theorem line_le : t.line target now ≤ t.startAlpha :=
  Timeline.line_le h.duration_pos h.isFinite h.start_inUnit h.target_inUnit h_down h.elapsed

theorem lies_sample_down :
    Lies (t.sample target now).toModel.unpack (max (toRat (t.line target now)) (toRat target)) :=
  Timeline.lies_sample_down h.duration_pos h.isFinite h.start_inUnit h.target_inUnit h_down
    h.elapsed

/-- A fade downwards travels as the one upwards that mirrors it. -/
theorem toRat_line_le_travelled {y : ℚ} (hy : y ≤ toRat (now - t.startTime)) :
    toRat (t.line target now)
      ≤ -travelled (-toRat t.startAlpha) (-toRat target) (toRat t.duration) y := by
  obtain ⟨q, h_line, hq⟩ := line_le_travelled h.duration_pos h.isFinite h.start_inUnit
    h.target_inUnit h_down h.elapsed hy
  rwa [travelled_neg, neg_neg, toRat_of_lies h_line]

end Down

theorem sample_isNaN : (t.sample target now).isNaN = false := by
  rcases Number.lt_or_gt_of_bne h.start_inUnit.isNaN h.target_inUnit.isNaN h.ne with h_up | h_down
  · exact (h.lies_sample_up h_up).isNaN_eq
  · exact (h.lies_sample_down h_down).isNaN_eq

/-- A number that lies at `q` equals the target if that lies there too. -/
theorem beq_target_iff {x : Float} {q : ℚ} (hx : Lies x.toModel.unpack q) :
    (x == target) = true ↔ q = toRat target := by
  rw [beq_iff hx.isNaN_eq h.target_inUnit.isNaN, toRat_of_lies hx]

/-- **A sample is at the target exactly if the line does not fall short of it.** -/
theorem sample_beq_iff :
    (t.sample target now == target) = true
      ↔ ¬OnTheWay t.startAlpha target (t.line target now) := by
  have h_start := h.start_inUnit.isNaN
  have h_target := h.target_inUnit.isNaN
  rcases Number.lt_or_gt_of_bne h_start h_target h.ne with h_up | h_down
  · -- the sample is the lesser of line and target
    have h_line := (isNaN_of_le (h.le_line h_up)).2
    have h_behind := toRat_le_of_le (h.le_line h_up)
    have h_ahead := toRat_lt_of_lt h_up
    rw [h.beq_target_iff (h.lies_sample_up h_up), min_eq_right_iff, OnTheWay,
      lt_iff h_line h_target, lt_iff h_target h_line, le_iff h_start h_line, le_iff h_line h_start]
    grind
  · -- the sample is the greater of line and target
    have h_line := (isNaN_of_le (h.line_le h_down)).1
    have h_behind := toRat_le_of_le (h.line_le h_down)
    have h_ahead := toRat_lt_of_lt h_down
    rw [h.beq_target_iff (h.lies_sample_down h_down), max_eq_right_iff, OnTheWay,
      lt_iff h_line h_target, lt_iff h_target h_line, le_iff h_start h_line, le_iff h_line h_start]
    grind

/-- **On time, a sample is hardly short of the target.** -/
theorem abs_sample_sub_le (h_time : t.duration ≤ now - t.startTime) :
    |toRat (t.sample target now) - toRat target| ≤ 1 / 2 ^ 50 := by
  have h_limit := toRat_le_limit (Number.le_of_lt h.duration_pos)
  have h_round := round_toRat h.target_inUnit.isFinite
  have h_elapsed := toRat_le_of_le h_time
  have hs := h.start_inUnit.toRat_nonneg
  have hs_one := h.start_inUnit.toRat_le_one
  have hg := h.target_inUnit.toRat_nonneg
  have hg_one := h.target_inUnit.toRat_le_one
  rcases Number.lt_or_gt_of_bne h.start_inUnit.isNaN h.target_inUnit.isNaN h.ne with h_up | h_down
  · -- the line is hardly short, and the sample is never beyond the target
    have h_near := sub_le_travelled h.one_le_toRat h_limit (by linarith) (toRat_lt_of_lt h_up)
      hg_one (by linarith) h_round
    have h_line := h_near.trans (h.travelled_le_toRat_line h_up h_elapsed)
    rw [toRat_of_lies (h.lies_sample_up h_up), abs_le]
    refine ⟨?_, by linarith [min_le_right (toRat (t.line target now)) (toRat target)]⟩
    linarith [le_min h_line (sub_le_self (toRat target) (by norm_num))]
  · -- the same in the mirror
    rw [← neg_inj, ← round_neg] at h_round
    have h_near := sub_le_travelled h.one_le_toRat h_limit (by linarith)
      (neg_lt_neg (toRat_lt_of_lt h_down)) (by linarith) (by linarith) h_round
    have h_line := (h.toRat_line_le_travelled h_down h_elapsed).trans (neg_le_neg h_near)
    rw [toRat_of_lies (h.lies_sample_down h_down), abs_le]
    refine ⟨by linarith [le_max_right (toRat (t.line target now)) (toRat target)], ?_⟩
    linarith [max_le h_line (by linarith : toRat target ≤ -(-toRat target - 1 / 2 ^ 50))]

/-- **A little later, a sample is at the target.** -/
theorem sample_beq
    (h_later : toRat t.duration + toRat t.duration / 2 ^ 50 ≤ toRat (now - t.startTime)) :
    (t.sample target now == target) = true := by
  have h_limit := toRat_le_limit h.elapsed
  have h_round := round_toRat h.target_inUnit.isFinite
  have h_start := h.start_inUnit.isFinite
  have h_target := h.target_inUnit.isFinite
  have hs := h.start_inUnit.toRat_nonneg
  have hs_one := h.start_inUnit.toRat_le_one
  have hg := h.target_inUnit.toRat_nonneg
  have hg_one := h.target_inUnit.toRat_le_one
  rcases Number.lt_or_gt_of_bne h.start_inUnit.isNaN h.target_inUnit.isNaN h.ne with h_up | h_down
  · -- the line is at the target or beyond it, and the sample is stopped there
    have h_there := le_travelled h.one_le_toRat (multiple_sub h_target h_start)
      (toRat_lt_of_lt h_up) (by linarith) h_round h_later h_limit
    rw [h.beq_target_iff (h.lies_sample_up h_up), min_eq_right_iff]
    exact h_there.trans (h.travelled_le_toRat_line h_up le_rfl)
  · -- the same in the mirror
    rw [← neg_inj, ← round_neg] at h_round
    have h_multiple := multiple_sub h_start h_target
    rw [show toRat t.startAlpha - toRat target = -toRat target - -toRat t.startAlpha by ring]
      at h_multiple
    have h_there := le_travelled h.one_le_toRat h_multiple (neg_lt_neg (toRat_lt_of_lt h_down))
      (by linarith) h_round h_later h_limit
    rw [h.beq_target_iff (h.lies_sample_down h_down), max_eq_right_iff]
    linarith [h.toRat_line_le_travelled h_down le_rfl]

end Timeline.Underway

end Scrim

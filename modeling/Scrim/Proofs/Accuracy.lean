import Scrim.Proofs.Arrival
import Scrim.Proofs.Shift

/-!
# How accurate samples are

While the duration of a fade has not passed, the four roundings of its line leave it within
`2 ^ -49` of the exact way (`Number.abs_travelled_sub_le`), and so the sample, which is nearer to
the exact way than the line if it is stopped at the target (`abs_sample_sub_exactAlpha_le`). Samples
between which the fade has more than twice that to go are therefore different (`ne_of_near`), and as
long as it has more than that to go to the target, a sample is not at the target.
-/

namespace Scrim

namespace Number

/-- Rounding does not lead past a double. -/
theorem abs_round_le {q b : ℚ} (hb : round b = b) (h : |q| ≤ b) : |round q| ≤ b := by
  obtain ⟨h_low, h_high⟩ := abs_le.mp h
  have h_round_low := round_mono h_low
  have h_round_high := round_mono h_high
  rw [round_neg, hb] at h_round_low
  rw [hb] at h_round_high
  exact abs_le.mpr ⟨h_round_low, h_round_high⟩

/-- Numbers up to eight are rounded by less than a small share of one. -/
theorem abs_round_sub_le_of_le {q b : ℚ} (h : |q| ≤ b) (hb : b ≤ 8) :
    |round q - q| ≤ b / 2 ^ 53 + 1 / 2 ^ 60 := by
  have h_limit : (8 : ℚ) ≤ limit := (lt_limit_of_le (by norm_num)).le
  have h_abs := abs_round_sub_le (h.trans (hb.trans h_limit))
  have h_share : |q| / 2 ^ 53 ≤ b / 2 ^ 53 := by gcongr
  linarith [two_zpow_neg_1075_le]

/-- **While the duration has not passed, the computed way is hardly off the exact one.** -/
theorem abs_travelled_sub_le {s g d y : ℚ} (hd : 1 ≤ d) (h_limit : d ≤ limit) (hs : |s| ≤ 1)
    (h_rise : |g - s| ≤ 1) (hy : 0 ≤ y) (hy_le : y ≤ d) :
    |travelled s g d y - (s + (g - s) * (y / d))| ≤ 1 / 2 ^ 49 := by
  have hd_pos : 0 < d := by linarith
  have h_part : 0 ≤ y / d := by positivity
  have h_part_le : y / d ≤ 1 := div_le_one_of_le₀ hy_le hd_pos.le
  unfold travelled
  generalize g - s = rise at h_rise ⊢
  -- the rise
  have h_first := abs_round_sub_le_of_le h_rise (by norm_num)
  have h_rounded := abs_round_le round_one h_rise
  generalize round rise = rounded at h_first h_rounded ⊢
  have h_exact : |rounded * (y / d) - rise * (y / d)| ≤ 1 / 2 ^ 53 + 1 / 2 ^ 60 := by
    rw [← sub_mul, abs_mul, abs_of_nonneg h_part]
    exact (mul_le_of_le_one_right (abs_nonneg _) h_part_le).trans h_first
  -- its product with the time
  have h_product : |rounded * y| ≤ d := by
    rw [abs_mul, abs_of_nonneg hy]
    exact (mul_le_of_le_one_left hy h_rounded).trans hy_le
  have h_second : |round (rounded * y) / d - rounded * (y / d)| ≤ 1 / 2 ^ 53 + 1 / 2 ^ 60 := by
    have h_abs := abs_round_sub_le (h_product.trans h_limit)
    rw [← mul_div_assoc, ← sub_div, abs_div, abs_of_pos hd_pos, div_le_iff₀ hd_pos]
    have h_share : |rounded * y| / 2 ^ 53 ≤ d / 2 ^ 53 := by gcongr
    have h_tiny : (1 : ℚ) / 2 ^ 60 ≤ 1 / 2 ^ 60 * d := le_mul_of_one_le_right (by positivity) hd
    linarith [two_zpow_neg_1075_le]
  -- the share of one millisecond
  have h_way : |rounded * (y / d)| ≤ 1 := by
    rw [abs_mul, abs_of_nonneg h_part]
    exact mul_le_one₀ h_rounded h_part h_part_le
  generalize round (rounded * y) / d = share at h_second ⊢
  generalize rounded * (y / d) = way at h_exact h_second h_way
  obtain ⟨h_way_low, h_way_high⟩ := abs_le.mp h_way
  obtain ⟨h_second_low, h_second_high⟩ := abs_le.mp h_second
  have h_third := abs_round_sub_le_of_le (q := share) (b := 2)
    (abs_le.mpr ⟨by linarith, by linarith⟩) (by norm_num)
  generalize round share = travelled at h_third ⊢
  obtain ⟨h_third_low, h_third_high⟩ := abs_le.mp h_third
  -- the sum with the start
  obtain ⟨hs_low, hs_high⟩ := abs_le.mp hs
  have h_fourth := abs_round_sub_le_of_le (q := s + travelled) (b := 4)
    (abs_le.mpr ⟨by linarith, by linarith⟩) (by norm_num)
  obtain ⟨h_fourth_low, h_fourth_high⟩ := abs_le.mp h_fourth
  obtain ⟨h_exact_low, h_exact_high⟩ := abs_le.mp h_exact
  exact abs_le.mpr ⟨by linarith, by linarith⟩

theorem one_lt_limit : (1 : ℚ) < limit :=
  lt_limit_of_le (by norm_num)

end Number

open Number

/-- The alpha of a fade after a time, if nothing is rounded. -/
def Timeline.exactAlpha (t : Timeline) (target : Float) (y : ℚ) : ℚ :=
  toRat t.startAlpha + (toRat target - toRat t.startAlpha) * (y / toRat t.duration)

/-- A fade begins at its start. -/
theorem Timeline.exactAlpha_zero (t : Timeline) (target : Float) :
    t.exactAlpha target 0 = toRat t.startAlpha := by
  unfold exactAlpha
  rw [zero_div, mul_zero, add_zero]

namespace Timeline.Underway

variable {t : Timeline} {target now : Float} (h : t.Underway target now)

include h

/-- A rise is no more than one, in either direction. -/
theorem abs_rise_le : |toRat target - toRat t.startAlpha| ≤ 1 :=
  abs_sub_le_of_nonneg_of_le h.target_inUnit.toRat_nonneg h.target_inUnit.toRat_le_one
    h.start_inUnit.toRat_nonneg h.start_inUnit.toRat_le_one

theorem duration_lt_limit : toRat t.duration < limit :=
  ((isFinite_iff (isNaN_of_isFinite h.isFinite)).mp h.isFinite).2

/-- The line of a fade whose duration has not passed is where it has travelled. -/
theorem lies_line (h_le : now - t.startTime ≤ t.duration) :
    Lies (t.line target now).toModel.unpack (travelled (toRat t.startAlpha) (toRat target)
      (toRat t.duration) (toRat (now - t.startTime))) := by
  have h_elapsed_finite : (now - t.startTime).isFinite = true :=
    isFinite_of_le_of_le isFinite_zero h.isFinite h.elapsed h_le
  have h_elapsed := Number.toRat_nonneg h.elapsed
  have h_elapsed_le := toRat_le_of_le h_le
  have h_pos : 0 < toRat t.duration := by linarith [h.one_le_toRat]
  unfold travelled
  -- what is computed at each step is finite, since the duration is
  have h_rise := lies_toModel_sub h.target_inUnit.isFinite h.start_inUnit.isFinite
  have h_rise_le := abs_round_le round_one h.abs_rise_le
  generalize Number.round (toRat target - toRat t.startAlpha) = rise at h_rise h_rise_le ⊢
  have h_rise_finite := isFinite_of_lies h_rise (h_rise_le.trans_lt one_lt_limit)
  have h_product := lies_toModel_mul h_rise_finite h_elapsed_finite
  rw [toRat_of_lies h_rise] at h_product
  have h_product_le : |rise * toRat (now - t.startTime)| ≤ toRat t.duration := by
    rw [abs_mul, abs_of_nonneg h_elapsed]
    exact (mul_le_of_le_one_left h_elapsed h_rise_le).trans h_elapsed_le
  replace h_product_le := abs_round_le (round_toRat h.isFinite) h_product_le
  generalize Number.round (rise * toRat (now - t.startTime)) = product
    at h_product h_product_le ⊢
  have h_product_finite := isFinite_of_lies h_product (h_product_le.trans_lt h.duration_lt_limit)
  have h_quotient := lies_toModel_div h_product_finite h.isFinite h_pos.ne'
  rw [toRat_of_lies h_product] at h_quotient
  have h_quotient_le : |product / toRat t.duration| ≤ 1 := by
    rw [abs_div, abs_of_pos h_pos]
    exact div_le_one_of_le₀ h_product_le h_pos.le
  replace h_quotient_le := abs_round_le round_one h_quotient_le
  have h_quotient_finite := isFinite_of_lies h_quotient (h_quotient_le.trans_lt one_lt_limit)
  have h_sum := lies_toModel_add h.start_inUnit.isFinite h_quotient_finite
  rwa [toRat_of_lies h_quotient] at h_sum

/-- **A sample is hardly off the exact way.** -/
theorem abs_sample_sub_exactAlpha_le (h_le : now - t.startTime ≤ t.duration) :
    |toRat (t.sample target now) - t.exactAlpha target (toRat (now - t.startTime))|
      ≤ 1 / 2 ^ 49 := by
  have h_elapsed := Number.toRat_nonneg h.elapsed
  have h_elapsed_le := toRat_le_of_le h_le
  have h_pos : 0 < toRat t.duration := by linarith [h.one_le_toRat]
  have h_part : 0 ≤ toRat (now - t.startTime) / toRat t.duration := by positivity
  have h_part_le : toRat (now - t.startTime) / toRat t.duration ≤ 1 :=
    div_le_one_of_le₀ h_elapsed_le h_pos.le
  have h_start : |toRat t.startAlpha| ≤ 1 := by
    rw [abs_of_nonneg h.start_inUnit.toRat_nonneg]
    exact h.start_inUnit.toRat_le_one
  have h_line := abs_travelled_sub_le h.one_le_toRat h.duration_lt_limit.le h_start h.abs_rise_le
    h_elapsed h_elapsed_le
  rw [← toRat_of_lies (h.lies_line h_le)] at h_line
  have h_bound : max |toRat (t.line target now) - t.exactAlpha target (toRat (now - t.startTime))|
      |toRat target - toRat target| ≤ 1 / 2 ^ 49 := by
    rw [sub_self, abs_zero]
    exact max_le h_line (by norm_num)
  -- the exact way has not passed the target, at which the line is stopped
  rcases Number.lt_or_gt_of_bne h.start_inUnit.isNaN h.target_inUnit.isNaN h.ne with h_up | h_down
  · have h_rise : 0 < toRat target - toRat t.startAlpha := sub_pos.mpr (toRat_lt_of_lt h_up)
    have h_short : t.exactAlpha target (toRat (now - t.startTime)) ≤ toRat target := by
      have h_way := mul_le_of_le_one_right h_rise.le h_part_le
      unfold exactAlpha
      linarith
    rw [toRat_of_lies (h.lies_sample_up h_up), ← min_eq_left h_short]
    exact (abs_min_sub_min_le_max _ _ _ _).trans (min_eq_left h_short ▸ h_bound)
  · have h_rise : toRat target - toRat t.startAlpha < 0 := sub_neg.mpr (toRat_lt_of_lt h_down)
    have h_short : toRat target ≤ t.exactAlpha target (toRat (now - t.startTime)) := by
      have h_way := mul_le_mul_of_nonpos_left h_part_le h_rise.le
      unfold exactAlpha
      linarith
    rw [toRat_of_lies (h.lies_sample_down h_down), ← max_eq_left h_short]
    exact (abs_max_sub_max_le_max _ _ _ _).trans (max_eq_left h_short ▸ h_bound)

/-- What is hardly off the exact way at one time is not what is hardly off it at another, if the
fade has far enough to go in between. -/
theorem ne_of_near {x x' y y' : ℚ} (hx : |x - t.exactAlpha target y| ≤ 1 / 2 ^ 49)
    (hx' : |x' - t.exactAlpha target y'| ≤ 1 / 2 ^ 49)
    (h_far : toRat t.duration / 2 ^ 48 < |toRat target - toRat t.startAlpha| * (y' - y)) :
    x ≠ x' := by
  rintro rfl
  have h_pos : 0 < toRat t.duration := by linarith [h.one_le_toRat]
  have h_way : t.exactAlpha target y' - t.exactAlpha target y
      = (toRat target - toRat t.startAlpha) * (y' - y) / toRat t.duration := by
    unfold exactAlpha
    ring
  have h_apart : 1 / 2 ^ 48 < |t.exactAlpha target y' - t.exactAlpha target y| := by
    rw [h_way, abs_div, abs_mul, abs_of_pos h_pos, lt_div_iff₀ h_pos]
    calc 1 / 2 ^ 48 * toRat t.duration = toRat t.duration / 2 ^ 48 := by ring
      _ < |toRat target - toRat t.startAlpha| * (y' - y) := h_far
      _ ≤ |toRat target - toRat t.startAlpha| * |y' - y| := by gcongr; exact le_abs_self _
  have h_triangle := abs_sub_le (t.exactAlpha target y') x (t.exactAlpha target y)
  rw [abs_sub_comm _ x] at h_triangle
  linarith

/-- And ends at its target. -/
theorem exactAlpha_duration : t.exactAlpha target (toRat t.duration) = toRat target := by
  have h_pos : 0 < toRat t.duration := by linarith [h.one_le_toRat]
  unfold exactAlpha
  rw [div_self h_pos.ne', mul_one, add_sub_cancel]

end Timeline.Underway

end Scrim

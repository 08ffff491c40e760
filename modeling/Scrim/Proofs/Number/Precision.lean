import Scrim.Proofs.Number.Nearest

/-!
# The precision of rounding

Rounding moves a number by half a unit of its grid at most. Above the finest grid that is no more
than a share of `2 ^ -53` of the number, and on the finest grid no more than `2 ^ -1075`;
`abs_round_sub_le` adds the two up.

The share alone bounds the loss of a multiple of the smallest double, such as a difference of
doubles, since on the finest grid it is not rounded at all (`Multiple.sub_share_le_round`). A number
that exceeds such a multiple by a little more than the share is not rounded below it
(`Multiple.le_round_of_add_share_le`).
-/

namespace Scrim.Number

/-! ### The nearest whole number -/

theorem abs_nearestWhole_sub_le (q : ℚ) : |(nearestWhole q : ℚ) - q| ≤ 1 / 2 := by
  have h_low := Int.floor_le q
  have h_high := Int.lt_floor_add_one q
  unfold nearestWhole
  split_ifs with h_below h_above
  · rw [abs_le]
    constructor <;> linarith
  · rw [abs_le]
    push_cast
    constructor <;> linarith
  · -- the tie, from which both neighbours are equally far
    have h_half : q - ⌊q⌋ = 1 / 2 := by linarith
    rcases Int.emod_two_eq_zero_or_one ⌊q⌋ with h_even | h_odd
    · rw [h_even, abs_le]
      push_cast
      constructor <;> linarith
    · rw [h_odd, abs_le]
      push_cast
      constructor <;> linarith

/-- A number that lies less than a half below a whole one is not rounded below it. -/
theorem le_nearestWhole_of_sub_half_lt {n : ℤ} {q : ℚ} (h : (n : ℚ) - 1 / 2 < q) :
    n ≤ nearestWhole q := by
  have h_near := (abs_le.mp (abs_nearestWhole_sub_le q)).1
  have h_lt : ((n - 1 : ℤ) : ℚ) < nearestWhole q := by
    push_cast
    linarith
  have h_int : n - 1 < nearestWhole q := by exact_mod_cast h_lt
  omega

/-! ### On the grid -/

theorem abs_onGrid_sub_le (q : ℚ) : |onGrid q - q| ≤ 2 ^ grid q / 2 := by
  have h_unit : (0 : ℚ) < 2 ^ grid q := by positivity
  have h_eq : onGrid q - q = (nearestWhole (q / 2 ^ grid q) - q / 2 ^ grid q) * 2 ^ grid q := by
    rw [onGrid, sub_mul, div_mul_cancel₀ _ h_unit.ne']
  rw [h_eq, abs_mul, abs_of_pos h_unit]
  calc |(nearestWhole (q / 2 ^ grid q) : ℚ) - q / 2 ^ grid q| * 2 ^ grid q
      ≤ 1 / 2 * 2 ^ grid q := mul_le_mul_of_nonneg_right (abs_nearestWhole_sub_le _) h_unit.le
    _ = 2 ^ grid q / 2 := by ring

/-- Half a unit of the grid is a small share of a number that is not too small itself. -/
theorem two_zpow_grid_div_le {q : ℚ} (h : 2 ^ (-1022 : ℤ) ≤ q) :
    (2 : ℚ) ^ grid q / 2 ≤ q / 2 ^ 53 := by
  have hq : 0 < q := lt_of_lt_of_le (by positivity) h
  have h_le : (2 : ℚ) ^ (52 + grid q) ≤ q := by
    rcases (neg_1074_le_grid q).lt_or_eq with h_lt | h_eq
    · exact two_zpow_grid_le hq h_lt
    · rw [← h_eq]
      exact h
  have h_digits : (2 : ℚ) ^ (52 + grid q) = 2 ^ 52 * 2 ^ grid q := by
    rw [zpow_add₀ (by norm_num)]
    norm_cast
  rw [h_digits] at h_le
  linarith

/-! ### Rounding -/

theorem two_zpow_le_limit {k : ℤ} (h : k ≤ 1024) : (2 : ℚ) ^ k ≤ limit :=
  zpow_le_zpow_right₀ (by norm_num) h

/-- What fits into fifty-three bits is far from the limit. -/
theorem lt_limit_of_le {q : ℚ} (h : q ≤ 2 ^ 53) : q < limit := by
  have h_zpow := two_zpow_le_limit (show ((54 : ℕ) : ℤ) ≤ 1024 by norm_num)
  rw [zpow_natCast] at h_zpow
  linarith

/-- Up to the limit, a number is not moved farther than half a unit of its grid. -/
theorem abs_round_sub_le_grid {q : ℚ} (hq : 0 ≤ q) (h : q ≤ limit) :
    |round q - q| ≤ 2 ^ grid q / 2 := by
  refine le_trans ?_ (abs_onGrid_sub_le q)
  rw [round_of_nonneg hq]
  rcases le_total (onGrid q) limit with h_le | h_ge
  · rw [min_eq_left h_le]
  · -- the limit lies between the number and the point of the grid
    rw [min_eq_right h_ge, abs_of_nonneg (by linarith), abs_of_nonneg (by linarith)]
    linarith

/-- A number that is not too small is not moved farther than a small share of it. -/
theorem abs_round_sub_le_share {q : ℚ} (h_low : 2 ^ (-1022 : ℤ) ≤ q) (h_high : q ≤ limit) :
    |round q - q| ≤ q / 2 ^ 53 :=
  (abs_round_sub_le_grid (le_trans (by positivity) h_low) h_high).trans
    (two_zpow_grid_div_le h_low)

theorem two_zpow_neg_1075 : (2 : ℚ) ^ (-1075 : ℤ) = 2 ^ (-1074 : ℤ) / 2 := by
  rw [div_eq_mul_inv, ← zpow_sub_one₀ (by norm_num)]
  norm_num only

/-- A number on the finest grid is not moved farther than half of its unit. -/
theorem abs_round_sub_le_finest {q : ℚ} (hq : 0 < q) (h : q < 2 ^ (-1021 : ℤ)) :
    |round q - q| ≤ 2 ^ (-1075 : ℤ) := by
  have h_limit : q ≤ limit := h.le.trans (two_zpow_le_limit (by norm_num))
  rw [two_zpow_neg_1075, ← grid_eq_of_lt hq h]
  exact abs_round_sub_le_grid hq.le h_limit

/-- **Rounding is precise** up to a small share of the number and half of the finest unit. -/
theorem abs_round_sub_le {q : ℚ} (h : |q| ≤ limit) :
    |round q - q| ≤ |q| / 2 ^ 53 + 2 ^ (-1075 : ℤ) := by
  have h_unit : (0 : ℚ) < 2 ^ (-1075 : ℤ) := by positivity
  -- what holds of a positive number
  have h_pos {r : ℚ} (hr : 0 < r) (h : r ≤ limit) :
      |round r - r| ≤ r / 2 ^ 53 + 2 ^ (-1075 : ℤ) := by
    rcases lt_or_ge r (2 ^ (-1021 : ℤ)) with h_small | h_large
    · have h_share : 0 ≤ r / 2 ^ 53 := by positivity
      linarith [abs_round_sub_le_finest hr h_small]
    · have h_normal : (2 : ℚ) ^ (-1022 : ℤ) ≤ r :=
        (zpow_le_zpow_right₀ (by norm_num) (by norm_num)).trans h_large
      linarith [abs_round_sub_le_share h_normal h]
  rcases lt_trichotomy q 0 with hq | rfl | hq
  · rw [abs_of_neg hq] at h ⊢
    have h_neg := h_pos (r := -q) (by linarith) h
    rwa [round_neg, ← neg_add', ← sub_eq_add_neg, abs_neg] at h_neg
  · simp only [round_zero, sub_zero, abs_zero, zero_div, zero_add]
    exact h_unit.le
  · rw [abs_of_pos hq] at h ⊢
    exact h_pos hq h

theorem sub_le_round {q : ℚ} (hq : 0 ≤ q) (h : q ≤ limit) :
    q - (q / 2 ^ 53 + 2 ^ (-1075 : ℤ)) ≤ round q := by
  have h_abs := abs_round_sub_le (q := q) (by rwa [abs_of_nonneg hq])
  rw [abs_of_nonneg hq] at h_abs
  linarith [(abs_le.mp h_abs).1]

/-! ### Multiples of the smallest double -/

/-- A multiple of the smallest positive double. -/
def Multiple (q : ℚ) : Prop :=
  ∃ n : ℤ, q = n * 2 ^ (-1074 : ℤ)

section Multiple

variable {q r : ℚ} (h_multiple : Multiple q) (hq : 0 < q)

include h_multiple hq

/-- Small multiples of the smallest double are doubles themselves. -/
theorem Multiple.round_eq (h : q < 2 ^ (-1021 : ℤ)) : round q = q := by
  have h_grid := grid_eq_of_lt hq h
  obtain ⟨n, hn⟩ := h_multiple
  have h_self : onGrid q = q := by
    rw [onGrid, h_grid, hn, mul_div_cancel_right₀ _ (by positivity), nearestWhole_intCast]
  rw [round_of_nonneg hq.le, h_self]
  exact min_eq_left (h.le.trans (two_zpow_le_limit (by norm_num)))

/-- Rounding takes no more than a small share away, however small the multiple is. -/
theorem Multiple.sub_share_le_round (h : q ≤ limit) : q - q / 2 ^ 53 ≤ round q := by
  rcases lt_or_ge q (2 ^ (-1021 : ℤ)) with h_small | h_large
  · rw [h_multiple.round_eq hq h_small]
    have h_share : 0 ≤ q / 2 ^ 53 := by positivity
    linarith
  · have h_normal : (2 : ℚ) ^ (-1022 : ℤ) ≤ q :=
      (zpow_le_zpow_right₀ (by norm_num) (by norm_num)).trans h_large
    linarith [(abs_le.mp (abs_round_sub_le_share h_normal h)).1]

/-- What lies less than half the finest unit below a small multiple is not rounded below it. -/
theorem Multiple.le_round_of_sub_lt (h : q < 2 ^ (-1021 : ℤ)) (h_lt : q - 2 ^ (-1075 : ℤ) < r) :
    q ≤ round r := by
  rcases le_total q r with h_le | h_ge
  · calc q = round q := (h_multiple.round_eq hq h).symm
      _ ≤ round r := round_mono h_le
  · obtain ⟨n, hn⟩ := h_multiple
    have h_unit : (0 : ℚ) < 2 ^ (-1074 : ℤ) := by positivity
    rw [two_zpow_neg_1075] at h_lt
    -- the multiple is at least the unit itself, so that half of it is left
    have h_one : 1 ≤ n := by
      rw [hn] at hq
      exact_mod_cast pos_of_mul_pos_left hq h_unit.le
    have h_cast : (1 : ℚ) ≤ n := by exact_mod_cast h_one
    have hr : 0 < r := by
      have h_scaled := mul_le_mul_of_nonneg_right h_cast h_unit.le
      rw [one_mul, ← hn] at h_scaled
      linarith
    have h_near : n ≤ nearestWhole (r / 2 ^ (-1074 : ℤ)) := by
      apply le_nearestWhole_of_sub_half_lt
      rw [lt_div_iff₀ h_unit, sub_mul, ← hn]
      linarith
    have h_whole : (n : ℚ) ≤ nearestWhole (r / 2 ^ (-1074 : ℤ)) := by exact_mod_cast h_near
    rw [round_of_nonneg hr.le, onGrid, grid_eq_of_lt hr (h_ge.trans_lt h)]
    refine le_min ?_ (h.le.trans (two_zpow_le_limit (by norm_num)))
    rw [hn]
    exact mul_le_mul_of_nonneg_right h_whole h_unit.le

/-- What exceeds a multiple by a little is not rounded below it. -/
theorem Multiple.le_round_of_add_share_le (h : q ≤ 1) (h_le : q + q / 2 ^ 52 ≤ r) :
    q ≤ round r := by
  rcases lt_or_ge q (2 ^ (-1021 : ℤ)) with h_small | h_large
  · have h_share : 0 ≤ q / 2 ^ 52 := by positivity
    calc q = round q := (h_multiple.round_eq hq h_small).symm
      _ ≤ round r := round_mono (by linarith)
  · have h_normal : (2 : ℚ) ^ (-1022 : ℤ) ≤ q + q / 2 ^ 52 := by
      refine ((zpow_le_zpow_right₀ (by norm_num) (by norm_num)).trans h_large).trans ?_
      have h_share : 0 ≤ q / 2 ^ 52 := by positivity
      linarith
    have h_two : (2 : ℚ) ^ (1 : ℤ) ≤ limit := two_zpow_le_limit (by norm_num)
    rw [zpow_one] at h_two
    have h_round := abs_round_sub_le_share h_normal (by linarith)
    calc q ≤ round (q + q / 2 ^ 52) := by linarith [(abs_le.mp h_round).1]
      _ ≤ round r := round_mono h_le

end Multiple

end Scrim.Number

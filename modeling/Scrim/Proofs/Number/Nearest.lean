import Mathlib.Algebra.Order.Field.Power
import Mathlib.Data.Int.Log
import Mathlib.Data.Rat.Floor
import Mathlib.Tactic.Linarith
import Mathlib.Tactic.Positivity
import Mathlib.Tactic.Ring

/-!
# Rounding to the nearest double

The doubles between two powers of two lie on a grid `2 ^ k · ℤ`, finer toward zero and never finer
than `2 ^ -1074`. `round q` is the point of that grid nearest to the rational `q`, with a tie going
to the even multiple, and stopped at `± limit`, the first number beyond the greatest double. There
the infinities stand, so that every double but the one that is not a number has a place among the
rationals, and order and arithmetic of doubles can be told there.

Two facts carry everything that is said of the arithmetic of doubles:

* `round_mono` — rounding keeps the order;
* `onGrid_eq_self` — a number that has no more digits than a double stays as it is.
-/

namespace Scrim.Number

/-! ### The nearest whole number -/

/-- The whole number nearest to `q`, and of two equally near ones the even one. -/
def nearestWhole (q : ℚ) : ℤ :=
  if q - ⌊q⌋ < 1 / 2 then ⌊q⌋
  else if 1 / 2 < q - ⌊q⌋ then ⌊q⌋ + 1
  else ⌊q⌋ + ⌊q⌋ % 2

theorem floor_le_nearestWhole (q : ℚ) : ⌊q⌋ ≤ nearestWhole q := by
  unfold nearestWhole
  split_ifs <;> omega

theorem nearestWhole_le_floor_add_one (q : ℚ) : nearestWhole q ≤ ⌊q⌋ + 1 := by
  unfold nearestWhole
  split_ifs <;> omega

@[simp] theorem nearestWhole_intCast (n : ℤ) : nearestWhole (n : ℚ) = n := by
  simp [nearestWhole]

@[simp] theorem nearestWhole_natCast (n : ℕ) : nearestWhole (n : ℚ) = n := by
  exact_mod_cast nearestWhole_intCast n

theorem nearestWhole_mono {q r : ℚ} (h : q ≤ r) : nearestWhole q ≤ nearestWhole r := by
  rcases (Int.floor_mono h).lt_or_eq with h_lt | h_eq
  · calc nearestWhole q ≤ ⌊q⌋ + 1 := nearestWhole_le_floor_add_one q
      _ ≤ ⌊r⌋ := h_lt
      _ ≤ nearestWhole r := floor_le_nearestWhole r
  · -- in one unit interval the fraction alone decides, and it has not become smaller
    have h_fract : q - ⌊q⌋ ≤ r - ⌊q⌋ := by linarith
    unfold nearestWhole
    rw [← h_eq]
    split_ifs <;> first | omega | (exfalso; linarith)

/-- A whole bound from below is a bound of the nearest whole number too. -/
theorem le_nearestWhole {n : ℤ} {q : ℚ} (h : (n : ℚ) ≤ q) : n ≤ nearestWhole q := by
  simpa using nearestWhole_mono h

/-- A whole bound from above is a bound of the nearest whole number too. -/
theorem nearestWhole_le {n : ℤ} {q : ℚ} (h : q ≤ (n : ℚ)) : nearestWhole q ≤ n := by
  simpa using nearestWhole_mono h

/-! ### The grid -/

/-- A power of two, split into a whole one and the unit of a grid. -/
theorem two_zpow_add (k : ℕ) (e : ℤ) : (2 : ℚ) ^ (k + e) = ((2 ^ k : ℤ) : ℚ) * 2 ^ e := by
  rw [zpow_add₀ (by norm_num), zpow_natCast]
  push_cast
  rfl

/-- The exponent of the grid on which a positive number is rounded: fifty-three binary digits from
its leading one, but none below `2 ^ -1074`. -/
def grid (q : ℚ) : ℤ :=
  max (Int.log 2 q - 52) (-1074)

theorem neg_1074_le_grid (q : ℚ) : -1074 ≤ grid q :=
  le_max_right _ _

theorem grid_mono {q r : ℚ} (hq : 0 < q) (h : q ≤ r) : grid q ≤ grid r := by
  have h_log := Int.log_mono_right (b := 2) hq h
  unfold grid
  omega

/-- On its grid a number has at most fifty-three digits. -/
theorem lt_two_zpow_grid (q : ℚ) : q < 2 ^ (53 + grid q) := by
  have h_log : q < 2 ^ (Int.log 2 q + 1) := by
    exact_mod_cast Int.lt_zpow_succ_log_self (b := 2) (by norm_num) q
  have h_exp : Int.log 2 q + 1 ≤ 53 + grid q := by unfold grid; omega
  exact h_log.trans_le (zpow_le_zpow_right₀ (by norm_num) h_exp)

/-- On a grid coarser than the finest it has all of them. -/
theorem two_zpow_grid_le {q : ℚ} (hq : 0 < q) (h : -1074 < grid q) : 2 ^ (52 + grid q) ≤ q := by
  have h_log : (2 : ℚ) ^ Int.log 2 q ≤ q := by
    exact_mod_cast Int.zpow_log_le_self (b := 2) (by norm_num) hq
  have h_exp : 52 + grid q = Int.log 2 q := by unfold grid at h ⊢; omega
  rwa [h_exp]

/-- The grid of a number in a given binade. -/
theorem grid_eq_of_mem_binade {q : ℚ} {k : ℤ} (h₁ : 2 ^ k ≤ q) (h₂ : q < 2 ^ (k + 1)) :
    grid q = max (k - 52) (-1074) := by
  have hq : 0 < q := lt_of_lt_of_le (by positivity) h₁
  have h_le : k ≤ Int.log 2 q :=
    (Int.zpow_le_iff_le_log (by norm_num) hq).mp (by exact_mod_cast h₁)
  have h_lt : Int.log 2 q < k + 1 :=
    (Int.lt_zpow_iff_log_lt (by norm_num) hq).mp (by exact_mod_cast h₂)
  have h_eq : Int.log 2 q = k := by omega
  rw [grid, h_eq]

/-- All numbers that are small enough are rounded on the finest grid. -/
theorem grid_eq_of_lt {q : ℚ} (hq : 0 < q) (h : q < 2 ^ (-1021 : ℤ)) : grid q = -1074 := by
  have h_log : Int.log 2 q < -1021 :=
    (Int.lt_zpow_iff_log_lt (by norm_num) hq).mp (by exact_mod_cast h)
  unfold grid
  omega

/-! ### Rounding on the grid -/

/-- A number that is not negative, rounded on its grid. -/
def onGrid (q : ℚ) : ℚ :=
  nearestWhole (q / 2 ^ grid q) * 2 ^ grid q

@[simp] theorem onGrid_zero : onGrid 0 = 0 := by
  have h := nearestWhole_intCast 0
  rw [Int.cast_zero] at h
  rw [onGrid, zero_div, h, Int.cast_zero, zero_mul]

theorem onGrid_nonneg {q : ℚ} (hq : 0 ≤ q) : 0 ≤ onGrid q := by
  have h_whole : (0 : ℤ) ≤ nearestWhole (q / 2 ^ grid q) :=
    le_nearestWhole (by rw [Int.cast_zero]; positivity)
  have h_cast : (0 : ℚ) ≤ nearestWhole (q / 2 ^ grid q) := by exact_mod_cast h_whole
  unfold onGrid
  positivity

/-- The multiple to which a number is rounded has at most fifty-three digits, or is the next power
of two. -/
theorem nearestWhole_grid_le (q : ℚ) : nearestWhole (q / 2 ^ grid q) ≤ 2 ^ 53 := by
  refine nearestWhole_le ?_
  rw [div_le_iff₀ (by positivity), ← two_zpow_add]
  exact (lt_two_zpow_grid q).le

/-- On a grid coarser than the finest it has fifty-three digits. -/
theorem le_nearestWhole_grid {q : ℚ} (hq : 0 < q) (h : -1074 < grid q) :
    2 ^ 52 ≤ nearestWhole (q / 2 ^ grid q) := by
  refine le_nearestWhole ?_
  rw [le_div_iff₀ (by positivity), ← two_zpow_add]
  exact two_zpow_grid_le hq h

/-- Rounding does not leave the binade above. -/
theorem onGrid_le_two_zpow (q : ℚ) : onGrid q ≤ 2 ^ (53 + grid q) := by
  have h_whole : (nearestWhole (q / 2 ^ grid q) : ℚ) ≤ (2 ^ 53 : ℤ) := by
    exact_mod_cast nearestWhole_grid_le q
  calc onGrid q ≤ (2 ^ 53 : ℤ) * 2 ^ grid q := mul_le_mul_of_nonneg_right h_whole (by positivity)
    _ = 2 ^ (53 + grid q) := (two_zpow_add 53 (grid q)).symm

/-- Above the finest grid, rounding does not leave the binade below. -/
theorem two_zpow_le_onGrid {q : ℚ} (hq : 0 < q) (h : -1074 < grid q) :
    2 ^ (52 + grid q) ≤ onGrid q := by
  have h_whole : ((2 ^ 52 : ℤ) : ℚ) ≤ nearestWhole (q / 2 ^ grid q) := by
    exact_mod_cast le_nearestWhole_grid hq h
  calc (2 : ℚ) ^ (52 + grid q) = (2 ^ 52 : ℤ) * 2 ^ grid q := two_zpow_add 52 (grid q)
    _ ≤ onGrid q := mul_le_mul_of_nonneg_right h_whole (by positivity)

theorem onGrid_mono {q r : ℚ} (hq : 0 ≤ q) (h : q ≤ r) : onGrid q ≤ onGrid r := by
  rcases hq.eq_or_lt with rfl | hq
  · simpa using onGrid_nonneg h
  rcases (grid_mono hq h).lt_or_eq with h_lt | h_eq
  · -- a power of two stands between numbers on different grids
    have hr : 0 < r := hq.trans_le h
    have h_coarse : -1074 < grid r := (neg_1074_le_grid q).trans_lt h_lt
    calc onGrid q ≤ 2 ^ (53 + grid q) := onGrid_le_two_zpow q
      _ ≤ 2 ^ (52 + grid r) := zpow_le_zpow_right₀ (by norm_num) (by omega)
      _ ≤ onGrid r := two_zpow_le_onGrid hr h_coarse
  · -- on one grid the multiples keep the order
    have h_quot : q / 2 ^ grid r ≤ r / 2 ^ grid r :=
      div_le_div_of_nonneg_right h (by positivity)
    have h_whole : (nearestWhole (q / 2 ^ grid r) : ℚ) ≤ nearestWhole (r / 2 ^ grid r) := by
      exact_mod_cast nearestWhole_mono h_quot
    unfold onGrid
    rw [h_eq]
    exact mul_le_mul_of_nonneg_right h_whole (by positivity)

/-- A number of at most fifty-three digits, none of them below `2 ^ -1074`, stays as it is. -/
theorem onGrid_eq_self {m : ℕ} {e : ℤ} (hm : m < 2 ^ 53) (he : -1074 ≤ e) :
    onGrid (m * 2 ^ e) = m * 2 ^ e := by
  rcases Nat.eq_zero_or_pos m with rfl | hm_pos
  · simp
  have hq : (0 : ℚ) < m * 2 ^ e := by positivity
  -- the grid is no coarser than the unit in which the number is given
  have h_grid : grid (m * 2 ^ e) ≤ e := by
    have h_lt : (m * 2 ^ e : ℚ) < 2 ^ (53 + e) := by
      rw [zpow_add₀ (by norm_num)]
      refine mul_lt_mul_of_pos_right ?_ (by positivity)
      exact_mod_cast hm
    have h_log : Int.log 2 (m * 2 ^ e : ℚ) < 53 + e :=
      (Int.lt_zpow_iff_log_lt (by norm_num) hq).mp (by exact_mod_cast h_lt)
    unfold grid
    omega
  -- so the number is one of its points
  obtain ⟨k, hk⟩ := Int.le.dest h_grid
  have h_quot : (m * 2 ^ e : ℚ) / 2 ^ grid (m * 2 ^ e) = ((m * 2 ^ k : ℕ) : ℚ) := by
    rw [div_eq_iff (by positivity)]
    push_cast
    rw [mul_assoc, ← zpow_natCast (2 : ℚ) k, ← zpow_add₀ (by norm_num)]
    congr 2
    omega
  rw [onGrid, h_quot, nearestWhole_natCast, Int.cast_natCast, ← h_quot]
  exact div_mul_cancel₀ _ (by positivity)

/-! ### Rounding -/

/-- The first number beyond the greatest double. -/
def limit : ℚ :=
  2 ^ (1024 : ℤ)

theorem limit_pos : 0 < limit := by
  unfold limit
  positivity

/-- The double nearest to a rational, with the infinities at `± limit`. -/
def round (q : ℚ) : ℚ :=
  if 0 ≤ q then min (onGrid q) limit else -min (onGrid (-q)) limit

theorem round_of_nonneg {q : ℚ} (hq : 0 ≤ q) : round q = min (onGrid q) limit :=
  if_pos hq

@[simp] theorem round_zero : round 0 = 0 := by
  rw [round_of_nonneg le_rfl, onGrid_zero, min_eq_left limit_pos.le]

/-- Rounding does not know the direction of the line. -/
@[simp] theorem round_neg (q : ℚ) : round (-q) = -round q := by
  rcases lt_trichotomy q 0 with hq | rfl | hq
  · rw [round_of_nonneg (by linarith), round, if_neg (by linarith), neg_neg]
  · simp
  · rw [round_of_nonneg hq.le, round, if_neg (by linarith), neg_neg]

theorem round_nonneg {q : ℚ} (hq : 0 ≤ q) : 0 ≤ round q := by
  rw [round_of_nonneg hq]
  exact le_min (onGrid_nonneg hq) limit_pos.le

/-- **Rounding keeps the order.** -/
theorem round_mono {q r : ℚ} (h : q ≤ r) : round q ≤ round r := by
  by_cases hq : 0 ≤ q
  · rw [round_of_nonneg hq, round_of_nonneg (hq.trans h)]
    exact min_le_min_right _ (onGrid_mono hq h)
  by_cases hr : 0 ≤ r
  · -- zero stands between the two
    have h_neg : 0 ≤ round (-q) := round_nonneg (by linarith)
    rw [round_neg] at h_neg
    linarith [round_nonneg hr]
  · -- seen from the other end, `r` is the smaller
    have h_neg : round (-r) ≤ round (-q) := by
      rw [round_of_nonneg (by linarith), round_of_nonneg (by linarith)]
      exact min_le_min_right _ (onGrid_mono (by linarith) (by linarith))
    rw [round_neg, round_neg] at h_neg
    linarith

theorem round_le_limit (q : ℚ) : round q ≤ limit := by
  by_cases hq : 0 ≤ q
  · rw [round_of_nonneg hq]
    exact min_le_right _ _
  · have h_neg : 0 ≤ round (-q) := round_nonneg (by linarith)
    rw [round_neg] at h_neg
    linarith [limit_pos]

theorem neg_limit_le_round (q : ℚ) : -limit ≤ round q := by
  have h_le := round_le_limit (-q)
  rw [round_neg] at h_le
  linarith

end Scrim.Number

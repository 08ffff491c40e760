import Scrim.Proofs.Number.Precision
import Scrim.Proofs.Progress

/-!
# Timelines at another time

Only the time that has passed enters a sample. A timeline that starts some milliseconds later, and
is looked at as many milliseconds later, is therefore at the same alpha: the difference of two
doubles depends on the difference of their places only (`Timeline.Postponed.elapsed_beq`), and each
operation after it on nothing but the places of its operands (`Timeline.Parallel.sample_beq`).

Ends are compared as sums, and a sum may be rounded. Whether a request outruns a timeline is the
same later only if nothing is lost in these sums (`Timeline.Postponed.outrunBy_eq`). Whole numbers
of up to fifty-three bits lose nothing (`exactSum_of_whole`).
-/

open Float.Model.UnpackedFloat

namespace Scrim

namespace Number

/-! ### Operations on equal numbers -/

theorem beq_of_lies {x y : Float} {q : ℚ} (hx : Lies x.toModel.unpack q)
    (hy : Lies y.toModel.unpack q) : (x == y) = true :=
  Number.beq_of_le_of_le (le_of_lies hx hy le_rfl) (le_of_lies hy hx le_rfl)

/-- Equal numbers are carried to the same place. -/
theorem carried_congr (g : ℚ → ℚ) {x y : Float} (h : (x == y) = true) :
    carried g x = carried g y := by
  have h_rat := toRat_eq_of_beq h
  obtain ⟨hx, hy⟩ := isNaN_of_beq h
  -- which side of the limit a number is on is a matter of its place
  have h_finite : x.isFinite = y.isFinite := by
    rw [Bool.eq_iff_iff, isFinite_iff hx, isFinite_iff hy, h_rat]
  rw [carried, carried, h_finite, h_rat]

section Congr

variable {x y : Float} (h : (x == y) = true)

include h

protected theorem mul_congr {c c' : Float} (hc : c.isFinite = true) (hc' : c'.isFinite = true)
    (h_c : (c == c') = true) (h_sign : 0 < c ∨ c < 0) : (c * x == c' * y) = true := by
  obtain ⟨hx, hy⟩ := isNaN_of_beq h
  have h_rat := toRat_eq_of_beq h_c
  rcases h_sign with h_pos | h_neg
  · -- either factor is carried, and equal numbers are carried to the same place
    have h_lies := lies_mul_of_pos hc h_pos hx
    rw [carried_congr _ h, h_rat] at h_lies
    exact beq_of_lies h_lies (lies_mul_of_pos hc' ((Number.lt_congr_right h_c 0).mp h_pos) hy)
  · have h_lies := lies_mul_of_neg hc h_neg hx
    rw [carried_congr _ h, h_rat] at h_lies
    exact beq_of_lies h_lies (lies_mul_of_neg hc' ((Number.lt_congr_left h_c 0).mp h_neg) hy)

protected theorem div_congr {d : Float} (hd : d.isFinite = true) (hd_pos : 0 < d) :
    (x / d == y / d) = true := by
  obtain ⟨hx, hy⟩ := isNaN_of_beq h
  have h_lies := lies_div_of_pos hx hd hd_pos
  rw [carried_congr _ h] at h_lies
  exact beq_of_lies h_lies (lies_div_of_pos hy hd hd_pos)

protected theorem add_congr {z z' : Float} (hz : z.isFinite = true) (hz' : z'.isFinite = true)
    (h_z : (z == z') = true) : (z + x == z' + y) = true := by
  obtain ⟨hx, hy⟩ := isNaN_of_beq h
  have h_lies := lies_add_of_isFinite hz hx
  rw [carried_congr _ h, toRat_eq_of_beq h_z] at h_lies
  exact beq_of_lies h_lies (lies_add_of_isFinite hz' hy)

end Congr

/-- Differences depend on the difference of the places only. -/
protected theorem sub_beq_of_sub_eq {x y x' y' : Float} (hx : x.isFinite = true)
    (hy : y.isFinite = true) (hx' : x'.isFinite = true) (hy' : y'.isFinite = true)
    (h : toRat x - toRat y = toRat x' - toRat y') : (x - y == x' - y') = true := by
  have h_lies := lies_toModel_sub hx hy
  rw [h] at h_lies
  exact beq_of_lies h_lies (lies_toModel_sub hx' hy')

/-! ### Sums without loss -/

/-- Nothing is lost in computing a sum. -/
def ExactSum (x y : Float) : Prop :=
  Lies (x + y).toModel.unpack (toRat x + toRat y)

theorem exactSum_zero {x : Float} (hx : x.isFinite = true) : ExactSum x 0 := by
  have h_lies := lies_add_zero hx isFinite_zero toRat_zero
  rwa [ExactSum, toRat_zero, add_zero]

/-- In sums of whole numbers that stay within fifty-three bits nothing is lost. -/
theorem exactSum_of_whole {x y : Float} (hx : x.isFinite = true) (hy : y.isFinite = true) {m n : ℤ}
    (hm : toRat x = m) (hn : toRat y = n) (h : |m + n| ≤ 2 ^ 53) : ExactSum x y := by
  have h_lies := lies_toModel_add hx hy
  -- the sum is an integer that fits, and so its own rounding
  rwa [hm, hn, ← Int.cast_add, round_intCast h, Int.cast_add, ← hm, ← hn] at h_lies

end Number

open Number

theorem InUnit.of_beq {x y : Float} (h : InUnit x) (h_eq : (x == y) = true) : InUnit y :=
  ⟨Number.le_trans h.nonneg (Number.le_of_beq h_eq),
    Number.le_trans (Number.le_of_beq (Number.beq_symm h_eq)) h.le_one⟩

/-! ### Samples -/

/-- Fades of the same length from equal alphas to the same target. -/
structure Timeline.Parallel (t t' : Timeline) (target : Float) : Prop where
  duration_pos : 0 < t.duration
  isFinite : t.duration.isFinite = true
  duration_eq : t.duration = t'.duration
  start_inUnit : InUnit t.startAlpha
  startAlpha_beq : (t.startAlpha == t'.startAlpha) = true
  target_inUnit : InUnit target
  ne : (t.startAlpha != target) = true

namespace Timeline.Parallel

variable {t t' : Timeline} {target now now' : Float} (h : t.Parallel t' target)

include h

theorem start_inUnit' : InUnit t'.startAlpha :=
  h.start_inUnit.of_beq h.startAlpha_beq

/-- They rise, or fall, by the same. -/
theorem rise_beq : (target - t.startAlpha == target - t'.startAlpha) = true :=
  Number.sub_beq_of_sub_eq h.target_inUnit.isFinite h.start_inUnit.isFinite h.target_inUnit.isFinite
    h.start_inUnit'.isFinite (by rw [toRat_eq_of_beq h.startAlpha_beq])

variable (h_elapsed : (now - t.startTime == now' - t'.startTime) = true)

include h_elapsed

/-- When as much time has passed, their lines are at the same alpha. -/
theorem line_beq : (t.line target now == t'.line target now') = true := by
  have h_start := h.start_inUnit
  have h_target := h.target_inUnit
  have h_finite {start : Float} (h_start : InUnit start) : (target - start).isFinite = true :=
    isFinite_sub isFinite_one h_target.nonneg h_target.le_one h_start.nonneg h_start.le_one
  have h_sign : 0 < target - t.startAlpha ∨ target - t.startAlpha < 0 :=
    (Number.lt_or_gt_of_bne h_start.isNaN h_target.isNaN h.ne).imp
      (sub_pos_of_lt h_start.isFinite h_target.isFinite)
      (sub_neg_of_lt h_target.isFinite h_start.isFinite)
  have h_product := Number.mul_congr h_elapsed (h_finite h_start) (h_finite h.start_inUnit')
    h.rise_beq h_sign
  have h_quotient := Number.div_congr h_product h.isFinite h.duration_pos
  unfold line
  rw [← h.duration_eq]
  exact Number.add_congr h_quotient h_start.isFinite h.start_inUnit'.isFinite h.startAlpha_beq

/-- And so are their samples, which are stopped at the target alike. -/
theorem sample_beq : (t.sample target now == t'.sample target now') = true := by
  have h_line := h.line_beq h_elapsed
  have h_duration' : 0 < t'.duration := h.duration_eq ▸ h.duration_pos
  have h_beyond : (0 < target - t.startAlpha ∧ target < t.line target now)
        ∨ (target - t.startAlpha < 0 ∧ t.line target now < target)
      ↔ (0 < target - t'.startAlpha ∧ target < t'.line target now')
        ∨ (target - t'.startAlpha < 0 ∧ t'.line target now' < target) :=
    or_congr
      (and_congr (Number.lt_congr_right h.rise_beq 0) (Number.lt_congr_right h_line target))
      (and_congr (Number.lt_congr_left h.rise_beq 0) (Number.lt_congr_left h_line target))
  rw [sample_eq h.duration_pos, sample_eq h_duration']
  by_cases h_stopped : (0 < target - t.startAlpha ∧ target < t.line target now)
      ∨ (target - t.startAlpha < 0 ∧ t.line target now < target)
  · rw [if_pos h_stopped, if_pos (h_beyond.mp h_stopped)]
    exact Number.beq_refl h.target_inUnit.isNaN
  · rw [if_neg h_stopped, if_neg (fun h' => h_stopped (h_beyond.mpr h'))]
    exact h_line

end Timeline.Parallel

/-- A timeline may be sampled for either of two equal targets. -/
theorem Timeline.sample_congr {t : Timeline} {target target' now : Float}
    (h_duration : 0 < t.duration) (h_finite : t.duration.isFinite = true)
    (h_start : InUnit t.startAlpha) (h_target : InUnit target)
    (h_ne : (t.startAlpha != target) = true) (h_eq : (target == target') = true)
    (h_elapsed : 0 ≤ now - t.startTime) :
    (t.sample target now == t.sample target' now) = true := by
  have h_target' := h_target.of_beq h_eq
  have h_rat := toRat_eq_of_beq h_eq
  have h_rise : (target - t.startAlpha == target' - t.startAlpha) = true :=
    Number.sub_beq_of_sub_eq h_target.isFinite h_start.isFinite h_target'.isFinite
      h_start.isFinite (by rw [h_rat])
  have h_rise_finite {target : Float} (h : InUnit target) :
      (target - t.startAlpha).isFinite = true :=
    isFinite_sub isFinite_one h.nonneg h.le_one h_start.nonneg h_start.le_one
  have h_sides := Number.lt_or_gt_of_bne h_start.isNaN h_target.isNaN h_ne
  have h_line : (t.line target now == t.line target' now) = true := by
    have h_sign : 0 < target - t.startAlpha ∨ target - t.startAlpha < 0 :=
      h_sides.imp (sub_pos_of_lt h_start.isFinite h_target.isFinite)
        (sub_neg_of_lt h_target.isFinite h_start.isFinite)
    have h_product := Number.mul_congr (Number.beq_refl (isNaN_of_le h_elapsed).2)
      (h_rise_finite h_target) (h_rise_finite h_target') h_rise h_sign
    exact Number.add_congr (Number.div_congr h_product h_finite h_duration) h_start.isFinite
      h_start.isFinite (Number.beq_refl h_start.isNaN)
  -- cut off at equal targets, the samples are in the same place
  rcases h_sides with h_up | h_down
  · have h_up' := (Number.lt_congr_right h_eq t.startAlpha).mp h_up
    have h_sample := lies_sample_up h_duration h_finite h_start h_target h_up h_elapsed
    rw [h_rat, toRat_eq_of_beq h_line] at h_sample
    exact beq_of_lies h_sample
      (lies_sample_up h_duration h_finite h_start h_target' h_up' h_elapsed)
  · have h_down' := (Number.lt_congr_left h_eq t.startAlpha).mp h_down
    have h_sample := lies_sample_down h_duration h_finite h_start h_target h_down h_elapsed
    rw [h_rat, toRat_eq_of_beq h_line] at h_sample
    exact beq_of_lies h_sample
      (lies_sample_down h_duration h_finite h_start h_target' h_down' h_elapsed)

/-! ### A timeline that starts later -/

/-- A timeline that has been started, and one that was started some milliseconds later. In computing
their ends nothing is lost. -/
structure Timeline.Postponed (c : ℚ) (t t' : Timeline) : Prop where
  duration_pos : 0 < t.duration
  duration_eq : t.duration = t'.duration
  startAlpha_beq : (t.startAlpha == t'.startAlpha) = true
  startTime_eq : toRat t'.startTime = toRat t.startTime + c
  isFinite : t.startTime.isFinite = true
  isFinite' : t'.startTime.isFinite = true
  exact : ExactSum t.startTime t.duration
  exact' : ExactSum t'.startTime t'.duration

namespace Timeline.Postponed

variable {c : ℚ} {t t' : Timeline} {now now' : Float} (h : t.Postponed c t')
  (h_now : toRat now' = toRat now + c)

include h h_now

/-- Looked at as much later, it has run for the same time. -/
theorem elapsed_beq (h_finite : now.isFinite = true) (h_finite' : now'.isFinite = true) :
    (now - t.startTime == now' - t'.startTime) = true := by
  refine Number.sub_beq_of_sub_eq h_finite h.isFinite h_finite' h.isFinite' ?_
  rw [h_now, h.startTime_eq]
  ring

/-- **What outruns a timeline outruns it later as well.** -/
theorem outrunBy_eq {duration : Float} (h_exact : ExactSum now duration)
    (h_exact' : ExactSum now' duration) :
    t.outrunBy duration now = t'.outrunBy duration now' := by
  unfold outrunBy finish
  -- all four ends are exact, and both sides are later by the same
  rw [decide_eq_decide, lt_iff h_exact.isNaN_eq h.exact.isNaN_eq,
    lt_iff h_exact'.isNaN_eq h.exact'.isNaN_eq, toRat_of_lies h_exact, toRat_of_lies h_exact',
    toRat_of_lies h.exact, toRat_of_lies h.exact', h_now, h.startTime_eq, ← h.duration_eq]
  constructor <;> intro h_lt <;> linarith

end Timeline.Postponed

end Scrim

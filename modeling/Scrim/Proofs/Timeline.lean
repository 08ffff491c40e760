import Scrim.Proofs.Number.Laws
import Scrim.Timeline

/-!
# Samples of a timeline

A sample lies on the line that leads from the start of its fade to the target, but not beyond the
target, where it is stopped (`Timeline.lies_sample_up` and its mirror). How far the line leads is
computed with doubles, step by step, and each step keeps what bounds its operands, even if it
overflows. So a line leads no less far than what is computed for any shorter time
(`Timeline.travelled_le_line`), and as the clock has not gone back, it does not fall behind the
start. A sample is therefore never before the start of its fade nor beyond the target
(`Timeline.sample_between`).

The other question put to a timeline is whether a fade without duration would outrun it. It would
exactly while the timeline's end is still to come (`Timeline.outrunBy_iff_of_zero`).
-/

namespace Scrim

open Number

/-- A double between zero and one, as every alpha is. -/
structure InUnit (x : Float) : Prop where
  nonneg : 0 ≤ x
  le_one : x ≤ 1

theorem InUnit.isFinite {x : Float} (h : InUnit x) : x.isFinite = true :=
  isFinite_of_le_of_le isFinite_zero isFinite_one h.nonneg h.le_one

theorem InUnit.isNaN {x : Float} (h : InUnit x) : x.isNaN = false :=
  isNaN_of_isFinite h.isFinite

theorem inUnit_zero : InUnit 0 :=
  ⟨Number.le_refl (isNaN_of_isFinite isFinite_zero), by decide +kernel⟩

/-- On the way from one number to another, which is not yet reached. -/
def OnTheWay (start target x : Float) : Prop :=
  (start ≤ x ∧ x < target) ∨ (target < x ∧ x ≤ start)

/-- On the way from one number to another, or there. -/
def Between (start target x : Float) : Prop :=
  (start ≤ x ∧ x ≤ target) ∨ (target ≤ x ∧ x ≤ start)

theorem Between.inUnit {start target x : Float} (h : Between start target x)
    (h_start : InUnit start) (h_target : InUnit target) : InUnit x := by
  rcases h with ⟨h_low, h_high⟩ | ⟨h_low, h_high⟩
  · exact ⟨Number.le_trans h_start.nonneg h_low, Number.le_trans h_high h_target.le_one⟩
  · exact ⟨Number.le_trans h_target.nonneg h_low, Number.le_trans h_high h_start.le_one⟩

/-- Who has set out at all heads elsewhere. -/
theorem OnTheWay.start_ne {start target x : Float} (h : OnTheWay start target x) :
    (start != target) = true := by
  rcases h with ⟨h_start, h_target⟩ | ⟨h_target, h_start⟩
  · exact Number.bne_of_lt (Number.lt_of_le_of_lt h_start h_target)
  · exact Number.bne_symm (Number.bne_of_lt (Number.lt_of_lt_of_le h_target h_start))

/-- The way to an equal target is the same way. -/
theorem OnTheWay.of_beq {start target target' x : Float} (h : OnTheWay start target x)
    (h_eq : (target == target') = true) : OnTheWay start target' x := by
  rcases h with ⟨h_start, h_target⟩ | ⟨h_target, h_start⟩
  · exact Or.inl ⟨h_start, Number.lt_of_lt_of_le h_target (Number.le_of_beq h_eq)⟩
  · have h_le := Number.le_of_beq (Number.beq_symm h_eq)
    exact Or.inr ⟨Number.lt_of_le_of_lt h_le h_target, h_start⟩

/-- Who has not moved is on the way to any other place. -/
theorem onTheWay_self {target x : Float} (h_x : x.isNaN = false) (h_target : target.isNaN = false)
    (h_ne : (target != x) = true) : OnTheWay x target x := by
  rcases Number.lt_or_gt_of_bne h_target h_x h_ne with h_lt | h_gt
  · exact Or.inr ⟨h_lt, Number.le_refl h_x⟩
  · exact Or.inl ⟨Number.le_refl h_x, h_gt⟩

/-- A number between two others that is not the second is on the way there. -/
theorem Between.onTheWay {start target x : Float} (h : Between start target x)
    (h_ne : (target != x) = true) : OnTheWay start target x := by
  rcases h with ⟨h_low, h_high⟩ | ⟨h_low, h_high⟩
  · obtain ⟨h_x, h_target⟩ := isNaN_of_le h_high
    -- a place short of the target or beyond it, and it is not beyond
    rcases Number.lt_or_gt_of_bne h_target h_x h_ne with h_lt | h_gt
    · exact absurd (toRat_le_of_le h_high) (not_le.mpr (toRat_lt_of_lt h_lt))
    · exact Or.inl ⟨h_low, h_gt⟩
  · obtain ⟨h_target, h_x⟩ := isNaN_of_le h_low
    rcases Number.lt_or_gt_of_bne h_target h_x h_ne with h_lt | h_gt
    · exact Or.inr ⟨h_lt, h_high⟩
    · exact absurd (toRat_le_of_le h_low) (not_le.mpr (toRat_lt_of_lt h_gt))

/-! ### The line of a fade -/

/-- Where a way from `s` to `g` over a time `d` has led after a time `y`, as doubles compute it. -/
def Number.travelled (s g d y : ℚ) : ℚ :=
  round (s + round (round (round (g - s) * y) / d))

theorem Number.travelled_zero {x : Float} (hx : x.isFinite = true) (g d : ℚ) :
    travelled (toRat x) g d 0 = toRat x := by
  rw [travelled, mul_zero, round_zero, zero_div, round_zero, add_zero, round_toRat hx]

namespace Timeline

/-- The alpha at a clock value if the fade were not stopped at the target. -/
def line (t : Timeline) (target now : Float) : Float :=
  t.startAlpha + (target - t.startAlpha) * (now - t.startTime) / t.duration

section Line

variable {t : Timeline} {target now : Float} (h_duration : 0 < t.duration)

include h_duration

/-- Where the sample lies: on the line, unless the line leads beyond the target. -/
theorem sample_eq (target now : Float) :
    t.sample target now
      = if (0 < target - t.startAlpha ∧ target < t.line target now)
          ∨ (target - t.startAlpha < 0 ∧ t.line target now < target) then target
        else t.line target now := by
  unfold sample
  rw [if_neg (Number.not_le_of_lt h_duration)]
  rfl

variable (h_finite : t.duration.isFinite = true) (h_start : InUnit t.startAlpha)
  (h_target : InUnit target)

section Up

variable (h_up : t.startAlpha < target)

include h_finite h_start h_target h_up

/-- A fade upwards has travelled no less than what is computed for a time that has passed. -/
theorem travelled_le_line (h_elapsed : 0 ≤ now - t.startTime) {y : ℚ}
    (hy : y ≤ toRat (now - t.startTime)) :
    ∃ q, Lies (t.line target now).toModel.unpack q ∧
      travelled (toRat t.startAlpha) (toRat target) (toRat t.duration) y ≤ q := by
  have h_rise : 0 < target - t.startAlpha := sub_pos_of_lt h_start.isFinite h_target.isFinite h_up
  -- the rise is finite, as both ends are between zero and one
  have h_rise_finite : (target - t.startAlpha).isFinite = true :=
    isFinite_sub isFinite_one h_target.nonneg h_target.le_one h_start.nonneg h_start.le_one
  have h_rise_rat :
      toRat (target - t.startAlpha) = Number.round (toRat target - toRat t.startAlpha) :=
    toRat_of_lies (lies_toModel_sub h_target.isFinite h_start.isFinite)
  have h_product := mul_nonneg_of_pos h_rise_finite h_rise h_elapsed
  have h_quotient := div_nonneg_of_pos h_product h_finite h_duration
  -- each operation keeps the bound, from the product to the sum
  obtain ⟨p, h_lies_p, hp⟩ := round_mul_le h_rise_finite h_rise h_elapsed hy
  rw [← toRat_of_lies h_lies_p, h_rise_rat] at hp
  obtain ⟨q, h_lies_q, hq⟩ := round_div_le h_product h_finite h_duration hp
  rw [← toRat_of_lies h_lies_q] at hq
  exact round_add_le h_start.isFinite h_quotient hq

/-- A fade upwards does not fall behind its start. -/
theorem le_line (h_elapsed : 0 ≤ now - t.startTime) : t.startAlpha ≤ t.line target now := by
  -- after no time at all the fade is at its start
  obtain ⟨q, h_lies, h_le⟩ := travelled_le_line h_duration h_finite h_start h_target h_up h_elapsed
    (toRat_nonneg h_elapsed)
  rw [travelled_zero h_start.isFinite] at h_le
  exact le_of_lies (lies_toRat h_start.isNaN) h_lies h_le

/-- The sample of a fade upwards is the line, cut off above at the target. -/
theorem lies_sample_up (h_elapsed : 0 ≤ now - t.startTime) :
    Lies (t.sample target now).toModel.unpack
      (min (toRat (t.line target now)) (toRat target)) := by
  have h_rise : 0 < target - t.startAlpha := sub_pos_of_lt h_start.isFinite h_target.isFinite h_up
  have h_not : ¬target - t.startAlpha < 0 := fun h =>
    Number.not_le_of_lt h_rise (Number.le_of_lt h)
  have h_line := (isNaN_of_le (le_line h_duration h_finite h_start h_target h_up h_elapsed)).2
  rw [sample_eq h_duration]
  simp only [h_rise, h_not, true_and, false_and, or_false]
  -- the line leads beyond the target, and is cut off, or it does not
  split_ifs with h_beyond
  · rw [min_eq_right (toRat_lt_of_lt h_beyond).le]
    exact lies_toRat h_target.isNaN
  · have h_le := toRat_le_of_le (Number.le_of_not_lt h_line h_target.isNaN h_beyond)
    rw [min_eq_left h_le]
    exact lies_toRat h_line

end Up

section Down

variable (h_down : target < t.startAlpha)

include h_finite h_start h_target h_down

/-- A fade downwards has travelled no less than what is computed for a time that has passed. -/
theorem line_le_travelled (h_elapsed : 0 ≤ now - t.startTime) {y : ℚ}
    (hy : y ≤ toRat (now - t.startTime)) :
    ∃ q, Lies (t.line target now).toModel.unpack q ∧
      q ≤ travelled (toRat t.startAlpha) (toRat target) (toRat t.duration) y := by
  have h_rise : target - t.startAlpha < 0 :=
    sub_neg_of_lt h_target.isFinite h_start.isFinite h_down
  have h_rise_finite : (target - t.startAlpha).isFinite = true :=
    isFinite_sub isFinite_one h_target.nonneg h_target.le_one h_start.nonneg h_start.le_one
  have h_rise_rat :
      toRat (target - t.startAlpha) = Number.round (toRat target - toRat t.startAlpha) :=
    toRat_of_lies (lies_toModel_sub h_target.isFinite h_start.isFinite)
  have h_product := mul_nonpos_of_neg h_rise_finite h_rise h_elapsed
  have h_quotient := div_nonpos_of_pos h_product h_finite h_duration
  -- as upwards, with every bound turned around
  obtain ⟨p, h_lies_p, hp⟩ := mul_le_round h_rise_finite h_rise h_elapsed hy
  rw [← toRat_of_lies h_lies_p, h_rise_rat] at hp
  obtain ⟨q, h_lies_q, hq⟩ := div_le_round h_product h_finite h_duration hp
  rw [← toRat_of_lies h_lies_q] at hq
  exact add_le_round h_start.isFinite h_quotient hq

theorem line_le (h_elapsed : 0 ≤ now - t.startTime) : t.line target now ≤ t.startAlpha := by
  obtain ⟨q, h_lies, h_le⟩ := line_le_travelled h_duration h_finite h_start h_target h_down
    h_elapsed (toRat_nonneg h_elapsed)
  rw [travelled_zero h_start.isFinite] at h_le
  exact le_of_lies h_lies (lies_toRat h_start.isNaN) h_le

/-- The sample of a fade downwards is the line, cut off below at the target. -/
theorem lies_sample_down (h_elapsed : 0 ≤ now - t.startTime) :
    Lies (t.sample target now).toModel.unpack
      (max (toRat (t.line target now)) (toRat target)) := by
  have h_rise : target - t.startAlpha < 0 :=
    sub_neg_of_lt h_target.isFinite h_start.isFinite h_down
  have h_not : ¬0 < target - t.startAlpha := fun h =>
    Number.not_le_of_lt h_rise (Number.le_of_lt h)
  have h_line := (isNaN_of_le (line_le h_duration h_finite h_start h_target h_down h_elapsed)).1
  rw [sample_eq h_duration]
  simp only [h_rise, h_not, true_and, false_and, false_or]
  split_ifs with h_beyond
  · rw [max_eq_right (toRat_lt_of_lt h_beyond).le]
    exact lies_toRat h_target.isNaN
  · have h_le := toRat_le_of_le (Number.le_of_not_lt h_target.isNaN h_line h_beyond)
    rw [max_eq_left h_le]
    exact lies_toRat h_line

end Down

end Line

/-- **A sample lies between the start of its fade and the target.** -/
theorem sample_between {t : Timeline} {target now : Float} (h_duration : 0 < t.duration)
    (h_finite : t.duration.isFinite = true) (h_start : InUnit t.startAlpha)
    (h_target : InUnit target) (h_ne : (t.startAlpha != target) = true)
    (h_time : t.startTime.isFinite = true) (h_now : now.isFinite = true)
    (h_le : t.startTime ≤ now) : Between t.startAlpha target (t.sample target now) := by
  -- the time that has passed may have become infinite, but not negative
  have h_elapsed : 0 ≤ now - t.startTime := sub_nonneg_of_le h_time h_now h_le
  rcases Number.lt_or_gt_of_bne h_start.isNaN h_target.isNaN h_ne with h_up | h_down
  · -- a fade upwards
    have h_behind := le_line h_duration h_finite h_start h_target h_up h_elapsed
    have h_sample := lies_sample_up h_duration h_finite h_start h_target h_up h_elapsed
    have h_low := le_min (toRat_le_of_le h_behind) (toRat_lt_of_lt h_up).le
    exact Or.inl ⟨le_of_lies (lies_toRat h_start.isNaN) h_sample h_low,
      le_of_lies h_sample (lies_toRat h_target.isNaN) (min_le_right _ _)⟩
  · -- a fade downwards
    have h_behind := line_le h_duration h_finite h_start h_target h_down h_elapsed
    have h_sample := lies_sample_down h_duration h_finite h_start h_target h_down h_elapsed
    have h_high := max_le (toRat_le_of_le h_behind) (toRat_lt_of_lt h_down).le
    exact Or.inr ⟨le_of_lies (lies_toRat h_target.isNaN) h_sample (le_max_right _ _),
      le_of_lies h_sample (lies_toRat h_start.isNaN) h_high⟩

/-- A fade without duration outruns a timeline exactly if that has not come to its end. -/
theorem outrunBy_iff_of_zero {t : Timeline} {duration now : Float}
    (h_time : t.startTime.isFinite = true) (h_finite : t.duration.isFinite = true)
    (h_now : now.isFinite = true) (h_zero : (duration == 0) = true) :
    t.outrunBy duration now = true ↔ ¬t.finish ≤ now := by
  have h_rat : toRat duration = 0 := (toRat_eq_of_beq h_zero).trans toRat_zero
  have h_duration : duration.isFinite = true :=
    isFinite_of_le_of_le isFinite_zero isFinite_zero
      (le_of_lies lies_zero (lies_toRat (isNaN_of_beq h_zero).1) h_rat.ge) (Number.le_of_beq h_zero)
  -- the new fade would end now, while the old end may lie at infinity
  have h_sum := lies_add_zero h_now h_duration h_rat
  have h_finish : t.finish.isNaN = false := (lies_toModel_add h_time h_finite).isNaN_eq
  rw [outrunBy, decide_eq_true_iff, lt_iff h_sum.isNaN_eq h_finish,
    le_iff h_finish (isNaN_of_isFinite h_now), not_le]
  exact iff_of_eq (congrArg (· < toRat t.finish) h_sum.place_eq)

end Timeline

end Scrim

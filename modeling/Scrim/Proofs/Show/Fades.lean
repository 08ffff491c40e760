import Scrim.Proofs.Accuracy
import Scrim.Show

/-!
# The fades of the show

The show fades three times. Each of its fades is `Punctual`: looked at in whole milliseconds, it has
not arrived before its duration has passed (`Punctual.target_bne_of_near`), and it has arrived from
then on (`Punctual.sample_beq_target`). At the duration itself that is a matter of the numbers that
these fades have; a millisecond later any fade has arrived.

Meanwhile no two samples are the same (`Punctual.beq_of_near`). They are off the exact way by no
more than `2 ^ -49`, and each millisecond takes a fade farther than twice that.
-/

namespace Scrim.Show

open Number

/-- A fade, whenever it may start. -/
structure Fade where
  initial : Float
  target : Float
  duration : Float

namespace Fade

/-- The timeline of a fade that starts at a clock value. -/
def timeline (f : Fade) (start : Float) : Timeline :=
  ⟨f.initial, start, f.duration⟩

/-- A fade that goes far in a short time, and arrives when its duration has passed. -/
structure Punctual (f : Fade) (due : ℕ) : Prop where
  initial : InUnit f.initial
  target : InUnit f.target
  ne : (f.initial != f.target) = true
  duration : toRat f.duration = due
  isFinite : f.duration.isFinite = true
  one_le : 1 ≤ due
  short : due ≤ 2 ^ 40
  far : 1 / 4 < |toRat f.target - toRat f.initial|
  arrives : ((f.timeline 0).sample f.target f.duration == f.target) = true

/-- The clock has moved on by so many milliseconds. -/
structure Elapsed (start now : Float) (y : ℕ) : Prop where
  start_finite : start.isFinite = true
  now_finite : now.isFinite = true
  sub_eq : toRat now - toRat start = y

namespace Elapsed

theorem zero : Elapsed 0 0 0 :=
  ⟨isFinite_zero, isFinite_zero, by rw [sub_self, Nat.cast_zero]⟩

variable {start now : Float} {y : ℕ}

theorem lies_sub (h : Elapsed start now y) : Lies (now - start).toModel.unpack (Number.round y) :=
  h.sub_eq ▸ lies_toModel_sub h.now_finite h.start_finite

/-- What fits a double is computed exactly. -/
theorem toRat_sub (h : Elapsed start now y) (hy : y ≤ 2 ^ 53) : toRat (now - start) = y := by
  rw [toRat_of_lies h.lies_sub, round_natCast hy]

theorem nonneg (h : Elapsed start now y) : 0 ≤ now - start :=
  le_of_lies lies_zero h.lies_sub (round_nonneg (Nat.cast_nonneg y))

end Elapsed

namespace Punctual

variable {f : Fade} {due : ℕ} (h : f.Punctual due)

include h

theorem due_le : due ≤ 2 ^ 53 :=
  h.short.trans (by norm_num)

theorem one_le_duration : 1 ≤ f.duration := by
  have h_one : toRat 1 ≤ toRat f.duration := by
    rw [toRat_one, h.duration]
    exact_mod_cast h.one_le
  exact (le_iff (isNaN_of_isFinite isFinite_one) (isNaN_of_isFinite h.isFinite)).mpr h_one

variable {start now : Float} {y : ℕ} (h_elapsed : Elapsed start now y)

include h_elapsed

theorem underway : (f.timeline start).Underway f.target now :=
  ⟨h.one_le_duration, h.isFinite, h.initial, h.target, h.ne, h_elapsed.nonneg⟩

theorem inUnit_sample : InUnit ((f.timeline start).sample f.target now) := by
  have h_le : toRat start ≤ toRat now := by
    have h_nonneg : (0 : ℚ) ≤ y := Nat.cast_nonneg y
    linarith [h_elapsed.sub_eq]
  -- a sample lies between the two ends of the fade, and both are proper alphas
  have h_between := Timeline.sample_between (t := f.timeline start)
    (h.underway h_elapsed).duration_pos h.isFinite h.initial h.target h.ne h_elapsed.start_finite
    h_elapsed.now_finite ((le_iff (isNaN_of_isFinite h_elapsed.start_finite)
      (isNaN_of_isFinite h_elapsed.now_finite)).mpr h_le)
  exact h_between.inUnit h.initial h.target

/-! ### Arriving -/

/-- **From the due time on, a sample is at the target.** -/
theorem sample_beq_target (h_due : due ≤ y) :
    ((f.timeline start).sample f.target now == f.target) = true := by
  rcases h_due.eq_or_lt with rfl | h_late
  · -- on time, as for the fade that starts at zero
    have h_sub : Elapsed 0 f.duration due := ⟨isFinite_zero, h.isFinite, by
      rw [toRat_zero, sub_zero, h.duration]⟩
    have h_parallel : (f.timeline start).Parallel (f.timeline 0) f.target :=
      ⟨(h.underway h_elapsed).duration_pos, h.isFinite, rfl, h.initial,
        Number.beq_refl h.initial.isNaN, h.target, h.ne⟩
    refine Number.beq_trans (h_parallel.sample_beq ?_) h.arrives
    exact Number.sub_beq_of_sub_eq h_elapsed.now_finite h_elapsed.start_finite h_sub.now_finite
      h_sub.start_finite (h_elapsed.sub_eq.trans h_sub.sub_eq.symm)
  · -- by a millisecond late, which is more than rounding takes
    refine (h.underway h_elapsed).sample_beq ?_
    change toRat f.duration + toRat f.duration / 2 ^ 50 ≤ toRat (now - start)
    have h_short : (due : ℚ) ≤ 2 ^ 40 := by exact_mod_cast h.short
    have h_next : due + 1 ≤ 2 ^ 53 := Nat.succ_le_of_lt (h.short.trans_lt (by norm_num))
    have h_round : Number.round ((due + 1 : ℕ) : ℚ) ≤ Number.round y :=
      round_mono (by exact_mod_cast h_late)
    rw [round_natCast h_next] at h_round
    push_cast at h_round
    rw [h.duration, toRat_of_lies h_elapsed.lies_sub]
    linarith

end Punctual

/-! ### On the way -/

/-- An alpha as it is after so many milliseconds of a fade, or hardly off it. -/
def Near (f : Fade) (y : ℕ) (alpha : Float) : Prop :=
  |toRat alpha - (f.timeline 0).exactAlpha f.target y| ≤ 1 / 2 ^ 49

/-- A fade begins where it begins. -/
theorem near_initial (f : Fade) : f.Near 0 f.initial := by
  unfold Near
  rw [Nat.cast_zero, Timeline.exactAlpha_zero]
  change |toRat f.initial - toRat f.initial| ≤ _
  rw [sub_self, abs_zero]
  positivity

namespace Punctual

variable {f : Fade} {due : ℕ} (h : f.Punctual due)

include h

/-- **Until the due time samples are near the exact way.** -/
theorem near_sample {start now : Float} {y : ℕ} (h_elapsed : Elapsed start now y)
    (h_early : y < due) : f.Near y ((f.timeline start).sample f.target now) := by
  have h_sub : toRat (now - start) = y := h_elapsed.toRat_sub (h_early.le.trans h.due_le)
  -- before the due time the clock is within the fade
  have h_le : now - start ≤ f.duration := by
    refine (le_iff h_elapsed.lies_sub.isNaN_eq (isNaN_of_isFinite h.isFinite)).mpr ?_
    rw [h_sub, h.duration]
    exact_mod_cast h_early.le
  have h_near := (h.underway h_elapsed).abs_sample_sub_exactAlpha_le h_le
  change |_ - (f.timeline start).exactAlpha f.target (toRat (now - start))| ≤ _ at h_near
  rw [h_sub] at h_near
  exact h_near

/-- Alphas near the exact way at different times are different. -/
theorem ne_of_near {y y' : ℕ} (h_lt : y < y') {x x' : ℚ}
    (hx : |x - (f.timeline 0).exactAlpha f.target y| ≤ 1 / 2 ^ 49)
    (hx' : |x' - (f.timeline 0).exactAlpha f.target y'| ≤ 1 / 2 ^ 49) : x ≠ x' := by
  -- it is enough that the way between them is longer than both errors together
  refine (h.underway .zero).ne_of_near hx hx' ?_
  change toRat f.duration / 2 ^ 48 < |toRat f.target - toRat f.initial| * (y' - y)
  have h_short : (due : ℚ) ≤ 2 ^ 40 := by exact_mod_cast h.short
  have h_apart : (1 : ℚ) ≤ y' - y := by
    have h_next : ((y + 1 : ℕ) : ℚ) ≤ y' := by exact_mod_cast h_lt
    push_cast at h_next
    linarith
  -- a millisecond or more lies between, and each takes its share of a long way
  have h_way : |toRat f.target - toRat f.initial| * 1
      ≤ |toRat f.target - toRat f.initial| * (y' - y) := by gcongr
  rw [h.duration]
  linarith [h.far]

/-- **No two samples on the way are the same.** -/
theorem beq_of_near {y y' : ℕ} (h_lt : y < y') {alpha alpha' : Float} (h_near : f.Near y alpha)
    (h_near' : f.Near y' alpha') : (alpha == alpha') = false :=
  Bool.eq_false_of_not_eq_true fun h_beq => h.ne_of_near h_lt h_near h_near' (toRat_eq_of_beq h_beq)

/-- **Who is on the way is not at the target.** -/
theorem target_bne_of_near {y : ℕ} (h_early : y < due) {alpha : Float} (h_near : f.Near y alpha) :
    (f.target != alpha) = true := by
  -- the target is where the exact way ends, at the due time
  have h_target : |toRat f.target - (f.timeline 0).exactAlpha f.target due| ≤ 1 / 2 ^ 49 := by
    have h_end := (h.underway .zero).exactAlpha_duration
    change (f.timeline 0).exactAlpha f.target (toRat f.duration) = _ at h_end
    rw [← h.duration, h_end, sub_self, abs_zero]
    positivity
  rw [bne, Bool.not_eq_true']
  exact Bool.eq_false_of_not_eq_true fun h_beq =>
    h.ne_of_near h_early h_near h_target (toRat_eq_of_beq h_beq).symm

end Punctual

/-! ### The three fades -/

/-- From nothing to 0.6. -/
def fadeIn : Fade := ⟨0, 0.6, 600⟩

/-- On to 0.3. -/
def retarget : Fade := ⟨0.6, 0.3, 300⟩

/-- And out. -/
def fadeOut : Fade := ⟨0.3, 0, 400⟩

theorem punctual_fadeIn : fadeIn.Punctual 600 where
  initial := inUnit_zero
  target := ⟨by decide +kernel, by decide +kernel⟩
  ne := by decide +kernel
  duration := by decide +kernel
  isFinite := by decide +kernel
  one_le := by norm_num
  short := by norm_num
  far := by decide +kernel
  arrives := by decide +kernel

theorem punctual_retarget : retarget.Punctual 300 where
  initial := ⟨by decide +kernel, by decide +kernel⟩
  target := ⟨by decide +kernel, by decide +kernel⟩
  ne := by decide +kernel
  duration := by decide +kernel
  isFinite := by decide +kernel
  one_le := by norm_num
  short := by norm_num
  far := by decide +kernel
  arrives := by decide +kernel

theorem punctual_fadeOut : fadeOut.Punctual 400 where
  initial := ⟨by decide +kernel, by decide +kernel⟩
  target := inUnit_zero
  ne := by decide +kernel
  duration := by decide +kernel
  isFinite := by decide +kernel
  one_le := by norm_num
  short := by norm_num
  far := by decide +kernel
  arrives := by decide +kernel

end Fade

end Scrim.Show

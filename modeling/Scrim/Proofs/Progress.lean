import Scrim.Proofs.Timeline

/-!
# The progress of a fade

Samples do not turn back: a later one lies between an earlier one and the target
(`Timeline.between_samples`). The line of a fade is a chain of operations, each of which keeps the
order of its operands or turns it around, and takes infinities to infinities. What such an operation
does to a number is `carried`, and `carried_mono` is all that the order of samples rests on.

Once a sample is at the target, every later one therefore is, and samples taken at the same time
are the same number.
-/

open Float.Model.UnpackedFloat

namespace Scrim

namespace Number

/-! ### Operations that keep the order -/

/-- Where a number is carried by an operation that rounds what `g` makes of it, and leaves
infinities where they are. -/
def carried (g : ℚ → ℚ) (x : Float) : ℚ :=
  if x.isFinite then round (g (toRat x)) else toRat x

theorem carried_of_isFinite (g : ℚ → ℚ) {x : Float} (hx : x.isFinite = true) :
    carried g x = round (g (toRat x)) :=
  if_pos hx

theorem carried_of_infinity (g : ℚ → ℚ) {x : Float} {s : Sign}
    (hs : x.toModel.unpack = .infinity s) : carried g x = side s limit := by
  have hx : ¬x.isFinite = true := by
    change ¬x.toModel.unpack.isFinite = true
    rw [hs]
    exact Bool.false_ne_true
  rw [carried, if_neg hx, toRat, hs]
  rfl

/-- **What keeps the order of numbers keeps it where they are carried.** -/
theorem carried_mono {g : ℚ → ℚ} (hg : Monotone g) {x y : Float} (h : x ≤ y) :
    carried g x ≤ carried g y := by
  obtain ⟨hx, hy⟩ := isNaN_of_le h
  have h_le := toRat_le_of_le h
  rcases isFinite_or_infinity hx with hx_fin | ⟨s, hs⟩
  · rw [carried_of_isFinite g hx_fin]
    rcases isFinite_or_infinity hy with hy_fin | ⟨s', hs'⟩
    · rw [carried_of_isFinite g hy_fin]
      exact round_mono (hg h_le)
    · -- nothing finite is beyond the negative infinity
      rw [carried_of_infinity g hs']
      rw [toRat, toRat, hs'] at h_le
      cases s' with
      | positive => exact round_le_limit _
      | negative => exact absurd h_le (not_le.mpr ((isFinite_iff hx).mp hx_fin).1)
  · rw [carried_of_infinity g hs]
    -- only the negative infinity has finite numbers beyond it
    rw [toRat, hs] at h_le
    rcases isFinite_or_infinity hy with hy_fin | ⟨s', hs'⟩
    · rw [carried_of_isFinite g hy_fin]
      cases s with
      | positive => exact absurd h_le (not_le.mpr ((isFinite_iff hy).mp hy_fin).2)
      | negative => exact neg_limit_le_round _
    · rw [carried_of_infinity g hs']
      rwa [toRat, hs'] at h_le

theorem lies_mul_of_pos {c x : Float} (hc : c.isFinite = true) (hc_pos : 0 < c)
    (hx : x.isNaN = false) : Lies (c * x).toModel.unpack (carried (toRat c * ·) x) := by
  rcases isFinite_or_infinity hx with hx_fin | ⟨s, hs⟩
  · rw [carried_of_isFinite _ hx_fin]
    exact lies_toModel_mul hc hx_fin
  · rw [carried_of_infinity _ hs]
    exact lies_mul_infinity_of_pos hc (toRat_pos hc_pos) hs

theorem lies_mul_of_neg {c x : Float} (hc : c.isFinite = true) (hc_neg : c < 0)
    (hx : x.isNaN = false) : Lies (c * x).toModel.unpack (-carried (-toRat c * ·) x) := by
  rcases isFinite_or_infinity hx with hx_fin | ⟨s, hs⟩
  · rw [carried_of_isFinite _ hx_fin, neg_mul, round_neg, neg_neg]
    exact lies_toModel_mul hc hx_fin
  · rw [carried_of_infinity _ hs]
    exact lies_mul_infinity_of_neg hc (toRat_neg hc_neg) hs

theorem lies_div_of_pos {x d : Float} (hx : x.isNaN = false) (hd : d.isFinite = true)
    (hd_pos : 0 < d) : Lies (x / d).toModel.unpack (carried (· / toRat d) x) := by
  have hd_rat := toRat_pos hd_pos
  rcases isFinite_or_infinity hx with hx_fin | ⟨s, hs⟩
  · rw [carried_of_isFinite _ hx_fin]
    exact lies_toModel_div hx_fin hd hd_rat.ne'
  · rw [carried_of_infinity _ hs]
    exact lies_infinity_div_of_pos hs hd hd_rat

theorem lies_add_of_isFinite {x q : Float} (hx : x.isFinite = true) (hq : q.isNaN = false) :
    Lies (x + q).toModel.unpack (carried (toRat x + ·) q) := by
  rcases isFinite_or_infinity hq with hq_fin | ⟨s, hs⟩
  · rw [carried_of_isFinite _ hq_fin]
    exact lies_toModel_add hx hq_fin
  · rw [carried_of_infinity _ hs]
    exact lies_add_infinity hx hs

/-! ### The arithmetic of a line keeps the order -/

section Mono

variable {x y : Float} (h : x ≤ y)

include h

protected theorem mul_mono_of_pos {c : Float} (hc : c.isFinite = true) (hc_pos : 0 < c) :
    c * x ≤ c * y := by
  have h_mono : Monotone (toRat c * ·) := monotone_mul_left_of_nonneg (toRat_pos hc_pos).le
  exact le_of_lies (lies_mul_of_pos hc hc_pos (isNaN_of_le h).1)
    (lies_mul_of_pos hc hc_pos (isNaN_of_le h).2) (carried_mono h_mono h)

protected theorem mul_anti_of_neg {c : Float} (hc : c.isFinite = true) (hc_neg : c < 0) :
    c * y ≤ c * x := by
  have h_nonneg : 0 ≤ -toRat c := neg_nonneg.mpr (toRat_neg hc_neg).le
  have h_mono : Monotone (-toRat c * ·) := monotone_mul_left_of_nonneg h_nonneg
  exact le_of_lies (lies_mul_of_neg hc hc_neg (isNaN_of_le h).2)
    (lies_mul_of_neg hc hc_neg (isNaN_of_le h).1) (neg_le_neg (carried_mono h_mono h))

protected theorem div_mono_of_pos {d : Float} (hd : d.isFinite = true) (hd_pos : 0 < d) :
    x / d ≤ y / d := by
  have h_mono : Monotone (· / toRat d) := fun _ _ h_le =>
    div_le_div_of_nonneg_right h_le (toRat_pos hd_pos).le
  exact le_of_lies (lies_div_of_pos (isNaN_of_le h).1 hd hd_pos)
    (lies_div_of_pos (isNaN_of_le h).2 hd hd_pos) (carried_mono h_mono h)

protected theorem add_mono {z : Float} (hz : z.isFinite = true) : z + x ≤ z + y := by
  have h_mono : Monotone (toRat z + ·) := fun _ _ h_le => by
    dsimp only
    linarith
  exact le_of_lies (lies_add_of_isFinite hz (isNaN_of_le h).1)
    (lies_add_of_isFinite hz (isNaN_of_le h).2) (carried_mono h_mono h)

protected theorem sub_mono {z : Float} (hz : z.isFinite = true) (hx : x.isFinite = true)
    (hy : y.isFinite = true) : x - z ≤ y - z := by
  have h_le := toRat_le_of_le h
  exact le_of_lies (lies_toModel_sub hx hz) (lies_toModel_sub hy hz) (round_mono (by linarith))

end Mono

/-! ### Equal numbers -/

section Beq

variable {x y : Float} (h : (x == y) = true)

include h

protected theorem lt_congr_left (z : Float) : x < z ↔ y < z :=
  ⟨Number.lt_of_le_of_lt (Number.le_of_beq (Number.beq_symm h)),
    Number.lt_of_le_of_lt (Number.le_of_beq h)⟩

protected theorem lt_congr_right (z : Float) : z < x ↔ z < y :=
  ⟨fun h_lt => Number.lt_of_lt_of_le h_lt (Number.le_of_beq h),
    fun h_lt => Number.lt_of_lt_of_le h_lt (Number.le_of_beq (Number.beq_symm h))⟩

end Beq

protected theorem beq_of_le_of_le {x y : Float} (h : x ≤ y) (h' : y ≤ x) : (x == y) = true :=
  (beq_iff (isNaN_of_le h).1 (isNaN_of_le h).2).mpr
    (le_antisymm (toRat_le_of_le h) (toRat_le_of_le h'))

end Number

open Number

/-! ### Places on the way -/

/-- Nothing is left of a way whose start is the target. -/
theorem Between.beq_target {start target x : Float} (h : Between start target x)
    (h_start : (start == target) = true) : (x == target) = true := by
  rcases h with ⟨h_low, h_high⟩ | ⟨h_low, h_high⟩
  · exact Number.beq_of_le_of_le h_high
      (Number.le_trans (Number.le_of_beq (Number.beq_symm h_start)) h_low)
  · exact Number.beq_of_le_of_le (Number.le_trans h_high (Number.le_of_beq h_start)) h_low

/-- Two places of which each lies between the other and the target are one. -/
theorem Between.antisymm {target x y : Float} (h : Between x target y) (h' : Between y target x) :
    (x == y) = true := by
  rcases h with ⟨h_low, h_high⟩ | ⟨h_low, h_high⟩ <;>
    rcases h' with ⟨h_low', h_high'⟩ | ⟨h_low', h_high'⟩
  · exact Number.beq_of_le_of_le h_low h_low'
  -- on different sides of the target, both are there
  · exact Number.beq_of_le_of_le h_low (Number.le_trans h_high h_low')
  · exact Number.beq_of_le_of_le (Number.le_trans h_high' h_low) h_high
  · exact Number.beq_of_le_of_le h_high' h_high

/-! ### Samples in their order -/

namespace Timeline

variable {t : Timeline} {target now later : Float} (h_duration : 0 < t.duration)
  (h_finite : t.duration.isFinite = true) (h_start : InUnit t.startAlpha)
  (h_target : InUnit target)

include h_duration h_finite h_start h_target

theorem line_mono (h_up : t.startAlpha < target)
    (h_elapsed : now - t.startTime ≤ later - t.startTime) :
    t.line target now ≤ t.line target later := by
  have h_rise : 0 < target - t.startAlpha := sub_pos_of_lt h_start.isFinite h_target.isFinite h_up
  have h_rise_finite : (target - t.startAlpha).isFinite = true :=
    isFinite_sub isFinite_one h_target.nonneg h_target.le_one h_start.nonneg h_start.le_one
  -- more time makes the product greater, and nothing after that turns around
  have h_product := Number.mul_mono_of_pos h_elapsed h_rise_finite h_rise
  exact Number.add_mono (Number.div_mono_of_pos h_product h_finite h_duration) h_start.isFinite

theorem line_anti (h_down : target < t.startAlpha)
    (h_elapsed : now - t.startTime ≤ later - t.startTime) :
    t.line target later ≤ t.line target now := by
  have h_rise : target - t.startAlpha < 0 :=
    sub_neg_of_lt h_target.isFinite h_start.isFinite h_down
  have h_rise_finite : (target - t.startAlpha).isFinite = true :=
    isFinite_sub isFinite_one h_target.nonneg h_target.le_one h_start.nonneg h_start.le_one
  -- a negative rise turns the order around, once
  have h_product := Number.mul_anti_of_neg h_elapsed h_rise_finite h_rise
  exact Number.add_mono (Number.div_mono_of_pos h_product h_finite h_duration) h_start.isFinite

/-- **Samples do not turn back**: a later one lies between an earlier one and the target. -/
theorem between_samples (h_ne : (t.startAlpha != target) = true)
    (h_time : t.startTime.isFinite = true) (h_now : now.isFinite = true)
    (h_later : later.isFinite = true) (h_le : t.startTime ≤ now) (h_order : now ≤ later) :
    Between (t.sample target now) target (t.sample target later) := by
  have h_elapsed : 0 ≤ now - t.startTime := sub_nonneg_of_le h_time h_now h_le
  have h_passed := Number.sub_mono h_order h_time h_now h_later
  have h_elapsed' := Number.le_trans h_elapsed h_passed
  rcases Number.lt_or_gt_of_bne h_start.isNaN h_target.isNaN h_ne with h_up | h_down
  · -- a fade upwards
    have h_sample := lies_sample_up h_duration h_finite h_start h_target h_up h_elapsed
    have h_sample' := lies_sample_up h_duration h_finite h_start h_target h_up h_elapsed'
    have h_line := toRat_le_of_le (line_mono h_duration h_finite h_start h_target h_up h_passed)
    exact Or.inl ⟨le_of_lies h_sample h_sample' (min_le_min_right _ h_line),
      le_of_lies h_sample' (lies_toRat h_target.isNaN) (min_le_right _ _)⟩
  · -- a fade downwards
    have h_sample := lies_sample_down h_duration h_finite h_start h_target h_down h_elapsed
    have h_sample' := lies_sample_down h_duration h_finite h_start h_target h_down h_elapsed'
    have h_line := toRat_le_of_le (line_anti h_duration h_finite h_start h_target h_down h_passed)
    exact Or.inr ⟨le_of_lies (lies_toRat h_target.isNaN) h_sample' (le_max_right _ _),
      le_of_lies h_sample' h_sample (max_le_max_right _ h_line)⟩

end Timeline

end Scrim

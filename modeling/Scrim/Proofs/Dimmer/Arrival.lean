import Scrim.Proofs.Arrival
import Scrim.Proofs.Dimmer.Instant

/-!
# The end of a fade

A fade is scheduled to end, but a tick at that time need not finish it. The sample is computed with
doubles and may come out a little short of the target, and then the dimmer goes on animating.
`Dimmer.arrival_of_run` says when the tick finishes the fade, that the alpha is hardly short of the
target otherwise, and that a tick a little later finishes the fade for certain.

The fade must take a millisecond at least for this, which it does since durations are whole
(`Timed`).
-/

namespace Scrim

open Number

/-! ### Durations -/

/-- The timeline has no duration, or one of a millisecond at least. -/
def Timed (d : Dimmer) : Prop :=
  d.timeline.duration = 0 ∨ 1 ≤ d.timeline.duration

theorem Presented.timed {w : Surroundings} {d d' : Dimmer} {request : PresentRequest} {now : Float}
    (h_presented : Presented w d request now d') (h : Timed d) (h_accepted : request.Accepted)
    (h_whole : isWhole request.duration = true) : Timed d' := by
  cases h_presented with
  | kept => exact h
  | jumped footprint reached h_commits h_instant h_applied =>
    change reached.timeline.duration = 0 ∨ 1 ≤ reached.timeline.duration
    -- applying an alpha at once leaves the timeline as it was
    rw [h_applied.timeline_eq]
    exact h
  | started footprint h_commits h_lasting =>
    have h_nonneg := h_accepted.duration.nonneg
    have h_pos : 0 < request.duration :=
      Number.lt_of_not_le (isNaN_of_le h_nonneg).1 (isNaN_of_le h_nonneg).2 h_lasting
    -- durations are whole, so a positive one lasts a millisecond at least
    exact Or.inr (one_le_of_isWhole h_whole h_pos)

/-- **Each step keeps durations whole.** -/
theorem Timed.turn {d : Dimmer} {past : List Float} {s : Step} (h : Timed d)
    (h_sound : Sound d past) : Timed (d.turn s).dimmer := by
  have h_course := d.course s
  generalize d.turn s = t at h_course ⊢
  cases h_course with
  | idle t h_same =>
    rw [h_same]
    exact h
  | collapsed t h_handle h_rest =>
    rw [h_rest]
    exact h
  | presented t handle request h_handle h_same h_arises h_going =>
    subst h_same
    exact (Turn.presented h_handle h_going).timed h (h_arises.accepted h_sound.target)
      h_arises.isWhole
  | advanced t handle h_handle h_operation h_animating h_readings h_applied =>
    -- a tick follows the timeline, and does not change it
    rw [Timed, h_applied.timeline_eq]
    exact h
  | released t h_operation h_rest =>
    rw [h_rest]
    exact h
  | cutShort t handle footprint h_handle h_ended h_cut =>
    rw [h_cut]
    exact h

theorem timed_new (options : Options) (display : Float)
    (admission : SurfaceRequest → Except Failure Handle) (refusal : Primitive → Option Failure) :
    Timed (Dimmer.new options display admission refusal) := by
  obtain ⟨handle, h_new⟩ := Dimmer.new_eq options display admission refusal
  rw [h_new]
  exact Or.inl rfl

theorem Timed.after {d : Dimmer} {past : List Float} {steps : List Step} (h : Timed d)
    (h_sound : Sound d past) (h_clock : Chronological (past ++ d.clock steps)) :
    Timed (d.after steps) := by
  have h_step (d : Dimmer) (past : List Float) (s : Step) (_ : True) (h : Sound d past ∧ Timed d)
      (h_clock : Chronological (past ++ (d.turn s).taken s.surroundings)) :
      Sound (d.turn s).dimmer (past ++ (d.turn s).taken s.surroundings) ∧ Timed (d.turn s).dimmer :=
    ⟨h.1.turn h_clock, h.2.turn h.1⟩
  exact (Dimmer.run_induction h_step ⟨h_sound, h⟩ (fun _ _ => trivial) h_clock).2

/-! ### Ticks -/

/-- A tick during a fade, step by step. -/
theorem Turn.advance_of_isAnimating {t : Turn} {handle : Handle}
    (h_handle : t.dimmer.handle = some handle) (h_animating : t.dimmer.isAnimating = true)
    (w : Surroundings) :
    ∃ message, t.advance w = (t.tookReading.debug message).applyAlpha w handle
      (t.dimmer.timeline.sample t.dimmer.target (t.now w)) := by
  unfold advance
  rw [h_handle]
  exact ⟨_, if_pos h_animating⟩

/-- Without a fade in progress, a tick does nothing. -/
theorem Turn.advance_of_not_isAnimating {t : Turn} {handle : Handle}
    (h_handle : t.dimmer.handle = some handle) (h_idle : ¬t.dimmer.isAnimating = true)
    (w : Surroundings) : t.advance w = t := by
  unfold advance
  rw [h_handle]
  exact if_neg h_idle

namespace Dimmer

variable {d : Dimmer} {w : Surroundings} {handle : Handle}

/-- A tick during a fade applies its sample, unless it is cut short. -/
theorem applied_advance (h_going : (d.turn ⟨.advance, w⟩).failure = none)
    (h_handle : d.handle = some handle) (h_animating : d.isAnimating = true) :
    Applied w d (d.timeline.sample d.target (w.reading 0)) (d.turn ⟨.advance, w⟩).dimmer := by
  let t : Turn := { dimmer := d }
  obtain ⟨message, h_advance⟩ := Turn.advance_of_isAnimating (t := t) h_handle h_animating w
  change (t.advance w).failure = none at h_going
  change Applied w d _ (t.advance w).dimmer
  rw [h_advance] at h_going ⊢
  exact Turn.applied (t := t.tookReading.debug message) h_going

/-- What a tick answers that is not cut short. -/
theorem answer_advance (h_going : (d.turn ⟨.advance, w⟩).failure = none) :
    d.answer ⟨.advance, w⟩ = .ok (some (d.turn ⟨.advance, w⟩).dimmer.isAnimating) :=
  answer_of_going (s := ⟨.advance, w⟩) trivial h_going

/-- A step leaves the dimmer at rest at its target and tells its caller that no more is needed. -/
def Finishes (d : Dimmer) (s : Step) : Prop :=
  (d.turn s).dimmer.RestsAt d.target ∧ d.answer s = .ok (some false)

/-- A tick finishes a fade exactly if it is not cut short and its sample is at the target. -/
theorem finishes_advance_iff (h_handle : d.handle = some handle)
    (h_animating : d.isAnimating = true)
    (h_num : (d.timeline.sample d.target (w.reading 0)).isNaN = false) :
    d.Finishes ⟨.advance, w⟩ ↔ (d.turn ⟨.advance, w⟩).failure = none ∧
      (d.timeline.sample d.target (w.reading 0) == d.target) = true := by
  refine ⟨?_, ?_⟩
  · intro h_finishes
    have h_going := going_of_answer h_finishes.2
    have h_alpha := (applied_advance h_going h_handle h_animating).alpha_beq h_num
    exact ⟨h_going, Number.beq_trans (Number.beq_symm h_alpha) h_finishes.1.1⟩
  · rintro ⟨h_going, h_there⟩
    -- the sample is at the target, and the dimmer has taken it
    have h_applied := applied_advance h_going h_handle h_animating
    have h_target := Number.beq_trans (h_applied.alpha_beq h_num) h_there
    have h_idle : (d.turn ⟨.advance, w⟩).dimmer.isAnimating = false := by
      apply isAnimating_eq_false
      rw [h_applied.target_eq]
      exact Number.beq_symm h_target
    have h_answer := answer_advance h_going
    rw [h_idle] at h_answer
    exact ⟨⟨h_target, h_idle⟩, h_answer⟩

end Dimmer

/-- A fade whose end has passed is under way. -/
theorem Sound.underway {d : Dimmer} {past : List Float} {now : Float} (h : Sound d past)
    (h_timed : Timed d) (h_past : Chronological past) (h_animating : d.isAnimating = true)
    (h_now : now.isFinite = true) (h_due : d.timeline.finish ≤ now) :
    d.timeline.Underway d.target now := by
  have h_fading := h.fading h_animating
  have h_time := h_past.finite _ h_fading.started
  have h_le : d.timeline.startTime ≤ now :=
    Number.le_trans (le_add_of_nonneg h_time (Number.le_of_lt h_fading.duration_pos)) h_due
  refine ⟨?_, h_fading.duration_finite, h.start, h.target, h_fading.onTheWay.start_ne,
    sub_nonneg_of_le h_time h_now h_le⟩
  -- a timeline without a duration is not that of a fade in progress
  rcases h_timed with h_zero | h_one
  · have h_pos := h_fading.duration_pos
    rw [h_zero] at h_pos
    exact absurd inUnit_zero.nonneg (Number.not_le_of_lt h_pos)
  · exact h_one

/-- **When a tick finishes a fade whose end has passed.** The dimmer is any that a run with a proper
clock leads to, that has a surface and that is animating; the tick reads a clock value that is no
earlier than the scheduled end. It finishes the fade exactly if it is not cut short, as only a
refusal that cannot be told could do, and the line from the start, as it is computed, does not fall
short of the target. If what is computed as the time passed is no less than the duration, the alpha
is hardly short of the target in any case, and if it is a little more than the duration, the fade is
finished. -/
theorem Dimmer.arrival_of_run (options : Options) (display : Float)
    (admission : SurfaceRequest → Except Failure Handle) (refusal : Primitive → Option Failure)
    (steps : List Step) (w : Surroundings)
    (h_clock : Chronological ((new options display admission refusal).clock steps))
    (h_now : (w.reading 0).isFinite = true) :
    let d := (new options display admission refusal).after steps
    let tick : Step := ⟨.advance, w⟩
    let elapsed := w.reading 0 - d.timeline.startTime
    d.handle.isSome = true → d.isAnimating = true → d.timeline.finish ≤ w.reading 0 →
    (d.Finishes tick ↔ (d.turn tick).failure = none ∧
        ¬OnTheWay d.timeline.startAlpha d.target (d.timeline.line d.target (w.reading 0))) ∧
      ((d.turn tick).failure = none →
        (d.timeline.duration ≤ elapsed →
          |toRat (d.turn tick).dimmer.alpha - toRat d.target| ≤ 1 / 2 ^ 50) ∧
        (toRat d.timeline.duration + toRat d.timeline.duration / 2 ^ 50 ≤ toRat elapsed →
          d.Finishes tick)) := by
  intro d tick elapsed h_live h_animating h_due
  obtain ⟨handle, h_handle⟩ := Option.isSome_iff_exists.mp h_live
  have h_sound : Sound d _ := (sound_new options display admission refusal).after h_clock
  have h_timed : Timed d := (timed_new options display admission refusal).after
    (sound_new options display admission refusal) h_clock
  have h_underway := h_sound.underway h_timed h_clock h_animating h_now h_due
  have h_num := h_underway.sample_isNaN
  have h_finishes := finishes_advance_iff h_handle h_animating h_num
  refine ⟨h_finishes.trans (and_congr_right' h_underway.sample_beq_iff), ?_⟩
  intro h_going
  refine ⟨?_, ?_⟩
  · intro h_time
    have h_applied := applied_advance h_going h_handle h_animating
    -- the alpha that the tick leaves is the sample, as a number
    rw [toRat_eq_of_beq (h_applied.alpha_beq h_num)]
    exact h_underway.abs_sample_sub_le h_time
  · intro h_later
    exact h_finishes.mpr ⟨h_going, h_underway.sample_beq h_later⟩

/-- A fade from 0.2 to 0.9 over 200 ms. -/
def Dimmer.shortFade : List Step :=
  [⟨.present (.number 5) (.number 0.2) (.number 0), .calm 0⟩,
    ⟨.present (.number 5) (.number 0.9) (.number 200), .calm 0⟩]

/-- A tick on time does not finish it, though the alpha is hardly short of 0.9 then. A tick one
millisecond later does. -/
theorem Dimmer.arrival_of_shortFade :
    ¬(fresh.after shortFade).Finishes ⟨.advance, .calm 200⟩ ∧
      |toRat ((fresh.after shortFade).turn ⟨.advance, .calm 200⟩).dimmer.alpha
        - toRat (fresh.after shortFade).target| ≤ 1 / 2 ^ 50 ∧
      (fresh.after shortFade).Finishes ⟨.advance, .calm 201⟩ := by
  have h_clock : Chronological (fresh.clock shortFade) := ⟨by decide +kernel, by decide +kernel⟩
  have h_live : (fresh.after shortFade).handle.isSome = true := by decide +kernel
  have h_animating : (fresh.after shortFade).isAnimating = true := by decide +kernel
  have h_going (now : Float) :
      ((fresh.after shortFade).turn ⟨.advance, .calm now⟩).failure = none :=
    going_turn (Surroundings.describable_calm now) _
  have h_onTime := arrival_of_run _ _ _ _ shortFade (.calm 200) h_clock (by decide +kernel)
    h_live h_animating (by decide +kernel)
  have h_later := arrival_of_run _ _ _ _ shortFade (.calm 201) h_clock (by decide +kernel)
    h_live h_animating (by decide +kernel)
  rw [← fresh_eq] at h_onTime h_later
  -- on time the computed line is just below the target, on the way to it
  have h_short : OnTheWay (fresh.after shortFade).timeline.startAlpha (fresh.after shortFade).target
      ((fresh.after shortFade).timeline.line (fresh.after shortFade).target 200) :=
    Or.inl ⟨by decide +kernel, by decide +kernel⟩
  refine ⟨fun h_finishes => (h_onTime.1.mp h_finishes).2 h_short, ?_, ?_⟩
  · exact (h_onTime.2 (h_going 200)).1 (by decide +kernel)
  · exact (h_later.2 (h_going 201)).2 (by decide +kernel)

end Scrim

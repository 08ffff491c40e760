import Scrim.Proofs.Dimmer.Course

/-!
# The alphas of a dimmer

After every run with a proper clock, whatever its surface refuses, the alphas of a dimmer lie
between zero and one, and a fade in progress is on its way (`Dimmer.alphas_of_run`).

The timeline is rewritten by some requests only, and is stale whenever no fade is in progress.
Nothing can therefore be said of it alone. The invariant `Sound` ties it to the alpha and the target
while these two differ (`Fading`), and places its start among the readings taken so far, which is
how a later reading is known to be no earlier. A request that keeps the timeline keeps the target
in place, one that is fulfilled at once ends the fade, and one that starts a timeline starts it
from the alpha in place, so each restores the tie or ends its need.
-/

namespace Scrim

open Number

/-! ### The invariant -/

/-- A fade in progress, after the readings taken so far. -/
structure Fading (d : Dimmer) (past : List Float) : Prop where
  duration_pos : 0 < d.timeline.duration
  duration_finite : d.timeline.duration.isFinite = true
  /-- The start was read from the clock. -/
  started : d.timeline.startTime ∈ past
  /-- The alpha is on its way to the target. -/
  onTheWay : OnTheWay d.timeline.startAlpha d.target d.alpha

/-- What is true of a dimmer, after the readings taken so far. -/
structure Sound (d : Dimmer) (past : List Float) : Prop where
  alpha : InUnit d.alpha
  target : InUnit d.target
  start : InUnit d.timeline.startAlpha
  fading : d.isAnimating = true → Fading d past

theorem Fading.mono {d : Dimmer} {past : List Float} (h : Fading d past) (more : List Float) :
    Fading d (past ++ more) :=
  { h with started := List.mem_append_left _ h.started }

theorem Sound.mono {d : Dimmer} {past : List Float} (h : Sound d past) (more : List Float) :
    Sound d (past ++ more) :=
  { h with fading := fun h_animating => (h.fading h_animating).mono more }

/-- A dimmer that is where it heads for has no fade in progress. -/
theorem Dimmer.not_isAnimating {d : Dimmer} (h : (d.target == d.alpha) = true) :
    ¬d.isAnimating = true := by
  rw [isAnimating, bne, h]
  exact Bool.false_ne_true

/-- A dimmer at rest at zero is sound if its timeline starts at an alpha. -/
theorem sound_of_rest {d : Dimmer} {past : List Float} (h_alpha : d.alpha = 0)
    (h_target : d.target = 0) (h_start : InUnit d.timeline.startAlpha) : Sound d past where
  alpha := h_alpha ▸ inUnit_zero
  target := h_target ▸ inUnit_zero
  start := h_start
  fading h_animating := by
    refine absurd h_animating (Dimmer.not_isAnimating ?_)
    rw [h_alpha, h_target]
    exact Number.beq_refl inUnit_zero.isNaN

/-! ### Each course keeps it -/

theorem Applied.target_eq {w : Surroundings} {d d' : Dimmer} {alpha : Float}
    (h : Applied w d alpha d') : d'.target = d.target := by
  cases h <;> rfl

theorem Applied.timeline_eq {w : Surroundings} {d d' : Dimmer} {alpha : Float}
    (h : Applied w d alpha d') : d'.timeline = d.timeline := by
  cases h <;> rfl

/-- The alpha that was to be applied is in place. -/
theorem Applied.alpha_beq {w : Surroundings} {d d' : Dimmer} {alpha : Float}
    (h : Applied w d alpha d') (h_num : alpha.isNaN = false) : (d'.alpha == alpha) = true := by
  cases h with
  | inPlace h_alpha => exact h_alpha
  | changed h_alpha showing h_showing => exact Number.beq_refl h_num

theorem Applied.inUnit {w : Surroundings} {d d' : Dimmer} {alpha : Float}
    (h : Applied w d alpha d') (h_before : InUnit d.alpha) (h_alpha : InUnit alpha) :
    InUnit d'.alpha := by
  cases h with
  | inPlace => exact h_before
  | changed => exact h_alpha

/-- A request that is not committed finds the fade in progress heading for its alpha, or finds the
dimmer there. -/
theorem Dimmer.beq_of_not_commits {d : Dimmer} {request : PresentRequest} {now : Float}
    (h : d.commits request now = false) :
    (d.isAnimating = true ∧ (d.target == request.alpha) = true ∧
        d.timeline.outrunBy request.duration now = false) ∨
      (d.isAnimating = false ∧ (d.alpha == request.alpha) = true) := by
  unfold commits at h
  split at h
  · next h_animating =>
    rw [Bool.or_eq_false_iff, bne, Bool.not_eq_false'] at h
    exact Or.inl ⟨h_animating, h.1, h.2⟩
  · next h_idle =>
    rw [bne, Bool.not_eq_false'] at h
    exact Or.inr ⟨Bool.eq_false_of_not_eq_true h_idle, h⟩

theorem Sound.presented {w : Surroundings} {d d' : Dimmer} {past : List Float}
    {request : PresentRequest} {now : Float} (h : Sound d past) (h_now : now ∈ past)
    (h_request : request.Accepted) (h_presented : Presented w d request now d') :
    Sound d' past := by
  cases h_presented with
  | kept footprint h_commits =>
    refine ⟨h.alpha, h_request.alpha, h.start, ?_⟩
    intro h_animating
    rcases Dimmer.beq_of_not_commits h_commits with ⟨h_before, h_target, -⟩ | ⟨-, h_alpha⟩
    · -- the fade goes on, toward an equal target
      have h_fading := h.fading h_before
      exact { h_fading with onTheWay := h_fading.onTheWay.of_beq h_target }
    · -- the dimmer is where it was asked to be
      exact absurd h_animating (Dimmer.not_isAnimating (Number.beq_symm h_alpha))
  | jumped footprint reached h_commits h_instant h_applied =>
    have h_there := h_applied.alpha_beq h_request.alpha.isNaN
    refine ⟨h_applied.inUnit h.alpha h_request.alpha, h_request.alpha, ?_, ?_⟩
    · -- the timeline is stale, but it still starts at an alpha
      change InUnit reached.timeline.startAlpha
      rw [h_applied.timeline_eq]
      exact h.start
    · intro h_animating
      exact absurd h_animating (Dimmer.not_isAnimating (Number.beq_symm h_there))
  | started footprint h_commits h_lasting =>
    -- the new timeline starts at the alpha in place, at the time of the request
    refine ⟨h.alpha, h_request.alpha, h.alpha, ?_⟩
    intro h_animating
    have h_duration := h_request.duration.nonneg
    have h_pos : 0 < request.duration :=
      Number.lt_of_not_le (isNaN_of_le h_duration).1 (isNaN_of_le h_duration).2 h_lasting
    exact ⟨h_pos, h_request.duration.isFinite, h_now,
      onTheWay_self h.alpha.isNaN h_request.alpha.isNaN h_animating⟩

/-- The next sample of a fade in progress. -/
theorem Sound.sample_between {d : Dimmer} {past : List Float} {now : Float} (h : Sound d past)
    (h_animating : d.isAnimating = true) (h_clock : Chronological (past ++ [now])) :
    Between d.timeline.startAlpha d.target (d.timeline.sample d.target now) := by
  have h_fading := h.fading h_animating
  exact Timeline.sample_between h_fading.duration_pos h_fading.duration_finite h.start h.target
    h_fading.onTheWay.start_ne (h_clock.left.finite _ h_fading.started) h_clock.isFinite_now
    (h_clock.le_now h_fading.started)

theorem Sound.advanced {w : Surroundings} {d d' : Dimmer} {past : List Float} {now : Float}
    (h : Sound d past) (h_animating : d.isAnimating = true)
    (h_clock : Chronological (past ++ [now]))
    (h_applied : Applied w d (d.timeline.sample d.target now) d') : Sound d' past := by
  have h_between := h.sample_between h_animating h_clock
  cases h_applied with
  | inPlace h_alpha => exact h
  | changed h_alpha showing h_showing =>
    refine ⟨h_between.inUnit h.start h.target, h.target, h.start, ?_⟩
    intro h_still
    exact { h.fading h_animating with onTheWay := h_between.onTheWay h_still }

/-- The one reading of a turn that has taken one. -/
theorem Turn.taken_of_readings_eq_one {t : Turn} (h : t.readings = 1) (w : Surroundings) :
    t.taken w = [w.reading 0] := by
  rw [taken, h]
  rfl

/-- **Each step keeps the invariant.** -/
theorem Sound.turn {d : Dimmer} {past : List Float} {s : Step} (h : Sound d past)
    (h_clock : Chronological (past ++ (d.turn s).taken s.surroundings)) :
    Sound (d.turn s).dimmer (past ++ (d.turn s).taken s.surroundings) := by
  have h_course := d.course s
  generalize d.turn s = t at h_clock h_course ⊢
  cases h_course with
  | idle t h_same =>
    rw [h_same]
    exact h.mono _
  | collapsed t h_handle h_rest =>
    rw [h_rest]
    exact sound_of_rest rfl rfl h.start
  | presented t handle request h_handle h_same h_arises h_going =>
    subst h_same
    -- the reading at which the request was considered is the last of the turn
    have h_taken : (t.present s.surroundings request).taken s.surroundings
        = t.taken s.surroundings ++ [t.now s.surroundings] := by
      rw [← Turn.taken_tookReading]
      exact Turn.taken_of_readings_eq (Turn.readings_present h_handle h_going) _
    rw [h_taken]
    refine (h.mono _).presented ?_ (h_arises.accepted h.target) (Turn.presented h_handle h_going)
    exact List.mem_append_right _ (List.mem_append_right _ (List.mem_singleton_self _))
  | advanced t handle h_handle h_operation h_animating h_readings h_applied =>
    -- the one reading of the turn is no earlier than the start of the fade
    rw [Turn.taken_of_readings_eq_one h_readings] at h_clock ⊢
    exact (h.advanced h_animating h_clock h_applied).mono _
  | released t h_operation h_rest =>
    rw [h_rest]
    exact sound_of_rest rfl rfl h.start
  | cutShort t handle footprint h_handle h_ended h_cut =>
    -- where the surface was placed is no matter here
    rw [h_cut]
    have h_mono := h.mono (t.taken s.surroundings)
    exact ⟨h.alpha, h.target, h.start, fun h_animating => { h_mono.fading h_animating with }⟩

/-! ### Every run keeps it -/

theorem sound_new (options : Options) (display : Float)
    (admission : SurfaceRequest → Except Failure Handle) (refusal : Primitive → Option Failure) :
    Sound (Dimmer.new options display admission refusal) [] := by
  obtain ⟨handle, h_new⟩ := Dimmer.new_eq options display admission refusal
  rw [h_new]
  exact sound_of_rest rfl rfl inUnit_zero

/-- The invariant holds of a dimmer and its clock after every run. -/
theorem Sound.after {d : Dimmer} {past : List Float} {steps : List Step} (h : Sound d past)
    (h_clock : Chronological (past ++ d.clock steps)) :
    Sound (d.after steps) (past ++ d.clock steps) :=
  Dimmer.run_induction (fun _ _ _ _ h h_clock => h.turn h_clock) h (fun _ _ => trivial) h_clock

/-- **Alphas stay between zero and one, and a fade in progress stays on its way.** The dimmer was
created anyhow and has since taken any steps, with any display and any refusals at each of them;
only the clock is known to be finite and never to go back. -/
theorem Dimmer.alphas_of_run (options : Options) (display : Float)
    (admission : SurfaceRequest → Except Failure Handle) (refusal : Primitive → Option Failure)
    (steps : List Step) (now : Float)
    (h_clock : Chronological ((new options display admission refusal).clock steps ++ [now])) :
    let d := (new options display admission refusal).after steps
    InUnit d.alpha ∧ InUnit d.target ∧ InUnit d.timeline.startAlpha ∧
      (d.isAnimating = true →
        0 < d.timeline.duration ∧ (d.timeline.startAlpha != d.target) = true ∧
          d.timeline.startTime ≤ now ∧ OnTheWay d.timeline.startAlpha d.target d.alpha) := by
  intro d
  have h_sound := (sound_new options display admission refusal).after h_clock.left
  refine ⟨h_sound.alpha, h_sound.target, h_sound.start, ?_⟩
  intro h_animating
  have h_fading := h_sound.fading h_animating
  exact ⟨h_fading.duration_pos, h_fading.onTheWay.start_ne, h_clock.le_now h_fading.started,
    h_fading.onTheWay⟩

/-- A fade-in of one second, moved on at half-time. -/
def Dimmer.halfFadeIn : List Step :=
  [⟨.present (.number 5) (.number 0.8) (.number 1000), .calm 0⟩, ⟨.advance, .calm 500⟩]

theorem Dimmer.accepting_halfFadeIn : ∀ s ∈ halfFadeIn, s.surroundings.Accepting := by
  intro s hs
  simp only [halfFadeIn, List.mem_cons, List.not_mem_nil, or_false] at hs
  rcases hs with rfl | rfl <;> exact Surroundings.accepting_calm _

/-- A fade-in under way is on its way. -/
theorem Dimmer.alphas_of_halfFadeIn :
    (fresh.after halfFadeIn).isAnimating = true ∧
      Chronological (fresh.clock halfFadeIn ++ [600]) ∧
      OnTheWay (fresh.after halfFadeIn).timeline.startAlpha (fresh.after halfFadeIn).target
        (fresh.after halfFadeIn).alpha := by
  have h_animating : (fresh.after halfFadeIn).isAnimating = true := by decide +kernel
  have h_clock : Chronological (fresh.clock halfFadeIn ++ [600]) :=
    ⟨by decide +kernel, by decide +kernel⟩
  have h_alphas := alphas_of_run _ _ _ _ halfFadeIn 600 h_clock
  rw [← fresh_eq] at h_alphas
  exact ⟨h_animating, h_clock, (h_alphas.2.2.2 h_animating).2.2.2⟩

end Scrim

import Scrim.Proofs.Dimmer.Instant
import Scrim.Proofs.Dimmer.Visibility

/-!
# Dismissing a dimmer

Dismissing a dimmer that shows sends it toward zero, and dismissing it in no time, as hiding does,
leaves it hidden at zero (`Dimmer.dismissal_of_run`). It passes three tests on the way: whether the
dimmer shows, whether it heads for zero already, and, being a present request, whether that commits.
The last two measure the request against the end of a fade-out in progress, at readings of their
own; what is said of dismissing in no time is said of a fade-out whose end is still to come at the
second of them.

A dimmer that is hidden is not dismissed at all. If it was told to fade in and no tick has shown it
yet, it goes on to do so (`Dimmer.isDimming_of_dismissed_fadeIn`).
-/

namespace Scrim

open Number

/-- Hidden, at alpha zero. -/
def Dimmer.Hidden (d : Dimmer) : Prop :=
  (d.alpha == 0) = true ∧ d.showing = false

/-! ### Dismissing on a live surface -/

namespace Turn

variable {t : Turn} {w : Surroundings} {handle : Handle} {request : DismissRequest}

theorem dismiss_of_hidden (h_handle : t.dimmer.handle = some handle)
    (h_hidden : t.dimmer.showing = false) : t.dismiss w request = t := by
  unfold dismiss
  rw [h_handle]
  exact if_pos (by rw [h_hidden]; rfl)

theorem dismiss_of_showing (h_handle : t.dimmer.handle = some handle)
    (h_showing : t.dimmer.showing = true) :
    t.dismiss w request
      = if t.dimmer.target != 0 then t.fadeOut w request.duration
        else if t.dimmer.timeline.outrunBy request.duration (t.now w) then
          t.tookReading.fadeOut w request.duration
        else t.tookReading := by
  unfold dismiss
  rw [h_handle]
  exact if_neg (by rw [h_showing]; exact Bool.false_ne_true)

theorem fadeOut_eq (t : Turn) (w : Surroundings) (duration : Float) :
    ∃ message, t.fadeOut w duration
      = (t.debug message).present w { layer := t.dimmer.footprint.layer, alpha := 0, duration } :=
  ⟨_, rfl⟩

/-- Fading out heads for zero, whether it commits or not. -/
theorem target_fadeOut (hw : w.Describable) (h_handle : t.dimmer.handle = some handle)
    (h_going : t.failure = none) (duration : Float) :
    (t.fadeOut w duration).dimmer.target = 0 := by
  obtain ⟨message, h_fadeOut⟩ := fadeOut_eq t w duration
  rw [h_fadeOut]
  have h_presented := presented (t := t.debug message) h_handle
    (going_present (t := t.debug message) hw h_going
      { layer := t.dimmer.footprint.layer, alpha := 0, duration })
  exact h_presented.target_eq

theorem target_dismiss (hw : w.Describable) (h_handle : t.dimmer.handle = some handle)
    (h_going : t.failure = none) (h_showing : t.dimmer.showing = true) :
    ((t.dismiss w request).dimmer.target == 0) = true := by
  have h_zero := Number.beq_refl (isNaN_of_isFinite isFinite_zero)
  rw [dismiss_of_showing h_handle h_showing]
  split
  · rw [target_fadeOut hw h_handle h_going]
    exact h_zero
  · next h_target =>
    -- the first guard has failed: the dimmer is heading for zero already
    have h_target : (t.dimmer.target == 0) = true := by
      rwa [bne, Bool.not_eq_true, Bool.not_eq_false'] at h_target
    split
    · rw [target_fadeOut (t := t.tookReading) hw h_handle h_going]
      exact h_zero
    · exact h_target

end Turn

/-! ### Dismissing in no time -/

section NoTime

variable {t : Turn} {w : Surroundings} {handle : Handle} {past : List Float}

/-- Fading out in no time hides the dimmer, unless a fade-out is overdue. -/
theorem Sound.hidden_of_fadeOut (h : Sound t.dimmer past) (h_visible : Visible t.dimmer)
    (hw : w.Accepting) (h_handle : t.dimmer.handle = some handle) (h_going : t.failure = none)
    (h_clock : Chronological (past ++ [t.now w]))
    (h_due : ¬(t.dimmer.Overdue (t.now w) ∧ (t.dimmer.target == 0) = true)) {duration : Float}
    (h_zero : (duration == 0) = true) : (t.fadeOut w duration).dimmer.Hidden := by
  obtain ⟨message, h_fadeOut⟩ := Turn.fadeOut_eq t w duration
  rw [h_fadeOut]
  let request : PresentRequest := { layer := t.dimmer.footprint.layer, alpha := 0, duration }
  have h_presented := Turn.presented (t := t.debug message) h_handle
    (Turn.going_present (t := t.debug message) hw.describable h_going request)
  have h_rests := (h.restsAt_iff h_clock h_presented inUnit_zero h_zero).mpr h_due
  have h_after := h_presented.visible hw h_visible inUnit_zero h_handle
  exact ⟨h_rests.1, h_after.showing_eq_false h_rests.1⟩

/-- A dimmer that shows and heads for zero is fading out. -/
theorem Visible.isAnimating {d : Dimmer} (h : Visible d) (h_showing : d.showing = true)
    (h_target : (d.target == 0) = true) : d.isAnimating = true := by
  refine Number.bne_of_lt (Number.lt_of_le_of_lt (Number.le_of_beq h_target) ?_)
  exact h.showing_iff.mp h_showing

/-- A fade that is overdue stays so. -/
theorem Dimmer.Overdue.mono {d : Dimmer} {now later : Float} (h : d.Overdue now)
    (h_le : now ≤ later) : d.Overdue later :=
  ⟨h.1, Number.le_trans h.2 h_le⟩

/-- Dismissing in no time hides the dimmer, unless a fade-out is overdue. -/
theorem Sound.hidden_of_dismiss (h : Sound t.dimmer past) (h_visible : Visible t.dimmer)
    (hw : w.Accepting) (h_handle : t.dimmer.handle = some handle) (h_going : t.failure = none)
    (h_first : t.readings = 0) (h_clock : Chronological (past ++ [w.reading 0, w.reading 1]))
    (h_due : (t.dimmer.target == 0) = true → ¬t.dimmer.Overdue (w.reading 1))
    {request : DismissRequest} (h_zero : (request.duration == 0) = true) :
    (t.dismiss w request).dimmer.Hidden := by
  have h_clock₁ : Chronological ((past ++ [w.reading 0]) ++ [w.reading 1]) := by
    rwa [List.append_assoc]
  have h_clock₀ : Chronological (past ++ [w.reading 0]) := h_clock₁.left
  have h_now : t.now w = w.reading 0 := by rw [Turn.now, h_first]
  have h_next : t.tookReading.now w = w.reading 1 := by
    rw [Turn.now, Turn.readings_tookReading, h_first]
  by_cases h_showing : t.dimmer.showing = true
  · rw [Turn.dismiss_of_showing h_handle h_showing, h_now]
    split
    · next h_target =>
      -- the dimmer heads elsewhere, so no fade-out is in progress
      refine h.hidden_of_fadeOut h_visible hw h_handle h_going (h_now ▸ h_clock₀) ?_ h_zero
      rintro ⟨-, h_same⟩
      rw [bne, h_same] at h_target
      exact Bool.noConfusion h_target
    · next h_target =>
      have h_target : (t.dimmer.target == 0) = true := by
        rwa [bne, Bool.not_eq_true, Bool.not_eq_false'] at h_target
      split
      · -- the fade-out in progress is outrun, and at the second reading still not overdue
        have h_sound := h.mono [w.reading 0]
        refine Sound.hidden_of_fadeOut (t := t.tookReading) h_sound h_visible hw h_handle h_going
          (h_next ▸ h_clock₁) ?_ h_zero
        rw [h_next]
        exact fun h_overdue => h_due h_target h_overdue.1
      · next h_outrun =>
        -- what is not outrun at the first reading is overdue, then and later
        have h_animating := h_visible.isAnimating h_showing h_target
        have h_overdue : t.dimmer.Overdue (w.reading 0) := by
          by_contra h_not
          exact h_outrun ((h.outrunBy_iff h_clock₀ h_animating h_zero).mpr h_not)
        have h_le : w.reading 0 ≤ w.reading 1 :=
          h_clock₁.le_now (List.mem_append_right _ (List.mem_singleton_self _))
        exact absurd (h_overdue.mono h_le) (h_due h_target)
  · -- what does not show is at zero already
    have h_hidden := Bool.eq_false_of_not_eq_true h_showing
    rw [Turn.dismiss_of_hidden h_handle h_hidden]
    exact ⟨h_visible.alpha_beq_zero h.alpha h_hidden, h_hidden⟩

/-- Hiding is dismissing in no time. -/
theorem Sound.hidden_of_hideNow (h : Sound t.dimmer past) (h_visible : Visible t.dimmer)
    (hw : w.Accepting) (h_handle : t.dimmer.handle = some handle) (h_going : t.failure = none)
    (h_first : t.readings = 0) (h_clock : Chronological (past ++ [w.reading 0, w.reading 1]))
    (h_due : (t.dimmer.target == 0) = true → ¬t.dimmer.Overdue (w.reading 1)) :
    (t.hideNow w).dimmer.Hidden := by
  have h_zero := Number.beq_refl (isNaN_of_isFinite isFinite_zero)
  unfold Turn.hideNow
  rw [h_handle]
  dsimp only
  split
  · exact Sound.hidden_of_dismiss (t := t.debug _) h h_visible hw h_handle h_going h_first h_clock
      h_due h_zero
  · next h_showing =>
    -- a hidden dimmer is at zero, since it shows exactly above it
    have h_hidden := Bool.eq_false_of_not_eq_true h_showing
    exact ⟨h_visible.alpha_beq_zero h.alpha h_hidden, h_hidden⟩

end NoTime

/-! ### Dismissing after a run -/

/-- **Dismissals of what shows are not lost.** The dimmer is any that a run with a proper clock and
no refusals leads to and that has a surface. Dismissing it over any time sends it toward zero if it
shows, and changes nothing if it is hidden. Dismissing it in no time, or hiding it, leaves it hidden
at zero if no fade-out is overdue. -/
theorem Dimmer.dismissal_of_run (options : Options) (display : Float)
    (admission : SurfaceRequest → Except Failure Handle) (refusal : Primitive → Option Failure)
    (steps : List Step) (w : Surroundings)
    (h_accepting : ∀ s ∈ steps, s.surroundings.Accepting) (hw : w.Accepting)
    (h_clock : Chronological
      ((new options display admission refusal).clock steps ++ [w.reading 0, w.reading 1]))
    (h_live : ((new options display admission refusal).after steps).handle.isSome = true) :
    let d := (new options display admission refusal).after steps
    (∀ duration request, DismissRequest.check duration = .ok request →
        let d' := (d.turn ⟨.dismiss duration, w⟩).dimmer
        (d.showing = true → (d'.target == 0) = true ∧ d'.isDimming = false) ∧
          (d.showing = false → d' = d)) ∧
      (((d.target == 0) = true → ¬d.Overdue (w.reading 1)) →
        (∀ duration request, DismissRequest.check duration = .ok request →
            (request.duration == 0) = true → (d.turn ⟨.dismiss duration, w⟩).dimmer.Hidden) ∧
          (d.turn ⟨.hideNow, w⟩).dimmer.Hidden) := by
  intro d
  have h_sound := (sound_new options display admission refusal).after h_clock.left
  have h_visible := (visible_new options display admission refusal).after
    (sound_new options display admission refusal) h_accepting h_clock.left
  obtain ⟨handle, h_handle⟩ := Option.isSome_iff_exists.mp h_live
  let t : Turn := { dimmer := d }
  -- an accepted dismissal is carried out on the dimmer as it is
  have h_turn {duration : Value} {request : DismissRequest}
      (h_check : DismissRequest.check duration = .ok request) :
      d.turn ⟨.dismiss duration, w⟩ = t.dismiss w request :=
    turn_dismiss h_check d w
  refine ⟨?_, ?_⟩
  · intro duration request h_check
    rw [h_turn h_check]
    refine ⟨?_, ?_⟩
    · intro h_showing
      have h_target : ((t.dismiss w request).dimmer.target == 0) = true :=
        Turn.target_dismiss hw.describable h_handle rfl h_showing
      refine ⟨h_target, ?_⟩
      rw [isDimming, bne, h_target]
      rfl
    · intro h_hidden
      rw [Turn.dismiss_of_hidden (t := t) h_handle h_hidden]
  intro h_due
  refine ⟨?_, ?_⟩
  · intro duration request h_check h_zero
    rw [h_turn h_check]
    exact Sound.hidden_of_dismiss (t := t) h_sound h_visible hw h_handle rfl rfl h_clock h_due
      h_zero
  · -- hiding at once is to dismiss over no time
    exact Sound.hidden_of_hideNow (t := t) h_sound h_visible hw h_handle rfl rfl h_clock h_due

/-- Half-way through a fade-in the dimmer shows, and can be dismissed over time or hidden. -/
theorem Dimmer.dismissal_of_halfFadeIn :
    ((fresh.after halfFadeIn).turn ⟨.dismiss (.number 300), .calm 500⟩).dimmer.isDimming = false ∧
      ((fresh.after halfFadeIn).turn ⟨.hideNow, .calm 500⟩).dimmer.Hidden := by
  have h_clock : Chronological (fresh.clock halfFadeIn ++ [500, 500]) :=
    ⟨by decide +kernel, by decide +kernel⟩
  have h_live : (fresh.after halfFadeIn).handle.isSome = true := by decide +kernel
  have h_showing : (fresh.after halfFadeIn).showing = true := by decide +kernel
  have h_target : ((fresh.after halfFadeIn).target == 0) = false := by decide +kernel
  have h_dismissal := dismissal_of_run _ _ _ _ halfFadeIn (.calm 500) accepting_halfFadeIn
    (Surroundings.accepting_calm 500) h_clock h_live
  rw [← fresh_eq] at h_dismissal
  obtain ⟨h_any, h_noTime⟩ := h_dismissal
  refine ⟨?_, ?_⟩
  · have h_ok : (DismissRequest.check (.number 300)).toBool = true := by decide +kernel
    cases h_check : DismissRequest.check (.number 300) with
    | error failure =>
      rw [h_check] at h_ok
      exact Bool.noConfusion h_ok
    | ok request => exact ((h_any (.number 300) request h_check).1 h_showing).2
  · refine (h_noTime ?_).2
    intro h_zero
    rw [h_target] at h_zero
    exact Bool.noConfusion h_zero

/-- **A fade-in that no tick has shown yet survives a dismissal.** The dimmer is hidden, so the
request is accepted and ignored, and the dimmer goes on toward its target. -/
theorem Dimmer.isDimming_of_dismissed_fadeIn :
    (∀ s ∈ fadeInBegun, s.surroundings.Accepting) ∧
      Chronological (fresh.clock fadeInBegun ++ [0]) ∧
      (fresh.after fadeInBegun).handle.isSome = true ∧
      ((fresh.after fadeInBegun).answer ⟨.dismiss (.number 300), .calm 0⟩).toBool = true ∧
      ((fresh.after fadeInBegun).turn ⟨.dismiss (.number 300), .calm 0⟩).dimmer.isDimming
        = true := by
  refine ⟨?_, ⟨by decide +kernel, by decide +kernel⟩, by decide +kernel, by decide +kernel,
    by decide +kernel⟩
  intro s hs
  obtain rfl := List.mem_singleton.mp hs
  exact Surroundings.accepting_calm 0

end Scrim

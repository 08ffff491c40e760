import Scrim.Proofs.Dimmer.Alpha

/-!
# The visibility of a dimmer

While its surface refuses nothing, a dimmer shows exactly if its alpha is above zero
(`Visible.after`). Applying an alpha keeps the two together, because an alpha that is not negative
is either zero or above it. Coming to rest puts the alpha at zero without a word to the surface.
That is in order since a dimmer does so only when it has no surface, and then it does not show
either.
-/

namespace Scrim

open Number

/-- The dimmer shows exactly if its alpha is above zero, and never without a surface. -/
structure Visible (d : Dimmer) : Prop where
  showing_iff : d.showing = true ↔ 0 < d.alpha
  absent : d.handle = none → d.showing = false

theorem not_pos_of_beq {x : Float} (h : (x == 0) = true) : ¬0 < x := fun h_pos =>
  (toRat_pos h_pos).ne' ((toRat_eq_of_beq h).trans toRat_zero)

/-- What is not negative is zero or above. -/
theorem beq_zero_of_not_pos {x : Float} (h_nonneg : 0 ≤ x) (h : ¬0 < x) : (x == 0) = true := by
  obtain ⟨h_zero, h_x⟩ := isNaN_of_le h_nonneg
  have h_le : x ≤ 0 := Number.le_of_not_lt h_x h_zero h
  have h_rat : toRat x = toRat 0 := le_antisymm (toRat_le_of_le h_le) (toRat_le_of_le h_nonneg)
  exact (beq_iff h_x h_zero).mpr h_rat

/-- A dimmer that does not show is at zero. -/
theorem Visible.alpha_beq_zero {d : Dimmer} (h : Visible d) (h_alpha : InUnit d.alpha)
    (h_hidden : d.showing = false) : (d.alpha == 0) = true := by
  apply beq_zero_of_not_pos h_alpha.nonneg
  intro h_pos
  rw [h.showing_iff.mpr h_pos] at h_hidden
  exact Bool.noConfusion h_hidden

/-- A dimmer that is at zero does not show. -/
theorem Visible.showing_eq_false {d : Dimmer} (h : Visible d) (h_zero : (d.alpha == 0) = true) :
    d.showing = false :=
  Bool.eq_false_of_not_eq_true fun h_showing => not_pos_of_beq h_zero (h.showing_iff.mp h_showing)

/-- The visibility that an alpha leaves behind is the right one for it. -/
theorem Dimmer.visibilityAt_getD {d : Dimmer} {alpha : Float} (h_alpha : InUnit alpha) :
    (d.visibilityAt alpha).getD d.showing = true ↔ 0 < alpha := by
  unfold visibilityAt
  by_cases h_pos : 0 < alpha
  · have h_zero : (alpha == 0) = false :=
      Bool.eq_false_of_not_eq_true fun h => not_pos_of_beq h h_pos
    rw [h_zero, decide_eq_true h_pos]
    cases d.showing <;> exact iff_of_true rfl h_pos
  · have h_zero := beq_zero_of_not_pos h_alpha.nonneg h_pos
    rw [h_zero, decide_eq_false h_pos]
    cases d.showing <;> exact iff_of_false Bool.false_ne_true h_pos

theorem Applied.handle_eq {w : Surroundings} {d d' : Dimmer} {alpha : Float}
    (h : Applied w d alpha d') : d'.handle = d.handle := by
  cases h <;> rfl

theorem Presented.handle_eq {w : Surroundings} {d d' : Dimmer} {request : PresentRequest}
    {now : Float} (h : Presented w d request now d') : d'.handle = d.handle := by
  cases h with
  | kept => rfl
  | jumped footprint reached h_commits h_instant h_applied => exact h_applied.handle_eq
  | started => rfl

theorem Applied.visible {w : Surroundings} {d d' : Dimmer} {alpha : Float} {handle : Handle}
    (h_applied : Applied w d alpha d') (hw : w.Accepting) (h : Visible d) (h_alpha : InUnit alpha)
    (h_handle : d.handle = some handle) : Visible d' := by
  refine ⟨?_, ?_⟩
  · cases h_applied with
    | inPlace => exact h.showing_iff
    | changed h_ne showing h_showing =>
      -- nothing was refused, so the visibility has followed the alpha
      rw [h_showing hw]
      exact Dimmer.visibilityAt_getD h_alpha
  · intro h_none
    rw [h_applied.handle_eq, h_handle] at h_none
    cases h_none

theorem Presented.visible {w : Surroundings} {d d' : Dimmer} {request : PresentRequest}
    {now : Float} {handle : Handle} (h_presented : Presented w d request now d')
    (hw : w.Accepting) (h : Visible d) (h_alpha : InUnit request.alpha)
    (h_handle : d.handle = some handle) : Visible d' := by
  cases h_presented with
  | kept => exact ⟨h.showing_iff, h.absent⟩
  | jumped footprint reached h_commits h_instant h_applied =>
    have h_reached := h_applied.visible hw h h_alpha h_handle
    exact ⟨h_reached.showing_iff, h_reached.absent⟩
  | started => exact ⟨h.showing_iff, h.absent⟩

/-- A dimmer that is hidden at zero is in order. -/
theorem visible_of_rest {d : Dimmer} (h_alpha : d.alpha = 0) (h_showing : d.showing = false) :
    Visible d where
  showing_iff := by
    rw [h_alpha, h_showing]
    exact iff_of_false Bool.false_ne_true
      (not_pos_of_beq (Number.beq_refl (isNaN_of_isFinite isFinite_zero)))
  absent _ := h_showing

/-- **Each step that is not refused keeps the visibility in order.** -/
theorem Visible.turn {d : Dimmer} {past : List Float} {s : Step} (h : Visible d)
    (h_sound : Sound d past) (h_accepting : s.surroundings.Accepting)
    (h_clock : Chronological (past ++ (d.turn s).taken s.surroundings)) :
    Visible (d.turn s).dimmer := by
  have h_course := d.course s
  generalize d.turn s = t at h_clock h_course ⊢
  cases h_course with
  | idle t h_same =>
    rw [h_same]
    exact h
  | collapsed t h_handle h_rest =>
    rw [h_rest]
    -- without a surface the dimmer was hidden already
    exact visible_of_rest rfl (h.absent h_handle)
  | presented t handle request h_handle h_same h_arises h_going =>
    subst h_same
    exact (Turn.presented h_handle h_going).visible h_accepting h
      (h_arises.accepted h_sound.target).alpha h_handle
  | advanced t handle h_handle h_operation h_animating h_readings h_applied =>
    -- the sample is an alpha, since the clock has not gone back
    rw [Turn.taken_of_readings_eq_one h_readings] at h_clock
    have h_between := h_sound.sample_between h_animating h_clock
    exact h_applied.visible h_accepting h (h_between.inUnit h_sound.start h_sound.target) h_handle
  | released t h_operation h_rest =>
    rw [h_rest]
    exact visible_of_rest rfl rfl
  | cutShort t handle footprint h_handle h_ended h_cut =>
    rw [h_cut]
    exact ⟨h.showing_iff, h.absent⟩

theorem visible_new (options : Options) (display : Float)
    (admission : SurfaceRequest → Except Failure Handle) (refusal : Primitive → Option Failure) :
    Visible (Dimmer.new options display admission refusal) := by
  obtain ⟨handle, h_new⟩ := Dimmer.new_eq options display admission refusal
  rw [h_new]
  exact visible_of_rest rfl rfl

/-- The visibility is in order after every run that is not refused. -/
theorem Visible.after {d : Dimmer} {past : List Float} {steps : List Step} (h : Visible d)
    (h_sound : Sound d past) (h_accepting : ∀ s ∈ steps, s.surroundings.Accepting)
    (h_clock : Chronological (past ++ d.clock steps)) : Visible (d.after steps) := by
  have h_step (d : Dimmer) (past : List Float) (s : Step) (h_accepting : s.surroundings.Accepting)
      (h : Sound d past ∧ Visible d)
      (h_clock : Chronological (past ++ (d.turn s).taken s.surroundings)) :
      Sound (d.turn s).dimmer (past ++ (d.turn s).taken s.surroundings) ∧
        Visible (d.turn s).dimmer :=
    ⟨h.1.turn h_clock, h.2.turn h.1 h_accepting h_clock⟩
  exact (Dimmer.run_induction h_step ⟨h_sound, h⟩ h_accepting h_clock).2

end Scrim

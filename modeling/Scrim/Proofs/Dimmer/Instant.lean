import Scrim.Proofs.Dimmer.Alpha
import Scrim.Proofs.Dimmer.Moves

/-!
# Requests for no time at all

A present request without duration is to take effect at once, and so is jumping to the end. Both do,
unless a fade is `Overdue`: its scheduled end has passed and no tick has landed since. The new
request would arrive no earlier than that end, so it is not committed, and the dimmer stays where
it was until the next tick. `Dimmer.takesEffect_iff` says that this is the only exception. For a
present request the fade must also head for the alpha requested; a jump heads there by itself.
-/

namespace Scrim

open Number

/-- A fade is in progress, and its end has passed. -/
def Dimmer.Overdue (d : Dimmer) (now : Float) : Prop :=
  d.isAnimating = true ∧ d.timeline.finish ≤ now

/-- An alpha is in place, and no fade is in progress. -/
def Dimmer.RestsAt (d : Dimmer) (alpha : Float) : Prop :=
  (d.alpha == alpha) = true ∧ d.isAnimating = false

theorem Dimmer.isAnimating_eq_false {d : Dimmer} (h : (d.target == d.alpha) = true) :
    d.isAnimating = false :=
  Bool.eq_false_of_not_eq_true (not_isAnimating h)

/-- A request without duration outruns the fade in progress exactly if that is not overdue. -/
theorem Sound.outrunBy_iff {d : Dimmer} {past : List Float} {duration now : Float}
    (h : Sound d past) (h_clock : Chronological (past ++ [now]))
    (h_animating : d.isAnimating = true) (h_zero : (duration == 0) = true) :
    d.timeline.outrunBy duration now = true ↔ ¬d.Overdue now := by
  have h_fading := h.fading h_animating
  have h_time := h_clock.left.finite _ h_fading.started
  rw [Timeline.outrunBy_iff_of_zero h_time h_fading.duration_finite h_clock.isFinite_now h_zero]
  exact not_congr (and_iff_right h_animating).symm

/-- **What a present request without duration comes to.** -/
theorem Sound.restsAt_iff {w : Surroundings} {d d' : Dimmer} {past : List Float} {now : Float}
    {request : PresentRequest} (h : Sound d past) (h_clock : Chronological (past ++ [now]))
    (h_presented : Presented w d request now d') (h_alpha : InUnit request.alpha)
    (h_zero : (request.duration == 0) = true) :
    d'.RestsAt request.alpha ↔ ¬(d.Overdue now ∧ (d.target == request.alpha) = true) := by
  cases h_presented with
  | kept footprint h_commits =>
    rcases Dimmer.beq_of_not_commits h_commits with
      ⟨h_animating, h_target, h_outrun⟩ | ⟨h_idle, h_there⟩
    · -- the fade in progress was not outrun, so it is overdue
      have h_overdue : d.Overdue now := by
        by_contra h_due
        rw [(h.outrunBy_iff h_clock h_animating h_zero).mpr h_due] at h_outrun
        exact Bool.noConfusion h_outrun
      refine iff_of_false ?_ (not_not_intro ⟨h_overdue, h_target⟩)
      intro h_rests
      have h_alpha_rat := toRat_eq_of_beq h_rests.1
      have h_same : (d.target == d.alpha) = true :=
        (beq_iff h.target.isNaN h.alpha.isNaN).mpr
          ((toRat_eq_of_beq h_target).trans h_alpha_rat.symm)
      exact Dimmer.not_isAnimating h_same h_animating
    · -- the dimmer was at rest there before
      refine iff_of_true ⟨h_there, Dimmer.isAnimating_eq_false (Number.beq_symm h_there)⟩ ?_
      rintro ⟨⟨h_animating, -⟩, -⟩
      rw [h_idle] at h_animating
      exact Bool.noConfusion h_animating
  | jumped footprint reached h_commits h_instant h_applied =>
    have h_there := h_applied.alpha_beq h_alpha.isNaN
    refine iff_of_true ⟨h_there, Dimmer.isAnimating_eq_false (Number.beq_symm h_there)⟩ ?_
    rintro ⟨h_overdue, h_target⟩
    -- an overdue fade toward the alpha would not have let the request commit
    unfold Dimmer.commits at h_commits
    rw [if_pos h_overdue.1, bne, h_target] at h_commits
    exact (h.outrunBy_iff h_clock h_overdue.1 h_zero).mp h_commits h_overdue
  | started footprint h_commits h_lasting => exact absurd (Number.le_of_beq h_zero) h_lasting

/-- Jumping to the end of a fade in progress presents its target. -/
theorem Turn.jumpToEnd_of_isAnimating {t : Turn} {handle : Handle}
    (h_handle : t.dimmer.handle = some handle) (h_animating : t.dimmer.isAnimating = true)
    (w : Surroundings) :
    t.jumpToEnd w = (t.debug "jumpToEnd: immediate").present w
      { layer := t.dimmer.footprint.layer, alpha := t.dimmer.target, duration := 0 } := by
  unfold jumpToEnd
  rw [h_handle]
  exact if_pos h_animating

theorem Turn.jumpToEnd_of_not_isAnimating {t : Turn} {handle : Handle}
    (h_handle : t.dimmer.handle = some handle) (h_idle : ¬t.dimmer.isAnimating = true)
    (w : Surroundings) : t.jumpToEnd w = t := by
  unfold jumpToEnd
  rw [h_handle]
  exact if_neg h_idle

/-- What jumping to the end comes to, unless it is cut short. -/
theorem Sound.restsAt_jumpToEnd_iff {w : Surroundings} {d : Dimmer} {past : List Float}
    {handle : Handle} (h : Sound d past) (h_clock : Chronological (past ++ [w.reading 0]))
    (h_handle : d.handle = some handle) (h_going : (d.turn ⟨.jumpToEnd, w⟩).failure = none) :
    (d.turn ⟨.jumpToEnd, w⟩).dimmer.RestsAt d.target ↔ ¬d.Overdue (w.reading 0) := by
  let t : Turn := { dimmer := d }
  change (t.jumpToEnd w).failure = none at h_going
  change (t.jumpToEnd w).dimmer.RestsAt d.target ↔ _
  by_cases h_animating : d.isAnimating = true
  · rw [Turn.jumpToEnd_of_isAnimating (t := t) h_handle h_animating] at h_going ⊢
    have h_presented := Turn.presented (t := t.debug "jumpToEnd: immediate") h_handle h_going
    -- the jump asks for the target itself, so only the clock decides
    rw [h.restsAt_iff h_clock h_presented h.target (Number.beq_refl inUnit_zero.isNaN)]
    exact not_congr (and_iff_left (Number.beq_refl h.target.isNaN))
  · -- there is nowhere to jump to
    rw [Turn.jumpToEnd_of_not_isAnimating (t := t) h_handle h_animating]
    have h_same : (d.target == d.alpha) = true := by
      rwa [Dimmer.isAnimating, bne, Bool.not_eq_true, Bool.not_eq_false'] at h_animating
    refine iff_of_true ⟨Number.beq_symm h_same, Dimmer.isAnimating_eq_false h_same⟩ ?_
    exact fun h_overdue => h_animating h_overdue.1

/-- **Requests for no time take effect at once, unless a fade is overdue.** The dimmer is any that a
run with a proper clock leads to and that has a surface, which may refuse what it likes, as long as
the request itself is not cut short by a refusal that cannot be told. A present request without
duration leaves it at rest at the alpha requested, except if a fade toward that alpha is overdue;
and jumping to the end leaves it at rest at the target that it had, except if a fade is overdue. -/
theorem Dimmer.takesEffect_iff (options : Options) (display : Float)
    (admission : SurfaceRequest → Except Failure Handle) (refusal : Primitive → Option Failure)
    (steps : List Step) (w : Surroundings)
    (h_clock : Chronological
      ((new options display admission refusal).clock steps ++ [w.reading 0]))
    (h_live : ((new options display admission refusal).after steps).handle.isSome = true) :
    let d := (new options display admission refusal).after steps
    (∀ layer alpha duration request,
        PresentRequest.check layer alpha duration = .ok request → (request.duration == 0) = true →
        (d.turn ⟨.present layer alpha duration, w⟩).failure = none →
        ((d.turn ⟨.present layer alpha duration, w⟩).dimmer.RestsAt request.alpha
          ↔ ¬(d.Overdue (w.reading 0) ∧ (d.target == request.alpha) = true))) ∧
      ((d.turn ⟨.jumpToEnd, w⟩).failure = none →
        ((d.turn ⟨.jumpToEnd, w⟩).dimmer.RestsAt d.target ↔ ¬d.Overdue (w.reading 0))) := by
  intro d
  have h_sound := (sound_new options display admission refusal).after h_clock.left
  obtain ⟨handle, h_handle⟩ := Option.isSome_iff_exists.mp h_live
  refine ⟨?_, ?_⟩
  · intro layer alpha duration request h_check h_zero h_going
    rw [turn_present h_check] at h_going ⊢
    have h_presented := Turn.presented (t := { dimmer := d }) h_handle h_going
    have h_alpha := (PresentRequest.check_accepted h_check).alpha
    exact h_sound.restsAt_iff h_clock h_presented h_alpha h_zero
  · exact h_sound.restsAt_jumpToEnd_iff h_clock h_handle

/-- A fade-in of one second that no tick has moved on. -/
def Dimmer.fadeInBegun : List Step :=
  [⟨.present (.number 5) (.number 0.8) (.number 1000), .calm 0⟩]

/-- Half-way through a fade-in, jumping to the end does so. After its end has passed, jumping there
leaves it in progress. -/
theorem Dimmer.takesEffect_of_fadeInBegun :
    ((fresh.after fadeInBegun).turn ⟨.jumpToEnd, .calm 500⟩).dimmer.RestsAt
        (fresh.after fadeInBegun).target ∧
      ¬((fresh.after fadeInBegun).turn ⟨.jumpToEnd, .calm 2000⟩).dimmer.RestsAt
        (fresh.after fadeInBegun).target := by
  have h_live : (fresh.after fadeInBegun).handle.isSome = true := by decide +kernel
  have h_clock (now : Float) (h_finite : ∀ r ∈ fresh.clock fadeInBegun ++ [now], r.isFinite = true)
      (h_ordered : (fresh.clock fadeInBegun ++ [now]).Pairwise (· ≤ ·)) :
      Chronological (fresh.clock fadeInBegun ++ [now]) := ⟨h_finite, h_ordered⟩
  have h_early := (takesEffect_iff _ _ _ _ fadeInBegun (.calm 500)
    (h_clock 500 (by decide +kernel) (by decide +kernel)) h_live).2
    (going_turn (Surroundings.describable_calm 500) _)
  have h_late := (takesEffect_iff _ _ _ _ fadeInBegun (.calm 2000)
    (h_clock 2000 (by decide +kernel) (by decide +kernel)) h_live).2
    (going_turn (Surroundings.describable_calm 2000) _)
  rw [← fresh_eq] at h_early h_late
  refine ⟨?_, ?_⟩
  · apply h_early.mpr
    intro h_overdue
    exact absurd h_overdue.2 (by decide +kernel)
  · intro h_rests
    -- animating, and due before the clock
    refine h_late.mp h_rests ⟨?_, ?_⟩
    · decide +kernel
    · decide +kernel

end Scrim

import Scrim.Proofs.Dimmer.Absence
import Scrim.Proofs.Dimmer.Arrival
import Scrim.Proofs.Dimmer.Calls
import Scrim.Proofs.Dimmer.Dismissal

/-!
# The same again

To carry out an operation twice in a row, before the clock or the display has moved, comes to the
same as to carry it out once (`Dimmer.idempotence_of_run`).

What an operation does, apart from a tick and a release, it does by a present request. After that
the request is `Settled`: its footprint and its target are in place, and it would not commit, either
because its alpha is in place or because it would arrive no earlier than the timeline does, be that
its own or one that has outlasted it. If a request is settled, to present it is quiet
(`Turn.Quiet.present`). It remains to be seen that the second operation brings about the request of
the first, if any (`Dimmer.Numeric.quiet_again`). A tick has the sample in place, which the same
tick would not move, and after a release there is no surface (`Dimmer.Vacant.quiet`).
-/

namespace Scrim

open Number

/-! ### Quiet turns -/

/-- A turn that has left the dimmer as it was, and has not called its surface. -/
structure Turn.Quiet (t : Turn) (d : Dimmer) : Prop where
  same : t.dimmer = d
  silent : issued t.events = []
  going : t.failure = none

/-- All that a present request asks for is in place, or on its way. -/
structure Dimmer.Settled (d : Dimmer) (w : Surroundings) (request : PresentRequest) (now : Float) :
    Prop where
  placed : ∀ size, w.display = some size →
    d.footprint.differs (Placing.footprint ⟨size, request.layer⟩) = false
  uncommitted : d.commits request now = false
  target : d.target = request.alpha

/-- Fading out is settled, if to dismiss the dimmer would do it. -/
def Dimmer.FadeSettled (d : Dimmer) (w : Surroundings) (duration now : Float) : Prop :=
  d.showing = true → (d.target != 0) = true ∨ d.timeline.outrunBy duration now = true →
    d.Settled w { layer := d.footprint.layer, alpha := 0, duration } now

namespace Turn.Quiet

variable {t : Turn} {d : Dimmer} {w : Surroundings} {handle : Handle} {now : Float}

theorem start (d : Dimmer) : Quiet { dimmer := d } d :=
  ⟨rfl, rfl, rfl⟩

theorem say (h : t.Quiet d) (level : Level) (message : String) : (t.say level message).Quiet d :=
  ⟨h.same, (issued_events_say t level message).trans h.silent, h.going⟩

theorem tookReading (h : t.Quiet d) : t.tookReading.Quiet d :=
  ⟨h.same, h.silent, h.going⟩

/-- To place the surface where it is is quiet. -/
theorem place (h : t.Quiet d) {layer : Float}
    (h_placed : ∀ size, w.display = some size →
      d.footprint.differs (Placing.footprint ⟨size, layer⟩) = false) :
    (t.place w handle layer).Quiet d := by
  cases h_display : w.display with
  | none =>
    rw [place_of_unseen h_display]
    exact h.say ..
  | some size =>
    have h_same : t.dimmer.footprint.differs (Placing.footprint ⟨size, layer⟩) = false :=
      h.same ▸ h_placed size h_display
    rw [place_of_same h_display h_same]
    exact h

/-- To present what is settled is quiet. -/
theorem present (h : t.Quiet d) (h_handle : d.handle = some handle) {request : PresentRequest}
    (h_settled : d.Settled w request now) (h_now : ∀ n, w.reading n = now) :
    (t.present w request).Quiet d := by
  have h_held : t.dimmer.handle = some handle := h.same ▸ h_handle
  obtain ⟨message, h_present⟩ := present_of_handle (w := w) h_held request
  have h_placed : ((t.debug message).place w handle request.layer).Quiet d :=
    (h.say .debug message).place h_settled.placed
  have h_considered :
      (((t.debug message).place w handle request.layer).consider w handle request).Quiet d := by
    unfold Turn.consider
    have h_commits : ¬d.commits request (((t.debug message).place w handle request.layer).now w)
        = true := by
      rw [Turn.now, h_now, h_settled.uncommitted]
      exact Bool.false_ne_true
    rw [h_placed.same, if_neg h_commits]
    exact h_placed.tookReading
  have h_logged := h_considered.say .debug
  rw [h_present, andThen_of_going h_placed.going, andThen_of_going h_considered.going]
  refine ⟨?_, (h_logged _).silent, h_considered.going⟩
  -- the target that is recorded is the one in place
  rw [dimmer_update, dimmer_logTimeline, h_considered.same, ← h_settled.target]

/-- To dismiss is quiet if it finds fading out settled. -/
theorem dismiss (h : t.Quiet d) (h_handle : d.handle = some handle) {request : DismissRequest}
    (h_settled : d.FadeSettled w request.duration now) (h_now : ∀ n, w.reading n = now) :
    (t.dismiss w request).Quiet d := by
  have h_held : t.dimmer.handle = some handle := h.same ▸ h_handle
  have h_fadeOut {u : Turn} (h_u : u.Quiet d)
      (h_settled : d.Settled w
        { layer := d.footprint.layer, alpha := 0, duration := request.duration } now) :
      (u.fadeOut w request.duration).Quiet d := by
    unfold Turn.fadeOut
    rw [h_u.same]
    exact (h_u.say ..).present h_handle h_settled h_now
  cases h_showing : t.dimmer.showing with
  | false =>
    rw [dismiss_of_hidden h_held h_showing]
    exact h
  | true =>
    rw [dismiss_of_showing h_held h_showing, h.same, Turn.now, h_now]
    rw [h.same] at h_showing
    -- whatever passes the guard has settled before
    split_ifs with h_target h_outrun
    · exact h_fadeOut h (h_settled h_showing (Or.inl h_target))
    · exact h_fadeOut h.tookReading (h_settled h_showing (Or.inr h_outrun))
    · exact h.tookReading

theorem hideNow (h : t.Quiet d) (h_handle : d.handle = some handle)
    (h_settled : d.FadeSettled w 0 now) (h_now : ∀ n, w.reading n = now) :
    (t.hideNow w).Quiet d := by
  unfold Turn.hideNow
  rw [h.same, h_handle]
  dsimp only
  split_ifs
  · exact (h.say ..).dismiss h_handle h_settled h_now
  · exact h

theorem jumpToEnd (h : t.Quiet d) (h_handle : d.handle = some handle)
    (h_settled : d.isAnimating = true →
      d.Settled w { layer := d.footprint.layer, alpha := d.target, duration := 0 } now)
    (h_now : ∀ n, w.reading n = now) : (t.jumpToEnd w).Quiet d := by
  unfold Turn.jumpToEnd
  rw [h.same, h_handle]
  dsimp only
  split_ifs with h_animating
  · exact (h.say ..).present h_handle (h_settled h_animating) h_now
  · exact h

/-- A tick is quiet if the sample is in place. -/
theorem advance (h : t.Quiet d) (h_handle : d.handle = some handle)
    (h_there : d.isAnimating = true → (d.alpha == d.timeline.sample d.target now) = true)
    (h_now : ∀ n, w.reading n = now) : (t.advance w).Quiet d := by
  have h_held : t.dimmer.handle = some handle := h.same ▸ h_handle
  by_cases h_animating : t.dimmer.isAnimating = true
  · obtain ⟨message, h_advance⟩ := advance_of_isAnimating h_held h_animating w
    have h_read : (t.tookReading.debug message).Quiet d := h.tookReading.say .debug message
    rw [h_advance, h.same, Turn.now, h_now, applyAlpha_of_inPlace]
    · exact h_read
    · rw [h_read.same]
      exact h_there (h.same ▸ h_animating)
  · rw [advance_of_not_isAnimating h_held h_animating]
    exact h

end Turn.Quiet

/-! ### What presenting settles -/

section Settled

variable {t : Turn} {d : Dimmer} {w : Surroundings} {handle : Handle} {now : Float}
  {request : PresentRequest}

/-- A surface that has been placed is where it was to be, unless the placing was cut short. -/
theorem Turn.differs_place (hw : w.Describable) {size : Size} {layer : Float}
    (h_display : w.display = some size) (h_number : size.IsNumber) (h_layer : layer.isNaN = false) :
    (t.place w handle layer).dimmer.footprint.differs (Placing.footprint ⟨size, layer⟩)
      = false := by
  have h_after := t.afterPlace w handle layer
  generalize t.place w handle layer = t' at h_after ⊢
  cases h_after with
  -- the display is known
  | unseen h_none => cases h_display.symm.trans h_none
  | inPlace size' h_some h_same =>
    obtain rfl := Option.some.inj (h_display.symm.trans h_some)
    exact h_same
  | settled size' h_some =>
    obtain rfl := Option.some.inj (h_display.symm.trans h_some)
    exact Placing.differs_self (p := ⟨size, layer⟩) h_number h_layer
  | cutShort _ _ _ h_untold => exact absurd (Guarded.escape_of_describable hw _) h_untold

/-- The footprint after presenting is the one that placing has left. -/
theorem Turn.footprint_present (h_handle : t.dimmer.handle = some handle) (w : Surroundings)
    (request : PresentRequest) :
    ∃ message, (t.present w request).dimmer.footprint
      = ((t.debug message).place w handle request.layer).dimmer.footprint := by
  obtain ⟨message, h_placed⟩ := placed_present h_handle w request
  exact ⟨message, congrArg Prod.fst h_placed⟩

/-- A request that heads for the target is not committed if it would not outrun a fade. -/
theorem Dimmer.commits_eq_false (h_target : d.target = request.alpha)
    (h_alpha : request.alpha.isNaN = false)
    (h_fade : d.isAnimating = true → d.timeline.outrunBy request.duration now = false) :
    d.commits request now = false := by
  unfold commits
  split_ifs with h_animating
  · rw [h_target, bne, Number.beq_refl h_alpha, h_fade h_animating]
    rfl
  · -- the dimmer is at rest at its target
    have h_rest : (d.target == d.alpha) = true := by
      rwa [isAnimating, bne, Bool.not_eq_true, Bool.not_eq_false'] at h_animating
    rw [bne, ← h_target, Number.beq_symm h_rest]
    rfl

/-- A request that has been considered would not be committed if it were considered again. -/
theorem Presented.uncommitted {d' : Dimmer} (h : Presented w d request now d')
    (h_alpha : request.alpha.isNaN = false) : d'.commits request now = false := by
  refine Dimmer.commits_eq_false h.target_eq h_alpha ?_
  intro h_animating
  cases h with
  | kept footprint h_commits =>
    -- what has spoken against a new timeline still does
    rcases Dimmer.beq_of_not_commits h_commits with ⟨-, -, h_outrun⟩ | ⟨-, h_there⟩
    · exact h_outrun
    · exact absurd h_animating (Dimmer.not_isAnimating (Number.beq_symm h_there))
  | jumped footprint reached h_commits h_instant h_applied =>
    -- the alpha is in place, even if the surface refused it
    have h_there := h_applied.alpha_beq h_alpha
    exact absurd h_animating (Dimmer.not_isAnimating (Number.beq_symm h_there))
  | started footprint h_commits h_lasting =>
    -- it would end when its own timeline does
    apply decide_eq_false
    intro h_lt
    exact (toRat_lt_of_lt h_lt).false

/-- **A request that has been presented is settled**, unless it was cut short. -/
theorem Turn.settled_present (hw : w.Describable) (h_going : t.failure = none)
    (h_handle : t.dimmer.handle = some handle)
    (h_number : ∀ size, w.display = some size → size.IsNumber)
    (h_layer : request.layer.isNaN = false) (h_alpha : request.alpha.isNaN = false)
    (h_now : ∀ n, w.reading n = now) : (t.present w request).dimmer.Settled w request now := by
  have h_presented := presented h_handle (going_present hw h_going request)
  rw [Turn.now, h_now] at h_presented
  refine ⟨?_, h_presented.uncommitted h_alpha, h_presented.target_eq⟩
  intro size h_display
  obtain ⟨message, h_footprint⟩ := footprint_present h_handle w request
  rw [h_footprint]
  exact differs_place hw h_display (h_number size h_display) h_layer

/-- A request at the layer in place leaves that layer in place. -/
theorem Turn.layer_present (h_handle : t.dimmer.handle = some handle)
    (h_layer : request.layer = t.dimmer.footprint.layer) :
    (t.present w request).dimmer.footprint.layer = request.layer := by
  obtain ⟨message, h_footprint⟩ := footprint_present h_handle w request
  rw [h_footprint]
  have h_after := (t.debug message).afterPlace w handle request.layer
  generalize (t.debug message).place w handle request.layer = t' at h_after ⊢
  cases h_after with
  | settled => rfl
  | unseen | inPlace | cutShort => exact h_layer.symm

end Settled

/-! ### What operations settle -/

/-- The target and the layer in place are numbers. -/
structure Dimmer.Numeric (d : Dimmer) : Prop where
  target : d.target.isNaN = false
  layer : d.footprint.layer.isNaN = false

section Operations

variable {t : Turn} {w : Surroundings} {handle : Handle} {now : Float}
  (h : t.dimmer.Numeric) (hw : w.Describable) (h_going : t.failure = none)
  (h_handle : t.dimmer.handle = some handle)
  (h_number : ∀ size, w.display = some size → size.IsNumber) (h_now : ∀ n, w.reading n = now)

include h hw h_going h_handle h_number h_now

theorem Turn.fadeSettled_dismiss (request : DismissRequest) :
    (t.dismiss w request).dimmer.FadeSettled w request.duration now := by
  have h_fadeOut {u : Turn} (h_same : u.dimmer = t.dimmer) (h_going : u.failure = none) :
      (u.fadeOut w request.duration).dimmer.FadeSettled w request.duration now := by
    intro _ _
    obtain ⟨message, h_fadeOut⟩ := fadeOut_eq u w request.duration
    rw [h_fadeOut, h_same]
    -- the layer in place is the one that fading out was requested at
    have h_held : (u.debug message).dimmer.handle = some handle := h_same ▸ h_handle
    rw [layer_present h_held (congrArg (fun d => d.footprint.layer) h_same).symm]
    exact settled_present (t := u.debug message) hw h_going h_held h_number h.layer
      inUnit_zero.isNaN h_now
  cases h_showing : t.dimmer.showing with
  | false =>
    rw [dismiss_of_hidden h_handle h_showing]
    intro h_shows
    cases h_showing.symm.trans h_shows
  | true =>
    rw [dismiss_of_showing h_handle h_showing, Turn.now, h_now]
    split_ifs with h_target h_outrun
    · exact h_fadeOut rfl h_going
    · exact h_fadeOut (u := t.tookReading) rfl h_going
    · -- nothing has been done, and for the same reasons nothing will be
      rintro - (h_again | h_again)
      · exact absurd h_again h_target
      · exact absurd h_again h_outrun

theorem Turn.fadeSettled_hideNow : (t.hideNow w).dimmer.FadeSettled w 0 now := by
  unfold hideNow
  rw [h_handle]
  dsimp only
  split_ifs with h_showing
  · exact fadeSettled_dismiss (t := t.debug _) h hw h_going h_handle h_number h_now
      { duration := 0 }
  · intro h_shows
    exact absurd h_shows h_showing

theorem Turn.settled_jumpToEnd :
    let d := (t.jumpToEnd w).dimmer
    d.isAnimating = true →
      d.Settled w { layer := d.footprint.layer, alpha := d.target, duration := 0 } now := by
  by_cases h_animating : t.dimmer.isAnimating = true
  · rw [jumpToEnd_of_isAnimating h_handle h_animating]
    intro d _
    let request : PresentRequest :=
      { layer := t.dimmer.footprint.layer, alpha := t.dimmer.target, duration := 0 }
    have h_settled : d.Settled w request now :=
      settled_present (t := t.debug _) hw h_going h_handle h_number h.layer h.target h_now
    -- the jump is a request at the layer and the target that are in place
    have h_layer : d.footprint.layer = request.layer := layer_present (t := t.debug _) h_handle rfl
    rw [h_layer, h_settled.target]
    exact h_settled
  · rw [jumpToEnd_of_not_isAnimating h_handle h_animating]
    intro d h_again
    -- at rest there was nothing to jump to, and there is nothing now
    exact absurd h_again h_animating

end Operations

/-- After a tick the sample is in place, if it is a number. -/
theorem Turn.alpha_beq_advance {t : Turn} {w : Surroundings} {handle : Handle} {now : Float}
    (hw : w.Describable) (h_going : t.failure = none) (h_handle : t.dimmer.handle = some handle)
    (h_sample : t.dimmer.isAnimating = true →
      (t.dimmer.timeline.sample t.dimmer.target now).isNaN = false)
    (h_now : ∀ n, w.reading n = now) :
    let d := (t.advance w).dimmer
    d.isAnimating = true → (d.alpha == d.timeline.sample d.target now) = true := by
  intro d h_again
  by_cases h_animating : t.dimmer.isAnimating = true
  · obtain ⟨message, h_advance⟩ := advance_of_isAnimating h_handle h_animating w
    have h_ticking : (t.advance w).failure = none := (Moves.none.advance).going hw h_going
    have h_applied : Applied w t.dimmer (t.dimmer.timeline.sample t.dimmer.target now) d := by
      rw [h_advance] at h_ticking
      have h_applied := applied h_ticking
      rw [← h_advance, Turn.now, h_now] at h_applied
      exact h_applied
    -- a tick moves neither the timeline nor the target, so the sample stays what it was
    rw [h_applied.timeline_eq, h_applied.target_eq]
    exact h_applied.alpha_beq (h_sample h_animating)
  · have h_idle : d = t.dimmer :=
      congrArg Turn.dimmer (advance_of_not_isAnimating h_handle h_animating w)
    exact absurd (h_idle ▸ h_again) h_animating

namespace Dimmer

variable {d : Dimmer} {s : Step} {handle : Handle} {now : Float}

/-- An operation that has left the dimmer its surface has settled what it does. -/
theorem Numeric.quiet_again (h : d.Numeric) (hw : s.surroundings.Describable)
    (h_sample : s.operation = .advance → d.isAnimating = true →
      (d.timeline.sample d.target now).isNaN = false)
    (h_held : (d.turn s).dimmer.handle = some handle)
    (h_number : ∀ size, s.surroundings.display = some size → size.IsNumber)
    (h_now : ∀ n, s.surroundings.reading n = now) :
    ((d.turn s).dimmer.turn s).Quiet (d.turn s).dimmer := by
  have h_handle : d.handle = some handle := (d.moves s).handle_eq_some h_held
  have h_start := Turn.Quiet.start (d.turn s).dimmer
  obtain ⟨operation, w⟩ := s
  change w.Describable at hw
  let t : Turn := { dimmer := d }
  cases operation with
  | present layer alpha duration =>
    cases h_check : PresentRequest.check layer alpha duration with
    | error failure =>
      -- refused arguments are refused again
      dsimp only [turn, perform]
      rw [h_check]
      exact Turn.Quiet.start d
    | ok request =>
      have h_layer : request.layer.isNaN = false :=
        (Contract.number_ok (PresentRequest.check_layer h_check)).1
      have h_alpha : request.alpha.isNaN = false :=
        (PresentRequest.check_accepted h_check).alpha.isNaN
      rw [turn_present h_check] at h_start h_held ⊢
      rw [turn_present h_check]
      exact h_start.present h_held
        (Turn.settled_present (t := t) hw rfl h_handle h_number h_layer h_alpha h_now) h_now
  | dismiss duration =>
    cases h_check : DismissRequest.check duration with
    | error failure =>
      dsimp only [turn, perform]
      rw [h_check]
      exact Turn.Quiet.start d
    | ok request =>
      rw [turn_dismiss h_check] at h_start h_held ⊢
      rw [turn_dismiss h_check]
      exact h_start.dismiss h_held
        (Turn.fadeSettled_dismiss (t := t) h hw rfl h_handle h_number h_now request) h_now
  | hideNow =>
    exact h_start.hideNow h_held
      (Turn.fadeSettled_hideNow (t := t) h hw rfl h_handle h_number h_now) h_now
  | jumpToEnd =>
    exact h_start.jumpToEnd h_held
      (Turn.settled_jumpToEnd (t := t) h hw rfl h_handle h_number h_now) h_now
  | advance =>
    exact h_start.advance h_held
      (Turn.alpha_beq_advance (t := t) hw rfl h_handle (h_sample rfl) h_now) h_now
  | release =>
    -- a release leaves the dimmer no surface
    have h_none := (d.handle_turn ⟨.release, w⟩).2 rfl
    cases h_none.symm.trans h_held

/-- Without a surface every operation is quiet. -/
theorem Vacant.quiet (h : d.Vacant) (s : Step) : (d.turn s).Quiet d := by
  refine ⟨(d.moves s).dimmer_of_vacant h, ?_, ((d.moves s).of_absent h.handle).2⟩
  have h_bare := bare_turn h.handle h.alpha h.target s
  apply issued_eq_nil
  intro e he
  cases e with
  | call surface primitive refusal => exact absurd he (h_bare.silent surface primitive refusal)
  | log | requested | opened | closed => rfl

/-- What the caller is told follows from the arguments and the state that the step leads to, unless
the step is cut short. -/
theorem answer_eq_of_dimmer_eq (hw : s.surroundings.Describable) {d' : Dimmer}
    (h : (d'.turn s).dimmer = (d.turn s).dimmer) : d'.answer s = d.answer s := by
  by_cases h_valid : s.operation.Valid
  · rw [answer_of_going h_valid (d'.going_turn hw), answer_of_going h_valid (d.going_turn hw), h]
  · obtain ⟨failure, h_perform⟩ := perform_of_invalid h_valid
    rw [answer, answer, h_perform, h_perform]

/-! ### After every run -/

/-- The target is one that was accepted, or that of a dimmer at rest. -/
theorem inUnit_target_turn (h : InUnit d.target) (s : Step) : InUnit (d.turn s).dimmer.target := by
  have h_course := d.course s
  generalize d.turn s = t at h_course ⊢
  cases h_course with
  | idle t h_same => rwa [h_same]
  | collapsed t h_handle h_rest =>
    rw [h_rest]
    exact inUnit_zero
  | presented t handle request h_handle h_same h_arises h_going =>
    rw [(Turn.presented (h_same ▸ h_handle) h_going).target_eq]
    exact (h_arises.accepted h).alpha
  | advanced t handle h_handle h_operation h_animating h_readings h_applied =>
    rwa [h_applied.target_eq]
  | released t h_operation h_rest =>
    rw [h_rest]
    exact inUnit_zero
  | cutShort t handle footprint h_handle h_ended h_cut => rwa [h_cut]

theorem inUnit_target_after (h : InUnit d.target) (steps : List Step) :
    InUnit (d.after steps).target := by
  induction steps generalizing d with
  | nil => exact h
  | cons s rest ih => exact ih (inUnit_target_turn h s)

theorem numeric_after (options : Options) (display : Float)
    (admission : SurfaceRequest → Except Failure Handle) (refusal : Primitive → Option Failure)
    (steps : List Step) : ((new options display admission refusal).after steps).Numeric := by
  have h_layered := layered_after_new options display admission refusal steps
  refine ⟨InUnit.isNaN (inUnit_target_after ?_ steps), h_layered.isNaN_inPlace⟩
  obtain ⟨held, h_new⟩ := new_eq options display admission refusal
  rw [h_new]
  exact inUnit_zero

/-- **The same operation again does nothing.** The dimmer was created anyhow and has since taken any
steps, with any display and any refusals at each of them. It may have its surface or miss it. Then
an operation is carried out twice in a row, while the clock stands and the display, if it is known,
keeps a size that is a number on each axis. The second time no primitive is issued, the dimmer stays
as it is in every respect, and the caller is told the same as the first time. The arguments need not
be valid for this, nor the surface accept what is issued the first time, as long as its refusals can
be told.

Only a tick depends on the clock before. Had it gone back, by as much as doubles reach, the sample
could be no number, and such an alpha is never in place. -/
theorem idempotence_of_run (options : Options) (display : Float)
    (admission : SurfaceRequest → Except Failure Handle) (refusal : Primitive → Option Failure)
    (steps : List Step) (s : Step) (h_told : s.surroundings.Describable) (now : Float)
    (h_now : ∀ n, s.surroundings.reading n = now)
    (h_display : ∀ size, s.surroundings.display = some size → size.IsNumber)
    (h_clock : s.operation = .advance →
      Chronological ((new options display admission refusal).clock steps ++ [now])) :
    let d := (new options display admission refusal).after steps
    let t := d.turn s
    let again := t.dimmer.turn s
    issued again.events = [] ∧ again.dimmer = t.dimmer ∧ t.dimmer.answer s = d.answer s := by
  intro d t again
  have h_quiet : again.Quiet t.dimmer := by
    cases h_held : t.dimmer.handle with
    | none =>
      -- the surface was missing before, or has just been given up
      have h_before : d.handle = none → d.Vacant :=
        vacant_after steps (vacant_new options display admission refusal)
      have h_vacant : t.dimmer.Vacant := (d.moves s).vacant h_before h_held
      exact h_vacant.quiet s
    | some handle =>
      have h_numeric : d.Numeric := numeric_after options display admission refusal steps
      refine h_numeric.quiet_again h_told ?_ h_held h_display h_now
      -- the sample of a tick lies between the start of the fade and its target
      intro h_tick h_animating
      have h_sound := (sound_new options display admission refusal).after (h_clock h_tick).left
      have h_between := h_sound.sample_between h_animating (h_clock h_tick)
      exact (h_between.inUnit h_sound.start h_sound.target).isNaN
  exact ⟨h_quiet.silent, h_quiet.same, answer_eq_of_dimmer_eq h_told h_quiet.same⟩

/-- The first of two ticks at the same time moves a fade-in on, the second does nothing. -/
theorem idempotence_of_halfFadeIn :
    let d := fresh.after halfFadeIn
    let tick : Step := ⟨.advance, .calm 600⟩
    let t := d.turn tick
    let again := t.dimmer.turn tick
    (issued t.events).length = 1 ∧ Chronological (fresh.clock halfFadeIn ++ [600]) ∧
      issued again.events = [] ∧ again.dimmer = t.dimmer ∧
        t.dimmer.answer tick = d.answer tick := by
  intro d tick t again
  have h_clock : Chronological (fresh.clock halfFadeIn ++ [600]) :=
    ⟨by decide +kernel, by decide +kernel⟩
  have h_display (size : Size) (h_size : (Surroundings.calm 600).display = some size) :
      size.IsNumber := by
    obtain rfl := Option.some.inj h_size
    -- the first tick does issue something
    exact ⟨by decide +kernel, by decide +kernel⟩
  have h_again := idempotence_of_run {} 0 (fun request => .ok { id := 0, name := request.name })
    (fun _ => none) halfFadeIn tick (Surroundings.describable_calm 600) 600
    (fun _ => rfl) h_display fun _ => h_clock
  rw [← fresh_eq] at h_again
  exact ⟨by decide +kernel, h_clock, h_again⟩

end Dimmer

end Scrim

import Scrim.Proofs.Block
import Scrim.Proofs.Dimmer.Hastening
import Scrim.Proofs.Shift

/-!
# Runs at another time

A run in which the clock reads `c` more at every step goes like the original: the surface is told
the same, callers are answered the same, and the dimmer stands the same after each step, except that
its timeline starts `c` later once one has been started (`Dimmer.shifted_of_run`).

Two turns are followed side by side (`Turn.Shifted`). The clock enters in three places. A sample
sees only the time that has passed. A request is measured against the end of the timeline in place,
which is meaningful while a fade is in progress; a timeline that is stale, or that was never
started, is not asked, and that is where the invariants of earlier runs come in (`Dimmer.Ready`). A
dismissal measures itself only if it finds the dimmer showing and heading for zero, and a dimmer
that shows is not at zero, so it is fading.
-/

namespace Scrim

open Number

/-! ### Shifted runs -/

/-- Surroundings with the same display, in which nothing is refused, and of which the second has a
clock that reads `c` more. -/
structure Surroundings.Shifted (c : ℚ) (w w' : Surroundings) : Prop where
  display : w.display = w'.display
  accepting : w.Accepting
  accepting' : w'.Accepting
  isFinite : ∀ i, (w.reading i).isFinite = true
  isFinite' : ∀ i, (w'.reading i).isFinite = true
  reading : ∀ i, toRat (w'.reading i) = toRat (w.reading i) + c

/-- The same operation at a clock that reads `c` more. -/
structure Step.Shifted (c : ℚ) (s s' : Step) : Prop where
  operation : s.operation = s'.operation
  surroundings : s.surroundings.Shifted c s'.surroundings

/-- Nothing is lost in adding a duration to what the clock reads. -/
def Surroundings.Exact (w : Surroundings) (duration : Float) : Prop :=
  ∀ i, ExactSum (w.reading i) duration

/-- Nothing is lost in adding the duration that a step asks for, if any, to what the clock reads. -/
def Step.Exact (s : Step) : Prop :=
  ∀ duration, s.operation.duration? = some duration → s.surroundings.Exact duration

/-! ### Shifted dimmers -/

/-- Two timelines of which none has been started, or of which one was started `c` later. -/
inductive Timeline.Shifted (c : ℚ) : Timeline → Timeline → Prop
  | unstarted : Shifted c {} {}
  | started {t t' : Timeline} (h : t.Postponed c t') : Shifted c t t'

/-- Two dimmers that stand the same, but for the start of their timelines. Alphas are compared as
numbers. -/
structure Dimmer.Shifted (c : ℚ) (d d' : Dimmer) : Prop where
  display : d.display = d'.display
  handle : d.handle = d'.handle
  target : d.target = d'.target
  footprint : d.footprint = d'.footprint
  showing : d.showing = d'.showing
  alpha_beq : (d.alpha == d'.alpha) = true
  timeline : d.timeline.Shifted c d'.timeline

/-- Two primitives are the same, alphas compared as numbers. -/
inductive Primitive.Same : Primitive → Primitive → Prop
  | refl (primitive : Primitive) : Same primitive primitive
  | alpha {alpha alpha' : Float} (h : (alpha == alpha') = true) :
      Same (.alpha alpha) (.alpha alpha')

/-- The primitives that a turn issues, in order. -/
def Turn.primitives (t : Turn) : List Primitive :=
  t.events.filterMap Event.primitive?

/-- Two turns that go the same, but for the clock. -/
structure Turn.Shifted (c : ℚ) (t t' : Turn) : Prop where
  dimmer : t.dimmer.Shifted c t'.dimmer
  readings : t.readings = t'.readings
  issued : List.Forall₂ Primitive.Same t.primitives t'.primitives
  failure : t.failure = t'.failure

/-! ### Blocks -/

/-- A block on a surface that refuses nothing issues all its primitives. -/
theorem Guarded.primitives_events {w : Surroundings} (hw : w.Accepting) (g : Guarded)
    (handle : Handle) :
    (g.events w.refusal handle).filterMap Event.primitive? = g.primitives := by
  rw [filterMap_primitive?, issued_events, attempted_of_all_accepted fun p _ => hw p, List.map_map]
  exact List.map_id _

theorem Primitive.Same.forall_refl (primitives : List Primitive) :
    List.Forall₂ Same primitives primitives :=
  List.forall₂_same.mpr fun primitive _ => .refl primitive

/-! ### Side by side -/

section SideBySide

variable {c : ℚ} {t t' : Turn} {w w' : Surroundings}

namespace Turn.Shifted

theorem emit (h : Shifted c t t') {events events' : List Event}
    (h_events : List.Forall₂ Primitive.Same (events.filterMap Event.primitive?)
      (events'.filterMap Event.primitive?)) :
    Shifted c (t.emit events) (t'.emit events') := by
  refine ⟨h.dimmer, h.readings, ?_, h.failure⟩
  rw [Turn.primitives, Turn.primitives, events_emit, events_emit, List.filterMap_append,
    List.filterMap_append]
  exact List.rel_append h.issued h_events

theorem say (h : Shifted c t t') (level : Level) (message message' : String) :
    Shifted c (t.say level message) (t'.say level message') :=
  h.emit .nil

theorem tookReading (h : Shifted c t t') : Shifted c t.tookReading t'.tookReading :=
  ⟨h.dimmer, congrArg (· + 1) h.readings, h.issued, h.failure⟩

theorem update (h : Shifted c t t') {change change' : Dimmer → Dimmer}
    (h_change : (change t.dimmer).Shifted c (change' t'.dimmer)) :
    Shifted c (t.update change) (t'.update change') :=
  ⟨h_change, h.readings, h.issued, h.failure⟩

/-- Both go on, or neither does. -/
theorem andThen (h : Shifted c t t') {next next' : Turn → Turn}
    (h_next : Shifted c (next t) (next' t')) : Shifted c (t.andThen next) (t'.andThen next') := by
  by_cases h_going : t.failure = none
  · rw [andThen_of_going h_going, andThen_of_going (h.failure ▸ h_going)]
    exact h_next
  · rw [andThen_of_ended h_going, andThen_of_ended (h.failure ▸ h_going)]
    exact h

theorem withTarget (h : Shifted c t t') (target : Float) :
    Shifted c (t.update fun d => { d with target }) (t'.update fun d => { d with target }) :=
  h.update { h.dimmer with target := rfl }

theorem collapse (h : Shifted c t t') (operation : String) :
    Shifted c (t.collapse operation) (t'.collapse operation) :=
  (h.say ..).update
    { h.dimmer with target := rfl, alpha_beq := Number.beq_refl inUnit_zero.isNaN }

end Turn.Shifted

/-! ### What is compared -/

namespace Dimmer.Shifted

variable {d d' : Dimmer}

theorem isAnimating_eq (h : Shifted c d d') : d.isAnimating = d'.isAnimating := by
  unfold isAnimating bne
  rw [h.target, BEq.congr_right h.alpha_beq]

/-- The same visibility follows from equal alphas. -/
theorem visibilityAt_eq (h : Shifted c d d') {alpha alpha' : Float}
    (h_alpha : (alpha == alpha') = true) : d.visibilityAt alpha = d'.visibilityAt alpha' := by
  unfold visibilityAt
  rw [BEq.congr_left h_alpha, h.showing, decide_eq_decide.mpr (Number.lt_congr_right h_alpha 0)]

/-- A timeline with a duration has been started. -/
theorem postponed (h : Shifted c d d') (h_pos : 0 < d.timeline.duration) :
    d.timeline.Postponed c d'.timeline := by
  have h_timeline := h.timeline
  generalize d.timeline = t at h_timeline h_pos
  generalize d'.timeline = t' at h_timeline
  cases h_timeline with
  | unstarted => exact absurd inUnit_zero.nonneg (Number.not_le_of_lt h_pos)
  | started h => exact h

end Dimmer.Shifted

/-- A dimmer that has a timeline while it is animating, and is above zero while it shows. -/
structure Dimmer.Ready (d : Dimmer) : Prop where
  timed : d.isAnimating = true → 0 < d.timeline.duration
  above : d.showing = true → 0 < d.alpha

theorem Sound.ready {d : Dimmer} {past : List Float} (h : Sound d past) (h_visible : Visible d) :
    d.Ready :=
  ⟨fun h_animating => (h.fading h_animating).duration_pos, h_visible.showing_iff.mp⟩

/-- A dimmer that shows and heads for zero is fading. -/
theorem Dimmer.Ready.isAnimating {d : Dimmer} (h : d.Ready) (h_showing : d.showing = true)
    (h_target : (d.target == 0) = true) : d.isAnimating = true := by
  apply Bool.eq_true_of_not_eq_false
  intro h_idle
  rw [Dimmer.isAnimating, bne, Bool.not_eq_false'] at h_idle
  exact not_pos_of_beq (Number.beq_trans (Number.beq_symm h_idle) h_target) (h.above h_showing)

variable (hw : w.Shifted c w')

include hw

/-- Nothing is lost in adding no time. -/
theorem Surroundings.Shifted.exact_zero : w.Exact 0 := fun i => exactSum_zero (hw.isFinite i)

theorem Surroundings.Shifted.exact_zero' : w'.Exact 0 := fun i => exactSum_zero (hw.isFinite' i)

/-! ### Placing and applying -/

namespace Turn.Shifted

theorem guard (h : Shifted c t t') {g g' : Guarded}
    (h_same : List.Forall₂ Primitive.Same g.primitives g'.primitives) (handle : Handle) :
    Shifted c (t.guard w handle g) (t'.guard w' handle g') := by
  refine ⟨h.dimmer, h.readings, ?_, ?_⟩
  · rw [Turn.primitives, Turn.primitives, events_guard, events_guard, List.filterMap_append,
      List.filterMap_append, g.primitives_events hw.accepting, g'.primitives_events hw.accepting']
    exact List.rel_append h.issued h_same
  · rw [failure_guard, failure_guard, g.escape_of_describable hw.accepting.describable,
      g'.escape_of_describable hw.accepting'.describable]

theorem guard_refl (h : Shifted c t t') (handle : Handle) (g : Guarded) :
    Shifted c (t.guard w handle g) (t'.guard w' handle g) :=
  h.guard hw (Primitive.Same.forall_refl g.primitives) handle

theorem place (h : Shifted c t t') (handle : Handle) (layer : Float) :
    Shifted c (t.place w handle layer) (t'.place w' handle layer) := by
  have h_display' := hw.display
  cases h_display : w.display with
  | none =>
    rw [place_of_unseen h_display, place_of_unseen (h_display' ▸ h_display)]
    exact h.say ..
  | some size =>
    cases h_differs : t.dimmer.footprint.differs (Placing.mk size layer).footprint with
    | false =>
      rw [place_of_same h_display h_differs,
        place_of_same (h_display' ▸ h_display) (h.dimmer.footprint ▸ h_differs)]
      exact h
    | true =>
      rw [place_of_differs h_display h_differs,
        place_of_differs (h_display' ▸ h_display) (h.dimmer.footprint ▸ h_differs)]
      -- the two blocks fail alike, so the footprint is kept on both sides or on neither
      have h_block := h.guard_refl hw handle (.placing ⟨size, layer⟩)
      exact h_block.andThen (h_block.update { h.dimmer with footprint := rfl })

theorem applyAlpha (h : Shifted c t t') (handle : Handle) {alpha alpha' : Float}
    (h_alpha : (alpha == alpha') = true) :
    Shifted c (t.applyAlpha w handle alpha) (t'.applyAlpha w' handle alpha') := by
  have h_same : (t.dimmer.alpha == alpha) = (t'.dimmer.alpha == alpha') :=
    (BEq.congr_left h.dimmer.alpha_beq).trans (BEq.congr_right h_alpha)
  cases h_inPlace : t.dimmer.alpha == alpha with
  | true =>
    rw [applyAlpha_of_inPlace h_inPlace, applyAlpha_of_inPlace (h_same ▸ h_inPlace)]
    exact h
  | false =>
    rw [applyAlpha_of_ne h_inPlace, applyAlpha_of_ne (h_same ▸ h_inPlace),
      ← h.dimmer.visibilityAt_eq h_alpha]
    have h_primitives : List.Forall₂ Primitive.Same
        (Guarded.applying alpha (t.dimmer.visibilityAt alpha)).primitives
        (Guarded.applying alpha' (t.dimmer.visibilityAt alpha)).primitives :=
      .cons (.alpha h_alpha) (Primitive.Same.forall_refl _)
    have h_block (message message' : String) :=
      (h.say .debug message message').guard hw h_primitives handle
    refine (h_block _ _).andThen
      ((h_block _ _).update { h.dimmer with alpha_beq := h_alpha, showing := ?_ })
    -- neither block fails, so the visibility follows in both
    have h_none {w : Surroundings} (hw : w.Accepting) (primitives : List Primitive) :
        primitives.findSome? w.refusal = none :=
      List.findSome?_eq_none_iff.mpr fun primitive _ => hw primitive
    rw [h_none hw.accepting, h_none hw.accepting']
    exact congrArg (t.dimmer.visibilityAt alpha).getD h.dimmer.showing

end Turn.Shifted

/-! ### Requests -/

namespace Dimmer.Shifted

variable {d d' : Dimmer}

/-- A request outruns the fade in progress in both, or in neither. -/
theorem outrunBy_eq (h : Shifted c d d') (h_ready : d.Ready) (h_animating : d.isAnimating = true)
    {duration : Float} (h_exact : w.Exact duration) (h_exact' : w'.Exact duration) (i : ℕ) :
    d.timeline.outrunBy duration (w.reading i) = d'.timeline.outrunBy duration (w'.reading i) :=
  (h.postponed (h_ready.timed h_animating)).outrunBy_eq (hw.reading i) (h_exact i) (h_exact' i)

/-- A request is due in both, or in neither. -/
theorem commits_eq (h : Shifted c d d') (h_ready : d.Ready) {request : PresentRequest}
    (h_exact : w.Exact request.duration) (h_exact' : w'.Exact request.duration) (i : ℕ) :
    d.commits request (w.reading i) = d'.commits request (w'.reading i) := by
  unfold commits
  rw [← h.isAnimating_eq, ← h.target]
  by_cases h_animating : d.isAnimating = true
  · rw [if_pos h_animating, if_pos h_animating,
      h.outrunBy_eq hw h_ready h_animating h_exact h_exact']
  · rw [if_neg h_animating, if_neg h_animating, bne, bne, BEq.congr_left h.alpha_beq]

end Dimmer.Shifted

/-- The samples of the fades in progress are the same. -/
theorem Dimmer.Shifted.sample_beq {d d' : Dimmer} {past : List Float} (h : Dimmer.Shifted c d d')
    (h_sound : Sound d past) (h_animating : d.isAnimating = true) (i : ℕ) :
    (d.timeline.sample d.target (w.reading i) == d'.timeline.sample d.target (w'.reading i))
      = true := by
  have h_fading := h_sound.fading h_animating
  have h_postponed := h.postponed h_fading.duration_pos
  have h_parallel : d.timeline.Parallel d'.timeline d.target :=
    ⟨h_fading.duration_pos, h_fading.duration_finite, h_postponed.duration_eq, h_sound.start,
      h_postponed.startAlpha_beq, h_sound.target, h_fading.onTheWay.start_ne⟩
  exact h_parallel.sample_beq
    (h_postponed.elapsed_beq (hw.reading i) (hw.isFinite i) (hw.isFinite' i))

namespace Turn.Shifted

theorem commit (h : Shifted c t t') (handle : Handle) {request : PresentRequest}
    (h_request : request.Accepted) (h_exact : w.Exact request.duration)
    (h_exact' : w'.Exact request.duration) (i : ℕ) :
    Shifted c (t.commit w handle request (w.reading i))
      (t'.commit w' handle request (w'.reading i)) := by
  unfold Turn.commit
  split_ifs with h_instant
  · -- at once: no timeline is started
    exact h.applyAlpha hw handle (Number.beq_refl h_request.alpha.isNaN)
  · -- both start a timeline, from equal alphas
    have h_nonneg := h_request.duration.nonneg
    have h_pos : 0 < request.duration :=
      Number.lt_of_not_le (isNaN_of_le h_nonneg).1 (isNaN_of_le h_nonneg).2 h_instant
    refine h.update { h.dimmer with timeline := .started ?_ }
    exact ⟨h_pos, rfl, h.dimmer.alpha_beq, hw.reading i, hw.isFinite i, hw.isFinite' i, h_exact i,
      h_exact' i⟩

theorem consider (h : Shifted c t t') (h_ready : t.dimmer.Ready) (handle : Handle)
    {request : PresentRequest} (h_request : request.Accepted)
    (h_exact : w.Exact request.duration) (h_exact' : w'.Exact request.duration) :
    Shifted c (t.consider w handle request) (t'.consider w' handle request) := by
  unfold Turn.consider Turn.now
  rw [← h.readings, ← h.dimmer.commits_eq hw h_ready h_exact h_exact']
  split_ifs
  · exact h.tookReading.commit hw handle h_request h_exact h_exact' t.readings
  · exact h.tookReading

theorem present (h : Shifted c t t') (h_ready : t.dimmer.Ready) {request : PresentRequest}
    (h_request : request.Accepted) (h_exact : w.Exact request.duration)
    (h_exact' : w'.Exact request.duration) :
    Shifted c (t.present w request) (t'.present w' request) := by
  cases h_handle : t.dimmer.handle with
  | none =>
    unfold Turn.present
    dsimp only
    rw [Turn.dimmer_debug, Turn.dimmer_debug, ← h.dimmer.handle, h_handle]
    exact (h.say ..).collapse "present"
  | some handle =>
    obtain ⟨message, h_present⟩ := exists_message_present request
    rw [h_present h_handle, h_present (h.dimmer.handle ▸ h_handle)]
    have h_placed := (h.say .debug message message).place hw handle request.layer
    -- placing has changed nothing but the footprint
    obtain ⟨footprint, h_place⟩ := dimmer_place (t.debug message) w handle request.layer
    have h_ready' : ((t.debug message).place w handle request.layer).dimmer.Ready := by
      rw [h_place]
      exact ⟨h_ready.timed, h_ready.above⟩
    have h_considered := h_placed.consider hw h_ready' handle h_request h_exact h_exact'
    exact h_placed.andThen (h_considered.andThen (withTarget (say h_considered ..) request.alpha))

theorem fadeOut (h : Shifted c t t') (h_ready : t.dimmer.Ready) {duration : Float}
    (h_duration : AcceptedDuration duration) (h_exact : w.Exact duration)
    (h_exact' : w'.Exact duration) :
    Shifted c (t.fadeOut w duration) (t'.fadeOut w' duration) := by
  unfold Turn.fadeOut
  rw [← h.dimmer.footprint]
  exact (h.say ..).present hw h_ready ⟨inUnit_zero, h_duration⟩ h_exact h_exact'

theorem dismiss (h : Shifted c t t') (h_ready : t.dimmer.Ready) {request : DismissRequest}
    (h_duration : AcceptedDuration request.duration) (h_exact : w.Exact request.duration)
    (h_exact' : w'.Exact request.duration) :
    Shifted c (t.dismiss w request) (t'.dismiss w' request) := by
  unfold Turn.dismiss Turn.now
  rw [← h.dimmer.handle, ← h.dimmer.showing, ← h.dimmer.target, ← h.readings]
  cases t.dimmer.handle with
  | none => exact h.collapse "dismiss"
  | some handle =>
    dsimp only
    cases h_showing : t.dimmer.showing with
    | false => exact h
    | true =>
      cases h_target : t.dimmer.target != 0 with
      | true => exact h.fadeOut hw h_ready h_duration h_exact h_exact'
      | false =>
        -- only a fade in progress is measured against the clock
        rw [bne, Bool.not_eq_false'] at h_target
        have h_animating := h_ready.isAnimating h_showing h_target
        rw [← h.dimmer.outrunBy_eq hw h_ready h_animating h_exact h_exact']
        cases t.dimmer.timeline.outrunBy request.duration (w.reading t.readings) with
        | true => exact h.tookReading.fadeOut hw h_ready h_duration h_exact h_exact'
        | false => exact h.tookReading

theorem hideNow (h : Shifted c t t') (h_ready : t.dimmer.Ready) :
    Shifted c (t.hideNow w) (t'.hideNow w') := by
  unfold Turn.hideNow
  rw [← h.dimmer.handle, ← h.dimmer.showing]
  cases t.dimmer.handle with
  | none => exact h.collapse "hideNow"
  | some handle =>
    dsimp only
    split_ifs
    · exact (h.say ..).dismiss hw h_ready acceptedDuration_zero hw.exact_zero hw.exact_zero'
    · exact h

theorem jumpToEnd (h : Shifted c t t') (h_ready : t.dimmer.Ready)
    (h_target : InUnit t.dimmer.target) : Shifted c (t.jumpToEnd w) (t'.jumpToEnd w') := by
  unfold Turn.jumpToEnd
  rw [← h.dimmer.handle, ← h.dimmer.isAnimating_eq, ← h.dimmer.footprint, ← h.dimmer.target]
  cases t.dimmer.handle with
  | none => exact h.collapse "jumpToEnd"
  | some handle =>
    dsimp only
    split_ifs
    · exact (h.say ..).present hw h_ready ⟨h_target, acceptedDuration_zero⟩ hw.exact_zero
        hw.exact_zero'
    · exact h

/-! ### Time -/

theorem advance {past : List Float} (h : Shifted c t t') (h_sound : Sound t.dimmer past) :
    Shifted c (t.advance w) (t'.advance w') := by
  unfold Turn.advance Turn.now
  rw [← h.dimmer.handle, ← h.dimmer.isAnimating_eq, ← h.dimmer.target, ← h.readings]
  cases t.dimmer.handle with
  | none => exact h.collapse "advance"
  | some handle =>
    dsimp only
    split_ifs with h_animating
    · exact (h.tookReading.say ..).applyAlpha hw handle
        (h.dimmer.sample_beq hw h_sound h_animating t.readings)
    · exact h

theorem release (h : Shifted c t t') : Shifted c (t.release w) (t'.release w') := by
  unfold Turn.release
  rw [← h.dimmer.handle]
  cases t.dimmer.handle with
  | none => exact h
  | some handle =>
    refine guard_refl hw ?_ handle .ending
    exact (h.say ..).update { h.dimmer with
      handle := rfl, target := rfl, showing := rfl, alpha_beq := Number.beq_refl inUnit_zero.isNaN }

end Turn.Shifted

end SideBySide

/-! ### Steps and runs -/

/-- The turns of a run, each with what the caller is told. -/
def Dimmer.turns (d : Dimmer) : List Step → List (Turn × Except Failure (Option Bool))
  | [] => []
  | s :: rest => (d.turn s, d.answer s) :: (d.turn s).dimmer.turns rest

namespace Dimmer.Shifted

variable {c : ℚ} {d d' : Dimmer} {past : List Float}

/-- **A step at another time goes the same.** -/
theorem turn {s s' : Step} (h : Shifted c d d') (h_sound : Sound d past) (h_visible : Visible d)
    (h_step : s.Shifted c s') (h_exact : s.Exact) (h_exact' : s'.Exact) :
    (d.turn s).Shifted c (d'.turn s') := by
  obtain ⟨operation, w⟩ := s
  obtain ⟨operation', w'⟩ := s'
  obtain rfl : operation = operation' := h_step.operation
  have hw : w.Shifted c w' := h_step.surroundings
  -- visibility enters because dismissing asks whether the surface shows
  have h_ready := h_sound.ready h_visible
  have h_start : Turn.Shifted c { dimmer := d } { dimmer := d' } := ⟨h, rfl, .nil, rfl⟩
  change Turn.Shifted c (d.perform w operation).1 (d'.perform w' operation).1
  cases operation with
  | present layer alpha duration =>
    dsimp only [perform]
    cases h_check : PresentRequest.check layer alpha duration with
    | error failure => exact h_start
    | ok request =>
      -- exactness is required of the durations that are asked for
      have h_asked :
          (Operation.present layer alpha duration).duration? = some request.duration := by
        rw [Operation.duration?, h_check]
        rfl
      exact h_start.present hw h_ready (PresentRequest.check_accepted h_check)
        (h_exact _ h_asked) (h_exact' _ h_asked)
  | dismiss duration =>
    dsimp only [perform]
    cases h_check : DismissRequest.check duration with
    | error failure => exact h_start
    | ok request =>
      have h_asked : (Operation.dismiss duration).duration? = some request.duration := by
        rw [Operation.duration?, h_check]
        rfl
      exact h_start.dismiss hw h_ready (DismissRequest.check_accepted h_check)
        (h_exact _ h_asked) (h_exact' _ h_asked)
  | hideNow => exact h_start.hideNow hw h_ready
  | jumpToEnd => exact h_start.jumpToEnd hw h_ready h_sound.target
  | advance => exact h_start.advance hw h_sound
  | release => exact h_start.release hw

/-- What the caller is told depends on the arguments, and after a tick on whether the fade is
over. -/
theorem answer_eq {s s' : Step} (h_step : s.Shifted c s')
    (h_turn : (d.turn s).Shifted c (d'.turn s')) : d.answer s = d'.answer s' := by
  have h_operation := h_step.operation
  have hw := h_step.surroundings
  by_cases h_valid : s.operation.Valid
  · rw [answer_of_going h_valid (going_turn hw.accepting.describable d),
      answer_of_going (h_operation ▸ h_valid) (going_turn hw.accepting'.describable d'),
      ← h_operation]
    exact congrArg Except.ok (Operation.result_congr h_turn.dimmer.isAnimating_eq s.operation)
  · -- the arguments are refused in both
    obtain ⟨failure, h_perform⟩ := perform_of_invalid h_valid
    rw [answer, answer, h_perform, ← h_operation, h_perform]

/-- **And so does a run.** -/
theorem run {steps steps' : List Step} (h : Shifted c d d') (h_sound : Sound d past)
    (h_visible : Visible d) (h_shift : List.Forall₂ (Step.Shifted c) steps steps')
    (h_exact : ∀ s ∈ steps, s.Exact) (h_exact' : ∀ s ∈ steps', s.Exact)
    (h_clock : Chronological (past ++ d.clock steps)) :
    List.Forall₂ (fun e e' => e.1.Shifted c e'.1 ∧ e.2 = e'.2) (d.turns steps) (d'.turns steps') ∧
      (d.after steps).Shifted c (d'.after steps') := by
  induction h_shift generalizing d d' past with
  | nil => exact ⟨.nil, h⟩
  | @cons s s' rest rest' h_step h_rest ih =>
    rw [append_clock_cons] at h_clock
    have h_turn := h.turn h_sound h_visible h_step (h_exact s List.mem_cons_self)
      (h_exact' s' List.mem_cons_self)
    -- what is known of the dimmer in the original run carries over to its next step
    have h_next := ih h_turn.dimmer (h_sound.turn h_clock.left)
      (h_visible.turn h_sound h_step.surroundings.accepting h_clock.left)
      (fun s hs => h_exact s (List.mem_cons_of_mem _ hs))
      (fun s hs => h_exact' s (List.mem_cons_of_mem _ hs)) h_clock
    exact ⟨.cons ⟨h_turn, answer_eq h_step h_turn⟩ h_next.1, h_next.2⟩

end Dimmer.Shifted

/-! ### Timelines that have been started -/

/-- The step presents a request that is due and takes its time, so that it starts a timeline. -/
def Dimmer.Starts (d : Dimmer) (s : Step) : Prop :=
  ∃ (t : Turn) (handle : Handle) (request : PresentRequest),
    d.turn s = t.present s.surroundings request ∧ t.dimmer = d ∧ d.handle = some handle ∧
      d.commits request (t.now s.surroundings) = true ∧ 0 < request.duration

/-- A timeline has been started in a run. -/
def Dimmer.HasStarted (d : Dimmer) : List Step → Prop
  | [] => False
  | s :: rest => d.Starts s ∨ (d.turn s).dimmer.HasStarted rest

section Started

variable {d : Dimmer} {s : Step} {past : List Float}

/-- A timeline that a step starts has a duration. -/
theorem Dimmer.Starts.duration_pos (h : d.Starts s) (hw : s.surroundings.Describable) :
    0 < (d.turn s).dimmer.timeline.duration := by
  obtain ⟨t, handle, request, h_turn, h_same, h_handle, h_commits, h_pos⟩ := h
  subst h_same
  have h_going := t.dimmer.going_turn hw
  rw [h_turn] at h_going ⊢
  have h_presented := Turn.presented h_handle h_going
  generalize (t.present s.surroundings request).dimmer = d' at h_presented
  cases h_presented with
  | kept footprint h_idle => cases h_idle.symm.trans h_commits
  | jumped footprint reached _ h_instant => exact absurd h_instant (Number.not_le_of_lt h_pos)
  | started footprint => exact h_pos

/-- A step that does not start one leaves the timeline alone. -/
theorem Dimmer.timeline_turn_of_not_starts (h_sound : Sound d past) (h : ¬d.Starts s) :
    (d.turn s).dimmer.timeline = d.timeline := by
  have h_course := d.course s
  generalize h_turn : d.turn s = t at h_course
  cases h_course with
  | idle t h_same => rw [h_same]
  | collapsed t h_handle h_rest =>
    rw [h_rest]
    rfl
  | presented t handle request h_handle h_same h_arises h_going =>
    subst h_same
    have h_presented := Turn.presented h_handle h_going
    have h_nonneg := (h_arises.accepted h_sound.target).duration.nonneg
    generalize (t.present s.surroundings request).dimmer = d' at h_presented ⊢
    cases h_presented with
    | kept => rfl
    | jumped footprint reached h_commits h_instant h_applied => exact h_applied.timeline_eq
    | started footprint h_commits h_lasting =>
      have h_pos := Number.lt_of_not_le (isNaN_of_le h_nonneg).1 (isNaN_of_le h_nonneg).2 h_lasting
      -- this is what it means to start a timeline
      exact absurd ⟨t, handle, request, h_turn, rfl, h_handle, h_commits, h_pos⟩ h
  | advanced t handle h_handle h_operation h_animating h_readings h_applied =>
    exact h_applied.timeline_eq
  | released t h_operation h_rest =>
    rw [h_rest]
    rfl
  | cutShort t handle footprint h_handle h_ended h_cut => rw [h_cut]

/-- **A timeline has a duration exactly if it has been started.** -/
theorem Dimmer.duration_pos_after_iff {steps : List Step} (h_sound : Sound d past)
    (h_describable : ∀ s ∈ steps, s.surroundings.Describable)
    (h_clock : Chronological (past ++ d.clock steps)) :
    0 < (d.after steps).timeline.duration ↔ d.HasStarted steps ∨ 0 < d.timeline.duration := by
  -- on the steps; the first one either starts a timeline or leaves it alone
  induction steps generalizing d past with
  | nil => exact (or_iff_right id).symm
  | cons s rest ih =>
    rw [append_clock_cons] at h_clock
    have h_rest := ih (h_sound.turn h_clock.left)
      (fun s' hs' => h_describable s' (List.mem_cons_of_mem s hs')) h_clock
    change 0 < ((d.turn s).dimmer.after rest).timeline.duration ↔ (_ ∨ _) ∨ _
    have h_here := h_describable s List.mem_cons_self
    by_cases h_starts : d.Starts s
    · exact iff_of_true (h_rest.mpr (Or.inr (h_starts.duration_pos h_here)))
        (Or.inl (Or.inl h_starts))
    · rw [h_rest, d.timeline_turn_of_not_starts h_sound h_starts, or_iff_right h_starts]

end Started

/-- In runs that are shifted nothing is refused. -/
theorem Dimmer.describable_of_shifted {c : ℚ} {steps steps' : List Step}
    (h : List.Forall₂ (Step.Shifted c) steps steps') :
    ∀ s ∈ steps, s.surroundings.Describable := by
  have h_both :
      List.Forall₂ (fun s s' => s.surroundings.Describable ∧ s.Shifted c s') steps steps' :=
    h.imp fun _ _ h_step => ⟨h_step.surroundings.accepting.describable, h_step⟩
  exact ((List.forall₂_and_left steps steps').mp h_both).1

/-- A dimmer whose timeline has not been started stands like itself. -/
theorem Dimmer.shifted_self {d : Dimmer} (c : ℚ) (h_alpha : d.alpha.isNaN = false)
    (h_timeline : d.timeline = {}) : d.Shifted c d := by
  refine ⟨rfl, rfl, rfl, rfl, rfl, Number.beq_refl h_alpha, ?_⟩
  rw [h_timeline]
  exact .unstarted

/-- **A run at another time goes the same.** The dimmer was created anyhow and takes two runs of the
same operations on a surface that refuses nothing, in the second of which the clock reads `c` more
at every step. The clock is proper, and nothing is lost in adding the durations asked for to what it
reads, in either run. Then each turn of the second run issues the same primitives as that of the
first, tells the caller the same, and leaves a dimmer that stands the same; the timeline starts `c`
later if one has been started, and at zero if not. -/
theorem Dimmer.shifted_of_run (options : Options) (display : Float)
    (admission : SurfaceRequest → Except Failure Handle) (refusal : Primitive → Option Failure)
    (c : ℚ) (steps steps' : List Step) (h_shift : List.Forall₂ (Step.Shifted c) steps steps')
    (h_exact : ∀ s ∈ steps, s.Exact) (h_exact' : ∀ s ∈ steps', s.Exact)
    (h_clock : Chronological ((new options display admission refusal).clock steps)) :
    let d := new options display admission refusal
    List.Forall₂ (fun e e' => e.1.Shifted c e'.1 ∧ e.2 = e'.2) (d.turns steps) (d.turns steps') ∧
      (d.HasStarted steps →
        toRat (d.after steps').timeline.startTime
          = toRat (d.after steps).timeline.startTime + c) ∧
      (¬d.HasStarted steps →
        (d.after steps).timeline.startTime = 0 ∧ (d.after steps').timeline.startTime = 0) := by
  intro d
  have h_sound : Sound d [] := sound_new options display admission refusal
  obtain ⟨handle, h_new⟩ : ∃ handle, d = { display, handle } :=
    new_eq options display admission refusal
  have h_timeline : d.timeline = {} := by rw [h_new]
  have h_idle : ¬0 < d.timeline.duration := by
    rw [h_timeline]
    exact fun h_pos => absurd inUnit_zero.nonneg (Number.not_le_of_lt h_pos)
  -- a timeline has a duration exactly if one has been started
  have h_started := duration_pos_after_iff h_sound (describable_of_shifted h_shift) h_clock
  rw [or_iff_left h_idle] at h_started
  obtain ⟨h_turns, h_after⟩ := (shifted_self c h_sound.alpha.isNaN h_timeline).run h_sound
    (visible_new options display admission refusal) h_shift h_exact h_exact' h_clock
  refine ⟨h_turns, ?_, ?_⟩
  · intro h_has
    exact (h_after.postponed (h_started.mpr h_has)).startTime_eq
  · intro h_has
    have h_shifted := h_after.timeline
    rw [← h_started] at h_has
    -- without a start both timelines are the first one, which begins at zero
    generalize (d.after steps).timeline = t at h_shifted h_has ⊢
    generalize (d.after steps').timeline = t' at h_shifted ⊢
    cases h_shifted with
    | unstarted => exact ⟨rfl, rfl⟩
    | started h => exact absurd h.duration_pos h_has

/-- From a clock value on, a fade-in of one second, a tick at half-time, and a dismissal then. -/
def Dimmer.dismissedFadeIn (start : Float) : List Step :=
  [⟨.present (.number 5) (.number 0.8) (.number 1000), .calm start⟩,
    ⟨.advance, .calm (start + 500)⟩, ⟨.dismiss (.number 300), .calm (start + 500)⟩]

theorem Dimmer.shifted_dismissedFadeIn :
    List.Forall₂ (Step.Shifted 5000) (dismissedFadeIn 0) (dismissedFadeIn 5000) := by
  have h_calm {now now' : Float} (h_finite : now.isFinite = true) (h_finite' : now'.isFinite = true)
      (h_now : toRat now' = toRat now + 5000) (operation : Operation) :
      Step.Shifted 5000 ⟨operation, .calm now⟩ ⟨operation, .calm now'⟩ :=
    ⟨rfl, rfl, fun _ => rfl, fun _ => rfl, fun _ => h_finite, fun _ => h_finite', fun _ => h_now⟩
  have h_start (operation : Operation) :
      Step.Shifted 5000 ⟨operation, .calm 0⟩ ⟨operation, .calm 5000⟩ :=
    h_calm (by decide +kernel) (by decide +kernel) (by decide +kernel) operation
  have h_half (operation : Operation) :
      Step.Shifted 5000 ⟨operation, .calm (0 + 500)⟩ ⟨operation, .calm (5000 + 500)⟩ :=
    h_calm (by decide +kernel) (by decide +kernel) (by decide +kernel) operation
  exact .cons (h_start _) (.cons (h_half _) (.cons (h_half _) .nil))

/-- The sums of its times and durations are small whole numbers. -/
theorem Dimmer.exact_dismissedFadeIn {start : Float} {m : ℤ} (h_finite : start.isFinite = true)
    (h_finite' : (start + 500).isFinite = true) (h_start : toRat start = m)
    (h_half : toRat (start + 500) = (m + 500 : ℤ)) (h_small : |m| ≤ 2 ^ 52) :
    ∀ s ∈ dismissedFadeIn start, s.Exact := by
  have h_second : toRat 1000 = (1000 : ℤ) := by decide +kernel
  have h_third : toRat 300 = (300 : ℤ) := by decide +kernel
  obtain ⟨h_low, h_high⟩ := abs_le.mp h_small
  intro s hs duration h_duration i
  simp only [dismissedFadeIn, List.mem_cons, List.not_mem_nil, or_false] at hs
  rcases hs with rfl | rfl | rfl
  · obtain rfl : 1000 = duration := Option.some.inj h_duration
    exact exactSum_of_whole h_finite (by decide +kernel) h_start h_second
      (abs_le.mpr ⟨by linarith, by linarith⟩)
  · -- a tick asks for no duration
    cases h_duration
  · obtain rfl : 300 = duration := Option.some.inj h_duration
    exact exactSum_of_whole h_finite' (by decide +kernel) h_half h_third
      (abs_le.mpr ⟨by linarith, by linarith⟩)

/-- Five seconds later all goes the same, and the fade-out starts five seconds later. -/
theorem Dimmer.shifted_of_dismissedFadeIn :
    List.Forall₂ (fun e e' => e.1.Shifted 5000 e'.1 ∧ e.2 = e'.2)
        (fresh.turns (dismissedFadeIn 0)) (fresh.turns (dismissedFadeIn 5000)) ∧
      toRat (fresh.after (dismissedFadeIn 5000)).timeline.startTime
        = toRat (fresh.after (dismissedFadeIn 0)).timeline.startTime + 5000 := by
  have h_clock : Chronological (fresh.clock (dismissedFadeIn 0)) :=
    ⟨by decide +kernel, by decide +kernel⟩
  have h_exact : ∀ s ∈ dismissedFadeIn 0, s.Exact :=
    exact_dismissedFadeIn (by decide +kernel) (by decide +kernel) (show toRat 0 = (0 : ℤ) by simp)
      (by decide +kernel) (by norm_num)
  have h_exact' : ∀ s ∈ dismissedFadeIn 5000, s.Exact :=
    exact_dismissedFadeIn (by decide +kernel) (by decide +kernel)
      (show toRat 5000 = (5000 : ℤ) by decide +kernel) (by decide +kernel) (by norm_num)
  have h_pos : 0 < (fresh.after (dismissedFadeIn 0)).timeline.duration := by decide +kernel
  have h_sound : Sound fresh [] := by
    rw [fresh_eq]
    exact sound_new _ _ _ _
  have h_started : 0 < (fresh.after (dismissedFadeIn 0)).timeline.duration
      ↔ fresh.HasStarted (dismissedFadeIn 0) ∨ 0 < fresh.timeline.duration :=
    duration_pos_after_iff h_sound (describable_of_shifted shifted_dismissedFadeIn)
      (by rwa [List.nil_append])
  -- that the run has started a timeline is read off its duration
  have h_has := (h_started.mp h_pos).resolve_right (by decide +kernel)
  have h_shifted := shifted_of_run _ _ _ _ 5000 _ _ shifted_dismissedFadeIn h_exact h_exact' h_clock
  rw [← fresh_eq] at h_shifted
  exact ⟨h_shifted.1, h_shifted.2.1 h_has⟩

end Scrim

import Scrim.Proofs.Dimmer.Guarded
import Scrim.Proofs.Request

/-!
# The courses of a step

What a step can do to a dimmer, said once, so that no later proof opens an operation for it.
`Applied` tells what applying an alpha comes to, `Presented` the same of a present request, and
`Course` of a whole step. Fading out and jumping to the end are present requests of the dimmer's
own; `Arises` tells which requests an operation can bring about, and `Dimmer.course` that each step
takes one of the courses.

What a surface refuses enters at two places only: the visibility in `Applied.changed`, and
`Course.cutShort`, the course of an operation that is ended by a refusal that cannot be told.
-/

namespace Scrim

open Number

/-! ### Alpha -/

/-- What applying an alpha can come to, unless that is cut short. -/
inductive Applied (w : Surroundings) (d : Dimmer) (alpha : Float) : Dimmer → Prop
  /-- The alpha was in place already. -/
  | inPlace (h_alpha : (d.alpha == alpha) = true) : Applied w d alpha d
  /-- The alpha was applied, and the visibility followed it unless the surface refused. -/
  | changed (h_alpha : (d.alpha == alpha) = false) (showing : Bool)
      (h_showing : w.Accepting → showing = (d.visibilityAt alpha).getD d.showing) :
      Applied w d alpha { d with alpha, showing }

namespace Turn

section Alpha

variable {t : Turn} {w : Surroundings} {handle : Handle} {alpha : Float}

theorem applied (h_going : (t.applyAlpha w handle alpha).failure = none) :
    Applied w t.dimmer alpha (t.applyAlpha w handle alpha).dimmer := by
  have h_after := t.afterAlpha w handle alpha
  generalize t.applyAlpha w handle alpha = t' at h_after h_going ⊢
  cases h_after with
  | inPlace h_alpha => exact .inPlace h_alpha
  | settled message h_alpha h_told =>
    apply Applied.changed h_alpha
    -- on an accepting surface the visibility has followed
    intro h_accepting
    have h_none :
        (Guarded.applying alpha (t.dimmer.visibilityAt alpha)).primitives.findSome? w.refusal
          = none := List.findSome?_eq_none_iff.mpr fun primitive _ => h_accepting primitive
    rw [h_none]
    rfl
  | cutShort message h_alpha h_untold => exact absurd (failure_guard .. ▸ h_going) h_untold

/-- An alpha that is cut short leaves no trace in the dimmer. -/
theorem dimmer_applyAlpha_of_ended (h_ended : (t.applyAlpha w handle alpha).failure ≠ none) :
    (t.applyAlpha w handle alpha).dimmer = t.dimmer := by
  have h_after := t.afterAlpha w handle alpha
  generalize t.applyAlpha w handle alpha = t' at h_after h_ended ⊢
  cases h_after with
  | inPlace h_alpha => rfl
  | settled message h_alpha h_told =>
    exact absurd ((failure_guard (t.debug message) ..).trans h_told) h_ended
  | cutShort message h_alpha h_untold => rfl

theorem readings_applyAlpha (t : Turn) (w : Surroundings) (handle : Handle) (alpha : Float) :
    (t.applyAlpha w handle alpha).readings = t.readings := by
  have h_after := t.afterAlpha w handle alpha
  generalize t.applyAlpha w handle alpha = t' at h_after ⊢
  cases h_after <;> rfl

end Alpha

/-! ### Placement -/

/-- Placing changes nothing but the footprint. -/
theorem dimmer_place (t : Turn) (w : Surroundings) (handle : Handle) (layer : Float) :
    ∃ footprint, (t.place w handle layer).dimmer = { t.dimmer with footprint } := by
  have h_after := t.afterPlace w handle layer
  generalize t.place w handle layer = t' at h_after ⊢
  cases h_after with
  | settled size h_display h_differs h_told => exact ⟨_, rfl⟩
  -- nowhere else is the footprint touched
  | unseen | inPlace | cutShort => exact ⟨t.dimmer.footprint, rfl⟩

theorem readings_place (t : Turn) (w : Surroundings) (handle : Handle) (layer : Float) :
    (t.place w handle layer).readings = t.readings := by
  have h_after := t.afterPlace w handle layer
  generalize t.place w handle layer = t' at h_after ⊢
  cases h_after <;> rfl

end Turn

/-! ### Presenting -/

/-- What a present request that is considered at a clock value can come to, unless it is cut
short. -/
inductive Presented (w : Surroundings) (d : Dimmer) (request : PresentRequest) (now : Float) :
    Dimmer → Prop
  /-- The timeline in place is kept. -/
  | kept (footprint : Footprint) (h_commits : d.commits request now = false) :
      Presented w d request now { d with footprint, target := request.alpha }
  /-- The alpha is applied at once. -/
  | jumped (footprint : Footprint) (reached : Dimmer) (h_commits : d.commits request now = true)
      (h_instant : request.duration ≤ 0) (h_applied : Applied w d request.alpha reached) :
      Presented w d request now { reached with footprint, target := request.alpha }
  /-- A new timeline is started. -/
  | started (footprint : Footprint) (h_commits : d.commits request now = true)
      (h_lasting : ¬request.duration ≤ 0) :
      Presented w d request now
        { d with
          footprint
          timeline := { startAlpha := d.alpha, startTime := now, duration := request.duration }
          target := request.alpha }

/-- The target is recorded, whether the request commits or not. -/
theorem Presented.target_eq {w : Surroundings} {d d' : Dimmer} {request : PresentRequest}
    {now : Float} (h : Presented w d request now d') : d'.target = request.alpha := by
  cases h <;> rfl

theorem Applied.withFootprint {w : Surroundings} {d d' : Dimmer} {alpha : Float}
    {footprint : Footprint} (h : Applied w { d with footprint } alpha d') :
    ∃ d'', Applied w d alpha d'' ∧ d' = { d'' with footprint } := by
  cases h with
  | inPlace h_alpha => exact ⟨d, .inPlace h_alpha, rfl⟩
  | changed h_alpha showing h_showing =>
    exact ⟨{ d with alpha, showing }, .changed (d := d) h_alpha showing h_showing, rfl⟩

namespace Turn

variable {t : Turn} {w : Surroundings} {handle : Handle}

@[simp] theorem dimmer_logTimeline (t : Turn) : t.logTimeline.dimmer = t.dimmer := rfl

@[simp] theorem readings_logTimeline (t : Turn) : t.logTimeline.readings = t.readings := rfl

/-- To log a line is no call. -/
theorem issued_events_say (t : Turn) (level : Level) (message : String) :
    issued (t.say level message).events = issued t.events :=
  (issued_append ..).trans (List.append_nil _)

theorem readings_commit (t : Turn) (w : Surroundings) (handle : Handle) (request : PresentRequest)
    (now : Float) : (t.commit w handle request now).readings = t.readings := by
  unfold commit
  split
  · exact readings_applyAlpha t w handle request.alpha
  · rfl

theorem readings_consider (t : Turn) (w : Surroundings) (handle : Handle)
    (request : PresentRequest) : (t.consider w handle request).readings = t.readings + 1 := by
  unfold consider
  split
  · exact readings_commit t.tookReading w handle request _
  · rfl

/-- Presenting on a live surface, step by step, after a line that tells the request. -/
theorem exists_message_present (request : PresentRequest) :
    ∃ message, ∀ {t : Turn} {w : Surroundings} {handle : Handle}, t.dimmer.handle = some handle →
      t.present w request
        = ((t.debug message).place w handle request.layer).andThen fun t =>
            (t.consider w handle request).andThen fun t =>
              t.logTimeline.update fun d => { d with target := request.alpha } := by
  let n := Number.text
  let message :=
    s!"present: layer={n request.layer} alpha={n request.alpha} duration={n request.duration}"
  refine ⟨message, fun {t w handle} h_handle => ?_⟩
  unfold present
  dsimp only
  rw [dimmer_debug, h_handle]

theorem present_of_handle (h_handle : t.dimmer.handle = some handle) (request : PresentRequest) :
    ∃ message, t.present w request
      = ((t.debug message).place w handle request.layer).andThen fun t =>
          (t.consider w handle request).andThen fun t =>
            t.logTimeline.update fun d => { d with target := request.alpha } := by
  obtain ⟨message, h_present⟩ := exists_message_present request
  exact ⟨message, h_present h_handle⟩

/-- A present request that is not cut short goes through all its steps. -/
theorem present_of_going (h_handle : t.dimmer.handle = some handle) {request : PresentRequest}
    (h_going : (t.present w request).failure = none) :
    ∃ message,
      let placed := (t.debug message).place w handle request.layer
      placed.failure = none ∧ (placed.consider w handle request).failure = none ∧
        t.present w request = (placed.consider w handle request).logTimeline.update
          fun d => { d with target := request.alpha } := by
  obtain ⟨message, h_present⟩ := present_of_handle (w := w) h_handle request
  rw [h_present] at h_going
  obtain ⟨h_placed, h_rest⟩ := going_of_andThen h_going
  obtain ⟨h_considered, -⟩ := going_of_andThen h_rest
  refine ⟨message, h_placed, h_considered, ?_⟩
  rw [h_present, andThen_of_going h_placed, andThen_of_going h_considered]

theorem readings_present (h_handle : t.dimmer.handle = some handle) {request : PresentRequest}
    (h_going : (t.present w request).failure = none) :
    (t.present w request).readings = t.readings + 1 := by
  obtain ⟨message, -, -, h_present⟩ := present_of_going h_handle h_going
  rw [h_present, readings_update, readings_logTimeline, readings_consider, readings_place,
    readings_debug]

/-- **A present request on a live surface is placed, then considered at one reading.** -/
theorem presented (h_handle : t.dimmer.handle = some handle) {request : PresentRequest}
    (h_going : (t.present w request).failure = none) :
    Presented w t.dimmer request (t.now w) (t.present w request).dimmer := by
  obtain ⟨message, -, h_considered, h_present⟩ := present_of_going h_handle h_going
  obtain ⟨footprint, h_place⟩ := dimmer_place (t.debug message) w handle request.layer
  have h_now : ((t.debug message).place w handle request.layer).now w = t.now w := by
    rw [now, readings_place]
    rfl
  rw [h_present, dimmer_update, dimmer_logTimeline]
  generalize (t.debug message).place w handle request.layer = placed at *
  -- the footprint has no say in whether the request commits
  have h_commits :
      placed.dimmer.commits request (t.now w) = t.dimmer.commits request (t.now w) := by
    rw [h_place]
    rfl
  unfold consider at h_considered ⊢
  rw [h_now, h_commits] at h_considered ⊢
  split at h_considered
  · next h_due =>
    rw [if_pos h_due]
    unfold commit at h_considered ⊢
    split at h_considered
    · next h_instant =>
      have h_applied := applied h_considered
      rw [if_pos h_instant]
      rw [dimmer_tookReading, h_place] at h_applied
      obtain ⟨reached, h_applied, h_eq⟩ := h_applied.withFootprint
      rw [h_eq]
      exact .jumped footprint reached h_due h_instant h_applied
    · next h_lasting =>
      rw [if_neg h_lasting, dimmer_update, dimmer_tookReading, h_place]
      exact .started footprint h_due h_lasting
  · next h_idle =>
    rw [if_neg h_idle, dimmer_tookReading, h_place]
    exact .kept footprint (Bool.eq_false_of_not_eq_true h_idle)

/-- A request whose consideration is cut short has changed nothing. -/
theorem dimmer_consider_of_ended {request : PresentRequest} (h_before : t.failure = none)
    (h_ended : (t.consider w handle request).failure ≠ none) :
    (t.consider w handle request).dimmer = t.dimmer := by
  unfold consider commit at h_ended ⊢
  split_ifs at h_ended ⊢
  · exact dimmer_applyAlpha_of_ended h_ended
  · exact absurd h_before h_ended
  · exact absurd h_before h_ended

/-- A present request that is cut short leaves at most another footprint behind. -/
theorem dimmer_present_of_ended (h_handle : t.dimmer.handle = some handle)
    {request : PresentRequest} (h_ended : (t.present w request).failure ≠ none) :
    ∃ footprint, (t.present w request).dimmer = { t.dimmer with footprint } := by
  obtain ⟨message, h_present⟩ := present_of_handle (w := w) h_handle request
  obtain ⟨footprint, h_place⟩ := dimmer_place (t.debug message) w handle request.layer
  rw [h_present] at h_ended ⊢
  generalize (t.debug message).place w handle request.layer = placed at *
  by_cases h_placed : placed.failure = none
  · rw [andThen_of_going h_placed] at h_ended ⊢
    have h_considered : (placed.consider w handle request).failure ≠ none := by
      intro h_going
      -- nothing after that can fail
      rw [andThen_of_going h_going] at h_ended
      exact h_ended h_going
    rw [andThen_of_ended h_considered, dimmer_consider_of_ended h_placed h_considered, h_place]
    exact ⟨footprint, rfl⟩
  · rw [andThen_of_ended h_placed]
    exact ⟨footprint, h_place⟩

end Turn

/-! ### Whole steps -/

/-- The turn that an accepted present request is. -/
theorem Dimmer.turn_present {layer alpha duration : Value} {request : PresentRequest}
    (h_check : PresentRequest.check layer alpha duration = .ok request) (d : Dimmer)
    (w : Surroundings) :
    d.turn ⟨.present layer alpha duration, w⟩ = Turn.present { dimmer := d } w request := by
  dsimp only [turn, perform]
  rw [h_check]

/-- The turn that an accepted dismissal is. -/
theorem Dimmer.turn_dismiss {duration : Value} {request : DismissRequest}
    (h_check : DismissRequest.check duration = .ok request) (d : Dimmer) (w : Surroundings) :
    d.turn ⟨.dismiss duration, w⟩ = Turn.dismiss { dimmer := d } w request := by
  dsimp only [turn, perform]
  rw [h_check]

namespace Operation

/-- The arguments of the operation are accepted. -/
def Valid : Operation → Prop
  | .present layer alpha duration =>
    ∃ request, PresentRequest.check layer alpha duration = .ok request
  | .dismiss duration => ∃ request, DismissRequest.check duration = .ok request
  | .hideNow | .jumpToEnd | .advance | .release => True

/-- What an operation that leaves a dimmer behind answers: advancing, whether more of it is
needed. -/
def result (d : Dimmer) : Operation → Option Bool
  | .advance => some d.isAnimating
  | .present .. | .dismiss _ | .hideNow | .jumpToEnd | .release => none

/-- All that an answer tells of a dimmer is whether a fade is in progress. -/
theorem result_congr {d d' : Dimmer} (h : d.isAnimating = d'.isAnimating)
    (operation : Operation) : operation.result d = operation.result d' := by
  cases operation with
  | advance => exact congrArg some h
  | present | dismiss | hideNow | jumpToEnd | release => rfl

end Operation

namespace Dimmer

variable {s : Step}

/-- An operation with valid arguments answers, or fails with what has ended it. -/
theorem answer_of_valid (h_valid : s.operation.Valid) (d : Dimmer) :
    d.answer s = (d.turn s).answer (s.operation.result (d.turn s).dimmer) := by
  obtain ⟨operation, w⟩ := s
  cases operation with
  | present layer alpha duration =>
    obtain ⟨request, h_check⟩ := h_valid
    dsimp only [answer, turn, perform]
    rw [h_check]
    rfl
  | dismiss duration =>
    obtain ⟨request, h_check⟩ := h_valid
    dsimp only [answer, turn, perform]
    rw [h_check]
    rfl
  | hideNow | jumpToEnd | advance | release => rfl

/-- Refused arguments make an operation fail, whatever the dimmer and the surroundings, and it does
nothing. -/
theorem perform_of_invalid {operation : Operation} (h_invalid : ¬operation.Valid) :
    ∃ failure, ∀ (d : Dimmer) (w : Surroundings),
      d.perform w operation = ({ dimmer := d }, .error failure) := by
  cases operation with
  | present layer alpha duration =>
    cases h_check : PresentRequest.check layer alpha duration with
    | error failure => exact ⟨failure, fun d w => by simp only [perform, h_check]⟩
    | ok request => exact absurd ⟨request, h_check⟩ h_invalid
  | dismiss duration =>
    cases h_check : DismissRequest.check duration with
    | error failure => exact ⟨failure, fun d w => by simp only [perform, h_check]⟩
    | ok request => exact absurd ⟨request, h_check⟩ h_invalid
  | hideNow | jumpToEnd | advance | release => exact absurd trivial h_invalid

/-- Only an operation with valid arguments can be ended early. -/
theorem valid_of_ended {d : Dimmer} (h_ended : (d.turn s).failure ≠ none) :
    s.operation.Valid := by
  by_contra h_invalid
  obtain ⟨failure, h_perform⟩ := perform_of_invalid h_invalid
  rw [turn, h_perform] at h_ended
  exact h_ended rfl

/-- An operation that is ended early fails with what has ended it. -/
theorem answer_of_ended {d : Dimmer} {failure : Failure}
    (h_ended : (d.turn s).failure = some failure) : d.answer s = .error failure := by
  have h_valid : s.operation.Valid := valid_of_ended (h_ended ▸ Option.some_ne_none failure)
  rw [answer_of_valid h_valid, Turn.answer_eq_error_iff, h_ended]

theorem answer_of_going (h_valid : s.operation.Valid) {d : Dimmer}
    (h_going : (d.turn s).failure = none) :
    d.answer s = .ok (s.operation.result (d.turn s).dimmer) :=
  (answer_of_valid h_valid d).trans (Turn.answer_of_going h_going)

/-- An operation that has answered was not ended early. -/
theorem going_of_answer {d : Dimmer} {result : Option Bool} (h_answer : d.answer s = .ok result) :
    (d.turn s).failure = none := by
  by_contra h_ended
  obtain ⟨failure, h_failure⟩ := Option.ne_none_iff_exists'.mp h_ended
  cases (answer_of_ended h_failure).symm.trans h_answer

end Dimmer

/-- The present requests that an operation can bring about. -/
inductive Arises (d : Dimmer) : Operation → PresentRequest → Prop
  | asked {layer alpha duration : Value} {request : PresentRequest}
      (h_check : PresentRequest.check layer alpha duration = .ok request) :
      Arises d (.present layer alpha duration) request
  | faded {duration : Value} {request : DismissRequest}
      (h_check : DismissRequest.check duration = .ok request) :
      Arises d (.dismiss duration)
        { layer := d.footprint.layer, alpha := 0, duration := request.duration }
  | hidden : Arises d .hideNow { layer := d.footprint.layer, alpha := 0, duration := 0 }
  | jumped : Arises d .jumpToEnd { layer := d.footprint.layer, alpha := d.target, duration := 0 }

theorem acceptedDuration_zero : AcceptedDuration 0 :=
  ⟨isFinite_zero, inUnit_zero.nonneg⟩

/-- What a dimmer requests of itself would be accepted too. -/
theorem Arises.accepted {d : Dimmer} {operation : Operation} {request : PresentRequest}
    (h : Arises d operation request) (h_target : InUnit d.target) : request.Accepted := by
  cases h with
  | asked h_check => exact PresentRequest.check_accepted h_check
  | faded h_check => exact ⟨inUnit_zero, DismissRequest.check_accepted h_check⟩
  | hidden => exact ⟨inUnit_zero, acceptedDuration_zero⟩
  | jumped => exact ⟨h_target, acceptedDuration_zero⟩

/-- What a dimmer requests takes a whole number of milliseconds. -/
theorem Arises.isWhole {d : Dimmer} {operation : Operation} {request : PresentRequest}
    (h : Arises d operation request) : isWhole request.duration = true := by
  have h_zero : Number.isWhole 0 = true := by decide +kernel
  cases h with
  | asked h_check => exact durationRules_isWhole (PresentRequest.check_fields h_check).2
  | faded h_check => exact durationRules_isWhole (DismissRequest.check_fields h_check)
  | hidden => exact h_zero
  | jumped => exact h_zero

/-- The courses that a step can take. -/
inductive Course (w : Surroundings) (d : Dimmer) (operation : Operation) : Turn → Prop
  /-- Nothing changes. -/
  | idle (t : Turn) (h_same : t.dimmer = d) : Course w d operation t
  /-- The dimmer has no surface and comes to rest. -/
  | collapsed (t : Turn) (h_handle : d.handle = none) (h_rest : t.dimmer = d.collapsed) :
      Course w d operation t
  /-- A present request is considered. -/
  | presented (t : Turn) (handle : Handle) (request : PresentRequest)
      (h_handle : d.handle = some handle) (h_same : t.dimmer = d)
      (h_arises : Arises d operation request)
      (h_going : (t.present w request).failure = none) : Course w d operation (t.present w request)
  /-- The fade in progress is moved on. -/
  | advanced (t : Turn) (handle : Handle) (h_handle : d.handle = some handle)
      (h_operation : operation = .advance) (h_animating : d.isAnimating = true)
      (h_readings : t.readings = 1)
      (h_applied : Applied w d (d.timeline.sample d.target (w.reading 0)) t.dimmer)
      (h_going : t.failure = none) : Course w d operation t
  /-- The surface is given up. -/
  | released (t : Turn) (h_operation : operation = .release)
      (h_rest : t.dimmer = { d.collapsed with handle := none, showing := false }) :
      Course w d operation t
  /-- The surface refuses something with what cannot be told, and that ends the operation. The
  surface may have been placed before. -/
  | cutShort (t : Turn) (handle : Handle) (footprint : Footprint)
      (h_handle : d.handle = some handle) (h_ended : t.failure ≠ none)
      (h_cut : t.dimmer = { d with footprint }) : Course w d operation t

namespace Turn

variable {d : Dimmer} {w : Surroundings} {operation : Operation} {t : Turn}

/-- A request on a live surface is considered or cut short. -/
theorem course_present {handle : Handle} {request : PresentRequest} (h_same : t.dimmer = d)
    (h_handle : d.handle = some handle) (h_arises : Arises d operation request) :
    Course w d operation (t.present w request) := by
  by_cases h_going : (t.present w request).failure = none
  · exact .presented t handle request h_handle h_same h_arises h_going
  · obtain ⟨footprint, h_cut⟩ := dimmer_present_of_ended (h_same ▸ h_handle) h_going
    exact .cutShort _ handle footprint h_handle h_going (h_same ▸ h_cut)

theorem course_fadeOut {handle : Handle} (h_same : t.dimmer = d) (h_handle : d.handle = some handle)
    {duration : Float}
    (h_arises : Arises d operation { layer := d.footprint.layer, alpha := 0, duration }) :
    Course w d operation (t.fadeOut w duration) := by
  unfold fadeOut
  rw [h_same]
  exact course_present (t := t.debug _) h_same h_handle h_arises

/-- Dismissing, also as a part of hiding. -/
theorem course_dismiss (h_same : t.dimmer = d) {request : DismissRequest}
    (h_arises : Arises d operation
      { layer := d.footprint.layer, alpha := 0, duration := request.duration }) :
    Course w d operation (t.dismiss w request) := by
  unfold dismiss
  rw [h_same]
  split
  · next h_handle => exact .collapsed _ h_handle (congrArg Dimmer.collapsed h_same)
  · next handle h_handle =>
    split
    · -- hidden
      exact .idle t h_same
    split
    · exact course_fadeOut h_same h_handle h_arises
    split
    · exact course_fadeOut (t := t.tookReading) h_same h_handle h_arises
    · -- fading out no slower already
      exact .idle t.tookReading h_same

end Turn

/-- **Each step takes one of the courses.** -/
theorem Dimmer.course (d : Dimmer) (s : Step) : Course s.surroundings d s.operation (d.turn s) := by
  obtain ⟨operation, w⟩ := s
  change Course w d operation (d.perform w operation).1
  cases operation with
  | present layer alpha duration =>
    dsimp only [perform]
    split
    · next request h_check =>
      cases h_handle : d.handle with
      | none =>
        -- a present request complains after its first remark
        refine .collapsed _ h_handle ?_
        unfold Turn.present
        dsimp only
        rw [Turn.dimmer_debug, h_handle]
        rfl
      | some handle => exact Turn.course_present rfl h_handle (.asked h_check)
    · -- the check has failed
      exact .idle _ rfl
  | dismiss duration =>
    dsimp only [perform]
    split
    · next request h_check => exact Turn.course_dismiss (d := d) rfl (.faded h_check)
    · exact .idle _ rfl
  | hideNow =>
    change Course w d .hideNow (Turn.hideNow { dimmer := d } w)
    unfold Turn.hideNow
    split
    · next h_handle => exact .collapsed _ h_handle rfl
    · split
      · exact Turn.course_dismiss (d := d) rfl .hidden
      · -- the dimmer is hidden
        exact .idle _ rfl
  | jumpToEnd =>
    change Course w d .jumpToEnd (Turn.jumpToEnd { dimmer := d } w)
    unfold Turn.jumpToEnd
    split
    · next h_handle => exact .collapsed _ h_handle rfl
    · next handle h_handle =>
      split
      · exact Turn.course_present (t := Turn.debug { dimmer := d } _) rfl h_handle .jumped
      · -- no fade is in progress
        exact .idle _ rfl
  | advance =>
    change Course w d .advance (Turn.advance { dimmer := d } w)
    unfold Turn.advance
    split
    · next h_handle => exact .collapsed _ h_handle rfl
    · next handle h_handle =>
      split
      · next h_animating =>
        dsimp only
        let ticked (message : String) := Turn.debug (Turn.tookReading { dimmer := d }) message
        let alpha := d.timeline.sample d.target (w.reading 0)
        have h_course (message : String) :
            Course w d .advance ((ticked message).applyAlpha w handle alpha) := by
          -- the tick ends early if what the surface refuses cannot be told
          by_cases h_going : ((ticked message).applyAlpha w handle alpha).failure = none
          · exact .advanced _ handle h_handle rfl h_animating
              (Turn.readings_applyAlpha (ticked message) w handle alpha) (Turn.applied h_going)
              h_going
          · exact .cutShort _ handle d.footprint h_handle h_going
              (Turn.dimmer_applyAlpha_of_ended h_going)
        exact h_course _
      · exact .idle _ rfl
  | release =>
    change Course w d .release (Turn.release { dimmer := d } w)
    unfold Turn.release
    split
    · exact .idle _ rfl
    · exact .released _ rfl rfl

end Scrim

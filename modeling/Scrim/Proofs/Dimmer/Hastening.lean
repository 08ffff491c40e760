import Scrim.Proofs.Dimmer.Dismissal

/-!
# Requests for the alpha a dimmer heads for

While a fade is in progress, a request for the alpha that it heads for can only bring its end
forward. Each such request proposes a timeline of its own, from the alpha in place and over the
duration that it asks for. Whatever ticks come in between, the dimmer follows the proposal that ends
the earliest, and of several with the same end the first (`Dimmer.firstToFinish_of_run`).

A dismissal is such a request while the dimmer fades out. It is measured against the end in place
twice, at readings of its own, and proposes what it does at the last of those that it takes. That it
is considered at all is due to the visibility: a dimmer that is fading out shows.
-/

namespace Scrim

open Number

/-! ### The first to finish -/

/-- Of some timelines this one ends the earliest, and before those that stand before it. -/
def Timeline.FirstToFinish (t : Timeline) (proposals : List Timeline) : Prop :=
  ∃ earlier later, proposals = earlier ++ t :: later ∧
    (∀ p ∈ earlier, t.finish < p.finish) ∧ ∀ p ∈ later, t.finish ≤ p.finish

namespace Timeline.FirstToFinish

variable {t p : Timeline} {proposals : List Timeline}

theorem singleton (t : Timeline) : t.FirstToFinish [t] :=
  ⟨[], [], rfl, List.forall_mem_nil _, List.forall_mem_nil _⟩

/-- A proposal that ends no earlier changes nothing. -/
theorem kept (h : t.FirstToFinish proposals) (h_le : t.finish ≤ p.finish) :
    t.FirstToFinish (proposals ++ [p]) := by
  obtain ⟨earlier, later, rfl, h_earlier, h_later⟩ := h
  refine ⟨earlier, later ++ [p], List.append_assoc .., h_earlier, ?_⟩
  intro q hq
  rcases List.mem_append.mp hq with hq | hq
  · exact h_later q hq
  · rwa [List.mem_singleton.mp hq]

/-- A proposal that ends strictly earlier than the first to finish is the first to finish. -/
theorem overtaken (h : t.FirstToFinish proposals) (h_lt : p.finish < t.finish) :
    p.FirstToFinish (proposals ++ [p]) := by
  obtain ⟨earlier, later, rfl, h_earlier, h_later⟩ := h
  refine ⟨_, [], rfl, ?_, List.forall_mem_nil _⟩
  intro q hq
  rcases List.mem_append.mp hq with hq | hq
  · exact Number.lt_of_lt_of_le h_lt (Number.le_of_lt (h_earlier q hq))
  rcases List.mem_cons.mp hq with rfl | hq
  · exact h_lt
  · exact Number.lt_of_lt_of_le h_lt (h_later q hq)

end Timeline.FirstToFinish

/-! ### Proposals -/

/-- The duration that an operation asks for, if its arguments are accepted. -/
def Operation.duration? : Operation → Option Float
  | .present layer alpha duration =>
    (PresentRequest.check layer alpha duration).toOption.map PresentRequest.duration
  | .dismiss duration => (DismissRequest.check duration).toOption.map DismissRequest.duration
  | .hideNow | .jumpToEnd | .advance | .release => none

/-- A step of a dimmer that heads for an alpha and is to go on doing so: a tick, or a request for an
equal alpha. -/
inductive Step.Same (alpha : Float) : Step → Prop
  | advance (w : Surroundings) : Same alpha ⟨.advance, w⟩
  | present (w : Surroundings) {layer target duration : Value} {request : PresentRequest}
      (h_check : PresentRequest.check layer target duration = .ok request)
      (h_alpha : (request.alpha == alpha) = true) : Same alpha ⟨.present layer target duration, w⟩
  | dismiss (w : Surroundings) {duration : Value} {request : DismissRequest}
      (h_check : DismissRequest.check duration = .ok request)
      (h_alpha : (0 == alpha) = true) : Same alpha ⟨.dismiss duration, w⟩

namespace Dimmer

/-- The timeline that a step proposes, if it asks for a duration: from the alpha in place, at the
last of the readings that it takes. -/
def proposal? (d : Dimmer) (s : Step) : Option Timeline :=
  s.operation.duration?.map fun duration =>
    { startAlpha := d.alpha
      startTime := s.surroundings.reading ((d.turn s).readings - 1)
      duration }

/-- The timelines that the steps of a run propose, in order. -/
def proposals (d : Dimmer) : List Step → List Timeline
  | [] => []
  | s :: rest => (d.proposal? s).toList ++ (d.turn s).dimmer.proposals rest

end Dimmer

/-! ### Each step keeps to the first to finish -/

/-- A dimmer that holds a surface and heads for an alpha, and while it is not there yet follows the
first to finish of the timelines proposed. -/
structure Heading (alpha : Float) (proposals : List Timeline) (d : Dimmer) : Prop where
  live : d.handle.isSome = true
  target : (d.target == alpha) = true
  first : d.isAnimating = true → d.timeline.FirstToFinish proposals

/-- A request for the alpha that a dimmer heads for commits only to outrun a fade in progress. -/
theorem Dimmer.outrun_of_commits {d : Dimmer} {request : PresentRequest} {now : Float}
    (h : d.commits request now = true) (h_same : (d.target == request.alpha) = true) :
    d.isAnimating = true ∧ d.timeline.outrunBy request.duration now = true := by
  unfold commits at h
  split at h
  · next h_animating =>
    rw [bne, h_same] at h
    exact ⟨h_animating, h⟩
  · next h_idle =>
    -- the dimmer is where it heads for, and so where it is asked to be
    rw [isAnimating, bne, Bool.not_eq_true, Bool.not_eq_false'] at h_idle
    rw [bne, Number.beq_trans (Number.beq_symm h_idle) h_same] at h
    exact Bool.noConfusion h

section Heading

variable {w : Surroundings} {d d' : Dimmer} {alpha now : Float} {proposals : List Timeline}
  {past : List Float}

/-- What does not outrun a fade in progress ends no earlier. -/
theorem Sound.finish_le (h : Sound d past) (h_past : Chronological past)
    (h_animating : d.isAnimating = true) {duration : Float}
    (h_outrun : d.timeline.outrunBy duration now = false) (h_now : now ∈ past)
    (h_duration : AcceptedDuration duration) : d.timeline.finish ≤ now + duration := by
  have h_fading := h.fading h_animating
  have h_finish : d.timeline.finish.isNaN = false :=
    (lies_toModel_add (h_past.finite _ h_fading.started) h_fading.duration_finite).isNaN_eq
  have h_sum : (now + duration).isNaN = false :=
    (lies_toModel_add (h_past.finite _ h_now) h_duration.isFinite).isNaN_eq
  exact Number.le_of_not_lt h_finish h_sum (of_decide_eq_false h_outrun)

/-- A request for the alpha that the dimmer heads for is followed exactly if it ends earlier. -/
theorem Heading.presented {request : PresentRequest} (h : Heading alpha proposals d)
    (h_sound : Sound d past) (h_past : Chronological past) (h_now : now ∈ past)
    (h_request : request.Accepted) (h_alpha : (request.alpha == alpha) = true)
    (h_presented : Presented w d request now d') :
    Heading alpha (proposals ++ [⟨d.alpha, now, request.duration⟩]) d' := by
  have h_same : (d.target == request.alpha) = true :=
    Number.beq_trans h.target (Number.beq_symm h_alpha)
  refine ⟨?_, ?_, ?_⟩
  · rw [h_presented.handle_eq]
    exact h.live
  · rw [h_presented.target_eq]
    exact h_alpha
  intro h_animating
  cases h_presented with
  | kept footprint h_commits =>
    -- not committed: either the fade in progress is no slower, or there is none to make
    rcases Dimmer.beq_of_not_commits h_commits with ⟨h_before, -, h_outrun⟩ | ⟨-, h_there⟩
    · exact (h.first h_before).kept
        (h_sound.finish_le h_past h_before h_outrun h_now h_request.duration)
    · exact absurd h_animating (Dimmer.not_isAnimating (Number.beq_symm h_there))
  | jumped footprint reached h_commits h_instant h_applied =>
    have h_there := h_applied.alpha_beq h_request.alpha.isNaN
    exact absurd h_animating (Dimmer.not_isAnimating (Number.beq_symm h_there))
  | started footprint h_commits h_lasting =>
    -- the target is the same, so what made it commit is that it ends earlier
    obtain ⟨h_before, h_outrun⟩ := Dimmer.outrun_of_commits h_commits h_same
    exact (h.first h_before).overtaken (of_decide_eq_true h_outrun)

theorem Heading.applied {reached : Float} (h : Heading alpha proposals d)
    (h_animating : d.isAnimating = true) (h_applied : Applied w d reached d') :
    Heading alpha proposals d' := by
  refine ⟨?_, ?_, ?_⟩
  · rw [h_applied.handle_eq]
    exact h.live
  · rw [h_applied.target_eq]
    exact h.target
  · intro _
    rw [h_applied.timeline_eq]
    exact h.first h_animating

theorem Dimmer.proposal?_of_duration? {s : Step} {duration : Float}
    (h : s.operation.duration? = some duration) {n : Nat}
    (h_readings : (d.turn s).readings = n + 1) :
    d.proposal? s = some ⟨d.alpha, s.surroundings.reading n, duration⟩ := by
  rw [proposal?, h, h_readings]
  rfl

section Present

variable {handle : Handle} {layer target duration : Value} {request : PresentRequest}

theorem Dimmer.readings_turn_present (hw : w.Describable) (h_handle : d.handle = some handle)
    (h_check : PresentRequest.check layer target duration = .ok request) :
    (d.turn ⟨.present layer target duration, w⟩).readings = 0 + 1 := by
  rw [turn_present h_check]
  exact Turn.readings_present (t := { dimmer := d }) h_handle (Turn.going_present hw rfl request)

/-- What an accepted present request proposes. -/
theorem Dimmer.proposal?_of_present (hw : w.Describable) (h_handle : d.handle = some handle)
    (h_check : PresentRequest.check layer target duration = .ok request) :
    d.proposal? ⟨.present layer target duration, w⟩
      = some ⟨d.alpha, w.reading 0, request.duration⟩ := by
  have h_duration :
      (Operation.present layer target duration).duration? = some request.duration := by
    rw [Operation.duration?, h_check]
    rfl
  exact proposal?_of_duration? (s := ⟨_, w⟩) h_duration
    (readings_turn_present hw h_handle h_check)

/-- A present request for the alpha that the dimmer heads for. -/
theorem Heading.present (h : Heading alpha proposals d) (h_sound : Sound d past)
    (hw : w.Describable) (h_check : PresentRequest.check layer target duration = .ok request)
    (h_alpha : (request.alpha == alpha) = true)
    (h_clock : Chronological
      (past ++ (d.turn ⟨.present layer target duration, w⟩).taken w)) :
    Heading alpha (proposals ++ (d.proposal? ⟨.present layer target duration, w⟩).toList)
      (d.turn ⟨.present layer target duration, w⟩).dimmer := by
  obtain ⟨handle, h_handle⟩ := Option.isSome_iff_exists.mp h.live
  have h_readings := Dimmer.readings_turn_present hw h_handle h_check
  -- the one reading of the clock is the time of the proposal
  rw [Turn.taken_of_readings_eq_one h_readings] at h_clock
  rw [Dimmer.proposal?_of_present hw h_handle h_check, Dimmer.turn_present h_check]
  refine h.presented (h_sound.mono _) h_clock ?_ (PresentRequest.check_accepted h_check) h_alpha
    (Turn.presented (t := { dimmer := d }) h_handle (Turn.going_present hw rfl request))
  exact List.mem_append_right _ (List.mem_singleton_self _)

/-- A dimmer that has just started a timeline follows the only one proposed. -/
theorem Heading.started (hw : w.Describable) (h_handle : d.handle = some handle)
    (h_check : PresentRequest.check layer target duration = .ok request)
    (h_commits : d.commits request (w.reading 0) = true) (h_lasting : 0 < request.duration) :
    Heading request.alpha (d.proposal? ⟨.present layer target duration, w⟩).toList
      (d.turn ⟨.present layer target duration, w⟩).dimmer := by
  rw [Dimmer.proposal?_of_present hw h_handle h_check, Dimmer.turn_present h_check]
  have h_presented := Turn.presented (t := { dimmer := d }) h_handle
    (Turn.going_present hw rfl request)
  refine ⟨?_, ?_, ?_⟩
  · rw [h_presented.handle_eq, h_handle]
    rfl
  · rw [h_presented.target_eq]
    exact Number.beq_refl (PresentRequest.check_accepted h_check).alpha.isNaN
  intro _
  generalize (Turn.present { dimmer := d } w request).dimmer = d' at h_presented ⊢
  -- it commits and lasts, so of the three outcomes only the last is left
  cases h_presented with
  | kept footprint h_kept => cases h_commits.symm.trans h_kept
  | jumped footprint reached _ h_instant _ => exact absurd h_instant (Number.not_le_of_lt h_lasting)
  | started footprint => exact Timeline.FirstToFinish.singleton _

end Present

/-- Fading out, when the dimmer is fading out already. -/
theorem Heading.fadeOut {t : Turn} (h : Heading alpha proposals t.dimmer)
    (h_sound : Sound t.dimmer past) (hw : w.Describable) (h_going : t.failure = none)
    (h_past : Chronological past) (h_now : t.now w ∈ past)
    (h_zero : (0 == alpha) = true) {duration : Float} (h_duration : AcceptedDuration duration) :
    Heading alpha (proposals ++ [⟨t.dimmer.alpha, t.now w, duration⟩])
      (t.fadeOut w duration).dimmer := by
  obtain ⟨handle, h_handle⟩ := Option.isSome_iff_exists.mp h.live
  obtain ⟨message, h_fadeOut⟩ := Turn.fadeOut_eq t w duration
  rw [h_fadeOut]
  have h_request : PresentRequest.Accepted
      { layer := t.dimmer.footprint.layer, alpha := 0, duration } := ⟨inUnit_zero, h_duration⟩
  exact h.presented h_sound h_past h_now h_request h_zero
    (Turn.presented (t := t.debug message) h_handle
      (Turn.going_present (t := t.debug message) hw h_going _))

theorem Turn.readings_fadeOut {t : Turn} {handle : Handle} (hw : w.Describable)
    (h_handle : t.dimmer.handle = some handle) (h_going : t.failure = none) (duration : Float) :
    (t.fadeOut w duration).readings = t.readings + 1 := by
  obtain ⟨message, h_fadeOut⟩ := Turn.fadeOut_eq t w duration
  rw [h_fadeOut]
  exact Turn.readings_present (t := t.debug message) h_handle
    (Turn.going_present (t := t.debug message) hw h_going _)

/-- A dismissal, when the dimmer heads for zero. -/
theorem Heading.dismiss {duration : Value} {request : DismissRequest}
    (h : Heading alpha proposals d) (h_sound : Sound d past) (h_visible : Visible d)
    (hw : w.Describable) (h_check : DismissRequest.check duration = .ok request)
    (h_zero : (0 == alpha) = true)
    (h_clock : Chronological (past ++ (d.turn ⟨.dismiss duration, w⟩).taken w)) :
    Heading alpha (proposals ++ (d.proposal? ⟨.dismiss duration, w⟩).toList)
      (d.turn ⟨.dismiss duration, w⟩).dimmer := by
  obtain ⟨handle, h_handle⟩ := Option.isSome_iff_exists.mp h.live
  have h_target : (d.target == 0) = true := Number.beq_trans h.target (Number.beq_symm h_zero)
  have h_duration : (Operation.dismiss duration).duration? = some request.duration := by
    rw [Operation.duration?, h_check]
    rfl
  have h_accepted := DismissRequest.check_accepted h_check
  have h_turn := Dimmer.turn_dismiss h_check d w
  let t : Turn := { dimmer := d }
  by_cases h_showing : d.showing = true
  · have h_heads : ¬(d.target != 0) = true := by
      rw [bne, h_target]
      exact Bool.false_ne_true
    rw [Turn.dismiss_of_showing (t := t) h_handle h_showing, if_neg h_heads] at h_turn
    split at h_turn
    · next h_outrun =>
      -- outrun at the first reading, and measured again at the second
      have h_readings : (d.turn ⟨.dismiss duration, w⟩).readings = 1 + 1 := by
        rw [h_turn]
        exact Turn.readings_fadeOut (t := t.tookReading) hw h_handle rfl request.duration
      have h_taken : (d.turn ⟨.dismiss duration, w⟩).taken w = [w.reading 0, w.reading 1] := by
        rw [Turn.taken, h_readings]
        rfl
      rw [h_taken] at h_clock
      rw [Dimmer.proposal?_of_duration? (s := ⟨_, w⟩) h_duration h_readings, h_turn]
      refine Heading.fadeOut (t := t.tookReading) h (h_sound.mono _) hw rfl h_clock ?_ h_zero
        h_accepted
      exact List.mem_append_right _ (List.mem_cons_of_mem _ (List.mem_singleton_self _))
    · next h_outrun =>
      -- not outrun at the only reading
      have h_readings : (d.turn ⟨.dismiss duration, w⟩).readings = 0 + 1 := by
        rw [h_turn]
        rfl
      rw [Turn.taken_of_readings_eq_one h_readings] at h_clock
      rw [Dimmer.proposal?_of_duration? (s := ⟨_, w⟩) h_duration h_readings, h_turn]
      have h_animating := h_visible.isAnimating h_showing h_target
      have h_le := (h_sound.mono [w.reading 0]).finish_le h_clock h_animating
        (Bool.eq_false_of_not_eq_true h_outrun)
        (List.mem_append_right _ (List.mem_singleton_self _)) h_accepted
      exact ⟨h.live, h.target, fun _ => (h.first h_animating).kept h_le⟩
  · -- the dimmer is there already, and the request is ignored
    have h_hidden := Bool.eq_false_of_not_eq_true h_showing
    rw [Turn.dismiss_of_hidden (t := t) h_handle h_hidden] at h_turn
    rw [h_turn]
    refine ⟨h.live, h.target, ?_⟩
    intro h_animating
    have h_alpha := h_visible.alpha_beq_zero h_sound.alpha h_hidden
    exact absurd h_animating
      (Dimmer.not_isAnimating (Number.beq_trans h_target (Number.beq_symm h_alpha)))

/-- **Each tick, and each request for the same alpha, keeps to the first to finish.** -/
theorem Heading.turn {s : Step} (h : Heading alpha proposals d) (h_sound : Sound d past)
    (h_visible : Visible d) (hw : s.surroundings.Describable) (h_same : s.Same alpha)
    (h_clock : Chronological (past ++ (d.turn s).taken s.surroundings)) :
    Heading alpha (proposals ++ (d.proposal? s).toList) (d.turn s).dimmer := by
  cases h_same with
  | advance w =>
    change Heading alpha (proposals ++ []) _
    rw [List.append_nil]
    have h_course := d.course ⟨.advance, w⟩
    have h_going := d.going_turn (s := ⟨.advance, w⟩) hw
    generalize d.turn ⟨.advance, w⟩ = t at h_course h_going ⊢
    cases h_course with
    | idle t h_idle =>
      rw [h_idle]
      exact h
    | collapsed t h_handle h_rest =>
      have h_live := h.live
      rw [h_handle] at h_live
      cases h_live
    -- a tick makes no request
    | presented t handle request h_handle h_idle h_arises => cases h_arises
    | advanced t handle h_handle h_operation h_animating h_readings h_applied =>
      exact h.applied h_animating h_applied
    | cutShort t handle footprint h_handle h_ended => exact absurd h_going h_ended
    | released t h_operation h_rest => cases h_operation
  | present w h_check h_alpha => exact h.present h_sound hw h_check h_alpha h_clock
  | dismiss w h_check h_zero => exact h.dismiss h_sound h_visible hw h_check h_zero h_clock

end Heading

/-- Ticks and requests for the same alpha keep to the first to finish. -/
theorem Heading.after {alpha : Float} {proposals : List Timeline} {d : Dimmer} {past : List Float}
    {steps : List Step} (h : Heading alpha proposals d) (h_sound : Sound d past)
    (h_visible : Visible d) (h_same : ∀ s ∈ steps, s.Same alpha)
    (h_accepting : ∀ s ∈ steps, s.surroundings.Accepting)
    (h_clock : Chronological (past ++ d.clock steps)) :
    Heading alpha (proposals ++ d.proposals steps) (d.after steps) := by
  -- on the steps; the proposals and the readings behind the dimmer grow along
  induction steps generalizing d proposals past with
  | nil =>
    rw [Dimmer.proposals, List.append_nil]
    exact h
  | cons s rest ih =>
    have h_mem := List.mem_cons_self (a := s) (l := rest)
    rw [Dimmer.clock, ← List.append_assoc] at h_clock
    rw [Dimmer.proposals, ← List.append_assoc]
    have h_turn := h.turn h_sound h_visible (h_accepting s h_mem).describable (h_same s h_mem)
      h_clock.left
    exact ih h_turn (h_sound.turn h_clock.left)
      (h_visible.turn h_sound (h_accepting s h_mem) h_clock.left)
      (fun s' hs' => h_same s' (List.mem_cons_of_mem s hs'))
      (fun s' hs' => h_accepting s' (List.mem_cons_of_mem s hs')) h_clock

/-! ### After a timeline was started -/

/-- **A dimmer follows the first to finish of the requests for its target.** The dimmer is any that
a run with a proper clock and no refusals leads to and that has a surface. A present request has it
start a timeline; ticks follow, and requests for an equal alpha. As long as the dimmer is animating,
its timeline is the one proposed by the request that ends the earliest, and of several with the same
end by the first of them. -/
theorem Dimmer.firstToFinish_of_run (options : Options) (display : Float)
    (admission : SurfaceRequest → Except Failure Handle) (refusal : Primitive → Option Failure)
    (before after : List Step) (w : Surroundings) (layer alpha duration : Value)
    (request : PresentRequest)
    (h_accepting : ∀ s ∈ before ++ ⟨.present layer alpha duration, w⟩ :: after,
      s.surroundings.Accepting)
    (h_check : PresentRequest.check layer alpha duration = .ok request)
    (h_same : ∀ s ∈ after, s.Same request.alpha) :
    let d := (new options display admission refusal).after before
    let steps := ⟨.present layer alpha duration, w⟩ :: after
    Chronological ((new options display admission refusal).clock before ++ d.clock steps) →
    d.handle.isSome = true → d.commits request (w.reading 0) = true → 0 < request.duration →
    (d.after steps).isAnimating = true →
    (d.after steps).timeline.FirstToFinish (d.proposals steps) := by
  intro d steps h_clock h_live h_commits h_lasting h_animating
  obtain ⟨handle, h_handle⟩ := Option.isSome_iff_exists.mp h_live
  have h_before (s : Step) (hs : s ∈ before) := h_accepting s (List.mem_append_left _ hs)
  have h_after (s : Step) (hs : s ∈ steps) := h_accepting s (List.mem_append_right _ hs)
  have h_sound : Sound d ((new options display admission refusal).clock before) :=
    (sound_new options display admission refusal).after h_clock.left
  have h_visible : Visible d := (visible_new options display admission refusal).after
    (sound_new options display admission refusal) h_before h_clock.left
  -- the readings of the first request come before those of the rest
  rw [clock, ← List.append_assoc] at h_clock
  have h_mem := List.mem_cons_self (a := ⟨.present layer alpha duration, w⟩) (l := after)
  have h_heading := Heading.started (h_after _ h_mem).describable h_handle h_check h_commits
    h_lasting
  have h_next : Visible (d.turn ⟨.present layer alpha duration, w⟩).dimmer :=
    h_visible.turn h_sound (h_after _ h_mem) h_clock.left
  exact (h_heading.after (h_sound.turn h_clock.left) h_next h_same
    (fun s' hs' => h_after s' (List.mem_cons_of_mem _ hs')) h_clock).first h_animating

/-- Ticks during a fade-out, and requests for zero that would end it after 700, 700 and 1400 ms. -/
def Dimmer.hastenedFadeOut : List Step :=
  [⟨.advance, .calm 100⟩, ⟨.dismiss (.number 500), .calm 200⟩,
    ⟨.present (.number 6) (.number 0) (.number 400), .calm 300⟩, ⟨.advance, .calm 400⟩,
    ⟨.dismiss (.number 1000), .calm 400⟩]

/-- A fade-out of one second that is asked to end after 700 ms does so, and it follows the first of
the two requests that asked for it. -/
theorem Dimmer.firstToFinish_of_hastenedFadeOut :
    let shown := fresh.after [⟨.present (.number 5) (.number 0.8) (.number 0), .calm 0⟩]
    let steps := ⟨.present (.number 5) (.number 0) (.number 1000), .calm 0⟩ :: hastenedFadeOut
    (shown.after steps).timeline.FirstToFinish (shown.proposals steps) ∧
      ((shown.after steps).timeline.startTime == 200) = true ∧
      ((shown.after steps).timeline.finish == 700) = true := by
  intro shown steps
  have h_check : PresentRequest.check (.number 5) (.number 0) (.number 1000)
    = .ok { layer := 5, alpha := 0, duration := 1000 } := rfl
  have h_accepting : ∀ s ∈ [⟨.present (.number 5) (.number 0.8) (.number 0), .calm 0⟩] ++ steps,
      s.surroundings.Accepting := by
    intro s hs
    simp only [steps, hastenedFadeOut, List.cons_append, List.nil_append, List.mem_cons,
      List.not_mem_nil, or_false] at hs
    rcases hs with rfl | rfl | rfl | rfl | rfl | rfl | rfl <;> exact Surroundings.accepting_calm _
  -- each later step is a tick or heads for zero again
  have h_same : ∀ s ∈ hastenedFadeOut, s.Same 0 := by
    have h_first : DismissRequest.check (.number 500) = .ok { duration := 500 } := rfl
    have h_second : PresentRequest.check (.number 6) (.number 0) (.number 400)
      = .ok { layer := 6, alpha := 0, duration := 400 } := rfl
    have h_third : DismissRequest.check (.number 1000) = .ok { duration := 1000 } := rfl
    have h_zero := Number.beq_refl inUnit_zero.isNaN
    intro s hs
    simp only [hastenedFadeOut, List.mem_cons, List.not_mem_nil, or_false] at hs
    rcases hs with rfl | rfl | rfl | rfl | rfl
    · exact .advance _
    · exact .dismiss _ h_first h_zero
    · exact .present _ h_second h_zero
    · exact .advance _
    · exact .dismiss _ h_third h_zero
  have h_clock : Chronological
      (fresh.clock [⟨.present (.number 5) (.number 0.8) (.number 0), .calm 0⟩]
        ++ shown.clock steps) := ⟨by decide +kernel, by decide +kernel⟩
  have h_live : shown.handle.isSome = true := by decide +kernel
  have h_animating : (shown.after steps).isAnimating = true := by decide +kernel
  have h_first := firstToFinish_of_run _ _ _ _ _ hastenedFadeOut (.calm 0) _ _ _ _ h_accepting
    h_check h_same h_clock h_live (by decide +kernel) (by decide +kernel) h_animating
  exact ⟨h_first, by decide +kernel, by decide +kernel⟩

end Scrim

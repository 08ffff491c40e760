import Scrim.Proofs.Dimmer.Creation
import Scrim.Proofs.Dimmer.Refusal

/-!
# Recasting a dimmer

A dimmer never looks into its hold on a surface. It asks whether there is one, and passes
primitives on through it. If another hold passes on the same primitives, with other words, a dimmer
with that hold does the same with other words.

A `Recasting` tells which hold stands for which and what becomes of each event. It `Carries` a hold
if issuing a primitive through the other one reads as the recast of issuing it through this one.
That is all there is to check: a dimmer whose hold is carried takes the recast turn at each step,
and answers the same (`Recasting.turn_step`, `Recasting.answer_eq`), so that its events in a whole
run are recast one by one (`Recasting.run_eq`). The same goes for its creation, if that is given the
other hold (`Recasting.create`).
-/

namespace Scrim

/-- Another hold for each hold, and what becomes of each event. -/
structure Recasting where
  handle : Handle → Handle
  event : Event → List Event
  /-- What is logged is logged still. -/
  event_log : ∀ line, event (.log line) = [.log line]
  event_refused : ∀ request failure,
    event (.requested request (some failure)) = [.requested request (some failure)]
  event_opened : event .opened = [.opened]
  event_closed : event .closed = [.closed]

namespace Recasting

variable (r : Recasting)

/-- Issuing a primitive through the other hold reads as the recast of issuing it through this
one. -/
def Carries (handle : Handle) : Prop :=
  ∀ primitive refusal,
    (r.handle handle).issue primitive refusal = (handle.issue primitive refusal).flatMap r.event

def outcome (outcome : Block.Outcome) : Block.Outcome :=
  { outcome with events := outcome.events.flatMap r.event }

def dimmer (d : Dimmer) : Dimmer :=
  { d with handle := d.handle.map r.handle }

def turn (t : Turn) : Turn :=
  { t with dimmer := r.dimmer t.dimmer, events := t.events.flatMap r.event }

/-! ### Blocks -/

variable {r} {handle : Handle}

theorem flatMap_say (level : Level) (message : String) :
    [Event.say level message].flatMap r.event = [.say level message] :=
  (List.flatMap_singleton ..).trans (r.event_log _)

theorem outcome_after (events : List Event) (outcome : Block.Outcome) :
    r.outcome (outcome.after events) = (r.outcome outcome).after (events.flatMap r.event) := by
  unfold Block.Outcome.after Recasting.outcome
  rw [List.flatMap_append]

theorem run (h : r.Carries handle) (refusal : Primitive → Option Failure)
    (acts : List Block.Act) :
    Block.run refusal (r.handle handle) acts = r.outcome (Block.run refusal handle acts) := by
  induction acts with
  | nil => rfl
  | cons act rest ih =>
    cases act with
    | note message =>
      -- a remark is recast into itself
      have h_note := outcome_after (r := r) [.say .debug message] (Block.run refusal handle rest)
      rw [← ih, flatMap_say] at h_note
      exact h_note.symm
    | issue primitive =>
      cases h_refusal : refusal primitive with
      | none =>
        rw [Block.run_issue_of_accepted h_refusal, Block.run_issue_of_accepted h_refusal, ih,
          outcome_after, h]
      | some failure =>
        -- the block ends with the recast call
        rw [Block.run_issue_of_refused h_refusal, Block.run_issue_of_refused h_refusal, h]
        rfl
    | raise value => rfl

theorem reported (context : String) (outcome : Block.Outcome) :
    (r.outcome outcome).reported context = (outcome.reported context).flatMap r.event := by
  obtain ⟨events, failure⟩ := outcome
  cases failure with
  | none => rfl
  | some failure =>
    unfold Block.Outcome.reported Recasting.outcome
    dsimp only
    rw [List.flatMap_append, List.flatMap_singleton, r.event_log]

/-! ### The steps of a turn -/

section Turn

variable (t : Turn) (w : Surroundings)

theorem emit (events : List Event) :
    (r.turn t).emit (events.flatMap r.event) = r.turn (t.emit events) := by
  unfold Turn.emit Recasting.turn
  rw [List.flatMap_append]

theorem say (level : Level) (message : String) :
    (r.turn t).say level message = r.turn (t.say level message) := by
  rw [Turn.say, Turn.say, ← emit, flatMap_say]

theorem debug (message : String) : (r.turn t).debug message = r.turn (t.debug message) :=
  say t .debug message

theorem guard (h : r.Carries handle) (g : Guarded) :
    (r.turn t).guard w (r.handle handle) g = r.turn (t.guard w handle g) := by
  -- what can be told of a failure does not depend on the events before it
  rw [Turn.guard, Turn.guard, Turn.attempt, Turn.attempt, run h, reported, emit]
  rfl

/-- To go on or not does not depend on the hold. -/
theorem andThen {next next' : Turn → Turn} (h_next : ∀ t', next' (r.turn t') = r.turn (next t')) :
    (r.turn t).andThen next' = r.turn (t.andThen next) := by
  by_cases h_going : t.failure = none
  · rw [Turn.andThen_of_going h_going, Turn.andThen_of_going (t := r.turn t) h_going, h_next]
  · rw [Turn.andThen_of_ended h_going, Turn.andThen_of_ended (t := r.turn t) h_going]

theorem andThen_update {change : Dimmer → Dimmer}
    (h_change : ∀ d, change (r.dimmer d) = r.dimmer (change d)) :
    (r.turn t).andThen (Turn.update · change) = r.turn (t.andThen (Turn.update · change)) :=
  andThen t fun t' => congrArg (fun d => { r.turn t' with dimmer := d }) (h_change t'.dimmer)

theorem collapse (operation : String) :
    (r.turn t).collapse operation = r.turn (t.collapse operation) := by
  rw [Turn.collapse, Turn.collapse, say]
  rfl

theorem place (h : r.Carries handle) (layer : Float) :
    (r.turn t).place w (r.handle handle) layer = r.turn (t.place w handle layer) := by
  cases h_display : w.display with
  | none =>
    rw [Turn.place_of_unseen h_display, Turn.place_of_unseen h_display]
    exact say ..
  | some size =>
    cases h_differs : t.dimmer.footprint.differs (Placing.mk size layer).footprint with
    | false =>
      rw [Turn.place_of_same h_display h_differs,
        Turn.place_of_same (t := r.turn t) h_display h_differs]
    | true =>
      -- whether the footprint is kept depends on whether the block is cut short, not on the hold
      rw [Turn.place_of_differs h_display h_differs,
        Turn.place_of_differs (t := r.turn t) h_display h_differs, guard t w h]
      exact andThen_update _ fun _ => rfl

theorem applyAlpha (h : r.Carries handle) (alpha : Float) :
    (r.turn t).applyAlpha w (r.handle handle) alpha = r.turn (t.applyAlpha w handle alpha) := by
  cases h_alpha : t.dimmer.alpha == alpha with
  | true =>
    rw [Turn.applyAlpha_of_inPlace h_alpha, Turn.applyAlpha_of_inPlace (t := r.turn t) h_alpha]
  | false =>
    rw [Turn.applyAlpha_of_ne h_alpha, Turn.applyAlpha_of_ne (t := r.turn t) h_alpha, debug,
      guard _ w h]
    exact andThen_update _ fun _ => rfl

theorem commit (h : r.Carries handle) (request : PresentRequest) (now : Float) :
    (r.turn t).commit w (r.handle handle) request now
      = r.turn (t.commit w handle request now) := by
  unfold Turn.commit
  rw [applyAlpha t w h, apply_ite r.turn]
  rfl

theorem tookReading : (r.turn t).tookReading = r.turn t.tookReading := rfl

theorem consider (h : r.Carries handle) (request : PresentRequest) :
    (r.turn t).consider w (r.handle handle) request = r.turn (t.consider w handle request) := by
  unfold Turn.consider
  rw [tookReading, show (r.turn t).now w = t.now w from rfl, commit _ w h, apply_ite r.turn]
  rfl

theorem logTimeline : (r.turn t).logTimeline = r.turn t.logTimeline :=
  debug t _

/-! ### Operations -/

/-- Whether there is a hold does not depend on which. -/
theorem held {hold : Option Handle} {lost lost' : Turn} {kept kept' : Handle → Turn}
    (h_lost : lost' = r.turn lost) :
    (∀ handle ∈ hold, kept' (r.handle handle) = r.turn (kept handle)) →
      (match hold.map r.handle with
        | none => lost'
        | some handle => kept' handle)
      = r.turn (match hold with
        | none => lost
        | some handle => kept handle) := by
  intro h_kept
  cases hold with
  | none => exact h_lost
  | some handle => exact h_kept handle rfl

variable {t} (h : ∀ handle ∈ t.dimmer.handle, r.Carries handle)

include h

theorem present (request : PresentRequest) :
    (r.turn t).present w request = r.turn (t.present w request) := by
  unfold Turn.present
  dsimp only
  rw [debug]
  refine held (collapse ..) fun handle h_handle => ?_
  rw [place _ w (h handle h_handle)]
  refine andThen _ fun placed => ?_
  rw [consider _ w (h handle h_handle)]
  refine andThen _ fun considered => ?_
  rw [logTimeline]
  rfl

theorem fadeOut (duration : Float) :
    (r.turn t).fadeOut w duration = r.turn (t.fadeOut w duration) := by
  unfold Turn.fadeOut
  rw [debug]
  exact present w (t := t.debug _) h _

theorem dismiss (request : DismissRequest) :
    (r.turn t).dismiss w request = r.turn (t.dismiss w request) := by
  unfold Turn.dismiss
  refine held (collapse ..) fun handle _ => ?_
  rw [tookReading, fadeOut w h, fadeOut w (t := t.tookReading) h]
  simp only [apply_ite r.turn]
  rfl

theorem hideNow : (r.turn t).hideNow w = r.turn (t.hideNow w) := by
  unfold Turn.hideNow
  refine held (collapse ..) fun handle _ => ?_
  rw [debug, dismiss w (t := t.debug _) h, apply_ite r.turn]
  rfl

theorem jumpToEnd : (r.turn t).jumpToEnd w = r.turn (t.jumpToEnd w) := by
  unfold Turn.jumpToEnd
  refine held (collapse ..) fun handle _ => ?_
  rw [debug, present w (t := t.debug _) h, apply_ite r.turn]
  rfl

theorem advance : (r.turn t).advance w = r.turn (t.advance w) := by
  unfold Turn.advance
  refine held (collapse ..) fun handle h_handle => ?_
  dsimp only
  rw [tookReading, show (r.turn t).now w = t.now w from rfl, debug,
    applyAlpha _ w (h handle h_handle), apply_ite r.turn]
  rfl

theorem release : (r.turn t).release w = r.turn (t.release w) := by
  unfold Turn.release
  refine held rfl fun handle h_handle => ?_
  dsimp only
  rw [debug]
  -- the hold is let go before the surface is destroyed
  exact guard ((t.debug "release: destroying surface").update
    fun d => { d.collapsed with handle := none, showing := false }) w (h handle h_handle) .ending

end Turn

/-! ### Steps -/

variable {d : Dimmer} (h : ∀ handle ∈ d.handle, r.Carries handle)

include h

theorem perform (w : Surroundings) (operation : Operation) :
    (r.dimmer d).perform w operation
      = (r.turn (d.perform w operation).1, (d.perform w operation).2) := by
  -- an operation answers by what its turn came to, which recasting leaves alone
  have h_told {t t' : Turn} (h_eq : t' = r.turn t) :
      (t', t'.answer none) = (r.turn t, t.answer none) := by
    rw [h_eq]
    rfl
  have h_turn : ∀ handle ∈ ({ dimmer := d } : Turn).dimmer.handle, r.Carries handle := h
  cases operation with
  | present layer alpha duration =>
    dsimp only [Dimmer.perform]
    cases PresentRequest.check layer alpha duration with
    | error failure => rfl
    | ok request => exact h_told (present w h_turn request)
  | dismiss duration =>
    dsimp only [Dimmer.perform]
    cases DismissRequest.check duration with
    | error failure => rfl
    | ok request => exact h_told (dismiss w h_turn request)
  | hideNow => exact h_told (hideNow w h_turn)
  | jumpToEnd => exact h_told (jumpToEnd w h_turn)
  | advance =>
    have h_advance : Turn.advance { dimmer := r.dimmer d } w
        = r.turn (Turn.advance { dimmer := d } w) := advance w h_turn
    dsimp only [Dimmer.perform]
    rw [h_advance]
    rfl
  | release => exact h_told (release w h_turn)

/-- **A dimmer with the other hold takes the recast turn.** -/
theorem turn_step (s : Step) : (r.dimmer d).turn s = r.turn (d.turn s) :=
  congrArg Prod.fst (perform h s.surroundings s.operation)

/-- What it answers does not depend on the hold. -/
theorem answer_eq (s : Step) : (r.dimmer d).answer s = d.answer s :=
  (congrArg Prod.snd (perform h s.surroundings s.operation)).trans rfl

/-- **Nothing but the words of a run depends on the hold**: the states are the recast ones, and so
are the events; the readings that are taken and the answers are the same. -/
theorem run_eq (steps : List Step) :
    (r.dimmer d).after steps = r.dimmer (d.after steps) ∧
      (r.dimmer d).events steps = (d.events steps).flatMap r.event ∧
      (r.dimmer d).clock steps = d.clock steps ∧
      (r.dimmer d).outcomes steps = (d.outcomes steps).map (Prod.map r.dimmer id) := by
  induction steps generalizing d with
  | nil => exact ⟨rfl, rfl, rfl, rfl⟩
  | cons s rest ih =>
    -- a hold that the dimmer still has is the one that it had
    have h_next : ∀ handle ∈ (d.turn s).dimmer.handle, r.Carries handle := fun handle h_handle =>
      h handle ((d.moves s).handle_eq_some h_handle)
    obtain ⟨h_after, h_events, h_clock, h_outcomes⟩ := ih h_next
    have h_turn := turn_step h s
    have h_dimmer : ((r.dimmer d).turn s).dimmer = r.dimmer (d.turn s).dimmer :=
      congrArg Turn.dimmer h_turn
    refine ⟨?_, ?_, ?_, ?_⟩
    · rw [Dimmer.after, h_dimmer, h_after]
      rfl
    · rw [Dimmer.events, h_dimmer, h_events, h_turn, Dimmer.events, List.flatMap_append]
      rfl
    · rw [Dimmer.clock, h_dimmer, h_clock, h_turn]
      rfl
    · rw [Dimmer.outcomes, h_dimmer, h_outcomes, answer_eq h]
      rfl

omit h

/-! ### Creation -/

/-- What the other hold is given for is the recast of what this one was. -/
theorem adoption {options options' : Options} {display : Float}
    {refusal : Primitive → Option Failure} {given given' : Handle}
    (h : r.Carries (Dimmer.hold options given))
    (h_hold : Dimmer.hold options' given' = r.handle (Dimmer.hold options given)) :
    Dimmer.adoption options' display refusal given'
      = Dimmer.noted options' given' ++ (((Dimmer.hold options given).issue (.layerStack display)
          (refusal (.layerStack display))
        ++ (refusal (.layerStack display)).toList.map Dimmer.complaint).flatMap r.event) := by
  have h_complaints : ((refusal (.layerStack display)).toList.map Dimmer.complaint).flatMap r.event
      = (refusal (.layerStack display)).toList.map Dimmer.complaint := by
    cases refusal (.layerStack display) with
    | none => rfl
    | some failure => exact (List.flatMap_singleton ..).trans (r.event_log _)
  rw [Dimmer.adoption, h_hold, h, List.flatMap_append, h_complaints]

/-- **A dimmer that is given the other hold is created as the recast says.** What is noted of the
surface may differ, but then the recast of having been given it says so. -/
theorem create {options options' : Options}
    {admission admission' : SurfaceRequest → Except Failure Handle}
    (h_request : Dimmer.request options' = Dimmer.request options)
    (h_refused : ∀ failure, admission (Dimmer.request options) = .error failure →
      admission' (Dimmer.request options) = .error failure)
    (h_granted : ∀ given, admission (Dimmer.request options) = .ok given →
      ∃ given', admission' (Dimmer.request options) = .ok given' ∧
        r.Carries (Dimmer.hold options given) ∧
        Dimmer.hold options' given' = r.handle (Dimmer.hold options given) ∧
        .requested (Dimmer.request options) none :: Dimmer.noted options' given'
          = (.requested (Dimmer.request options) none :: Dimmer.noted options given).flatMap
              r.event)
    (display : Float) (refusal : Primitive → Option Failure) :
    Dimmer.create options' display admission' refusal
      = r.turn (Dimmer.create options display admission refusal) := by
  cases h_admission : admission (Dimmer.request options) with
  | error failure =>
    have h_admission' := h_refused failure h_admission
    rw [← h_request] at h_admission'
    rw [Dimmer.create_of_refused _ _ _ _ h_admission,
      Dimmer.create_of_refused _ _ _ _ h_admission', h_request]
    unfold turn
    simp only [List.flatMap_cons, Event.say, Dimmer.complaint, r.event_log, r.event_opened,
      r.event_refused, r.event_closed]
    rfl
  | ok given =>
    obtain ⟨given', h_admission', h_carries, h_hold, h_noted⟩ := h_granted given h_admission
    rw [← h_request] at h_admission'
    rw [Dimmer.create_of_granted _ _ _ _ h_admission,
      Dimmer.create_of_granted _ _ _ _ h_admission', h_request, adoption h_carries h_hold, h_hold]
    let opening : List Event :=
      [.say .debug s!"ctor: displayId={Number.text display}", .opened]
    let grant : Event := .requested (Dimmer.request options) none
    let binding : List Event :=
      (Dimmer.hold options given).issue (.layerStack display) (refusal (.layerStack display))
        ++ (refusal (.layerStack display)).toList.map Dimmer.complaint
    have h_opening : opening.flatMap r.event = opening := by
      simp only [opening, List.flatMap_cons, Event.say, r.event_log, r.event_opened]
      rfl
    -- the opening is recast into itself, the grant together with what is noted of it
    have h_events :=
      calc opening ++ grant ::
            (Dimmer.noted options' given' ++ binding.flatMap r.event ++ [.closed])
        _ = opening ++ (grant :: Dimmer.noted options' given')
              ++ (binding.flatMap r.event ++ [.closed]) := by
          simp only [List.append_assoc, List.cons_append]
        _ = opening.flatMap r.event ++ (grant :: Dimmer.noted options given).flatMap r.event
              ++ (binding.flatMap r.event ++ [Event.closed].flatMap r.event) := by
          rw [h_noted, h_opening, List.flatMap_singleton, r.event_closed]
        _ = (opening ++ grant :: (Dimmer.noted options given ++ binding ++ [.closed])).flatMap
              r.event := by
          simp only [List.flatMap_append, List.flatMap_cons, List.append_assoc]
    exact congrArg (Turn.mk _ 0 · none) h_events

end Recasting

end Scrim

import Scrim.Proofs.Dimmer.Moves

/-!
# What refusals do to a dimmer

A dimmer goes on as though no primitive had been refused, with two exceptions: the surface counts as
shown or hidden only if the primitive for it was accepted, and an operation ends early if what the
surface refused something with cannot be told. `Dimmer.outcomes_eq_iff` compares a run with the same
run on a surface that refuses nothing (`Step.mended`). The states and answers of the two are the
same exactly if no operation is ended early and no refusal `Thwarts` a change of visibility, which
is to say that none strikes a primitive that shows or hides, nor the alpha just before one.

The two runs are followed side by side through an operation that is not ended early. They agree in
everything until an alpha is applied (`Alike`), and from then on in everything but the visibility,
in which they differ exactly if a change of it was thwarted (`Twin`).
-/

namespace Scrim

/-! ### Two runs -/

/-- The same surroundings with a surface that refuses nothing. -/
def Surroundings.mended (w : Surroundings) : Surroundings :=
  { w with refusal := fun _ => none }

theorem Surroundings.describable_mended (w : Surroundings) : w.mended.Describable :=
  Accepting.describable fun _ => rfl

/-- The same step on a surface that refuses nothing. -/
def Step.mended (s : Step) : Step :=
  { s with surroundings := s.surroundings.mended }

/-- How the dimmer stands and what the caller is told, after each step of a run. -/
def Dimmer.outcomes (d : Dimmer) : List Step → List (Dimmer × Except Failure (Option Bool))
  | [] => []
  | s :: rest => ((d.turn s).dimmer, d.answer s) :: (d.turn s).dimmer.outcomes rest

/-- A refusal that strikes a change of the visibility of a dimmer: of a primitive that shows or
hides, or of an alpha that was to be followed by one. -/
def Event.Thwarts (d : Dimmer) : Event → Prop
  | .call _ .show (some _) => True
  | .call _ .hide (some _) => True
  | .call _ (.alpha alpha) (some _) => (d.visibilityAt alpha).isSome = true
  | _ => False

/-- No change of visibility is thwarted in a turn that a dimmer takes. -/
def Turn.Unthwarted (t : Turn) (d : Dimmer) : Prop :=
  ∀ e ∈ t.events, ¬e.Thwarts d

/-- In a run no operation is ended early, and no change of visibility is thwarted. -/
def Dimmer.Unthwarted (d : Dimmer) : List Step → Prop
  | [] => True
  | s :: rest =>
    ((d.turn s).failure = none ∧ (d.turn s).Unthwarted d) ∧ (d.turn s).dimmer.Unthwarted rest

/-! ### Side by side -/

/-- A turn and the same turn on a surface that refuses nothing, as long as they agree. -/
structure Alike (d : Dimmer) (t t' : Turn) : Prop where
  going : t.failure = none
  going' : t'.failure = none
  dimmer : t.dimmer = t'.dimmer
  readings : t.readings = t'.readings
  showing : t.dimmer.showing = d.showing
  unthwarted : t.Unthwarted d

/-- A turn and the same turn on a surface that refuses nothing, once an alpha has been applied. -/
structure Twin (d : Dimmer) (t t' : Turn) : Prop where
  others : t.dimmer = { t'.dimmer with showing := t.dimmer.showing }
  showing_iff : t.dimmer.showing = t'.dimmer.showing ↔ t.Unthwarted d

theorem Alike.twin {d : Dimmer} {t t' : Turn} (h : Alike d t t') : Twin d t t' where
  others := by rw [h.dimmer]
  showing_iff := iff_of_true (congrArg Dimmer.showing h.dimmer) h.unthwarted

/-- Whether a fade is in progress is no matter of the visibility. -/
theorem Twin.isAnimating_eq {d : Dimmer} {t t' : Turn} (h : Twin d t t') :
    t.dimmer.isAnimating = t'.dimmer.isAnimating :=
  (congrArg Dimmer.isAnimating h.others).trans rfl

/-- Twins are the same exactly if nothing was thwarted. -/
theorem Twin.dimmer_eq_iff {d : Dimmer} {t t' : Turn} (h : Twin d t t') :
    t.dimmer = t'.dimmer ↔ t.Unthwarted d := by
  refine ⟨?_, ?_⟩
  · intro h_eq
    exact h.showing_iff.mp (congrArg Dimmer.showing h_eq)
  · intro h_unthwarted
    rw [h.others, h.showing_iff.mpr h_unthwarted]

theorem Turn.unthwarted_emit {d : Dimmer} {t : Turn} {events : List Event} :
    (t.emit events).Unthwarted d ↔ t.Unthwarted d ∧ ∀ e ∈ events, ¬e.Thwarts d := by
  unfold Unthwarted
  rw [events_emit]
  exact List.forall_mem_append

/-- What is logged thwarts nothing. -/
theorem Turn.unthwarted_say {d : Dimmer} {t : Turn} {level : Level} {message : String} :
    (t.say level message).Unthwarted d ↔ t.Unthwarted d := by
  refine unthwarted_emit.trans (and_iff_left ?_)
  intro e he
  rw [List.mem_singleton.mp he]
  exact id

section SideBySide

variable {d : Dimmer} {t t' : Turn} {w : Surroundings}

theorem Alike.say (h : Alike d t t') (level : Level) (message message' : String) :
    Alike d (t.say level message) (t'.say level message') :=
  ⟨h.going, h.going', h.dimmer, h.readings, h.showing, Turn.unthwarted_say.mpr h.unthwarted⟩

theorem Twin.say (h : Twin d t t') (level : Level) (message message' : String) :
    Twin d (t.say level message) (t'.say level message') :=
  ⟨h.others, h.showing_iff.trans Turn.unthwarted_say.symm⟩

theorem Alike.tookReading (h : Alike d t t') : Alike d t.tookReading t'.tookReading :=
  ⟨h.going, h.going', h.dimmer, congrArg (· + 1) h.readings, h.showing, h.unthwarted⟩

/-- A change that leaves the visibility alone may be made to both. -/
theorem Alike.update (h : Alike d t t') {change : Dimmer → Dimmer}
    (h_change : ∀ d : Dimmer, (change d).showing = d.showing) :
    Alike d (t.update change) (t'.update change) :=
  ⟨h.going, h.going', congrArg change h.dimmer, h.readings, (h_change t.dimmer).trans h.showing,
    h.unthwarted⟩

theorem Alike.collapse (h : Alike d t t') (operation : String) :
    Alike d (t.collapse operation) (t'.collapse operation) :=
  (h.say ..).update fun _ => rfl

/-- Both read the same clock. -/
theorem Alike.now_eq (h : Alike d t t') : t'.now w.mended = t.now w :=
  congrArg w.reading h.readings.symm

/-! ### Blocks -/

/-- To carry out a block thwarts nothing but what the block does. -/
theorem Turn.unthwarted_guard {handle : Handle} {g : Guarded} (h : t.Unthwarted d) :
    (t.guard w handle g).Unthwarted d
      ↔ ∀ e ∈ (Block.run w.refusal handle g.acts).events, ¬e.Thwarts d := by
  refine unthwarted_emit.trans ((and_iff_right h).trans ?_)
  unfold Block.Outcome.reported
  split
  · exact Iff.rfl
  · -- the report of a failure is a log line
    rw [List.forall_mem_append]
    apply and_iff_left
    intro e he
    rw [List.mem_singleton.mp he]
    exact id

/-- Nothing gets out of a block on a surface that refuses nothing. -/
theorem Turn.going_guard_mended (t : Turn) (w : Surroundings) (handle : Handle) (g : Guarded) :
    (t.guard w.mended handle g).failure = none :=
  (failure_guard ..).trans (g.escape_of_describable w.describable_mended)

/-! ### Placing and applying -/

theorem Alike.place {handle : Handle} {layer : Float} (h : Alike d t t')
    (h_going : (t.place w handle layer).failure = none) :
    Alike d (t.place w handle layer) (t'.place w.mended handle layer) := by
  cases h_display : w.display with
  | none =>
    rw [Turn.place_of_unseen h_display, Turn.place_of_unseen (w := w.mended) h_display]
    exact h.say ..
  | some size =>
    cases h_differs : t.dimmer.footprint.differs (Placing.mk size layer).footprint with
    | false =>
      rw [Turn.place_of_same h_display h_differs,
        Turn.place_of_same (w := w.mended) h_display (h.dimmer ▸ h_differs)]
      exact h
    | true =>
      rw [Turn.place_of_differs h_display h_differs] at h_going ⊢
      obtain ⟨h_block, -⟩ := Turn.going_of_andThen h_going
      have h_block' := t'.going_guard_mended w handle (.placing ⟨size, layer⟩)
      rw [Turn.place_of_differs (w := w.mended) h_display (h.dimmer ▸ h_differs),
        Turn.andThen_of_going h_block, Turn.andThen_of_going h_block']
      let placed (d : Dimmer) : Dimmer := { d with footprint := (Placing.mk size layer).footprint }
      refine ⟨h_block, h_block', congrArg placed h.dimmer, h.readings, h.showing,
        (Turn.unthwarted_guard h.unthwarted).mpr ?_⟩
      -- none of the three primitives changes the visibility
      intro e he
      rcases Block.mem_events_run he with ⟨line, rfl⟩ | ⟨primitive, h_mem, rfl⟩
      · exact id
      · rcases Placing.mem_acts h_mem with rfl | rfl | rfl <;> exact id

/-- The block that applies an alpha thwarts no change of visibility exactly if it does not fail, or
if there was none to make. -/
theorem unthwarted_applying_iff (handle : Handle) (alpha : Float) :
    (∀ e ∈ (Block.run w.refusal handle
        (Guarded.applying alpha (d.visibilityAt alpha)).acts).events, ¬e.Thwarts d)
      ↔ (Guarded.applying alpha (d.visibilityAt alpha)).primitives.findSome? w.refusal = none ∨
        d.visibilityAt alpha = none := by
  rw [← Guarded.failure_run _ w.refusal handle]
  have h_cases := Block.failure_cases w.refusal handle
    (Guarded.applying alpha (d.visibilityAt alpha)).raise_not_mem_acts
  refine ⟨?_, ?_⟩
  · intro h
    by_contra h_not
    rw [not_or] at h_not
    obtain ⟨h_fails, h_change⟩ := h_not
    rcases h_cases with ⟨h_none, -⟩ | ⟨primitive, failure, -, h_mem, h_call⟩
    · exact h_fails h_none
    · refine h _ h_call ?_
      -- each primitive of the block changes the visibility or was to be followed by one that does
      rcases List.mem_cons.mp h_mem with h_alpha | h_visibility
      · cases h_alpha
        exact Option.isSome_iff_ne_none.mpr h_change
      · rcases Turn.mem_visibilityActs h_visibility with rfl | rfl <;> trivial
  · rintro (h_none | h_change) e he
    · -- a block that does not fail had everything accepted
      have h_accepted := h_cases.resolve_right fun ⟨_, _, h_some, _⟩ => by
        rw [h_none] at h_some
        cases h_some
      rcases Block.mem_events_run he with ⟨line, rfl⟩ | ⟨primitive, h_mem, rfl⟩
      · exact id
      · rw [h_accepted.2 primitive h_mem]
        cases primitive <;> exact id
    · -- the alpha is alone in its block, and nothing was to follow it
      rcases Block.mem_events_run he with ⟨line, rfl⟩ | ⟨primitive, h_mem, rfl⟩
      · exact id
      · rw [h_change] at h_mem
        cases List.mem_singleton.mp h_mem
        cases w.refusal (.alpha alpha) with
        | none => exact id
        | some failure =>
          change ¬(d.visibilityAt alpha).isSome = true
          rw [h_change]
          exact Bool.false_ne_true

/-- A change of visibility is a change. -/
theorem Dimmer.visibilityAt_ne {alpha : Float} {visible : Bool}
    (h : d.visibilityAt alpha = some visible) : visible ≠ d.showing := by
  unfold visibilityAt at h
  split_ifs at h with h_hide h_show
  · obtain rfl := Option.some.inj h
    rw [(Bool.and_eq_true_iff.mp h_hide).2]
    exact Bool.false_ne_true
  · obtain rfl := Option.some.inj h
    have h_hidden := (Bool.and_eq_true_iff.mp h_show).2
    rw [Bool.not_eq_true'] at h_hidden
    rw [h_hidden]
    exact Bool.false_ne_true.symm

/-- From where an alpha is applied on, the two may differ. -/
theorem Alike.applyAlpha {handle : Handle} {alpha : Float} (h : Alike d t t')
    (h_going : (t.applyAlpha w handle alpha).failure = none) :
    Twin d (t.applyAlpha w handle alpha) (t'.applyAlpha w.mended handle alpha) := by
  cases h_alpha : t.dimmer.alpha == alpha with
  | true =>
    rw [Turn.applyAlpha_of_inPlace h_alpha,
      Turn.applyAlpha_of_inPlace (w := w.mended) (h.dimmer ▸ h_alpha)]
    exact h.twin
  | false =>
    have h_change : t.dimmer.visibilityAt alpha = d.visibilityAt alpha := by
      unfold Dimmer.visibilityAt
      rw [h.showing]
    rw [Turn.applyAlpha_of_ne h_alpha] at h_going ⊢
    obtain ⟨h_block, -⟩ := Turn.going_of_andThen h_going
    rw [Turn.applyAlpha_of_ne (w := w.mended) (h.dimmer ▸ h_alpha), ← h.dimmer,
      Turn.andThen_of_going h_block, Turn.andThen_of_going (Turn.going_guard_mended ..), h_change]
    have h_mended : (Guarded.applying alpha (d.visibilityAt alpha)).primitives.findSome?
        w.mended.refusal = none := List.findSome?_eq_none_iff.mpr fun _ _ => rfl
    rw [h_mended]
    refine ⟨?_, ?_⟩
    · simp only [Turn.dimmer_update, Turn.dimmer_guard, Turn.dimmer_debug, h.dimmer]
    · refine Iff.trans ?_ (Turn.unthwarted_guard (Turn.unthwarted_say.mpr h.unthwarted)).symm
      refine Iff.trans ?_ (unthwarted_applying_iff handle alpha).symm
      rw [Turn.dimmer_update, Turn.dimmer_update]
      generalize (Guarded.applying alpha (d.visibilityAt alpha)).primitives.findSome? w.refusal
        = failure?
      change (if failure?.isNone = true then _ else _) = (d.visibilityAt alpha).getD _ ↔ _
      cases failure? with
      | none => exact iff_of_true rfl (Or.inl rfl)
      | some failure =>
        cases h_due : d.visibilityAt alpha with
        | none => exact iff_of_true rfl (Or.inr rfl)
        | some visible =>
          -- the one change that the failure has kept from happening
          refine iff_of_false ?_ (by simp)
          change t.dimmer.showing ≠ visible
          rw [h.showing]
          exact (Dimmer.visibilityAt_ne h_due).symm

/-! ### Operations -/

theorem Alike.consider {handle : Handle} {request : PresentRequest} (h : Alike d t t')
    (h_going : (t.consider w handle request).failure = none) :
    Twin d (t.consider w handle request) (t'.consider w.mended handle request) := by
  unfold Turn.consider Turn.commit at h_going ⊢
  rw [h.now_eq, ← h.dimmer]
  split_ifs at h_going ⊢
  · exact h.tookReading.applyAlpha h_going
  · refine (h.tookReading.update ?_).twin
    exact fun _ => rfl
  · exact h.tookReading.twin

theorem Twin.withTarget (h : Twin d t t') (target : Float) :
    Twin d (t.update fun d => { d with target }) (t'.update fun d => { d with target }) :=
  ⟨congrArg (fun d : Dimmer => { d with target }) h.others, h.showing_iff⟩

theorem Alike.present {request : PresentRequest} (h : Alike d t t')
    (h_going : (t.present w request).failure = none) :
    Twin d (t.present w request) (t'.present w.mended request) := by
  cases h_handle : t.dimmer.handle with
  | none =>
    unfold Turn.present
    dsimp only
    rw [Turn.dimmer_debug, Turn.dimmer_debug, ← h.dimmer, h_handle]
    exact ((h.say ..).collapse "present").twin
  | some handle =>
    -- the mended turn goes on because nothing is refused in it
    have h_going' : (t'.present w.mended request).failure = none :=
      (Turn.Moves.none.present request).going w.describable_mended h.going'
    obtain ⟨message, h_placed, h_considered, h_present⟩ := Turn.present_of_going h_handle h_going
    obtain ⟨message', -, -, h_present'⟩ :=
      Turn.present_of_going (h.dimmer ▸ h_handle) h_going'
    rw [h_present, h_present']
    refine Twin.withTarget (Twin.say ?_ ..) request.alpha
    exact ((h.say .debug message message').place h_placed).consider h_considered

theorem Alike.fadeOut {duration : Float} (h : Alike d t t')
    (h_going : (t.fadeOut w duration).failure = none) :
    Twin d (t.fadeOut w duration) (t'.fadeOut w.mended duration) := by
  unfold Turn.fadeOut at h_going ⊢
  rw [← h.dimmer]
  exact (h.say ..).present h_going

theorem Alike.dismiss {request : DismissRequest} (h : Alike d t t')
    (h_going : (t.dismiss w request).failure = none) :
    Twin d (t.dismiss w request) (t'.dismiss w.mended request) := by
  unfold Turn.dismiss at h_going ⊢
  rw [h.now_eq, ← h.dimmer]
  cases h_handle : t.dimmer.handle with
  | none => exact (h.collapse "dismiss").twin
  | some handle =>
    rw [h_handle] at h_going
    dsimp only at h_going ⊢
    -- the guards are read off dimmers that are the same, at the same clock
    split_ifs at h_going ⊢
    · exact h.twin
    · exact h.fadeOut h_going
    · exact h.tookReading.fadeOut h_going
    · exact h.tookReading.twin

theorem Alike.hideNow (h : Alike d t t') (h_going : (t.hideNow w).failure = none) :
    Twin d (t.hideNow w) (t'.hideNow w.mended) := by
  unfold Turn.hideNow at h_going ⊢
  rw [← h.dimmer]
  cases h_handle : t.dimmer.handle with
  | none => exact (h.collapse "hideNow").twin
  | some handle =>
    rw [h_handle] at h_going
    dsimp only at h_going ⊢
    split_ifs at h_going ⊢
    · exact (h.say ..).dismiss h_going
    · exact h.twin

theorem Alike.jumpToEnd (h : Alike d t t') (h_going : (t.jumpToEnd w).failure = none) :
    Twin d (t.jumpToEnd w) (t'.jumpToEnd w.mended) := by
  unfold Turn.jumpToEnd at h_going ⊢
  rw [← h.dimmer]
  cases h_handle : t.dimmer.handle with
  | none => exact (h.collapse "jumpToEnd").twin
  | some handle =>
    rw [h_handle] at h_going
    dsimp only at h_going ⊢
    split_ifs at h_going ⊢
    · exact (h.say ..).present h_going
    · exact h.twin

theorem Alike.advance (h : Alike d t t') (h_going : (t.advance w).failure = none) :
    Twin d (t.advance w) (t'.advance w.mended) := by
  unfold Turn.advance at h_going ⊢
  rw [h.now_eq, ← h.dimmer]
  cases h_handle : t.dimmer.handle with
  | none => exact (h.collapse "advance").twin
  | some handle =>
    rw [h_handle] at h_going
    dsimp only at h_going ⊢
    split_ifs at h_going ⊢
    · exact (h.tookReading.say ..).applyAlpha h_going
    · exact h.twin

/-- Destroying a surface is no change of visibility. -/
theorem Alike.release (h : Alike d t t') : Twin d (t.release w) (t'.release w.mended) := by
  cases h_handle : t.dimmer.handle with
  | none =>
    unfold Turn.release
    rw [← h.dimmer, h_handle]
    exact h.twin
  | some handle =>
    rw [Turn.release_of_handle h_handle, Turn.release_of_handle (h.dimmer ▸ h_handle)]
    refine ⟨?_, iff_of_true rfl ((Turn.unthwarted_guard ?_).mpr ?_)⟩
    · simp only [Turn.dimmer_update, Turn.dimmer_guard, Turn.dimmer_debug, h.dimmer]
    · exact Turn.unthwarted_say.mpr h.unthwarted
    · -- ending a surface is no change of visibility
      intro e he
      rcases Block.mem_events_run he with ⟨line, rfl⟩ | ⟨primitive, h_mem, rfl⟩
      · exact id
      · cases List.mem_singleton.mp h_mem
        exact id

end SideBySide

/-! ### Steps and runs -/

theorem Dimmer.alike_self (d : Dimmer) : Alike d { dimmer := d } { dimmer := d } :=
  ⟨rfl, rfl, rfl, rfl, rfl, fun _ he => by cases he⟩

/-- A step that is not ended early, and the same step on a surface that refuses nothing. -/
theorem Dimmer.twin_turn {d : Dimmer} {s : Step} (h_going : (d.turn s).failure = none) :
    Twin d (d.turn s) (d.turn s.mended) := by
  obtain ⟨operation, w⟩ := s
  have h := d.alike_self
  change (d.perform w operation).1.failure = none at h_going
  change Twin d (d.perform w operation).1 (d.perform w.mended operation).1
  cases operation with
  | present layer alpha duration =>
    dsimp only [perform] at h_going ⊢
    cases h_check : PresentRequest.check layer alpha duration with
    -- arguments that are refused leave both as they were
    | error failure => exact h.twin
    | ok request =>
      rw [h_check] at h_going
      exact h.present h_going
  | dismiss duration =>
    dsimp only [perform] at h_going ⊢
    cases h_check : DismissRequest.check duration with
    | error failure => exact h.twin
    | ok request =>
      rw [h_check] at h_going
      exact h.dismiss h_going
  | hideNow => exact h.hideNow h_going
  | jumpToEnd => exact h.jumpToEnd h_going
  | advance => exact h.advance h_going
  | release => exact h.release

/-- A step on a surface that refuses nothing is not ended early. -/
theorem Dimmer.going_turn_mended (d : Dimmer) (s : Step) : (d.turn s.mended).failure = none :=
  d.going_turn s.surroundings.describable_mended

/-- **What the caller is told depends on refusals only if one ends the operation.** -/
theorem Dimmer.answer_mended_iff (d : Dimmer) (s : Step) :
    d.answer s = d.answer s.mended ↔ (d.turn s).failure = none := by
  have h_mended (h_valid : s.operation.Valid) :=
    answer_of_going (s := s.mended) h_valid (d.going_turn_mended s)
  refine ⟨?_, ?_⟩
  · intro h_eq
    -- an operation that is ended fails, and the mended one does not
    by_contra h_ended
    obtain ⟨failure, h_failure⟩ := Option.ne_none_iff_exists'.mp h_ended
    rw [answer_of_ended h_failure, h_mended (valid_of_ended h_ended)] at h_eq
    cases h_eq
  · intro h_going
    by_cases h_valid : s.operation.Valid
    · rw [answer_of_going h_valid h_going, h_mended h_valid]
      exact congrArg Except.ok
        (Operation.result_congr (twin_turn h_going).isAnimating_eq s.operation)
    · -- refused arguments are refused whatever the surface does
      obtain ⟨failure, h_perform⟩ := perform_of_invalid h_valid
      unfold answer
      rw [show s.mended.operation = s.operation from rfl, h_perform, h_perform]

/-- **Refusals influence a dimmer exactly where they end an operation or thwart a change of
visibility.** The dimmer stands the same after each step of a run, and answers the same, as in the
run on a surface that refuses nothing, if and only if no operation is ended by a refusal that cannot
be told, and no refusal strikes a primitive that shows or hides or the alpha just before one.
Nothing is assumed of the dimmer, of the operations, or of the clock. -/
theorem Dimmer.outcomes_eq_iff (d : Dimmer) (steps : List Step) :
    d.outcomes steps = d.outcomes (steps.map Step.mended) ↔ d.Unthwarted steps := by
  induction steps generalizing d with
  | nil => exact iff_of_true rfl trivial
  | cons s rest ih =>
    change (_, _) :: _ = (_, _) :: _ ↔ (_ ∧ _) ∧ _
    rw [List.cons.injEq, Prod.mk.injEq, d.answer_mended_iff s, and_comm (b := _ = none),
      and_assoc, and_assoc]
    apply and_congr_right
    intro h_going
    have h_twin := twin_turn h_going
    rw [h_twin.dimmer_eq_iff]
    apply and_congr_right
    intro h_unthwarted
    -- the two dimmers are the same, so they stay so under the rest of the run or not
    rw [← h_twin.dimmer_eq_iff.mpr h_unthwarted]
    exact ih (d.turn s).dimmer

end Scrim

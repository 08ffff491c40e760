import Scrim.Proofs.Dimmer.Placements
import Scrim.Proofs.Dimmer.Shown

/-!
# The calls of a turn

A turn logs lines and issues primitives on the one surface that the dimmer holds
(`Dimmer.own_of_mem_turn`). While nothing is refused, all that it does is heeded (`Event.Heeded`),
and the dimmer remembers the alpha that its surface was last told, and holds the surface until it
ends it (`Holding`).
-/

namespace Scrim

/-! ### What a turn consists of -/

/-- The lines of a block have no cause: it ends with a failure before it is logged. -/
theorem Block.cause_of_mem_run {refusal : Primitive → Option Failure} {handle : Handle}
    {acts : List Act} {line : LogLine} (h : .log line ∈ (run refusal handle acts).events) :
    line.cause = none := by
  obtain ⟨message, rfl | rfl⟩ := said_of_mem_run h <;> rfl

/-- What a dimmer does in a turn, with such a hold on a surface: it logs a line, with a cause only
if something is refused, or issues a primitive on its surface. -/
inductive Event.Own (w : Surroundings) (held : Option Handle) : Event → Prop
  | logged (line : LogLine) (h_cause : w.Accepting → line.cause = none) : Own w held (.log line)
  | called (handle : Handle) (h_held : held = some handle) (primitive : Primitive) :
      Own w held (.call handle.id primitive (w.refusal primitive))

theorem Event.Own.say {w : Surroundings} {held : Option Handle} (level : Level) (message : String) :
    (Event.say level message).Own w held :=
  .logged _ fun _ => rfl

/-- What is done about the surface of a number while nothing is refused. -/
inductive Event.Heeded (id : Nat) : Event → Prop
  | logged (line : LogLine) (h_cause : line.cause = none) : Heeded id (.log line)
  | called (primitive : Primitive) : Heeded id (.call id primitive none)

theorem Event.Heeded.ne_closed {id : Nat} {e : Event} (h : e.Heeded id) : e ≠ .closed := by
  cases h with
  | logged | called => exact Event.noConfusion

/-- A surface that accepts everything heeds all that the dimmer does. -/
theorem Event.Own.heeded {w : Surroundings} {held : Option Handle} {e : Event} {id : Nat}
    (h : e.Own w held) (hw : w.Accepting) (h_held : ∀ handle, held = some handle → handle.id = id) :
    e.Heeded id := by
  cases h with
  | logged line h_cause => exact .logged line (h_cause hw)
  | called handle h_handle primitive =>
    rw [hw, h_held handle h_handle]
    exact .called primitive

/-- Issuing a primitive that is accepted is heeded, and so are the tracers that announce it. -/
theorem Handle.heeded_of_mem_issue {handle : Handle} {primitive : Primitive} {e : Event}
    (he : e ∈ handle.issue primitive none) : e.Heeded handle.id := by
  rcases List.mem_append.mp he with h_said | h_call
  · obtain ⟨message, -, rfl⟩ := List.mem_map.mp h_said
    exact .logged _ rfl
  · rw [List.mem_singleton.mp h_call]
    exact .called primitive

/-- What happens in a block is the dimmer's own. -/
theorem Guarded.own_of_mem_events {w : Surroundings} {handle : Handle} {g : Guarded} {e : Event}
    (he : e ∈ g.events w.refusal handle) : e.Own w (some handle) := by
  have h_run (he : e ∈ (Block.run w.refusal handle g.acts).events) : e.Own w (some handle) := by
    rcases Block.mem_events_run he with ⟨line, rfl⟩ | ⟨primitive, -, rfl⟩
    · exact .logged line fun _ => Block.cause_of_mem_run he
    · exact .called handle rfl primitive
  unfold events Block.Outcome.reported at he
  split at he
  · exact h_run he
  · next failure h_failure =>
    rcases List.mem_append.mp he with he | he
    · exact h_run he
    · obtain rfl := List.mem_singleton.mp he
      refine .logged _ fun hw => ?_
      -- on an accepting surface the block would not have failed
      cases (g.failure_run_of_accepting hw handle).symm.trans h_failure

namespace Turn

variable {w : Surroundings} {t t' : Turn} {handle : Handle}

theorem own_of_mem_guard {e : Event} {g : Guarded} (he : e ∈ (t.guard w handle g).events) :
    e ∈ t.events ∨ e.Own w (some handle) :=
  (List.mem_append.mp he).imp_right Guarded.own_of_mem_events

theorem own_of_mem_say {e : Event} {level : Level} {message : String} {held : Option Handle}
    (he : e ∈ (t.say level message).events) : e ∈ t.events ∨ e.Own w held := by
  refine (List.mem_append.mp he).imp_right fun he => ?_
  rw [List.mem_singleton.mp he]
  exact .say ..

theorem own_of_mem_place {e : Event} {layer : Float} (he : e ∈ (t.place w handle layer).events) :
    e ∈ t.events ∨ e.Own w (some handle) := by
  have h_after := t.afterPlace w handle layer
  generalize t.place w handle layer = t' at h_after he
  cases h_after with
  | unseen => exact own_of_mem_say he
  | inPlace => exact Or.inl he
  | settled => exact own_of_mem_guard he
  | cutShort => exact own_of_mem_guard he

theorem own_of_mem_applyAlpha {e : Event} {alpha : Float}
    (he : e ∈ (t.applyAlpha w handle alpha).events) : e ∈ t.events ∨ e.Own w (some handle) := by
  have h_after := t.afterAlpha w handle alpha
  generalize t.applyAlpha w handle alpha = t' at h_after he
  cases h_after with
  | inPlace => exact Or.inl he
  | settled => exact (own_of_mem_guard he).elim own_of_mem_say Or.inr
  | cutShort => exact (own_of_mem_guard he).elim own_of_mem_say Or.inr

theorem own_of_mem_release {e : Event} (h_handle : t.dimmer.handle = some handle)
    (he : e ∈ (t.release w).events) : e ∈ t.events ∨ e.Own w (some handle) := by
  rw [release_of_handle h_handle] at he
  exact (own_of_mem_guard he).elim own_of_mem_say Or.inr

/-- **Each move adds events of the dimmer's own.** -/
theorem Moves.own (h : Moves w t t') {e : Event} (he : e ∈ t'.events) :
    e ∈ t.events ∨ e.Own w t.dimmer.handle := by
  induction h with
  | none => exact Or.inl he
  | said _ level message ih => exact (own_of_mem_say he).elim ih Or.inr
  | read _ ih => exact ih he
  | placed h h_handle layer ih =>
    -- the surface that is held now was held when the turn began
    rw [h.handle_eq_some h_handle] at ih ⊢
    exact (own_of_mem_place he).elim ih Or.inr
  | applied h h_handle alpha ih =>
    rw [h.handle_eq_some h_handle] at ih ⊢
    exact (own_of_mem_applyAlpha he).elim ih Or.inr
  | timed _ _ _ ih => exact ih he
  | aimed _ _ _ ih => exact ih he
  | released h h_handle ih =>
    rw [h.handle_eq_some h_handle] at ih ⊢
    exact (own_of_mem_release h_handle he).elim ih Or.inr
  | collapsed _ _ operation ih => exact (own_of_mem_say he).elim ih Or.inr

end Turn

/-- **A turn consists of the dimmer's own events.** -/
theorem Dimmer.own_of_mem_turn {d : Dimmer} {s : Step} {e : Event} (he : e ∈ (d.turn s).events) :
    e.Own s.surroundings d.handle :=
  ((d.moves s).own he).resolve_left List.not_mem_nil

/-- **A dimmer gives up its surface when it is released**, and at no other time. -/
theorem Dimmer.handle_turn (d : Dimmer) (s : Step) :
    (s.operation ≠ .release → (d.turn s).dimmer.handle = d.handle) ∧
      (s.operation = .release → (d.turn s).dimmer.handle = none) := by
  refine ⟨?_, ?_⟩
  · intro h_other
    have h_course := d.course s
    generalize d.turn s = t at h_course ⊢
    cases h_course with
    | idle _ h_same => rw [h_same]
    | collapsed _ _ h_rest => rw [h_rest, collapsed]
    | presented t handle request h_handle h_same _ h_going =>
      rw [(Turn.presented (h_same ▸ h_handle) h_going).handle_eq, h_same]
    | advanced _ _ _ _ _ _ h_applied => exact h_applied.handle_eq
    | cutShort _ _ _ _ _ h_cut => rw [h_cut]
    -- only a release gives the surface up
    | released _ h_operation _ => exact absurd h_operation h_other
  · intro h_release
    obtain ⟨operation, w⟩ := s
    subst h_release
    change (Turn.release { dimmer := d } w).dimmer.handle = none
    cases h_handle : d.handle with
    | none =>
      unfold Turn.release
      rw [h_handle]
      exact h_handle
    | some handle =>
      rw [Turn.release_of_handle h_handle]
      rfl

/-! ### What the surface was last told -/

section LastArguments

variable {kind : Primitive.Kind} {surface : Nat} {events later : List Event}

/-- Events that do not call for a primitive of the kind change nothing of its last arguments. -/
theorem lastArguments_append_of_quiet (h : ∀ e ∈ later, e.arguments? kind surface = none) :
    lastArguments kind surface (events ++ later) = lastArguments kind surface events := by
  have h_none : lastArguments kind surface later = none := by
    rw [lastArguments, List.filterMap_eq_nil_iff.mpr h]
    rfl
  rw [lastArguments_append, h_none, Option.none_or]

theorem arguments?_of_mem_block {refusal : Primitive → Option Failure} {handle : Handle}
    {acts : List Block.Act} (h_acts : ∀ primitive, .issue primitive ∈ acts → primitive.kind ≠ kind)
    {context : String} {e : Event} (he : e ∈ (Block.run refusal handle acts).reported context) :
    e.arguments? kind surface = none := by
  rcases Block.mem_reported he with he | ⟨line, rfl⟩
  · rcases Block.mem_events_run he with ⟨line, rfl⟩ | ⟨primitive, h_mem, rfl⟩
    · rfl
    · exact if_neg fun h => h_acts primitive h_mem h.2
  · rfl

/-- Issuing a primitive calls for it with its arguments. -/
theorem lastArguments_issue (handle : Handle) (primitive : Primitive) (answer : Option Failure) :
    lastArguments kind surface (handle.issue primitive answer)
      = (Event.call handle.id primitive answer).arguments? kind surface := by
  rw [lastArguments, Handle.filterMap_issue fun _ => rfl]
  cases (Event.call handle.id primitive answer).arguments? kind surface <;> rfl

theorem Block.reported_after (events : List Event) (outcome : Outcome) (context : String) :
    (outcome.after events).reported context = events ++ outcome.reported context := by
  obtain ⟨later, failure⟩ := outcome
  cases failure with
  | none => rfl
  | some failure => exact List.append_assoc ..

/-- A block that is not refused has issued its first primitive, and perhaps no other of its kind. -/
theorem lastArguments_reported (kind : Primitive.Kind) (primitive : Primitive)
    (h_kind : primitive.kind = kind) {refusal : Primitive → Option Failure} {handle : Handle}
    (h_refusal : refusal primitive = none) {acts : List Block.Act}
    (h_acts : ∀ p, .issue p ∈ acts → p.kind ≠ kind) (context : String) :
    lastArguments kind handle.id
        ((Block.run refusal handle (.issue primitive :: acts)).reported context)
      = some primitive.arguments := by
  rw [Block.run_issue_of_accepted h_refusal, Block.reported_after,
    lastArguments_append_of_quiet fun e he => arguments?_of_mem_block h_acts he,
    lastArguments_issue]
  exact if_pos ⟨rfl, h_kind⟩

end LastArguments

/-! ### The hold on a surface -/

/-- A dimmer has held the surface of this number, and has ended it if and only if it has given it
up. Until then it remembers the alpha that it last told it. -/
structure Holding (d : Dimmer) (surface : Nat) (past : List Event) : Prop where
  held : ∀ handle, d.handle = some handle → handle.id = surface
  ended : d.handle = none ↔ (lastArguments .destroy surface past).isSome = true
  alpha : d.handle ≠ none →
    ∀ arguments, lastArguments .alpha surface past = some arguments → arguments = [d.alpha]

section Holding

variable {w : Surroundings} {d d' : Dimmer} {surface : Nat} {past later : List Event}

/-- Events that neither end the surface nor set its alpha change nothing of the hold on it. -/
theorem Holding.of_quiet (h : Holding d surface past) (h_handle : d'.handle = d.handle)
    (h_alpha : d'.alpha = d.alpha)
    (h_quiet : ∀ e ∈ later,
      e.arguments? .destroy surface = none ∧ e.arguments? .alpha surface = none) :
    Holding d' surface (past ++ later) where
  held handle h_held := h.held handle (h_handle.symm.trans h_held)
  ended := by
    rw [h_handle, lastArguments_append_of_quiet fun e he => (h_quiet e he).1]
    exact h.ended
  alpha := by
    rw [h_handle, h_alpha, lastArguments_append_of_quiet fun e he => (h_quiet e he).2]
    exact h.alpha

theorem Holding.said (h : Holding d surface past) (level : Level) (message : String) :
    Holding d surface (past ++ [.say level message]) := by
  apply h.of_quiet rfl rfl
  intro e he
  rw [List.mem_singleton.mp he]
  exact ⟨rfl, rfl⟩

/-- Placing a surface neither ends it nor sets its alpha. -/
theorem Holding.placed {t : Turn} {handle : Handle}
    (h : Holding t.dimmer surface (past ++ t.events)) (layer : Float) :
    Holding (t.place w handle layer).dimmer surface (past ++ (t.place w handle layer).events) := by
  have h_guard (p : Placing) {d : Dimmer} (h_handle : d.handle = t.dimmer.handle)
      (h_alpha : d.alpha = t.dimmer.alpha) :
      Holding d surface (past ++ (t.guard w handle (.placing p)).events) := by
    rw [Turn.events_guard, ← List.append_assoc]
    refine h.of_quiet h_handle h_alpha ?_
    intro e he
    -- a position, a size and a layer are neither an end nor an alpha
    refine ⟨arguments?_of_mem_block ?_ he, arguments?_of_mem_block ?_ he⟩ <;>
      simp [Guarded.acts, Placing.acts, Primitive.kind]
  have h_after := t.afterPlace w handle layer
  generalize t.place w handle layer = t' at h_after ⊢
  cases h_after with
  | unseen =>
    rw [Turn.say, Turn.events_emit, ← List.append_assoc]
    exact h.said .warn _
  | inPlace => exact h
  | settled => exact h_guard _ rfl rfl
  | cutShort => exact h_guard _ rfl rfl

/-- Applying an alpha tells the surface so. -/
theorem Holding.applied {t : Turn} {handle : Handle}
    (h : Holding t.dimmer surface (past ++ t.events)) (hw : w.Accepting)
    (h_handle : t.dimmer.handle = some handle) (alpha : Float) :
    Holding (t.applyAlpha w handle alpha).dimmer surface
      (past ++ (t.applyAlpha w handle alpha).events) := by
  by_cases h_inPlace : (t.dimmer.alpha == alpha) = true
  · rw [Turn.applyAlpha_of_inPlace h_inPlace]
    exact h
  have h_alpha := Bool.eq_false_of_not_eq_true h_inPlace
  -- the block that follows is one of the surface that is held
  obtain rfl := h.held handle h_handle
  obtain ⟨message, h_events⟩ := Turn.events_applyAlpha h_alpha w handle
  have h_same := Turn.handle_applyAlpha t w handle alpha
  have h_new : (t.applyAlpha w handle alpha).dimmer.alpha = alpha := by
    have h_applied := Turn.applied (Turn.going_applyAlpha hw.describable h_alpha handle)
    generalize (t.applyAlpha w handle alpha).dimmer = d' at h_applied ⊢
    cases h_applied with
    | inPlace h_same => exact absurd h_same h_inPlace
    | changed => rfl
  -- after the alpha the block shows or hides, if it does anything else
  have h_visibility (kind : Primitive.Kind) (h_kind : kind = .destroy ∨ kind = .alpha)
      (p : Primitive) (hp : .issue p ∈ Turn.visibilityActs (t.dimmer.visibilityAt alpha)) :
      p.kind ≠ kind := by
    rcases Turn.mem_visibilityActs hp with rfl | rfl <;> rcases h_kind with rfl | rfl <;>
      exact Primitive.Kind.noConfusion
  have h_said (kind : Primitive.Kind) (e : Event) (he : e ∈ [Event.say .debug message]) :
      e.arguments? kind handle.id = none := by
    rw [List.mem_singleton.mp he]
    rfl
  rw [h_events, ← List.append_assoc, ← List.append_assoc]
  refine ⟨fun handle' h_held => h.held handle' (h_same.symm.trans h_held), ?_, ?_⟩
  · rw [h_same, lastArguments_append_of_quiet, lastArguments_append_of_quiet (h_said .destroy)]
    · exact h.ended
    · intro e he
      refine arguments?_of_mem_block ?_ he
      intro p hp
      rcases List.mem_cons.mp hp with h_eq | hp
      · cases h_eq
        exact Primitive.Kind.noConfusion
      · exact h_visibility .destroy (Or.inl rfl) p hp
  · intro _ arguments h_last
    -- the alpha is accepted and is the last one to be set
    rw [lastArguments_append, Guarded.events, Guarded.acts,
        lastArguments_reported .alpha (.alpha alpha) rfl (hw _)
        (h_visibility .alpha (Or.inr rfl)),
      Option.some_or] at h_last
    rw [h_new]
    exact (Option.some.inj h_last).symm

/-- **Each move on an accepting surface keeps the hold in order.** -/
theorem Holding.moves {t t' : Turn} (h : Holding t.dimmer surface (past ++ t.events))
    (hw : w.Accepting) (h_moves : Turn.Moves w t t') :
    Holding t'.dimmer surface (past ++ t'.events) := by
  induction h_moves with
  | none => exact h
  | said _ level message ih =>
    rw [Turn.say, Turn.events_emit, ← List.append_assoc]
    exact ih.said level message
  | read _ ih => exact ih
  | placed _ _ layer ih => exact ih.placed layer
  | applied _ h_handle alpha ih => exact ih.applied hw h_handle alpha
  | timed _ _ _ ih => exact ⟨ih.held, ih.ended, ih.alpha⟩
  | aimed _ _ _ ih => exact ⟨ih.held, ih.ended, ih.alpha⟩
  | @released t' _ handle h_handle ih =>
    -- the surface is ended as it is given up, and nothing is left to be remembered
    obtain rfl := ih.held handle h_handle
    rw [Turn.release_of_handle h_handle]
    refine ⟨?_, iff_of_true rfl ?_, fun h_held => absurd rfl h_held⟩
    · intro handle' h_held
      cases h_held
    · rw [Turn.events_guard, ← List.append_assoc, lastArguments_append, Guarded.events,
        Guarded.acts, lastArguments_reported .destroy .destroy rfl (hw _) (by simp)]
      rfl
  | @collapsed t' _ h_handle operation ih =>
    have h_said := ih.said .error (operation ++ ": no surface")
    rw [List.append_assoc] at h_said
    exact ⟨h_said.held, h_said.ended, fun h_held => absurd h_handle h_held⟩

end Holding

/-- A new dimmer that was given a surface holds it. -/
theorem holding_new {options : Options} {display : Float}
    {admission : SurfaceRequest → Except Failure Handle} {refusal : Primitive → Option Failure}
    {handle : Handle} (h : (Dimmer.new options display admission refusal).handle = some handle) :
    Holding (Dimmer.new options display admission refusal) handle.id
      (Dimmer.create options display admission refusal).events := by
  -- the only call of a creation binds the surface to its display
  have h_none {kind : Primitive.Kind} (h_kind : kind ≠ .layerStack) :
      lastArguments kind handle.id (Dimmer.create options display admission refusal).events
        = none := by
    rw [← List.nil_append (Dimmer.create options display admission refusal).events,
      lastArguments_append_of_quiet]
    · rfl
    · intro e he
      cases e with
      | call surface primitive answer =>
        rw [Dimmer.primitive_of_call_mem_create _ _ _ _ he]
        exact if_neg fun h_eq => h_kind h_eq.2.symm
      | log | requested | opened | closed => rfl
  refine ⟨?_, ?_, ?_⟩
  · intro handle' h_held
    rw [Option.some.inj (h.symm.trans h_held)]
  · rw [h, h_none Primitive.Kind.noConfusion]
    exact iff_of_false (Option.some_ne_none handle) Bool.false_ne_true
  · intro _ arguments h_last
    rw [h_none Primitive.Kind.noConfusion] at h_last
    cases h_last

end Scrim

import Scrim.Proofs.Dimmer.Absence
import Scrim.Proofs.Dimmer.Refusal

/-!
# Refusals stay inside their blocks

A turn is a list of lines and guarded blocks, its `Part`s. `Dimmer.parallel_turn` says that the
parts do not depend on what is refused, so that a turn and the same turn on a surface that refuses
nothing differ only in how far each block got, and perhaps in how far the turn got.

A block that meets a refusal stops there and is warned of once (`Guarded.contained`). If the refusal
can be told, nothing else comes of it: the operation goes on to its end, and leaves the dimmer as it
would have been, the visibility apart. If it cannot, the block is the last part of its turn, and the
operation fails with the failure to tell it. `Dimmer.refusals_contained` says both. Why the
visibility is apart is the matter of `Dimmer.outcomes_eq_iff`.
-/

namespace Scrim

/-! ### Guarded blocks -/

namespace Guarded

/-- The events of a block, as a surface that refuses as told may let them happen. -/
inductive Contained (g : Guarded) (refusal : Primitive → Option Failure) (events : List Event) :
    Prop
  /-- Nothing was refused. All primitives were issued, and there was nothing to warn of. -/
  | passed (h_accepted : ∀ p ∈ g.primitives, refusal p = none)
      (h_issued : issued events = g.primitives.map (·, none))
      (h_warnings : events.filter Event.isWarning = []) : Contained g refusal events
  /-- A primitive was refused. Those after it were not issued, and there was one warning, with the
  refusal as its cause. -/
  | failed (before after : List Primitive) (primitive : Primitive) (failure : Failure)
      (h_primitives : g.primitives = before ++ primitive :: after)
      (h_accepted : ∀ p ∈ before, refusal p = none) (h_refused : refusal primitive = some failure)
      (h_issued : issued events = before.map (·, none) ++ [(primitive, some failure)])
      (h_warnings : events.filter Event.isWarning
        = [.log ⟨.warn, "Failure " ++ g.context, some failure⟩]) : Contained g refusal events

/-- **A guarded block keeps a refusal to itself.** -/
theorem contained (g : Guarded) (refusal : Primitive → Option Failure) (handle : Handle) :
    g.Contained refusal (g.events refusal handle) := by
  have h_issued := g.issued_events refusal handle
  have h_warnings := Block.warnings_reported refusal handle g.acts g.context
  rw [failure_run] at h_warnings
  -- the first primitive that is refused, if there is one, decides how the block ends
  rcases attempted_cases refusal g.primitives with ⟨h_accepted, h_none, h_all⟩ |
    ⟨before, primitive, after, failure, h_primitives, h_accepted, h_refused, h_some, h_cut⟩
  · rw [h_none] at h_warnings
    exact .passed h_accepted (h_issued.trans h_all) h_warnings
  · rw [h_some] at h_warnings
    exact .failed before after primitive failure h_primitives h_accepted h_refused
      (h_issued.trans h_cut) h_warnings

end Guarded

/-! ### Parts of a turn -/

/-- A part of a turn. -/
inductive Part
  /-- A line was logged. -/
  | line (level : Level) (message : String)
  /-- Work was done on the surface of a handle. -/
  | block (handle : Handle) (g : Guarded)

namespace Part

/-- What a part comes to on a surface that refuses as told. -/
def events (refusal : Primitive → Option Failure) : Part → List Event
  | .line level message => [.say level message]
  | .block handle g => g.events refusal handle

/-- The failure that a part ends its turn with, if it does: a block's, if it cannot be told. -/
def escape (refusal : Primitive → Option Failure) : Part → Option Failure
  | .line .. => none
  | .block _ g => g.escape refusal

/-- No line outside of the blocks is a warning, except that a display is not known. -/
def Plain : Part → Prop
  | .line level message => level = .warn → ∃ display, message = Turn.missingDisplay display
  | .block .. => True

end Part

/-- A turn, and another one on a surface that refuses nothing, by their parts. -/
inductive Parallel (w : Surroundings) (t t' : Turn) : Prop
  /-- The two have the same parts. -/
  | going (parts : List Part) (h_plain : ∀ part ∈ parts, part.Plain)
      (h_told : ∀ part ∈ parts, part.escape w.refusal = none) (h_failure : t.failure = none)
      (h_events : t.events = parts.flatMap (Part.events w.refusal))
      (h_events' : t'.events = parts.flatMap (Part.events fun _ => none)) : Parallel w t t'
  /-- A part has ended the one turn, and the other one has gone on. -/
  | ended (parts : List Part) (last : Part) (later : List Part) (failure : Failure)
      (h_plain : ∀ part ∈ parts ++ last :: later, part.Plain)
      (h_told : ∀ part ∈ parts, part.escape w.refusal = none)
      (h_untold : last.escape w.refusal = some failure) (h_failure : t.failure = some failure)
      (h_events : t.events = (parts ++ [last]).flatMap (Part.events w.refusal))
      (h_events' : t'.events = (parts ++ last :: later).flatMap (Part.events fun _ => none)) :
      Parallel w t t'

/-- A turn on a surface that refuses nothing has gone on by further parts. -/
def Turn.Extends (t t' : Turn) : Prop :=
  ∃ parts : List Part, (∀ part ∈ parts, part.Plain) ∧
    t'.events = t.events ++ parts.flatMap (Part.events fun _ => none)

namespace Turn.Extends

variable {t t' t'' : Turn}

theorem trans (h : t.Extends t') (h' : t'.Extends t'') : t.Extends t'' := by
  obtain ⟨parts, h_plain, h_events⟩ := h
  obtain ⟨parts', h_plain', h_events'⟩ := h'
  refine ⟨parts ++ parts', List.forall_mem_append.mpr ⟨h_plain, h_plain'⟩, ?_⟩
  rw [h_events', h_events, List.flatMap_append, List.append_assoc]

theorem debug (t : Turn) (message : String) : t.Extends (t.debug message) :=
  ⟨[.line .debug message], List.forall_mem_singleton.mpr fun h_warn => (by cases h_warn), rfl⟩

theorem guard (t : Turn) (w : Surroundings) (handle : Handle) (g : Guarded) :
    t.Extends (t.guard w.mended handle g) := by
  refine ⟨[.block handle g], List.forall_mem_singleton.mpr trivial, ?_⟩
  rw [Turn.events_guard, List.flatMap_singleton]
  rfl

theorem applyAlpha (t : Turn) (w : Surroundings) (handle : Handle) (alpha : Float) :
    t.Extends (t.applyAlpha w.mended handle alpha) := by
  have h_after := t.afterAlpha w.mended handle alpha
  generalize t.applyAlpha w.mended handle alpha = t' at h_after ⊢
  cases h_after with
  | inPlace => exact ⟨[], List.forall_mem_nil _, (List.append_nil _).symm⟩
  | settled message => exact (debug t message).trans (guard ..)
  | cutShort message => exact (debug t message).trans (guard ..)

theorem consider (t : Turn) (w : Surroundings) (handle : Handle) (request : PresentRequest) :
    t.Extends (t.consider w.mended handle request) := by
  have h_same : t.Extends t := ⟨[], List.forall_mem_nil _, (List.append_nil _).symm⟩
  unfold Turn.consider Turn.commit
  split_ifs
  · exact applyAlpha t.tookReading w handle request.alpha
  · exact h_same
  · exact h_same

end Turn.Extends

namespace Parallel

variable {d : Dimmer} {w : Surroundings} {t t' t'' : Turn}

/-- What a turn goes on to do makes no difference once the other one has ended. -/
theorem extend (h : Parallel w t t') (h_ended : t.failure ≠ none) (h_extends : t'.Extends t'') :
    Parallel w t t'' := by
  obtain ⟨more, h_more, h_events''⟩ := h_extends
  cases h with
  | going _ _ _ h_going => exact absurd h_going h_ended
  | ended parts last later failure h_plain h_told h_untold h_failure h_events h_events' =>
    have h_later : parts ++ last :: (later ++ more) = parts ++ last :: later ++ more :=
      (List.append_assoc parts (last :: later) more).symm
    refine .ended parts last (later ++ more) failure ?_ h_told h_untold h_failure h_events ?_
    · rw [h_later]
      exact List.forall_mem_append.mpr ⟨h_plain, h_more⟩
    · rw [h_events'', h_events', h_later, ← List.flatMap_append]

/-- Only the events of the two matter, and what has ended the first. -/
theorem congr {u u' : Turn} (h : Parallel w t t') (h_same : u.events = t.events)
    (h_end : u.failure = t.failure) (h_same' : u'.events = t'.events) : Parallel w u u' := by
  cases h with
  | going parts h_plain h_told h_failure h_events h_events' =>
    exact .going parts h_plain h_told (h_end.trans h_failure) (h_same.trans h_events)
      (h_same'.trans h_events')
  | ended parts last later failure h_plain h_told h_untold h_failure h_events h_events' =>
    exact .ended parts last later failure h_plain h_told h_untold (h_end.trans h_failure)
      (h_same.trans h_events) (h_same'.trans h_events')

/-- A line may be added on both sides. -/
theorem say (h : Parallel w t t') (h_going : t.failure = none) {level : Level} {message : String}
    (h_line : (Part.line level message).Plain) :
    Parallel w (t.say level message) (t'.say level message) := by
  cases h with
  | ended _ _ _ _ _ _ _ h_failure => cases h_going.symm.trans h_failure
  | going parts h_plain h_told h_failure h_events h_events' =>
    refine .going (parts ++ [.line level message]) ?_ ?_ h_going ?_ ?_
    · exact List.forall_mem_append.mpr ⟨h_plain, List.forall_mem_singleton.mpr h_line⟩
    · exact List.forall_mem_append.mpr ⟨h_told, List.forall_mem_singleton.mpr rfl⟩
    · rw [List.flatMap_append, ← h_events]
      rfl
    · rw [List.flatMap_append, ← h_events']
      rfl

theorem debug (h : Parallel w t t') (h_going : t.failure = none) (message : String) :
    Parallel w (t.debug message) (t'.debug message) :=
  h.say h_going fun h_warn => by cases h_warn

theorem collapse (h : Parallel w t t') (h_going : t.failure = none) (operation : String) :
    Parallel w (t.collapse operation) (t'.collapse operation) := by
  have h_said : Parallel w (t.say .error (operation ++ ": no surface"))
      (t'.say .error (operation ++ ": no surface")) := h.say h_going fun h_warn => by cases h_warn
  exact h_said.congr rfl rfl rfl

/-- The same block may be carried out on both sides. It ends the first turn if its failure cannot
be told. -/
theorem guard (h : Parallel w t t') (h_going : t.failure = none) (handle : Handle) (g : Guarded) :
    Parallel w (t.guard w handle g) (t'.guard w.mended handle g) := by
  cases h with
  | ended _ _ _ _ _ _ _ h_failure => cases h_going.symm.trans h_failure
  | going parts h_plain h_told h_failure h_events h_events' =>
    have h_plain' : ∀ part ∈ parts ++ [.block handle g], part.Plain :=
      List.forall_mem_append.mpr ⟨h_plain, List.forall_mem_singleton.mpr trivial⟩
    have h_first : (t.guard w handle g).events
        = (parts ++ [Part.block handle g]).flatMap (Part.events w.refusal) := by
      rw [Turn.events_guard, List.flatMap_append, ← h_events, List.flatMap_singleton]
      rfl
    have h_second : (t'.guard w.mended handle g).events
        = (parts ++ [Part.block handle g]).flatMap (Part.events fun _ => none) := by
      rw [Turn.events_guard, List.flatMap_append, ← h_events', List.flatMap_singleton]
      rfl
    have h_end := Turn.failure_guard t w handle g
    -- whether the block can be told decides whether the two turns go on together
    cases h_escape : g.escape w.refusal with
    | none =>
      refine .going _ h_plain' ?_ (h_end.trans h_escape) h_first h_second
      exact List.forall_mem_append.mpr ⟨h_told, List.forall_mem_singleton.mpr h_escape⟩
    | some failure =>
      exact .ended parts (.block handle g) [] failure h_plain' h_told h_escape
        (h_end.trans h_escape) h_first h_second

/-! ### Operations -/

theorem place (h : Parallel w t t') (h_alike : Alike d t t') (handle : Handle) (layer : Float) :
    Parallel w (t.place w handle layer) (t'.place w.mended handle layer) := by
  cases h_display : w.display with
  | none =>
    -- both turns warn of the display, and have nothing to place
    rw [Turn.place_of_unseen h_display, Turn.place_of_unseen (w := w.mended) h_display,
      ← h_alike.dimmer]
    exact h.say h_alike.going fun _ => ⟨_, rfl⟩
  | some size =>
    cases h_differs : t.dimmer.footprint.differs (Placing.mk size layer).footprint with
    | false =>
      -- the two dimmers have the same footprint, so neither or both place
      rw [Turn.place_of_same h_display h_differs,
        Turn.place_of_same (w := w.mended) h_display (h_alike.dimmer ▸ h_differs)]
      exact h
    | true =>
      rw [Turn.place_of_differs h_display h_differs,
        Turn.place_of_differs (w := w.mended) h_display (h_alike.dimmer ▸ h_differs),
        Turn.andThen_of_going (Turn.going_guard_mended ..)]
      have h_block := h.guard h_alike.going handle (.placing ⟨size, layer⟩)
      exact Turn.andThen_cases (P := fun u => Parallel w u (Turn.update _ _))
        (fun _ => h_block.congr rfl rfl rfl) fun _ => h_block.congr rfl rfl rfl

theorem applyAlpha (h : Parallel w t t') (h_alike : Alike d t t') (handle : Handle)
    (alpha : Float) : Parallel w (t.applyAlpha w handle alpha)
      (t'.applyAlpha w.mended handle alpha) := by
  cases h_alpha : t.dimmer.alpha == alpha with
  | true =>
    rw [Turn.applyAlpha_of_inPlace h_alpha,
      Turn.applyAlpha_of_inPlace (w := w.mended) (h_alike.dimmer ▸ h_alpha)]
    exact h
  | false =>
    rw [Turn.applyAlpha_of_ne h_alpha,
      Turn.applyAlpha_of_ne (w := w.mended) (h_alike.dimmer ▸ h_alpha), ← h_alike.dimmer,
      Turn.andThen_of_going (Turn.going_guard_mended ..)]
    -- the same change of visibility is due on both sides, whether it will come about or not
    have h_block := (h.debug h_alike.going s!"alpha_apply: alpha={Number.text alpha}").guard
      h_alike.going handle (.applying alpha (t.dimmer.visibilityAt alpha))
    exact Turn.andThen_cases (P := fun u => Parallel w u (Turn.update _ _))
      (fun _ => h_block.congr rfl rfl rfl) fun _ => h_block.congr rfl rfl rfl

theorem consider (h : Parallel w t t') (h_alike : Alike d t t') (handle : Handle)
    (request : PresentRequest) :
    Parallel w (t.consider w handle request) (t'.consider w.mended handle request) := by
  have h_read : Parallel w t.tookReading t'.tookReading := h.congr rfl rfl rfl
  unfold Turn.consider Turn.commit
  rw [h_alike.now_eq, ← h_alike.dimmer]
  split_ifs
  · exact h_read.applyAlpha h_alike.tookReading handle request.alpha
  · exact h_read.congr rfl rfl rfl
  · exact h_read

/-- Both log the timeline that they have now. -/
theorem logTimeline (h : Parallel w t t') (h_going : t.failure = none) (h_twin : Twin d t t') :
    Parallel w t.logTimeline t'.logTimeline := by
  have h_timeline : t.dimmer.timeline = t'.dimmer.timeline :=
    (congrArg Dimmer.timeline h_twin.others).trans rfl
  unfold Turn.logTimeline
  rw [h_timeline]
  exact h.debug h_going _

theorem present (h : Parallel w t t') (h_alike : Alike d t t') (request : PresentRequest) :
    Parallel w (t.present w request) (t'.present w.mended request) := by
  cases h_handle : t.dimmer.handle with
  | none =>
    unfold Turn.present
    dsimp only
    rw [Turn.dimmer_debug, Turn.dimmer_debug, ← h_alike.dimmer, h_handle]
    exact (h.debug h_alike.going _).collapse h_alike.going "present"
  | some handle =>
    have h_handle' : t'.dimmer.handle = some handle := h_alike.dimmer ▸ h_handle
    obtain ⟨message, h_present⟩ := Turn.exists_message_present request
    rw [h_present h_handle, h_present h_handle']
    have h_said := h_alike.say .debug message message
    have h_placed := (h.debug h_alike.going message).place h_said handle request.layer
    -- the second turn gets through all its steps
    have h_start : Turn.Moves w.mended t' t' := .none
    have h_moves :
        Turn.Moves w.mended t' ((t'.debug message).place w.mended handle request.layer) :=
      (h_start.said .debug message).placed h_handle' request.layer
    have h_held : ((t'.debug message).place w.mended handle request.layer).dimmer.handle
      = some handle := (Turn.handle_place ..).trans h_handle'
    have h_going' := h_moves.going w.describable_mended h_alike.going'
    have h_going'' := (h_moves.consider h_held request).going w.describable_mended h_alike.going'
    rw [Turn.andThen_of_going h_going', Turn.andThen_of_going h_going'']
    -- the first may end at either of two
    by_cases h_here : ((t.debug message).place w handle request.layer).failure = none
    · rw [Turn.andThen_of_going h_here]
      have h_alike' := h_said.place h_here
      have h_considered := h_placed.consider h_alike' handle request
      by_cases h_there :
          (((t.debug message).place w handle request.layer).consider w handle
            request).failure = none
      · rw [Turn.andThen_of_going h_there]
        exact (h_considered.logTimeline h_there (h_alike'.consider h_there)).congr rfl rfl rfl
      · rw [Turn.andThen_of_ended h_there]
        exact h_considered.extend h_there (.debug ..)
    · rw [Turn.andThen_of_ended h_here]
      exact h_placed.extend h_here ((Turn.Extends.consider ..).trans (.debug ..))

theorem fadeOut (h : Parallel w t t') (h_alike : Alike d t t') (duration : Float) :
    Parallel w (t.fadeOut w duration) (t'.fadeOut w.mended duration) := by
  unfold Turn.fadeOut
  rw [← h_alike.dimmer]
  exact (h.debug h_alike.going _).present (h_alike.say .debug _ _) _

theorem dismiss (h : Parallel w t t') (h_alike : Alike d t t') (request : DismissRequest) :
    Parallel w (t.dismiss w request) (t'.dismiss w.mended request) := by
  have h_read : Parallel w t.tookReading t'.tookReading := h.congr rfl rfl rfl
  unfold Turn.dismiss
  rw [h_alike.now_eq, ← h_alike.dimmer]
  cases t.dimmer.handle with
  | none => exact h.collapse h_alike.going "dismiss"
  | some handle =>
    dsimp only
    -- hidden, heading elsewhere, outrun and held back; the last two have read the clock
    split_ifs
    · exact h
    · exact h.fadeOut h_alike request.duration
    · exact h_read.fadeOut h_alike.tookReading request.duration
    · exact h_read

theorem hideNow (h : Parallel w t t') (h_alike : Alike d t t') :
    Parallel w (t.hideNow w) (t'.hideNow w.mended) := by
  unfold Turn.hideNow
  rw [← h_alike.dimmer]
  cases t.dimmer.handle with
  | none => exact h.collapse h_alike.going "hideNow"
  | some handle =>
    dsimp only
    split_ifs
    · exact (h.debug h_alike.going _).dismiss (h_alike.say .debug _ _) _
    · exact h

theorem jumpToEnd (h : Parallel w t t') (h_alike : Alike d t t') :
    Parallel w (t.jumpToEnd w) (t'.jumpToEnd w.mended) := by
  unfold Turn.jumpToEnd
  rw [← h_alike.dimmer]
  cases t.dimmer.handle with
  | none => exact h.collapse h_alike.going "jumpToEnd"
  | some handle =>
    dsimp only
    split_ifs
    · exact (h.debug h_alike.going _).present (h_alike.say .debug _ _) _
    · exact h

theorem advance (h : Parallel w t t') (h_alike : Alike d t t') :
    Parallel w (t.advance w) (t'.advance w.mended) := by
  have h_read : Parallel w t.tookReading t'.tookReading := h.congr rfl rfl rfl
  unfold Turn.advance
  rw [h_alike.now_eq, ← h_alike.dimmer]
  cases t.dimmer.handle with
  | none => exact h.collapse h_alike.going "advance"
  | some handle =>
    dsimp only
    split_ifs
    · exact (h_read.debug h_alike.going _).applyAlpha (h_alike.tookReading.say .debug _ _) handle _
    · exact h

theorem release (h : Parallel w t t') (h_alike : Alike d t t') :
    Parallel w (t.release w) (t'.release w.mended) := by
  cases h_handle : t.dimmer.handle with
  | none =>
    unfold Turn.release
    rw [← h_alike.dimmer, h_handle]
    exact h
  | some handle =>
    rw [Turn.release_of_handle h_handle, Turn.release_of_handle (h_alike.dimmer ▸ h_handle)]
    have h_said := h.debug h_alike.going "release: destroying surface"
    -- the hold is given up on both sides before the block
    have h_given (change : Dimmer → Dimmer) :
        Parallel w ((t.debug "release: destroying surface").update change)
          ((t'.debug "release: destroying surface").update change) := h_said.congr rfl rfl rfl
    exact (h_given _).guard h_alike.going handle .ending

end Parallel

/-! ### Steps -/

namespace Dimmer

/-- **What a step consists of does not depend on what is refused**, as long as it lasts. -/
theorem parallel_turn (d : Dimmer) (s : Step) :
    Parallel s.surroundings (d.turn s) (d.turn s.mended) := by
  obtain ⟨operation, w⟩ := s
  have h : Parallel w { dimmer := d } { dimmer := d } :=
    .going [] (List.forall_mem_nil _) (List.forall_mem_nil _) rfl rfl rfl
  change Parallel w (d.perform w operation).1 (d.perform w.mended operation).1
  cases operation with
  | present layer alpha duration =>
    dsimp only [perform]
    cases PresentRequest.check layer alpha duration with
    | error failure => exact h
    | ok request => exact h.present d.alike_self request
  | dismiss duration =>
    dsimp only [perform]
    cases DismissRequest.check duration with
    | error failure => exact h
    | ok request => exact h.dismiss d.alike_self request
  | hideNow => exact h.hideNow d.alike_self
  | jumpToEnd => exact h.jumpToEnd d.alike_self
  | advance => exact h.advance d.alike_self
  | release => exact h.release d.alike_self

/-- What an operation that is ended early leaves behind: the dimmer that it found, its footprint
apart, or one that has been released. -/
def LeftAsFound (d : Dimmer) (s : Step) : Prop :=
  (∃ footprint, (d.turn s).dimmer = { d with footprint }) ∨
    s.operation = .release ∧
      (d.turn s).dimmer = { d.collapsed with handle := none, showing := false }

theorem leftAsFound_of_ended {d : Dimmer} {s : Step} (h_ended : (d.turn s).failure ≠ none) :
    d.LeftAsFound s := by
  have h_course := d.course s
  -- without a surface there is no block that could end the turn
  have h_absent (h_none : d.handle = none) : (d.turn s).failure = none :=
    ((d.moves s).of_absent h_none).2
  unfold LeftAsFound
  generalize d.turn s = t at h_course h_ended h_absent ⊢
  cases h_course with
  | idle t h_same => exact Or.inl ⟨d.footprint, h_same⟩
  | collapsed t h_handle h_rest => exact absurd (h_absent h_handle) h_ended
  | presented t handle request _ _ _ h_going => exact absurd h_going h_ended
  | advanced t handle _ _ _ _ _ h_going => exact absurd h_going h_ended
  | released t h_operation h_rest => exact Or.inr ⟨h_operation, h_rest⟩
  | cutShort t handle footprint h_handle h_ended h_cut => exact Or.inl ⟨footprint, h_cut⟩

/-- **Refusals stay inside their blocks, unless they cannot be told.** Whatever is refused in a step
with valid arguments, the turn has the same parts as on a surface that refuses nothing, as far as it
goes. In each guarded block, the primitives after the first refused one are not issued, and there is
one warning, with that refusal as its cause; a block that is not refused goes through without one.
No line outside of the blocks is a warning but that of a display that is not known.

If all that is refused can be told, the turn has all the parts; the operation does not fail, and it
answers the same and leaves the dimmer the same, but for the visibility. A block whose failure
cannot be told is the last part of its turn: the operation fails with the failure to tell it, and
the dimmer is left as it was found. Nothing is assumed of the dimmer. -/
theorem refusals_contained (d : Dimmer) (s : Step) (h_valid : s.operation.Valid) :
    let refusal := s.surroundings.refusal
    ∃ parts later : List Part,
      (d.turn s).events = parts.flatMap (Part.events refusal) ∧
      (d.turn s.mended).events = (parts ++ later).flatMap (Part.events fun _ => none) ∧
      (∃ result, d.answer s.mended = .ok result) ∧
      (∀ handle g, .block handle g ∈ parts → g.Contained refusal (g.events refusal handle)) ∧
      (∀ message, .line .warn message ∈ parts ++ later →
        ∃ display, message = Turn.missingDisplay display) ∧
      ((∀ part ∈ parts, part.escape refusal = none) →
        later = [] ∧ d.answer s = d.answer s.mended ∧
          (d.turn s).dimmer
            = { (d.turn s.mended).dimmer with showing := (d.turn s).dimmer.showing }) ∧
      (∀ part ∈ parts, ∀ failure, part.escape refusal = some failure →
        parts.getLast? = some part ∧ d.answer s = .error failure ∧ d.LeftAsFound s) := by
  intro refusal
  have h_contained (parts : List Part) (handle : Handle) (g : Guarded)
      (_ : .block handle g ∈ parts) : g.Contained refusal (g.events refusal handle) :=
    g.contained refusal handle
  have h_mended : ∃ result, d.answer s.mended = .ok result :=
    ⟨_, answer_of_going (s := s.mended) h_valid (d.going_turn_mended s)⟩
  cases d.parallel_turn s with
  | going parts h_plain h_told h_failure h_events h_events' =>
    -- all parts went through, and the mended turn has no others
    refine ⟨parts, [], h_events, ?_, h_mended, h_contained parts, ?_, ?_, ?_⟩
    · rw [List.append_nil, h_events']
    · rw [List.append_nil]
      exact fun message h_mem => h_plain _ h_mem rfl
    · exact fun _ => ⟨rfl, (d.answer_mended_iff s).mpr h_failure, (twin_turn h_failure).others⟩
    · intro part h_part failure h_untold
      cases (h_told part h_part).symm.trans h_untold
  | ended parts last later failure h_plain h_told h_untold h_failure h_events h_events' =>
    have h_all : parts ++ [last] ++ later = parts ++ last :: later := List.append_assoc ..
    refine ⟨parts ++ [last], later, h_events, ?_, h_mended, h_contained _, ?_, ?_, ?_⟩
    · rw [h_all, h_events']
    · rw [h_all]
      exact fun message h_mem => h_plain _ h_mem rfl
    · -- the last part was not told, against what is assumed here
      intro h_all_told
      have h_last := h_all_told last (List.mem_append_right _ (List.mem_singleton_self last))
      cases h_last.symm.trans h_untold
    · intro part h_part failure' h_untold'
      rcases List.mem_append.mp h_part with h_before | h_last
      · cases (h_told part h_before).symm.trans h_untold'
      · -- the one part that could not be told is the last one
        obtain rfl := List.mem_singleton.mp h_last
        obtain rfl := Option.some.inj (h_untold.symm.trans h_untold')
        refine ⟨List.getLast?_concat, answer_of_ended h_failure, ?_⟩
        exact leftAsFound_of_ended (h_failure ▸ Option.some_ne_none failure)

/-- To dim at once, on a surface that will not be resized and takes no alpha. -/
def stubbornPresent : Step :=
  ⟨.present (.number 5) (.number 0.8) (.number 0),
    { Surroundings.calm 0 with
      refusal := fun p =>
        if p.kind = .size ∨ p.kind = .alpha then some (.refused p.kind) else none }⟩

/-- To dim at once, on a surface that refuses an alpha with an object that has no text. -/
def speechlessPresent : Step :=
  ⟨.present (.number 5) (.number 0.8) (.number 0),
    { Surroundings.calm 0 with
      refusal := fun p =>
        if p.kind = .alpha then some (.raised (.record [("toString", .null)])) else none }⟩

theorem describable_stubbornPresent : stubbornPresent.surroundings.Describable := by
  intro primitive failure h_refused
  change (if primitive.kind = .size ∨ primitive.kind = .alpha then
    some (Failure.refused primitive.kind) else none) = some failure at h_refused
  split_ifs at h_refused
  cases h_refused
  cases primitive.kind <;> rfl

/-- Both blocks of the stubborn surface are cut short at their refusal: of the five calls that were
due, two are not made, and two warnings are logged. The dimmer is at its new alpha all the same. On
the speechless surface the operation fails, and the dimmer does not even have its new target. -/
theorem refusals_contained_of_stubbornPresent :
    stubbornPresent.operation.Valid ∧
      fresh.answer stubbornPresent = .ok none ∧
      (fresh.turn stubbornPresent).dimmer.alpha
        = (fresh.turn stubbornPresent.mended).dimmer.alpha ∧
      (issued (fresh.turn stubbornPresent).events).length = 3 ∧
      (issued (fresh.turn stubbornPresent.mended).events).length = 5 ∧
      ((fresh.turn stubbornPresent).events.filter Event.isWarning).length = 2 ∧
      speechlessPresent.operation.Valid ∧
      fresh.answer speechlessPresent = .error .notDescribable ∧
      fresh.LeftAsFound speechlessPresent ∧
      ((fresh.turn speechlessPresent).events.filter Event.isWarning).length = 1 := by
  have h_valid : stubbornPresent.operation.Valid := ⟨_, rfl⟩
  have h_valid' : speechlessPresent.operation.Valid := ⟨_, rfl⟩
  obtain ⟨parts, later, -, -, -, -, -, h_goes_on, -⟩ :=
    fresh.refusals_contained stubbornPresent h_valid
  have h_told : ∀ part ∈ parts, part.escape stubbornPresent.surroundings.refusal = none := by
    rintro (⟨level, message⟩ | ⟨handle, g⟩) -
    · rfl
    · exact g.escape_of_describable describable_stubbornPresent
  obtain ⟨-, h_answer, h_dimmer⟩ := h_goes_on h_told
  have h_alpha := congrArg Dimmer.alpha h_dimmer
  dsimp only at h_alpha
  obtain ⟨parts', later', -, -, -, -, -, h_goes_on', h_ends⟩ :=
    fresh.refusals_contained speechlessPresent h_valid'
  have h_error : fresh.answer speechlessPresent = .error .notDescribable := rfl
  -- were all parts told, the answer would be that of a surface that refuses nothing
  have h_untold : ∃ part ∈ parts', part.escape speechlessPresent.surroundings.refusal ≠ none := by
    by_contra h_none
    have h_all_told (part : Part) (h_part : part ∈ parts') :
        part.escape speechlessPresent.surroundings.refusal = none :=
      by_contra fun h_escape => h_none ⟨part, h_part, h_escape⟩
    cases h_error.symm.trans (h_goes_on' h_all_told).2.1
  obtain ⟨part, h_part, h_escape⟩ := h_untold
  obtain ⟨failure, h_escape⟩ := Option.ne_none_iff_exists'.mp h_escape
  obtain ⟨-, -, h_left⟩ := h_ends part h_part failure h_escape
  refine ⟨h_valid, h_answer.trans rfl, h_alpha, ?_, ?_, ?_, h_valid', h_error, h_left, ?_⟩ <;>
    decide +kernel

end Dimmer

end Scrim

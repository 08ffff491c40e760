import Scrim.Proofs.Dimmer.Creation
import Scrim.Proofs.Dimmer.Visibility

/-!
# What a surface was last told

A dimmer never asks its surface whether it shows, but remembers what it told it. While nothing is
refused, what it remembers is what the surface was last told (`InStep`), and so a dimmer that holds
a surface shows if its alpha is above zero, and if the last of the calls to show or hide that
surface was to show it, and not otherwise (`Dimmer.visibility_of_run`).

Applying an alpha is the only move that tells a surface either, and it takes over what it has told.
-/

namespace Scrim

open Number

/-! ### Calls to show and hide -/

/-- What an event tells a surface about its visibility: to show, to hide, or nothing. -/
def Event.visibility? (surface : Nat) : Event → Option Bool
  | .call id .show _ => if id = surface then some true else none
  | .call id .hide _ => if id = surface then some false else none
  | _ => none

/-- What a surface was last told about its visibility among some events. -/
def lastTold (surface : Nat) (events : List Event) : Option Bool :=
  (events.filterMap (Event.visibility? surface)).getLast?

section LastTold

variable {surface : Nat} {events later : List Event}

theorem lastTold_append :
    lastTold surface (events ++ later) = (lastTold surface later).or (lastTold surface events) := by
  rw [lastTold, List.filterMap_append, List.getLast?_append]
  rfl

/-- Events that say nothing of the visibility change nothing of what was last told. -/
theorem lastTold_append_of_quiet (h : ∀ e ∈ later, e.visibility? surface = none) :
    lastTold surface (events ++ later) = lastTold surface events := by
  have h_none : lastTold surface later = none := by
    rw [lastTold, List.filterMap_eq_nil_iff.mpr h]
    rfl
  rw [lastTold_append, h_none, Option.none_or]

/-- Issuing a primitive tells the surface what its call does. -/
theorem lastTold_issue (handle : Handle) (primitive : Primitive) (refusal : Option Failure) :
    lastTold surface (handle.issue primitive refusal)
      = Event.visibility? surface (.call handle.id primitive refusal) := by
  rw [lastTold, Handle.filterMap_issue fun _ => rfl]
  cases Event.visibility? surface (.call handle.id primitive refusal) <;> rfl

/-- A block that applies an alpha tells the surface what the alpha does to its visibility. -/
theorem lastTold_run_alpha {w : Surroundings} (hw : w.Accepting) (handle : Handle) (alpha : Float)
    (change : Option Bool) :
    lastTold handle.id
        (Block.run w.refusal handle (.issue (.alpha alpha) :: Turn.visibilityActs change)).events
      = change := by
  have h_alpha : lastTold handle.id (handle.issue (.alpha alpha) none) = none := lastTold_issue ..
  rw [Block.run_issue_of_accepted (hw _), Block.Outcome.after, lastTold_append, h_alpha,
    Option.or_none]
  cases change with
  | none => rfl
  | some visible =>
    -- the note before the primitive tells nothing
    cases visible with
    | false =>
      change lastTold handle.id ([.say .debug "alpha_apply: hiding"]
        ++ (Block.run w.refusal handle [.issue .hide]).events) = _
      rw [Block.run_singleton, lastTold_append, lastTold_issue]
      simp [Event.visibility?]
    | true =>
      change lastTold handle.id ([.say .debug "alpha_apply: showing"]
        ++ (Block.run w.refusal handle [.issue .show]).events) = _
      rw [Block.run_singleton, lastTold_append, lastTold_issue]
      simp [Event.visibility?]

/-- The report of a block tells the surface nothing that its acts did not. -/
theorem lastTold_reported (context : String) (outcome : Block.Outcome) :
    lastTold surface (outcome.reported context) = lastTold surface outcome.events := by
  unfold Block.Outcome.reported
  split
  · rfl
  · apply lastTold_append_of_quiet
    intro e he
    rw [List.mem_singleton.mp he]
    rfl

end LastTold

/-! ### In step with the surface -/

/-- A dimmer that holds a surface remembers what it last told it, and that it shows if it ever told
it so. -/
def InStep (d : Dimmer) (past : List Event) : Prop :=
  ∀ handle, d.handle = some handle → d.showing = (lastTold handle.id past).getD false

theorem InStep.of_quiet {d d' : Dimmer} {past later : List Event} (h : InStep d past)
    (h_handle : d'.handle = d.handle) (h_showing : d'.showing = d.showing)
    (h_quiet : ∀ e ∈ later, ∀ surface, e.visibility? surface = none) :
    InStep d' (past ++ later) := by
  intro handle h_held
  rw [lastTold_append_of_quiet fun e he => h_quiet e he handle.id, h_showing]
  exact h handle (h_handle.symm.trans h_held)

/-- The dimmer takes over what a new alpha has told its surface. -/
theorem InStep.applied {w : Surroundings} {d d' : Dimmer} {past later : List Event} {alpha : Float}
    {handle : Handle} (h : InStep d past) (h_applied : Applied w d alpha d') (hw : w.Accepting)
    (h_ne : (d.alpha == alpha) = false) (h_handle : d.handle = some handle)
    (h_told : lastTold handle.id later = d.visibilityAt alpha) : InStep d' (past ++ later) := by
  cases h_applied with
  | inPlace h_same => cases h_ne.symm.trans h_same
  | changed _ showing h_showing =>
    intro handle' h_held
    obtain rfl : handle = handle' := Option.some.inj (h_handle.symm.trans h_held)
    change showing = _
    rw [lastTold_append, h_told, Option.getD_or, ← h handle h_handle]
    exact h_showing hw

/-- Placing tells a surface nothing of its visibility. -/
theorem Turn.events_place (t : Turn) (w : Surroundings) (handle : Handle) (layer : Float) :
    ∃ later, (t.place w handle layer).events = t.events ++ later ∧
      ∀ e ∈ later, ∀ surface, e.visibility? surface = none := by
  have h_block (p : Placing) :
      ∀ e ∈ (Guarded.placing p).events w.refusal handle,
        ∀ surface, e.visibility? surface = none := by
    intro e he surface
    rcases Guarded.mem_events he with ⟨line, rfl⟩ | ⟨primitive, h_mem, rfl⟩
    · rfl
    · -- none of the three primitives shows or hides
      rcases Guarded.mem_primitives_placing h_mem with rfl | rfl | rfl <;> rfl
  have h_after := t.afterPlace w handle layer
  generalize t.place w handle layer = t' at h_after ⊢
  cases h_after with
  | unseen =>
    -- a warning is no call
    refine ⟨_, rfl, ?_⟩
    intro e he surface
    rw [List.mem_singleton.mp he]
    rfl
  | inPlace => exact ⟨[], (List.append_nil _).symm, fun e he => by cases he⟩
  | settled => exact ⟨_, rfl, h_block _⟩
  | cutShort => exact ⟨_, rfl, h_block _⟩

/-- Applying an alpha that is not in place says so and carries out the block, whether that is cut
short or not. -/
theorem Turn.events_applyAlpha {t : Turn} {alpha : Float} (h : (t.dimmer.alpha == alpha) = false)
    (w : Surroundings) (handle : Handle) :
    ∃ message, (t.applyAlpha w handle alpha).events
      = t.events ++ ([.say .debug message] ++
          (Guarded.applying alpha (t.dimmer.visibilityAt alpha)).events w.refusal handle) := by
  have h_after := t.afterAlpha w handle alpha
  generalize t.applyAlpha w handle alpha = t' at h_after ⊢
  cases h_after with
  | inPlace h_alpha => cases h.symm.trans h_alpha
  | settled message => exact ⟨message, List.append_assoc ..⟩
  | cutShort message => exact ⟨message, List.append_assoc ..⟩

/-- **Each move that is not refused keeps the dimmer in step with its surface.** -/
theorem InStep.moves {w : Surroundings} {t t' : Turn} {past : List Event} (hw : w.Accepting)
    (h : InStep t.dimmer (past ++ t.events)) (h_moves : Turn.Moves w t t') :
    InStep t'.dimmer (past ++ t'.events) := by
  induction h_moves with
  | none => exact h
  | @said t' _ level message ih =>
    rw [Turn.say, Turn.events_emit, ← List.append_assoc]
    apply ih.of_quiet rfl rfl
    intro e he surface
    rw [List.mem_singleton.mp he]
    rfl
  | read _ ih => exact ih
  | @placed t' _ handle h_handle layer ih =>
    obtain ⟨later, h_events, h_quiet⟩ := t'.events_place w handle layer
    obtain ⟨footprint, h_place⟩ := t'.dimmer_place w handle layer
    rw [h_events, ← List.append_assoc, h_place]
    exact ih.of_quiet rfl rfl h_quiet
  | @applied t' _ handle h_handle alpha ih =>
    cases h_alpha : t'.dimmer.alpha == alpha with
    | true =>
      rw [Turn.applyAlpha_of_inPlace h_alpha]
      exact ih
    | false =>
      obtain ⟨message, h_events⟩ := Turn.events_applyAlpha h_alpha w handle
      have h_going := Turn.going_applyAlpha hw.describable h_alpha handle
      rw [h_events, ← List.append_assoc]
      refine ih.applied (Turn.applied h_going) hw h_alpha h_handle ?_
      -- the line that announces the alpha tells the surface nothing
      rw [lastTold_append, Guarded.events, lastTold_reported]
      exact (congrArg (Option.or · _) (lastTold_run_alpha hw ..)).trans Option.or_none
  | timed _ _ _ ih => exact ih
  | aimed _ _ _ ih => exact ih
  | @released t' _ handle h_handle _ =>
    intro handle' h_held
    rw [Turn.release_of_handle h_handle] at h_held
    cases h_held
  | @collapsed t' _ h_none operation _ =>
    intro handle' h_held
    cases h_none.symm.trans h_held

theorem inStep_new (options : Options) (display : Float)
    (admission : SurfaceRequest → Except Failure Handle) (refusal : Primitive → Option Failure) :
    InStep (Dimmer.new options display admission refusal)
      (Dimmer.create options display admission refusal).events := by
  obtain ⟨held, h_new⟩ := Dimmer.new_eq options display admission refusal
  intro handle _
  -- nothing that a creation does shows or hides
  have h_quiet : lastTold handle.id (Dimmer.create options display admission refusal).events
      = none := by
    rw [← List.nil_append (Dimmer.create options display admission refusal).events]
    apply lastTold_append_of_quiet
    intro e he
    cases e with
    | call surface primitive answer =>
      rw [Dimmer.primitive_of_call_mem_create _ _ _ _ he]
      rfl
    | log | requested | opened | closed => rfl
  rw [h_quiet, h_new]
  rfl

/-- A run that is not refused keeps the dimmer in step with its surface. -/
theorem InStep.after {d : Dimmer} {past : List Event} {steps : List Step} (h : InStep d past)
    (h_accepting : ∀ s ∈ steps, s.surroundings.Accepting) :
    InStep (d.after steps) (past ++ d.events steps) :=
  Dimmer.moves_induction InStep.moves h h_accepting

/-- **A dimmer shows exactly if its alpha is above zero, and if its surface was last told to show.**
The dimmer was created anyhow and has since taken any steps, at none of which its surface refused
anything, with any display and a proper clock. -/
theorem Dimmer.visibility_of_run (options : Options) (display : Float)
    (admission : SurfaceRequest → Except Failure Handle) (refusal : Primitive → Option Failure)
    (steps : List Step) (h_accepting : ∀ s ∈ steps, s.surroundings.Accepting)
    (h_clock : Chronological ((new options display admission refusal).clock steps)) :
    let d := (new options display admission refusal).after steps
    let events := (create options display admission refusal).events
      ++ (new options display admission refusal).events steps
    (d.showing = true ↔ 0 < d.alpha) ∧
      ∀ handle, d.handle = some handle →
        (d.showing = true ↔ lastTold handle.id events = some true) := by
  intro d events
  have h_visible : Visible d := (visible_new options display admission refusal).after
    (sound_new options display admission refusal) h_accepting h_clock
  have h_inStep : InStep d events :=
    (inStep_new options display admission refusal).after h_accepting
  refine ⟨h_visible.showing_iff, ?_⟩
  intro handle h_handle
  rw [h_inStep handle h_handle]
  -- a surface that was told nothing is hidden
  cases lastTold handle.id events with
  | none => exact iff_of_false Bool.false_ne_true (Option.some_ne_none true).symm
  | some visible => exact Option.some_inj.symm

/-- Half-way through a fade-in the dimmer shows, and has told its surface so. -/
theorem Dimmer.visibility_of_halfFadeIn :
    (fresh.after halfFadeIn).showing = true ∧
      lastTold 0 ((create {} 0 (fun request => .ok { id := 0, name := request.name })
        fun _ => none).events ++ fresh.events halfFadeIn) = some true := by
  have h_clock : Chronological (fresh.clock halfFadeIn) := ⟨by decide +kernel, by decide +kernel⟩
  have h_visibility := visibility_of_run _ _ _ _ halfFadeIn accepting_halfFadeIn h_clock
  rw [← fresh_eq] at h_visibility
  have h_pos : 0 < (fresh.after halfFadeIn).alpha := by decide +kernel
  have h_showing := h_visibility.1.mpr h_pos
  have h_handle : (fresh.after halfFadeIn).handle = some { id := 0, name := "DimSurface" } := by
    decide +kernel
  exact ⟨h_showing, (h_visibility.2 _ h_handle).mp h_showing⟩

end Scrim

import Scrim.Proofs.Dimmer.Course

/-!
# The moves of a turn

Every operation is put together from a few moves: a line is logged, the clock is read, the surface
is placed, an alpha is applied, a timeline is started, a target is recorded, the surface is given
up, or there is none and the dimmer comes to rest. `Turn.Moves` lists them, and `Dimmer.moves` says
that each step is made of them. What each move keeps, each step therefore keeps, and since a move
comes with the events that it leaves behind, this holds of what is said and issued on the way as
well (`Dimmer.moves_induction`).

All moves but the first two know whether the dimmer has a surface. Without one it can only come to
rest.
-/

namespace Scrim

namespace Turn

/-- What a turn can have become by moves. -/
inductive Moves (w : Surroundings) (t : Turn) : Turn → Prop
  /-- No move has been made. -/
  | none : Moves w t t
  /-- A line was logged. -/
  | said {t' : Turn} (h : Moves w t t') (level : Level) (message : String) :
      Moves w t (t'.say level message)
  /-- The clock was read. -/
  | read {t' : Turn} (h : Moves w t t') : Moves w t t'.tookReading
  /-- The surface was placed. -/
  | placed {t' : Turn} (h : Moves w t t') {handle : Handle}
      (h_handle : t'.dimmer.handle = some handle) (layer : Float) :
      Moves w t (t'.place w handle layer)
  /-- An alpha was applied. -/
  | applied {t' : Turn} (h : Moves w t t') {handle : Handle}
      (h_handle : t'.dimmer.handle = some handle) (alpha : Float) :
      Moves w t (t'.applyAlpha w handle alpha)
  /-- A timeline was started. -/
  | timed {t' : Turn} (h : Moves w t t') {handle : Handle}
      (h_handle : t'.dimmer.handle = some handle) (timeline : Timeline) :
      Moves w t (t'.update fun d => { d with timeline })
  /-- A target was recorded. -/
  | aimed {t' : Turn} (h : Moves w t t') {handle : Handle}
      (h_handle : t'.dimmer.handle = some handle) (target : Float) :
      Moves w t (t'.update fun d => { d with target })
  /-- The surface was given up. -/
  | released {t' : Turn} (h : Moves w t t') {handle : Handle}
      (h_handle : t'.dimmer.handle = some handle) : Moves w t (t'.release w)
  /-- There was no surface, and the dimmer came to rest. -/
  | collapsed {t' : Turn} (h : Moves w t t') (h_handle : t'.dimmer.handle = none)
      (operation : String) : Moves w t (t'.collapse operation)

/-! ### The hold on the surface -/

theorem handle_place (t : Turn) (w : Surroundings) (handle : Handle) (layer : Float) :
    (t.place w handle layer).dimmer.handle = t.dimmer.handle := by
  obtain ⟨footprint, h_place⟩ := dimmer_place t w handle layer
  rw [h_place]

theorem handle_applyAlpha (t : Turn) (w : Surroundings) (handle : Handle) (alpha : Float) :
    (t.applyAlpha w handle alpha).dimmer.handle = t.dimmer.handle := by
  have h_after := t.afterAlpha w handle alpha
  generalize t.applyAlpha w handle alpha = t' at h_after ⊢
  cases h_after <;> rfl

theorem handle_commit (t : Turn) (w : Surroundings) (handle : Handle) (request : PresentRequest)
    (now : Float) : (t.commit w handle request now).dimmer.handle = t.dimmer.handle := by
  unfold commit
  split
  · exact handle_applyAlpha t w handle request.alpha
  · rfl

theorem handle_consider (t : Turn) (w : Surroundings) (handle : Handle)
    (request : PresentRequest) : (t.consider w handle request).dimmer.handle = t.dimmer.handle := by
  unfold consider
  split
  · exact handle_commit t.tookReading w handle request _
  · rfl

/-- Giving the surface up, step by step. -/
theorem release_of_handle {t : Turn} {handle : Handle} (h_handle : t.dimmer.handle = some handle)
    (w : Surroundings) :
    t.release w = ((t.debug "release: destroying surface").update
      fun d => { d.collapsed with handle := Option.none, showing := false }).guard w handle
        .ending := by
  unfold release
  rw [h_handle]
  rfl

/-! ### Operations -/

namespace Moves

variable {w : Surroundings} {t t' : Turn} {handle : Handle}

theorem commit (h : Moves w t t') (h_handle : t'.dimmer.handle = some handle)
    (request : PresentRequest) (now : Float) : Moves w t (t'.commit w handle request now) := by
  unfold Turn.commit
  split
  · exact h.applied h_handle request.alpha
  · exact h.timed h_handle ⟨t'.dimmer.alpha, now, request.duration⟩

theorem consider (h : Moves w t t') (h_handle : t'.dimmer.handle = some handle)
    (request : PresentRequest) : Moves w t (t'.consider w handle request) := by
  unfold Turn.consider
  split
  · exact h.read.commit h_handle request _
  · exact h.read

theorem present (h : Moves w t t') (request : PresentRequest) :
    Moves w t (t'.present w request) := by
  cases h_handle : t'.dimmer.handle with
  | none =>
    unfold Turn.present
    dsimp only
    rw [dimmer_debug, h_handle]
    exact (h.said .debug _).collapsed h_handle "present"
  | some handle =>
    obtain ⟨message, h_present⟩ := present_of_handle (w := w) h_handle request
    rw [h_present]
    -- the surface is held through placing and considering, either of which may be the last move
    have h_placed : ((t'.debug message).place w handle request.layer).dimmer.handle = some handle :=
      (handle_place ..).trans h_handle
    have h_considered :
        (((t'.debug message).place w handle request.layer).consider w handle request).dimmer.handle
          = some handle := (handle_consider ..).trans h_placed
    have h_first := (h.said .debug message).placed h_handle request.layer
    have h_second := h_first.consider h_placed request
    exact andThen_cases (fun _ => h_first) fun _ => andThen_cases (fun _ => h_second) fun _ =>
      (h_second.said .debug _).aimed h_considered request.alpha

theorem fadeOut (h : Moves w t t') (duration : Float) : Moves w t (t'.fadeOut w duration) :=
  (h.said .debug _).present _

theorem dismiss (h : Moves w t t') (request : DismissRequest) :
    Moves w t (t'.dismiss w request) := by
  unfold Turn.dismiss
  split
  · next h_handle => exact h.collapsed h_handle "dismiss"
  · split_ifs
    · exact h
    · exact h.fadeOut request.duration
    · exact h.read.fadeOut request.duration
    · exact h.read

theorem hideNow (h : Moves w t t') : Moves w t (t'.hideNow w) := by
  unfold Turn.hideNow
  split
  · next h_handle => exact h.collapsed h_handle "hideNow"
  · split_ifs
    · exact (h.said .debug _).dismiss _
    · exact h

theorem jumpToEnd (h : Moves w t t') : Moves w t (t'.jumpToEnd w) := by
  unfold Turn.jumpToEnd
  split
  · next h_handle => exact h.collapsed h_handle "jumpToEnd"
  · split_ifs
    · exact (h.said .debug _).present _
    · exact h

theorem advance (h : Moves w t t') : Moves w t (t'.advance w) := by
  unfold Turn.advance
  split
  · next h_handle => exact h.collapsed h_handle "advance"
  · next h_handle =>
    split_ifs
    · exact (h.read.said .debug _).applied h_handle _
    · exact h

theorem release (h : Moves w t t') : Moves w t (t'.release w) := by
  cases h_handle : t'.dimmer.handle with
  | none =>
    unfold Turn.release
    rw [h_handle]
    exact h
  | some handle => exact h.released h_handle

/-- Without a surface there will be none, and no move is the last one. -/
theorem of_absent (h : Moves w t t') (h_none : t.dimmer.handle = Option.none) :
    t'.dimmer.handle = Option.none ∧ t'.failure = t.failure := by
  induction h with
  | none => exact ⟨h_none, rfl⟩
  | said _ level message ih => exact ih
  | read _ ih => exact ih
  | collapsed _ _ operation ih => exact ih
  -- the other moves are made on a surface
  | placed _ h_handle _ ih => cases ih.1.symm.trans h_handle
  | applied _ h_handle _ ih => cases ih.1.symm.trans h_handle
  | timed _ h_handle _ ih => cases ih.1.symm.trans h_handle
  | aimed _ h_handle _ ih => cases ih.1.symm.trans h_handle
  | released _ h_handle ih => cases ih.1.symm.trans h_handle

/-- No move is the last one if whatever is refused can be told. -/
theorem going (h : Moves w t t') (hw : w.Describable) (h_going : t.failure = Option.none) :
    t'.failure = Option.none := by
  have h_guard (t : Turn) (handle : Handle) (g : Guarded) :
      (t.guard w handle g).failure = Option.none :=
    (failure_guard ..).trans (g.escape_of_describable hw)
  -- only blocks can end a turn, and none does if whatever is refused can be told
  induction h with
  | none => exact h_going
  | said _ _ _ ih => exact ih
  | read _ ih => exact ih
  | @placed t' _ handle _ layer ih =>
    have h_after := t'.afterPlace w handle layer
    generalize t'.place w handle layer = t'' at h_after ⊢
    cases h_after with
    | unseen => exact ih
    | inPlace => exact ih
    | settled => exact h_guard t' ..
    | cutShort => exact h_guard t' ..
  | @applied t' _ handle _ alpha ih =>
    have h_after := t'.afterAlpha w handle alpha
    generalize t'.applyAlpha w handle alpha = t'' at h_after ⊢
    cases h_after with
    | inPlace => exact ih
    | settled message => exact h_guard (t'.debug message) ..
    | cutShort message => exact h_guard (t'.debug message) ..
  | timed _ _ _ ih => exact ih
  | aimed _ _ _ ih => exact ih
  | @released t' _ handle h_handle ih =>
    rw [release_of_handle h_handle]
    exact h_guard ..
  | collapsed _ _ _ ih => exact ih

/-- A surface that has been given up does not come back. -/
theorem handle_eq_some (h : Moves w t t') (h_handle : t'.dimmer.handle = some handle) :
    t.dimmer.handle = some handle := by
  induction h with
  | none => exact h_handle
  | said _ _ _ ih => exact ih h_handle
  | read _ ih => exact ih h_handle
  | placed _ _ _ ih => exact ih ((handle_place ..).symm.trans h_handle)
  | applied _ _ _ ih => exact ih ((handle_applyAlpha ..).symm.trans h_handle)
  | timed _ _ _ ih => exact ih h_handle
  | aimed _ _ _ ih => exact ih h_handle
  | released _ h_held _ =>
    -- after a release there is no surface to be held
    rw [release_of_handle h_held] at h_handle
    cases h_handle
  | collapsed _ _ _ ih => exact ih h_handle

end Moves

/-- A present request is not cut short if whatever is refused can be told. -/
theorem going_present {w : Surroundings} (hw : w.Describable) {t : Turn}
    (h_going : t.failure = Option.none) (request : PresentRequest) :
    (t.present w request).failure = Option.none :=
  (Moves.none.present request).going hw h_going

end Turn

namespace Dimmer

/-- **Each step is made of moves.** -/
theorem moves (d : Dimmer) (s : Step) : Turn.Moves s.surroundings { dimmer := d } (d.turn s) := by
  obtain ⟨operation, w⟩ := s
  have h : Turn.Moves w { dimmer := d } { dimmer := d } := .none
  change Turn.Moves w _ (d.perform w operation).1
  cases operation with
  | present layer alpha duration =>
    dsimp only [perform]
    cases PresentRequest.check layer alpha duration with
    -- refused arguments stop an operation before it does anything
    | error failure => exact h
    | ok request => exact h.present request
  | dismiss duration =>
    dsimp only [perform]
    cases DismissRequest.check duration with
    | error failure => exact h
    | ok request => exact h.dismiss request
  | hideNow => exact h.hideNow
  | jumpToEnd => exact h.jumpToEnd
  | advance => exact h.advance
  | release => exact h.release

/-- **No operation is cut short if whatever is refused can be told.** -/
theorem going_turn {s : Step} (h : s.surroundings.Describable) (d : Dimmer) :
    (d.turn s).failure = none :=
  (d.moves s).going h rfl

section Answers

variable {w : Surroundings} (hw : w.Describable) (d : Dimmer)

include hw

theorem answer_present {layer alpha duration : Value} {request : PresentRequest}
    (h_check : PresentRequest.check layer alpha duration = .ok request) :
    d.answer ⟨.present layer alpha duration, w⟩ = .ok none :=
  answer_of_going (s := ⟨.present layer alpha duration, w⟩) ⟨request, h_check⟩ (d.going_turn hw)

theorem answer_dismiss {duration : Value} {request : DismissRequest}
    (h_check : DismissRequest.check duration = .ok request) :
    d.answer ⟨.dismiss duration, w⟩ = .ok none :=
  answer_of_going (s := ⟨.dismiss duration, w⟩) ⟨request, h_check⟩ (d.going_turn hw)

end Answers

/-! ### The events of a run -/

/-- The events of a run, in order. -/
def events (d : Dimmer) : List Step → List Event
  | [] => []
  | s :: rest => (d.turn s).events ++ (d.turn s).dimmer.events rest

/-- **What moves keep of a dimmer and of what it has done, every run keeps.** The surroundings of
the steps may be restricted to those of a kind. -/
theorem moves_induction {P : Dimmer → List Event → Prop} {kind : Surroundings → Prop}
    (h_moves : ∀ {w : Surroundings} {t t' : Turn} {past : List Event}, kind w →
      P t.dimmer (past ++ t.events) → Turn.Moves w t t' → P t'.dimmer (past ++ t'.events))
    {d : Dimmer} {past : List Event} {steps : List Step} (h : P d past)
    (h_kind : ∀ s ∈ steps, kind s.surroundings) :
    P (d.after steps) (past ++ d.events steps) := by
  -- on the steps; a turn begins with no events of its own
  induction steps generalizing d past with
  | nil => exact (List.append_nil past).symm ▸ h
  | cons s rest ih =>
    have h_here : P d (past ++ []) := (List.append_nil past).symm ▸ h
    have h_turn := h_moves (h_kind s List.mem_cons_self) h_here (d.moves s)
    have h_rest := ih h_turn fun s' hs' => h_kind s' (List.mem_cons_of_mem s hs')
    rwa [List.append_assoc] at h_rest

end Dimmer

end Scrim

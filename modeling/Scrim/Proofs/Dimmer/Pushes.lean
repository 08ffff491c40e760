import Scrim.Proofs.Dimmer.Alpha
import Scrim.Proofs.Dimmer.Moves

/-!
# The alphas that a dimmer pushes

A dimmer gives its surface only alphas between zero and one (`Sound.proper`). What it pushes is
either the alpha of a request that it has accepted or made itself, or a sample of the fade in
progress. The first were checked, and the second is where `Sound` is needed.
-/

namespace Scrim

open Number

/-- A call that sets an alpha sets it between zero and one. -/
def Event.Proper : Event → Prop
  | .call _ (.alpha alpha) _ => InUnit alpha
  | _ => True

/-- A turn that has pushed proper alphas only. -/
def Turn.Proper (t : Turn) : Prop :=
  ∀ e ∈ t.events, e.Proper

namespace Turn

variable {t : Turn} {w : Surroundings} {handle : Handle}

/-! ### Steps of a turn -/

theorem Proper.emit (h : t.Proper) {events : List Event} (h_events : ∀ e ∈ events, e.Proper) :
    (t.emit events).Proper :=
  List.forall_mem_append.mpr ⟨h, h_events⟩

theorem Proper.say (h : t.Proper) (level : Level) (message : String) :
    (t.say level message).Proper :=
  h.emit (List.forall_mem_singleton.mpr trivial)

theorem Proper.collapse (h : t.Proper) (operation : String) : (t.collapse operation).Proper :=
  h.say .error _

/-- A block pushes what its primitives push. -/
theorem Proper.guard (h : t.Proper) {g : Guarded}
    (h_alphas : ∀ alpha, .alpha alpha ∈ g.primitives → InUnit alpha) :
    (t.guard w handle g).Proper := by
  refine h.emit fun e he => ?_
  rcases Guarded.mem_events he with ⟨line, rfl⟩ | ⟨primitive, h_mem, rfl⟩
  · trivial
  · cases primitive with
    | alpha alpha => exact h_alphas alpha h_mem
    | _ => trivial

theorem Proper.place (h : t.Proper) (layer : Float) : (t.place w handle layer).Proper := by
  -- a place has no alpha
  have h_alphas (p : Placing) (alpha : Float)
      (h_mem : .alpha alpha ∈ (Guarded.placing p).primitives) : InUnit alpha := by
    rcases Guarded.mem_primitives_placing h_mem with h_eq | h_eq | h_eq <;> cases h_eq
  have h_after := t.afterPlace w handle layer
  generalize t.place w handle layer = t' at h_after ⊢
  cases h_after with
  | unseen => exact h.say .warn _
  | inPlace => exact h
  | settled => exact h.guard (h_alphas _)
  | cutShort => exact h.guard (h_alphas _)

theorem Proper.applyAlpha (h : t.Proper) {alpha : Float} (h_alpha : InUnit alpha) :
    (t.applyAlpha w handle alpha).Proper := by
  have h_alphas (alpha' : Float) (h_mem : .alpha alpha' ∈
      (Guarded.applying alpha (t.dimmer.visibilityAt alpha)).primitives) : InUnit alpha' := by
    -- nor has showing or hiding, so that the one alpha is the one to be applied
    rcases Guarded.mem_primitives_applying h_mem with h_eq | h_eq | h_eq <;> cases h_eq
    exact h_alpha
  have h_after := t.afterAlpha w handle alpha
  generalize t.applyAlpha w handle alpha = t' at h_after ⊢
  cases h_after with
  | inPlace => exact h
  | settled message => exact (h.say .debug message).guard h_alphas
  | cutShort message => exact (h.say .debug message).guard h_alphas

theorem Proper.consider (h : t.Proper) {request : PresentRequest} (h_alpha : InUnit request.alpha) :
    (t.consider w handle request).Proper := by
  have h_commit (now : Float) : (t.tookReading.commit w handle request now).Proper := by
    unfold Turn.commit
    split
    · exact Proper.applyAlpha (t := t.tookReading) h h_alpha
    · exact h
  unfold Turn.consider
  split
  · exact h_commit _
  · exact h

theorem Proper.present (h : t.Proper) {request : PresentRequest} (h_alpha : InUnit request.alpha) :
    (t.present w request).Proper := by
  cases h_handle : t.dimmer.handle with
  | none =>
    unfold Turn.present
    dsimp only
    rw [dimmer_debug, h_handle]
    exact (h.say .debug _).collapse _
  | some handle =>
    obtain ⟨message, h_present⟩ := present_of_handle (w := w) h_handle request
    have h_placed : ((t.debug message).place w handle request.layer).Proper :=
      (h.say .debug message).place request.layer
    have h_considered :
        (((t.debug message).place w handle request.layer).consider w handle request).Proper :=
      h_placed.consider h_alpha
    rw [h_present]
    -- wherever the turn ends, what it has pushed so far is proper
    exact andThen_cases (fun _ => h_placed) fun _ => andThen_cases (fun _ => h_considered) fun _ =>
      h_considered.say .debug _

/-! ### Operations -/

theorem Proper.dismiss (h : t.Proper) (request : DismissRequest) :
    (t.dismiss w request).Proper := by
  have h_fadeOut {t : Turn} (h : t.Proper) : (t.fadeOut w request.duration).Proper :=
    (h.say .debug _).present inUnit_zero
  unfold Turn.dismiss
  split
  · exact h.collapse _
  · split_ifs
    · exact h
    · exact h_fadeOut h
    · exact h_fadeOut (t := t.tookReading) h
    · exact h

theorem Proper.hideNow (h : t.Proper) : (t.hideNow w).Proper := by
  unfold Turn.hideNow
  split
  · exact h.collapse _
  · split_ifs
    · exact (h.say .debug _).dismiss _
    · exact h

theorem Proper.jumpToEnd (h : t.Proper) (h_target : InUnit t.dimmer.target) :
    (t.jumpToEnd w).Proper := by
  unfold Turn.jumpToEnd
  split
  · exact h.collapse _
  · split_ifs
    · exact (h.say .debug _).present h_target
    · exact h

theorem Proper.advance (h : t.Proper)
    (h_sample : t.dimmer.isAnimating = true →
      InUnit (t.dimmer.timeline.sample t.dimmer.target (t.now w))) :
    (t.advance w).Proper := by
  unfold Turn.advance
  split
  · exact h.collapse _
  · split_ifs with h_animating
    · exact Proper.applyAlpha (Proper.say (t := t.tookReading) h .debug _) (h_sample h_animating)
    · exact h

theorem Proper.release (h : t.Proper) : (t.release w).Proper := by
  cases h_handle : t.dimmer.handle with
  | none =>
    unfold Turn.release
    rw [h_handle]
    exact h
  | some handle =>
    rw [release_of_handle h_handle]
    refine Proper.guard (h.say .debug _) fun alpha h_mem => ?_
    cases List.mem_singleton.mp h_mem

end Turn

/-- **A sound dimmer pushes proper alphas**, as long as the clock does not go back. -/
theorem Sound.proper {d : Dimmer} {past : List Float} {s : Step} (h : Sound d past)
    (h_clock : Chronological (past ++ [s.surroundings.reading 0])) : (d.turn s).Proper := by
  have h_start : Turn.Proper { dimmer := d } := List.forall_mem_nil _
  obtain ⟨operation, w⟩ := s
  change (d.perform w operation).1.Proper
  cases operation with
  | present layer alpha duration =>
    dsimp only [Dimmer.perform]
    cases h_check : PresentRequest.check layer alpha duration with
    | error failure => exact h_start
    | ok request => exact h_start.present (PresentRequest.check_accepted h_check).alpha
  | dismiss duration =>
    dsimp only [Dimmer.perform]
    cases DismissRequest.check duration with
    | error failure => exact h_start
    | ok request => exact h_start.dismiss request
  | hideNow => exact h_start.hideNow
  | jumpToEnd => exact h_start.jumpToEnd h.target
  | advance =>
    -- where the fade began, and that the clock has not gone back since, is known from the past
    refine h_start.advance fun h_animating => ?_
    exact (h.sample_between h_animating h_clock).inUnit h.start h.target
  | release => exact h_start.release

end Scrim

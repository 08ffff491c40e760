import Scrim.Proofs.Dimmer.Containment
import Scrim.Proofs.Dimmer.Shift
import Scrim.Proofs.Dimmer.Shown
import Scrim.Proofs.Dimmer.Ticks

/-!
# What turns issue if nothing is refused

The primitives of a turn, step by step, on a surface that refuses nothing. A tick that finds the
dimmer short of its sample applies that and does nothing else (`Dimmer.turn_tick_of_ne`). A request
that leads a resting dimmer away from its alpha issues nothing but what places the surface, and
starts a timeline (`Turn.present_of_away`).
-/

namespace Scrim

namespace Turn

variable {t : Turn} {w : Surroundings} (hw : w.Accepting) {handle : Handle}

theorem primitives_emit (t : Turn) (events : List Event) :
    (t.emit events).primitives = t.primitives ++ events.filterMap Event.primitive? :=
  List.filterMap_append

theorem primitives_say (t : Turn) (level : Level) (message : String) :
    (t.say level message).primitives = t.primitives :=
  (t.primitives_emit _).trans (List.append_nil _)

include hw

/-- A guarded block issues all its primitives. -/
theorem primitives_guard (t : Turn) (g : Guarded) (handle : Handle) :
    (t.guard w handle g).primitives = t.primitives ++ g.primitives := by
  rw [primitives, events_guard, List.filterMap_append, g.primitives_events hw]
  rfl

/-- An alpha that is not in place is issued, and after it the change of visibility that is due. -/
theorem primitives_applyAlpha {alpha : Float} (h : (t.dimmer.alpha == alpha) = false)
    (handle : Handle) :
    (t.applyAlpha w handle alpha).primitives
      = t.primitives ++ (Guarded.applying alpha (t.dimmer.visibilityAt alpha)).primitives := by
  obtain ⟨message, h_events⟩ := events_applyAlpha h w handle
  have h_block := primitives_guard hw (t.debug message)
    (.applying alpha (t.dimmer.visibilityAt alpha)) handle
  rw [debug, primitives_say] at h_block
  rw [← h_block, primitives, h_events, ← List.append_assoc]
  rfl

/-- A surface that lies elsewhere is placed. -/
theorem place_of_accepting {size : Size} (h_display : w.display = some size) {layer : Float}
    (h : t.dimmer.footprint.differs (Placing.mk size layer).footprint = true) (handle : Handle) :
    (t.place w handle layer).dimmer
        = { t.dimmer with footprint := (Placing.mk size layer).footprint } ∧
      (t.place w handle layer).primitives
        = t.primitives ++ (Guarded.placing ⟨size, layer⟩).primitives := by
  let g : Guarded := .placing ⟨size, layer⟩
  have h_going : (t.guard w handle g).failure = none :=
    (failure_guard ..).trans (g.escape_of_describable hw.describable)
  rw [place_of_differs h_display h, andThen_of_going h_going]
  exact ⟨rfl, primitives_guard hw t g handle⟩

omit hw in
/-- **A request that leads away from where the dimmer rests starts a timeline**, and is placed. -/
theorem present_of_away (hw : w.Describable) (h_going : t.failure = none)
    (h_handle : t.dimmer.handle = some handle) {request : PresentRequest}
    (h_idle : t.dimmer.isAnimating = false) (h_away : (t.dimmer.alpha != request.alpha) = true)
    (h_lasting : ¬request.duration ≤ 0) :
    ∃ message, let placed := (t.debug message).place w handle request.layer
      (t.present w request).dimmer
          = { placed.dimmer with
              timeline := ⟨t.dimmer.alpha, t.now w, request.duration⟩
              target := request.alpha } ∧
        (t.present w request).primitives = placed.primitives := by
  obtain ⟨message, -, -, h_present⟩ :=
    present_of_going h_handle (going_present hw h_going request)
  obtain ⟨footprint, h_place⟩ := dimmer_place (t.debug message) w handle request.layer
  have h_now : ((t.debug message).place w handle request.layer).now w = t.now w := by
    rw [now, readings_place]
    rfl
  refine ⟨message, ?_⟩
  dsimp only
  rw [h_present]
  generalize (t.debug message).place w handle request.layer = placed at h_place h_now
  -- the request commits, since the footprint has no say in that
  have h_commits : placed.dimmer.commits request (placed.now w) = true := by
    rw [h_place]
    change (if t.dimmer.isAnimating then _ else t.dimmer.alpha != request.alpha) = true
    rw [h_idle, h_away]
    rfl
  unfold consider
  rw [if_pos h_commits]
  unfold commit
  rw [if_neg h_lasting]
  refine ⟨?_, primitives_say _ _ _⟩
  rw [dimmer_update, dimmer_logTimeline, dimmer_update, dimmer_tookReading, h_now, h_place]
  rfl

end Turn

namespace Dimmer

variable {d : Dimmer} {w : Surroundings} {handle : Handle}

/-- **A tick that finds a sample that is not in place applies it.** -/
theorem turn_tick_of_ne (hw : w.Accepting) (h_handle : d.handle = some handle)
    (h_animating : d.isAnimating = true)
    (h_ne : (d.alpha == d.timeline.sample d.target w.time) = false) :
    let alpha := d.timeline.sample d.target w.time
    (d.turn w.tick).dimmer
        = { d with alpha, showing := (d.visibilityAt alpha).getD d.showing } ∧
      (d.turn w.tick).primitives = (Guarded.applying alpha (d.visibilityAt alpha)).primitives := by
  intro alpha
  obtain ⟨message, h_advance⟩ :=
    Turn.advance_of_isAnimating (t := { dimmer := d }) h_handle h_animating w
  refine ⟨?_, ?_⟩
  · have h_applied := applied_tick h_handle h_animating hw.describable
    generalize (d.turn w.tick).dimmer = d' at h_applied
    cases h_applied with
    -- the sample is not in place
    | inPlace h_alpha => cases h_ne.symm.trans h_alpha
    | changed _ showing h_showing => rw [h_showing hw]
  · -- reading the clock and remarking on it issue nothing
    let t : Turn := Turn.tookReading { dimmer := d }
    have h_applied := Turn.primitives_applyAlpha (t := t.debug message) hw h_ne handle
    rw [Turn.debug, Turn.primitives_say] at h_applied
    change (Turn.advance { dimmer := d } w).primitives = _
    rw [h_advance]
    exact h_applied

end Dimmer

end Scrim

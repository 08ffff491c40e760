import Scrim.Proofs.Dimmer.Arrival
import Scrim.Proofs.Dimmer.Visibility
import Scrim.Proofs.Progress

/-!
# Many ticks or few

How often a dimmer is moved on does not matter. A run of ticks comes to the same as its last tick
alone, since a tick in between can be left out (`Dimmer.matches_of_tick`). Such a tick may find the
fade at its target early and end it; but then all later samples are at the target as well, because
samples do not turn back. It may also show or hide the surface; but the visibility follows the
alpha, so it comes out the same.

`Dimmer.ticks_of_run` says this of any two runs of ticks that end at the same time. Alphas are
compared as numbers, because a sample may reach zero from either side and leave either of the two
zeros behind.
-/

namespace Scrim

open Number

/-! ### Dimmers that match -/

/-- Two dimmers agree, their alphas as numbers and all else exactly. -/
structure Dimmer.Matches (d d' : Dimmer) : Prop where
  alpha_beq : (d.alpha == d'.alpha) = true
  rest : { d with alpha := 0 } = { d' with alpha := 0 }

namespace Dimmer.Matches

variable {d d' d'' : Dimmer}

protected theorem refl (h : d.alpha.isNaN = false) : Matches d d :=
  ⟨Number.beq_refl h, rfl⟩

protected theorem symm (h : Matches d d') : Matches d' d :=
  ⟨Number.beq_symm h.alpha_beq, h.rest.symm⟩

protected theorem trans (h : Matches d d') (h' : Matches d' d'') : Matches d d'' :=
  ⟨Number.beq_trans h.alpha_beq h'.alpha_beq, h.rest.trans h'.rest⟩

theorem isAnimating_eq (h : Matches d d') : d.isAnimating = d'.isAnimating := by
  have h_target : { d with alpha := 0 }.target = { d' with alpha := 0 }.target :=
    congrArg Dimmer.target h.rest
  change d.target = d'.target at h_target
  unfold isAnimating bne
  rw [h_target, BEq.congr_right h.alpha_beq]

end Dimmer.Matches

/-- A dimmer but for its alpha and its visibility. -/
def Dimmer.bearing (d : Dimmer) : Dimmer :=
  { d with alpha := 0, showing := false }

theorem Applied.bearing_eq {w : Surroundings} {d d' : Dimmer} {alpha : Float}
    (h : Applied w d alpha d') : d'.bearing = d.bearing := by
  cases h <;> rfl

/-- Dimmers that differ in alpha and visibility only match if the alphas are the same number. -/
theorem Visible.matches {d d' : Dimmer} (h : Visible d) (h' : Visible d')
    (h_bearing : d.bearing = d'.bearing) (h_alpha : (d.alpha == d'.alpha) = true) :
    d.Matches d' := by
  have h_showing : d.showing = d'.showing := by
    rw [Bool.eq_iff_iff, h.showing_iff, h'.showing_iff, Number.lt_congr_right h_alpha]
  refine ⟨h_alpha, ?_⟩
  calc { d with alpha := 0 } = { d.bearing with showing := d.showing } := rfl
    _ = { d'.bearing with showing := d'.showing } := by rw [h_bearing, h_showing]

/-! ### One tick -/

/-- What is left of a proper clock if readings are left out. -/
theorem Chronological.sublist {readings kept : List Float} (h : Chronological readings)
    (h_kept : kept.Sublist readings) : Chronological kept where
  finite r hr := h.finite r (h_kept.subset hr)
  ordered := h.ordered.sublist h_kept

/-- Lets the dimmer advance. -/
def Surroundings.tick (w : Surroundings) : Step :=
  ⟨.advance, w⟩

/-- What the clock reads at a tick, if that has to look. -/
def Surroundings.time (w : Surroundings) : Float :=
  w.reading 0

namespace Dimmer

variable {d : Dimmer} {w : Surroundings} {past : List Float}

theorem answer_tick (hw : w.Describable) (d : Dimmer) :
    d.answer w.tick = .ok (some (d.turn w.tick).dimmer.isAnimating) :=
  answer_advance (going_turn hw d)

/-- Without a surface, a tick brings the dimmer to rest. -/
theorem turn_tick_of_vacant (h_handle : d.handle = none) (w : Surroundings) :
    d.turn w.tick = Turn.collapse { dimmer := d } "advance" := by
  change Turn.advance { dimmer := d } w = _
  unfold Turn.advance
  rw [h_handle]

theorem turn_tick_of_idle {handle : Handle} (h_handle : d.handle = some handle)
    (h_idle : ¬d.isAnimating = true) (w : Surroundings) : d.turn w.tick = { dimmer := d } :=
  Turn.advance_of_not_isAnimating (t := { dimmer := d }) h_handle h_idle w

/-- A tick takes no reading, or the first one of its surroundings. -/
theorem taken_tick (d : Dimmer) (w : Surroundings) :
    (d.turn w.tick).taken w = [] ∨ (d.turn w.tick).taken w = [w.time] := by
  cases h_handle : d.handle with
  | none =>
    rw [turn_tick_of_vacant h_handle]
    exact Or.inl rfl
  | some handle =>
    -- only a dimmer on its way reads the clock, and that once
    by_cases h_animating : d.isAnimating = true
    · obtain ⟨message, h_advance⟩ :=
        Turn.advance_of_isAnimating (t := { dimmer := d }) h_handle h_animating w
      have h_readings : (Turn.advance { dimmer := d } w).readings = 1 := by
        rw [h_advance, Turn.readings_applyAlpha]
        rfl
      exact Or.inr (Turn.taken_of_readings_eq_one h_readings w)
    · rw [turn_tick_of_idle h_handle h_animating]
      exact Or.inl rfl

/-- During a fade, a tick applies its sample. -/
theorem applied_tick {handle : Handle} (h_handle : d.handle = some handle)
    (h_animating : d.isAnimating = true) (hw : w.Describable) :
    Applied w d (d.timeline.sample d.target (w.time)) (d.turn w.tick).dimmer :=
  applied_advance (going_turn hw d) h_handle h_animating

/-- On a live surface, a tick changes nothing but the alpha and the visibility. -/
theorem bearing_tick {handle : Handle} (h_handle : d.handle = some handle) (hw : w.Describable) :
    (d.turn w.tick).dimmer.bearing = d.bearing := by
  by_cases h_animating : d.isAnimating = true
  · exact (applied_tick h_handle h_animating hw).bearing_eq
  · rw [turn_tick_of_idle h_handle h_animating]

theorem chronological_taken_tick (d : Dimmer) (h_clock : Chronological (past ++ [w.time])) :
    Chronological (past ++ (d.turn w.tick).taken w) := by
  rcases d.taken_tick w with h_none | h_one
  · rw [h_none, List.append_nil]
    exact h_clock.left
  · rwa [h_one]

end Dimmer

variable {d : Dimmer} {v w : Surroundings} {past : List Float}

theorem Sound.tick (h : Sound d past) (h_clock : Chronological (past ++ [w.time])) :
    Sound (d.turn w.tick).dimmer (past ++ [w.time]) := by
  have h_sound := h.turn (s := w.tick) (d.chronological_taken_tick h_clock)
  change Sound _ (past ++ (d.turn w.tick).taken w) at h_sound
  rcases d.taken_tick w with h_none | h_one
  · rw [h_none, List.append_nil] at h_sound
    exact h_sound.mono _
  · rwa [h_one] at h_sound

theorem Visible.tick (h : Visible d) (h_sound : Sound d past) (h_accepting : w.Accepting)
    (h_clock : Chronological (past ++ [w.time])) : Visible (d.turn w.tick).dimmer :=
  h.turn h_sound h_accepting (d.chronological_taken_tick h_clock)

/-! ### A tick too many -/

/-- A later sample of a fade in progress lies between an earlier one and the target. -/
theorem Sound.between_samples {now later : Float} (h : Sound d past)
    (h_animating : d.isAnimating = true) (h_clock : Chronological (past ++ [now]))
    (h_later : later.isFinite = true) (h_order : now ≤ later) :
    Between (d.timeline.sample d.target now) d.target (d.timeline.sample d.target later) := by
  have h_fading := h.fading h_animating
  exact Timeline.between_samples h_fading.duration_pos h_fading.duration_finite h.start h.target
    h_fading.onTheWay.start_ne (h_clock.left.finite _ h_fading.started) h_clock.isFinite_now
    h_later (h_clock.le_now h_fading.started) h_order

/-- After a tick and a later one during a fade, the alpha is the later sample. -/
theorem Sound.alpha_beq_of_ticks {handle : Handle} (h : Sound d past)
    (h_handle : d.handle = some handle) (h_animating : d.isAnimating = true)
    (hv : v.Describable) (hw : w.Describable)
    (h_clock : Chronological (past ++ [v.time])) (h_later : (w.time).isFinite = true)
    (h_order : v.time ≤ w.time) :
    (((d.turn v.tick).dimmer.turn w.tick).dimmer.alpha
      == d.timeline.sample d.target (w.time)) = true := by
  have h_applied := Dimmer.applied_tick h_handle h_animating hv
  have h_between := h.between_samples h_animating h_clock h_later h_order
  have h_num := (h.sample_between h_animating h_clock).inUnit h.start h.target
  generalize (d.turn v.tick).dimmer = d' at h_applied
  have h_handle' := h_applied.handle_eq.trans h_handle
  have h_alpha := h_applied.alpha_beq h_num.isNaN
  by_cases h_still : d'.isAnimating = true
  · -- the fade goes on along the same timeline
    have h_applied' := Dimmer.applied_tick h_handle' h_still hw
    rw [h_applied.timeline_eq, h_applied.target_eq] at h_applied'
    exact h_applied'.alpha_beq (h_between.inUnit h_num h.target).isNaN
  · -- the fade is over, and its later samples stay at the target
    rw [Dimmer.turn_tick_of_idle h_handle' h_still]
    rw [Dimmer.isAnimating, bne, Bool.not_eq_true, Bool.not_eq_false', h_applied.target_eq]
      at h_still
    have h_there := Number.beq_trans (Number.beq_symm h_alpha) (Number.beq_symm h_still)
    exact Number.beq_trans (Number.beq_symm h_still)
      (Number.beq_symm (h_between.beq_target h_there))

/-- **A tick before another can be left out.** -/
theorem Dimmer.matches_of_tick (h : Sound d past) (h_visible : Visible d) (hv : v.Accepting)
    (hw : w.Accepting) (h_clock : Chronological (past ++ [v.time] ++ [w.time])) :
    ((d.turn v.tick).dimmer.turn w.tick).dimmer.Matches (d.turn w.tick).dimmer := by
  have h_order : v.time ≤ w.time :=
    h_clock.le_now (List.mem_append_right _ (List.mem_singleton_self _))
  have h_alone : Chronological (past ++ [w.time]) :=
    h_clock.sublist ((List.sublist_append_left past _).append (List.Sublist.refl _))
  cases h_handle : d.handle with
  | none =>
    -- both ticks find no surface
    rw [turn_tick_of_vacant h_handle v, turn_tick_of_vacant h_handle w, Turn.dimmer_collapse,
      turn_tick_of_vacant (d := d.collapsed) h_handle w]
    exact .refl inUnit_zero.isNaN
  | some handle =>
    by_cases h_animating : d.isAnimating = true
    · have h_between := h.sample_between h_animating h_alone
      have h_alpha := (applied_tick h_handle h_animating hw.describable).alpha_beq
        (h_between.inUnit h.start h.target).isNaN
      have h_alpha' := h.alpha_beq_of_ticks h_handle h_animating hv.describable
        hw.describable h_clock.left h_clock.isFinite_now h_order
      have h_handle' : (d.turn v.tick).dimmer.handle = some handle :=
        (congrArg Dimmer.handle (bearing_tick h_handle hv.describable)).trans h_handle
      refine Visible.matches ?_ (h_visible.tick h hw h_alone) ?_ ?_
      · exact (h_visible.tick h hv h_clock.left).tick (h.tick h_clock.left) hw h_clock
      · rw [bearing_tick h_handle' hw.describable, bearing_tick h_handle hv.describable,
          bearing_tick h_handle hw.describable]
      · exact Number.beq_trans h_alpha' (Number.beq_symm h_alpha)
    · rw [turn_tick_of_idle h_handle h_animating v]
      exact .refl (h.tick h_alone).alpha.isNaN

/-! ### Runs of ticks -/

/-- The clock at the last tick alone. -/
theorem Chronological.last {vs : List Surroundings}
    (h : Chronological (past ++ (vs ++ [w]).map Surroundings.time)) :
    Chronological (past ++ [w.time]) := by
  rw [List.map_append] at h
  exact h.sublist ((List.Sublist.refl past).append (List.sublist_append_right _ _))

/-- **A run of ticks comes to the same as its last tick.** -/
theorem Dimmer.matches_of_ticks (h : Sound d past) (h_visible : Visible d) (vs : List Surroundings)
    (h_accepting : ∀ v ∈ vs ++ [w], v.Accepting)
    (h_clock : Chronological (past ++ (vs ++ [w]).map Surroundings.time)) :
    (d.after ((vs ++ [w]).map Surroundings.tick)).Matches (d.turn w.tick).dimmer := by
  -- from the first tick on: the others come to the same as the last, and then the first is one too
  -- many
  induction vs generalizing d past with
  | nil => exact .refl (h.tick h_clock).alpha.isNaN
  | cons v rest ih =>
    have hv := h_accepting v List.mem_cons_self
    have hw := h_accepting w (List.mem_append_right _ (List.mem_singleton_self w))
    have h_split : past ++ (v :: rest ++ [w]).map Surroundings.time
        = past ++ [v.time] ++ (rest ++ [w]).map Surroundings.time :=
      List.append_cons ..
    rw [h_split] at h_clock
    refine Matches.trans ?_ (matches_of_tick h h_visible hv hw h_clock.last)
    exact ih (h.tick h_clock.left) (h_visible.tick h hv h_clock.left)
      (fun v' hv' => h_accepting v' (List.mem_cons_of_mem v hv')) h_clock

/-- Ticks at the same time come to the same. -/
theorem Dimmer.matches_of_same_time {w' : Surroundings} (h : Sound d past) (h_visible : Visible d)
    (hw : w.Accepting) (hw' : w'.Accepting) (h_clock : Chronological (past ++ [w.time]))
    (h_clock' : Chronological (past ++ [w'.time]))
    (h_time : (w.time == w'.time) = true) :
    (d.turn w.tick).dimmer.Matches (d.turn w'.tick).dimmer := by
  have h_num := (h.tick h_clock).alpha.isNaN
  cases h_handle : d.handle with
  | none =>
    rw [turn_tick_of_vacant h_handle w, turn_tick_of_vacant h_handle w']
    exact .refl inUnit_zero.isNaN
  | some handle =>
    by_cases h_animating : d.isAnimating = true
    · have h_between := h.between_samples h_animating h_clock h_clock'.isFinite_now
        (Number.le_of_beq h_time)
      have h_between' := h.between_samples h_animating h_clock' h_clock.isFinite_now
        (Number.le_of_beq (Number.beq_symm h_time))
      -- each sample lies between the start and the other one
      have h_same := h_between.antisymm h_between'
      have h_alpha :=
        (applied_tick h_handle h_animating hw.describable).alpha_beq (isNaN_of_beq h_same).1
      have h_alpha' :=
        (applied_tick h_handle h_animating hw'.describable).alpha_beq (isNaN_of_beq h_same).2
      refine (h_visible.tick h hw h_clock).matches (h_visible.tick h hw' h_clock') ?_ ?_
      · rw [bearing_tick h_handle hw.describable, bearing_tick h_handle hw'.describable]
      · exact Number.beq_trans h_alpha (Number.beq_trans h_same (Number.beq_symm h_alpha'))
    · rw [turn_tick_of_idle h_handle h_animating w] at h_num ⊢
      rw [turn_tick_of_idle h_handle h_animating w']
      exact .refl h_num

theorem Dimmer.after_concat (d : Dimmer) (steps : List Step) (s : Step) :
    d.after (steps ++ [s]) = ((d.after steps).turn s).dimmer := by
  induction steps generalizing d with
  | nil => rfl
  | cons s' rest ih => exact ih (d.turn s').dimmer

/-- **How often a dimmer is moved on does not matter.** The dimmer is any that a run with a proper
clock leads to, with a surface that refuses nothing in it. From there two runs of ticks, of any
lengths and at any times since, end with a tick at the same time. They leave dimmers that match, and
the last ticks give the same answer. -/
theorem Dimmer.ticks_of_run (options : Options) (display : Float)
    (admission : SurfaceRequest → Except Failure Handle) (refusal : Primitive → Option Failure)
    (steps : List Step) (h_steps : ∀ s ∈ steps, s.surroundings.Accepting)
    (vs vs' : List Surroundings) (w w' : Surroundings)
    (h_accepting : ∀ v ∈ vs ++ [w], v.Accepting) (h_accepting' : ∀ v ∈ vs' ++ [w'], v.Accepting)
    (h_clock : Chronological ((new options display admission refusal).clock steps
      ++ (vs ++ [w]).map Surroundings.time))
    (h_clock' : Chronological ((new options display admission refusal).clock steps
      ++ (vs' ++ [w']).map Surroundings.time))
    (h_time : (w.time == w'.time) = true) :
    let d := (new options display admission refusal).after steps
    (d.after ((vs ++ [w]).map Surroundings.tick)).Matches
        (d.after ((vs' ++ [w']).map Surroundings.tick)) ∧
      (d.after (vs.map Surroundings.tick)).answer w.tick
        = (d.after (vs'.map Surroundings.tick)).answer w'.tick := by
  intro d
  have h_sound : Sound d _ := (sound_new options display admission refusal).after h_clock.left
  have h_visible : Visible d := (visible_new options display admission refusal).after
    (sound_new options display admission refusal) h_steps h_clock.left
  have h_matches := matches_of_ticks h_sound h_visible vs h_accepting h_clock
  have h_matches' := matches_of_ticks h_sound h_visible vs' h_accepting' h_clock'
  have hw : w.Accepting := h_accepting w (List.mem_append_right _ (List.mem_singleton_self w))
  have hw' : w'.Accepting := h_accepting' w' (List.mem_append_right _ (List.mem_singleton_self w'))
  have h_same := matches_of_same_time h_sound h_visible hw hw' h_clock.last h_clock'.last h_time
  -- many ticks match the last one alone, and the two last ones match
  have h_both := h_matches.trans (h_same.trans h_matches'.symm)
  refine ⟨h_both, ?_⟩
  rw [answer_tick hw.describable, answer_tick hw'.describable]
  -- a tick answers whether the dimmer is still on its way
  rw [List.map_append, List.map_append] at h_both
  have h_animating := h_both.isAnimating_eq
  rw [List.map_singleton, List.map_singleton, after_concat, after_concat] at h_animating
  rw [h_animating]

/-- Half-way through a fade-in, one run of ticks overshoots its end and goes on, another one comes
there in small steps. -/
theorem Dimmer.ticks_of_halfFadeIn :
    let d := fresh.after halfFadeIn
    d.isAnimating = true ∧
      (d.after [(Surroundings.calm 1100).tick, (Surroundings.calm 1200).tick]).Matches
        (d.after [(Surroundings.calm 600).tick, (Surroundings.calm 900).tick,
          (Surroundings.calm 1200).tick]) ∧
      (d.after [(Surroundings.calm 1100).tick]).answer (Surroundings.calm 1200).tick
        = (d.after [(Surroundings.calm 600).tick, (Surroundings.calm 900).tick]).answer
          (Surroundings.calm 1200).tick := by
  intro d
  have h_accepting (times : List Float) :
      ∀ v ∈ times.map Surroundings.calm ++ [.calm 1200], v.Accepting := by
    intro v hv
    obtain hv | hv := List.mem_append.mp hv
    · obtain ⟨now, -, rfl⟩ := List.mem_map.mp hv
      exact Surroundings.accepting_calm now
    · rw [List.mem_singleton.mp hv]
      exact Surroundings.accepting_calm 1200
  let coarse : List Surroundings := [.calm 1100]
  let fine : List Surroundings := [.calm 600, .calm 900]
  have h_clock : Chronological (fresh.clock halfFadeIn
      ++ (coarse ++ [Surroundings.calm 1200]).map Surroundings.time) :=
    ⟨by decide +kernel, by decide +kernel⟩
  have h_clock' : Chronological (fresh.clock halfFadeIn
      ++ (fine ++ [Surroundings.calm 1200]).map Surroundings.time) :=
    ⟨by decide +kernel, by decide +kernel⟩
  have h_ticks := ticks_of_run _ _ _ _ halfFadeIn accepting_halfFadeIn coarse fine (.calm 1200)
    (.calm 1200) (h_accepting [1100]) (h_accepting [600, 900]) h_clock h_clock' (by decide +kernel)
  rw [← fresh_eq] at h_ticks
  exact ⟨by decide +kernel, h_ticks⟩

end Scrim

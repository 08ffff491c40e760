import Scrim.Proofs.Dimmer.Instant
import Scrim.Proofs.Dimmer.Ticks
import Scrim.Proofs.Dimmer.Toggling
import Scrim.Proofs.Shift

/-!
# The headway of a fade

While a dimmer is only moved on, the alphas that it pushes lead strictly from the one in place
toward the target, and not past it. What is pushed is never pushed again, and at the target the
pushing ends. On the way up the surface is shown at most once, and only if the fade began at zero;
on the way down it is hidden at most once, right after zero was pushed. `Dimmer.headway_of_run` says
so of any run of ticks.

That samples do not turn back is known of the samples of one timeline. For the first of the ticks it
has to be known of the alpha in place as well, which may have been applied by another request long
ago. `Behind` says that no sample to come turns back from it. A request keeps that, because a
timeline is started from the alpha in place, and one that is kept heads for an equal target. From
there on `Gliding` collects what a tick relies on, and `Ticked` what it comes to; the run is
followed up and down apart, since the surface is only shown on the way up and only hidden on the way
down.
-/

namespace Scrim

open Number

/-! ### No sample turns back -/

/-- Between equal places lies an equal place. -/
theorem Between.congr {start target target' x x' : Float} (h : Between start target x)
    (h_target : (target == target') = true) (h_x : (x == x') = true) :
    Between start target' x' := by
  have h_forth := Number.le_of_beq h_x
  have h_back := Number.le_of_beq (Number.beq_symm h_x)
  rcases h with ⟨h_low, h_high⟩ | ⟨h_low, h_high⟩
  · refine Or.inl ⟨Number.le_trans h_low h_forth, Number.le_trans h_back ?_⟩
    exact Number.le_trans h_high (Number.le_of_beq h_target)
  · refine Or.inr ⟨Number.le_trans ?_ h_forth, Number.le_trans h_back h_high⟩
    exact Number.le_trans (Number.le_of_beq (Number.beq_symm h_target)) h_low

/-- No sample to come of a fade in progress turns back from the alpha in place. -/
def Behind (d : Dimmer) (past : List Float) : Prop :=
  d.isAnimating = true → ∀ now, Chronological (past ++ [now]) →
    Between d.alpha d.target (d.timeline.sample d.target now)

section Behind

variable {d : Dimmer} {past : List Float}

/-- A clock that goes on after more readings goes on after fewer. -/
theorem Chronological.skip {more : List Float} {now : Float}
    (h : Chronological (past ++ more ++ [now])) : Chronological (past ++ [now]) :=
  h.sublist ((List.sublist_append_left past more).append (List.Sublist.refl _))

theorem Behind.mono (h : Behind d past) (more : List Float) : Behind d (past ++ more) :=
  fun h_animating now h_clock => h h_animating now h_clock.skip

theorem behind_of_idle (h : (d.target == d.alpha) = true) : Behind d past :=
  fun h_animating => absurd h_animating (Dimmer.not_isAnimating h)

theorem behind_of_rest (h_alpha : d.alpha = 0) (h_target : d.target = 0) : Behind d past := by
  refine behind_of_idle ?_
  rw [h_alpha, h_target]
  exact Number.beq_refl inUnit_zero.isNaN

/-- Considering a request keeps that. -/
theorem Behind.presented {w : Surroundings} {d' : Dimmer} {request : PresentRequest} {now : Float}
    (h : Behind d past) (h_sound : Sound d past) (h_sound' : Sound d' past)
    (h_alpha : request.alpha.isNaN = false) (h_presented : Presented w d request now d') :
    Behind d' past := by
  cases h_presented with
  | kept footprint h_commits =>
    intro _ later h_clock
    rcases Dimmer.beq_of_not_commits h_commits with ⟨h_before, h_target, -⟩ | ⟨-, h_there⟩
    · -- the fade goes on, toward an equal target
      have h_fading := h_sound.fading h_before
      have h_elapsed : 0 ≤ later - d.timeline.startTime :=
        sub_nonneg_of_le (h_clock.left.finite _ h_fading.started) h_clock.isFinite_now
          (h_clock.le_now h_fading.started)
      have h_same := Timeline.sample_congr h_fading.duration_pos h_fading.duration_finite
        h_sound.start h_sound.target h_fading.onTheWay.start_ne h_target h_elapsed
      exact (h h_before later h_clock).congr h_target h_same
    · -- the dimmer is where it was asked to be
      exact behind_of_idle (Number.beq_symm h_there) ‹_› later h_clock
  | jumped footprint reached h_commits h_instant h_applied =>
    exact behind_of_idle (Number.beq_symm (h_applied.alpha_beq h_alpha))
  | started footprint h_commits h_lasting =>
    -- the new timeline starts from the alpha in place
    exact fun h_animating later h_clock => h_sound'.sample_between h_animating h_clock

/-- **Each step keeps that no sample turns back.** -/
theorem Behind.turn {s : Step} (h : Behind d past) (h_sound : Sound d past)
    (h_clock : Chronological (past ++ (d.turn s).taken s.surroundings)) :
    Behind (d.turn s).dimmer (past ++ (d.turn s).taken s.surroundings) := by
  have h_sound' := h_sound.turn h_clock
  have h_course := d.course s
  generalize d.turn s = t at h_clock h_sound' h_course ⊢
  cases h_course with
  | idle t h_same =>
    rw [h_same]
    exact h.mono _
  | collapsed t h_handle h_rest =>
    rw [h_rest]
    exact behind_of_rest rfl rfl
  | presented t handle request h_handle h_same h_arises h_going =>
    subst h_same
    have h_alpha := (h_arises.accepted h_sound.target).alpha.isNaN
    exact (h.mono _).presented (h_sound.mono _) h_sound' h_alpha (Turn.presented h_handle h_going)
  | advanced t handle h_handle h_operation h_animating h_readings h_applied =>
    rw [Turn.taken_of_readings_eq_one h_readings] at h_clock ⊢
    generalize t.dimmer = d' at h_applied
    cases h_applied with
    | inPlace h_alpha => exact h.mono _
    | changed h_alpha showing h_showing =>
      -- the alpha is a sample now, from which later ones do not turn back
      intro _ later h_later
      exact h_sound.between_samples h_animating h_clock h_later.isFinite_now
        (h_later.le_now (List.mem_append_right _ (List.mem_singleton_self _)))
  | released t h_operation h_rest =>
    rw [h_rest]
    exact behind_of_rest rfl rfl
  | cutShort t handle footprint h_handle h_ended h_cut =>
    rw [h_cut]
    exact h.mono _

end Behind

/-! ### One tick -/

/-- What a tick relies on: the dimmer has a surface and is in order, and no sample turns back. -/
structure Gliding (d : Dimmer) (past : List Float) : Prop where
  held : d.handle ≠ none
  sound : Sound d past
  visible : Visible d
  behind : Behind d past

/-- Strictly on toward a target, and not past it. -/
def Onward (target x y : Float) : Prop :=
  (x < y ∧ y ≤ target) ∨ (target ≤ y ∧ y < x)

/-- Who lies between a place and the target, but not in that place, has moved on. -/
theorem Between.onward {target x y : Float} (h : Between x target y) (h_ne : ¬(x == y) = true) :
    Onward target x y := by
  have h_strict {a b : Float} (h_le : a ≤ b) (h_ne : ¬(b == a) = true) : a < b := by
    obtain ⟨h_a, h_b⟩ := isNaN_of_le h_le
    exact Number.lt_of_not_le h_a h_b fun h_ge => h_ne (Number.beq_of_le_of_le h_ge h_le)
  rcases h with ⟨h_low, h_high⟩ | ⟨h_low, h_high⟩
  · exact Or.inl ⟨h_strict h_low fun h_eq => h_ne (Number.beq_symm h_eq), h_high⟩
  · exact Or.inr ⟨h_low, h_strict h_high h_ne⟩

/-- Who moves on has not been at the target. -/
theorem Onward.target_ne {target x y : Float} (h : Onward target x y) : ¬(target == x) = true := by
  intro h_eq
  rcases h with ⟨h_lt, h_le⟩ | ⟨h_ge, h_gt⟩
  · exact Number.not_le_of_lt h_lt (Number.le_trans h_le (Number.le_of_beq h_eq))
  · have h_le := Number.le_of_beq (Number.beq_symm h_eq)
    exact Number.not_le_of_lt h_gt (Number.le_trans h_le h_ge)

/-- What a tick comes to, and the calls that it makes. -/
inductive Ticked (d : Dimmer) : Dimmer → List (Primitive × Option Failure) → Prop
  /-- The sample was in place already, or the dimmer at rest. -/
  | rested : Ticked d d []
  /-- The alpha has moved on, and the visibility has followed it. -/
  | moved {alpha : Float} (h_onward : Onward d.target d.alpha alpha) :
      Ticked d { d with alpha, showing := (d.visibilityAt alpha).getD d.showing }
        ((Guarded.applying alpha (d.visibilityAt alpha)).primitives.map (·, none))

section Tick

variable {d : Dimmer} {past : List Float} {w : Surroundings}

theorem Gliding.exists_handle (h : Gliding d past) : ∃ handle, d.handle = some handle :=
  Option.ne_none_iff_exists'.mp h.held

/-- A tick leaves all in order for the next one. -/
theorem Gliding.tick (h : Gliding d past) (hw : w.Accepting)
    (h_clock : Chronological (past ++ [w.time])) :
    Gliding (d.turn w.tick).dimmer (past ++ [w.time]) := by
  obtain ⟨handle, h_handle⟩ := h.exists_handle
  have h_bearing := congrArg Dimmer.handle (Dimmer.bearing_tick h_handle hw.describable)
  refine ⟨?_, h.sound.tick h_clock, h.visible.tick h.sound hw h_clock, ?_⟩
  · intro h_none
    exact h.held (h_bearing.symm.trans h_none)
  · -- a tick reads the clock once, or not at all if the dimmer is at rest
    have h_behind := h.behind.turn (s := w.tick) h.sound (d.chronological_taken_tick h_clock)
    change Behind _ (past ++ (d.turn w.tick).taken w) at h_behind
    rcases d.taken_tick w with h_none | h_one
    · rw [h_none, List.append_nil] at h_behind
      exact h_behind.mono _
    · rwa [h_one] at h_behind

/-- During a fade on a surface that refuses nothing, a tick moves on or does nothing. -/
theorem Turn.ticked {t : Turn} {handle : Handle} (h_handle : t.dimmer.handle = some handle)
    (h_animating : t.dimmer.isAnimating = true) (hw : w.Accepting)
    (h_between : Between t.dimmer.alpha t.dimmer.target
      (t.dimmer.timeline.sample t.dimmer.target (t.now w))) :
    ∃ calls, issued (t.advance w).events = issued t.events ++ calls ∧
      Ticked t.dimmer (t.advance w).dimmer calls := by
  obtain ⟨message, h_advance⟩ := advance_of_isAnimating h_handle h_animating w
  have h_said : issued (t.tookReading.debug message).events = issued t.events :=
    issued_events_say ..
  rw [h_advance]
  generalize t.dimmer.timeline.sample t.dimmer.target (t.now w) = alpha at h_between ⊢
  cases h_there : t.dimmer.alpha == alpha with
  | true =>
    rw [applyAlpha_of_inPlace (t := t.tookReading.debug message) h_there]
    exact ⟨[], h_said.trans (List.append_nil _).symm, .rested⟩
  | false =>
    -- nothing is refused, so all calls of the block are made
    let block := Guarded.applying alpha (t.dimmer.visibilityAt alpha)
    have h_calls : attempted w.refusal block.primitives = block.primitives.map (·, none) :=
      attempted_of_all_accepted fun p _ => hw p
    obtain ⟨said, h_events⟩ :=
      events_applyAlpha (t := t.tookReading.debug message) h_there w handle
    refine ⟨block.primitives.map (·, none), ?_, ?_⟩
    · rw [h_events, issued_append, h_said, ← h_calls, ← block.issued_events w.refusal handle]
      rfl
    · have h_applied := applied
        (going_applyAlpha (t := t.tookReading.debug message) hw.describable h_there handle)
      generalize ((t.tookReading.debug message).applyAlpha w handle alpha).dimmer = d at h_applied
      cases h_applied with
      | inPlace h_alpha => cases h_there.symm.trans h_alpha
      | changed _ showing h_showing =>
        rw [h_showing hw]
        exact .moved (h_between.onward (Bool.eq_false_iff.mp h_there))

theorem Gliding.ticked (h : Gliding d past) (hw : w.Accepting)
    (h_clock : Chronological (past ++ [w.time])) :
    Ticked d (d.turn w.tick).dimmer (issued (d.turn w.tick).events) := by
  obtain ⟨handle, h_handle⟩ := h.exists_handle
  by_cases h_animating : d.isAnimating = true
  · obtain ⟨calls, h_issued, h_ticked⟩ := Turn.ticked (t := { dimmer := d }) h_handle h_animating hw
      (h.behind h_animating w.time h_clock)
    have h_calls : issued (d.turn w.tick).events = calls := h_issued
    rw [h_calls]
    exact h_ticked
  · rw [Dimmer.turn_tick_of_idle h_handle h_animating]
    exact .rested

end Tick

/-! ### A run of ticks -/

/-- How many of some calls are of a kind. -/
def countOf (kind : Primitive.Kind) (calls : List (Primitive × Option Failure)) : Nat :=
  calls.countP fun call => call.1.kind = kind

theorem countOf_cons (kind : Primitive.Kind) (call : Primitive × Option Failure)
    (calls : List (Primitive × Option Failure)) :
    countOf kind (call :: calls)
      = countOf kind calls + if call.1.kind = kind then 1 else 0 := by
  rw [countOf, List.countP_cons]
  simp only [decide_eq_true_eq]
  rfl

section Run

variable {d d' : Dimmer} {past : List Float} {calls later : List (Primitive × Option Failure)}

/-- **What holds of no ticks, and holds with a tick before it, holds of every run of ticks.** It may
speak of the dimmer at either end of the run, and of the calls in between. -/
theorem Gliding.run {P : Dimmer → Dimmer → List (Primitive × Option Failure) → Prop}
    (h_nil : ∀ d past, Gliding d past → P d d [])
    (h_tick : ∀ d past d' e calls later, Gliding d past → Ticked d d' calls → P d' e later →
      P d e (calls ++ later))
    (h : Gliding d past) {vs : List Surroundings} (h_accepting : ∀ v ∈ vs, v.Accepting)
    (h_clock : Chronological (past ++ vs.map Surroundings.time)) :
    P d (d.after (vs.map Surroundings.tick)) (issued (d.events (vs.map Surroundings.tick))) := by
  -- on the ticks; the dimmer and the readings behind it move along
  induction vs generalizing d past with
  | nil => exact h_nil d past h
  | cons v rest ih =>
    have hv := h_accepting v List.mem_cons_self
    rw [List.map_cons, List.append_cons] at h_clock
    rw [List.map_cons, Dimmer.events, issued_append]
    refine h_tick d past _ _ _ _ h (h.ticked hv h_clock.left) ?_
    exact ih (h.tick hv h_clock.left) (fun v' hv' => h_accepting v' (List.mem_cons_of_mem v hv'))
      h_clock

/-- The calls of a fade on its way up. -/
structure Rises (d : Dimmer) (calls : List (Primitive × Option Failure)) : Prop where
  strict : (d.alpha :: alphas calls).IsChain (· < ·)
  within : ∀ alpha ∈ alphas calls, alpha ≤ d.target
  shows : countOf .show calls + d.showing.toNat ≤ 1
  hides : countOf .hide calls = 0

/-- The calls of a fade on its way down. -/
structure Falls (d : Dimmer) (calls : List (Primitive × Option Failure)) : Prop where
  strict : (d.alpha :: alphas calls).IsChain (fun alpha next => next < alpha)
  within : ∀ alpha ∈ alphas calls, d.target ≤ alpha
  shows : countOf .show calls = 0
  hides : countOf .hide calls ≤ d.showing.toNat

/-- On the way up, a tick that moves on shows the surface unless that has been done. -/
theorem Ticked.up (h : Ticked d d' calls) (h_sound : Sound d past) (h_up : d.alpha ≤ d.target) :
    (d' = d ∧ calls = []) ∨
      ∃ alpha, d.alpha < alpha ∧ alpha ≤ d.target ∧ d' = { d with alpha, showing := true } ∧
        calls = (.alpha alpha, none) :: if d.showing then [] else [(.show, none)] := by
  cases h with
  | rested => exact Or.inl ⟨rfl, rfl⟩
  | @moved alpha h_onward =>
    have ⟨h_lt, h_le⟩ : d.alpha < alpha ∧ alpha ≤ d.target := by
      refine h_onward.resolve_right ?_
      rintro ⟨h_ge, h_gt⟩
      exact Number.not_le_of_lt h_gt (Number.le_trans h_up h_ge)
    -- above where it was, the alpha is above zero
    have h_pos : 0 < alpha := Number.lt_of_le_of_lt h_sound.alpha.nonneg h_lt
    have h_zero : (alpha == 0) = false :=
      Bool.eq_false_of_not_eq_true fun h_zero => not_pos_of_beq h_zero h_pos
    -- so the surface is to be shown, unless it is
    have h_due : d.visibilityAt alpha = if d.showing then none else some true := by
      rw [Dimmer.visibilityAt, h_zero, decide_eq_true h_pos]
      cases d.showing <;> rfl
    rw [h_due]
    refine Or.inr ⟨alpha, h_lt, h_le, ?_, ?_⟩
    · cases d.showing <;> rfl
    · cases d.showing <;> rfl

/-- On the way down, a tick that moves on hides the surface if it comes to zero. -/
theorem Ticked.down (h : Ticked d d' calls) (h_sound : Sound d past) (h_visible : Visible d)
    (h_down : d.target ≤ d.alpha) :
    (d' = d ∧ calls = []) ∨
      ∃ alpha, d.target ≤ alpha ∧ alpha < d.alpha ∧ d.showing = true ∧
        d' = { d with alpha, showing := !alpha == 0 } ∧
        calls = (.alpha alpha, none) :: if alpha == 0 then [(.hide, none)] else [] := by
  cases h with
  | rested => exact Or.inl ⟨rfl, rfl⟩
  | @moved alpha h_onward =>
    have ⟨h_ge, h_gt⟩ : d.target ≤ alpha ∧ alpha < d.alpha := by
      refine h_onward.resolve_left ?_
      rintro ⟨h_lt, h_le⟩
      exact Number.not_le_of_lt h_lt (Number.le_trans h_le h_down)
    -- the alpha that it comes from is above zero, so the surface shows
    have h_nonneg := Number.le_trans h_sound.target.nonneg h_ge
    have h_showing := h_visible.showing_iff.mpr (Number.lt_of_le_of_lt h_nonneg h_gt)
    have h_due : d.visibilityAt alpha = if alpha == 0 then some false else none := by
      rw [Dimmer.visibilityAt, h_showing, Bool.and_true, Bool.not_true, Bool.and_false]
      rfl
    rw [h_due, h_showing]
    refine Or.inr ⟨alpha, h_ge, h_gt, rfl, ?_, ?_⟩
    · cases alpha == 0 <;> rfl
    · cases alpha == 0 <;> rfl

theorem Ticked.rises (h : Ticked d d' calls) (h_sound : Sound d past) (h_up : d.alpha ≤ d.target)
    (h_later : d'.alpha ≤ d'.target → Rises d' later) : Rises d (calls ++ later) := by
  rcases h.up h_sound h_up with ⟨rfl, rfl⟩ | ⟨alpha, h_lt, h_le, rfl, rfl⟩
  · exact h_later h_up
  · have h_rises := h_later h_le
    -- the surface shows from here on, so none of the later calls is to show it
    have h_shown : countOf .show later + 1 ≤ 1 := h_rises.shows
    cases h_showing : d.showing with
    | true =>
      refine ⟨h_rises.strict.cons_cons h_lt, ?_, ?_, h_rises.hides⟩
      · exact List.forall_mem_cons.mpr ⟨h_le, h_rises.within⟩
      · rw [h_showing]
        exact h_shown
    | false =>
      have h_counted : countOf .show ((.alpha alpha, none) :: (.show, none) :: later)
          = countOf .show later + 1 := countOf_cons .show (.show, none) later
      refine ⟨h_rises.strict.cons_cons h_lt, ?_, ?_, h_rises.hides⟩
      · exact List.forall_mem_cons.mpr ⟨h_le, h_rises.within⟩
      · rw [h_showing]
        exact h_counted.trans_le h_shown

theorem Ticked.falls (h : Ticked d d' calls) (h_sound : Sound d past) (h_visible : Visible d)
    (h_down : d.target ≤ d.alpha) (h_later : d'.target ≤ d'.alpha → Falls d' later) :
    Falls d (calls ++ later) := by
  rcases h.down h_sound h_visible h_down with
    ⟨rfl, rfl⟩ | ⟨alpha, h_ge, h_gt, h_showing, rfl, rfl⟩
  · exact h_later h_down
  · have h_falls := h_later h_ge
    have h_hidden : countOf .hide later ≤ (!alpha == 0).toNat := h_falls.hides
    cases h_zero : alpha == 0 with
    | false =>
      refine ⟨h_falls.strict.cons_cons h_gt, ?_, h_falls.shows, ?_⟩
      · exact List.forall_mem_cons.mpr ⟨h_ge, h_falls.within⟩
      · rw [h_showing]
        rw [h_zero] at h_hidden
        exact h_hidden
    | true =>
      -- there is nothing below zero, so the surface is not hidden again
      have h_counted : countOf .hide ((.alpha alpha, none) :: (.hide, none) :: later)
          = countOf .hide later + 1 := countOf_cons .hide (.hide, none) later
      refine ⟨h_falls.strict.cons_cons h_gt, ?_, h_falls.shows, ?_⟩
      · exact List.forall_mem_cons.mpr ⟨h_ge, h_falls.within⟩
      · rw [h_zero] at h_hidden
        rw [h_showing]
        exact h_counted.trans_le (Nat.succ_le_succ h_hidden)

/-- The calls of a tick that moves on apply its alpha. -/
theorem Ticked.applies (d : Dimmer) (alpha : Float) :
    ∃ showing, Applies d alpha
      ((Guarded.applying alpha (d.visibilityAt alpha)).primitives.map (·, none)) showing := by
  have h_applies := d.applies alpha fun _ => none
  rw [attempted_of_all_accepted fun _ _ => rfl] at h_applies
  exact ⟨_, h_applies⟩

theorem Ticked.prompted (h : Ticked d d' calls) : Prompted calls := by
  cases h with
  | rested => exact prompted_of_aside (List.forall_mem_nil _)
  | @moved alpha h_onward =>
    obtain ⟨_, h_applies⟩ := Ticked.applies d alpha
    exact h_applies.prompted

/-- A dimmer that is at its target does not move on, and one that pushes its target is there. -/
theorem Ticked.isAnimating_eq_false {e : Dimmer} (h : Ticked d d' calls)
    (h_later : ((d'.target == d'.alpha) = true ∨
      ∃ alpha ∈ alphas later, (alpha == d'.target) = true) → e.isAnimating = false)
    (h_there : (d.target == d.alpha) = true ∨
      ∃ alpha ∈ alphas (calls ++ later), (alpha == d.target) = true) :
    e.isAnimating = false := by
  cases h with
  | rested => exact h_later h_there
  | @moved alpha h_onward =>
    obtain ⟨_, h_applies⟩ := Ticked.applies d alpha
    rw [alphas_append, h_applies.alphas_eq] at h_there
    -- the dimmer was on its way, so one of the pushed alphas is at the target
    obtain ⟨pushed, h_mem, h_pushed⟩ := h_there.resolve_left h_onward.target_ne
    rcases List.mem_cons.mp h_mem with rfl | h_mem
    · exact h_later (Or.inl (Number.beq_symm h_pushed))
    · exact h_later (Or.inr ⟨pushed, h_mem, h_pushed⟩)

section Ticks

variable {vs : List Surroundings} (h : Gliding d past) (h_accepting : ∀ v ∈ vs, v.Accepting)
  (h_clock : Chronological (past ++ vs.map Surroundings.time))

include h h_accepting h_clock

theorem Gliding.after : ∃ past, Gliding (d.after (vs.map Surroundings.tick)) past :=
  h.run (P := fun _ e _ => ∃ past, Gliding e past) (fun _ past h => ⟨past, h⟩)
    (fun _ _ _ _ _ _ _ _ h_later => h_later) h_accepting h_clock

theorem Gliding.rises (h_up : d.alpha ≤ d.target) :
    Rises d (issued (d.events (vs.map Surroundings.tick))) := by
  refine h.run (P := fun d _ calls => d.alpha ≤ d.target → Rises d calls) ?_ ?_ h_accepting h_clock
    h_up
  · intro d _ _ _
    refine ⟨List.isChain_singleton _, List.forall_mem_nil _, ?_, rfl⟩
    exact (Nat.zero_add _).trans_le (Bool.toNat_le _)
  · intro d past d' _ calls later h_gliding h_ticked h_later h_up
    exact h_ticked.rises h_gliding.sound h_up h_later

theorem Gliding.falls (h_down : d.target ≤ d.alpha) :
    Falls d (issued (d.events (vs.map Surroundings.tick))) := by
  refine h.run (P := fun d _ calls => d.target ≤ d.alpha → Falls d calls) ?_ ?_ h_accepting h_clock
    h_down
  · intro d _ _ _
    exact ⟨List.isChain_singleton _, List.forall_mem_nil _, rfl, Nat.zero_le _⟩
  · intro d past d' _ calls later h_gliding h_ticked h_later h_down
    exact h_ticked.falls h_gliding.sound h_gliding.visible h_down h_later

theorem Gliding.prompted : Prompted (issued (d.events (vs.map Surroundings.tick))) := by
  refine h.run (P := fun _ _ calls => Prompted calls) ?_ ?_ h_accepting h_clock
  · intro d _ _
    exact prompted_of_aside (List.forall_mem_nil _)
  · intro d past d' _ calls later _ h_ticked h_later
    exact h_ticked.prompted.append h_later

/-- **Once the target is pushed, the fade is over.** -/
theorem Gliding.isAnimating_eq_false
    (h_pushed : ∃ alpha ∈ alphas (issued (d.events (vs.map Surroundings.tick))),
      (alpha == d.target) = true) :
    (d.after (vs.map Surroundings.tick)).isAnimating = false := by
  refine h.run (P := fun d e calls => (d.target == d.alpha) = true ∨
    (∃ alpha ∈ alphas calls, (alpha == d.target) = true) → e.isAnimating = false) ?_ ?_ h_accepting
    h_clock (Or.inr h_pushed)
  · rintro d past _ (h_there | ⟨alpha, h_mem, -⟩)
    · exact Bool.eq_false_of_not_eq_true (Dimmer.not_isAnimating h_there)
    · cases h_mem
  · intro d past d' e calls later _ h_ticked h_later h_there
    exact h_ticked.isAnimating_eq_false h_later h_there

end Ticks

end Run

/-! ### From any run on -/

/-- Where a run without refusals has led to a fade, all is in order for a tick. -/
theorem gliding_of_run {options : Options} {display : Float}
    {admission : SurfaceRequest → Except Failure Handle} {refusal : Primitive → Option Failure}
    {steps : List Step} (h_steps : ∀ s ∈ steps, s.surroundings.Accepting)
    (h_clock : Chronological ((Dimmer.new options display admission refusal).clock steps))
    (h_animating :
      ((Dimmer.new options display admission refusal).after steps).isAnimating = true) :
    Gliding ((Dimmer.new options display admission refusal).after steps)
      ((Dimmer.new options display admission refusal).clock steps) := by
  have h_sound := sound_new options display admission refusal
  have h_visible := visible_new options display admission refusal
  have h_vacant := Dimmer.vacant_after steps (Dimmer.vacant_new options display admission refusal)
  have h_behind : Behind (Dimmer.new options display admission refusal) [] := by
    obtain ⟨handle, h_new⟩ := Dimmer.new_eq options display admission refusal
    rw [h_new]
    exact behind_of_rest rfl rfl
  generalize Dimmer.new options display admission refusal = d at *
  have h_step (d : Dimmer) (past : List Float) (s : Step) (_ : True)
      (h : Sound d past ∧ Behind d past)
      (h_clock : Chronological (past ++ (d.turn s).taken s.surroundings)) :
      Sound (d.turn s).dimmer (past ++ (d.turn s).taken s.surroundings) ∧
        Behind (d.turn s).dimmer (past ++ (d.turn s).taken s.surroundings) :=
    ⟨h.1.turn h_clock, h.2.turn h.1 h_clock⟩
  have h_after := Dimmer.run_induction h_step ⟨h_sound, h_behind⟩ (fun _ _ => trivial) h_clock
  refine ⟨?_, h_after.1, h_visible.after h_sound h_steps h_clock, h_after.2⟩
  -- without a surface the dimmer would be at rest
  intro h_none
  refine Dimmer.not_isAnimating ?_ h_animating
  rw [(h_vacant h_none).alpha, (h_vacant h_none).target]
  exact Number.beq_refl inUnit_zero.isNaN

/-- Strictly on from one place toward another, and not past it. -/
def Leads (start target : Float) (passed : List Float) : Prop :=
  (start < target ∧ (start :: passed).IsChain (· < ·) ∧ ∀ x ∈ passed, x ≤ target) ∨
    (target < start ∧ (start :: passed).IsChain (fun x next => next < x) ∧ ∀ x ∈ passed, target ≤ x)

/-- The headway of a fade, by the calls that have been made since. -/
structure Dimmer.Headway (d : Dimmer) (calls : List (Primitive × Option Failure)) : Prop where
  /-- The alphas are pushed one after another, strictly toward the target, and not past it. -/
  leads : Leads d.alpha d.target (alphas calls)
  /-- The surface is shown at most once, and only if the fade leads up from zero. -/
  shown : countOf .show calls ≤ 1 ∧
    (0 < countOf .show calls → (d.alpha == 0) = true ∧ d.alpha < d.target)
  /-- The surface is hidden at most once. -/
  hidden : countOf .hide calls ≤ 1
  /-- It is shown only when an alpha above zero was pushed, and hidden only when zero was. -/
  prompted : Prompted calls

theorem Gliding.headway {d : Dimmer} {past : List Float} {vs : List Surroundings}
    (h : Gliding d past) (h_animating : d.isAnimating = true) (h_accepting : ∀ v ∈ vs, v.Accepting)
    (h_clock : Chronological (past ++ vs.map Surroundings.time)) :
    d.Headway (issued (d.events (vs.map Surroundings.tick))) := by
  have h_prompted := h.prompted h_accepting h_clock
  rcases Number.lt_or_gt_of_bne h.sound.target.isNaN h.sound.alpha.isNaN h_animating with
    -- a fade leads down or up, and the two cases mirror each other
    h_down | h_up
  · have h_falls := h.falls h_accepting h_clock (Number.le_of_lt h_down)
    have h_hides := h_falls.hides.trans (Bool.toNat_le d.showing)
    refine ⟨Or.inr ⟨h_down, h_falls.strict, h_falls.within⟩, ⟨?_, ?_⟩, h_hides, h_prompted⟩
    · -- on the way down nothing is shown
      rw [h_falls.shows]
      exact Nat.zero_le 1
    · intro h_shown
      exact absurd h_falls.shows h_shown.ne'
  · have h_rises := h.rises h_accepting h_clock (Number.le_of_lt h_up)
    have h_shows := h_rises.shows
    refine ⟨Or.inl ⟨h_up, h_rises.strict, h_rises.within⟩, ⟨?_, ?_⟩, ?_, h_prompted⟩
    · exact (Nat.le_add_right _ _).trans h_shows
    · -- what is yet to be shown is at zero
      intro h_shown
      refine ⟨h.visible.alpha_beq_zero h.sound.alpha ?_, h_up⟩
      cases h_showing : d.showing with
      | false => rfl
      | true =>
        rw [h_showing] at h_shows
        exact absurd h_shows (Nat.not_le_of_lt (Nat.add_lt_add_right h_shown 1))
    · rw [h_rises.hides]
      exact Nat.zero_le 1

/-- **A fade moves strictly and never repeats a push.** The dimmer is any with a fade in progress
that a run with a proper clock leads to, on a surface that refuses nothing, and from there on it is
only moved on, any number of times and at any times since. The alphas that are pushed lead strictly
from the one in place toward the target, and not past it. The surface is shown at most once, and
only if the fade leads up from zero; it is hidden at most once, and only when zero was pushed. Once
the target is pushed, every further tick answers that no more is needed and does nothing. -/
theorem Dimmer.headway_of_run (options : Options) (display : Float)
    (admission : SurfaceRequest → Except Failure Handle) (refusal : Primitive → Option Failure)
    (steps : List Step) (h_steps : ∀ s ∈ steps, s.surroundings.Accepting)
    (vs : List Surroundings) (h_accepting : ∀ v ∈ vs, v.Accepting)
    (h_clock : Chronological ((new options display admission refusal).clock steps
      ++ vs.map Surroundings.time))
    (h_animating : ((new options display admission refusal).after steps).isAnimating = true) :
    let d := (new options display admission refusal).after steps
    d.Headway (issued (d.events (vs.map Surroundings.tick))) ∧
      ∀ earlier w later, vs = earlier ++ w :: later →
        (∃ alpha ∈ alphas (issued (d.events (earlier.map Surroundings.tick))),
          (alpha == d.target) = true) →
        (d.after (earlier.map Surroundings.tick)).answer w.tick = .ok (some false) ∧
          ((d.after (earlier.map Surroundings.tick)).turn w.tick).events = [] := by
  intro d
  have h : Gliding d _ :=
    gliding_of_run h_steps h_clock.left h_animating
  refine ⟨h.headway h_animating h_accepting h_clock, ?_⟩
  rintro earlier w later rfl h_pushed
  have h_earlier : ∀ v ∈ earlier, v.Accepting := fun v hv =>
    h_accepting v (List.mem_append_left _ hv)
  rw [List.map_append, ← List.append_assoc] at h_clock
  -- what has been pushed to the target stays there, and the tick finds the dimmer at rest
  have h_idle := h.isAnimating_eq_false h_earlier h_clock.left h_pushed
  obtain ⟨_, h_after⟩ := h.after h_earlier h_clock.left
  obtain ⟨handle, h_handle⟩ := h_after.exists_handle
  have h_turn := turn_tick_of_idle h_handle (Bool.not_eq_true _ ▸ h_idle) w
  have h_next := h_accepting w (List.mem_append_right _ List.mem_cons_self)
  rw [answer_tick h_next.describable, h_turn, h_idle]
  exact ⟨rfl, rfl⟩

/-- A fade-in from zero finds its sample in place at first, then shows the surface with the first of
two alphas, and stops pushing at its end. -/
theorem Dimmer.headway_of_fadeInBegun :
    let d := fresh.after fadeInBegun
    let ticks (times : List Float) := (times.map Surroundings.calm).map Surroundings.tick
    let calls := issued (d.events (ticks [0, 500, 500, 1200, 1300]))
    d.Headway calls ∧ (alphas calls).length = 2 ∧ countOf .show calls = 1 ∧
      (d.after (ticks [0, 500, 500, 1200])).answer (Surroundings.calm 1300).tick
        = .ok (some false) ∧
      ((d.after (ticks [0, 500, 500, 1200])).turn (Surroundings.calm 1300).tick).events = [] := by
  let begun : List Surroundings := [.calm 0, .calm 500, .calm 500, .calm 1200]
  have h_steps : ∀ s ∈ fadeInBegun, s.surroundings.Accepting := by
    intro s hs
    rw [List.mem_singleton.mp hs]
    exact Surroundings.accepting_calm 0
  have h_accepting : ∀ v ∈ begun ++ [.calm 1300], v.Accepting := by
    intro v hv
    simp only [begun, List.cons_append, List.nil_append, List.mem_cons, List.not_mem_nil,
      or_false] at hv
    rcases hv with rfl | rfl | rfl | rfl | rfl <;> exact Surroundings.accepting_calm _
  have h_animating : (fresh.after fadeInBegun).isAnimating = true := by decide +kernel
  have h_clock : Chronological (fresh.clock fadeInBegun
      ++ (begun ++ [Surroundings.calm 1300]).map Surroundings.time) :=
    ⟨by decide +kernel, by decide +kernel⟩
  have h_pushed : ∃ alpha ∈ alphas (issued ((fresh.after fadeInBegun).events
      (begun.map Surroundings.tick))), (alpha == (fresh.after fadeInBegun).target) = true := by
    decide +kernel
  have h_headway := headway_of_run _ _ _ _ fadeInBegun h_steps (begun ++ [Surroundings.calm 1300])
    h_accepting h_clock h_animating
  rw [← fresh_eq] at h_headway
  obtain ⟨h_calls, h_later⟩ := h_headway
  exact ⟨h_calls, by decide +kernel, by decide +kernel, h_later begun _ [] rfl h_pushed⟩

end Scrim

import Scrim.Proofs.Dimmer.Idempotence
import Scrim.Proofs.Validation

/-!
# Dismissing is presenting

To dismiss a dimmer is to present alpha zero at the layer in place. A guard stands in front of that,
which leaves a hidden dimmer alone, and also one that heads for zero already and would not get there
any sooner. The second half repeats a part of what presenting itself looks at, but not in the same
shape: it does not ask whether a fade is in progress, and measures the request against the timeline
even where that is stale.

It does no harm (`Dimmer.commits_fadeOut`). What the guard holds back heads for the target in place
and does not outrun the timeline, so presenting it would not commit either: not during a fade, by
the same test, and not at rest, because a dimmer that rests at its target is at zero already.
Whatever else passes the guard becomes the present request that it was compared with, and that comes
to the same wherever the surface is placed meanwhile (`Turn.relocated_present`), unless one of the
two is not even placed, but cut short there. Hence the guard is only a shortcut
(`Dimmer.shortcut_of_run`).
-/

namespace Scrim

open Number

/-! ### Dimmers that concur -/

/-- The second dimmer is the first one, except that its surface may have been placed elsewhere. -/
def Dimmer.Relocated (d d' : Dimmer) : Prop :=
  ∃ footprint, d' = { d with footprint }

/-- Two dimmers agree on all but their footprints, and on their targets as numbers. -/
structure Dimmer.Concurs (d d' : Dimmer) : Prop where
  target_beq : (d.target == d'.target) = true
  rest : { d with target := 0, footprint := {} } = { d' with target := 0, footprint := {} }

theorem Dimmer.Relocated.concurs {d d' : Dimmer} (h : d.Relocated d')
    (h_num : d.target.isNaN = false) : d.Concurs d' := by
  obtain ⟨footprint, rfl⟩ := h
  exact ⟨Number.beq_refl h_num, rfl⟩

/-- Two surfaces alike accept or refuse what takes a dimmer that shows to zero, and if they refuse
it, it can be told alike. -/
structure Surroundings.Darken (w w' : Surroundings) : Prop where
  alpha : (w.refusal (.alpha 0)).isNone = (w'.refusal (.alpha 0)).isNone
  alpha_untold : isUntold (w.refusal (.alpha 0)) = isUntold (w'.refusal (.alpha 0))
  hide : (w.refusal .hide).isNone = (w'.refusal .hide).isNone
  hide_untold : isUntold (w.refusal .hide) = isUntold (w'.refusal .hide)

/-- Whether placing the surface at the layer in place is cut short. -/
def Dimmer.losesPlacing (d : Dimmer) (w : Surroundings) : Bool :=
  w.display.any fun size =>
    d.footprint.differs (Placing.mk size d.footprint.layer).footprint &&
      (Placing.mk size d.footprint.layer).isCutShort w

/-- No placing is cut short if whatever is refused can be told. -/
theorem Dimmer.losesPlacing_of_describable {w : Surroundings} (hw : w.Describable) (d : Dimmer) :
    d.losesPlacing w = false := by
  have h_whole (p : Placing) : p.isCutShort w = false := by
    unfold Placing.isCutShort
    rw [Guarded.escape_of_describable hw]
    rfl
  unfold losesPlacing
  cases w.display with
  | none => rfl
  | some size =>
    dsimp only [Option.any_some]
    rw [h_whole, Bool.and_false]

/-! ### What the guard holds back -/

/-- **A request that heads for the target in place and does not outrun the timeline does not
commit.** -/
theorem Dimmer.commits_fadeOut {d : Dimmer} {request : PresentRequest} {now : Float}
    (h_target : (d.target == request.alpha) = true)
    (h_outrun : d.timeline.outrunBy request.duration now = false) :
    d.commits request now = false := by
  unfold commits
  split_ifs with h_animating
  · -- a fade is in progress, which would be neither redirected nor hastened
    rw [bne, h_target, h_outrun]
    rfl
  · -- the dimmer rests at its target, whatever its timeline says
    have h_rest : (d.target == d.alpha) = true := by
      rwa [isAnimating, bne, Bool.not_eq_true, Bool.not_eq_false'] at h_animating
    rw [bne, Number.beq_trans (Number.beq_symm h_rest) h_target]
    rfl

/-! ### What passes it -/

namespace Turn

variable {t t' : Turn} {w w' : Surroundings} {handle : Handle}

theorem relocated_place (h : t.dimmer.Relocated t'.dimmer) (layer layer' : Float) :
    (t.place w handle layer).dimmer.Relocated (t'.place w' handle layer').dimmer := by
  obtain ⟨footprint, h_same⟩ := h
  obtain ⟨_, h_place⟩ := dimmer_place t w handle layer
  obtain ⟨footprint', h_place'⟩ := dimmer_place t' w' handle layer'
  rw [h_place, h_place', h_same]
  exact ⟨footprint', rfl⟩

/-- Placing goes on exactly if it is not cut short. -/
theorem going_place_iff (h_going : t.failure = none) (w : Surroundings) (handle : Handle) :
    (t.place w handle t.dimmer.footprint.layer).failure = none
      ↔ t.dimmer.losesPlacing w = false := by
  unfold Dimmer.losesPlacing Placing.isCutShort
  have h_after := t.afterPlace w handle t.dimmer.footprint.layer
  generalize t.place w handle t.dimmer.footprint.layer = t' at h_after ⊢
  -- a placing is lost if it is due and its block is cut short
  cases h_after with
  | unseen h_display =>
    rw [h_display]
    exact iff_of_true h_going rfl
  | inPlace size h_display h_same =>
    rw [h_display, Option.any_some, h_same]
    exact iff_of_true h_going rfl
  | settled size h_display h_differs h_told =>
    rw [h_display, Option.any_some, h_told, h_differs]
    exact iff_of_true ((failure_guard t w handle _).trans h_told) rfl
  | cutShort size h_display h_differs h_untold =>
    rw [h_display, Option.any_some, h_differs, Option.isSome_iff_ne_none.mpr h_untold]
    exact iff_of_false (failure_guard t w handle _ ▸ h_untold) Bool.noConfusion

section Relocated

variable (h : t.dimmer.Relocated t'.dimmer) (h_showing : t.dimmer.showing = true)
  (h_going : t.failure = none) (h_going' : t'.failure = none) (h_darken : w.Darken w')

include h h_showing h_going h_going' h_darken

/-- Zero is applied alike where it is refused alike, or cut short alike. -/
theorem relocated_applyAlpha :
    (t.applyAlpha w handle 0).dimmer.Relocated (t'.applyAlpha w' handle 0).dimmer ∧
      ((t.applyAlpha w handle 0).failure = none ↔ (t'.applyAlpha w' handle 0).failure = none) := by
  obtain ⟨footprint, h_same⟩ := h
  have h_zero : ((0 : Float) == 0) = true := Number.beq_refl inUnit_zero.isNaN
  -- to a dimmer that shows, zero means to hide
  have h_due : t.dimmer.visibilityAt 0 = some false := by
    rw [Dimmer.visibilityAt, h_zero, h_showing]
    rfl
  have h_due' : t'.dimmer.visibilityAt 0 = some false := by
    rw [h_same]
    exact h_due
  let refused (w : Surroundings) : Option Failure :=
    (Guarded.applying 0 (some false)).primitives.findSome? w.refusal
  have h_both (w : Surroundings) :
      refused w = (w.refusal (.alpha 0)).or (w.refusal .hide) := by
    change [Primitive.alpha 0, .hide].findSome? w.refusal = _
    rw [List.findSome?_cons, List.findSome?_cons, List.findSome?_nil]
    cases w.refusal (.alpha 0) <;> cases w.refusal .hide <;> rfl
  have h_refused : (refused w).isNone = (refused w').isNone := by
    rw [h_both, h_both, Option.isNone_or, Option.isNone_or, h_darken.alpha, h_darken.hide]
  have h_untold : isUntold (refused w) = isUntold (refused w') := by
    have h_alpha := h_darken.alpha
    have h_alpha_untold := h_darken.alpha_untold
    rw [h_both, h_both]
    -- the alpha decides if it is refused, and hiding if it is not
    cases h_first : w.refusal (.alpha 0) with
    | none =>
      rw [h_first] at h_alpha
      rw [Option.isNone_iff_eq_none.mp h_alpha.symm]
      exact h_darken.hide_untold
    | some failure =>
      rw [h_first] at h_alpha h_alpha_untold
      obtain ⟨failure', h_second⟩ :=
        Option.isSome_iff_exists.mp (Option.isNone_eq_false_iff.mp h_alpha.symm)
      rw [h_second] at h_alpha_untold ⊢
      exact h_alpha_untold
  cases h_there : t.dimmer.alpha == 0 with
  | true =>
    have h_there' : (t'.dimmer.alpha == 0) = true := h_same ▸ h_there
    rw [applyAlpha_of_inPlace h_there, applyAlpha_of_inPlace h_there']
    exact ⟨⟨footprint, h_same⟩, iff_of_true h_going h_going'⟩
  | false =>
    have h_there' : (t'.dimmer.alpha == 0) = false := h_same ▸ h_there
    rw [dimmer_applyAlpha_of_ne h_there, dimmer_applyAlpha_of_ne h_there',
      failure_applyAlpha_of_ne h_there, failure_applyAlpha_of_ne h_there', h_due, h_due']
    refine ⟨?_, ?_⟩
    · unfold Dimmer.afterBlock
      rw [h_due, h_due', h_same]
      change Dimmer.Relocated (if isUntold (refused w) then _ else _)
        (if isUntold (refused w') then _ else _)
      rw [h_untold, h_refused]
      split_ifs <;> exact ⟨footprint, rfl⟩
    · rw [← Option.isNone_iff_eq_none, ← Option.isNone_iff_eq_none, ← Option.not_isSome,
        ← Option.not_isSome]
      change (!isUntold (refused w)) = true ↔ (!isUntold (refused w')) = true
      rw [h_untold]

/-- Fading out is considered alike at the same reading. -/
theorem relocated_consider {request : PresentRequest} (h_alpha : request.alpha = 0)
    (h_now : t.now w = t'.now w') :
    (t.consider w handle request).dimmer.Relocated (t'.consider w' handle request).dimmer ∧
      ((t.consider w handle request).failure = none
        ↔ (t'.consider w' handle request).failure = none) := by
  have ⟨footprint, h_same⟩ := h
  -- the footprint has no say in whether the request commits
  have h_commits : t'.dimmer.commits request (t.now w) = t.dimmer.commits request (t.now w) := by
    rw [h_same]
    rfl
  have h_read : t.tookReading.dimmer.Relocated t'.tookReading.dimmer := h
  unfold consider
  rw [← h_now, h_commits]
  by_cases h_due : t.dimmer.commits request (t.now w) = true
  · rw [if_pos h_due, if_pos h_due]
    unfold commit
    by_cases h_instant : request.duration ≤ 0
    · rw [if_pos h_instant, if_pos h_instant, h_alpha]
      exact relocated_applyAlpha h_read h_showing h_going h_going' h_darken
    · rw [if_neg h_instant, if_neg h_instant, dimmer_update, dimmer_update, dimmer_tookReading,
        dimmer_tookReading, h_same]
      exact ⟨⟨footprint, rfl⟩, iff_of_true h_going h_going'⟩
  · rw [if_neg h_due, if_neg h_due]
    exact ⟨h_read, iff_of_true h_going h_going'⟩

/-- **To present alpha zero comes to the same wherever the surface is placed**, if neither placing
is cut short, or both are. -/
theorem relocated_present (h_handle : t.dimmer.handle = some handle) {request : PresentRequest}
    (h_alpha : request.alpha = 0) (h_layer : request.layer = t.dimmer.footprint.layer)
    (h_layer' : request.layer = t'.dimmer.footprint.layer)
    (h_lost : t.dimmer.losesPlacing w = t'.dimmer.losesPlacing w') (h_now : t.now w = t'.now w') :
    (t.present w request).dimmer.Relocated (t'.present w' request).dimmer := by
  -- both dimmers have the one surface, placed differently
  have h_handle' : t'.dimmer.handle = some handle := by
    obtain ⟨footprint, h_same⟩ := h
    rw [h_same]
    exact h_handle
  obtain ⟨message, h_present⟩ := present_of_handle (w := w) h_handle request
  obtain ⟨message', h_present'⟩ := present_of_handle (w := w') h_handle' request
  have h_said : (t.debug message).dimmer.Relocated (t'.debug message').dimmer := h
  have h_placed : ((t.debug message).place w handle request.layer).dimmer.Relocated
      ((t'.debug message').place w' handle request.layer).dimmer := relocated_place h_said _ _
  have h_shows : ((t.debug message).place w handle request.layer).dimmer.showing = true := by
    obtain ⟨_, h_place⟩ := dimmer_place (t.debug message) w handle request.layer
    rw [h_place]
    exact h_showing
  have h_next : ((t.debug message).place w handle request.layer).now w
      = ((t'.debug message').place w' handle request.layer).now w' := by
    rw [now, now, readings_place, readings_place]
    exact h_now
  -- whether placing goes through is the same on both sides, by `h_lost`
  have h_first := going_place_iff (t := t.debug message) h_going w handle
  have h_first' := going_place_iff (t := t'.debug message') h_going' w' handle
  rw [dimmer_debug, ← h_layer] at h_first
  rw [dimmer_debug, ← h_layer', ← h_lost] at h_first'
  rw [h_present, h_present']
  by_cases h_here : ((t.debug message).place w handle request.layer).failure = none
  · have h_here' := h_first'.mpr (h_first.mp h_here)
    rw [andThen_of_going h_here, andThen_of_going h_here']
    obtain ⟨h_considered, h_second⟩ :=
      relocated_consider h_placed h_shows h_here h_here' h_darken h_alpha h_next
    by_cases h_there : (((t.debug message).place w handle request.layer).consider w handle
        request).failure = none
    · rw [andThen_of_going h_there, andThen_of_going (h_second.mp h_there)]
      obtain ⟨footprint, h_considered⟩ := h_considered
      -- the target is set on both sides to what was requested
      rw [dimmer_update, dimmer_update, dimmer_logTimeline, dimmer_logTimeline, h_considered]
      exact ⟨footprint, rfl⟩
    · -- both end where the alpha is applied
      rw [andThen_of_ended h_there, andThen_of_ended (h_there ∘ h_second.mpr)]
      exact h_considered
  · -- both end where they are placed
    have h_here' := fun h_going' => h_here (h_first.mpr (h_first'.mp h_going'))
    rw [andThen_of_ended h_here, andThen_of_ended h_here']
    exact h_placed

end Relocated

/-- What the guard holds back would not have committed. -/
theorem concurs_present (h_handle : t.dimmer.handle = some handle)
    (h_target : (t.dimmer.target == 0) = true) {request : PresentRequest}
    (h_alpha : request.alpha = 0)
    (h_outrun : t.dimmer.timeline.outrunBy request.duration (t.now w) = false) :
    t.dimmer.Concurs (t.present w request).dimmer := by
  have h_commits : t.dimmer.commits request (t.now w) = false :=
    Dimmer.commits_fadeOut (h_alpha ▸ h_target) h_outrun
  by_cases h_going : (t.present w request).failure = none
  · have h_presented := presented h_handle h_going
    generalize (t.present w request).dimmer = d at h_presented
    cases h_presented with
    | kept footprint _ =>
      -- only the target is recorded, which may have been the other zero
      exact ⟨h_alpha ▸ h_target, rfl⟩
    | jumped footprint reached h_due => cases h_commits.symm.trans h_due
    | started footprint h_due => cases h_commits.symm.trans h_due
  · -- not even the target is recorded
    obtain ⟨footprint, h_cut⟩ := dimmer_present_of_ended h_handle h_going
    rw [h_cut]
    exact ⟨Number.beq_trans h_target (Number.beq_symm h_target), rfl⟩

/-- The target of a dimmer that fades out is a number if it was one before. -/
theorem isNaN_target_fadeOut (h_handle : t.dimmer.handle = some handle)
    (h_num : t.dimmer.target.isNaN = false) (duration : Float) :
    (t.fadeOut w duration).dimmer.target.isNaN = false := by
  obtain ⟨message, h_fadeOut⟩ := fadeOut_eq t w duration
  have h_held : (t.debug message).dimmer.handle = some handle := h_handle
  rw [h_fadeOut]
  by_cases h_going : ((t.debug message).present w
      { layer := t.dimmer.footprint.layer, alpha := 0, duration }).failure = none
  · rw [(presented h_held h_going).target_eq]
    exact inUnit_zero.isNaN
  · obtain ⟨footprint, h_cut⟩ := dimmer_present_of_ended h_held h_going
    rw [h_cut]
    exact h_num

/-- **To dismiss a dimmer that shows comes to the same as to present alpha zero**, if the guard
holds it back, or if neither placing is cut short, or both are. -/
theorem concurs_dismiss (h_handle : t.dimmer.handle = some handle) (h_going : t.failure = none)
    (h_first : t.readings = 0) (h_num : t.dimmer.target.isNaN = false)
    (h_showing : t.dimmer.showing = true) (h_darken : w.Darken w') {now : Float}
    (h_now : ∀ n, w.reading n = now) (h_now' : ∀ n, w'.reading n = now)
    (request : DismissRequest)
    (h_lost : t.dimmer.fade? w request.duration ≠ none →
      t.dimmer.losesPlacing w = t.dimmer.losesPlacing w') :
    (t.dismiss w request).dimmer.Concurs
      (t.present w' ⟨t.dimmer.footprint.layer, 0, request.duration⟩).dimmer := by
  have h_same (u : Turn) : u.now w = t.now w' := (h_now _).trans (h_now' _).symm
  -- what passes the guard is presented, on a surface that need not be placed as the other one is
  have h_passed {u : Turn} (h_u : u.dimmer = t.dimmer) (h_u_going : u.failure = none)
      (h_lost : t.dimmer.losesPlacing w = t.dimmer.losesPlacing w') :
      (u.fadeOut w request.duration).dimmer.Concurs
        (t.present w' ⟨t.dimmer.footprint.layer, 0, request.duration⟩).dimmer := by
    have h_held : u.dimmer.handle = some handle := h_u ▸ h_handle
    obtain ⟨message, h_fadeOut⟩ := fadeOut_eq u w request.duration
    have h_start : (u.debug message).dimmer.Relocated t.dimmer := by
      rw [dimmer_debug, h_u]
      exact ⟨t.dimmer.footprint, rfl⟩
    refine Dimmer.Relocated.concurs ?_ (isNaN_target_fadeOut h_held (h_u ▸ h_num) _)
    rw [h_fadeOut, h_u]
    refine relocated_present h_start (h_u ▸ h_showing) h_u_going h_going h_darken h_held rfl ?_ rfl
      ?_ (h_same _)
    · exact congrArg (fun d => d.footprint.layer) h_u.symm
    · exact (congrArg (Dimmer.losesPlacing · w) h_u).trans h_lost
  have h_read : t.now w = w.reading 0 := congrArg w.reading h_first
  have h_fade : t.dimmer.fade? w request.duration
      = if t.dimmer.target != 0 || t.dimmer.timeline.outrunBy request.duration (t.now w) then
          some ⟨t.dimmer.footprint.layer, 0, request.duration⟩ else none := by
    rw [Dimmer.fade?, h_showing, Bool.true_and, h_read]
  rw [dismiss_of_showing h_handle h_showing]
  split_ifs with h_target h_outrun
  · refine h_passed rfl h_going (h_lost ?_)
    rw [h_fade, h_target, Bool.true_or, if_pos rfl]
    exact Option.some_ne_none _
  · refine h_passed (u := t.tookReading) rfl h_going (h_lost ?_)
    rw [h_fade, h_outrun, Bool.or_true, if_pos rfl]
    exact Option.some_ne_none _
  · refine concurs_present h_handle ?_ rfl ?_
    · rwa [bne, Bool.not_eq_true, Bool.not_eq_false'] at h_target
    · rw [← h_same t]
      exact Bool.eq_false_of_not_eq_true h_outrun

end Turn

/-! ### The layer in place -/

/-- A layer that was asked for would be accepted again. -/
theorem layerRules_of_mem_layersAsked {steps : List Step} {layer : Float}
    (h : layer ∈ layersAsked steps) :
    Contract.number Request.layerRules (.number layer) = .ok layer := by
  obtain ⟨asked, alpha, duration, request, h_check, rfl⟩ := check_of_mem_layersAsked h
  have h_asked := PresentRequest.check_layer h_check
  -- a layer that is accepted is the value itself
  rwa [(layer_ok_iff.mp h_asked).1] at h_asked

/-- The layer in place would be accepted, even that of a surface that has not been given one. -/
theorem Layered.layerRules {d : Dimmer} {past : List Step} {kept : Prop}
    (h : Layered d past kept) :
    Contract.number Request.layerRules (.number d.footprint.layer) = .ok d.footprint.layer := by
  by_cases h_kept : kept
  · exact layerRules_of_mem_layersAsked (h.asked h_kept)
  · rw [h.unset h_kept]
    exact layer_ok_iff.mpr ⟨rfl, isWhole_iff.mp (by decide +kernel)⟩

/-- **The guard of dismissing is only a shortcut.** The dimmer was created anyhow and has since
taken any steps, with any clock, any display and any refusals at each of them, and it has a surface.
It is dismissed, or else asked to present alpha zero at the layer in place over the same time, while
the clock stands at the same value and what takes a dimmer to zero is refused alike.

If it shows, it comes to the same: alpha, timeline and visibility are equal and so are the targets
as numbers. This holds of whatever the guard holds back, and of what passes it if placing the
surface is cut short in both cases or in neither, and so if what either surface refuses can be told,
when neither call fails. If the dimmer does not show, to dismiss it changes nothing. -/
theorem Dimmer.shortcut_of_run (options : Options) (display : Float)
    (admission : SurfaceRequest → Except Failure Handle) (refusal : Primitive → Option Failure)
    (steps : List Step) (w w' : Surroundings) (now : Float) (duration : Value)
    (request : DismissRequest)
    (h_live : ((new options display admission refusal).after steps).handle.isSome = true)
    (h_check : DismissRequest.check duration = .ok request) (h_now : ∀ n, w.reading n = now)
    (h_now' : ∀ n, w'.reading n = now) (h_darken : w.Darken w') :
    let d := (new options display admission refusal).after steps
    let dismissal : Step := ⟨.dismiss duration, w⟩
    let presentation : Step :=
      ⟨.present (.number d.footprint.layer) (.number 0) duration, w'⟩
    (d.showing = true →
        (d.request? w (.dismiss duration) ≠ none → d.losesPlacing w = d.losesPlacing w') →
        (d.turn dismissal).dimmer.Concurs (d.turn presentation).dimmer) ∧
      (w.Describable → w'.Describable → d.losesPlacing w = d.losesPlacing w' ∧
        d.answer dismissal = .ok none ∧ d.answer presentation = .ok none) ∧
      (d.showing = false → (d.turn dismissal).dimmer = d) := by
  intro d dismissal presentation
  obtain ⟨handle, h_handle⟩ := Option.isSome_iff_exists.mp h_live
  have h_layered := layered_after_new options display admission refusal steps
  -- the request that the dimmer would make of itself is accepted from the caller as well
  have h_presented :
      PresentRequest.check (.number d.footprint.layer) (.number 0) duration
        = .ok ⟨d.footprint.layer, 0, request.duration⟩ := by
    unfold PresentRequest.check
    rw [h_layered.layerRules, alpha_ok_iff.mpr ⟨rfl, inUnit_zero⟩,
      DismissRequest.check_fields h_check]
  -- what concurs, when neither fails, and the hidden dimmer
  refine ⟨?_, ?_, ?_⟩
  · intro h_showing h_lost
    have h_num : d.target.isNaN = false :=
      (numeric_after options display admission refusal steps).target
    rw [turn_dismiss h_check, turn_present h_presented]
    refine Turn.concurs_dismiss (t := { dimmer := d }) h_handle rfl rfl h_num h_showing h_darken
      h_now h_now' request ?_
    intro h_fade
    apply h_lost
    rw [request?, h_check]
    exact h_fade
  · intro hw hw'
    refine ⟨?_, d.answer_dismiss hw h_check, d.answer_present hw' h_presented⟩
    rw [d.losesPlacing_of_describable hw, d.losesPlacing_of_describable hw']
  · intro h_hidden
    rw [turn_dismiss h_check]
    exact congrArg Turn.dimmer
      (Turn.dismiss_of_hidden (t := { dimmer := d }) h_handle h_hidden)

/-- A dim in place that is faded out over a second. -/
def Dimmer.slowFadeOut : List Step :=
  [⟨.present (.number 5) (.number 0.8) (.number 0), .calm 0⟩,
    ⟨.dismiss (.number 1000), .calm 0⟩]

/-- To be gone in 600 ms, asked for after 400 ms, is no sooner than the fade-out in progress: the
guard holds it back, as presenting would not commit it, here on a surface that loses its display. To
be gone at once passes it. -/
theorem Dimmer.shortcut_of_slowFadeOut :
    let d := fresh.after slowFadeOut
    let unseen : Surroundings := { Surroundings.calm 400 with display := none }
    (d.turn ⟨.dismiss (.number 600), .calm 400⟩).dimmer.Concurs
        (d.turn ⟨.present (.number 5) (.number 0) (.number 600), unseen⟩).dimmer ∧
      (d.turn ⟨.dismiss (.number 0), .calm 400⟩).dimmer.Concurs
        (d.turn ⟨.present (.number 5) (.number 0) (.number 0), unseen⟩).dimmer ∧
      (d.turn ⟨.dismiss (.number 600), .calm 400⟩).dimmer.showing = true ∧
      (d.turn ⟨.dismiss (.number 0), .calm 400⟩).dimmer.showing = false := by
  intro d unseen
  have h_live : (fresh.after slowFadeOut).handle.isSome = true := by decide +kernel
  have h_showing : (fresh.after slowFadeOut).showing = true := by decide +kernel
  have h_layer : (fresh.after slowFadeOut).footprint.layer = 5 := by decide +kernel
  have h_check {x : Float} (h_whole : isWhole x = true) (h_nonneg : 0 ≤ x) :
      DismissRequest.check (.number x) = .ok ⟨x⟩ :=
    DismissRequest.check_eq_ok_iff.mpr ⟨rfl, isWhole_iff.mp h_whole, h_nonneg⟩
  have h_accepting : unseen.Accepting := fun _ => rfl
  -- of the two dismissals the first is held back by the guard, the second passes it
  have h_late := shortcut_of_run _ _ _ _ slowFadeOut (.calm 400) unseen 400 _ _ h_live
    (h_check (x := 600) (by decide +kernel) (by decide +kernel)) (fun _ => rfl) (fun _ => rfl)
    ⟨rfl, rfl, rfl, rfl⟩
  have h_atOnce := shortcut_of_run _ _ _ _ slowFadeOut (.calm 400) unseen 400 _ _ h_live
    (h_check (x := 0) (by decide +kernel) (by decide +kernel)) (fun _ => rfl) (fun _ => rfl)
    ⟨rfl, rfl, rfl, rfl⟩
  rw [← fresh_eq] at h_late h_atOnce
  obtain ⟨h_held, h_alike, -⟩ := h_late
  obtain ⟨h_passed, -⟩ := h_atOnce
  obtain ⟨h_lost, -⟩ := h_alike (Surroundings.describable_calm 400) h_accepting.describable
  rw [h_layer] at h_held h_passed
  exact ⟨h_held h_showing fun _ => h_lost, h_passed h_showing fun _ => h_lost, by decide +kernel,
    by decide +kernel⟩

/-- On a display that has changed its size, to be dismissed heads for zero, where a request that the
surface cuts short still heads for the dim. -/
example :
    let d := Dimmer.fresh.after [⟨.present (.number 5) (.number 0.8) (.number 0), .calm 0⟩]
    let resized : Surroundings := { Surroundings.calm 0 with display := some ⟨1000, 1000⟩ }
    let speechless : Surroundings :=
      { resized with
        refusal := fun p =>
          if p.kind = .size then some (.raised (.record [("toString", .null)])) else none }
    (d.turn ⟨.dismiss (.number 300), resized⟩).dimmer.target = 0 ∧
      (d.turn ⟨.present (.number 5) (.number 0) (.number 300), speechless⟩).dimmer.target
        = 0.8 := by
  decide +kernel

end Scrim

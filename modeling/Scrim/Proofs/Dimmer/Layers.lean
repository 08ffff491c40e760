import Scrim.Proofs.Dimmer.Creation
import Scrim.Proofs.Dimmer.Requests
import Scrim.Proofs.Placement
import Scrim.Proofs.Timeline

/-!
# The layers that reach a surface

A caller asks for a layer with each present request. Requests of the dimmer's own take the layer
that is in place, and that is a layer the caller asked for as soon as the dimmer has kept one: the
request has met a known display, and its placing was not cut short (`Dimmer.KeepsAsked`). Until then
it is the layer of a surface that has not been given one, which a request of the dimmer's own may
push. `Dimmer.layer_asked_iff` says that this is the only way in which a layer reaches the surface
that nobody asked for.
-/

namespace Scrim

/-! ### Asking for layers -/

/-- The layer that the caller asks for in a step, by a present request that is accepted. -/
def Step.layer? (s : Step) : Option Float :=
  match s.operation with
  | .present layer alpha duration =>
    (PresentRequest.check layer alpha duration).toOption.map PresentRequest.layer
  | _ => none

/-- The layers that the caller asks for in a run, in order. -/
def layersAsked (steps : List Step) : List Float :=
  steps.filterMap Step.layer?

/-- The dimmer keeps a layer that the caller asks for: the placing that the step calls for, on a
known display, is not cut short. -/
def Dimmer.KeepsAsked (d : Dimmer) (s : Step) : Prop :=
  s.layer?.isSome = true ∧ (d.settled? s).isSome = true

/-- In some step of a run, the dimmer keeps a layer that the caller asks for. -/
def Dimmer.KeptAsked (d : Dimmer) : List Step → Prop
  | [] => False
  | s :: rest => d.KeepsAsked s ∨ (d.turn s).dimmer.KeptAsked rest

/-- The layer that an event pushes to a surface, if it does. -/
def Event.layer? : Event → Option Float
  | .call _ (.layer layer) _ => some layer
  | _ => none

theorem layersAsked_append (earlier later : List Step) :
    layersAsked (earlier ++ later) = layersAsked earlier ++ layersAsked later :=
  List.filterMap_append

theorem mem_layersAsked_of_layer? {s : Step} {layer : Float} (h : s.layer? = some layer)
    (earlier : List Step) : layer ∈ layersAsked (earlier ++ [s]) := by
  rw [layersAsked_append]
  exact List.mem_append_right _ (List.mem_filterMap.mpr ⟨s, List.mem_singleton_self s, h⟩)

/-- Behind a layer that was asked for there is a request that was accepted. -/
theorem check_of_mem_layersAsked {steps : List Step} {layer : Float}
    (h : layer ∈ layersAsked steps) :
    ∃ asked alpha duration request,
      PresentRequest.check asked alpha duration = .ok request ∧ request.layer = layer := by
  obtain ⟨⟨operation, w⟩, -, h_layer⟩ := List.mem_filterMap.mp h
  cases operation with
  | present asked alpha duration =>
    obtain ⟨request, h_request, h_eq⟩ := Option.map_eq_some_iff.mp h_layer
    refine ⟨asked, alpha, duration, request, ?_, h_eq⟩
    cases h_check : PresentRequest.check asked alpha duration with
    | error failure =>
      rw [h_check] at h_request
      cases h_request
    | ok accepted =>
      rw [h_check] at h_request
      exact congrArg Except.ok (Option.some.inj h_request)
  | dismiss | hideNow | jumpToEnd | advance | release => cases h_layer

/-! ### The layer of a placement -/

namespace Dimmer

variable {d : Dimmer} {s : Step}

theorem fade?_layer {w : Surroundings} {duration : Float} {request : PresentRequest}
    (h : d.fade? w duration = some request) : request.layer = d.footprint.layer := by
  unfold fade? at h
  split_ifs at h
  obtain rfl := Option.some.inj h
  rfl

/-- The layer of a placement was asked for by the caller, or is the one in place. -/
theorem placing?_layer {p : Placing} (h : d.placing? s = some p) :
    s.layer? = some p.layer ∨ s.layer? = none ∧ p.layer = d.footprint.layer := by
  obtain ⟨-, request, -, h_request, -, h_layer⟩ := placing?_eq_some h
  rw [h_layer]
  obtain ⟨operation, w⟩ := s
  cases operation with
  | present layer alpha duration =>
    -- the only operation with a layer of the caller
    exact Or.inl (congrArg (Option.map PresentRequest.layer) h_request)
  | dismiss duration =>
    obtain ⟨request', -, h_fade⟩ := Option.bind_eq_some_iff.mp h_request
    exact Or.inr ⟨rfl, fade?_layer h_fade⟩
  | hideNow => exact Or.inr ⟨rfl, fade?_layer h_request⟩
  | jumpToEnd =>
    change (if d.isAnimating then _ else none) = some request at h_request
    -- a jump to the end asks at the layer in place, while the dimmer is animating
    split_ifs at h_request
    obtain rfl := Option.some.inj h_request
    exact Or.inr ⟨rfl, rfl⟩
  | advance | release => cases h_request

/-- A layer that reaches the surface is that of the placement called for. -/
theorem layer?_of_mem_turn {e : Event} {layer : Float} (he : e ∈ (d.turn s).events)
    (h_layer : e.layer? = some layer) :
    ∃ p handle, d.placing? s = some p ∧ d.handle = some handle ∧ layer = p.layer := by
  have h_placing : e.isPlacing = true := by
    cases e with
    | call surface primitive answer => cases primitive <;> first | rfl | cases h_layer
    | log | requested | opened | closed => cases h_layer
  have h_mem : e ∈ (d.turn s).placed.2 := List.mem_filter.mpr ⟨he, h_placing⟩
  cases h : d.placing? s with
  | none =>
    rw [placed_turn_of_placing_eq_none h] at h_mem
    cases h_mem
  | some p =>
    obtain ⟨handle, -, h_handle, -⟩ := placing?_eq_some h
    rw [placed_turn_of_placing h_handle h, Placing.calls_outcome] at h_mem
    split_ifs at h_mem
    · refine ⟨p, handle, rfl, h_handle, ?_⟩
      -- of the three primitives one pushes a layer
      rcases Block.mem_events_run (List.mem_filter.mp h_mem).1 with
        ⟨line, rfl⟩ | ⟨primitive, h_act, rfl⟩
      · cases h_layer
      · rcases Placing.mem_acts h_act with rfl | rfl | rfl
        · cases h_layer
        · cases h_layer
        · exact (Option.some.inj h_layer).symm
    · cases h_mem

end Dimmer

/-! ### The layer in place -/

/-- The layer in place after the steps so far: one that was asked for if one has been kept, and none
until then. -/
structure Layered (d : Dimmer) (past : List Step) (kept : Prop) : Prop where
  asked (h_kept : kept) : d.footprint.layer ∈ layersAsked past
  unset (h_not : ¬kept) : d.footprint.layer = unsetLayer

section Layered

variable {d : Dimmer} {past : List Step} {kept : Prop} {s : Step}

/-- A step that leaves the layer in place, and in which no layer that is asked for is kept. -/
theorem Layered.snoc {d' : Dimmer} (h : Layered d past kept)
    (h_same : d'.footprint.layer = d.footprint.layer) (h_none : ¬d.KeepsAsked s) :
    Layered d' (past ++ [s]) (kept ∨ d.KeepsAsked s) := by
  refine ⟨?_, ?_⟩
  · intro h_some
    rw [h_same, layersAsked_append]
    exact List.mem_append_left _ (h.asked (h_some.resolve_right h_none))
  · intro h_not
    rw [h_same]
    exact h.unset (h_not ∘ Or.inl)

/-- **Each step keeps the layer in order.** -/
theorem Layered.turn (h : Layered d past kept) (s : Step) :
    Layered (d.turn s).dimmer (past ++ [s]) (kept ∨ d.KeepsAsked s) := by
  cases h_settled : d.settled? s with
  | none =>
    refine h.snoc (congrArg Footprint.layer (Dimmer.footprint_turn_of_unsettled h_settled)) ?_
    intro h_keeps
    cases h_settled ▸ h_keeps.2
  | some p =>
    have h_footprint := Dimmer.footprint_turn_of_settled h_settled
    obtain ⟨h_placing, -⟩ := Dimmer.settled?_eq_some h_settled
    rcases Dimmer.placing?_layer h_placing with h_layer | ⟨h_own, h_layer⟩
    · -- the caller asks for the layer, which is put in place unless it is there
      have h_here := mem_layersAsked_of_layer? h_layer past
      refine ⟨fun _ => ?_, fun h_not => absurd (Or.inr ?_) h_not⟩
      · rcases h_footprint with h_placed | ⟨h_same, h_placed⟩
        · rw [h_placed]
          exact h_here
        rw [h_placed]
        by_cases h_before : kept
        · rw [layersAsked_append]
          exact List.mem_append_left _ (h.asked h_before)
        · -- the surface has no layer yet, and the caller has asked for just that one
          obtain ⟨-, -, h_same⟩ := Footprint.differs_eq_false_iff.mp h_same
          change (d.footprint.layer == p.layer) = true at h_same
          rw [h.unset h_before] at h_same ⊢
          rwa [eq_unsetLayer h_same] at h_here
      · exact ⟨h_layer ▸ rfl, h_settled ▸ rfl⟩
    · -- the dimmer asks for the layer in place
      refine h.snoc ?_ ?_
      · rcases h_footprint with h_placed | ⟨-, h_placed⟩
        · rw [h_placed]
          exact h_layer
        · rw [h_placed]
      · intro h_keeps
        cases h_own ▸ h_keeps.1

/-- **The layer is in order after every run.** -/
theorem Layered.after (h : Layered d past kept) (steps : List Step) :
    Layered (d.after steps) (past ++ steps) (kept ∨ d.KeptAsked steps) := by
  induction steps generalizing d past kept with
  | nil =>
    rw [List.append_nil, Dimmer.KeptAsked, or_false]
    exact h
  | cons s rest ih =>
    have h_rest := ih (h.turn s)
    rwa [List.append_assoc, or_assoc] at h_rest

end Layered

theorem layered_new (options : Options) (display : Float)
    (admission : SurfaceRequest → Except Failure Handle) (refusal : Primitive → Option Failure) :
    Layered (Dimmer.new options display admission refusal) [] False := by
  obtain ⟨handle, h_new⟩ := Dimmer.new_eq options display admission refusal
  rw [h_new]
  exact ⟨False.elim, fun _ => rfl⟩

/-- The layer is in order after every run of a new dimmer. -/
theorem layered_after_new (options : Options) (display : Float)
    (admission : SurfaceRequest → Except Failure Handle) (refusal : Primitive → Option Failure)
    (steps : List Step) :
    Layered ((Dimmer.new options display admission refusal).after steps) steps
      ((Dimmer.new options display admission refusal).KeptAsked steps) := by
  have h_after := (layered_new options display admission refusal).after steps
  rwa [false_or] at h_after

/-- **A layer that reaches the surface was asked for, unless the dimmer pushes one before it has
one.** The dimmer was created anyhow, and has since taken any steps, with any clock, any display and
any refusals at each of them. A layer that reaches its surface in the next step is one that the
caller has asked for, or that of a surface that has not been given one. It is the latter, and not
asked for, exactly if the step makes a request of the dimmer's own, no layer of the caller's has
been kept before, and none has asked for that very layer. Its creation pushes no layer. -/
theorem Dimmer.layer_asked_iff (options : Options) (display : Float)
    (admission : SurfaceRequest → Except Failure Handle) (refusal : Primitive → Option Failure)
    (earlier : List Step) (s : Step) (e : Event) (layer : Float) (h_layer : e.layer? = some layer) :
    let created := new options display admission refusal
    let asked := layersAsked (earlier ++ [s])
    e ∉ (create options display admission refusal).events ∧
      (e ∈ ((created.after earlier).turn s).events →
        (layer ∈ asked ∨ layer = unsetLayer) ∧
          (layer ∈ asked ↔
            s.layer?.isSome = true ∨ created.KeptAsked earlier ∨ unsetLayer ∈ asked)) := by
  intro created asked
  refine ⟨?_, ?_⟩
  · intro h_mem
    cases e with
    | call surface primitive answer =>
      -- what a creation calls for binds the surface to its display
      rw [primitive_of_call_mem_create _ _ _ _ h_mem] at h_layer
      cases h_layer
    | log | requested | opened | closed => cases h_layer
  intro he
  obtain ⟨p, handle, h_placing, h_handle, rfl⟩ := layer?_of_mem_turn he h_layer
  have h_layered := layered_after_new options display admission refusal earlier
  rcases placing?_layer h_placing with h_asked | ⟨h_own, h_inPlace⟩
  · have h_here : p.layer ∈ asked := mem_layersAsked_of_layer? h_asked earlier
    refine ⟨Or.inl h_here, iff_of_true h_here (Or.inl ?_)⟩
    rw [h_asked]
    rfl
  -- a request of the dimmer's own, at the layer in place
  have h_mono {n : Float} (h : n ∈ layersAsked earlier) : n ∈ asked := by
    change n ∈ layersAsked (earlier ++ [s])
    rw [layersAsked_append]
    exact List.mem_append_left _ h
  rw [h_inPlace]
  -- whether the layer in place has come from the caller
  by_cases h_before : created.KeptAsked earlier
  · have h_here := h_mono (h_layered.asked h_before)
    exact ⟨Or.inl h_here, iff_of_true h_here (Or.inr (Or.inl h_before))⟩
  · have h_unset := h_layered.unset h_before
    refine ⟨Or.inr h_unset, ?_⟩
    rw [h_unset, h_own]
    simp [h_before]

/-- A dimmer that was asked to dim a display at layer five while the display was unknown. -/
def Dimmer.unseenFadeIn : List Step :=
  [⟨.present (.number 5) (.number 0.8) (.number 0), { Surroundings.calm 0 with display := none }⟩]

/-- Dismissed once the display is known, it puts its surface at a layer that nobody has asked for.
-/
theorem Dimmer.layer_of_unseenFadeIn :
    ∃ e layer, e ∈ ((fresh.after unseenFadeIn).turn ⟨.dismiss (.number 300), .calm 0⟩).events ∧
      e.layer? = some layer ∧ layer = unsetLayer ∧ layer ∉ ([5] : List Float) := by
  have h_pushed : ((fresh.after unseenFadeIn).turn
      ⟨.dismiss (.number 300), .calm 0⟩).events.filterMap Event.layer? = [unsetLayer] := by
    decide +kernel
  -- the event that pushes the layer; its place among the events does not matter
  obtain ⟨e, he, h_layer⟩ := List.mem_filterMap.mp (h_pushed ▸ List.mem_singleton_self unsetLayer)
  have h_asked : layersAsked (unseenFadeIn ++ [⟨.dismiss (.number 300), .calm 0⟩]) = [5] := by
    decide +kernel
  have h_turn := (layer_asked_iff {} 0 (fun request => .ok { id := 0, name := request.name })
    (fun _ => none) unseenFadeIn ⟨.dismiss (.number 300), .calm 0⟩ e _ h_layer).2
  rw [← fresh_eq, h_asked] at h_turn
  obtain ⟨h_either, h_exact⟩ := h_turn he
  have h_five : unsetLayer ∉ ([5] : List Float) :=
    fun h_mem => absurd (List.mem_singleton.mp h_mem) (by decide +kernel)
  have h_not : unsetLayer ∉ ([5] : List Float) := by
    intro h_mem
    rcases h_exact.mp h_mem with h_step | (h_kept | h_kept) | h_unset
    · cases h_step
    · cases h_kept.2
    · cases h_kept
    · exact h_five h_unset
  exact ⟨e, unsetLayer, he, h_layer, h_either.resolve_left h_not, h_not⟩

end Scrim

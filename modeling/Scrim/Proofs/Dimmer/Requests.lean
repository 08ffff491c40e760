import Scrim.Proofs.Dimmer.Moves

/-!
# The requests of a step

Present requests come from the caller, and from a dimmer that fades out or jumps to its end. What a
step does besides is no matter to the placement of the surface: `Dimmer.request?` tells the request
that an operation brings about, `Dimmer.placing?` what placement that calls for, and
`Dimmer.placed_turn_of_placing` that the step issues the calls for it and keeps its footprint, or
leaves footprint and surface where they were. The footprint stays where it was, too, if the placing
is cut short, though calls have been issued then.
-/

namespace Scrim

/-! ### Calls that place a surface -/

/-- Whether an event is a call that places the surface. -/
def Event.isPlacing : Event → Bool
  | .call _ (.position ..) _ => true
  | .call _ (.size ..) _ => true
  | .call _ (.layer _) _ => true
  | _ => false

theorem filter_isPlacing_reported (context : String) (outcome : Block.Outcome) :
    (outcome.reported context).filter Event.isPlacing = outcome.events.filter Event.isPlacing := by
  unfold Block.Outcome.reported
  split
  · rfl
  · rw [List.filter_append]
    exact List.append_nil _

/-- The calls that a placement comes to: those of its primitives, up to the first refused. -/
def Placing.calls (p : Placing) (w : Surroundings) (handle : Handle) : List Event :=
  (Block.run w.refusal handle p.acts).events.filter Event.isPlacing

/-- Whether a surface that is told where to lie refuses something with what cannot be told, so that
the placing is cut short. -/
def Placing.isCutShort (p : Placing) (w : Surroundings) : Bool :=
  ((Guarded.placing p).escape w.refusal).isSome

/-- What calling for a placement comes to, with another footprint in place: the footprint
afterwards, and the calls. Only the footprint is looked at, so a placement that does not differ in
it is left out. -/
def Placing.outcome (p : Placing) (w : Surroundings) (handle : Handle) (f : Footprint) :
    Footprint × List Event :=
  if f.differs p.footprint then
    (if p.isCutShort w then f else p.footprint, p.calls w handle)
  else (f, [])

/-- The calls are made if another footprint is in place, whether the placing is cut short or not. -/
theorem Placing.calls_outcome (p : Placing) (w : Surroundings) (handle : Handle) (f : Footprint) :
    (p.outcome w handle f).2 = if f.differs p.footprint then p.calls w handle else [] := by
  unfold outcome
  split_ifs <;> rfl

namespace Turn

/-- The footprint in place, and the calls that have placed the surface. -/
def placed (t : Turn) : Footprint × List Event :=
  (t.dimmer.footprint, t.events.filter Event.isPlacing)

theorem placed_emit {events : List Event} (h : ∀ e ∈ events, e.isPlacing = false) (t : Turn) :
    (t.emit events).placed = t.placed := by
  have h_none : events.filter Event.isPlacing = [] :=
    List.filter_eq_nil_iff.mpr fun e he => Bool.not_eq_true _ ▸ h e he
  unfold placed
  rw [events_emit, List.filter_append, h_none, List.append_nil, dimmer_emit]

@[simp] theorem placed_say (t : Turn) (level : Level) (message : String) :
    (t.say level message).placed = t.placed := by
  apply placed_emit
  intro e he
  rw [List.mem_singleton.mp he]
  rfl

@[simp] theorem placed_debug (t : Turn) (message : String) : (t.debug message).placed = t.placed :=
  placed_say t .debug message

theorem placed_update {change : Dimmer → Dimmer} (h : ∀ d, (change d).footprint = d.footprint)
    (t : Turn) : (t.update change).placed = t.placed := by
  unfold placed
  rw [dimmer_update, events_update, h]

@[simp] theorem placed_collapse (t : Turn) (operation : String) :
    (t.collapse operation).placed = t.placed :=
  (placed_update (fun _ => rfl) _).trans (placed_say ..)

/-- A block that issues no placing primitive leaves the surface where it is. -/
theorem placed_guard {handle : Handle} {g : Guarded}
    (h : ∀ primitive ∈ g.primitives, ∀ answer,
      (Event.call handle.id primitive answer).isPlacing = false) (t : Turn) (w : Surroundings) :
    (t.guard w handle g).placed = t.placed := by
  change (t.emit (g.events w.refusal handle)).placed = _
  apply placed_emit
  intro e he
  rcases Guarded.mem_events he with ⟨line, rfl⟩ | ⟨primitive, h_mem, rfl⟩
  · rfl
  · exact h primitive h_mem _

/-! ### What operations place -/

theorem placed_applyAlpha (t : Turn) (w : Surroundings) (handle : Handle) (alpha : Float) :
    (t.applyAlpha w handle alpha).placed = t.placed := by
  have h_block (message : String) :
      ((t.debug message).guard w handle
        (.applying alpha (t.dimmer.visibilityAt alpha))).placed = t.placed := by
    refine (placed_guard ?_ ..).trans (placed_debug ..)
    intro primitive h_mem answer
    rcases Guarded.mem_primitives_applying h_mem with rfl | rfl | rfl <;> rfl
  have h_after := t.afterAlpha w handle alpha
  generalize t.applyAlpha w handle alpha = t' at h_after ⊢
  -- in place, settled or cut short, the block is the only thing that happens
  cases h_after with
  | inPlace => rfl
  | settled message => exact (placed_update (fun _ => rfl) _).trans (h_block message)
  | cutShort message => exact h_block message

theorem placed_consider (t : Turn) (w : Surroundings) (handle : Handle) (request : PresentRequest) :
    (t.consider w handle request).placed = t.placed := by
  -- considering a request moves nothing: it starts a timeline or applies an alpha
  unfold consider commit
  split
  · split
    · exact placed_applyAlpha t.tookReading w handle request.alpha
    · exact placed_update (fun _ => rfl) t.tookReading
  · rfl

/-- Without a display nothing is placed. -/
theorem placed_place_of_none {w : Surroundings} (h_display : w.display = none) (t : Turn)
    (handle : Handle) (layer : Float) : (t.place w handle layer).placed = t.placed := by
  rw [place_of_unseen h_display]
  exact placed_say ..

/-- On a known display the placement comes to what its footprint says. -/
theorem placed_place_of_some {w : Surroundings} {display : Size}
    (h_display : w.display = some display) {t : Turn} {f : Footprint}
    (h_placed : t.placed = (f, [])) (handle : Handle) (layer : Float) :
    (t.place w handle layer).placed = (Placing.mk display layer).outcome w handle f := by
  obtain ⟨rfl, h_none⟩ := Prod.mk.inj h_placed
  let p : Placing := ⟨display, layer⟩
  have h_calls : (t.guard w handle (.placing p)).events.filter Event.isPlacing
      = p.calls w handle := by
    rw [events_guard, List.filter_append, h_none]
    exact filter_isPlacing_reported ..
  have h_failure := failure_guard t w handle (.placing p)
  unfold Placing.outcome Placing.isCutShort
  cases h_differs : t.dimmer.footprint.differs p.footprint with
  | false =>
    rw [place_of_same h_display h_differs]
    exact h_placed
  | true =>
    rw [place_of_differs h_display h_differs, if_pos rfl]
    cases h_escape : (Guarded.placing p).escape w.refusal with
    | none =>
      rw [andThen_of_going (h_failure.trans h_escape)]
      exact congrArg (p.footprint, ·) h_calls
    | some failure =>
      -- the calls were issued, but the footprint is not kept
      rw [andThen_of_ended (h_failure.trans h_escape ▸ Option.some_ne_none failure)]
      exact congrArg (t.dimmer.footprint, ·) h_calls

/-- A present request places the surface and then goes on without moving it, if it goes on. -/
theorem placed_present {t : Turn} {handle : Handle} (h_handle : t.dimmer.handle = some handle)
    (w : Surroundings) (request : PresentRequest) :
    ∃ message, (t.present w request).placed
      = ((t.debug message).place w handle request.layer).placed := by
  obtain ⟨message, h_present⟩ := present_of_handle (w := w) h_handle request
  refine ⟨message, ?_⟩
  rw [h_present]
  generalize (t.debug message).place w handle request.layer = placed
  have h_considered := placed.placed_consider w handle request
  refine andThen_cases (P := fun t => t.placed = placed.placed) (fun _ => rfl) fun _ => ?_
  refine andThen_cases (P := fun t => t.placed = placed.placed) (fun _ => h_considered) fun _ => ?_
  exact (placed_update (fun _ => rfl) _).trans ((placed_debug ..).trans h_considered)

theorem placed_release (t : Turn) (w : Surroundings) : (t.release w).placed = t.placed := by
  cases h_handle : t.dimmer.handle with
  | none =>
    unfold release
    rw [h_handle]
  | some handle =>
    rw [release_of_handle h_handle]
    refine (placed_guard ?_ ..).trans ((placed_update (fun _ => rfl) _).trans (placed_debug ..))
    intro primitive h_mem answer
    rw [List.mem_singleton.mp h_mem]
    rfl

theorem placed_advance (t : Turn) (w : Surroundings) : (t.advance w).placed = t.placed := by
  unfold advance
  split
  · exact placed_collapse ..
  · split
    · exact (placed_applyAlpha ..).trans (placed_debug ..)
    · rfl

end Turn

/-! ### Requests -/

namespace Dimmer

/-- The request by which a dimmer fades out, unless it is hidden or fading out no slower already. -/
def fade? (d : Dimmer) (w : Surroundings) (duration : Float) : Option PresentRequest :=
  if d.showing && (d.target != 0 || d.timeline.outrunBy duration (w.reading 0)) then
    some { layer := d.footprint.layer, alpha := 0, duration }
  else none

/-- The present request that an operation brings about on a dimmer that has a surface. -/
def request? (d : Dimmer) (w : Surroundings) : Operation → Option PresentRequest
  | .present layer alpha duration => (PresentRequest.check layer alpha duration).toOption
  | .dismiss duration =>
    (DismissRequest.check duration).toOption.bind fun request => d.fade? w request.duration
  | .hideNow => d.fade? w 0
  | .jumpToEnd =>
    if d.isAnimating then
      some { layer := d.footprint.layer, alpha := d.target, duration := 0 }
    else none
  | .advance => none
  | .release => none

/-- The placement that a step calls for: that of its request, on a known display. -/
def placing? (d : Dimmer) (s : Step) : Option Placing :=
  if d.handle.isSome then
    (d.request? s.surroundings s.operation).bind fun request =>
      s.surroundings.display.map fun display => ⟨display, request.layer⟩
  else none

end Dimmer

/-- What a turn can come to that brings about a request, or none. -/
inductive Brings (w : Surroundings) (d : Dimmer) : Option PresentRequest → Turn → Prop
  /-- The surface stays where it was. -/
  | nothing (t : Turn) (h_placed : t.placed = (d.footprint, [])) : Brings w d none t
  /-- The request is presented, and nothing has been placed before. -/
  | request (t : Turn) (request : PresentRequest) (h_same : t.dimmer = d)
      (h_placed : t.placed = (d.footprint, [])) : Brings w d (some request) (t.present w request)

section Brings

variable {w : Surroundings} {d : Dimmer} {handle : Handle} {t : Turn}

theorem Brings.dismiss (h_handle : d.handle = some handle) (h_same : t.dimmer = d)
    (h_first : t.readings = 0) (h_placed : t.placed = (d.footprint, []))
    (request : DismissRequest) :
    Brings w d (d.fade? w request.duration) (t.dismiss w request) := by
  have h_now : t.now w = w.reading 0 := congrArg w.reading h_first
  unfold Turn.dismiss Dimmer.fade? Turn.fadeOut
  rw [h_same, h_handle, h_now]
  dsimp only
  cases h_showing : d.showing with
  | false => exact .nothing t h_placed
  | true =>
    cases h_target : d.target != 0 with
    | true => exact .request (t.debug _) _ h_same ((Turn.placed_debug ..).trans h_placed)
    | false =>
      -- the dimmer is on its way out already, and the clock decides
      cases d.timeline.outrunBy request.duration (w.reading 0) with
      | true =>
        rw [show t.tookReading.dimmer = d from h_same]
        exact .request (t.tookReading.debug _) _ h_same ((Turn.placed_debug ..).trans h_placed)
      | false => exact .nothing t.tookReading h_placed

/-- **Each step of a dimmer with a surface brings about its request.** -/
theorem Dimmer.brings (h_handle : d.handle = some handle) (s : Step) :
    Brings s.surroundings d (d.request? s.surroundings s.operation) (d.turn s) := by
  obtain ⟨operation, w⟩ := s
  change Brings w d _ (d.perform w operation).1
  cases operation with
  | present layer alpha duration =>
    dsimp only [perform, request?]
    cases PresentRequest.check layer alpha duration with
    | error failure => exact .nothing _ rfl
    | ok request => exact .request _ request rfl rfl
  | dismiss duration =>
    dsimp only [perform, request?]
    cases DismissRequest.check duration with
    | error failure => exact .nothing _ rfl
    | ok request => exact Brings.dismiss h_handle rfl rfl rfl request
  | hideNow =>
    change Brings w d (d.fade? w 0) (Turn.hideNow { dimmer := d } w)
    unfold Turn.hideNow
    rw [h_handle]
    dsimp only
    split
    · -- hiding is to dismiss over no time, with a remark before it
      exact Brings.dismiss h_handle rfl rfl (Turn.placed_debug ..) { duration := 0 }
    · -- a hidden dimmer asks for nothing
      next h_hidden =>
      rw [fade?, Bool.eq_false_of_not_eq_true h_hidden]
      exact .nothing _ rfl
  | jumpToEnd =>
    change Brings w d (if d.isAnimating then _ else none) (Turn.jumpToEnd { dimmer := d } w)
    unfold Turn.jumpToEnd
    rw [h_handle]
    dsimp only
    split
    · exact .request (Turn.debug { dimmer := d } _) _ rfl (Turn.placed_debug ..)
    · exact .nothing _ rfl
  | advance => exact .nothing _ (Turn.placed_advance ..)
  | release => exact .nothing _ (Turn.placed_release ..)

end Brings

/-! ### What a step places -/

/-- Without a surface, moves place nothing. -/
theorem Turn.Moves.placed_of_handle_eq_none {w : Surroundings} {t t' : Turn} (h : Moves w t t')
    (h_none : t.dimmer.handle = Option.none) :
    t'.dimmer.handle = Option.none ∧ t'.placed = t.placed := by
  induction h with
  | none => exact ⟨h_none, rfl⟩
  | said _ level message ih => exact ⟨ih.1, (placed_say ..).trans ih.2⟩
  | read _ ih => exact ih
  | collapsed _ _ operation ih => exact ⟨ih.1, (placed_collapse ..).trans ih.2⟩
  -- the other moves are made on a surface
  | placed _ h_handle _ ih => cases ih.1.symm.trans h_handle
  | applied _ h_handle _ ih => cases ih.1.symm.trans h_handle
  | timed _ h_handle _ ih => cases ih.1.symm.trans h_handle
  | aimed _ h_handle _ ih => cases ih.1.symm.trans h_handle
  | released _ h_handle ih => cases ih.1.symm.trans h_handle

namespace Dimmer

variable {d : Dimmer} {s : Step}

/-- What is called for is a request on a known display, at the layer of the request. -/
theorem placing?_eq_some {p : Placing} (h : d.placing? s = some p) :
    ∃ handle request, d.handle = some handle ∧
      d.request? s.surroundings s.operation = some request ∧
      s.surroundings.display = some p.display ∧ p.layer = request.layer := by
  unfold placing? at h
  split_ifs at h with h_handle
  obtain ⟨handle, h_handle⟩ := Option.isSome_iff_exists.mp h_handle
  obtain ⟨request, h_request, h_placing⟩ := Option.bind_eq_some_iff.mp h
  obtain ⟨display, h_display, rfl⟩ := Option.map_eq_some_iff.mp h_placing
  exact ⟨handle, request, h_handle, h_request, h_display, rfl⟩

/-- **A step that calls for a placement does what its footprint says.** -/
theorem placed_turn_of_placing {handle : Handle} {p : Placing} (h_handle : d.handle = some handle)
    (h : d.placing? s = some p) :
    (d.turn s).placed = p.outcome s.surroundings handle d.footprint := by
  obtain ⟨-, request, -, h_request, h_display, h_layer⟩ := placing?_eq_some h
  have h_brings := d.brings h_handle s
  rw [h_request] at h_brings
  generalize d.turn s = turn at h_brings
  cases h_brings with
  | request t _ h_same h_placed =>
    obtain ⟨message, h_present⟩ := Turn.placed_present (h_same ▸ h_handle) s.surroundings request
    rw [h_present, Turn.placed_place_of_some h_display ((Turn.placed_debug ..).trans h_placed),
      ← h_layer]

/-- **Any other step leaves the surface where it was.** -/
theorem placed_turn_of_placing_eq_none (h : d.placing? s = none) :
    (d.turn s).placed = (d.footprint, []) := by
  cases h_handle : d.handle with
  | none => exact ((d.moves s).placed_of_handle_eq_none h_handle).2
  | some handle =>
    have h_brings := d.brings h_handle s
    unfold placing? at h
    rw [h_handle, Option.isSome_some, if_pos rfl] at h
    generalize d.request? s.surroundings s.operation = request at h h_brings
    generalize d.turn s = turn at h_brings
    cases h_brings with
    | nothing t h_placed => exact h_placed
    | request t request h_same h_placed =>
      -- the display was not known
      have h_display : s.surroundings.display = none := Option.map_eq_none_iff.mp h
      obtain ⟨message, h_present⟩ := Turn.placed_present (h_same ▸ h_handle) s.surroundings request
      rw [h_present, Turn.placed_place_of_none h_display, Turn.placed_debug, h_placed]

/-! ### What a step settles -/

/-- The placement that a step settles: the one that it calls for, unless that is cut short. Nothing
can be cut short if the footprint is in place. -/
def settled? (d : Dimmer) (s : Step) : Option Placing :=
  (d.placing? s).filter fun p => !(d.footprint.differs p.footprint && p.isCutShort s.surroundings)

theorem settled?_eq_some {p : Placing} (h : d.settled? s = some p) :
    d.placing? s = some p ∧
      (d.footprint.differs p.footprint = true → p.isCutShort s.surroundings = false) := by
  obtain ⟨h_placing, h_settled⟩ := Option.filter_eq_some_iff.mp h
  refine ⟨h_placing, fun h_differs => ?_⟩
  rw [h_differs, Bool.true_and, Bool.not_eq_true'] at h_settled
  exact h_settled

/-- A step settles what it calls for if whatever is refused can be told. -/
theorem settled?_of_describable (hw : s.surroundings.Describable) :
    d.settled? s = d.placing? s := by
  have h_whole (p : Placing) : p.isCutShort s.surroundings = false := by
    unfold Placing.isCutShort
    rw [Guarded.escape_of_describable hw]
    rfl
  unfold settled?
  cases d.placing? s with
  | none => rfl
  | some p => rw [Option.filter_some, h_whole, Bool.and_false, Bool.not_false, if_pos rfl]

/-- A step that settles no placement keeps the footprint. -/
theorem footprint_turn_of_unsettled (h : d.settled? s = none) :
    (d.turn s).dimmer.footprint = d.footprint := by
  cases h_placing : d.placing? s with
  | none => exact congrArg Prod.fst (placed_turn_of_placing_eq_none h_placing)
  | some p =>
    obtain ⟨handle, -, h_handle, -⟩ := placing?_eq_some h_placing
    rw [show (d.turn s).dimmer.footprint = _ from
      congrArg Prod.fst (placed_turn_of_placing h_handle h_placing)]
    rw [settled?, h_placing, Option.filter_some] at h
    split_ifs at h with h_kept
    rw [Bool.not_eq_true, Bool.not_eq_false', Bool.and_eq_true] at h_kept
    rw [Placing.outcome, if_pos h_kept.1, if_pos h_kept.2]

/-- **A step that settles a placement has its footprint in place afterwards**, as it was before or
as it is called for. -/
theorem footprint_turn_of_settled {p : Placing} (h : d.settled? s = some p) :
    (d.turn s).dimmer.footprint = p.footprint ∨
      d.footprint.differs p.footprint = false ∧ (d.turn s).dimmer.footprint = d.footprint := by
  obtain ⟨h_placing, h_whole⟩ := settled?_eq_some h
  obtain ⟨handle, -, h_handle, -⟩ := placing?_eq_some h_placing
  rw [show (d.turn s).dimmer.footprint = _ from
    congrArg Prod.fst (placed_turn_of_placing h_handle h_placing), Placing.outcome]
  cases h_differs : d.footprint.differs p.footprint with
  | false => exact Or.inr ⟨rfl, rfl⟩
  | true =>
    rw [h_whole h_differs]
    exact Or.inl rfl

/-! ### Through a run -/

/-- The placements that a run calls for, in order. -/
def placings (d : Dimmer) : List Step → List Placing
  | [] => []
  | s :: rest => (d.placing? s).toList ++ (d.turn s).dimmer.placings rest

/-- The placements that a run settles, in order. -/
def settlings (d : Dimmer) : List Step → List Placing
  | [] => []
  | s :: rest => (d.settled? s).toList ++ (d.turn s).dimmer.settlings rest

/-- A run settles what it calls for if whatever is refused can be told. -/
theorem settlings_of_describable {steps : List Step}
    (h : ∀ s ∈ steps, s.surroundings.Describable) : d.settlings steps = d.placings steps := by
  induction steps generalizing d with
  | nil => rfl
  | cons s rest ih =>
    rw [settlings, placings, settled?_of_describable (h s List.mem_cons_self),
      ih fun s' hs' => h s' (List.mem_cons_of_mem s hs')]

end Dimmer

end Scrim

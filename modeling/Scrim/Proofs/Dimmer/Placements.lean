import Scrim.Proofs.Dimmer.Layers

/-!
# The placements of a run

A dimmer places its surface only if the footprint that is called for differs from the one that it
has kept. Nothing is lost by that. What it has kept compares like the footprint last settled
(`Dimmer.differs_after`), even if the surface has refused to move, so that it is exactly the changes
that reach the surface. A placing that is cut short settles nothing, and will be tried again. And as
long as nothing is refused, the surface was last placed where the footprint says, unless it has
never been placed (`Standing`). `Dimmer.placements_of_run` puts the two together.
-/

namespace Scrim

open Number

/-! ### The last arguments -/

/-- The arguments with which an event calls for a primitive of some kind on a surface. -/
def Event.arguments? (kind : Primitive.Kind) (surface : Nat) : Event → Option (List Float)
  | .call id primitive _ =>
    if id = surface ∧ primitive.kind = kind then some primitive.arguments else none
  | _ => none

/-- The arguments with which a primitive of some kind was last called for on a surface. -/
def lastArguments (kind : Primitive.Kind) (surface : Nat) (events : List Event) :
    Option (List Float) :=
  (events.filterMap (Event.arguments? kind surface)).getLast?

section LastArguments

variable {kind : Primitive.Kind} {surface : Nat} {events later : List Event}

theorem lastArguments_append :
    lastArguments kind surface (events ++ later)
      = (lastArguments kind surface later).or (lastArguments kind surface events) := by
  rw [lastArguments, List.filterMap_append, List.getLast?_append]
  rfl

/-- The calls that place a surface are all that counts for the primitives that place one. -/
theorem lastArguments_filter_isPlacing
    (h_kind : kind = .position ∨ kind = .size ∨ kind = .layer) :
    lastArguments kind surface (events.filter Event.isPlacing)
      = lastArguments kind surface events := by
  unfold lastArguments
  rw [List.filterMap_filter]
  congr 2
  funext e
  split_ifs with h_placing
  · rfl
  · -- an event that does not place the surface has none of the three kinds
    cases e with
    | call id primitive answer =>
      symm
      refine if_neg ?_
      rintro ⟨-, rfl⟩
      cases primitive <;> first | exact h_placing rfl | simp [Primitive.kind] at h_kind
    | log | requested | opened | closed => rfl

end LastArguments

/-- Whether an event is a call that was refused. -/
def Event.isRefused : Event → Bool
  | .call _ _ (some _) => true
  | _ => false

/-! ### Where a surface stands -/

/-- The primitives that put a surface where a footprint says. -/
def Footprint.primitives (f : Footprint) : List Primitive :=
  [.position (Placement.offset f.width) (Placement.offset f.height), .size f.width f.height,
    .layer f.layer]

/-- The calls that place a surface have put it where a footprint says, or there are none, and the
footprint is that of a surface that has not been placed. -/
inductive StandsAt (surface : Nat) (f : Footprint) (calls : List Event) : Prop
  | unplaced (h_footprint : f = {}) (h_calls : calls = [])
  | placed (h : ∀ primitive ∈ f.primitives,
      lastArguments primitive.kind surface calls = some primitive.arguments)

/-- The surface that a dimmer holds stands where its footprint says. -/
def Standing (d : Dimmer) (past : List Event) : Prop :=
  ∀ handle, d.handle = some handle →
    StandsAt handle.id d.footprint (past.filter Event.isPlacing)

namespace Placing

variable {p : Placing} {w : Surroundings} {handle : Handle}

/-- The tracers of a handle place nothing. -/
theorem filter_isPlacing_issue (handle : Handle) (primitive : Primitive) (answer : Option Failure) :
    (handle.issue primitive answer).filter Event.isPlacing
      = [.call handle.id primitive answer].filter Event.isPlacing := by
  have h_said :
      ((handle.announcements primitive).map (Event.say .info)).filter Event.isPlacing = [] := by
    rw [List.filter_eq_nil_iff]
    intro e he
    obtain ⟨message, -, rfl⟩ := List.mem_map.mp he
    exact Bool.false_ne_true
  rw [Handle.issue, List.filter_append, h_said, List.nil_append]

/-- Placing a surface begins with its position. -/
theorem calls_eq_cons (p : Placing) (w : Surroundings) (handle : Handle) :
    ∃ rest, p.calls w handle
      = .call handle.id (.position p.placement.x p.placement.y)
          (w.refusal (.position p.placement.x p.placement.y)) :: rest := by
  unfold calls acts
  cases h_refusal : w.refusal (.position p.placement.x p.placement.y) with
  | some failure =>
    -- the position comes first, and so it is called for even if it is refused
    rw [Block.run_issue_of_refused h_refusal, filter_isPlacing_issue]
    exact ⟨_, rfl⟩
  | none =>
    rw [Block.run_issue_of_accepted h_refusal, Block.Outcome.after, List.filter_append,
      filter_isPlacing_issue]
    exact ⟨_, rfl⟩

/-- If no call that places the surface was refused, then no act of the placement was. -/
theorem accepted_of_unrefused (h : ∀ e ∈ p.calls w handle, e.isRefused = false)
    {primitive : Primitive} (h_mem : .issue primitive ∈ p.acts) : w.refusal primitive = none := by
  have h_acts (value : Value) : Block.Act.raise value ∉ p.acts := by simp [acts]
  rcases Block.failure_cases w.refusal handle h_acts with
    ⟨-, h_accepted⟩ | ⟨refused, failure, -, h_act, h_call⟩
  · exact h_accepted primitive h_mem
  · -- the refused primitive is one of those that place a surface
    have h_placing : (Event.call handle.id refused (some failure)).isPlacing = true := by
      rcases mem_acts h_act with rfl | rfl | rfl <;> rfl
    cases h _ (List.mem_filter.mpr ⟨h_call, h_placing⟩)

/-- A placement of which nothing is refused is carried out in full. -/
theorem calls_of_unrefused (h : ∀ e ∈ p.calls w handle, e.isRefused = false) :
    p.calls w handle
      = p.footprint.primitives.map fun primitive => .call handle.id primitive none := by
  have h_position : w.refusal (.position p.placement.x p.placement.y) = none :=
    accepted_of_unrefused h (by simp [acts])
  have h_size : w.refusal (.size p.placement.width p.placement.height) = none :=
    accepted_of_unrefused h (by simp [acts])
  have h_layer : w.refusal (.layer p.layer) = none := accepted_of_unrefused h (by simp [acts])
  unfold calls acts
  rw [Block.run_issue_of_accepted h_position, Block.run_issue_of_accepted h_size,
    Block.run_issue_of_accepted h_layer, Block.run_nil]
  simp only [Block.Outcome.after, List.filter_append, filter_isPlacing_issue]
  rfl

theorem isCutShort_of_unrefused (h : ∀ e ∈ p.calls w handle, e.isRefused = false) :
    p.isCutShort w = false := by
  -- no primitive of the block is refused, so there is no refusal that could not be told
  have h_none : (Guarded.placing p).primitives.findSome? w.refusal = none := by
    rw [List.findSome?_eq_none_iff]
    intro primitive h_mem
    apply accepted_of_unrefused h
    simpa [acts, Guarded.primitives] using h_mem
  unfold isCutShort Guarded.escape
  rw [h_none]
  rfl

/-- A placement of which nothing is refused puts the surface where its footprint says. -/
theorem lastArguments_calls (h : ∀ e ∈ p.calls w handle, e.isRefused = false)
    {primitive : Primitive} (h_mem : primitive ∈ p.footprint.primitives) :
    lastArguments primitive.kind handle.id (p.calls w handle) = some primitive.arguments := by
  rw [calls_of_unrefused h]
  simp only [Footprint.primitives, List.mem_cons, List.not_mem_nil, or_false] at h_mem
  rcases h_mem with rfl | rfl | rfl <;>
    simp [lastArguments, Footprint.primitives, Event.arguments?, Primitive.kind]

end Placing

section Standing

variable {d : Dimmer} {past : List Event} {s : Step}

/-- A step in which nothing is refused does all of what its placement calls for. -/
theorem Dimmer.placed_turn_of_unrefused {handle : Handle} {p : Placing}
    (h_unrefused : ∀ e ∈ (d.turn s).events, e.isRefused = false)
    (h_handle : d.handle = some handle) (h_placing : d.placing? s = some p) :
    (d.turn s).placed
      = if d.footprint.differs p.footprint then (p.footprint, p.calls s.surroundings handle)
        else (d.footprint, []) := by
  have h_placed := placed_turn_of_placing h_handle h_placing
  rw [h_placed, Placing.outcome]
  split_ifs with h_differs h_cut
  · -- the calls of the placement are among the events
    have h_calls : (d.turn s).events.filter Event.isPlacing = p.calls s.surroundings handle := by
      change (d.turn s).placed.2 = _
      rw [h_placed, Placing.calls_outcome, if_pos h_differs]
    have h_calm (e : Event) (he : e ∈ p.calls s.surroundings handle) : e.isRefused = false := by
      rw [← h_calls] at he
      exact h_unrefused e (List.mem_filter.mp he).1
    cases h_cut.symm.trans (Placing.isCutShort_of_unrefused h_calm)
  · rfl
  · -- what is in place is neither placed nor kept anew
    rfl

/-- A step in which nothing is refused leaves the surface where the footprint says, even if it ends
the hold on it. -/
theorem Standing.stands_turn {handle : Handle} (h : Standing d past)
    (h_unrefused : ∀ e ∈ (d.turn s).events, e.isRefused = false)
    (h_handle : d.handle = some handle) :
    StandsAt handle.id (d.turn s).dimmer.footprint
      ((past ++ (d.turn s).events).filter Event.isPlacing) := by
  have h_stands := h handle h_handle
  rw [List.filter_append]
  cases h_placing : d.placing? s with
  | none =>
    -- without a placement the step neither calls nor keeps anything
    obtain ⟨h_footprint, h_calls⟩ := Prod.mk.inj (Dimmer.placed_turn_of_placing_eq_none h_placing)
    rw [h_footprint, h_calls, List.append_nil]
    exact h_stands
  | some p =>
    have h_placed := Dimmer.placed_turn_of_unrefused h_unrefused h_handle h_placing
    split_ifs at h_placed
    · obtain ⟨h_footprint, h_calls⟩ := Prod.mk.inj h_placed
      rw [h_footprint, h_calls]
      refine .placed fun primitive h_mem => ?_
      -- the last call of each kind is one of this step
      rw [lastArguments_append, Placing.lastArguments_calls ?_ h_mem, Option.some_or]
      intro e he
      rw [← h_calls] at he
      exact h_unrefused e (List.mem_filter.mp he).1
    · obtain ⟨h_footprint, h_calls⟩ := Prod.mk.inj h_placed
      -- the footprint is in place, and the surface stands where it stood
      rw [h_footprint, h_calls, List.append_nil]
      exact h_stands

/-- **Each step in which nothing is refused keeps the surface where the footprint says.** -/
theorem Standing.turn (h : Standing d past)
    (h_unrefused : ∀ e ∈ (d.turn s).events, e.isRefused = false) :
    Standing (d.turn s).dimmer (past ++ (d.turn s).events) := by
  intro handle h_held
  exact h.stands_turn h_unrefused ((d.moves s).handle_eq_some h_held)

/-- A run in which nothing is refused keeps the surface where the footprint says. -/
theorem Standing.after {steps : List Step} (h : Standing d past)
    (h_unrefused : ∀ e ∈ d.events steps, e.isRefused = false) :
    Standing (d.after steps) (past ++ d.events steps) := by
  -- from the first step on; `Standing.turn` is the step
  induction steps generalizing d past with
  | nil => exact (List.append_nil past).symm ▸ h
  | cons s rest ih =>
    have h_turn := h.turn (s := s) fun e he => h_unrefused e (List.mem_append_left _ he)
    have h_rest := ih h_turn fun e he => h_unrefused e (List.mem_append_right _ he)
    rwa [List.append_assoc] at h_rest

end Standing

theorem filter_isPlacing_create (options : Options) (display : Float)
    (admission : SurfaceRequest → Except Failure Handle) (refusal : Primitive → Option Failure) :
    (Dimmer.create options display admission refusal).events.filter Event.isPlacing = [] := by
  rw [List.filter_eq_nil_iff]
  intro e he
  cases e with
  | call surface primitive answer =>
    rw [Dimmer.primitive_of_call_mem_create _ _ _ _ he]
    exact Bool.false_ne_true
  | log | requested | opened | closed => exact Bool.false_ne_true

theorem standing_new (options : Options) (display : Float)
    (admission : SurfaceRequest → Except Failure Handle) (refusal : Primitive → Option Failure) :
    Standing (Dimmer.new options display admission refusal)
      (Dimmer.create options display admission refusal).events := by
  obtain ⟨held, h_new⟩ := Dimmer.new_eq options display admission refusal
  intro handle _
  -- the one call of a creation binds the surface to its display, and places nothing
  rw [h_new, filter_isPlacing_create]
  exact .unplaced rfl rfl

/-! ### The footprint last settled -/

/-- The footprint of the last of some placements, or the one before them if there is none. -/
def lastFootprint (before : Footprint) (placings : List Placing) : Footprint :=
  placings.foldl (fun _ p => p.footprint) before

namespace Dimmer

variable {d : Dimmer} {s : Step} {last : Footprint}

/-- A step keeps what compares like the footprint last settled. -/
theorem differs_turn (h : ∀ other, d.footprint.differs other = last.differs other)
    (other : Footprint) :
    (d.turn s).dimmer.footprint.differs other
      = (lastFootprint last (d.settled? s).toList).differs other := by
  cases h_settled : d.settled? s with
  | none =>
    -- nothing is settled, and nothing is kept
    rw [footprint_turn_of_unsettled h_settled]
    exact h other
  | some p =>
    rcases footprint_turn_of_settled h_settled with h_placed | ⟨h_same, h_placed⟩
    · rw [h_placed]
      rfl
    · -- the footprint was in place, but perhaps with another sign of zero
      rw [h_placed]
      exact Footprint.differs_congr h_same other

/-- **A dimmer keeps what compares like the footprint last settled**, whatever is refused. -/
theorem differs_after (steps : List Step)
    (h : ∀ other, d.footprint.differs other = last.differs other) (other : Footprint) :
    (d.after steps).footprint.differs other
      = (lastFootprint last (d.settlings steps)).differs other := by
  -- what is settled first is where the rest of the run begins
  induction steps generalizing d last with
  | nil => exact h other
  | cons s rest ih =>
    rw [settlings, lastFootprint, List.foldl_append]
    exact ih fun other => differs_turn h other

end Dimmer

/-! ### Layers that are numbers -/

/-- A layer that was asked for is a number. -/
theorem isNaN_of_mem_layersAsked {steps : List Step} {layer : Float}
    (h : layer ∈ layersAsked steps) : layer.isNaN = false := by
  obtain ⟨asked, alpha, duration, request, h_check, rfl⟩ := check_of_mem_layersAsked h
  exact (Contract.number_ok (PresentRequest.check_layer h_check)).1

/-- The layer in place was asked for, or is that of a surface that has not been given one. -/
theorem Layered.isNaN_inPlace {d : Dimmer} {past : List Step} {kept : Prop}
    (h : Layered d past kept) : d.footprint.layer.isNaN = false := by
  by_cases h_before : kept
  · exact isNaN_of_mem_layersAsked (h.asked h_before)
  · rw [h.unset h_before]
    decide +kernel

/-- The layer of a placement was asked for, or is the one in place. -/
theorem Layered.isNaN_layer {d : Dimmer} {past : List Step} {kept : Prop} {s : Step} {p : Placing}
    (h : Layered d past kept) (h_placing : d.placing? s = some p) : p.layer.isNaN = false := by
  rcases Dimmer.placing?_layer h_placing with h_asked | ⟨-, h_inPlace⟩
  · exact isNaN_of_mem_layersAsked (mem_layersAsked_of_layer? h_asked [])
  · rw [h_inPlace]
    exact h.isNaN_inPlace

/-- A display whose size is a number on each axis. -/
structure Size.IsNumber (size : Size) : Prop where
  width : size.width.isNaN = false
  height : size.height.isNaN = false

/-- A placement that is given by numbers has the footprint that it has. -/
theorem Placing.differs_self {p : Placing} (h_display : p.display.IsNumber)
    (h_layer : p.layer.isNaN = false) : p.footprint.differs p.footprint = false :=
  Footprint.differs_eq_false_iff.mpr ⟨Number.beq_refl (Placement.isNaN_extent h_display.width),
    Number.beq_refl (Placement.isNaN_extent h_display.height), Number.beq_refl h_layer⟩

/-- Footprints that do not differ put a surface at the same place. -/
theorem lastArguments_beq {surface : Nat} {f : Footprint} {p : Placing} {calls : List Event}
    (h : ∀ primitive ∈ f.primitives,
      lastArguments primitive.kind surface calls = some primitive.arguments)
    (h_same : f.differs p.footprint = false) (h_display : p.display.IsNumber) :
    (lastArguments .position surface calls == some [p.placement.x, p.placement.y]) = true ∧
      (lastArguments .size surface calls == some [p.placement.width, p.placement.height]) = true ∧
      (lastArguments .layer surface calls == some [p.layer]) = true := by
  obtain ⟨h_width, h_height, h_layer⟩ := Footprint.differs_eq_false_iff.mp h_same
  simp only [Footprint.primitives, List.forall_mem_cons, Primitive.kind] at h
  obtain ⟨h_position, h_size, h_last, -⟩ := h
  -- a number equals itself, as a float need not
  have h_x : p.placement.x.isNaN = false :=
    Placement.isNaN_offset (Placement.isNaN_extent h_display.width)
  have h_y : p.placement.y.isNaN = false :=
    Placement.isNaN_offset (Placement.isNaN_extent h_display.height)
  rw [h_position, h_size, h_last]
  refine ⟨?_, ?_, ?_⟩
  · -- extents that compare equal have the same offset, whatever the signs of their zeros
    rw [Primitive.arguments, Placement.offset_eq_of_beq h_width,
      Placement.offset_eq_of_beq h_height]
    simpa using ⟨Number.beq_refl h_x, Number.beq_refl h_y⟩
  · simpa [Primitive.arguments] using ⟨h_width, h_height⟩
  · -- the layer is compared within the footprint
    change (f.layer == p.layer) = true at h_layer
    simpa [Primitive.arguments] using h_layer

/-! ### Every run -/

namespace Dimmer

section Step

variable {d : Dimmer} {s : Step} {p : Placing}

/-- A placement whose footprint is not in place is begun with the position. -/
theorem placing_turn_of_differs (h_placing : d.placing? s = some p)
    (h_differs : d.footprint.differs p.footprint = true) :
    ∃ handle answer rest, d.handle = some handle ∧
      (d.turn s).events.filter Event.isPlacing
        = .call handle.id (.position p.placement.x p.placement.y) answer :: rest := by
  obtain ⟨handle, -, h_handle, -⟩ := placing?_eq_some h_placing
  have h_calls := congrArg Prod.snd (placed_turn_of_placing h_handle h_placing)
  rw [Placing.calls_outcome, if_pos h_differs] at h_calls
  obtain ⟨rest, h_rest⟩ := p.calls_eq_cons s.surroundings handle
  exact ⟨handle, _, rest, h_handle, h_calls.trans h_rest⟩

/-- A step places nothing if the footprint of the placement that it calls for is in place. -/
theorem placing_turn_of_same
    (h_same : ∀ p, d.placing? s = some p → d.footprint.differs p.footprint = false) :
    (d.turn s).events.filter Event.isPlacing = [] := by
  cases h_placing : d.placing? s with
  | none => exact congrArg Prod.snd (placed_turn_of_placing_eq_none h_placing)
  | some p =>
    obtain ⟨handle, -, h_handle, -⟩ := placing?_eq_some h_placing
    have h_calls := congrArg Prod.snd (placed_turn_of_placing h_handle h_placing)
    rw [Placing.calls_outcome, if_neg (Bool.eq_false_iff.mp (h_same p h_placing))] at h_calls
    exact h_calls

/-- After a step that calls for a placement and in which nothing is refused, its footprint is in
place. -/
theorem differs_turn_of_placing {handle : Handle}
    (h_unrefused : ∀ e ∈ (d.turn s).events, e.isRefused = false)
    (h_handle : d.handle = some handle) (h_placing : d.placing? s = some p)
    (h_self : p.footprint.differs p.footprint = false) :
    (d.turn s).dimmer.footprint.differs p.footprint = false := by
  have h_placed := congrArg Prod.fst (placed_turn_of_unrefused h_unrefused h_handle h_placing)
  change (d.turn s).dimmer.footprint = _ at h_placed
  rw [h_placed]
  -- either the footprint is put in place, or it was there as far as `differs` can tell
  split_ifs with h_differs
  · exact h_self
  · exact Bool.eq_false_of_not_eq_true h_differs

/-- Where the surface stands after a step in which nothing is refused: where the placement that is
called for puts it, unless it has not been placed and is not to be. -/
theorem lastArguments_turn {past : List Event} {handle : Handle} (h : Standing d past)
    (h_unrefused : ∀ e ∈ (d.turn s).events, e.isRefused = false)
    (h_placing : d.placing? s = some p) (h_handle : d.handle = some handle)
    (h_display : p.display.IsNumber) (h_layer : p.layer.isNaN = false) :
    let history := past ++ (d.turn s).events
    ((∀ e ∈ history, e.isPlacing = false) ∧ ({} : Footprint).differs p.footprint = false) ∨
      ((lastArguments .position handle.id history
          == some [p.placement.x, p.placement.y]) = true ∧
        (lastArguments .size handle.id history
          == some [p.placement.width, p.placement.height]) = true ∧
        (lastArguments .layer handle.id history == some [p.layer]) = true) := by
  intro history
  have h_stands := h.stands_turn (s := s) h_unrefused h_handle
  have h_same := differs_turn_of_placing h_unrefused h_handle h_placing
    (p.differs_self h_display h_layer)
  -- from here on only the footprint that the step leaves counts
  generalize (d.turn s).dimmer.footprint = f at h_same h_stands
  cases h_stands with
  | unplaced h_footprint h_calls =>
    -- never placed: then no call of the whole history places the surface
    refine Or.inl ⟨?_, h_footprint ▸ h_same⟩
    intro e he
    exact Bool.eq_false_of_not_eq_true (List.filter_eq_nil_iff.mp h_calls e he)
  | placed h_told =>
    have h_last := lastArguments_beq h_told h_same h_display
    -- only calls that place a surface are recorded in `StandsAt`
    rw [lastArguments_filter_isPlacing (Or.inl rfl),
      lastArguments_filter_isPlacing (Or.inr (Or.inl rfl)),
      lastArguments_filter_isPlacing (Or.inr (Or.inr rfl))] at h_last
    exact Or.inr h_last

end Step

theorem events_append (d : Dimmer) (earlier later : List Step) :
    d.events (earlier ++ later) = d.events earlier ++ (d.after earlier).events later := by
  induction earlier generalizing d with
  | nil => rfl
  | cons s rest ih =>
    rw [List.cons_append, events, ih, events, List.append_assoc]
    rfl

/-- **A surface is placed when its footprint changes, and so it stands where it was last to be
put.** The dimmer was created anyhow, and has since taken any steps, with any clock, any display and
any refusals at each of them. The next step places the surface exactly if it calls for a placement
whose footprint differs from the one last settled, at first that of a surface that has not been
placed; it then begins with the position. What is settled is what is called for, if whatever is
refused can be told; a placing that is cut short by a refusal that cannot be told settles nothing.

If no primitive of the run is refused, then after a step that calls for a placement on a display
whose size is a number, position, size and layer were last set to what the display and the request
ask for, unless nothing has been placed yet and the footprint is still the first one. Numbers are
compared as such, without regard to the sign of zero. -/
theorem placements_of_run (options : Options) (display : Float)
    (admission : SurfaceRequest → Except Failure Handle) (refusal : Primitive → Option Failure)
    (earlier : List Step) (s : Step) :
    let created := create options display admission refusal
    let d := created.dimmer.after earlier
    let last := lastFootprint {} (created.dimmer.settlings earlier)
    let placing := (d.turn s).events.filter Event.isPlacing
    let history := created.events ++ created.dimmer.events (earlier ++ [s])
    (∀ p, d.placing? s = some p → last.differs p.footprint = true →
        ∃ handle answer rest, d.handle = some handle ∧
          placing = .call handle.id (.position p.placement.x p.placement.y) answer :: rest) ∧
      ((∀ p, d.placing? s = some p → last.differs p.footprint = false) → placing = []) ∧
      ((∀ s' ∈ earlier, s'.surroundings.Describable) →
        created.dimmer.settlings earlier = created.dimmer.placings earlier) ∧
      ((∀ e ∈ history, e.isRefused = false) →
        ∀ p handle, d.placing? s = some p → d.handle = some handle → p.display.IsNumber →
          ((∀ e ∈ history, e.isPlacing = false) ∧ ({} : Footprint).differs p.footprint = false) ∨
            ((lastArguments .position handle.id history
                == some [p.placement.x, p.placement.y]) = true ∧
              (lastArguments .size handle.id history
                == some [p.placement.width, p.placement.height]) = true ∧
              (lastArguments .layer handle.id history == some [p.layer]) = true)) := by
  intro created d last placing history
  obtain ⟨held, h_new⟩ := new_eq options display admission refusal
  have h_first (other : Footprint) :
      created.dimmer.footprint.differs other = ({} : Footprint).differs other := by
    rw [show created.dimmer = _ from h_new]
  -- what the dimmer has kept can be exchanged for the footprint last settled
  have h_kept (other : Footprint) : d.footprint.differs other = last.differs other :=
    differs_after earlier h_first other
  refine ⟨?_, ?_, settlings_of_describable, ?_⟩
  · intro p h_placing h_differs
    exact placing_turn_of_differs h_placing ((h_kept _).trans h_differs)
  · intro h_same
    exact placing_turn_of_same fun p h_placing => (h_kept _).trans (h_same p h_placing)
  · intro h_unrefused p handle h_placing h_handle h_display
    have h_layered := layered_after_new options display admission refusal earlier
    -- the last step apart, on which the run before it is an invariant
    have h_history : history
        = created.events ++ created.dimmer.events earlier ++ (d.turn s).events := by
      change created.events ++ created.dimmer.events (earlier ++ [s]) = _
      rw [events_append, List.append_assoc]
      exact congrArg _ (congrArg _ (List.append_nil _))
    rw [h_history] at h_unrefused ⊢
    have h_run : Standing d (created.events ++ created.dimmer.events earlier) :=
      (standing_new options display admission refusal).after fun e he =>
        h_unrefused e (List.mem_append_left _ (List.mem_append_right _ he))
    exact lastArguments_turn h_run (fun e he => h_unrefused e (List.mem_append_right _ he))
      h_placing h_handle h_display (h_layered.isNaN_layer h_placing)

/-- A fade-in on a display, and a tick. -/
def seenFadeIn : List Step :=
  [⟨.present (.number 5) (.number 0.8) (.number 100), .calm 0⟩, ⟨.advance, .calm 50⟩]

/-- To dim on a surface that refuses a size with an object that has no text. -/
def unplacedFadeIn : Step :=
  ⟨.present (.number 5) (.number 0.8) (.number 100),
    { Surroundings.calm 0 with
      refusal := fun p =>
        if p.kind = .size then some (.raised (.record [("toString", .null)])) else none }⟩

/-- Dismissed on the same display, the dimmer has its surface stay where it was put. A fade-in whose
placing was cut short is another matter: once more, and the surface is told again. -/
theorem placements_of_seenFadeIn :
    let dismissal : Step := ⟨.dismiss (.number 300), .calm 60⟩
    let again : Step := ⟨.present (.number 5) (.number 0.8) (.number 100), .calm 0⟩
    let history := (create {} 0 (fun request => .ok { id := 0, name := request.name })
      fun _ => none).events ++ fresh.events (seenFadeIn ++ [dismissal])
    ((fresh.after seenFadeIn).placing? dismissal).isSome = true ∧
      ((fresh.after seenFadeIn).turn dismissal).events.filter Event.isPlacing = [] ∧
      (lastArguments .position 0 history == some [-480, -270]) = true ∧
      (lastArguments .size 0 history == some [2880, 1620]) = true ∧
      (lastArguments .layer 0 history == some [5]) = true ∧
      (fresh.placings [unplacedFadeIn]).length = 1 ∧
      (fresh.settlings [unplacedFadeIn]).length = 0 ∧
      ((fresh.after [unplacedFadeIn]).turn again).events.filter Event.isPlacing ≠ [] := by
  intro dismissal again history
  obtain ⟨-, h_stays, -, h_last⟩ := placements_of_run {} 0
    (fun request => .ok { id := 0, name := request.name }) (fun _ => none) seenFadeIn dismissal
  obtain ⟨h_again, -⟩ := placements_of_run {} 0
    (fun request => .ok { id := 0, name := request.name }) (fun _ => none) [unplacedFadeIn] again
  change (∀ p, (fresh.after seenFadeIn).placing? dismissal = some p →
    (lastFootprint {} (fresh.settlings seenFadeIn)).differs p.footprint = false) → _ at h_stays
  -- which placement the dismissal calls for: the one of the fade-in
  have h_called : ((fresh.after seenFadeIn).placing? dismissal).map
      (fun p => (p.display.width, p.display.height, p.layer)) = some (1920, 1080, 5) := by
    decide +kernel
  obtain ⟨⟨⟨width, height⟩, layer⟩, h_placing, h_parts⟩ := Option.map_eq_some_iff.mp h_called
  obtain ⟨rfl, rfl, rfl⟩ : width = 1920 ∧ height = 1080 ∧ layer = 5 := by simpa using h_parts
  have h_unrefused : ∀ e ∈ history, e.isRefused = false := by
    have h_all : (history.all fun e => !e.isRefused) = true := by decide +kernel
    simpa using h_all
  have h_handle : (fresh.after seenFadeIn).handle.map Handle.id = some 0 := by decide +kernel
  obtain ⟨handle, h_handle, h_id⟩ := Option.map_eq_some_iff.mp h_handle
  have h_either := h_last h_unrefused _ handle h_placing h_handle
    ⟨by decide +kernel, by decide +kernel⟩
  -- the numbers of that placement, computed once
  have h_x : (Placing.mk ⟨1920, 1080⟩ 5).placement.x = -480 := by decide +kernel
  have h_y : (Placing.mk ⟨1920, 1080⟩ 5).placement.y = -270 := by decide +kernel
  have h_width : (Placing.mk ⟨1920, 1080⟩ 5).placement.width = 2880 := by decide +kernel
  have h_height : (Placing.mk ⟨1920, 1080⟩ 5).placement.height = 1620 := by decide +kernel
  rw [h_id, h_x, h_y, h_width, h_height] at h_either
  obtain ⟨h_position, h_size, h_layer⟩ :=
    h_either.resolve_left fun h => absurd h.2 (by decide +kernel)
  -- the placing that was cut short settled nothing, so it is still due
  have h_differs : ∃ p, (fresh.after [unplacedFadeIn]).placing? again = some p ∧
      (lastFootprint {} (fresh.settlings [unplacedFadeIn])).differs p.footprint = true :=
    ⟨_, rfl, by decide +kernel⟩
  obtain ⟨p, h_called, h_differs⟩ := h_differs
  obtain ⟨surface, answer, rest, -, h_told⟩ := h_again p h_called h_differs
  refine ⟨h_placing ▸ rfl, h_stays fun p h => ?_, h_position, h_size, h_layer, by decide +kernel,
    by decide +kernel, h_told ▸ List.cons_ne_nil _ _⟩
  obtain rfl := Option.some.inj (h_placing.symm.trans h)
  decide +kernel

end Dimmer

end Scrim

import Scrim.Proofs.Session.Actions

/-!
# A dimmer and its surface

A dimmer and the compositor both remember what the dimmer's surface was last told.
`Compositor.Reflects` says that the compositor's surface is as the calls so far have made it, and
`Holding`, `InStep` and `Standing` that the dimmer remembers these calls. A dimmer and a surface are
`Session.Paired` if both is so and no other dimmer holds the surface. They stay so when others act
(`Session.Paired.of_carried`), and when the dimmer operates inside a transaction
(`Session.Paired.operate`).
-/

namespace Scrim

open Compositor

/-! ### Surfaces and what they were told -/

/-- What a surface has taken over from the primitives of some kind. -/
def Compositor.Surface.arguments (s : Compositor.Surface) : Primitive.Kind → List Float
  | .layerStack => [s.display]
  | .position => [s.x, s.y]
  | .size => [s.width, s.height]
  | .layer => [s.layer]
  | .alpha => [s.alpha]
  | .show => []
  | .hide => []
  | .destroy => []

theorem Primitive.eq_destroy_of_kind {primitive : Primitive} (h : primitive.kind = .destroy) :
    primitive = .destroy := by
  cases primitive <;> first | rfl | cases h

/-- A primitive leaves its arguments behind, and those of other kinds as they were. -/
theorem Compositor.Surface.arguments_after (s : Compositor.Surface) (primitive : Primitive)
    (kind : Primitive.Kind) :
    (s.after primitive).arguments kind
      = if primitive.kind = kind then primitive.arguments else s.arguments kind := by
  cases primitive <;> cases kind <;> rfl

namespace Compositor

/-- The surface of a number is what the calls so far have made of it. -/
structure Reflects (c : Compositor) (id : Nat) (past : List Event) (surface : Surface) : Prop where
  stands : c.surfaces[id]? = some surface
  arguments : ∀ kind arguments, lastArguments kind id past = some arguments →
    surface.arguments kind = arguments
  visible : surface.visible = (lastTold id past).getD false
  destroyed : surface.destroyed = (lastArguments .destroy id past).isSome
  live : id ∈ c.live ↔ lastArguments .destroy id past = none

namespace Reflects

variable {c c' : Compositor} {id : Nat} {past later : List Event} {surface : Surface}

/-- A surface that is neither touched nor called stays what it is. -/
theorem of_quiet (h : c.Reflects id past surface) (h_surface : c'.surfaces[id]? = c.surfaces[id]?)
    (h_live : id ∈ c'.live ↔ id ∈ c.live)
    (h_quiet : ∀ e ∈ later, ∀ primitive answer, e ≠ .call id primitive answer) :
    c'.Reflects id (past ++ later) surface := by
  -- neither what the surface was last told in any kind nor whether it was shown changes
  have h_arguments (kind : Primitive.Kind) :
      lastArguments kind id (past ++ later) = lastArguments kind id past := by
    apply lastArguments_append_of_quiet
    intro e he
    cases e with
    | call id' primitive answer =>
      refine if_neg ?_
      rintro ⟨rfl, -⟩
      exact h_quiet _ he primitive answer rfl
    | log | requested | opened | closed => rfl
  have h_told : lastTold id (past ++ later) = lastTold id past := by
    apply lastTold_append_of_quiet
    intro e he
    cases e with
    | call id' primitive answer =>
      have h_other : id' ≠ id := by
        rintro rfl
        exact h_quiet _ he primitive answer rfl
      cases primitive <;> first | rfl | exact if_neg h_other
    | log | requested | opened | closed => rfl
  refine ⟨h_surface.trans h.stands, ?_, ?_, ?_, ?_⟩
  · intro kind arguments h_last
    exact h.arguments kind arguments (h_arguments kind ▸ h_last)
  · rw [h_told]
    exact h.visible
  · rw [h_arguments]
    exact h.destroyed
  · rw [h_live, h_arguments]
    exact h.live

/-- The arguments of a call are the last ones of its kind. -/
theorem lastArguments_call (kind : Primitive.Kind) (primitive : Primitive) :
    lastArguments kind id (past ++ [.call id primitive none])
      = if primitive.kind = kind then some primitive.arguments else lastArguments kind id past := by
  rw [lastArguments_append]
  unfold lastArguments
  by_cases h_kind : primitive.kind = kind
  · have h_call : (Event.call id primitive none).arguments? kind id = some primitive.arguments :=
      if_pos ⟨rfl, h_kind⟩
    rw [if_pos h_kind, List.filterMap_cons_some h_call]
    rfl
  · have h_call : (Event.call id primitive none).arguments? kind id = none :=
      if_neg fun h => h_kind h.2
    rw [if_neg h_kind, List.filterMap_cons_none h_call]
    exact Option.none_or

/-- **An accepted primitive makes of the surface what its call says.** -/
theorem accept (h : c.Reflects id past surface) (h_tidy : c.Tidy) (primitive : Primitive) :
    (c.accept id primitive).Reflects id (past ++ [.call id primitive none])
      (surface.after primitive) := by
  refine ⟨?_, ?_, ?_, ?_, ?_⟩
  · rw [getElem?_surfaces_accept, if_pos rfl, h.stands]
    rfl
  · intro kind arguments h_last
    rw [lastArguments_call] at h_last
    rw [Surface.arguments_after]
    split_ifs at h_last ⊢
    · exact Option.some.inj h_last
    · exact h.arguments kind arguments h_last
  · -- showing and hiding set the flag, and other primitives leave it
    rw [lastTold_append, Option.getD_or, ← h.visible]
    cases primitive <;> simp [lastTold, Event.visibility?, Surface.after]
  · rw [lastArguments_call]
    -- only an end ends it
    by_cases h_destroy : primitive = .destroy
    · rw [h_destroy]
      rfl
    · rw [Surface.destroyed_after h_destroy, if_neg (mt Primitive.eq_destroy_of_kind h_destroy),
        h.destroyed]
  · rw [lastArguments_call]
    by_cases h_destroy : primitive = .destroy
    · -- the number is there once, and taken away
      have h_nodup : c.live.Nodup := h_tidy.ordered.imp Nat.ne_of_lt
      rw [h_destroy, live_accept_destroy]
      exact iff_of_false h_nodup.not_mem_erase (Option.some_ne_none _)
    · rw [live_accept c id h_destroy, if_neg (mt Primitive.eq_destroy_of_kind h_destroy)]
      -- other primitives take no number away
      exact h.live

end Reflects

end Compositor

namespace Session

variable {s s' : Session} {n id : Nat} {past : List Event} {d : Dimmer}
  {surface : Compositor.Surface}

/-- **Events that are heeded make of the surface what they say.** -/
theorem reflects_replay {events : List Event} (h : s.compositor.Reflects id past surface)
    (h_tidy : s.compositor.Tidy) (h_events : ∀ e ∈ events, e.Heeded id) :
    ∃ surface, (s.replay events).after.compositor.Reflects id (past ++ events) surface := by
  induction events generalizing s past surface with
  | nil => exact ⟨surface, (List.append_nil past).symm ▸ h⟩
  | cons e rest ih =>
    have h_rest (e' : Event) (he' : e' ∈ rest) : e'.Heeded id :=
      h_events e' (List.mem_cons_of_mem e he')
    rw [List.append_cons]
    cases h_events e List.mem_cons_self with
    | logged line =>
      -- a line is no call, and leaves the surface as it was
      rw [s.replay_cons_eq Event.noConfusion rest]
      refine ih (h.of_quiet rfl Iff.rfl ?_) h_tidy h_rest
      intro e he primitive answer h_eq
      rw [List.mem_singleton.mp he] at h_eq
      cases h_eq
    | called primitive =>
      -- the call was accepted, so the surface takes it over
      rw [s.replay_cons_eq Event.noConfusion rest]
      exact ih (h.accept h_tidy primitive) (h_tidy.accept id primitive) h_rest

/-! ### A dimmer and its surface -/

/-- A dimmer of a session, and the surface that no other dimmer holds, agree on what the calls so
far have made of it. Nothing has gone wrong between them. -/
structure Paired (s : Session) (n id : Nat) (past : List Event) (d : Dimmer)
    (surface : Compositor.Surface) : Prop where
  dimmer : s.dimmers[n]? = some d
  tidy : s.compositor.Tidy
  alone : ∀ (j : Nat) (d' : Dimmer) (handle : Handle),
    s.dimmers[j]? = some d' → d'.handle = some handle → handle.id = id → j = n
  holding : Holding d id past
  inStep : InStep d past
  standing : Standing d past
  reflects : s.compositor.Reflects id past surface
  calm : ∀ line, .log line ∈ past → line.cause = none

namespace Paired

/-- The surface has been created. -/
theorem bound (h : s.Paired n id past d surface) : id < s.compositor.surfaces.length :=
  (List.getElem?_eq_some_iff.mp h.reflects.stands).1

/-- What neither touches the surface nor commands the dimmer leaves both as they are. -/
theorem of_carried (h : s.Paired n id past d surface) {touched commanded : Nat → Prop}
    (h_carried : Carried touched commanded s s') (h_touched : ¬touched id)
    (h_commanded : ¬commanded n) : s'.Paired n id past d surface := by
  obtain ⟨d', h_d', -, h_same⟩ := h_carried.kept n d h.dimmer
  obtain ⟨h_surface, h_live⟩ := h_carried.altered.untouched h_touched h.bound
  refine ⟨?_, h_carried.altered.tidy h.tidy, h_carried.sole h.bound h.alone, h.holding, h.inStep,
    h.standing, ?_, h.calm⟩
  · rw [h_d', h_same h_commanded]
  · rw [← List.append_nil past]
    -- nothing has been said to the surface since
    refine h.reflects.of_quiet h_surface h_live ?_
    intro e he
    exact absurd he List.not_mem_nil

/-- Inside a transaction the surface accepts all that its dimmer tells it. -/
theorem accepting (h : s.Paired n id past d surface) (h_depth : s.compositor.depth ≠ 0) :
    (s.surroundings d).Accepting := by
  intro primitive
  change (d.handle.bind fun handle => s.compositor.refusal handle.id) = none
  cases h_handle : d.handle with
  | none => rfl
  | some handle =>
    rw [Option.bind_some, h.holding.held handle h_handle]
    -- the surface has not been ended, or else the dimmer would have given it up
    refine Compositor.refusal_eq_none_iff.mpr ⟨surface, h.reflects.stands, ?_, h_depth⟩
    rw [h.reflects.destroyed, ← Bool.not_eq_true, ← h.holding.ended, h_handle]
    exact Option.some_ne_none handle

/-- **Each operation inside a transaction keeps a dimmer and its surface paired.** -/
theorem operate (h : s.Paired n id past d surface) (h_depth : s.compositor.depth ≠ 0)
    (operation : Operation) :
    let t := d.turn ⟨operation, s.surroundings d⟩
    ∃ surface, (s.operate n operation).after.Paired n id (past ++ t.events) t.dimmer surface := by
  intro t
  have hw : (s.surroundings d).Accepting := h.accepting h_depth
  have h_moves : Turn.Moves (s.surroundings d) { dimmer := d } t :=
    d.moves ⟨operation, s.surroundings d⟩
  have h_heeded (e : Event) (he : e ∈ t.events) : e.Heeded id :=
    (Dimmer.own_of_mem_turn he).heeded hw h.holding.held
  have h_carried := s.operate_carried n operation
  have h_past : past ++ ({ dimmer := d } : Turn).events = past := List.append_nil past
  -- the turn was worked out before any of it is carried out, and all of it is heeded then
  obtain ⟨surface, h_reflects⟩ := reflects_replay
    (s := { s.drop t.readings with dimmers := s.dimmers.set n t.dimmer }) h.reflects h.tidy h_heeded
  refine ⟨surface, ?_, h_carried.altered.tidy h.tidy, h_carried.sole h.bound h.alone,
    Holding.moves (h_past.symm ▸ h.holding) hw h_moves,
    InStep.moves hw (h_past.symm ▸ h.inStep) h_moves, h.standing.turn ?_, ?_, ?_⟩
  · obtain ⟨c, h_after, -⟩ := replay_after
      { s.drop t.readings with dimmers := s.dimmers.set n t.dimmer } t.events (fun _ => True)
      fun _ _ _ _ => trivial
    rw [operate_after h.dimmer, h_after]
    exact List.getElem?_set_self (List.getElem?_eq_some_iff.mp h.dimmer).1
  · -- every call of the turn is heeded, so none is refused
    intro e he
    cases h_heeded e he with
    | logged | called => rfl
  · rw [operate_after h.dimmer]
    exact h_reflects
  · intro line h_line
    rcases List.mem_append.mp h_line with h_before | h_now
    · exact h.calm line h_before
    · cases h_heeded _ h_now with
      | logged _ h_cause => exact h_cause

end Paired

end Session

end Scrim

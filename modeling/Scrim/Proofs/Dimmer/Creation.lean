import Scrim.Proofs.Block
import Scrim.Proofs.Dimmer.Moves

/-!
# The creation of a dimmer

A dimmer asks for its surface inside a transaction of its own, which it opens once and closes once
whatever goes wrong. Two things can: the surface is refused, or it is given but refuses to be put on
its display. `Dimmer.trouble` tells which, and either is logged as one error
(`Dimmer.complaint_mem_create_iff`).

Only the first leaves the dimmer without a surface, and then it is `Inert`, which is to say that it
issues nothing and stays at zero from then on. After the second the dimmer keeps the surface that it
was given, as though nothing had gone wrong (`Dimmer.inert_new_iff`).
-/

namespace Scrim

/-- Whether an event opens or closes a transaction. -/
def Event.isTransaction : Event → Bool
  | .opened => true
  | .closed => true
  | _ => false

/-- What a creation does inside its transaction, a complaint apart. -/
inductive Event.Asks (display : Float) : Event → Prop
  | requested (request : SurfaceRequest) (refusal : Option Failure) :
      Asks display (.requested request refusal)
  | noted (message : String) : Asks display (.say .info message)
  | bound (surface : Nat) (refusal : Option Failure) :
      Asks display (.call surface (.layerStack display) refusal)

/-- What is done through a handle to bind its surface to a display. -/
theorem Handle.asks_of_mem_issue {handle : Handle} {display : Float} {refusal : Option Failure}
    {e : Event} (he : e ∈ handle.issue (.layerStack display) refusal) : e.Asks display := by
  rcases List.mem_append.mp he with h_said | h_call
  · obtain ⟨message, -, rfl⟩ := List.mem_map.mp h_said
    exact .noted message
  · obtain rfl := List.mem_singleton.mp h_call
    exact .bound handle.id refusal

/-- A block of one primitive comes to what the surface says to it. -/
theorem Block.run_singleton (refusal : Primitive → Option Failure) (handle : Handle)
    (primitive : Primitive) :
    run refusal handle [.issue primitive]
      = ⟨handle.issue primitive (refusal primitive), refusal primitive⟩ := by
  cases h_refusal : refusal primitive with
  | none =>
    rw [run_issue_of_accepted h_refusal, run_nil, Outcome.after, List.append_nil]
  | some failure => exact run_issue_of_refused h_refusal handle []

theorem Turn.emit_emit (t : Turn) (events later : List Event) :
    (t.emit events).emit later = t.emit (events ++ later) := by
  unfold emit
  dsimp only
  rw [List.append_assoc]

namespace Dimmer

/-- What goes wrong when a dimmer is created, if anything does. -/
def trouble (options : Options) (display : Float)
    (admission : SurfaceRequest → Except Failure Handle)
    (refusal : Primitive → Option Failure) : Option Failure :=
  match admission (request options) with
  | .error failure => some failure
  | .ok _ => refusal (.layerStack display)

/-- The hold that a dimmer takes on a surface that it is given. -/
def hold (options : Options) (given : Handle) : Handle :=
  if options.surfaceTrace then { given with tracers := given.tracers + 1 } else given

/-- The complaint about a creation that went wrong. -/
def complaint (failure : Failure) : Event :=
  .log ⟨.error, "Exception creating dim surface", some failure⟩

/-! ### What creation does -/

/-- What is noted of a surface that was given, if transactions are shown. -/
def noted (options : Options) (given : Handle) : List Event :=
  if options.showTransactions then [.say .info s!"  DIM {given.name}: CREATE"] else []

/-- What is done with a surface that was given: it is noted, bound to its display, and complained
about if that is refused. -/
def adoption (options : Options) (display : Float) (refusal : Primitive → Option Failure)
    (given : Handle) : List Event :=
  noted options given
    ++ ((hold options given).issue (.layerStack display) (refusal (.layerStack display))
      ++ (refusal (.layerStack display)).toList.map complaint)

/-- Binding the surface that was given to a display, and complaining if that is refused. -/
theorem emit_bound (refusal : Primitive → Option Failure) (handle : Handle) (display : Float)
    (t : Turn) :
    (match (Block.run refusal handle [.issue (.layerStack display)]).failure with
      | none => t.emit (Block.run refusal handle [.issue (.layerStack display)]).events
      | some failure =>
        (t.emit (Block.run refusal handle [.issue (.layerStack display)]).events).emit
          [complaint failure])
      = t.emit (handle.issue (.layerStack display) (refusal (.layerStack display))
          ++ (refusal (.layerStack display)).toList.map complaint) := by
  rw [Block.run_singleton]
  cases refusal (.layerStack display) with
  | none => exact congrArg t.emit (List.append_nil _).symm
  | some failure => exact Turn.emit_emit ..

/-- Taking over a surface that was given changes the hold alone. -/
theorem adopt_eq (options : Options) (refusal : Primitive → Option Failure) (given : Handle)
    (t : Turn) :
    adopt options refusal given t
      = (t.update fun d => { d with handle := some (hold options given) }).emit
          (adoption options t.dimmer.display refusal given) := by
  unfold adopt adoption noted
  dsimp only
  rw [← hold]
  by_cases h_shown : options.showTransactions = true
  · rw [if_pos h_shown, if_pos h_shown, ← Turn.emit_emit]
    exact emit_bound ..
  · rw [if_neg h_shown, if_neg h_shown, List.nil_append]
    exact emit_bound ..

section Create

variable (options : Options) (display : Float)
  (admission : SurfaceRequest → Except Failure Handle) (refusal : Primitive → Option Failure)

/-- A creation that is given a surface. -/
theorem create_of_granted {given : Handle}
    (h_admission : admission (request options) = .ok given) :
    create options display admission refusal
      = { dimmer := { display, handle := some (hold options given) }
          events := [.say .debug s!"ctor: displayId={Number.text display}", .opened,
            .requested (request options) none]
              ++ (adoption options display refusal given ++ [.closed]) } := by
  unfold create
  dsimp only
  rw [h_admission]
  dsimp only
  rw [adopt_eq, Turn.emit_emit]
  rfl

/-- A creation that is given no surface. -/
theorem create_of_refused {failure : Failure}
    (h_admission : admission (request options) = .error failure) :
    create options display admission refusal
      = { dimmer := { display }
          events := [.say .debug s!"ctor: displayId={Number.text display}", .opened,
            .requested (request options) (some failure), complaint failure, .closed] } := by
  unfold create
  dsimp only
  rw [h_admission]
  rfl

/-- **What a creation does.** It opens a transaction, asks for a surface, complains if something
went wrong, and closes the transaction. The dimmer holds the surface if it was given one. -/
theorem create_eq :
    ∃ message asking, (∀ e ∈ asking, Event.Asks display e) ∧
      create options display admission refusal
        = { dimmer := { display
                        handle := (admission (request options)).toOption.map (hold options) }
            events := .say .debug message :: .opened ::
              (asking ++ (trouble options display admission refusal).toList.map complaint
                ++ [.closed]) } := by
  unfold trouble
  cases h_admission : admission (request options) with
  | error failure =>
    -- without a surface nothing but the request was made
    refine ⟨_, [.requested (request options) (some failure)], ?_,
      create_of_refused options display admission refusal h_admission⟩
    intro e he
    obtain rfl := List.mem_singleton.mp he
    exact .requested ..
  | ok given =>
    refine ⟨s!"ctor: displayId={Number.text display}", .requested (request options) none
      :: (noted options given ++ (hold options given).issue (.layerStack display)
        (refusal (.layerStack display))), ?_, ?_⟩
    · -- the request itself, what is noted of the surface, and the binding with its tracers
      intro e he
      rcases List.mem_cons.mp he with rfl | he
      · exact .requested ..
      rcases List.mem_append.mp he with he | he
      · unfold noted at he
        split at he
        · rw [List.mem_singleton.mp he]
          exact .noted _
        · cases he
      · exact Handle.asks_of_mem_issue he
    · rw [create_of_granted options display admission refusal h_admission, adoption,
        ← List.append_assoc (noted options given)]
      rfl

/-- A new dimmer holds the surface that it was given. -/
theorem handle_new :
    (new options display admission refusal).handle
      = (admission (request options)).toOption.map (hold options) := by
  obtain ⟨message, asking, -, h_create⟩ := create_eq options display admission refusal
  rw [new, h_create]

/-- A creation opens one transaction and closes it. -/
theorem filter_isTransaction_create :
    (create options display admission refusal).events.filter Event.isTransaction
      = [.opened, .closed] := by
  obtain ⟨message, asking, h_asking, h_create⟩ := create_eq options display admission refusal
  have h_asking : asking.filter Event.isTransaction = [] := by
    rw [List.filter_eq_nil_iff]
    intro e he
    cases h_asking e he <;> exact Bool.false_ne_true
  have h_complaint (failures : List Failure) :
      (failures.map complaint).filter Event.isTransaction = [] := by
    rw [List.filter_eq_nil_iff]
    intro e he
    obtain ⟨failure, -, rfl⟩ := List.mem_map.mp he
    exact Bool.false_ne_true
  rw [h_create]
  -- what is left are the two ends
  change .opened :: (_ ++ _ ++ [.closed]).filter Event.isTransaction = _
  rw [List.filter_append, List.filter_append, h_asking, h_complaint]
  rfl

/-- The one primitive that a creation issues binds the surface to its display. -/
theorem primitive_of_call_mem_create {surface : Nat} {primitive : Primitive}
    {answer : Option Failure}
    (h : .call surface primitive answer ∈ (create options display admission refusal).events) :
    primitive = .layerStack display := by
  obtain ⟨message, asking, h_asking, h_create⟩ := create_eq options display admission refusal
  rw [h_create] at h
  rcases List.mem_cons.mp h with h | h
  · cases h
  rcases List.mem_cons.mp h with h | h
  · cases h
  rcases List.mem_append.mp h with h | h
  · rcases List.mem_append.mp h with h | h
    · cases h_asking _ h
      rfl
    · obtain ⟨failure, -, h_eq⟩ := List.mem_map.mp h
      cases h_eq
  · cases List.mem_singleton.mp h

/-- What is complained about is what went wrong. -/
theorem complaint_mem_create_iff (failure : Failure) :
    complaint failure ∈ (create options display admission refusal).events
      ↔ trouble options display admission refusal = some failure := by
  obtain ⟨message, asking, h_asking, h_create⟩ := create_eq options display admission refusal
  rw [h_create]
  refine ⟨?_, ?_⟩
  · intro h
    -- the remark and the opening are no complaints, nor is anything asked for
    rcases List.mem_cons.mp h with h | h
    · cases h
    rcases List.mem_cons.mp h with h | h
    · cases h
    rcases List.mem_append.mp h with h | h
    · rcases List.mem_append.mp h with h | h
      · cases h_asking _ h
      · obtain ⟨failure', h_mem, h_eq⟩ := List.mem_map.mp h
        cases h_eq
        exact Option.mem_toList.mp h_mem
    · cases List.mem_singleton.mp h
  · intro h
    rw [h]
    exact List.mem_cons_of_mem _ (List.mem_cons_of_mem _ (List.mem_append_left _
      (List.mem_append_right _ (List.mem_singleton_self _))))

end Create

end Dimmer

/-! ### Without a surface -/

/-- A turn of a dimmer without a surface, at rest at zero: nothing has been issued. -/
structure Turn.Bare (t : Turn) : Prop where
  handle : t.dimmer.handle = none
  alpha : t.dimmer.alpha = 0
  target : t.dimmer.target = 0
  silent (surface : Nat) (primitive : Primitive) (refusal : Option Failure) :
    .call surface primitive refusal ∉ t.events

theorem Turn.Bare.say {t : Turn} (h : t.Bare) (level : Level) (message : String) :
    (t.say level message).Bare where
  handle := h.handle
  alpha := h.alpha
  target := h.target
  silent surface primitive refusal h_mem := by
    rcases List.mem_append.mp h_mem with h_before | h_said
    · exact h.silent surface primitive refusal h_before
    · cases List.mem_singleton.mp h_said

/-- Without a surface, moves issue nothing and leave the dimmer at rest. -/
theorem Turn.Moves.bare {w : Surroundings} {t t' : Turn} (h : Moves w t t') (h_bare : t.Bare) :
    t'.Bare := by
  induction h with
  | none => exact h_bare
  | said _ level message ih => exact ih.say level message
  | read _ ih => exact ⟨ih.handle, ih.alpha, ih.target, ih.silent⟩
  | collapsed _ _ operation ih =>
    have h_said := ih.say .error (operation ++ ": no surface")
    exact ⟨h_said.handle, rfl, rfl, h_said.silent⟩
  -- the other moves are made on a surface
  | placed _ h_handle _ ih => cases ih.handle.symm.trans h_handle
  | applied _ h_handle _ ih => cases ih.handle.symm.trans h_handle
  | timed _ h_handle _ ih => cases ih.handle.symm.trans h_handle
  | aimed _ h_handle _ ih => cases ih.handle.symm.trans h_handle
  | released _ h_handle ih => cases ih.handle.symm.trans h_handle

namespace Dimmer

variable {d : Dimmer}

/-- A dimmer that issues nothing and stays at zero, whatever it is told. -/
structure Inert (d : Dimmer) : Prop where
  silent (steps : List Step) (surface : Nat) (primitive : Primitive) (refusal : Option Failure) :
    .call surface primitive refusal ∉ d.events steps
  alpha (steps : List Step) : (d.after steps).alpha = 0
  target (steps : List Step) : (d.after steps).target = 0

theorem bare_turn (h_handle : d.handle = none) (h_alpha : d.alpha = 0) (h_target : d.target = 0)
    (s : Step) : (d.turn s).Bare :=
  (d.moves s).bare ⟨h_handle, h_alpha, h_target, fun _ _ _ => List.not_mem_nil⟩

/-- A dimmer without a surface, at rest at zero, is inert. -/
theorem inert_of_handle_eq_none (h_handle : d.handle = none) (h_alpha : d.alpha = 0)
    (h_target : d.target = 0) : d.Inert := by
  have h_run (steps : List Step) : (d.after steps).alpha = 0 ∧ (d.after steps).target = 0 ∧
      ∀ surface primitive refusal, .call surface primitive refusal ∉ d.events steps := by
    -- on the steps; each leaves the dimmer as it was found, without a surface and at zero
    induction steps generalizing d with
    | nil => exact ⟨h_alpha, h_target, fun _ _ _ => List.not_mem_nil⟩
    | cons s rest ih =>
      have h_bare := bare_turn h_handle h_alpha h_target s
      obtain ⟨h_alpha', h_target', h_silent⟩ := ih h_bare.handle h_bare.alpha h_bare.target
      refine ⟨h_alpha', h_target', ?_⟩
      intro surface primitive refusal h_mem
      rcases List.mem_append.mp h_mem with h_now | h_later
      · exact h_bare.silent surface primitive refusal h_now
      · exact h_silent surface primitive refusal h_later
  exact ⟨fun steps => (h_run steps).2.2, fun steps => (h_run steps).1,
    fun steps => (h_run steps).2.1⟩

/-- A dimmer that holds a surface can be told to head elsewhere than zero. -/
theorem not_inert_of_handle_eq_some {handle : Handle} (h_handle : d.handle = some handle) :
    ¬d.Inert := by
  intro h_inert
  -- a request for the greatest alpha
  have h_check : PresentRequest.check (.number 0) (.number 1) (.number 0)
    = .ok { layer := 0, alpha := 1, duration := 0 } := rfl
  have h_zero : (d.turn ⟨.present (.number 0) (.number 1) (.number 0), .calm 0⟩).dimmer.target
      = 0 := h_inert.target [⟨.present (.number 0) (.number 1) (.number 0), .calm 0⟩]
  have h_going := d.going_turn (s := ⟨.present (.number 0) (.number 1) (.number 0), .calm 0⟩)
    (Surroundings.accepting_calm 0).describable
  rw [turn_present h_check] at h_zero h_going
  have h_target := (Turn.presented (t := { dimmer := d }) h_handle h_going).target_eq
  have h_one : Number.toRat 1 = Number.toRat 0 :=
    congrArg Number.toRat (h_target.symm.trans h_zero)
  exact absurd h_one (by decide +kernel)

/-- **A creation that goes wrong leaves an inert dimmer exactly if it is the surface that was
refused.** Its one transaction is opened and closed, and what went wrong is complained about. If the
surface was given but refuses to be put on its display, the dimmer is the same as if it had not. -/
theorem inert_new_iff (options : Options) (display : Float)
    (admission : SurfaceRequest → Except Failure Handle) (refusal : Primitive → Option Failure) :
    let t := create options display admission refusal
    (∀ failure, complaint failure ∈ t.events
        ↔ trouble options display admission refusal = some failure) ∧
      t.events.filter Event.isTransaction = [.opened, .closed] ∧
      (t.dimmer.handle = none ↔ ∃ failure, admission (request options) = .error failure) ∧
      (t.dimmer.Inert ↔ ∃ failure, admission (request options) = .error failure) ∧
      t.dimmer = (create options display admission fun _ => none).dimmer := by
  intro t
  obtain ⟨message, asking, -, h_create⟩ := create_eq options display admission refusal
  have h_dimmer : t.dimmer
      = { display, handle := (admission (request options)).toOption.map (hold options) } :=
    congrArg Turn.dimmer h_create
  have h_handle :
      t.dimmer.handle = none ↔ ∃ failure, admission (request options) = .error failure := by
    rw [h_dimmer]
    cases admission (request options) with
    | error failure => exact iff_of_true rfl ⟨failure, rfl⟩
    | ok given => exact iff_of_false (Option.some_ne_none _) (fun ⟨_, h⟩ => by cases h)
  refine ⟨complaint_mem_create_iff options display admission refusal,
    filter_isTransaction_create options display admission refusal, h_handle, ?_, ?_⟩
  · -- to be inert is to have no surface
    rw [← h_handle]
    refine ⟨?_, ?_⟩
    · intro h_inert
      cases h_held : t.dimmer.handle with
      | none => rfl
      | some handle => exact absurd h_inert (not_inert_of_handle_eq_some h_held)
    · intro h_none
      exact inert_of_handle_eq_none h_none (by rw [h_dimmer]) (by rw [h_dimmer])
  · -- what the surface refuses does not show in the dimmer
    obtain ⟨message', asking', -, h_accepted⟩ := create_eq options display admission fun _ => none
    exact h_dimmer.trans (congrArg Turn.dimmer h_accepted).symm

end Dimmer

end Scrim

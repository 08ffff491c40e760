import Scrim.Bench
import Scrim.Proofs.Session.Setting
import Scrim.Tally

/-!
# Scopes are balanced

A scope opens a transaction, and closes one however its body ended. If nothing else in a script
opens or closes transactions, then every scope in it, however deep, finds one more of them open
after its body than before, and leaves as many as it found (`Script.balanced_of_within`). The stage
only has to say what opening and closing do to the count, and that actions leave it alone
(`Stage.Counts`).

Three stages are of this kind. In a session dimmers are created in transactions of their own, which
are closed again, and every other action but opening and closing by hand leaves the count alone. On
a bench and on a tally, opened and closed transactions are counted apart, so that they come out
equal. `scopes_balanced` says so of all three.
-/

namespace Scrim

/-! ### What runs in the course of a script -/

namespace Script

variable {σ α β : Type}

/-- All actions of a script are of one kind. -/
inductive Every (P : α → Prop) : Script α → Prop
  | action {act : α} {caught : Bool} (h_act : P act) : Every P (.action act caught)
  | scope {body : List (Script α)} {ending : Except Value Value} {caught : Bool}
    (h_body : ∀ step ∈ body, Every P step) : Every P (.scope body ending caught)

variable [Stage σ α β]

/-- A step of a body that is run from one stage, and the stage from which that step is run. A step
comes to be run if each one before it succeeded or had its failure caught. -/
inductive Underway (step : Script α) (here : σ) : List (Script α) → σ → Prop
  | first {rest : List (Script α)} : Underway step here (step :: rest) here
  | later {earlier : Script α} {rest : List (Script α)} {s : σ}
    (h_on : (earlier.run s).failure? = none ∨ earlier.caught = true)
    (h_later : Underway step here rest (earlier.run s).after) :
    Underway step here (earlier :: rest) s

/-- A step that is run in the course of another one, and the stages from which the two are run. -/
inductive Within (step : Script α) (here : σ) : Script α → σ → Prop
  | self : Within step here step here
  | inner {outer : Script α} {s s' : σ} {body : List (Script α)} {ending : Except Value Value}
    {caught : Bool} (h_underway : Underway outer s' body (Stage.enter s).1)
    (h_within : Within step here outer s') : Within step here (.scope body ending caught) s

theorem every_of_forall {P : α → Prop} (h : ∀ act, P act) (step : Script α) : step.Every P := by
  match step with
  | .action act _ => exact .action (h act)
  | .scope body _ _ => exact .scope fun inner h_mem => every_of_forall h inner
termination_by sizeOf step
-- the steps of a body are smaller than the scope that they stand in
decreasing_by
  have h_less := List.sizeOf_lt_of_mem h_mem
  rw [scope.sizeOf_spec]
  omega

theorem Underway.mem {step : Script α} {s' s : σ} {body : List (Script α)}
    (h : Underway step s' body s) : step ∈ body := by
  induction h with
  | first => exact List.mem_cons_self
  | later _ _ ih => exact List.mem_cons_of_mem _ ih

/-- What runs after a step that does not end its body. -/
theorem runBody_cons {step : Script α} {s : σ}
    (h_on : (step.run s).failure? = none ∨ step.caught = true) (rest : List (Script α)) :
    (runBody (step :: rest) s).after = (runBody rest (step.run s).after).after := by
  rcases h_on with h_ok | h_caught
  · rw [runBody_cons_of_succeeded h_ok]
  · rw [runBody_cons_of_caught h_caught]

theorem run_scope_after (body : List (Script α)) (ending : Except Value Value) (caught : Bool)
    (s : σ) :
    ((scope body ending caught).run s).after
      = (Stage.leave (runBody body (Stage.enter s).1).after).after := by
  rw [run]
  rfl

theorem Every.within {P : α → Prop} {outer step : Script α} {s s' : σ} (h_outer : outer.Every P)
    (h : Within step s' outer s) : step.Every P := by
  induction h with
  | self => exact h_outer
  | inner h_underway _ ih =>
    cases h_outer with
    | scope h_body => exact ih (h_body _ h_underway.mem)

/-! ### What a body keeps -/

section

variable {δ : Type} {depth : σ → δ} {body : List (Script α)}
  (h_body : ∀ step ∈ body, ∀ s : σ, depth (step.run s).after = depth s)

include h_body

/-- A body keeps what its steps keep, also if it is cut short after one of them. -/
theorem depth_runBody (s : σ) :
    depth (runBody body s).after = depth s := by
  induction body generalizing s with
  | nil => rw [runBody_nil]
  | cons step rest ih =>
    have h_first := h_body step List.mem_cons_self s
    -- the body goes on after this step, or the step was the last to run
    by_cases h_on : (step.run s).failure? = none ∨ step.caught = true
    · rw [runBody_cons h_on, ih fun later h_mem => h_body later (List.mem_cons_of_mem step h_mem)]
      exact h_first
    · rw [not_or] at h_on
      obtain ⟨failure, h_failed⟩ := Option.ne_none_iff_exists'.mp h_on.1
      rw [runBody_cons_of_failed h_failed (Bool.eq_false_of_not_eq_true h_on.2)]
      exact h_first

/-- The steps of a body are run where as many transactions are open as at its beginning. -/
theorem depth_of_underway {step : Script α} {s s' : σ} (h : Underway step s' body s) :
    depth s' = depth s := by
  induction h with
  | first => rfl
  | @later earlier rest s _ _ ih =>
    calc depth s'
      _ = depth (earlier.run s).after :=
          ih fun step h_mem => h_body step (List.mem_cons_of_mem earlier h_mem)
      _ = depth s := h_body earlier List.mem_cons_self s

end

end Script

/-- What a body comes to by itself: the failure that cut it short, or the ending laid down for it.
-/
def BodyEnd.outcome {σ β : Type} (returned : Value → β) (ended : BodyEnd σ β)
    (ending : Except Value Value) : Except Failure β :=
  match ended.failure, ending with
  | some failure, _ => .error failure
  | none, .error value => .error (.raised value)
  | none, .ok value => .ok (returned value)

/-- The failure of the closing comes before all that the body came to. -/
theorem Script.conclude_eq {σ β : Type} (returned : Value → β) (closing : Except Failure Unit)
    (ended : BodyEnd σ β) (ending : Except Value Value) :
    conclude returned closing ended.failure ending =
      match closing with
      | .error failure => .error failure
      | .ok _ => ended.outcome returned ending := by
  unfold conclude BodyEnd.outcome
  cases closing with
  | error failure => rfl
  | ok _ => cases ended.failure <;> cases ending <;> rfl

/-! ### Counting on any stage -/

section

variable {σ α β : Type} [Stage σ α β] {δ : Type} [Add δ] [One δ]

/-- A count of open transactions. Opening adds one, closing takes off what opening added, and
actions of a kind leave the count alone. -/
structure Stage.Counts (depth : σ → δ) (P : α → Prop) : Prop where
  act : ∀ (action : α) (s : σ), P action → depth (Stage.act action s).after = depth s
  enter : ∀ s : σ, depth (Stage.enter s).1 = depth s + 1
  leave : ∀ s s' : σ, depth s' = depth s + 1 → depth (Stage.leave s').after = depth s

/-- A scope that is run from `s` is balanced: one more transaction is open before and after each
step of its body and at the body's end, and as many as before when the scope is over. It comes to
what its body came to, unless the closing failed. -/
structure Script.Balanced (depth : σ → δ) (body : List (Script α)) (ending : Except Value Value)
    (caught : Bool) (s : σ) : Prop where
  opened : depth (Stage.enter s).1 = depth s + 1
  during : ∀ (step : Script α) (s' : σ), Underway step s' body (Stage.enter s).1 →
    depth s' = depth s + 1 ∧ depth (step.run s').after = depth s + 1
  ended : depth (runBody body (Stage.enter s).1).after = depth s + 1
  closed : depth ((scope body ending caught).run s).after = depth s
  outcome : ((scope body ending caught).run s).reply.outcome =
    match (Stage.leave (runBody body (Stage.enter s).1).after).outcome with
    | .error failure => .error failure
    | .ok _ => (runBody body (Stage.enter s).1).outcome (Stage.returned σ) ending

namespace Script

variable {depth : σ → δ} {P : α → Prop}

/-- **A step leaves as many transactions open as it found.** -/
theorem depth_run (h : Stage.Counts depth P) {step : Script α} (h_step : step.Every P) (s : σ) :
    depth (step.run s).after = depth s := by
  induction h_step generalizing s with
  | @action act caught h_act =>
    rw [run]
    -- an action leaves the count alone, whether it succeeds or not
    exact h.act act s h_act
  | @scope body ending caught _ ih =>
    rw [run_scope_after]
    -- closing takes off what opening added, if the body kept it
    refine h.leave s _ ?_
    calc depth (runBody body (Stage.enter s).1).after
      _ = depth (Stage.enter s).1 := depth_runBody ih _
      _ = depth s + 1 := h.enter s

/-- **Every scope in a script is balanced.** -/
theorem balanced_of_within (h : Stage.Counts depth P) {tree : Script α} (h_tree : tree.Every P)
    {body : List (Script α)} {ending : Except Value Value} {caught : Bool} {s s' : σ}
    (h_within : Within (.scope body ending caught) s' tree s) :
    Balanced depth body ending caught s' := by
  have h_scope := h_tree.within h_within
  have h_enter := h.enter s'
  have h_body : ∀ step ∈ body, ∀ s : σ, depth (step.run s).after = depth s := by
    cases h_scope with
    | scope h_body => exact fun step h_mem s => depth_run h (h_body step h_mem) s
  -- a step of the body begins at the depth at which the body began, and ends there
  refine ⟨h_enter, fun step s'' h_underway => ?_, ?_, depth_run h h_scope s', ?_⟩
  · rw [h_body step h_underway.mem s'', depth_of_underway h_body h_underway]
    exact ⟨h_enter, h_enter⟩
  · rw [depth_runBody h_body, h_enter]
  · rw [run]
    exact conclude_eq _ _ _ ending

end Script

end

/-! ### Sessions -/

namespace Compositor

variable {c c' : Compositor} {id : ℕ}

theorem depth_of_create {request : SurfaceRequest} (h : c.create request = .ok (c', id)) :
    c'.depth = c.depth := by
  unfold create at h
  split at h
  · cases h
  · cases h
    rfl

theorem depth_of_issue {primitive : Primitive} (h : c.issue id primitive = .ok c') :
    c'.depth = c.depth := by
  unfold issue at h
  split at h
  · cases h
  · cases h
    exact c.depth_accept id primitive

theorem depth_of_beginChange (h : c.beginChange id = .ok c') : c'.depth = c.depth := by
  unfold beginChange at h
  split at h
  · cases h
  · split at h
    · cases h
    · cases h
      rfl

/-- A transaction inside another one closes without drawing, and cannot fail. -/
theorem outcome_leave_of_nested (h : 1 < c.depth) : c.leave.outcome = .ok () := by
  unfold leave
  rw [if_neg (by omega), if_neg fun h_outermost => by omega]

end Compositor

namespace Session

/-- An action that leaves the opening and closing of transactions to scopes. -/
def Action.Confined : Action → Prop
  | .enter => False
  | .leave => False
  | _ => True

/-- How many transactions are open. -/
def depth (s : Session) : ℕ :=
  s.compositor.depth

variable {s : Session}

theorem depth_eq_of_setting {s' : Session} (h : s'.setting = s.setting) : s'.depth = s.depth :=
  congrArg Setting.depth h

theorem depth_change {changed : Except Failure Compositor}
    (h : ∀ c, changed = .ok c → c.depth = s.compositor.depth) :
    (s.change changed).after.depth = s.depth := by
  cases changed with
  | error failure => rfl
  | ok c => exact h c rfl

theorem depth_onSlot {slot : ℕ} {action : ℕ → Compositor.Surface → Reply Session Answer}
    (h : ∀ id surface, (action id surface).after.depth = s.depth) :
    (s.onSlot slot action).after.depth = s.depth := by
  unfold onSlot
  split
  · rfl
  · split
    · rfl
    · exact h _ _

theorem depth_operate (s : Session) (index : ℕ) (operation : Operation) :
    (s.operate index operation).after.depth = s.depth := by
  obtain ⟨taken, h_setting⟩ := s.setting_operate index operation
  exact congrArg Setting.depth h_setting

/-- A dimmer leaves the count alone, whatever it is told. -/
theorem depth_command (s : Session) (index : ℕ) (d : Dimmer) (command : Dimmer.Command) :
    ((rig index d).carryOut command s).after.depth = s.depth := by
  cases command with
  | operate operation => exact s.depth_operate index operation
  | query | dump => rfl
  | run step times =>
    -- moving the clock is not to open or close anything
    refine repeatWhile_induction (P := fun s' : Session => s'.depth = s.depth) (fun s' h => ?_)
      times rfl
    exact (((rig index d).moveClock step s').depth_operate index .advance).trans h

/-- **An action that is confined leaves the count alone.** -/
theorem depth_act {action : Action} (h : action.Confined) (s : Session) :
    (act action s).after.depth = s.depth := by
  cases action with
  | enter | leave => exact h.elim
  | create request =>
    unfold act
    dsimp only
    split
    · rfl
    · next h_create => exact Compositor.depth_of_create h_create
  | adopt index =>
    unfold act
    dsimp only
    split <;> rfl
  | issue slot primitive =>
    -- what is refused changes nothing, and what is accepted no count
    exact depth_onSlot fun id _ => depth_change fun c h_issue =>
      Compositor.depth_of_issue h_issue
  | surface slot | status slot => exact depth_onSlot fun _ _ => rfl
  | remove slot => exact depth_onSlot fun _ _ => rfl
  | beginChange slot =>
    exact depth_onSlot fun id _ => depth_change fun c h_begin =>
      Compositor.depth_of_beginChange h_begin
  | display key | setDisplay key size | setTime now => rfl
  | createDimmer display options =>
    -- it closes the transaction that it opens itself
    exact depth_eq_of_setting (s.setting_createDimmer options display)
  | command index command =>
    unfold act
    dsimp only
    split
    · rfl
    · exact s.depth_command index _ command

theorem counts : Stage.Counts depth Action.Confined where
  act _ s h := depth_act h s
  enter _ := rfl
  leave s s' h := by
    have h_depth : s'.closeTransaction.after.depth = s'.depth - 1 :=
      congrArg Setting.depth s'.setting_closeTransaction
    change s'.closeTransaction.after.depth = s.depth
    -- the count does not stop at zero here, as one more was open
    rw [h_depth, h, Nat.add_sub_cancel]

end Session

/-! ### Benches and tallies -/

/-- What an event adds to the number of open transactions. -/
def Event.rise : Event → ℤ
  | .opened => 1
  | .closed => -1
  | _ => 0

/-- Only opening and closing count. -/
theorem Event.sum_rise (events : List Event) :
    (events.map Event.rise).sum = ((events.filter Event.isTransaction).map Event.rise).sum := by
  induction events with
  | nil => rfl
  | cons e rest ih =>
    rw [List.map_cons, List.sum_cons, ih]
    -- an event that is left out adds nothing
    by_cases h : e.isTransaction = true
    · rw [List.filter_cons_of_pos h, List.map_cons, List.sum_cons]
    · rw [List.filter_cons_of_neg h]
      cases e with
      | log | call | requested => exact zero_add _
      | opened | closed => exact absurd rfl h

namespace Bench

/-- By how much the opened transactions outnumber the closed ones. -/
def depth (b : Bench) : ℤ :=
  b.opens - b.closes

theorem depth_record (b : Bench) (e : Event) : (b.record e).depth = b.depth + e.rise := by
  cases e with
  | log line =>
    unfold record
    dsimp only
    split <;> exact (add_zero _).symm
  | call | requested => exact (add_zero _).symm
  | opened =>
    unfold depth record Event.rise
    push_cast
    ring
  | closed =>
    unfold depth record Event.rise
    push_cast
    ring

theorem depth_absorb (b : Bench) (t : Turn) :
    (b.absorb t).depth = b.depth + (t.events.map Event.rise).sum := by
  -- the events are recorded one after the other, from any bench
  have h_fold (events : List Event) (b : Bench) :
      (events.foldl record b).depth = b.depth + (events.map Event.rise).sum := by
    induction events generalizing b with
    | nil => exact (add_zero _).symm
    | cons e rest ih =>
      rw [List.foldl_cons, ih, depth_record, List.map_cons, List.sum_cons, add_assoc]
  exact h_fold t.events _

/-- An operation opens and closes nothing. -/
theorem depth_operate (b : Bench) (operation : Operation) :
    (b.operate operation).after.depth = b.depth := by
  -- none of the events of a turn opens or closes a transaction
  have h_none :
      (b.dimmer.turn ⟨operation, b.surroundings⟩).events.filter Event.isTransaction = [] := by
    rw [List.filter_eq_nil_iff]
    intro e he
    rw [Session.isTransaction_of_mem_turn he]
    exact Bool.false_ne_true
  change (b.absorb (b.dimmer.turn ⟨operation, b.surroundings⟩)).depth = _
  rw [depth_absorb, Event.sum_rise, h_none]
  exact add_zero _

theorem depth_act (action : Action) (b : Bench) : (act action b).after.depth = b.depth := by
  cases action with
  | command command =>
    change (rig.carryOut command b).after.depth = b.depth
    cases command with
    | operate operation => exact b.depth_operate operation
    | query | dump => rfl
    | run step times =>
      refine Session.repeatWhile_induction (P := fun b' : Bench => b'.depth = b.depth)
        (fun b' h => ?_) times rfl
      exact (depth_operate { b' with now := b'.now + step } .advance).trans h
  | setTime | setDisplay | fail | failClear | callsNamed | callsClear | messagesAt | requests => rfl

theorem counts : Stage.Counts depth fun _ : Action => True where
  act action b _ := depth_act action b
  enter b := b.depth_record .opened
  leave b b' h := by
    change (b'.record .closed).depth = b.depth
    rw [depth_record, h]
    exact add_neg_cancel_right _ _

/-- A bench begins with as many closed transactions as opened ones. -/
theorem depth_start (setup : Setup) : (start setup).after.depth = 0 := by
  unfold start
  dsimp only
  rw [depth_absorb, Event.sum_rise, creation, Dimmer.filter_isTransaction_create]
  rfl

end Bench

theorem Tally.counts : Stage.Counts Tally.depth fun _ : Unit => True where
  act _ _ _ := rfl
  enter t := by
    change ((t.opens + 1 : ℕ) : ℤ) - t.closes = t.opens - t.closes + 1
    push_cast
    ring
  leave t t' h := by
    unfold depth at h ⊢
    change (t'.opens : ℤ) - (t'.closes + 1 : ℕ) = t.opens - t.closes
    push_cast
    linarith

/-- **Scopes are balanced**, wherever they stand in a script and however they end. In a session, a
scope that is not the outermost also closes without a failure of its own. On a bench and on a tally,
as many transactions were closed as were opened. -/
theorem scopes_balanced :
    (∀ (s : Session) (tree : Script Session.Action), tree.Every Session.Action.Confined →
      ∀ (body : List (Script Session.Action)) (ending : Except Value Value) (caught : Bool)
        (s' : Session), Script.Within (.scope body ending caught) s' tree s →
        Script.Balanced Session.depth body ending caught s' ∧
          (s'.depth ≠ 0 →
            (Script.runBody body s'.entered).after.closeTransaction.outcome = .ok ())) ∧
    (∀ (setup : Bench.Setup) (tree : Script Bench.Action),
      (tree.run (Bench.start setup).after).after.opens
        = (tree.run (Bench.start setup).after).after.closes) ∧
    ∀ tree : Script Unit,
      (tree.run ({} : Tally)).after.opens = (tree.run ({} : Tally)).after.closes := by
  refine ⟨fun s tree h_tree body ending caught s' h_within => ?_, fun setup tree => ?_,
    fun tree => ?_⟩
  · -- inside another scope the closing is not the outermost, and draws nothing that could fail
    have h_balanced := Script.balanced_of_within Session.counts h_tree h_within
    refine ⟨h_balanced, fun h_nested => Compositor.outcome_leave_of_nested ?_⟩
    have h_ended : (Script.runBody body s'.entered).after.compositor.depth = s'.depth + 1 :=
      h_balanced.ended
    omega
  · have h_depth := Script.depth_run Bench.counts
      (Script.every_of_forall (fun _ => trivial) tree) (Bench.start setup).after
    -- the count was zero at the start and is so at the end, whatever the script
    rw [Bench.depth_start, Bench.depth, sub_eq_zero] at h_depth
    exact_mod_cast h_depth
  · have h_depth := Script.depth_run Tally.counts
      (Script.every_of_forall (fun _ => trivial) tree) ({} : Tally)
    have h_even : (tree.run ({} : Tally)).after.depth = 0 := h_depth
    rw [Tally.depth, sub_eq_zero] at h_even
    exact_mod_cast h_even

namespace Session

/-- A body in which a dim is begun. -/
def dimming : List (Script Action) :=
  [.action (.command 0 (.operate (.present (.number 5) (.number 0.5) (.number 0)))) false]

/-- A scope in which a dimmer is created, a refused request is caught, and a value raised from an
inner scope is not. -/
def unruly : Script Action :=
  .scope
    [.action (.createDimmer 0 {}) true,
      .scope [.action (.command 0 (.operate (.dismiss (.number (-1))))) false] (.ok .absent) true,
      .scope dimming (.error (.text "stop")) false]
    (.ok .absent) false

end Session

/-- The raised value crosses two scopes, of which the inner one is balanced like any other. -/
theorem scopes_of_unruly :
    let s : Session := { compositor := .ofDisplays [(0, ⟨1920, 1080⟩)] {} }
    Session.unruly.Every Session.Action.Confined ∧
      ∃ s' : Session,
        Script.Within (.scope Session.dimming (.error (.text "stop")) false) s' Session.unruly s ∧
        Script.Balanced Session.depth Session.dimming (.error (.text "stop")) false s' := by
  intro s
  have h_unruly : Session.unruly.Every Session.Action.Confined := by
    refine .scope fun step h_mem => ?_
    simp only [List.mem_cons, List.not_mem_nil, or_false] at h_mem
    rcases h_mem with rfl | rfl | rfl
    · exact .action trivial
    · exact .scope (List.forall_mem_singleton.mpr (.action trivial))
    · exact .scope (List.forall_mem_singleton.mpr (.action trivial))
  -- the two steps before it have their failures caught
  have h_reached : ∃ s', Script.Within (.scope Session.dimming (.error (.text "stop")) false) s'
      Session.unruly s :=
    ⟨_, .inner (.later (.inr rfl) (.later (.inr rfl) .first)) .self⟩
  obtain ⟨s', h_within⟩ := h_reached
  exact ⟨h_unruly, s', h_within, (scopes_balanced.1 s _ h_unruly _ _ _ _ h_within).1⟩

end Scrim

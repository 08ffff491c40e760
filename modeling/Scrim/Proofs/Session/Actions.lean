import Scrim.Proofs.Compositor.Steps
import Scrim.Proofs.Dimmer.Calls
import Scrim.Session

/-!
# What actions change

An action in a session touches the surfaces that it is about, and commands at most one dimmer. All
else stays as it is: `Session.act_carried` says so of every action, in terms of `Session.Carried`. A
dimmer can keep its hold on a surface, give it up, or be new and hold a new surface, so that no two
dimmers come to hold the same one.
-/

namespace Scrim

open Compositor

namespace Session

/-! ### Carrying out events -/

/-- Carrying out an event changes the compositor alone, and no surface but the one that the event
calls. -/
theorem carryOut_after (s : Session) (e : Event) (touched : Nat → Prop)
    (h : ∀ id primitive answer, e = .call id primitive answer → touched id) :
    ∃ c, (s.carryOut e).after = { s with compositor := c } ∧ Altered touched s.compositor c := by
  cases e with
  | log line => exact ⟨s.compositor, rfl, .none⟩
  | call id primitive answer =>
    cases answer with
    | none => exact ⟨_, rfl, Altered.none.accepted (h id primitive none rfl) primitive⟩
    | some failure => exact ⟨s.compositor, rfl, .none⟩
  | requested request answer =>
    cases answer with
    | none => exact ⟨_, rfl, Altered.none.added request⟩
    | some failure => exact ⟨s.compositor, rfl, .none⟩
  | opened => exact ⟨_, rfl, Altered.none.entered⟩
  | closed => exact ⟨_, rfl, Altered.none.left⟩

/-- Nothing but closing a transaction can fail. -/
theorem carryOut_outcome (s : Session) {e : Event} (h : e ≠ .closed) :
    (s.carryOut e).outcome = .ok () := by
  cases e with
  | closed => exact absurd rfl h
  | log | call | requested | opened => rfl

theorem replay_cons_eq (s : Session) {e : Event} (h : e ≠ .closed) (rest : List Event) :
    s.replay (e :: rest)
      = { (s.carryOut e).after.replay rest with
          reports := (s.carryOut e).reports ++ ((s.carryOut e).after.replay rest).reports } := by
  rw [replay]
  dsimp only
  rw [carryOut_outcome s h]

theorem replay_append_eq (s : Session) {events : List Event} (h : ∀ e ∈ events, e ≠ .closed)
    (later : List Event) :
    s.replay (events ++ later)
      = { (s.replay events).after.replay later with
          reports := (s.replay events).reports
            ++ ((s.replay events).after.replay later).reports } := by
  induction events generalizing s with
  | nil => rfl
  | cons e rest ih =>
    have h_e := h e List.mem_cons_self
    rw [List.cons_append, replay_cons_eq s h_e, replay_cons_eq s h_e,
      ih _ fun e' he' => h e' (List.mem_cons_of_mem e he')]
    dsimp only
    rw [List.append_assoc]

theorem replay_singleton_eq (s : Session) (e : Event) : s.replay [e] = s.carryOut e := by
  rw [replay]
  dsimp only
  generalize s.carryOut e = reply
  obtain ⟨after, outcome, reports⟩ := reply
  cases outcome with
  | error failure => rfl
  | ok _ => exact congrArg (Reply.mk after (.ok ())) (List.append_nil reports)

/-- Carrying out events changes the compositor alone, and no surface but those that are called. -/
theorem replay_after (s : Session) (events : List Event) (touched : Nat → Prop)
    (h : ∀ id primitive answer, .call id primitive answer ∈ events → touched id) :
    ∃ c, (s.replay events).after = { s with compositor := c } ∧ Altered touched s.compositor c := by
  induction events generalizing s with
  | nil => exact ⟨s.compositor, rfl, .none⟩
  | cons e rest ih =>
    obtain ⟨c, h_after, h_altered⟩ := s.carryOut_after e touched fun id primitive answer h_eq =>
      h id primitive answer (h_eq ▸ List.mem_cons_self)
    rw [replay]
    dsimp only
    split
    · -- the event failed, and the rest is not carried out
      exact ⟨c, h_after, h_altered⟩
    · rw [h_after]
      obtain ⟨c', h_after', h_altered'⟩ := ih { s with compositor := c }
        fun id primitive answer h_mem => h id primitive answer (List.mem_cons_of_mem e h_mem)
      exact ⟨c', h_after', h_altered.trans h_altered'⟩

/-! ### Carrying on -/

/-- A session that has come out of another, in which only some surfaces were touched and only some
dimmers commanded. -/
structure Carried (touched commanded : Nat → Prop) (s s' : Session) : Prop where
  altered : Altered touched s.compositor s'.compositor
  /-- Every dimmer is still there, as it was unless it was commanded, and holds no other surface. -/
  kept : ∀ (j : Nat) (d : Dimmer), s.dimmers[j]? = some d → ∃ d', s'.dimmers[j]? = some d' ∧
    (d'.handle = d.handle ∨ d'.handle = none) ∧ (¬commanded j → d' = d)
  /-- Every hold on a surface was there before, or is on a new surface. -/
  holds : ∀ (j : Nat) (d' : Dimmer) (handle : Handle),
    s'.dimmers[j]? = some d' → d'.handle = some handle →
    (∃ d, s.dimmers[j]? = some d ∧ d.handle = some handle) ∨
      s.compositor.surfaces.length ≤ handle.id ∧ handle.id < s'.compositor.surfaces.length

namespace Carried

variable {touched commanded : Nat → Prop} {s s' s'' : Session}

/-- The compositor may change while the dimmers stay as they are. -/
theorem of_dimmers_eq (h : Altered touched s.compositor s'.compositor)
    (h_dimmers : s'.dimmers = s.dimmers) : Carried touched commanded s s' where
  altered := h
  kept j d h_d := ⟨d, by rw [h_dimmers, h_d], Or.inl rfl, fun _ => rfl⟩
  holds j d' handle h_d' h_handle := Or.inl ⟨d', by rw [← h_dimmers, h_d'], h_handle⟩

theorem refl (s : Session) : Carried touched commanded s s :=
  of_dimmers_eq .none rfl

theorem trans (h : Carried touched commanded s s') (h' : Carried touched commanded s' s'') :
    Carried touched commanded s s'' where
  altered := h.altered.trans h'.altered
  kept j d h_d := by
    obtain ⟨d', h_d', h_handle, h_same⟩ := h.kept j d h_d
    obtain ⟨d'', h_d'', h_handle', h_same'⟩ := h'.kept j d' h_d'
    refine ⟨d'', h_d'', ?_, fun h_not => (h_same' h_not).trans (h_same h_not)⟩
    rcases h_handle' with h_eq | h_none
    · rwa [h_eq]
    · exact Or.inr h_none
  holds j d'' handle h_d'' h_handle := by
    rcases h'.holds j d'' handle h_d'' h_handle with ⟨d', h_d', h_held⟩ | ⟨h_le, h_lt⟩
    · -- what was new halfway has not ceased to exist since
      refine (h.holds j d' handle h_d' h_held).imp_right fun ⟨h_le, h_lt⟩ => ⟨h_le, ?_⟩
      exact h_lt.trans_le h'.altered.length_le
    · exact Or.inr ⟨h.altered.length_le.trans h_le, h_lt⟩

/-- A surface that no other dimmer holds is not taken over by another. -/
theorem sole (h : Carried touched commanded s s') {n id : Nat}
    (h_bound : id < s.compositor.surfaces.length)
    (h_sole : ∀ (j : Nat) (d : Dimmer) (handle : Handle),
      s.dimmers[j]? = some d → d.handle = some handle → handle.id = id → j = n)
    (j : Nat) (d' : Dimmer) (handle : Handle) (h_d' : s'.dimmers[j]? = some d')
    (h_handle : d'.handle = some handle) (h_id : handle.id = id) : j = n := by
  rcases h.holds j d' handle h_d' h_handle with ⟨d, h_d, h_held⟩ | ⟨h_new, -⟩
  · exact h_sole j d handle h_d h_held h_id
  · -- a new hold is on a new surface, and this one has been there
    rw [h_id] at h_new
    exact absurd h_bound h_new.not_gt

end Carried

/-! ### Operations -/

/-- What an operation comes to: the dimmer's turn is carried out. -/
theorem operate_after {s : Session} {index : Nat} {d : Dimmer} (h_d : s.dimmers[index]? = some d)
    (operation : Operation) :
    let t := d.turn ⟨operation, s.surroundings d⟩
    (s.operate index operation).after
      = ({ s.drop t.readings with dimmers := s.dimmers.set index t.dimmer }.replay t.events).after
      := by
  unfold operate
  rw [h_d]
  rfl

/-- The surfaces that a dimmer can reach: the one that it holds. -/
def Reaches (s : Session) (index id : Nat) : Prop :=
  ∃ d handle, s.dimmers[index]? = some d ∧ d.handle = some handle ∧ handle.id = id

/-- An operation touches no surface but that of the dimmer, and commands no other. -/
theorem operate_carried (s : Session) (index : Nat) (operation : Operation) :
    Carried (s.Reaches index) (· = index) s (s.operate index operation).after := by
  cases h_d : s.dimmers[index]? with
  | none =>
    unfold operate
    rw [h_d]
    exact .refl s
  | some d =>
    rw [operate_after h_d]
    -- what the dimmer learns does not matter: it calls the surface that it held before the turn
    generalize h_step : (⟨operation, s.surroundings d⟩ : Scrim.Step) = step
    obtain ⟨c, h_after, h_altered⟩ := replay_after
      { s.drop (d.turn step).readings with dimmers := s.dimmers.set index (d.turn step).dimmer }
      (d.turn step).events (s.Reaches index) (by
        intro id primitive answer h_mem
        cases Dimmer.own_of_mem_turn h_mem with
        | called handle h_held => exact ⟨d, handle, h_d, h_held, rfl⟩)
    rw [h_after]
    have h_bound : index < s.dimmers.length := (List.getElem?_eq_some_iff.mp h_d).1
    have h_now : (s.dimmers.set index (d.turn step).dimmer)[index]? = some (d.turn step).dimmer :=
      List.getElem?_set_self h_bound
    have h_hold (handle : Handle) (h : (d.turn step).dimmer.handle = some handle) :
        d.handle = some handle := (d.moves step).handle_eq_some h
    refine ⟨h_altered, ?_, ?_⟩
    · -- every dimmer is still there: the commanded one after its turn, the others as they were
      intro j d' h_d'
      by_cases h_j : j = index
      · subst h_j
        obtain rfl := Option.some.inj (h_d.symm.trans h_d')
        refine ⟨_, h_now, ?_, fun h_not => absurd rfl h_not⟩
        cases h_handle : (d.turn step).dimmer.handle with
        | none => exact Or.inr rfl
        | some handle => exact Or.inl (h_hold handle h_handle).symm
      · exact ⟨d', (List.getElem?_set_ne (Ne.symm h_j)).trans h_d', Or.inl rfl, fun _ => rfl⟩
    · -- a turn only gives a hold up, so every hold is an old one
      intro j d' handle h_d' h_handle
      refine Or.inl ?_
      by_cases h_j : j = index
      · subst h_j
        obtain rfl := Option.some.inj (h_now.symm.trans h_d')
        exact ⟨d, h_d, h_hold handle h_handle⟩
      · exact ⟨d', (List.getElem?_set_ne (Ne.symm h_j)).symm.trans h_d', h_handle⟩

end Session

/-! ### Creating dimmers -/

namespace Dimmer

theorem id_hold (options : Options) (given : Handle) : (hold options given).id = given.id := by
  unfold hold
  split_ifs <;> rfl

/-- Nothing that is done with a surface that accepts its display is a complaint or closes the
transaction. -/
theorem heeded_of_mem_adoption {options : Options} {display : Float}
    {refusal : Primitive → Option Failure} {given : Handle} {e : Event}
    (h_refusal : refusal (.layerStack display) = none)
    (he : e ∈ adoption options display refusal given) : e.Heeded given.id := by
  rw [adoption, h_refusal, Option.toList_none, List.map_nil, List.append_nil] at he
  -- what is left are the notice and the calls on the surface
  rcases List.mem_append.mp he with he | he
  · unfold noted at he
    split at he
    · rw [List.mem_singleton.mp he]
      exact .logged _ rfl
    · cases he
  · exact id_hold options given ▸ Handle.heeded_of_mem_issue he

/-- Of a surface that accepts its display nothing else is asked. -/
theorem primitives_adoption {options : Options} {display : Float}
    {refusal : Primitive → Option Failure} (h : refusal (.layerStack display) = none)
    (given : Handle) :
    (adoption options display refusal given).filterMap Event.primitive?
      = [.layerStack display] := by
  -- what is noted is for the log
  have h_noted : (noted options given).filterMap Event.primitive? = [] := by
    unfold noted
    split <;> rfl
  rw [adoption, h, List.filterMap_append, h_noted, Option.toList_none, List.map_nil,
    List.append_nil, Handle.filterMap_issue fun _ => rfl]
  rfl

end Dimmer

namespace Session

/-- The surface that a dimmer asks for is refused if its extent is not positive. -/
theorem creation_of_refused {s : Session} {options : Options} {failure : Failure}
    (h : creationRefusal (Dimmer.request options) = some failure) (display : Float) :
    ∃ message, s.creation options display
      = { dimmer := { display }
          events := [.say .debug message, .opened,
            .requested (Dimmer.request options) (some failure), Dimmer.complaint failure,
            .closed] } := by
  unfold creation
  dsimp only
  refine ⟨_, Dimmer.create_of_refused _ _ _ _ ?_⟩
  rw [Compositor.create, h]

/-- The hold on the surface that a dimmer is given. -/
def grant (s : Session) (options : Options) : Handle :=
  Dimmer.hold options { id := s.compositor.surfaces.length, name := options.surfaceName }

theorem id_grant (s : Session) (options : Options) :
    (s.grant options).id = s.compositor.surfaces.length :=
  Dimmer.id_hold ..

/-- The surface of a new dimmer accepts its display in the transaction of the creation. -/
theorem refusal_of_creation (c : Compositor) (request : SurfaceRequest) :
    (c.enter.add request).refusal c.surfaces.length = none :=
  refusal_eq_none_iff.mpr ⟨_, List.getElem?_concat_length, rfl, Nat.succ_ne_zero _⟩

/-- Otherwise it takes the next number, and accepts its display, which is all that is asked of it,
in the transaction that the creation opens. -/
theorem creation_of_granted {s : Session} {options : Options}
    (h : creationRefusal (Dimmer.request options) = none) (display : Float) :
    ∃ message asking, (∀ e ∈ asking, Event.Heeded s.compositor.surfaces.length e) ∧
      asking.filterMap Event.primitive? = [.layerStack display] ∧
      s.creation options display
        = { dimmer := { display, handle := some (s.grant options) }
            events := [.say .debug message, .opened, .requested (Dimmer.request options) none]
              ++ (asking ++ [.closed]) } := by
  let given : Handle := { id := s.compositor.surfaces.length, name := options.surfaceName }
  unfold creation
  dsimp only
  -- the surface has just been added under this number, and so is live
  have h_bound := refusal_of_creation s.compositor (Dimmer.request options)
  refine ⟨_, _, fun e => Dimmer.heeded_of_mem_adoption h_bound,
    Dimmer.primitives_adoption h_bound given,
    @Dimmer.create_of_granted options display _ _ given ?_⟩
  rw [Compositor.create, h]
  rfl

/-- The session in which the surface for a dimmer has just been added. -/
def asked (s : Session) (options : Options) : Session :=
  { s with compositor := s.compositor.enter.add (Dimmer.request options) }

/-- Carrying out a creation adds the surface, does what is asked of it, and closes the transaction.
-/
theorem replay_creation (s : Session) (options : Options) (message : String) {asking : List Event}
    (h : ∀ e ∈ asking, e ≠ .closed) :
    (s.replay ([.say .debug message, .opened, .requested (Dimmer.request options) none]
        ++ (asking ++ [.closed]))).after
      = (((s.asked options).replay asking).after.carryOut .closed).after := by
  have h_opening : ∀ e ∈ [Event.say .debug message, .opened,
      .requested (Dimmer.request options) none], e ≠ .closed := by
    simp [Event.say]
  rw [s.replay_append_eq h_opening]
  change ((s.asked options).replay (asking ++ [.closed])).after = _
  rw [replay_append_eq _ h, replay_singleton_eq]

/-- Creating a dimmer carries out its creation, and adds the dimmer unless closing the transaction
fails. -/
theorem createDimmer_after (s : Session) (options : Options) (display : Float) :
    ∃ dimmers, (s.createDimmer options display).after
        = { (s.replay (s.creation options display).events).after with dimmers } ∧
      ((∃ failure, (s.createDimmer options display).outcome = .error failure) ∧
          dimmers = s.dimmers ∨
        (s.createDimmer options display).outcome = .ok (.number s.dimmers.length) ∧
          dimmers = s.dimmers ++ [(s.creation options display).dimmer]) := by
  obtain ⟨c, h_after, -⟩ := s.replay_after (s.creation options display).events (fun _ => True)
    fun _ _ _ _ => trivial
  unfold createDimmer
  dsimp only
  -- the dimmer is added only if the events were all carried out
  split
  · next failure _ => exact ⟨s.dimmers, by rw [h_after], Or.inl ⟨⟨failure, rfl⟩, rfl⟩⟩
  · exact ⟨_, rfl, Or.inr ⟨rfl, by rw [h_after]⟩⟩

/-- Dimmers are added at the end, and hold new surfaces. -/
theorem Carried.of_added {touched commanded : Nat → Prop} {s s' : Session} {d : Dimmer}
    (h : Altered touched s.compositor s'.compositor)
    (h_dimmers : s'.dimmers = s.dimmers ∨ s'.dimmers = s.dimmers ++ [d])
    (h_new : ∀ handle, d.handle = some handle →
      s.compositor.surfaces.length ≤ handle.id ∧ handle.id < s'.compositor.surfaces.length) :
    Carried touched commanded s s' := by
  rcases h_dimmers with h_same | h_added
  · exact .of_dimmers_eq h h_same
  · refine ⟨h, ?_, ?_⟩
    · intro j d' h_d'
      have h_bound := (List.getElem?_eq_some_iff.mp h_d').1
      refine ⟨d', ?_, Or.inl rfl, fun _ => rfl⟩
      rw [h_added, List.getElem?_append_left h_bound, h_d']
    · intro j d' handle h_d' h_handle
      rw [h_added] at h_d'
      -- an old position holds an old dimmer; the one after them is the new dimmer
      by_cases h_j : j < s.dimmers.length
      · rw [List.getElem?_append_left h_j] at h_d'
        exact Or.inl ⟨d', h_d', h_handle⟩
      · rw [List.getElem?_append_right (Nat.le_of_not_lt h_j)] at h_d'
        obtain rfl := List.mem_singleton.mp (List.mem_of_getElem? h_d')
        exact Or.inr (h_new handle h_handle)

/-- Creating a dimmer touches no surface but its own new one, and commands no dimmer. -/
theorem createDimmer_carried (s : Session) (options : Options) (display : Float) :
    Carried (· = s.compositor.surfaces.length) (fun _ => False) s
      (s.createDimmer options display).after := by
  obtain ⟨dimmers, h_after, h_outcome⟩ := s.createDimmer_after options display
  have h_dimmers := h_outcome.imp And.right And.right
  rw [h_after]
  cases h_refusal : creationRefusal (Dimmer.request options) with
  | some failure =>
    obtain ⟨message, h_creation⟩ := creation_of_refused (s := s) h_refusal display
    -- a refused request calls no surface at all
    obtain ⟨c, h_replay, h_altered⟩ := s.replay_after (s.creation options display).events
      (· = s.compositor.surfaces.length) (by
        intro id primitive answer h_mem
        rw [h_creation] at h_mem
        simp [Event.say, Dimmer.complaint] at h_mem)
    rw [h_replay]
    refine .of_added h_altered h_dimmers ?_
    intro handle h_handle
    rw [h_creation] at h_handle
    -- the dimmer of a refused request holds nothing
    cases h_handle
  | none =>
    obtain ⟨message, asking, h_heeded, -, h_creation⟩ :=
      creation_of_granted (s := s) h_refusal display
    -- what is done after the surface was added touches that surface
    obtain ⟨c, h_asked, h_altered⟩ := (s.asked options).replay_after asking
      (· = s.compositor.surfaces.length) (by
        intro id primitive answer h_mem
        cases h_heeded _ h_mem
        rfl)
    rw [h_creation] at h_dimmers ⊢
    rw [s.replay_creation options message fun e he => (h_heeded e he).ne_closed, h_asked]
    have h_added : Altered (· = s.compositor.surfaces.length) s.compositor
        (s.asked options).compositor := Altered.none.entered.added (Dimmer.request options)
    refine .of_added (h_added.trans h_altered).left h_dimmers ?_
    intro handle' h_held
    obtain rfl := Option.some.inj h_held
    refine ⟨(s.id_grant options).ge, ?_⟩
    -- closing the transaction removes no surface, so the new one is still counted
    have h_length := h_altered.left.length_le
    change (s.compositor.surfaces ++ [_]).length ≤ c.leave.after.surfaces.length at h_length
    rw [List.length_append, List.length_singleton] at h_length
    rw [id_grant]
    exact h_length

/-! ### Actions -/

/-- The surfaces that an action can touch. -/
def Action.Touches (s : Session) : Action → Nat → Prop
  | .issue slot _, id => s.slots[slot]? = some id
  | .remove slot, id => s.slots[slot]? = some id
  | .createDimmer _ _, id => id = s.compositor.surfaces.length
  | .command index _, id => s.Reaches index id
  | _, _ => False

/-- The dimmers that an action commands. -/
def Action.Commands : Action → Nat → Prop
  | .command index _, j => j = index
  | _, _ => False

/-- What each repetition keeps, all of them keep. -/
theorem repeatWhile_induction {σ γ : Type} {P : σ → Prop} {step : σ → σ × Bool × γ}
    (h_step : ∀ s, P s → P (step s).1) (times : Nat) {s : σ} (h : P s) :
    P (repeatWhile step times s).1 := by
  induction times generalizing s with
  | zero => exact h
  | succ times ih =>
    have h_next := h_step s h
    unfold repeatWhile
    generalize step s = stepped at h_next
    obtain ⟨s', more, yield⟩ := stepped
    -- the state after this step is reached also when the repetition ends here
    cases more with
    | true => exact ih h_next
    | false => exact h_next

/-- A command touches no surface but that of the dimmer, and commands no other. -/
theorem command_carried {s : Session} {index : Nat} {d : Dimmer} (h_d : s.dimmers[index]? = some d)
    (command : Dimmer.Command) :
    Carried (s.Reaches index) (· = index) s ((rig index d).carryOut command s).after := by
  cases command with
  | operate operation => exact s.operate_carried index operation
  | query => exact .refl s
  | dump lead => exact .of_dimmers_eq .none rfl
  | run step times =>
    refine repeatWhile_induction (P := fun s' => Carried (s.Reaches index) (· = index) s s') ?_
      times (.refl s)
    intro s' h
    have h_tick := operate_carried ((rig index d).moveClock step s') index .advance
    refine h.trans ⟨h_tick.altered.mono ?_, h_tick.kept, h_tick.holds⟩
    -- the dimmer holds what it held at first, or nothing
    rintro id ⟨d', handle, h_d', h_held, rfl⟩
    obtain ⟨d'', h_d'', h_handle, -⟩ := h.kept index d h_d
    obtain rfl := Option.some.inj (h_d'.symm.trans h_d'')
    refine ⟨d, handle, h_d, ?_, rfl⟩
    rcases h_handle with h_same | h_none
    · exact h_same.symm.trans h_held
    · cases h_none.symm.trans h_held

/-- An action on a slot touches what it finds there, and fails if there is nothing. -/
theorem onSlot_carried {touched commanded : Nat → Prop} {s : Session} {slot : Nat}
    {action : Nat → Compositor.Surface → Reply Session Answer}
    (h : ∀ id surface, s.slots[slot]? = some id →
      Carried touched commanded s (action id surface).after) :
    Carried touched commanded s (s.onSlot slot action).after := by
  unfold onSlot
  split
  · exact .refl s
  · next id h_slot =>
    split
    · exact .refl s
    · next surface _ => exact h id surface h_slot

theorem change_carried {touched commanded : Nat → Prop} {s : Session}
    {changed : Except Failure Compositor}
    (h : ∀ c, changed = .ok c → Altered touched s.compositor c) :
    Carried touched commanded s (s.change changed).after := by
  unfold change
  split
  · exact .refl s
  · next c => exact .of_dimmers_eq (h c rfl) rfl

/-- **Every action touches and commands only what it is about.** -/
theorem act_carried (action : Action) (s : Session) :
    Carried (action.Touches s) action.Commands s (act action s).after := by
  cases action with
  | create request =>
    unfold act
    dsimp only
    -- a refused request leaves the session alone; a granted one adds a surface
    unfold Compositor.create
    cases creationRefusal request with
    | some failure => exact .refl s
    | none => exact .of_dimmers_eq (Altered.none.added request) rfl
  | adopt index =>
    unfold act
    dsimp only
    split
    · exact .refl s
    · exact .of_dimmers_eq .none rfl
  | issue slot primitive =>
    refine onSlot_carried fun id surface h_slot => change_carried fun c h_c => ?_
    -- only an accepted primitive gets to the surface
    unfold Compositor.issue at h_c
    split at h_c
    · cases h_c
    · obtain rfl := Except.ok.inj h_c
      exact Altered.none.accepted h_slot primitive
  | surface slot | status slot => exact onSlot_carried fun _ _ _ => .refl s
  | remove slot =>
    refine onSlot_carried fun id surface h_slot => change_carried fun c h_c => ?_
    obtain rfl := Except.ok.inj h_c
    exact Altered.none.removed h_slot
  | beginChange slot =>
    refine onSlot_carried fun id surface h_slot => change_carried fun c h_c => ?_
    -- a change is begun only on a live surface, and only noted there
    unfold Compositor.beginChange at h_c
    split at h_c
    · cases h_c
    · split at h_c
      · cases h_c
      · obtain rfl := Except.ok.inj h_c
        exact Altered.none.noted
  | enter => exact change_carried fun c h_c => Except.ok.inj h_c ▸ Altered.none.entered
  | leave => exact .of_dimmers_eq Altered.none.left rfl
  | display key => exact .refl s
  | setDisplay key size =>
    exact change_carried fun c h_c => Except.ok.inj h_c ▸ Altered.none.resized key size
  | setTime now => exact .of_dimmers_eq .none rfl
  | createDimmer display options =>
    have h_created := s.createDimmer_carried options display
    exact ⟨h_created.altered, h_created.kept, h_created.holds⟩
  | command index command =>
    unfold act
    dsimp only
    split
    · exact .refl s
    · next d h_d => exact command_carried h_d command

end Session

end Scrim

import Scrim.Proofs.Session.Pairs

/-!
# A dimmer mirrors its surface

A dimmer and the compositor both keep the alpha, the place and the visibility of the dimmer's
surface, each for itself and from different beginnings. As long as every operation finds a
transaction open and nobody else touches the surface, nothing that the dimmer tells it is refused,
and the two agree (`Session.mirror_of_run`), until the dimmer is released and the surface ends.
-/

namespace Scrim

/-! ### Resolved options -/

/-- The surface that resolved options ask for is not refused. -/
theorem Options.creationRefusal_of_resolve {overrides : Overrides} {env : Environment}
    {options : Options} (h : resolve overrides env = .ok options) :
    Compositor.creationRefusal (Dimmer.request options) = none := by
  -- resolved options are those that passed the check after the merge
  have h_checked : check (merge overrides env) = .ok options := by
    unfold resolve at h
    split at h
    · split at h
      · next h_check => rw [h_check, Except.ok.inj h]
      · cases h
    · cases h
  have h_size : Contract.number sizeRules (merge overrides env).initialSize
      = .ok options.initialSize := by
    unfold check at h_checked
    split at h_checked
    · next h_number =>
      obtain rfl := Except.ok.inj h_checked
      exact h_number
    · cases h_checked
  -- one of the rules for the size is that it is positive, which is all a request is refused for
  have h_positive := (Contract.number_ok h_size).2
    ⟨fun x => !decide (x ≤ 0), "initialSize must be > 0"⟩ (by simp [sizeRules])
  have h_not : ¬options.initialSize ≤ 0 := by simpa using h_positive
  exact if_neg fun h_either => h_either.elim h_not h_not

namespace Session

variable {s s' : Session} {n id : Nat} {past : List Event} {d : Dimmer}
  {surface : Compositor.Surface}

/-! ### Sequences of actions -/

/-- The session after some actions, whatever they come to. -/
def after (s : Session) (actions : List Action) : Session :=
  actions.foldl (fun s action => (act action s).after) s

/-- What a dimmer does in the course of an action. -/
def deed (n : Nat) (s : Session) : Action → List Event
  | .command index (.operate operation) =>
    if index = n then
      match s.dimmers[n]? with
      | none => []
      | some d => (d.turn ⟨operation, s.surroundings d⟩).events
    else []
  | _ => []

/-- What a dimmer does in the course of some actions. -/
def deeds (n : Nat) (s : Session) : List Action → List Event
  | [] => []
  | action :: rest => s.deed n action ++ (act action s).after.deeds n rest

theorem deed_operate (h_d : s.dimmers[n]? = some d) (operation : Operation) :
    s.deed n (.command n (.operate operation))
      = (d.turn ⟨operation, s.surroundings d⟩).events := by
  unfold deed
  dsimp only
  rw [if_pos rfl, h_d]

theorem deed_of_elsewhere {action : Action} (h : ∀ command, action ≠ .command n command) :
    s.deed n action = [] := by
  unfold deed
  split
  · next index operation =>
    refine if_neg ?_
    rintro rfl
    exact h _ rfl
  · rfl

/-- An action that leaves the surface of a number to its dimmer, and has the dimmer operate inside
transactions only. A whole run of ticks counts as its ticks, one by one. -/
def Action.Minds (n id : Nat) (s : Session) : Action → Prop
  | .command index (.operate _) => index = n → s.compositor.depth ≠ 0
  | .command index (.run _ _) => index ≠ n
  | .issue slot _ => s.slots[slot]? ≠ some id
  | .remove slot => s.slots[slot]? ≠ some id
  | _ => True

/-- Actions each of which leaves the surface to its dimmer. -/
def Mind (n id : Nat) (s : Session) : List Action → Prop
  | [] => True
  | action :: rest => action.Minds n id s ∧ (act action s).after.Mind n id rest

namespace Paired

/-- An action that does not tell the dimmer to do anything leaves it and its surface as they are. -/
theorem act_of_elsewhere (h : s.Paired n id past d surface) {action : Action}
    (h_action : action.Minds n id s) (h_elsewhere : ∀ command, action ≠ .command n command) :
    (act action s).after.Paired n id past d surface := by
  refine h.of_carried (act_carried action s) ?_ ?_
  · cases action with
    | issue | remove => exact h_action
    | createDimmer => exact h.bound.ne
    | command index command =>
      -- a dimmer that reaches the surface is this one
      rintro ⟨d', handle, h_d', h_handle, h_id⟩
      exact h_elsewhere command (h.alone index d' handle h_d' h_handle h_id ▸ rfl)
    | create | adopt | surface | status | beginChange | enter | leave | display | setDisplay
    | setTime => exact not_false
  · cases action with
    | command index command =>
      rintro rfl
      exact h_elsewhere command rfl
    | create | adopt | issue | surface | status | remove | beginChange | enter | leave | display
    | setDisplay | setTime | createDimmer => exact not_false

/-- **Each action keeps a dimmer and its surface paired**, and the dimmer gives the surface up if
the action is to release it. -/
theorem act (h : s.Paired n id past d surface) {action : Action} (h_action : action.Minds n id s) :
    ∃ d' surface, (act action s).after.Paired n id (past ++ s.deed n action) d' surface ∧
      (d'.handle = none ↔ d.handle = none ∨ action = .command n (.operate .release)) := by
  by_cases h_elsewhere : ∀ command, action ≠ .command n command
  · rw [deed_of_elsewhere h_elsewhere, List.append_nil]
    exact ⟨d, surface, h.act_of_elsewhere h_action h_elsewhere,
      (or_iff_left (h_elsewhere _)).symm⟩
  · push Not at h_elsewhere
    obtain ⟨command, rfl⟩ := h_elsewhere
    unfold Session.act
    dsimp only
    rw [h.dimmer]
    cases command with
    | operate operation =>
      -- the transaction is open, so the turn is heeded
      obtain ⟨surface, h_paired⟩ := h.operate (h_action rfl) operation
      rw [deed_operate h.dimmer]
      refine ⟨_, surface, h_paired, ?_⟩
      obtain ⟨h_other, h_release⟩ := d.handle_turn ⟨operation, s.surroundings d⟩
      -- a release, and nothing else, gives the surface up
      by_cases h_operation : operation = .release
      · rw [h_release h_operation, h_operation]
        exact iff_of_true rfl (Or.inr rfl)
      · rw [h_other h_operation]
        refine (or_iff_left fun h_eq => h_operation ?_).symm
        cases h_eq
        rfl
    | query =>
      refine ⟨d, surface, ?_, (or_iff_left fun h_eq => ?_).symm⟩
      · exact (List.append_nil past).symm ▸ h
      · cases h_eq
    | dump lead =>
      -- a reading is taken, which is all that changes
      have h_read : Carried (fun _ => False) (fun _ => False) s (s.drop 1) :=
        .of_dimmers_eq .none rfl
      refine ⟨d, surface, ?_, (or_iff_left fun h_eq => ?_).symm⟩
      · exact (List.append_nil past).symm ▸ h.of_carried h_read not_false not_false
      · cases h_eq
    | run => exact absurd rfl h_action

/-- **A dimmer and its surface stay paired**, and the dimmer gives the surface up if it is told to
at any time. -/
theorem after {actions : List Action} (h : s.Paired n id past d surface)
    (h_actions : s.Mind n id actions) :
    ∃ d' surface, (s.after actions).Paired n id (past ++ s.deeds n actions) d' surface ∧
      (d'.handle = none ↔ d.handle = none ∨ .command n (.operate .release) ∈ actions) := by
  -- every action may change the session, the dimmer and the surface, and adds to the past
  induction actions generalizing s past d surface with
  | nil =>
    refine ⟨d, surface, (List.append_nil past).symm ▸ h, ?_⟩
    simp
  | cons action rest ih =>
    obtain ⟨h_action, h_rest⟩ := h_actions
    obtain ⟨d', surface', h_paired, h_given⟩ := h.act h_action
    obtain ⟨d'', surface'', h_paired', h_given'⟩ := ih h_paired h_rest
    refine ⟨d'', surface'', ?_, ?_⟩
    · rwa [List.append_assoc] at h_paired'
    · rw [h_given', h_given, List.mem_cons, or_assoc, eq_comm (a := action)]

end Paired

/-! ### Sessions from the beginning -/

/-- The screen is tidy, and every surface that a dimmer holds has been created. -/
structure Orderly (s : Session) : Prop where
  tidy : s.compositor.Tidy
  bound : ∀ (j : Nat) (d : Dimmer) (handle : Handle),
    s.dimmers[j]? = some d → d.handle = some handle → handle.id < s.compositor.surfaces.length

namespace Orderly

theorem of_carried (h : s.Orderly) {touched commanded : Nat → Prop}
    (h_carried : Carried touched commanded s s') : s'.Orderly := by
  refine ⟨h_carried.altered.tidy h.tidy, ?_⟩
  intro j d' handle h_d' h_handle
  rcases h_carried.holds j d' handle h_d' h_handle with ⟨d, h_d, h_held⟩ | ⟨-, h_new⟩
  · exact (h.bound j d handle h_d h_held).trans_le h_carried.altered.length_le
  · exact h_new

/-- **Every session is orderly**, whatever was done in it. -/
theorem after (h : s.Orderly) (actions : List Action) : (s.after actions).Orderly := by
  induction actions generalizing s with
  | nil => exact h
  | cons action rest ih => exact ih (h.of_carried (act_carried action s))

end Orderly

theorem orderly_new (displays : List (Float × Size)) (style : Compositor.StatusStyle)
    (clock : Nat → Float) (logger : Logger) :
    Orderly { compositor := .ofDisplays displays style, clock, logger } := by
  refine ⟨Compositor.tidy_ofDisplays displays style, ?_⟩
  intro j d handle h_d
  cases h_d

/-! ### The creation of a pair -/

/-- The surface of a creation is what the creation says of it. -/
theorem reflects_creation (h : s.Orderly) {options : Options}
    (h_options : Compositor.creationRefusal (Dimmer.request options) = none) (display : Float) :
    ∃ surface, (s.replay (s.creation options display).events).after.compositor.Reflects
      s.compositor.surfaces.length (s.creation options display).events surface := by
  obtain ⟨message, asking, h_heeded, -, h_creation⟩ :=
    creation_of_granted (s := s) h_options display
  -- a surface that was just added is as its request says, and has been told nothing
  have h_new : (s.asked options).compositor.Reflects s.compositor.surfaces.length
      [.say .debug message, .opened, .requested (Dimmer.request options) none]
      (.ofRequest (Dimmer.request options)) := by
    refine ⟨List.getElem?_concat_length, ?_, rfl, rfl, ?_⟩
    · intro kind arguments h_last
      cases h_last
    · exact iff_of_true (List.mem_append_right _ (List.mem_singleton_self _)) rfl
  have h_altered : Compositor.Altered (fun _ => False) s.compositor (s.asked options).compositor :=
    Compositor.Altered.none.entered.added (Dimmer.request options)
  obtain ⟨surface, h_asked⟩ := reflects_replay h_new (h_altered.tidy h.tidy) h_heeded
  refine ⟨surface, ?_⟩
  rw [h_creation, s.replay_creation options message fun e he => (h_heeded e he).ne_closed,
    ← List.append_assoc]
  -- closing changes no surface
  obtain ⟨dirty, h_leave⟩ := ((s.asked options).replay asking).after.compositor.leave_after_eq
  change Compositor.Reflects ((s.asked options).replay asking).after.compositor.leave.after _ _ _
  rw [h_leave]
  refine h_asked.of_quiet rfl Iff.rfl ?_
  intro e he primitive answer h_eq
  rw [List.mem_singleton.mp he] at h_eq
  cases h_eq

/-- **A dimmer that has been created is paired with the surface that it was given.** -/
theorem paired_createDimmer (h : s.Orderly) {options : Options}
    (h_options : Compositor.creationRefusal (Dimmer.request options) = none) {display : Float}
    (h_made : (s.createDimmer options display).outcome = .ok (.number n)) :
    ∃ d surface, d.handle ≠ none ∧
      (s.createDimmer options display).after.Paired n s.compositor.surfaces.length
        (s.creation options display).events d surface := by
  obtain ⟨message, asking, h_heeded, -, h_creation⟩ :=
    creation_of_granted (s := s) h_options display
  obtain ⟨surface, h_reflects⟩ := reflects_creation h h_options display
  obtain ⟨-, h_after, ⟨⟨failure, h_error⟩, -⟩ | ⟨h_ok, rfl⟩⟩ := s.createDimmer_after options display
  · cases h_made.symm.trans h_error
  obtain rfl : n = s.dimmers.length := Answer.number.inj (Except.ok.inj (h_made.symm.trans h_ok))
  have h_held : (s.creation options display).dimmer.handle = some (s.grant options) := by
    rw [h_creation]
  refine ⟨(s.creation options display).dimmer, surface, ?_, ?_, ?_, ?_, ?_,
    inStep_new _ _ _ _, standing_new _ _ _ _, ?_, ?_⟩
  · rw [h_held]
    exact Option.some_ne_none _
  · rw [h_after]
    exact List.getElem?_concat_length
  · exact (s.createDimmer_carried options display).altered.tidy h.tidy
  · intro j d' handle' h_d' h_handle h_new
    rw [h_after] at h_d'
    by_cases h_j : j < s.dimmers.length
    · -- an older dimmer holds an older surface
      have h_before := (List.getElem?_append_left h_j).symm.trans h_d'
      have h_bound := h.bound j d' handle' h_before h_handle
      exact absurd h_new h_bound.ne
    · rw [List.getElem?_append_right (Nat.le_of_not_lt h_j), List.getElem?_singleton] at h_d'
      split_ifs at h_d' with h_last
      omega
  · rw [← s.id_grant options]
    exact holding_new h_held
  · rw [h_after]
    exact h_reflects
  · intro line h_line
    rw [h_creation] at h_line
    -- what is logged, before the surface is asked for and after, is no complaint
    rcases List.mem_append.mp h_line with h_opening | h_later
    · simp only [Event.say, List.mem_cons, Event.log.injEq, reduceCtorEq, List.not_mem_nil,
        or_false] at h_opening
      rw [h_opening]
    · rcases List.mem_append.mp h_later with h_asking | h_closing
      · cases h_heeded _ h_asking with
        | logged _ h_cause => exact h_cause
      · cases List.mem_singleton.mp h_closing

/-! ### Every session -/

/-- The surface of a number is as a dimmer that holds it has it in mind: on the screen, shown or
hidden, at the alpha that was last pushed if any was, and in the place that was last pushed if any
was. -/
structure Mirrors (c : Compositor) (id : Nat) (surface : Compositor.Surface) (d : Dimmer)
    (history : List Event) : Prop where
  live : id ∈ c.live
  destroyed : surface.destroyed = false
  visible : surface.visible = d.showing
  alpha : (lastArguments .alpha id history).isSome = true → surface.alpha = d.alpha
  placed : (lastArguments .position id history).isSome = true →
    surface.width = d.footprint.width ∧ surface.height = d.footprint.height ∧
      surface.layer = d.footprint.layer ∧
      surface.x = 0 - Number.truncate (d.footprint.width / 6) ∧
      surface.y = 0 - Number.truncate (d.footprint.height / 6)

namespace Paired

/-- A dimmer that holds the surface that it is paired with mirrors it. -/
theorem mirrors (h : s.Paired n id past d surface) {handle : Handle}
    (h_handle : d.handle = some handle) : Mirrors s.compositor id surface d past := by
  obtain rfl := h.holding.held handle h_handle
  have h_lasting : lastArguments .destroy handle.id past = none := by
    rw [← Option.not_isSome_iff_eq_none, ← h.holding.ended, h_handle]
    exact Option.some_ne_none handle
  refine ⟨h.reflects.live.mpr h_lasting, ?_, ?_, ?_, ?_⟩
  · rw [h.reflects.destroyed, h_lasting]
    rfl
  · rw [h.reflects.visible, h.inStep handle h_handle]
  · intro h_pushed
    obtain ⟨arguments, h_last⟩ := Option.isSome_iff_exists.mp h_pushed
    have h_held : d.handle ≠ none := h_handle ▸ Option.some_ne_none handle
    have h_alpha := h.holding.alpha h_held arguments h_last
    exact List.singleton_inj.mp ((h.reflects.arguments .alpha arguments h_last).trans h_alpha)
  · intro h_pushed
    -- of the past only the calls that place the surface matter here
    rw [← lastArguments_filter_isPlacing (Or.inl rfl)] at h_pushed
    have h_stands := h.standing handle h_handle
    generalize h_calls : past.filter Event.isPlacing = calls at h_pushed h_stands
    cases h_stands with
    | unplaced _ h_none =>
      rw [h_none] at h_pushed
      cases h_pushed
    | placed h_told =>
      -- the last round of placing was told in full: position, size and layer are those of one
      -- footprint
      simp only [Footprint.primitives, List.forall_mem_cons, Primitive.kind, ← h_calls] at h_told
      obtain ⟨h_position, h_size, h_layer, -⟩ := h_told
      rw [lastArguments_filter_isPlacing (by simp)] at h_position h_size h_layer
      have h_there := h.reflects.arguments _ _ h_position
      have h_extent := h.reflects.arguments _ _ h_size
      have h_stack := h.reflects.arguments _ _ h_layer
      simp only [Compositor.Surface.arguments, Primitive.arguments, List.cons.injEq, and_true]
        at h_there h_extent h_stack
      exact ⟨h_extent.1, h_extent.2, h_stack, h_there.1, h_there.2⟩

/-- A dimmer that has given its surface up has ended it, and it is no longer on the screen. -/
theorem ended (h : s.Paired n id past d surface) (h_handle : d.handle = none) :
    surface.destroyed = true ∧ id ∉ s.compositor.live := by
  have h_ended := h.holding.ended.mp h_handle
  refine ⟨h.reflects.destroyed.trans h_ended, ?_⟩
  rw [h.reflects.live, ← Option.not_isSome_iff_eq_none]
  -- a number is live only as long as no end was told
  exact fun h_not => h_not h_ended

end Paired

/-- **A dimmer mirrors its surface.** On a compositor that anything has been done to before, a
dimmer is created with resolved options. From then on other surfaces, dimmers, transactions,
displays and the clock may do what they like, while nobody else touches the dimmer's surface and the
dimmer operates inside transactions. Then nothing that it logs is the complaint about a failure.
Until it is released, the surface is as the dimmer has it in mind; after that the surface is at its
end and off the screen.

The clock gives any readings, one after the other, also within an operation that takes several. -/
theorem mirror_of_run (displays : List (Float × Size)) (style : Compositor.StatusStyle)
    (clock : Nat → Float) (logger : Logger) (prior : List Action) {overrides : Options.Overrides}
    {env : Options.Environment} {options : Options}
    (h_options : Options.resolve overrides env = .ok options) (display : Float) {n : Nat}
    (actions : List Action) :
    let before := after { compositor := .ofDisplays displays style, clock, logger } prior
    let made := before.createDimmer options display
    let id := before.compositor.surfaces.length
    made.outcome = .ok (.number n) → made.after.Mind n id actions →
      let s := made.after.after actions
      let history := (before.creation options display).events ++ made.after.deeds n actions
      (∀ line, .log line ∈ history → line.cause = none) ∧
        ∃ d surface, s.dimmers[n]? = some d ∧ s.compositor.surfaces[id]? = some surface ∧
          (d.handle = none ↔ .command n (.operate .release) ∈ actions) ∧
          (∀ handle, d.handle = some handle →
            handle.id = id ∧ Mirrors s.compositor id surface d history) ∧
          (d.handle = none → surface.destroyed = true ∧ id ∉ s.compositor.live) := by
  intro before made id h_made h_mind s history
  have h_orderly : before.Orderly := (orderly_new displays style clock logger).after prior
  obtain ⟨d₀, surface₀, h_held, h_first⟩ :=
    paired_createDimmer h_orderly (Options.creationRefusal_of_resolve h_options) h_made
  obtain ⟨d, surface, h_paired, h_given⟩ := h_first.after h_mind
  refine ⟨h_paired.calm, d, surface, h_paired.dimmer, h_paired.reflects.stands, ?_, ?_,
    h_paired.ended⟩
  · rw [h_given, or_iff_right h_held]
  · intro handle h_handle
    exact ⟨h_paired.holding.held handle h_handle, h_paired.mirrors h_handle⟩

/-- A clock that moves on by a millisecond with every reading. -/
def ticking (k : Nat) : Float :=
  Float.ofNat k

/-- A dim at once, a fade-out that is hastened and has begun, all in a transaction, and a display
that is resized afterwards. -/
def dimmedBriefly : List Action :=
  [.enter, .command 0 (.operate (.present (.number 5) (.number 0.8) (.number 0))),
    .command 0 (.operate (.dismiss (.number 100))), .command 0 (.operate (.dismiss (.number 50))),
    .command 0 (.operate .advance), .leave, .setDisplay 0 ⟨800, 600⟩]

/-- The surface shows at the alpha and in the place that the dimmer told it, not where the display
is by now. The hastened fade-out begins at the second reading of the operation that hastens it. -/
theorem mirror_of_dimmedBriefly :
    let start : Session := { compositor := .ofDisplays [] {}, clock := ticking }
    let before := start.after [.setDisplay 0 ⟨1920, 1080⟩]
    let id := before.compositor.surfaces.length
    let s := (before.createDimmer {} 0).after.after dimmedBriefly
    s.dimmers[0]?.map (·.timeline.startTime) = some 3 ∧
      ∃ surface, s.compositor.surfaces[id]? = some surface ∧ id ∈ s.compositor.live ∧
        surface.destroyed = false ∧ surface.visible = true ∧ surface.alpha = 0.784 ∧
        surface.width = 2880 ∧ surface.height = 1620 ∧ surface.layer = 5 ∧
        surface.x = -480 ∧ surface.y = -270 := by
  intro start before id s
  have h_options : Options.resolve {} {} = .ok {} := rfl
  have h_made : (before.createDimmer {} 0).outcome = .ok (.number 0) := by
    have h_succeeds : (before.createDimmer {} 0).outcome.toBool = true := by decide +kernel
    obtain ⟨-, -, ⟨⟨failure, h_error⟩, -⟩ | ⟨h_ok, -⟩⟩ := before.createDimmer_after {} 0
    · rw [h_error] at h_succeeds
      cases h_succeeds
    · exact h_ok
  obtain ⟨-, d, surface, h_d, h_surface, h_given, h_mirrors, -⟩ :=
    mirror_of_run [] {} ticking .captured [.setDisplay 0 ⟨1920, 1080⟩] h_options 0 dimmedBriefly
      h_made ⟨trivial, fun _ => by decide +kernel, fun _ => by decide +kernel,
        fun _ => by decide +kernel, fun _ => by decide +kernel, trivial, trivial, trivial⟩
  have h_held : d.handle ≠ none := by
    rw [ne_eq, h_given]
    simp [dimmedBriefly]
  obtain ⟨handle, h_handle⟩ := Option.ne_none_iff_exists'.mp h_held
  obtain ⟨-, h⟩ := h_mirrors handle h_handle
  have h_parts : s.dimmers[0]?.map (fun d =>
      (d.showing, d.alpha, d.footprint.width, d.footprint.height, d.footprint.layer))
        = some (true, 0.784, 2880, 1620, 5) := by
    decide +kernel
  have h_dimmer : s.dimmers[0]? = some d := h_d
  rw [h_dimmer, Option.map_some, Option.some_inj] at h_parts
  simp only [Prod.mk.injEq] at h_parts
  obtain ⟨h_showing, h_alpha, h_width, h_height, h_layer⟩ := h_parts
  obtain ⟨h_wide, h_high, h_stack, h_x, h_y⟩ := h.placed (by decide +kernel)
  refine ⟨by decide +kernel, ?_⟩
  dsimp only [s, id, before, start]
  refine ⟨surface, h_surface, h.live, h.destroyed, h.visible.trans h_showing,
    (h.alpha (by decide +kernel)).trans h_alpha, h_wide.trans h_width, h_high.trans h_height,
    h_stack.trans h_layer, ?_, ?_⟩
  · rw [h_x, h_width]
    decide +kernel
  · rw [h_y, h_height]
    decide +kernel

end Session

end Scrim

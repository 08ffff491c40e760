import Scrim.Proofs.Dimmer.Numbers
import Scrim.Proofs.Session.Drawing

/-!
# A session in which a dimmer is alone

Take away from a session all that concerns other dimmers, their creations and their commands. What
is left is a session in which one dimmer is alone, and is surface and dimmer number zero there. Two
such sessions are `Matched` if one looks to the dimmer as the other.

Others leave them so because they have surfaces of their own (`Matched.elsewhere`), and each action
of the dimmer itself because what a turn learns from outside is the same in both, while the number
of the surface, which is not, makes no difference (`Matched.command`). So the dimmer gives the same
account of itself in both (`Matched.accounts_eq`).
-/

namespace Scrim

open Compositor

/-- A number does not matter to the diagnostic block. -/
theorem Dimmer.dump_unnumbered (d : Dimmer) (lead : String) (now : Float) :
    d.unnumbered.dump lead now = d.dump lead now := by
  have h_name : d.unnumbered.handle.map Handle.name = d.handle.map Handle.name := by
    unfold unnumbered
    dsimp only
    rw [Option.map_map]
    rfl
  unfold dump
  rw [h_name]
  rfl

theorem Dimmer.unnumbered_unnumbered (d : Dimmer) : d.unnumbered.unnumbered = d.unnumbered := by
  unfold unnumbered
  dsimp only
  rw [Option.map_map]
  rfl

/-- What can be said of surfaces that are the same is the same, whatever their numbers. -/
theorem Compositor.refusal_congr {c c' : Compositor} {id id' : Nat} {surface : Surface}
    (h : c.surfaces[id]? = some surface) (h' : c'.surfaces[id']? = some surface)
    (h_depth : c'.depth = c.depth) : c'.refusal id' = c.refusal id := by
  unfold refusal changeRefusal
  rw [h, h', h_depth]

/-- What concerns no surface but that of a number. -/
def Event.Concerns (id : Nat) : Event → Prop
  | .log _ => True
  | .call id' _ _ => id' = id
  | _ => False

namespace Session

/-! ### What becomes of a dimmer -/

/-- A dimmer and its surface, the number of the surface apart. -/
structure View where
  dimmer : Option Dimmer
  surface : Option Compositor.Surface

/-- The dimmer and the surface of these numbers. -/
def view (n id : Nat) (s : Session) : View where
  dimmer := s.dimmers[n]?.map Dimmer.unnumbered
  surface := s.compositor.surfaces[id]?

/-- What a command to a dimmer comes to. -/
structure Account where
  outcome : Except Failure Answer
  reports : List Report
  view : View

/-- What a command to the dimmer of a number comes to, which has the surface of a number. -/
def account (n id : Nat) (s : Session) (command : Dimmer.Command) : Account :=
  let reply := act (.command n command) s
  { outcome := reply.outcome, reports := reply.reports, view := reply.after.view n id }

/-- What the commands to a dimmer come to, in order. -/
def accounts (n id : Nat) (s : Session) : List Action → List Account
  | [] => []
  | action :: rest =>
    let later := (act action s).after.accounts n id rest
    match action with
    | .command index command => if index = n then s.account n id command :: later else later
    | _ => later

/-- An action in a session in which a dimmer is alone, unless it is about another dimmer. -/
def Action.alone (n : Nat) : Action → Option Action
  | .createDimmer _ _ => none
  | .command index told => if index = n then some (.command 0 told) else none
  | action => some action

/-- What is left out does nothing to the setting. -/
theorem Action.reset_of_alone_eq_none {n : Nat} {action : Action} (h : action.alone n = none)
    (w : Setting) : action.reset w = w := by
  cases action with
  | createDimmer | command => rfl
  | create | adopt | issue | surface | status | remove | beginChange | enter | leave | display
  | setDisplay | setTime => cases h

/-- What is left does to the setting what it did, and creates no dimmer. -/
theorem Action.of_alone_eq_some {n : Nat} {action action' : Action} (h_regular : action.Regular)
    (h : action.alone n = some action') :
    action'.Regular ∧ (∀ display options, action' ≠ .createDimmer display options) ∧
      ∀ w, action'.reset w = action.reset w := by
  cases action with
  | createDimmer => cases h
  | command index told =>
    unfold alone at h
    dsimp only at h
    split at h
    · obtain rfl := Option.some.inj h
      -- the command is the same, and addressed to dimmer zero
      refine ⟨?_, fun _ _ => Action.noConfusion, fun _ => rfl⟩
      cases told with
      | operate | query | dump => trivial
      | run => exact h_regular.elim
    · cases h
  | create | adopt | issue | surface | status | remove | beginChange | display =>
    exact h_regular.elim
  | enter | leave | setDisplay | setTime =>
    obtain rfl := Option.some.inj h
    exact ⟨trivial, fun _ _ => Action.noConfusion, fun _ => rfl⟩

variable {s s' alone : Session} {n id : Nat} {d : Dimmer} {surface : Compositor.Surface}

/-! ### Carrying out the same -/

/-- **Events about one surface come to the same whatever its number is.** -/
theorem replay_unnumbered {events : List Event} (h_events : ∀ e ∈ events, e.Concerns id)
    (h_logger : alone.logger = s.logger)
    (h_surface : alone.compositor.surfaces[0]? = s.compositor.surfaces[id]?) :
    (alone.replay (events.map Event.unnumbered)).reports = (s.replay events).reports ∧
      (alone.replay (events.map Event.unnumbered)).after.compositor.surfaces[0]?
        = (s.replay events).after.compositor.surfaces[id]? := by
  induction events generalizing s alone with
  | nil => exact ⟨rfl, h_surface⟩
  | cons e rest ih =>
    obtain ⟨h_e, h_rest⟩ := List.forall_mem_cons.mp h_events
    rw [List.map_cons]
    cases e with
    | log line =>
      -- a line is reported alike, as the loggers are the same
      obtain ⟨h_reports, h_after⟩ := ih h_rest h_logger h_surface
      rw [s.replay_cons_eq Event.noConfusion, alone.replay_cons_eq Event.noConfusion]
      refine ⟨?_, h_after⟩
      change alone.logger.reports line ++ (alone.replay (rest.map Event.unnumbered)).reports
        = s.logger.reports line ++ (s.replay rest).reports
      rw [h_logger, h_reports]
    | call id' primitive answer =>
      obtain rfl : id' = id := h_e
      -- the surface takes the primitive under either number, or under neither
      have h_next : (alone.carryOut (.call 0 primitive answer)).after.compositor.surfaces[0]?
          = (s.carryOut (.call id' primitive answer)).after.compositor.surfaces[id']? := by
        cases answer with
        | none =>
          change (alone.compositor.accept 0 primitive).surfaces[0]?
            = (s.compositor.accept id' primitive).surfaces[id']?
          rw [getElem?_surfaces_accept, getElem?_surfaces_accept, if_pos rfl, if_pos rfl,
            h_surface]
        | some failure => exact h_surface
      have h_logger' : (alone.carryOut (.call 0 primitive answer)).after.logger
          = (s.carryOut (.call id' primitive answer)).after.logger := by
        cases answer <;> exact h_logger
      obtain ⟨h_reports, h_after⟩ := ih h_rest h_logger' h_next
      have h_replay := alone.replay_cons_eq (e := .call 0 primitive answer) Event.noConfusion
        (rest.map Event.unnumbered)
      rw [s.replay_cons_eq Event.noConfusion, show (Event.call id' primitive answer).unnumbered
        = .call 0 primitive answer from rfl, h_replay]
      exact ⟨congrArg ([] ++ ·) h_reports, h_after⟩
    | requested | opened | closed => exact h_e.elim

/-- Surfaces do not cease to have been created, whatever is carried out. -/
theorem exists_surface_replay (s : Session) {id : Nat} (h : id < s.compositor.surfaces.length)
    (events : List Event) :
    ∃ surface, (s.replay events).after.compositor.surfaces[id]? = some surface := by
  obtain ⟨c, h_after, h_altered⟩ := s.replay_after events (fun _ => True) fun _ _ _ _ => trivial
  rw [h_after]
  exact ⟨_, List.getElem?_eq_some_iff.mpr ⟨h.trans_le h_altered.length_le, rfl⟩⟩

theorem dimmers_replay (s : Session) (events : List Event) :
    (s.replay events).after.dimmers = s.dimmers := by
  obtain ⟨c, h_after, -⟩ := s.replay_after events (fun _ => True) fun _ _ _ _ => trivial
  rw [h_after]

/-! ### Matched sessions -/

/-- To a dimmer, which has this surface, a session looks like another in which it is alone. -/
structure Matched (n id : Nat) (s alone : Session) (d : Dimmer) (surface : Compositor.Surface) :
    Prop where
  setting : alone.setting = s.setting
  /-- The clock does not run ahead of one session while the other dimmers take readings of it. -/
  steady : s.Steady
  dimmer : s.dimmers[n]? = some d
  dimmer' : alone.dimmers[0]? = some d.unnumbered
  held : ∀ handle, d.handle = some handle → handle.id = id
  stands : s.compositor.surfaces[id]? = some surface
  stands' : alone.compositor.surfaces[0]? = some surface
  /-- No other dimmer has the surface. -/
  only : ∀ (j : Nat) (d' : Dimmer) (handle : Handle),
    s.dimmers[j]? = some d' → d'.handle = some handle → handle.id = id → j = n

namespace Matched

theorem view_eq (h : Matched n id s alone d surface) : alone.view 0 0 = s.view n id := by
  unfold view
  rw [h.dimmer, h.dimmer', h.stands, h.stands', Option.map_some, Option.map_some,
    Dimmer.unnumbered_unnumbered]

theorem steady' (h : Matched n id s alone d surface) : alone.Steady :=
  h.steady.of_setting h.setting

theorem bound (h : Matched n id s alone d surface) : id < s.compositor.surfaces.length :=
  (List.getElem?_eq_some_iff.mp h.stands).1

/-- **What is about other dimmers goes unnoticed.** -/
theorem elsewhere (h : Matched n id s alone d surface) {action : Action}
    (h_regular : action.Regular) (h_alone : action.alone n = none) :
    Matched n id (act action s).after alone d surface := by
  have h_carried := act_carried action s
  have h_apart : ¬action.Touches s id ∧ ¬action.Commands n ∧
      action.reset s.setting = s.setting := by
    cases action with
    | createDimmer display options =>
      -- it touches a surface that is not there yet
      exact ⟨h.bound.ne, not_false, rfl⟩
    | command index command =>
      have h_index : index ≠ n := by
        rintro rfl
        exact absurd h_alone (by simp [Action.alone])
      -- it touches the surface that the other dimmer holds, which is another one
      refine ⟨?_, Ne.symm h_index, rfl⟩
      rintro ⟨d', handle, h_d', h_handle, h_id⟩
      exact h_index (h.only index d' handle h_d' h_handle h_id)
    | enter | leave | setDisplay | setTime => cases h_alone
    | create | adopt | issue | surface | status | remove | beginChange | display =>
      exact h_regular.elim
  obtain ⟨h_touched, h_commanded, h_reset⟩ := h_apart
  obtain ⟨d', h_d', -, h_same⟩ := h_carried.kept n d h.dimmer
  obtain rfl := h_same h_commanded
  refine ⟨?_, h.steady.act h_regular, h_d', h.dimmer', h.held, ?_, h.stands',
    h_carried.sole h.bound h.only⟩
  · -- the setting is as it was, and the surface was not touched
    rw [setting_act h.steady h_regular, h_reset]
    exact h.setting
  · exact (h_carried.altered.untouched h_touched h.bound).1.trans h.stands

/-- A dimmer learns the same in both sessions. -/
theorem surroundings_eq (h : Matched n id s alone d surface) :
    alone.surroundings d.unnumbered = s.surroundings d := by
  have h_displays : alone.compositor.displays = s.compositor.displays :=
    congrArg Setting.displays h.setting
  have h_clock : alone.clock = s.clock := congrArg Setting.clock h.setting
  have h_refusal : (d.unnumbered.handle.bind fun handle => alone.compositor.refusal handle.id)
      = d.handle.bind fun handle => s.compositor.refusal handle.id := by
    have h_depth : alone.compositor.depth = s.compositor.depth := congrArg Setting.depth h.setting
    unfold Dimmer.unnumbered
    dsimp only
    cases h_handle : d.handle with
    | none => rfl
    | some handle =>
      -- the surfaces are the same, and so is whether a transaction is open
      have h_id := h.held handle h_handle
      subst h_id
      exact refusal_congr h.stands h.stands' h_depth
  unfold surroundings display?
  rw [h_refusal, h_clock, h_displays]
  rfl

/-- What a dimmer does in a turn concerns no surface but its own. -/
theorem concerns_of_mem_turn (h : Matched n id s alone d surface) {step : Scrim.Step} {e : Event}
    (he : e ∈ (d.turn step).events) : e.Concerns id := by
  cases Dimmer.own_of_mem_turn he with
  | logged => trivial
  | called handle h_held => exact h.held handle h_held

/-- Its turn is the same, apart from the number. -/
theorem operate_alone (h : Matched n id s alone d surface) (operation : Operation) :
    alone.operate 0 operation
      = let step : Scrim.Step := ⟨operation, s.surroundings d⟩
        let left := (alone.drop (d.turn step).readings).replaced 0 (d.turn step).dimmer.unnumbered
        let reply := left.replay ((d.turn step).events.map Event.unnumbered)
        { after := reply.after, outcome := d.answer step, reports := reply.reports } := by
  rw [operate_eq h.dimmer', h.surroundings_eq]
  dsimp only
  rw [Dimmer.turn_unnumbered, Dimmer.answer_unnumbered]
  rfl

/-- **An operation of the dimmer comes to the same in both sessions.** -/
theorem operate (h : Matched n id s alone d surface) (operation : Operation) :
    (alone.operate 0 operation).outcome = (s.operate n operation).outcome ∧
      (alone.operate 0 operation).reports = (s.operate n operation).reports ∧
      ∃ d' surface', Matched n id (s.operate n operation).after (alone.operate 0 operation).after
        d' surface' := by
  have h_carried := s.operate_carried n operation
  -- neither clock moves, so the settings are still the same
  have h_setting : (alone.operate 0 operation).after.setting
      = (s.operate n operation).after.setting := by
    rw [h.steady.setting_operate, h.steady'.setting_operate, h.setting]
  have h_steady : (s.operate n operation).after.Steady :=
    h.steady.of_setting (h.steady.setting_operate n operation)
  rw [operate_eq h.dimmer] at h_carried h_setting h_steady ⊢
  rw [h.operate_alone] at h_setting ⊢
  dsimp only at h_carried h_setting h_steady ⊢
  generalize (⟨operation, s.surroundings d⟩ : Scrim.Step) = step at h_carried h_setting h_steady ⊢
  have h_concerns (e : Event) (he : e ∈ (d.turn step).events) : e.Concerns id :=
    h.concerns_of_mem_turn he
  have h_moves := d.moves step
  generalize d.turn step = t at h_carried h_setting h_steady h_concerns h_moves ⊢
  -- the turn is carried out on either side, after the dimmer has been put in its place
  let left := (s.drop t.readings).replaced n t.dimmer
  let left' := (alone.drop t.readings).replaced 0 t.dimmer.unnumbered
  have h_logger : left'.logger = left.logger := congrArg Setting.logger h.setting
  have h_before : left'.compositor.surfaces[0]? = left.compositor.surfaces[id]? :=
    h.stands'.trans h.stands.symm
  obtain ⟨h_reports, h_surface⟩ := replay_unnumbered h_concerns h_logger h_before
  obtain ⟨surface', h_stands⟩ := left.exists_surface_replay h.bound t.events
  refine ⟨rfl, h_reports, t.dimmer, surface', h_setting, h_steady, ?_, ?_, ?_, h_stands,
    h_surface.trans h_stands, h_carried.sole h.bound h.only⟩
  · rw [dimmers_replay]
    exact List.getElem?_set_self (List.getElem?_eq_some_iff.mp h.dimmer).1
  · rw [dimmers_replay]
    exact List.getElem?_set_self (List.getElem?_eq_some_iff.mp h.dimmer').1
  · -- a turn may let go of the surface, and takes hold of none
    intro handle h_handle
    exact h.held handle (h_moves.handle_eq_some h_handle)

/-- A dump bears the time, and so takes a reading. -/
theorem carryOut_dump {index : Nat} {d d' : Dimmer} (h : (rig index d).dimmer s = d')
    (lead : String) :
    (rig index d).carryOut (.dump lead) s
      = { after := s.drop 1, outcome := .ok (.lines (d'.dump lead s.now)) } := by
  subst h
  rfl

/-- **A command to the dimmer comes to the same.** -/
theorem command (h : Matched n id s alone d surface) {command : Dimmer.Command}
    (h_regular : Action.Regular (.command n command)) :
    alone.account 0 0 command = s.account n id command ∧
      ∃ d' surface', Matched n id (act (.command n command) s).after
        (act (.command 0 command) alone).after d' surface' := by
  have h_rig : (rig n d).dimmer s = d := congrArg (Option.getD · d) h.dimmer
  have h_rig' : (rig 0 d.unnumbered).dimmer alone = d.unnumbered :=
    congrArg (Option.getD · d.unnumbered) h.dimmer'
  unfold account act
  dsimp only
  rw [h.dimmer, h.dimmer']
  dsimp only
  cases command with
  | operate operation =>
    obtain ⟨h_outcome, h_reports, d', surface', h_matched⟩ := h.operate operation
    refine ⟨?_, d', surface', h_matched⟩
    change Account.mk (((alone.operate 0 operation).outcome.map Dimmer.Answer.ofResult).map
      Answer.ofDimmer) (alone.operate 0 operation).reports
      ((alone.operate 0 operation).after.view 0 0) = _
    rw [h_outcome, h_reports, h_matched.view_eq]
    rfl
  | query =>
    -- nothing is done, and what is said of a dimmer does not depend on the number
    refine ⟨?_, d, surface, h⟩
    simp only [Rig.carryOut, Reply.map, h_rig, h_rig', h.view_eq]
    rfl
  | dump lead =>
    -- the clock is read, and goes on as before in both
    have h_now : alone.now = s.now := congrArg (fun w : Setting => w.clock 0) h.setting
    have h_matched : Matched n id (s.drop 1) (alone.drop 1) d surface := by
      refine ⟨?_, h.steady.of_setting (h.steady.setting_drop 1), h.dimmer, h.dimmer', h.held,
        h.stands, h.stands', h.only⟩
      rw [h.steady.setting_drop, h.steady'.setting_drop, h.setting]
    rw [carryOut_dump h_rig, carryOut_dump h_rig', h_now, d.dump_unnumbered]
    refine ⟨?_, d, surface, h_matched⟩
    exact congrArg (Account.mk _ []) h_matched.view_eq
  | run => exact h_regular.elim

/-- **What is not about dimmers is noticed alike.** -/
theorem shared (h : Matched n id s alone d surface) {action : Action} (h_regular : action.Regular)
    (h_alone : action.alone n = some action)
    (h_command : ∀ index told, action ≠ .command index told) :
    Matched n id (act action s).after (act action alone).after d surface := by
  have h_setting : (act action alone).after.setting = (act action s).after.setting := by
    rw [setting_act h.steady h_regular, setting_act h.steady' h_regular, h.setting]
  have h_steady := h.steady.act h_regular
  cases action with
  | enter | setDisplay | setTime =>
    exact ⟨h_setting, h_steady, h.dimmer, h.dimmer', h.held, h.stands, h.stands', h.only⟩
  | leave =>
    -- whether the frame fails is a matter of all surfaces, but they stay as they are either way
    refine ⟨h_setting, h_steady, h.dimmer, h.dimmer', h.held, ?_, ?_, h.only⟩
    · exact (congrArg (·[id]?) s.compositor.surfaces_leave).trans h.stands
    · exact (congrArg (·[0]?) alone.compositor.surfaces_leave).trans h.stands'
  | createDimmer => cases h_alone
  | command index told => exact absurd rfl (h_command index told)
  | create | adopt | issue | surface | status | remove | beginChange | display =>
    exact h_regular.elim

/-- **A dimmer gives the same account of itself in both sessions.** -/
theorem accounts_eq (h : Matched n id s alone d surface) {actions : List Action}
    (h_regular : ∀ a ∈ actions, a.Regular) :
    alone.accounts 0 0 (actions.filterMap (Action.alone n)) = s.accounts n id actions := by
  induction actions generalizing s alone d surface with
  | nil => rfl
  | cons action rest ih =>
    obtain ⟨h_first, h_rest⟩ := List.forall_mem_cons.mp h_regular
    cases action with
    | command index told =>
      by_cases h_index : index = n
      · subst h_index
        have h_alone : Action.alone index (.command index told) = some (.command 0 told) :=
          if_pos rfl
        obtain ⟨h_account, d', surface', h_matched⟩ := h.command h_first
        -- a command to the dimmer is kept, and both give the same account of it
        rw [List.filterMap_cons_some h_alone]
        unfold accounts
        dsimp only
        rw [if_pos rfl, if_pos rfl, h_account, ih h_matched h_rest]
      · -- a command to another is left out
        have h_alone : Action.alone n (.command index told) = none := if_neg h_index
        rw [List.filterMap_cons_none h_alone, ih (h.elsewhere h_first h_alone) h_rest]
        exact (if_neg h_index).symm
    | createDimmer display options => exact ih (h.elsewhere h_first rfl) h_rest
    | enter | leave | setDisplay | setTime =>
      exact ih (h.shared h_first rfl fun _ _ => Action.noConfusion) h_rest
    | create | adopt | issue | surface | status | remove | beginChange | display =>
      exact h_first.elim

end Matched

end Session

end Scrim

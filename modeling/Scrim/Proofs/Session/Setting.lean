import Scrim.Proofs.Compositor.Bars
import Scrim.Proofs.Session.Actions

/-!
# What dimmers share

Besides the screen, the dimmers of a session share its `Setting`: the displays, the clock, the
logger, and how many transactions are open. A dimmer reads the setting and changes nothing of it but
the clock, of which it takes readings (`setting_operate`). Where the clock stands still, an
operation leaves the setting as it was, and so does a creation, which closes the transaction that it
opens (`setting_createDimmer`).

What each event of a turn does to the surfaces, all of them do (`every_replay`).
-/

namespace Scrim

open Compositor

/-! ### The setting -/

/-- What a creation does between opening its transaction and closing it. -/
inductive Dimmer.Prepares (options : Options) (display : Float) : Event → Prop
  | logged (line : LogLine) : Prepares options display (.log line)
  | requested (answer : Option Failure) :
      Prepares options display (.requested (request options) answer)
  | bound (id : Nat) (answer : Option Failure) :
      Prepares options display (.call id (.layerStack display) answer)

theorem Dimmer.Prepares.isTransaction {options : Options} {display : Float} {e : Event}
    (h : Prepares options display e) : e.isTransaction = false := by
  cases h with
  | logged | requested | bound => rfl

namespace Session

/-- What a session is like apart from its surfaces and dimmers. -/
structure Setting where
  displays : List (Float × Size)
  style : StatusStyle
  depth : Nat
  clock : Nat → Float
  logger : Logger

/-- The setting of a session. -/
def setting (s : Session) : Setting where
  displays := s.compositor.displays
  style := s.compositor.style
  depth := s.compositor.depth
  clock := s.clock
  logger := s.logger

variable {s s' : Session}

/-- The clock stands still. -/
def Steady (s : Session) : Prop :=
  ∀ k, s.clock k = s.now

/-- However many readings are taken, a clock that stands still goes on as before. -/
theorem Steady.setting_drop (h : s.Steady) (taken : Nat) : (s.drop taken).setting = s.setting :=
  congrArg (fun clock => { s.setting with clock })
    (funext fun k => (h (k + taken)).trans (h k).symm)

theorem Steady.of_setting (h : s.Steady) (h_setting : s'.setting = s.setting) : s'.Steady := by
  have h_clock : s'.clock = s.clock := congrArg Setting.clock h_setting
  unfold Steady now
  rw [h_clock]
  exact h

theorem steady_stopped (s : Session) (now : Float) : (s.stopped now).Steady :=
  fun _ => rfl

/-! ### Carrying out events -/

/-- Events that open and close no transaction leave the setting as it was. -/
theorem setting_carryOut (s : Session) {e : Event} (h : e.isTransaction = false) :
    (s.carryOut e).after.setting = s.setting := by
  cases e with
  | log line => rfl
  | call id primitive answer =>
    cases answer with
    -- only the surfaces change, and they are no part of the setting
    | none => cases primitive <;> rfl
    | some failure => rfl
  | requested request answer => cases answer <;> rfl
  | opened | closed => cases h

theorem ne_closed {e : Event} (h : e.isTransaction = false) : e ≠ .closed := by
  rintro rfl
  cases h

theorem setting_replay (s : Session) {events : List Event}
    (h : ∀ e ∈ events, e.isTransaction = false) : (s.replay events).after.setting = s.setting := by
  induction events generalizing s with
  | nil => rfl
  | cons e rest ih =>
    have h_e := h e List.mem_cons_self
    rw [s.replay_cons_eq (ne_closed h_e) rest]
    -- what is reported does not matter to the setting
    dsimp only
    rw [ih _ fun e' he' => h e' (List.mem_cons_of_mem e he'), setting_carryOut s h_e]

/-- Closing a transaction takes it off, and changes nothing else of the setting. -/
theorem setting_closeTransaction (s : Session) :
    s.closeTransaction.after.setting = { s.setting with depth := s.setting.depth - 1 } := by
  obtain ⟨dirty, h_leave⟩ := s.compositor.leave_after_eq
  change setting { s with compositor := s.compositor.leave.after } = _
  -- a frame clears the list of what has changed, which is no part of the setting either
  rw [h_leave]
  rfl

/-! ### Turns and creations -/

/-- A turn opens and closes no transaction. -/
theorem isTransaction_of_mem_turn {d : Dimmer} {step : Scrim.Step} {e : Event}
    (h : e ∈ (d.turn step).events) : e.isTransaction = false := by
  cases Dimmer.own_of_mem_turn h with
  | logged | called => rfl

/-- A session with one of its dimmers replaced. -/
def replaced (s : Session) (index : Nat) (d : Dimmer) : Session :=
  { s with dimmers := s.dimmers.set index d }

theorem operate_eq {index : Nat} {d : Dimmer} (h_d : s.dimmers[index]? = some d)
    (operation : Operation) :
    s.operate index operation
      = let step : Scrim.Step := ⟨operation, s.surroundings d⟩
        let left := (s.drop (d.turn step).readings).replaced index (d.turn step).dimmer
        let reply := left.replay (d.turn step).events
        { after := reply.after, outcome := d.answer step, reports := reply.reports } := by
  unfold operate
  rw [h_d]
  rfl

/-- **An operation takes readings of the clock, and leaves the rest of the setting as it was.** -/
theorem setting_operate (s : Session) (index : Nat) (operation : Operation) :
    ∃ taken, (s.operate index operation).after.setting = (s.drop taken).setting := by
  cases h_d : s.dimmers[index]? with
  | none =>
    refine ⟨0, ?_⟩
    unfold operate
    rw [h_d]
    rfl
  | some d =>
    refine ⟨(d.turn ⟨operation, s.surroundings d⟩).readings, ?_⟩
    rw [operate_after h_d]
    exact setting_replay _ fun e he => isTransaction_of_mem_turn he

/-- Where the clock stands still, that is nothing. -/
theorem Steady.setting_operate (h : s.Steady) (index : Nat) (operation : Operation) :
    (s.operate index operation).after.setting = s.setting := by
  obtain ⟨taken, h_setting⟩ := Session.setting_operate s index operation
  rw [h_setting, h.setting_drop]

/-- **A creation opens a transaction, does some work in it, and closes it.** -/
theorem creation_eq (s : Session) (options : Options) (display : Float) :
    ∃ message preparing, (∀ e ∈ preparing, Dimmer.Prepares options display e) ∧
      (s.creation options display).events
        = [.say .debug message, .opened] ++ (preparing ++ [.closed]) := by
  cases h_refusal : creationRefusal (Dimmer.request options) with
  | some failure =>
    -- a surface that is refused is complained about
    obtain ⟨message, h_creation⟩ := creation_of_refused (s := s) h_refusal display
    refine ⟨message, [.requested (Dimmer.request options) (some failure),
      Dimmer.complaint failure], ?_, by rw [h_creation]; rfl⟩
    refine List.forall_mem_cons.mpr ⟨.requested _, List.forall_mem_singleton.mpr (.logged _)⟩
  | none =>
    -- a surface that is granted is asked for one thing, to be on its display
    obtain ⟨message, asking, h_heeded, -, h_creation⟩ :=
      creation_of_granted (s := s) h_refusal display
    refine ⟨message, .requested (Dimmer.request options) none :: asking, ?_,
      by rw [h_creation]; rfl⟩
    refine List.forall_mem_cons.mpr ⟨.requested _, fun e he => ?_⟩
    have h_mem : e ∈ (s.creation options display).events := by
      rw [h_creation]
      exact List.mem_append_right _ (List.mem_append_left _ he)
    cases h_heeded e he with
    | logged line => exact .logged line
    | called primitive =>
      obtain rfl := Dimmer.primitive_of_call_mem_create _ _ _ _ h_mem
      exact .bound _ _

/-- The session in which a creation does its work. -/
def entered (s : Session) : Session :=
  { s with compositor := s.compositor.enter }

/-- Carrying out a creation is to log a line, do the work inside a transaction, and close it. -/
theorem replay_scope (s : Session) (message : String) {preparing : List Event}
    (h : ∀ e ∈ preparing, e.isTransaction = false) :
    s.replay ([.say .debug message, .opened] ++ (preparing ++ [.closed]))
      = let inner := s.entered.replay preparing
        let closing := inner.after.closeTransaction
        { closing with
          reports := s.logger.reports ⟨.debug, message, none⟩
            ++ (inner.reports ++ closing.reports) } := by
  have h_opening : ∀ e ∈ [Event.say .debug message, .opened], e ≠ .closed := by
    simp [Event.say]
  -- three replays in a row: what comes before the work, the work, and the closing
  rw [replay_append_eq s h_opening, replay_append_eq _ fun e he => ne_closed (h e he),
    replay_singleton_eq]
  dsimp only
  refine congrArg (fun reports => ({ closeTransaction _ with reports } : Reply Session Unit)) ?_
  exact congrArg (· ++ _) (List.append_nil _)

/-- The same of a creation that is given its surface, which is there before anything is asked of it.
-/
theorem replay_granted (s : Session) (options : Options) (message : String) {asking : List Event}
    (h : ∀ e ∈ asking, e.isTransaction = false) :
    s.replay ([.say .debug message, .opened, .requested (Dimmer.request options) none]
        ++ (asking ++ [.closed]))
      = let inner := (s.asked options).replay asking
        let closing := inner.after.closeTransaction
        { closing with
          reports := s.logger.reports ⟨.debug, message, none⟩
            ++ (inner.reports ++ closing.reports) } := by
  have h_quiet : ∀ e ∈ .requested (Dimmer.request options) none :: asking,
      e.isTransaction = false := List.forall_mem_cons.mpr ⟨rfl, h⟩
  have h_scope := s.replay_scope message h_quiet
  rw [replay_cons_eq _ Event.noConfusion] at h_scope
  exact h_scope

theorem reports_createDimmer (s : Session) (options : Options) (display : Float) :
    (s.createDimmer options display).reports
      = (s.replay (s.creation options display).events).reports := by
  unfold createDimmer
  dsimp only
  split <;> rfl

/-- **A creation leaves the setting as it was.** -/
theorem setting_createDimmer (s : Session) (options : Options) (display : Float) :
    (s.createDimmer options display).after.setting = s.setting := by
  obtain ⟨message, preparing, h_preparing, h_events⟩ := s.creation_eq options display
  obtain ⟨dimmers, h_after, -⟩ := s.createDimmer_after options display
  have h_quiet (e : Event) (he : e ∈ preparing) : e.isTransaction = false :=
    (h_preparing e he).isTransaction
  -- one transaction is opened, one is closed, and nothing else is changed
  rw [h_after, h_events, s.replay_scope message h_quiet]
  change (closeTransaction _).after.setting = _
  rw [setting_closeTransaction, setting_replay _ h_quiet]
  rfl

/-! ### Actions -/

/-- An action that leaves surfaces to their dimmers. A whole run of ticks counts as its ticks, one
by one. -/
def Action.Regular : Action → Prop
  | .enter => True
  | .leave => True
  | .setDisplay _ _ => True
  | .setTime _ => True
  | .createDimmer _ _ => True
  | .command _ (.run _ _) => False
  | .command _ _ => True
  | _ => False

/-- What an action sets the clock to, if it does. -/
def Action.time? : Action → Option Float
  | .setTime now => some now
  | _ => none

/-- What an action makes of the setting. -/
def Action.reset : Action → Setting → Setting
  | .enter, w => { w with depth := w.depth + 1 }
  | .leave, w => { w with depth := w.depth - 1 }
  | .setDisplay key size, w =>
    { w with displays := (key, size) :: w.displays.filter fun entry => !sameKey entry.1 key }
  | .setTime now, w => { w with clock := fun _ => now }
  | _, w => w

/-- **What a regular action makes of the setting depends on the setting alone**, if the clock stands
still between the times to which it is set. -/
theorem setting_act (h_steady : s.Steady) {action : Action} (h : action.Regular) :
    (act action s).after.setting = action.reset s.setting := by
  cases action with
  | enter | setDisplay | setTime => rfl
  | leave => exact s.setting_closeTransaction
  | createDimmer display options => exact s.setting_createDimmer options display
  | command index command =>
    unfold act
    dsimp only
    -- a command to a dimmer that is not there fails
    cases s.dimmers[index]? with
    | none => rfl
    | some d =>
      cases command with
      | operate operation => exact h_steady.setting_operate index operation
      | query => rfl
      | dump lead => exact h_steady.setting_drop 1
      | run => exact h.elim
  | create | adopt | issue | surface | status | remove | beginChange | display => exact h.elim

/-- Regular actions keep the clock standing still. -/
theorem Steady.act (h : s.Steady) {action : Action} (h_regular : action.Regular) :
    (act action s).after.Steady := by
  have h_clock : (Session.act action s).after.clock = (action.reset s.setting).clock :=
    congrArg Setting.clock (setting_act h h_regular)
  unfold Steady now
  rw [h_clock]
  cases action with
  -- a clock that is set stands at the time that it is set to
  | setTime next => exact fun _ => rfl
  | _ => exact h

/-! ### What is true of every surface -/

/-- An event that every surface takes without losing a property, and so does a surface that is new.
-/
def Keeps (P : Compositor.Surface → Prop) : Event → Prop
  | .call _ primitive none => ∀ surface, P surface → P (surface.after primitive)
  | .requested request none => P (.ofRequest request)
  | _ => True

theorem every_carryOut {P : Compositor.Surface → Prop} (h : s.compositor.Every P) {e : Event}
    (h_e : Keeps P e) : (s.carryOut e).after.compositor.Every P := by
  cases e with
  | log line => exact h
  | call id primitive answer =>
    cases answer with
    | none => exact h.accept h_e id
    | some failure => exact h
  | requested request answer =>
    cases answer with
    | none => exact h.add h_e
    | some failure => exact h
  | opened => exact h
  | closed => exact h.leave

/-- **What each event keeps true of every surface, all of them keep.** -/
theorem every_replay {P : Compositor.Surface → Prop} (h : s.compositor.Every P)
    {events : List Event} (h_events : ∀ e ∈ events, Keeps P e) :
    (s.replay events).after.compositor.Every P := by
  induction events generalizing s with
  | nil => exact h
  | cons e rest ih =>
    have h_first := every_carryOut h (h_events e List.mem_cons_self)
    rw [replay]
    dsimp only
    split
    · -- a replay that stops short has done what came before
      exact h_first
    · exact ih h_first fun e' he' => h_events e' (List.mem_cons_of_mem e he')

end Session

end Scrim

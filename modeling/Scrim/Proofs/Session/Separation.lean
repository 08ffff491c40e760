import Scrim.Proofs.Session.Matched

/-!
# Dimmers do not disturb each other

A session does not notice if all that concerns other dimmers is taken away (`separate_of_run`): each
operation of the dimmer that is left comes to the same, is reported alike, and leaves the dimmer and
its surface in the same state.

A dimmer that has been created is matched with the same one created alone (`matched_createDimmer`),
and matched sessions stay so. Only the creation, which may have to draw the surfaces of others,
could fail because of them. It does not as long as all lines can be written, which is a matter of
their length alone.
-/

namespace Scrim

open Compositor

/-- Whether something is seen on the screen, and not in the log. -/
def Report.isLine : Report → Bool
  | .line _ => true
  | _ => false

namespace Session

variable {s alone : Session} {n : Nat}

/-! ### Before the dimmer is created -/

/-- A session with neither dimmers nor surfaces. -/
structure Unused (s : Session) : Prop where
  dimmers : s.dimmers = []
  surfaces : s.compositor.surfaces = []

theorem Unused.act (h : s.Unused) {action : Action} (h_regular : action.Regular)
    (h_create : ∀ display options, action ≠ .createDimmer display options) :
    (act action s).after.Unused := by
  cases action with
  | enter | setDisplay | setTime => exact ⟨h.dimmers, h.surfaces⟩
  | leave => exact ⟨h.dimmers, s.compositor.surfaces_leave.trans h.surfaces⟩
  | command index told =>
    -- there is no dimmer to command
    unfold Session.act
    dsimp only
    rw [h.dimmers]
    exact h
  | createDimmer display options => exact absurd rfl (h_create display options)
  | create | adopt | issue | surface | status | remove | beginChange | display =>
    exact h_regular.elim

/-- **Without others, nothing has been created, and the setting is the same.** -/
theorem Unused.after (h : alone.Unused) (h_setting : alone.setting = s.setting)
    (h_steady : s.Steady) {actions : List Action} (h_regular : ∀ a ∈ actions, a.Regular) (n : Nat) :
    (alone.after (actions.filterMap (Action.alone n))).Unused ∧
      (alone.after (actions.filterMap (Action.alone n))).setting = (s.after actions).setting := by
  induction actions generalizing s alone with
  | nil => exact ⟨h, h_setting⟩
  | cons action rest ih =>
    obtain ⟨h_first, h_rest⟩ := List.forall_mem_cons.mp h_regular
    change _ ∧ _ = ((Session.act action s).after.after rest).setting
    cases h_alone : action.alone n with
    | none =>
      -- what is left out changes the setting of neither session
      rw [List.filterMap_cons_none h_alone]
      refine ih h ?_ (h_steady.act h_first) h_rest
      rw [setting_act h_steady h_first, h_setting, Action.reset_of_alone_eq_none h_alone]
    | some action' =>
      -- what is kept changes both settings alike
      rw [List.filterMap_cons_some h_alone]
      obtain ⟨h_regular', h_create, h_reset⟩ := Action.of_alone_eq_some h_first h_alone
      have h_steady' : alone.Steady := h_steady.of_setting h_setting
      refine ih (h.act h_regular' h_create) ?_ (h_steady.act h_first) h_rest
      rw [setting_act h_steady h_first, setting_act h_steady' h_regular', h_setting, h_reset]

/-! ### The creation of the dimmer -/

/-- **The first dimmer is created like any other**, apart from the number. -/
theorem creation_unnumbered (h : alone.Unused) (s : Session) (options : Options) (display : Float) :
    alone.creation options display = (s.creation options display).unnumbered := by
  unfold creation
  dsimp only
  rw [← Dimmer.create_unnumbered]
  congr 1
  · -- alone, the surface is given the number zero
    funext request
    unfold Compositor.create
    cases creationRefusal request with
    | some failure => rfl
    | none =>
      have h_zero : alone.compositor.surfaces.length = 0 := congrArg List.length h.surfaces
      exact congrArg (fun id => Except.ok { id, name := request.name : Handle }) h_zero
  · -- in either session it accepts the one primitive that a creation calls
    funext primitive
    exact (refusal_of_creation alone.compositor _).trans (refusal_of_creation s.compositor _).symm

theorem Unused.dark (h : s.Unused) : s.compositor.Dark := by
  intro id surface h_surface
  rw [h.surfaces] at h_surface
  cases h_surface

/-- Closing a transaction adds to the screen alone. -/
theorem filter_isLine_closeTransaction (s : Session) :
    s.closeTransaction.reports.filter (fun report => !report.isLine) = [] := by
  refine List.filter_eq_nil_iff.mpr fun report h_mem => ?_
  obtain ⟨text, -, rfl⟩ := List.mem_map.mp h_mem
  exact Bool.false_ne_true

section Creation

variable {options : Options} {display : Float}

/-- A dimmer that has been created is the last one. -/
theorem dimmers_createDimmer (h_made : (s.createDimmer options display).outcome = .ok (.number n)) :
    n = s.dimmers.length ∧ (s.createDimmer options display).after.dimmers
      = s.dimmers ++ [(s.creation options display).dimmer] := by
  obtain ⟨dimmers, h_after, ⟨⟨failure, h_error⟩, -⟩ | ⟨h_ok, rfl⟩⟩ :=
    s.createDimmer_after options display
  · cases h_made.symm.trans h_error
  · refine ⟨Answer.number.inj (Except.ok.inj (h_made.symm.trans h_ok)), ?_⟩
    rw [h_after]

/-- What is logged in a creation that is given its surface, and what becomes of the surfaces, is
said before the transaction is closed. -/
theorem createDimmer_granted {message : String} {asking : List Event}
    (h_events : (s.creation options display).events = [.say .debug message, .opened,
      .requested (Dimmer.request options) none] ++ (asking ++ [.closed]))
    (h_quiet : ∀ e ∈ asking, e.isTransaction = false) :
    (s.createDimmer options display).reports.filter (fun report => !report.isLine)
        = (s.logger.reports ⟨.debug, message, none⟩
            ++ ((s.asked options).replay asking).reports).filter (fun report => !report.isLine) ∧
      (s.createDimmer options display).after.compositor.surfaces
        = ((s.asked options).replay asking).after.compositor.surfaces := by
  have h_replay := s.replay_granted options message h_quiet
  rw [← h_events] at h_replay
  obtain ⟨dimmers, h_after, -⟩ := s.createDimmer_after options display
  refine ⟨?_, ?_⟩
  · rw [reports_createDimmer, h_replay]
    simp only [List.filter_append, filter_isLine_closeTransaction, List.append_nil]
  · rw [h_after, h_replay]
    exact surfaces_leave _

/-- In a session in which every dimmer holds a surface, a new one holds a new surface. -/
theorem Orderly.only_new (h : s.Orderly) {d : Dimmer} {j : Nat} {d' : Dimmer} {handle : Handle}
    (h_d' : (s.dimmers ++ [d])[j]? = some d') (h_handle : d'.handle = some handle)
    (h_id : handle.id = s.compositor.surfaces.length) : j = s.dimmers.length := by
  by_cases h_j : j < s.dimmers.length
  · -- an earlier dimmer holds a surface that was there before
    have h_before := (List.getElem?_append_left h_j).symm.trans h_d'
    exact absurd h_id (h.bound j d' handle h_before h_handle).ne
  · have h_last := (List.getElem?_eq_some_iff.mp h_d').1
    rw [List.length_append, List.length_singleton] at h_last
    omega

/-- **A dimmer that has been created is matched with one that has been created alone**, and what was
logged on the way is the same. -/
theorem matched_createDimmer (h : alone.Unused) (h_setting : alone.setting = s.setting)
    (h_steady : s.Steady) (h_orderly : s.Orderly)
    (h_options : creationRefusal (Dimmer.request options) = none)
    (h_made : (s.createDimmer options display).outcome = .ok (.number n)) :
    (alone.createDimmer options display).outcome = .ok (.number 0) ∧
      (alone.createDimmer options display).reports.filter (fun report => !report.isLine)
        = (s.createDimmer options display).reports.filter (fun report => !report.isLine) ∧
      ∃ d surface, Matched n s.compositor.surfaces.length (s.createDimmer options display).after
        (alone.createDimmer options display).after d surface := by
  -- alone, there is nothing on the screen yet that could keep the transaction from closing
  have h_alone : (alone.createDimmer options display).outcome = .ok (.number 0) := by
    rw [createDimmer_of_dark h.dark, h.dimmers]
    rfl
  obtain ⟨message, asking, h_heeded, -, h_creation⟩ :=
    creation_of_granted (s := s) h_options display
  have h_creation' := creation_unnumbered h s options display
  have h_events' : (alone.creation options display).events = [.say .debug message, .opened,
      .requested (Dimmer.request options) none]
        ++ (asking.map Event.unnumbered ++ [.closed]) := by
    rw [h_creation', h_creation]
    unfold Turn.unnumbered
    dsimp only
    rw [List.map_append, List.map_append]
    rfl
  -- before the closing nothing but the number differs
  obtain ⟨h_reports, h_surfaces⟩ := createDimmer_granted (congrArg Turn.events h_creation)
    fun e he => by cases h_heeded e he <;> rfl
  obtain ⟨h_reports', h_surfaces'⟩ := createDimmer_granted h_events' fun e' he' => by
    obtain ⟨e, he, rfl⟩ := List.mem_map.mp he'
    cases h_heeded e he <;> rfl
  -- both have added their surface, and what is asked of it comes to the same
  have h_logger : (alone.asked options).logger = (s.asked options).logger :=
    congrArg Setting.logger h_setting
  have h_added : (alone.asked options).compositor.surfaces[0]?
      = (s.asked options).compositor.surfaces[s.compositor.surfaces.length]? := by
    change (alone.compositor.surfaces ++ [_])[0]? = (s.compositor.surfaces ++ [_])[_]?
    rw [h.surfaces, List.getElem?_concat_length]
    rfl
  obtain ⟨h_said, h_asked⟩ := replay_unnumbered (fun e he => by
    cases h_heeded e he with
    | logged => trivial
    | called => rfl) h_logger h_added
  refine ⟨h_alone, ?_, ?_⟩
  · rw [h_reports, h_reports', h_said, show alone.logger = s.logger from h_logger]
  · -- the dimmers are the last of their sessions
    obtain ⟨rfl, h_dimmers⟩ := dimmers_createDimmer h_made
    obtain ⟨-, h_dimmers'⟩ := dimmers_createDimmer h_alone
    have h_bound : s.compositor.surfaces.length < (s.asked options).compositor.surfaces.length := by
      change _ < (s.compositor.surfaces ++ [_]).length
      rw [List.length_append]
      exact Nat.lt_succ_self _
    obtain ⟨surface, h_stands⟩ := (s.asked options).exists_surface_replay h_bound asking
    refine ⟨(s.creation options display).dimmer, surface, ?_, ?_, ?_, ?_, ?_, ?_, ?_, ?_⟩
    · rw [setting_createDimmer, setting_createDimmer, h_setting]
    · exact h_steady.of_setting (s.setting_createDimmer options display)
    · rw [h_dimmers]
      exact List.getElem?_concat_length
    · rw [h_dimmers', h.dimmers, h_creation']
      rfl
    · rw [h_creation]
      intro handle h_handle
      obtain rfl := Option.some.inj h_handle
      exact s.id_grant options
    · rw [h_surfaces, h_stands]
    · rw [h_surfaces', h_asked, h_stands]
    · intro j d' handle h_d' h_handle h_id
      rw [h_dimmers] at h_d'
      exact h_orderly.only_new h_d' h_handle h_id

end Creation

/-! ### Every session -/

/-- **Dimmers do not disturb each other.** Any dimmers are created and commanded on one compositor,
whose bars are a natural number of cells wide, while transactions are opened and closed, displays
set, and the clock set forward. One of the dimmers is created with resolved options at some point,
and that does not fail for a line which is too long. Then it does not fail, and neither would it if
the others were not there. The dimmer and its surface begin in the same state either way and with
the same log, and so does every command after that answer the same, log the same, and leave the
dimmer and its surface in the same state. -/
theorem separate_of_run (displays : List (Float × Size)) {style : StatusStyle}
    (h_style : style.Natural) (logger : Logger) (now : Float) {prior later : List Action}
    (h_prior : ∀ a ∈ prior, a.Regular) (h_later : ∀ a ∈ later, a.Regular)
    (h_clock : Chronological (now :: prior.filterMap Action.time?))
    {overrides : Options.Overrides} {env : Options.Environment} {options : Options}
    (h_options : Options.resolve overrides env = .ok options) (display : Float) :
    let start : Session :=
      { compositor := .ofDisplays displays style, clock := fun _ => now, logger }
    let before := start.after prior
    let n := before.dimmers.length
    let id := before.compositor.surfaces.length
    let made := before.createDimmer options display
    let made' := (start.after (prior.filterMap (Action.alone n))).createDimmer options display
    made.outcome ≠ .error .textTooLong →
      made.outcome = .ok (.number n) ∧ made'.outcome = .ok (.number 0) ∧
        made.reports.filter (fun report => !report.isLine)
          = made'.reports.filter (fun report => !report.isLine) ∧
        made.after.view n id = made'.after.view 0 0 ∧
        made.after.accounts n id later
          = made'.after.accounts 0 0 (later.filterMap (Action.alone n)) := by
  intro start before n id made made' h_short
  obtain ⟨entries, h_displays⟩ := ofDisplays_eq displays style
  have h_unused : start.Unused := by
    dsimp only [start]
    rw [h_displays]
    exact ⟨rfl, rfl⟩
  have h_orderly : start.Orderly :=
    ⟨tidy_ofDisplays displays style, fun j d handle h_d => by cases h_d⟩
  have h_steady : start.Steady := fun _ => rfl
  -- at the beginning there is neither dimmer nor surface that could be unsound
  have h_drawable : start.Drawable := by
    refine ⟨h_steady, h_clock.finite now List.mem_cons_self, ?_, ?_, ?_⟩
    · intro d hd
      cases hd
    · intro id' surface h_surface
      rw [h_unused.surfaces] at h_surface
      cases h_surface
    · dsimp only [start]
      rw [h_displays]
      exact h_style
  -- nothing but a long line can keep the creation from succeeding
  have h_made : made.outcome = .ok (.number n) := by
    obtain ⟨-, -, ⟨⟨failure, h_error⟩, -⟩ | ⟨h_ok, -⟩⟩ := before.createDimmer_after options display
    · have h_long := textTooLong_of_createDimmer (h_drawable.after h_prior h_clock) h_error
      exact absurd (h_long ▸ h_error) h_short
    · exact h_ok
  -- so far both have come to the same setting, and from here on they are matched
  obtain ⟨h_none, h_setting⟩ := h_unused.after rfl h_steady h_prior n
  obtain ⟨h_made', h_reports, d, surface, h_matched⟩ :=
    matched_createDimmer h_none h_setting (h_drawable.after h_prior h_clock).steady
      (h_orderly.after prior)
      (Options.creationRefusal_of_resolve h_options) h_made
  exact ⟨h_made, h_made', h_reports.symm, h_matched.view_eq.symm,
    (h_matched.accounts_eq h_later).symm⟩

/-- A dimmer that is dimmed fully at once. -/
def dimmedFully : List Action :=
  [.createDimmer 0 {}, .enter, .command 0 (.operate (.present (.number 5) (.number 1) (.number 0))),
    .leave]

/-- Where bars are so wide that they cannot be written, a dimmer cannot be created for another one
that shows. Without the other one it can. -/
theorem disturbed_of_dimmedFully :
    let style : StatusStyle := { barWidth := 1073741824 }
    let start : Session := { compositor := .ofDisplays [(0, ⟨1920, 1080⟩)] style }
    style.Natural ∧ (∀ a ∈ dimmedFully, a.Regular) ∧
      Chronological (0 :: dimmedFully.filterMap Action.time?) ∧
      Options.resolve {} {} = .ok {} ∧
      (start.after dimmedFully).dimmers.length = 1 ∧
      ((start.after dimmedFully).createDimmer {} 0).outcome.toBool = false ∧
      ((start.after (dimmedFully.filterMap (Action.alone 1))).createDimmer {} 0).outcome.toBool
        = true := by
  refine ⟨⟨by decide +kernel, by decide +kernel⟩, ?_, ⟨by decide +kernel, by decide +kernel⟩, rfl,
    by decide +kernel, by decide +kernel, by decide +kernel⟩
  simp [dimmedFully, Action.Regular]

/-- A second dimmer, which dims halfway while the first is dismissed. -/
def dimmedInTurn : List Action :=
  [.enter, .command 1 (.operate (.present (.number 7) (.number 0.5) (.number 100))), .leave,
    .setTime 50, .enter, .command 0 (.operate (.dismiss (.number 0))),
    .command 1 (.operate .advance), .leave, .command 1 .query]

/-- What is left of this for the second dimmer, if the first is not there. -/
def dimmedAlone : List Action :=
  [.enter, .command 0 (.operate (.present (.number 7) (.number 0.5) (.number 100))), .leave,
    .setTime 50, .enter, .command 0 (.operate .advance), .leave, .command 0 .query]

/-- The three commands of the second dimmer come to what they would without the first. -/
theorem separate_of_dimmedInTurn :
    let start : Session := { compositor := .ofDisplays [(0, ⟨1920, 1080⟩)] {} }
    let made := (start.after dimmedFully).createDimmer {} 0
    let made' := (start.after [.enter, .leave]).createDimmer {} 0
    made.outcome.toBool = true ∧ (made.after.accounts 1 1 dimmedInTurn).length = 3 ∧
      made.after.accounts 1 1 dimmedInTurn = made'.after.accounts 0 0 dimmedAlone := by
  intro start made made'
  have h_succeeds : made.outcome.toBool = true := by decide +kernel
  have h_style : StatusStyle.Natural {} := ⟨by decide +kernel, by decide +kernel⟩
  have h_prior : ∀ a ∈ dimmedFully, a.Regular := by simp [dimmedFully, Action.Regular]
  have h_later : ∀ a ∈ dimmedInTurn, a.Regular := by simp [dimmedInTurn, Action.Regular]
  have h_clock : Chronological (0 :: dimmedFully.filterMap Action.time?) :=
    ⟨by decide +kernel, by decide +kernel⟩
  have h_options : Options.resolve {} {} = .ok {} := rfl
  have h_short : made.outcome ≠ .error .textTooLong := by
    intro h_error
    rw [h_error] at h_succeeds
    cases h_succeeds
  obtain ⟨-, -, -, -, h_accounts⟩ := separate_of_run [(0, ⟨1920, 1080⟩)] h_style .captured 0
    h_prior h_later h_clock h_options 0 h_short
  have h_n : (start.after dimmedFully).dimmers.length = 1 := by decide +kernel
  have h_id : (start.after dimmedFully).compositor.surfaces.length = 1 := by decide +kernel
  have h_fully : dimmedFully.filterMap (Action.alone 1) = [.enter, .leave] := rfl
  have h_turn : dimmedInTurn.filterMap (Action.alone 1) = dimmedAlone := rfl
  dsimp only [start] at h_n h_id
  rw [h_n, h_id, h_fully, h_turn] at h_accounts
  exact ⟨h_succeeds, by decide +kernel, h_accounts⟩

end Session

end Scrim

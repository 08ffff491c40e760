import Scrim.Proofs.Dimmer.Pushes
import Scrim.Proofs.Session.Mirror
import Scrim.Proofs.Session.Setting

/-!
# Sessions of dimmers can be drawn

As long as surfaces are left to their dimmers and the clock does not go back, every surface has an
alpha between zero and one (`Session.Drawable`). A frame then fails for no other reason than that a
line is too long, and so does the creation of a dimmer, which closes a transaction of its own
(`Session.textTooLong_of_createDimmer`).
-/

namespace Scrim

open Number Compositor

/-! ### Dimmers on time -/

namespace Chronological

variable {past : List Float} {now : Float}

theorem concat (h : Chronological (past ++ [now])) {next : Float} (h_finite : next.isFinite = true)
    (h_le : now ≤ next) : Chronological (past ++ [now] ++ [next]) where
  finite := List.forall_mem_append.mpr ⟨h.finite, List.forall_mem_singleton.mpr h_finite⟩
  ordered := by
    refine List.pairwise_append.mpr ⟨h.ordered, List.pairwise_singleton _ _, ?_⟩
    intro r hr r' hr'
    obtain rfl := List.mem_singleton.mp hr'
    -- the new reading is not before the last one, and so not before any
    rcases List.mem_append.mp hr with h_past | h_now
    · exact Number.le_trans (h.le_now h_past) h_le
    · obtain rfl := List.mem_singleton.mp h_now
      exact h_le

/-- A clock that stands still does not go back. -/
theorem stand (h : Chronological (past ++ [now])) (times : Nat) :
    Chronological (past ++ List.replicate times now ++ [now]) := by
  induction times with
  | zero => simpa using h
  | succ times ih =>
    rw [List.replicate_succ', ← List.append_assoc]
    exact ih.concat ih.isFinite_now (Number.le_refl (isNaN_of_isFinite ih.isFinite_now))

end Chronological

/-- A dimmer is sound by a clock that now reads this. -/
def Timely (now : Float) (d : Dimmer) : Prop :=
  ∃ past, Chronological (past ++ [now]) ∧ Sound d past

namespace Timely

variable {d : Dimmer} {now : Float}

theorem later (h : Timely now d) {next : Float} (h_finite : next.isFinite = true)
    (h_le : now ≤ next) : Timely next d := by
  obtain ⟨past, h_clock, h_sound⟩ := h
  -- the present reading joins those of the past
  exact ⟨past ++ [now], h_clock.concat h_finite h_le, h_sound.mono [now]⟩

/-- **A step in which the clock stands still keeps a dimmer sound**, and pushes proper alphas. -/
theorem turn (h : Timely now d) {s : Step} (h_reading : ∀ k, s.surroundings.reading k = now) :
    Timely now (d.turn s).dimmer ∧ (d.turn s).Proper := by
  obtain ⟨past, h_clock, h_sound⟩ := h
  -- however often the turn reads the clock, it reads the same
  have h_taken : (d.turn s).taken s.surroundings = List.replicate (d.turn s).readings now := by
    refine List.eq_replicate_iff.mpr ⟨?_, ?_⟩
    · rw [Turn.taken, List.length_map, List.length_range]
    · intro r hr
      obtain ⟨k, -, rfl⟩ := List.mem_map.mp hr
      exact h_reading k
  have h_stand := h_clock.stand (d.turn s).readings
  rw [← h_taken] at h_stand
  refine ⟨⟨_, h_stand, h_sound.turn h_stand.left⟩, h_sound.proper ?_⟩
  rwa [h_reading]

end Timely

theorem inUnit_one : InUnit 1 :=
  ⟨by decide +kernel, Number.le_refl (isNaN_of_isFinite isFinite_one)⟩

namespace Session

variable {s : Session}

/-- A proper event leaves every surface a proper alpha. A new surface has full alpha. -/
theorem keeps_of_proper {e : Event} (h : e.Proper) :
    Keeps (fun surface => InUnit surface.alpha) e := by
  cases e with
  | call id primitive answer =>
    cases answer with
    | none =>
      cases primitive with
      -- the one primitive that sets an alpha sets a proper one
      | alpha alpha => exact fun _ _ => h
      | _ => exact fun _ h => h
    | some failure => trivial
  | requested request answer =>
    cases answer with
    | none => exact inUnit_one
    | some failure => trivial
  | log | opened | closed => trivial

/-- What a creation does leaves a property of every surface that new ones have and that does not
depend on the display. -/
theorem keeps_of_prepares {P : Compositor.Surface → Prop} {options : Options} {display : Float}
    (h_new : P (.ofRequest (Dimmer.request options)))
    (h_bound : ∀ surface, P surface → P { surface with display }) {e : Event}
    (h : Dimmer.Prepares options display e) : Keeps P e := by
  cases h with
  | logged line => trivial
  | requested answer =>
    cases answer with
    | none => exact h_new
    | some failure => trivial
  | bound id answer =>
    cases answer with
    | none => exact h_bound
    | some failure => trivial

/-! ### Drawable sessions -/

/-- Every dimmer is sound, every surface has a proper alpha, and bars can be written. -/
structure Drawable (s : Session) : Prop where
  steady : s.Steady
  finite : s.now.isFinite = true
  timely : ∀ d ∈ s.dimmers, Timely s.now d
  lit : s.compositor.Lit
  natural : s.compositor.style.Natural

namespace Drawable

/-- What keeps the clock and the style, and leaves dimmers that are sound and surfaces that have
proper alphas, keeps a session drawable. -/
theorem of_setting (h : s.Drawable) {s' : Session} (h_setting : s'.setting = s.setting)
    (h_timely : ∀ d ∈ s'.dimmers, Timely s.now d) (h_lit : s'.compositor.Lit) : s'.Drawable := by
  have h_now : s'.now = s.now := congrArg (fun w : Setting => w.clock 0) h_setting
  have h_style : s'.compositor.style = s.compositor.style := congrArg Setting.style h_setting
  exact ⟨h.steady.of_setting h_setting, h_now ▸ h.finite, h_now ▸ h_timely, h_lit,
    h_style ▸ h.natural⟩

/-- **Operations keep a session drawable.** -/
theorem operate (h : s.Drawable) (index : Nat) (operation : Operation) :
    (s.operate index operation).after.Drawable := by
  cases h_d : s.dimmers[index]? with
  | none =>
    unfold Session.operate
    rw [h_d]
    exact h
  | some d =>
    -- the clock stands still, so the turn leaves the setting as it was
    have h_setting := h.steady.setting_operate index operation
    rw [operate_after h_d] at h_setting ⊢
    obtain ⟨h_turn, h_proper⟩ := (h.timely d (List.mem_of_getElem? h_d)).turn
      (s := ⟨operation, s.surroundings d⟩) h.steady
    generalize d.turn ⟨operation, s.surroundings d⟩ = t at h_setting h_turn h_proper ⊢
    let left : Session := { s.drop t.readings with dimmers := s.dimmers.set index t.dimmer }
    refine h.of_setting h_setting ?_ ?_
    · intro d' hd'
      obtain ⟨c, h_after, -⟩ := left.replay_after t.events (fun _ => True) fun _ _ _ _ => trivial
      rw [h_after] at hd'
      -- the dimmer itself has moved on, and the others stand as they did
      rcases List.mem_or_eq_of_mem_set hd' with h_other | rfl
      · exact h.timely d' h_other
      · exact h_turn
    · exact every_replay (s := left) h.lit fun e he => keeps_of_proper (h_proper e he)

/-- **Creations keep a session drawable.** -/
theorem createDimmer (h : s.Drawable) (options : Options) (display : Float) :
    (s.createDimmer options display).after.Drawable := by
  obtain ⟨message, preparing, h_preparing, h_events⟩ := s.creation_eq options display
  obtain ⟨dimmers, h_after, h_outcome⟩ := s.createDimmer_after options display
  refine h.of_setting (s.setting_createDimmer options display) ?_ ?_
  · rw [h_after]
    change ∀ d ∈ dimmers, _
    rcases h_outcome with ⟨-, rfl⟩ | ⟨-, rfl⟩
    · exact h.timely
    · -- the new dimmer has not read the clock yet
      refine List.forall_mem_append.mpr ⟨h.timely, List.forall_mem_singleton.mpr ⟨[], ?_, ?_⟩⟩
      · exact ⟨List.forall_mem_singleton.mpr h.finite, List.pairwise_singleton _ _⟩
      · exact sound_new _ _ _ _
  · rw [h_after, h_events]
    refine every_replay (P := fun surface => InUnit surface.alpha) h.lit ?_
    refine List.forall_mem_append.mpr ⟨?_, List.forall_mem_append.mpr ⟨?_, ?_⟩⟩
    · exact List.forall_mem_cons.mpr ⟨trivial, List.forall_mem_singleton.mpr trivial⟩
    · exact fun e he => keeps_of_prepares inUnit_one (fun _ h => h) (h_preparing e he)
    · exact List.forall_mem_singleton.mpr trivial

theorem stopped (h : s.Drawable) {next : Float} (h_finite : next.isFinite = true)
    (h_le : s.now ≤ next) : (s.stopped next).Drawable where
  steady := s.steady_stopped next
  finite := h_finite
  timely d hd := (h.timely d hd).later h_finite h_le
  lit := h.lit
  natural := h.natural

end Drawable

/-- The clock reads what it was last set to. -/
theorem now_act (h_steady : s.Steady) {action : Action} (h : action.Regular) :
    (act action s).after.now = action.time?.getD s.now := by
  refine (congrArg (fun w : Setting => w.clock 0) (setting_act h_steady h)).trans ?_
  cases action <;> rfl

namespace Drawable

/-- **Every regular action keeps a session drawable**, as long as the clock does not go back. -/
theorem act (h : s.Drawable) {action : Action} (h_regular : action.Regular)
    (h_time : ∀ next, action.time? = some next → next.isFinite = true ∧ s.now ≤ next) :
    (act action s).after.Drawable := by
  cases action with
  | enter | setDisplay => exact ⟨h.steady, h.finite, h.timely, h.lit, h.natural⟩
  | leave =>
    obtain ⟨dirty, h_leave⟩ := s.compositor.leave_after_eq
    refine ⟨h.steady, h.finite, h.timely, h.lit.leave, ?_⟩
    change s.compositor.leave.after.style.Natural
    rw [h_leave]
    exact h.natural
  | setTime next =>
    obtain ⟨h_finite, h_le⟩ := h_time next rfl
    exact h.stopped h_finite h_le
  | createDimmer display options => exact h.createDimmer options display
  | command index command =>
    unfold Session.act
    dsimp only
    cases s.dimmers[index]? with
    | none => exact h
    | some d =>
      cases command with
      | operate operation => exact h.operate index operation
      | query => exact h
      | dump lead => exact h.of_setting (h.steady.setting_drop 1) h.timely h.lit
      | run => exact h_regular.elim
  | create | adopt | issue | surface | status | remove | beginChange | display =>
    exact h_regular.elim

/-- **Every session of dimmers is drawable.** -/
theorem after (h : s.Drawable) {actions : List Action} (h_regular : ∀ a ∈ actions, a.Regular)
    (h_clock : Chronological (s.now :: actions.filterMap Action.time?)) :
    (s.after actions).Drawable := by
  induction actions generalizing s with
  | nil => exact h
  | cons action rest ih =>
    obtain ⟨h_first, h_rest⟩ := List.forall_mem_cons.mp h_regular
    have h_now : (Session.act action s).after.now = action.time?.getD s.now :=
      now_act h.steady h_first
    cases h_time : action.time? with
    | none =>
      -- the clock stands, and is measured against what comes later as before
      rw [List.filterMap_cons_none h_time] at h_clock
      refine ih (h.act h_first fun next h_next => ?_) h_rest ?_
      · cases h_time.symm.trans h_next
      · rwa [h_now, h_time]
    | some next =>
      -- the clock is set forward, and the rest goes on from there
      rw [List.filterMap_cons_some h_time] at h_clock
      refine ih (h.act h_first fun next' h_next => ?_) h_rest ?_
      · obtain rfl := Option.some.inj (h_time.symm.trans h_next)
        exact ⟨h_clock.finite _ (by simp), List.rel_of_pairwise_cons h_clock.ordered (by simp)⟩
      · rw [h_now, h_time]
        exact ⟨(List.forall_mem_cons.mp h_clock.finite).2, h_clock.ordered.of_cons⟩

end Drawable

/-! ### Creations -/

/-- A creation succeeds if and only if the transaction that it opens can be closed. -/
theorem createDimmer_of_closing (s : Session) (options : Options) (display : Float) :
    ∃ inner : Session, inner.setting = s.entered.setting ∧
      (s.entered.compositor.Lit → inner.compositor.Lit) ∧
      (s.entered.compositor.Dark → inner.compositor.Dark) ∧
      (s.createDimmer options display).outcome
        = inner.compositor.leave.outcome.map fun _ => .number s.dimmers.length := by
  obtain ⟨message, preparing, h_preparing, h_events⟩ := s.creation_eq options display
  have h_quiet (e : Event) (he : e ∈ preparing) : e.isTransaction = false :=
    (h_preparing e he).isTransaction
  refine ⟨(s.entered.replay preparing).after, setting_replay _ h_quiet, ?_, ?_, ?_⟩
  · intro h_lit
    exact every_replay h_lit fun e he =>
      keeps_of_prepares inUnit_one (fun _ h => h) (h_preparing e he)
  · intro h_dark
    exact every_replay h_dark fun e he =>
      keeps_of_prepares (P := fun surface => surface.visible = false) rfl (fun _ h => h)
        (h_preparing e he)
  · -- of all that a creation does, only the closing can fail
    have h_outcome : (s.replay (s.creation options display).events).outcome
        = (s.entered.replay preparing).after.compositor.leave.outcome := by
      rw [h_events, s.replay_scope message h_quiet]
      rfl
    unfold createDimmer
    dsimp only
    rw [h_outcome]
    cases (s.entered.replay preparing).after.compositor.leave.outcome with
    | error failure => rfl
    | ok _ => rfl

/-- **A dimmer can be created unless a line is too long.** -/
theorem textTooLong_of_createDimmer (h : s.Drawable) {options : Options} {display : Float}
    {failure : Failure} (h_failed : (s.createDimmer options display).outcome = .error failure) :
    failure = .textTooLong := by
  obtain ⟨inner, h_setting, h_lit, -, h_outcome⟩ := s.createDimmer_of_closing options display
  have h_style : inner.compositor.style = s.compositor.style := congrArg Setting.style h_setting
  have h_depth : inner.compositor.depth = s.compositor.depth + 1 := congrArg Setting.depth h_setting
  rw [h_outcome] at h_failed
  cases h_leave : inner.compositor.leave.outcome with
  | ok _ =>
    rw [h_leave] at h_failed
    cases h_failed
  | error failure' =>
    rw [h_leave] at h_failed
    cases h_failed
    -- the transaction is drawn in the style and among the alphas of a drawable session
    exact textTooLong_of_leave (h_lit h.lit) (h_style ▸ h.natural) (by omega) h_leave

/-- The first dimmer on a dark screen can be created. -/
theorem createDimmer_of_dark (h : s.compositor.Dark) (options : Options) (display : Float) :
    (s.createDimmer options display).outcome = .ok (.number s.dimmers.length) := by
  obtain ⟨inner, h_setting, -, h_dark, h_outcome⟩ := s.createDimmer_of_closing options display
  have h_depth : inner.compositor.depth = s.compositor.depth + 1 := congrArg Setting.depth h_setting
  rw [h_outcome, leave_of_dark (h_dark h) (by omega)]
  rfl

end Session

end Scrim

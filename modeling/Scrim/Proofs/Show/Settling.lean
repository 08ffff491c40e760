import Scrim.Proofs.Options
import Scrim.Proofs.Show.Clock
import Scrim.Proofs.Show.Scenes

/-!
# A show settles

Each tick of a show finds its dimmer on the way to a target, and moves it on. The samples of a fade
are all different, and so each tick shows a line; they lead to the target once the duration of the
fade has passed, and not before (`House.stretch_fade`). There the next fade begins, in the same
instant. The three fades make a run of ticks (`Ticks`), which is all that the show has
(`play_settles`). Lines are counted where they are seen, on the console.
-/

namespace Scrim.Show

open Number

/-! ### Runs of ticks -/

/-- Ticks of a show that is running, with the notices of each. The first `k` ticks came before. -/
inductive Ticks (late : ℕ → Float) : ℕ → Show → List (List Notice) → Show → Prop
  | done (k : ℕ) (s : Show) : Ticks late k s [] s
  | tick {k : ℕ} {s s' : Show} {ticked : List (List Notice)} (running : s.standing = .running)
    (later : Ticks late (k + 1) (s.tick (s.session.now + (frame + late k))).1 ticked s') :
    Ticks late k s ((s.tick (s.session.now + (frame + late k))).2 :: ticked) s'

namespace Ticks

variable {late : ℕ → Float} {k : ℕ} {s s' s'' : Show} {ticked later : List (List Notice)}

theorem one (h_running : s.standing = .running) {notices : List Notice}
    (h : s.tick (s.session.now + (frame + late k)) = (s', notices)) :
    Ticks late k s [notices] s' := by
  have h_one : Ticks late k s _ _ := tick h_running (.done (k + 1) _)
  rwa [h] at h_one

theorem append (h : Ticks late k s ticked s')
    (h_later : Ticks late (k + ticked.length) s' later s'') :
    Ticks late k s (ticked ++ later) s'' := by
  induction h with
  | done k s => exact h_later
  | tick h_running _ ih =>
    refine .tick h_running (ih ?_)
    rwa [List.length_cons, Nat.add_comm _ 1, ← Nat.add_assoc] at h_later

theorem runTicks_of_settled (h : s.standing = .settled) (fuel : ℕ) :
    runTicks late fuel k s = ([], s) := by
  cases fuel with
  | zero => rfl
  | succ fuel =>
    unfold runTicks
    rw [h]

/-- **Ticks that settle a show are all that it has.** -/
theorem runTicks_eq (h : Ticks late k s ticked s') (h_settled : s'.standing = .settled) {fuel : ℕ}
    (h_fuel : ticked.length ≤ fuel) : runTicks late fuel k s = (ticked, s') := by
  induction h generalizing fuel with
  | done k s => exact runTicks_of_settled h_settled fuel
  | tick h_running _ ih =>
    rw [List.length_cons] at h_fuel
    -- there is fuel for one more tick, as one more is needed
    obtain ⟨rest, rfl⟩ := Nat.exists_eq_add_one_of_ne_zero (Nat.ne_zero_of_lt h_fuel)
    have h_rest := ih h_settled (Nat.le_of_succ_le_succ h_fuel)
    unfold runTicks
    rw [h_running]
    dsimp only
    rw [h_rest]

end Ticks

/-- A stretch of ticks, of which each shows one line on the console. -/
structure Stretch (palette : Palette) (late : ℕ → Float) (k n : ℕ) (s : Show)
    (ticked : List (List Notice)) (s' : Show) : Prop where
  ticks : Ticks late k s ticked s'
  length : ticked.length = n
  shown : ∀ notices ∈ ticked, (statuses palette notices).length = 1

theorem Stretch.append {palette : Palette} {late : ℕ → Float} {k m n : ℕ} {s s' s'' : Show}
    {ticked later : List (List Notice)} (h : Stretch palette late k m s ticked s')
    (h_later : Stretch palette late (k + m) n s' later s'') :
    Stretch palette late k (m + n) s (ticked ++ later) s'' where
  ticks := h.ticks.append (h.length ▸ h_later.ticks)
  length := by rw [List.length_append, h.length, h_later.length]
  shown notices h_mem := (List.mem_append.mp h_mem).elim (h.shown notices) (h_later.shown notices)

/-! ### Ticks of a fade -/

/-- The scene in which the dimmer and its surface have taken an alpha. -/
def Scene.moved (c : Scene) (alpha now : Float) : Scene :=
  { c with alpha, applied := alpha, now }

/-- A fade that began at the tick number `k` is on its way, `m` ticks later. -/
structure Scene.Midway (start : Float) (late : ℕ → Float) (due k m : ℕ) (c : Scene) : Prop where
  fade : c.fade.Punctual due
  start_eq : c.start = clock start late k
  now_eq : c.now = clock start late (k + m)
  near : ∃ y : ℕ, span late k m = y ∧ y < due ∧ c.fade.Near y c.alpha

/-- A fade that has just begun is on its way. -/
theorem Scene.midway_of_initial {start : Float} {late : ℕ → Float} {due k : ℕ} {c : Scene}
    (h_fade : c.fade.Punctual due) (h_initial : c.alpha = c.fade.initial)
    (h_start : c.start = clock start late k) (h_now : c.now = clock start late k) :
    c.Midway start late due k 0 :=
  ⟨h_fade, h_start, h_now, 0, by rw [span_zero, Nat.cast_zero], h_fade.one_le,
    h_initial ▸ c.fade.near_initial⟩

section Fade

variable {start : Float} {late : ℕ → Float} {N : ℕ} (h_exact : Exact start late N)
  (h_whole : ∀ k, ∃ n : ℕ, toRat (late k) = n) (v : House) {due k : ℕ}

include h_exact h_whole

namespace Scene.Midway

variable {c : Scene} {m : ℕ} (h : c.Midway start late due k m) (h_le : k + (m + 1) ≤ N)

include h h_le

/-- What the next tick finds is another sample, which is drawn. -/
theorem exists_tick :
    ∃ (y : ℕ) (alpha : Float), span late k (m + 1) = y ∧
      (due ≤ y → (c.fade.target == alpha) = true) ∧ (y < due → c.fade.Near y alpha) ∧
      ∃ notices, (statuses v.palette notices).length = 1 ∧
        (v.during c).tick ((v.during c).session.now + (frame + late (k + m)))
          = let s := v.during (c.moved alpha (clock start late (k + (m + 1))))
            if c.fade.target == alpha then (s.next.1, notices ++ s.next.2) else (s, notices) := by
  obtain ⟨y, h_span, h_early, h_near⟩ := h.near
  obtain ⟨y', h_span'⟩ := exists_natCast_span h_whole k (m + 1)
  -- time has passed since the tick before
  have h_lt : y < y' := by
    have h_mono := strictMono_span h_whole k (Nat.lt_succ_self m)
    rw [h_span', h_span] at h_mono
    exact_mod_cast h_mono
  -- the clock is exact, so the milliseconds since the start of the fade are whole
  have h_elapsed := h_exact.elapsed h_le h_span'
  rw [← h.start_eq] at h_elapsed
  have h_time : (v.during c).session.now + (frame + late (k + m))
      = clock start late (k + (m + 1)) := congrArg (· + (frame + late (k + m))) h.now_eq
  -- what the tick finds
  obtain ⟨alpha, h_sample⟩ : ∃ alpha, (c.fade.timeline c.start).sample c.fade.target
      (clock start late (k + (m + 1))) = alpha := ⟨_, rfl⟩
  have h_alpha : InUnit alpha := h_sample ▸ h.fade.inUnit_sample h_elapsed
  have h_arrived (h_due : due ≤ y') : (c.fade.target == alpha) = true :=
    h_sample ▸ Number.beq_symm (h.fade.sample_beq_target h_elapsed h_due)
  have h_underway (h_early' : y' < due) : c.fade.Near y' alpha :=
    h_sample ▸ h.fade.near_sample h_elapsed h_early'
  -- the dimmer was not at its target, and is not where it was
  have h_animating := h.fade.target_bne_of_near h_early h_near
  have h_ne : (c.alpha == alpha) = false := by
    rcases Nat.lt_or_ge y' due with h_early' | h_due
    · exact h.fade.beq_of_near h_lt h_near (h_underway h_early')
    · refine Bool.eq_false_of_not_eq_true fun h_same => ?_
      rw [bne, Number.beq_trans (h_arrived h_due) (Number.beq_symm h_same)] at h_animating
      cases h_animating
  rw [h_time]
  exact ⟨y', alpha, h_span', h_arrived, h_underway,
    House.tick_during h_alpha h_sample h_animating h_ne⟩

/-- A tick before the end of the fade leads on. -/
theorem tick_early (h_early : span late k (m + 1) < due) :
    ∃ alpha notices, (statuses v.palette notices).length = 1 ∧
      (c.moved alpha (clock start late (k + (m + 1)))).Midway start late due k (m + 1) ∧
      Ticks late (k + m) (v.during c) [notices]
        (v.during (c.moved alpha (clock start late (k + (m + 1))))) := by
  obtain ⟨y, alpha, h_span, -, h_near, notices, h_one, h_tick⟩ :=
    exists_tick h_exact h_whole v h h_le
  rw [h_span] at h_early
  replace h_early : y < due := by exact_mod_cast h_early
  -- the sample is not at the target yet, so nothing begins
  have h_target := h.fade.target_bne_of_near h_early (h_near h_early)
  rw [bne, Bool.not_eq_true'] at h_target
  refine ⟨alpha, notices, h_one, ⟨h.fade, h.start_eq, rfl, y, h_span, h_early, h_near h_early⟩,
    .one rfl ?_⟩
  rw [h_tick, h_target]
  rfl

/-- The tick at the end of the fade finds it at its target, and what comes next begins. -/
theorem tick_due (h_due : due ≤ span late k (m + 1)) :
    ∃ alpha notices, (c.fade.target == alpha) = true ∧ (statuses v.palette notices).length = 1 ∧
      let s := v.during (c.moved alpha (clock start late (k + (m + 1))))
      Ticks late (k + m) (v.during c) [notices ++ s.next.2] s.next.1 := by
  obtain ⟨y, alpha, h_span, h_arrived, -, notices, h_one, h_tick⟩ :=
    exists_tick h_exact h_whole v h h_le
  rw [h_span] at h_due
  have h_target := h_arrived (by exact_mod_cast h_due)
  refine ⟨alpha, notices, h_target, h_one, .one rfl ?_⟩
  rw [h_tick, h_target]
  rfl

end Scene.Midway

/-- **A fade goes on for as many ticks as it takes its duration to pass**, each of which draws one
line. In the last of them begins what comes next. -/
theorem House.stretch_fade {n : ℕ} (h_reaches : Reaches late k due n) (h_le : k + n ≤ N) {c : Scene}
    {m r : ℕ} (h_split : m + (r + 1) = n) (h : c.Midway start late due k m) :
    ∃ alpha ticked notices, (c.fade.target == alpha) = true ∧
      ∀ quiet s, statuses v.palette quiet = [] →
        (v.during (c.moved alpha (clock start late (k + n)))).next = (s, quiet) →
        Stretch v.palette late (k + m) (r + 1) (v.during c) (ticked ++ [notices ++ quiet]) s := by
  -- on the ticks that are left; what has passed of the fade keeps `Midway`
  induction r generalizing c m with
  | zero =>
    subst h_split
    -- the last tick is due
    obtain ⟨alpha, notices, h_target, h_one, h_ticks⟩ :=
      h.tick_due h_exact h_whole v h_le h_reaches.reached
    refine ⟨alpha, [], notices, h_target, fun quiet s h_quiet h_next => ?_⟩
    dsimp only at h_ticks
    rw [h_next] at h_ticks
    refine ⟨h_ticks, rfl, fun drawn h_mem => ?_⟩
    rw [List.mem_singleton.mp h_mem, statuses_append, h_quiet, List.append_nil, h_one]
  | succ r ih =>
    -- any tick before it is early, and leaves one fewer
    obtain ⟨alpha', notices', h_one, h_midway, h_first⟩ :=
      h.tick_early h_exact h_whole v (by omega) (h_reaches.least (m + 1) (by omega))
    have h_stretch : Stretch v.palette late (k + m) 1 (v.during c) [notices'] _ :=
      ⟨h_first, rfl, fun drawn h_mem => List.mem_singleton.mp h_mem ▸ h_one⟩
    obtain ⟨alpha, ticked, notices, h_target, h_later⟩ := ih (by omega) h_midway
    refine ⟨alpha, notices' :: ticked, notices, h_target, fun quiet s h_quiet h_next => ?_⟩
    rw [Nat.add_comm (r + 1) 1]
    exact h_stretch.append (h_later quiet s h_quiet h_next)

/-- A whole fade. -/
theorem House.stretch_whole_fade {n : ℕ} (h_reaches : Reaches late k due n) (h_le : k + n ≤ N)
    {c : Scene} (h : c.Midway start late due k 0) :
    ∃ alpha ticked notices, (c.fade.target == alpha) = true ∧
      ∀ quiet s, statuses v.palette quiet = [] →
        (v.during (c.moved alpha (clock start late (k + n)))).next = (s, quiet) →
        Stretch v.palette late k n (v.during c) (ticked ++ [notices ++ quiet]) s := by
  obtain ⟨r, rfl⟩ := h_reaches.exists_succ h.fade.one_le
  exact stretch_fade h_exact h_whole v h_reaches h_le (Nat.zero_add _) h

end Fade

/-! ### The whole show -/

/-- The second scene. -/
def retargeting (now : Float) : Scene where
  fade := Fade.retarget
  start := now
  alpha := 0.6
  applied := 0.6
  now := now
  upcoming := programme.tail.tail

/-- The last scene. -/
def fadingOut (now : Float) : Scene where
  fade := Fade.fadeOut
  start := now
  alpha := 0.3
  applied := 0.3
  now := now
  upcoming := []

/-- The console calls of an ended show: the release of the surface is announced, and no line is
shown from there on. The dump at the end knows of no surface, and is at zero. -/
def Ended (palette : Palette) (calls : List ConsoleCall) : Prop :=
  ∃ before quiet rest,
    let dump := "  surface=null" :: "   layer=21000 alpha=0" :: rest
    let behind := quiet ++ dump.map fun line => ConsoleCall.plain (palette.paint .dim line)
    behind.filter ConsoleCall.isStatus = [] ∧
      calls = before ++ .plain (palette.paint .cyan ">> release") :: behind

theorem flatMap_calls_dumped (palette : Palette) (dump : List String) :
    (dump.map .dumped).flatMap (Notice.calls palette)
      = dump.map fun line => ConsoleCall.plain (palette.paint .dim line) := by
  rw [List.flatMap_map]
  exact List.map_eq_flatMap.symm

theorem Ended.append {palette : Palette} {calls : List ConsoleCall} (h : Ended palette calls)
    (earlier : List ConsoleCall) : Ended palette (earlier ++ calls) := by
  obtain ⟨before, quiet, rest, h_behind, rfl⟩ := h
  exact ⟨earlier ++ before, quiet, rest, h_behind, by simp only [List.append_assoc]⟩

section Legs

variable {start : Float} {late : ℕ → Float} {N k n : ℕ} (h_exact : Exact start late N)
  (h_whole : ∀ k, ∃ n : ℕ, toRat (late k) = n) (h_le : k + n ≤ N) (v : House)

include h_exact h_whole h_le

/-- The first scene leads to the second, -/
theorem House.stretch_opening (h : Reaches late k 600 n) :
    ∃ ticked, Stretch v.palette late k n (v.during (opening (clock start late k))) ticked
      (v.during (retargeting (clock start late (k + n)))) := by
  obtain ⟨alpha, ticked, notices, h_target, h_stretch⟩ :=
    stretch_whole_fade h_exact h_whole v h h_le
      (Scene.midway_of_initial (c := opening (clock start late k)) Fade.punctual_fadeIn rfl rfl rfl)
  -- what equals 0.6 is 0.6, and the second fade begins there
  obtain rfl : alpha = 0.6 := eq_of_beq_of_nonzero (by decide +kernel) h_target
  obtain ⟨quiet, h_quiet, h_next⟩ :=
    next_present (v := v) (c := (opening (clock start late k)).moved 0.6 (clock start late (k + n)))
      Fade.punctual_retarget h_target rfl rfl rfl
  exact ⟨_, h_stretch quiet _ h_quiet h_next⟩

/-- the second to the last, -/
theorem House.stretch_retargeting (h : Reaches late k 300 n) :
    ∃ ticked, Stretch v.palette late k n (v.during (retargeting (clock start late k))) ticked
      (v.during (fadingOut (clock start late (k + n)))) := by
  obtain ⟨alpha, ticked, notices, h_target, h_stretch⟩ :=
    stretch_whole_fade h_exact h_whole v h h_le
      (Scene.midway_of_initial (c := retargeting (clock start late k)) Fade.punctual_retarget
        rfl rfl rfl)
  -- the last fade begins where the second has come to
  obtain rfl : alpha = 0.3 := eq_of_beq_of_nonzero (by decide +kernel) h_target
  obtain ⟨quiet, h_quiet, h_next⟩ :=
    next_dismiss (v := v)
      (c := (retargeting (clock start late k)).moved 0.3 (clock start late (k + n)))
      Fade.punctual_fadeOut h_target rfl rfl rfl rfl (show (0 : Float) < 0.3 by decide +kernel)
      (show ((0.3 : Float) != 0) = true by decide +kernel)
  exact ⟨_, h_stretch quiet _ h_quiet h_next⟩

/-- and the last to the end. -/
theorem House.stretch_fadingOut (h : Reaches late k 400 n) :
    ∃ ticked s, Stretch v.palette late k n (v.during (fadingOut (clock start late k))) ticked s ∧
      Ended v.palette (ticked.flatten.flatMap (Notice.calls v.palette)) ∧ s.standing = .settled ∧
        s.session.compositor.live = [] := by
  obtain ⟨alpha, ticked, notices, -, h_stretch⟩ :=
    stretch_whole_fade h_exact h_whole v h h_le
      (Scene.midway_of_initial (c := fadingOut (clock start late k)) Fade.punctual_fadeOut
        rfl rfl rfl)
  obtain ⟨s, quiet, rest, h_settled, h_live, h_next, h_quiet, h_dump⟩ :=
    next_release (v := v) (c := (fadingOut (clock start late k)).moved alpha
      (clock start late (k + n))) rfl
  let behind := quiet ++ ("  surface=null" :: "   layer=21000 alpha=0" :: rest).map .dumped
  have h_behind : statuses v.palette behind = [] := by
    rw [statuses_append, h_quiet, h_dump, List.append_nil]
  -- the last tick shows its own line only, the release and the dump none
  have h_shown : statuses v.palette (.announced "release" :: behind) = [] := by
    rw [← List.singleton_append, statuses_append, statuses_announced, h_behind, List.append_nil]
  refine ⟨_, s, h_stretch _ s h_shown h_next, ?_, h_settled, h_live⟩
  rw [List.flatten_append, List.flatten_singleton, List.flatMap_append, List.flatMap_append]
  -- whatever came before, the console ends with the announcement and what is behind it
  refine Ended.append (Ended.append ⟨[], quiet.flatMap (Notice.calls v.palette), rest, ?_, ?_⟩ _) _
  · rwa [statuses, List.flatMap_append, flatMap_calls_dumped] at h_behind
  · rw [List.flatMap_cons, List.flatMap_append, flatMap_calls_dumped]
    rfl

end Legs

/-- **The three fades make a show.** -/
theorem House.stretch_show {start : Float} {late : ℕ → Float} {k₁ k₂ k₃ : ℕ}
    (h_exact : Exact start late (k₁ + k₂ + k₃)) (h_whole : ∀ k, ∃ n : ℕ, toRat (late k) = n)
    (v : House) (h_first : Reaches late 0 600 k₁) (h_second : Reaches late k₁ 300 k₂)
    (h_third : Reaches late (k₁ + k₂) 400 k₃) :
    ∃ ticked s, Stretch v.palette late 0 (k₁ + k₂ + k₃) (v.during (opening start)) ticked s ∧
      Ended v.palette (ticked.flatten.flatMap (Notice.calls v.palette)) ∧ s.standing = .settled ∧
        s.session.compositor.live = [] := by
  obtain ⟨ticked₁, h_opening⟩ := stretch_opening h_exact h_whole (by omega) v h_first
  obtain ⟨ticked₂, h_retargeting⟩ := stretch_retargeting h_exact h_whole (by omega) v h_second
  obtain ⟨ticked₃, s, h_fadingOut, h_ended, h_settled, h_live⟩ :=
    stretch_fadingOut h_exact h_whole (Nat.le_refl _) v h_third
  have h_all := (h_opening.append (by rwa [Nat.zero_add])).append (by rwa [Nat.zero_add])
  refine ⟨_, s, h_all, ?_, h_settled, h_live⟩
  rw [List.flatten_append, List.flatMap_append]
  exact h_ended.append _

/-! ### What a show comes to -/

namespace Playbill

/-- A show has settled after so many ticks: two lines before them, one line at each, and none after
the last; nothing is left on the screen. -/
structure Settles (p : Playbill) (n : ℕ) : Prop where
  standing : p.standing = .settled
  exitCode : p.exitCode = 0
  ticks : p.ticks = n
  opening : (statuses p.palette p.opening).length = 2
  ticked : ∀ notices ∈ p.ticked, (statuses p.palette notices).length = 1
  /-- These are all the lines that are to be seen on the console. -/
  shown : (p.calls.filter ConsoleCall.isStatus).length = 2 + n
  ended : Ended p.palette p.calls
  dark : ∃ s, p.show? = some s ∧ s.session.compositor.live = []

/-- There was no show. What is wrong with its options has been said, and nothing else. -/
structure Declines (p : Playbill) (palette : Palette) (complaints : List String) : Prop where
  calls : p.calls = complaints.map fun complaint =>
    ⟨Level.error.channel, palette.paint .red ("config: " ++ complaint), none⟩
  ticks : p.ticks = 0
  exitCode : p.exitCode = 1

end Playbill

variable {env : Options.Environment} {late : List Float}

/-- A show with options, on an exact clock. -/
theorem settles_of_reaches (h_recognised : env.Recognised)
    (h_room : Text.units (Options.ofEnvironment env).surfaceName + 128 ≤ Compositor.longestText)
    (h_whole : ∀ k, ∃ n : ℕ, toRat (cycle late k) = n) {k₁ k₂ k₃ : ℕ}
    (h_first : Reaches (cycle late) 0 600 k₁) (h_second : Reaches (cycle late) k₁ 300 k₂)
    (h_third : Reaches (cycle late) (k₁ + k₂) 400 k₃) {start : Float}
    (h_exact : Exact start (cycle late) (k₁ + k₂ + k₃)) (palette : Palette) {fuel : ℕ}
    (h_fuel : k₁ + k₂ + k₃ ≤ fuel) :
    (play env palette start late fuel).Settles (k₁ + k₂ + k₃) := by
  have h_options := Options.resolve_of_recognised h_recognised
  obtain ⟨opening, h_opening, h_begun⟩ :=
    first_eq h_room (Options.creationRefusal_of_resolve h_options) palette start
  obtain ⟨ticked, s, h_stretch, h_ended, h_settled, h_live⟩ :=
    (House.of _ palette h_room).stretch_show h_exact h_whole h_first h_second h_third
  -- the ticks end the show before the fuel ends
  have h_run := h_stretch.ticks.runTicks_eq h_settled (h_stretch.length.trans_le h_fuel)
  have h_play : play env palette start late fuel = ⟨palette, opening, ticked, some s⟩ := by
    unfold play
    rw [h_options]
    dsimp only
    rw [h_begun]
    dsimp only
    rw [h_run]
  rw [h_play]
  refine ⟨h_settled, ?_, h_stretch.length, h_opening, h_stretch.shown, ?_, ?_, s, rfl, h_live⟩
  · exact congrArg Standing.exitCode h_settled
  · -- two lines of the opening, and one of each tick
    change (statuses palette (opening ++ ticked.flatten)).length = _
    rw [statuses_append, List.length_append, h_opening, ← h_stretch.length]
    exact congrArg (2 + ·) (length_statuses_flatten h_stretch.shown)
  · unfold Playbill.calls Playbill.notices
    rw [List.flatMap_append]
    exact h_ended.append _

/-- A show without options. -/
theorem declines_of_malformed (h : ¬env.Recognised) (palette : Palette) (start : Float)
    (late : List Float) (fuel : ℕ) :
    (play env palette start late fuel).Declines palette env.complaints := by
  have h_play : play env palette start late fuel
      = ⟨palette, env.complaints.map .complaint, [], none⟩ := by
    unfold play
    rw [(Options.resolve_of_malformed h).1]
  rw [h_play]
  refine ⟨?_, rfl, rfl⟩
  unfold Playbill.calls Playbill.notices
  dsimp only
  rw [List.flatten_nil, List.append_nil, List.flatMap_map]
  exact List.map_eq_flatMap.symm

/-- **A show always comes to its end.** Where the flags of the environment are recognised, it
settles, on an exact clock, after the ticks that its fades take for their durations to pass: 600,
300 and 400 milliseconds, one after the other. Otherwise it does not begin.

The name of the surface goes into every status line, and so it has to leave room in a text for the
rest of the line. No operating system hands over a name that comes near what a text can hold. -/
theorem play_settles (env : Options.Environment) (palette : Palette) (start : Float)
    {late : List Float} (h_late : late ≠ []) (h_whole : ∀ x ∈ late, Integral x ∧ 0 ≤ x) :
    (env.Recognised →
      Text.units (Options.ofEnvironment env).surfaceName + 128 ≤ Compositor.longestText →
        ∃ k₁ k₂ k₃, Reaches (cycle late) 0 600 k₁ ∧ Reaches (cycle late) k₁ 300 k₂ ∧
          Reaches (cycle late) (k₁ + k₂) 400 k₃ ∧ k₁ ≤ 12 ∧ k₂ ≤ 6 ∧ k₃ ≤ 8 ∧
          (Exact start (cycle late) (k₁ + k₂ + k₃) → ∀ fuel ≥ k₁ + k₂ + k₃,
            (play env palette start late fuel).Settles (k₁ + k₂ + k₃))) ∧
      (¬env.Recognised → env.complaints ≠ [] ∧ ∀ fuel,
        (play env palette start late fuel).Declines palette env.complaints) := by
  have h_cycle := exists_natCast_cycle h_late h_whole
  refine ⟨fun h_recognised h_room => ?_, fun h_malformed => ⟨(Options.resolve_of_malformed
    h_malformed).2, declines_of_malformed h_malformed palette start late⟩⟩
  -- twelve, six and eight frames make the durations, and so as many ticks are enough
  obtain ⟨k₁, h_le₁, h_first⟩ := exists_reaches h_cycle 0 12
  obtain ⟨k₂, h_le₂, h_second⟩ := exists_reaches h_cycle k₁ 6
  obtain ⟨k₃, h_le₃, h_third⟩ := exists_reaches h_cycle (k₁ + k₂) 8
  exact ⟨k₁, k₂, k₃, h_first, h_second, h_third, h_le₁, h_le₂, h_le₃, fun h_exact _ h_fuel =>
    settles_of_reaches h_recognised h_room h_cycle h_first h_second h_third h_exact palette h_fuel⟩

/-- Ticks that come late now and then. -/
def unsteady : List Float :=
  [0, 35, 7]

/-- An environment that asks for details. -/
def talkative : Options.Environment where
  debug := some " ON "
  surfaceName := some " Veil "

/-- **An unsteady show has ten ticks, then five, then seven.** With a flag that says nothing there
is none. -/
theorem settles_unsteady :
    (∀ fuel ≥ 22, (play talkative ⟨true⟩ 1000 unsteady fuel).Settles 22) ∧
      ∀ fuel, (play { debug := some "maybe" } ⟨true⟩ 1000 unsteady fuel).Declines ⟨true⟩
        ["DIMMER_DEBUG must be a boolean flag, got \"maybe\""] := by
  have h_late : unsteady ≠ [] := List.cons_ne_nil 0 [35, 7]
  have h_whole : ∀ x ∈ unsteady, Integral x ∧ 0 ≤ x := by
    have h_all : ∀ x ∈ unsteady, isWhole x = true ∧ 0 ≤ x := by decide +kernel
    exact fun x h_x => (h_all x h_x).imp_left isWhole_iff.mp
  constructor
  · have h_recognised : talkative.Recognised :=
      Options.Environment.complaints_eq_nil_iff.mp (by decide +kernel)
    obtain ⟨k₁, k₂, k₃, h_first, h_second, h_third, -, -, -, h_settles⟩ :=
      (play_settles talkative ⟨true⟩ 1000 h_late h_whole).1 h_recognised (by decide +kernel)
    obtain rfl : k₁ = 10 := h_first.unique ⟨by decide +kernel, by decide +kernel⟩
    obtain rfl : k₂ = 5 := h_second.unique ⟨by decide +kernel, by decide +kernel⟩
    obtain rfl : k₃ = 7 := h_third.unique ⟨by decide +kernel, by decide +kernel⟩
    refine h_settles ?_
    unfold Exact
    decide +kernel
  · have h_complaints : Options.Environment.complaints { debug := some "maybe" }
        = ["DIMMER_DEBUG must be a boolean flag, got \"maybe\""] := by decide +kernel
    have h_malformed : ¬Options.Environment.Recognised { debug := some "maybe" } :=
      mt Options.Environment.complaints_eq_nil_iff.mpr
        (by rw [h_complaints]; exact List.cons_ne_nil _ _)
    have h_declines := (play_settles { debug := some "maybe" } ⟨true⟩ 1000 h_late h_whole).2
      h_malformed
    rw [h_complaints] at h_declines
    exact h_declines.2

end Scrim.Show

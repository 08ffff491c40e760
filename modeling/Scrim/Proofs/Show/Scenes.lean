import Scrim.Proofs.Compositor.Bars
import Scrim.Proofs.Dimmer.Primitives
import Scrim.Proofs.Show.Fades
import Scrim.Proofs.Show.Stage

/-!
# The scenes of the show

While a fade of the show is under way, everything is known but the numbers: a `Scene`. A tick that
finds a new sample moves the scene on and draws one line (`House.tick_during`). The beginning of the
next fade changes the scene without drawing anything, and the release ends the show.
-/

namespace Scrim.Show

open Number Compositor

/-! ### Scenes -/

/-- What stays the same through a show. The name of the surface leaves room for a status line. -/
structure House where
  palette : Palette
  logger : Logger
  handle : Handle
  id_eq : handle.id = 0
  room : Text.units handle.name + 128 ≤ longestText

/-- The numbers of a show in which a fade is under way. -/
structure Scene where
  fade : Fade
  start : Float
  /-- The alpha of the dimmer. -/
  alpha : Float
  /-- The alpha of the surface, which the dimmer does not set before its first tick. -/
  applied : Float
  now : Float
  upcoming : List Act

/-- How the show is placed. -/
def placing : Placing :=
  ⟨⟨1920, 1080⟩, layer⟩

namespace House

variable (v : House)

/-- The dimmer in a scene. -/
def dimmer (c : Scene) : Dimmer where
  display := 0
  handle := some v.handle
  alpha := c.alpha
  target := c.fade.target
  timeline := c.fade.timeline c.start
  footprint := placing.footprint
  showing := decide (0 < c.alpha)

/-- The surface of the show, placed over its display. -/
def cover (alpha : Float) (visible : Bool) : Compositor.Surface where
  name := v.handle.name
  x := placing.placement.x
  y := placing.placement.y
  width := placing.placement.width
  height := placing.placement.height
  layer := layer
  alpha := alpha
  visible := visible

/-- The show in a scene. -/
def during (c : Scene) : Show where
  session := stand v.palette v.logger c.now (v.dimmer c) (v.cover c.applied (decide (0 < c.alpha)))
  upcoming := c.upcoming

theorem staged (c : Scene) (alpha : Float) (visible : Bool) :
    Staged (v.dimmer c) (v.cover alpha visible) where
  display := rfl
  holds := ⟨v.handle, rfl, v.id_eq⟩
  lasting := rfl

/-- **The line of the surface can be written.** -/
theorem exists_line {alpha : Float} (h_alpha : InUnit alpha) (visible : Bool) :
    ∃ line, ({ palette := v.palette } : StatusStyle).line (v.cover alpha visible) = .ok line := by
  have h_natural : ({ palette := v.palette } : StatusStyle).Natural := {
    whole := show isWhole 20 = true by decide +kernel
    nonneg := show (0 : Float) ≤ 20 by decide +kernel }
  have h_twenty : toRat 20 = (20 : ℕ) := by decide +kernel
  -- apart from the name, the head of the line is always the same, and the bar is twenty cells wide
  refine StatusStyle.exists_line h_natural h_twenty (fun _ => h_alpha) ?_
  have h_room := v.room
  have h_head : StatusStyle.head (v.cover alpha visible)
      = v.handle.name ++ " display=0 layer=21000 2880x1620@(-480,-270)" := by
    have h_display : Number.text 0 = "0" := by decide +kernel
    have h_layer : Number.text layer = "21000" := by decide +kernel
    have h_width : Number.text placing.placement.width = "2880" := by decide +kernel
    have h_height : Number.text placing.placement.height = "1620" := by decide +kernel
    have h_x : Number.text placing.placement.x = "-480" := by decide +kernel
    have h_y : Number.text placing.placement.y = "-270" := by decide +kernel
    unfold StatusStyle.head cover
    dsimp only
    rw [h_display, h_layer, h_width, h_height, h_x, h_y]
    simp only [String.append_assoc]
    rfl
  have h_place : Text.units " display=0 layer=21000 2880x1620@(-480,-270)" = 44 := by decide
  rw [h_head, Text.units_append, h_place]
  omega

/-! ### Ticks -/

section Tick

variable {v} {c : Scene} {alpha : Float} (h_alpha : InUnit alpha)

include h_alpha

/-- The dimmer shows above zero, and only there. -/
theorem visibilityAt_getD :
    ((v.dimmer c).visibilityAt alpha).getD (v.dimmer c).showing = decide (0 < alpha) := by
  rw [Bool.eq_iff_iff, decide_eq_true_iff]
  exact Dimmer.visibilityAt_getD h_alpha

/-- The surface takes over an alpha and the visibility that goes with it. -/
theorem afterAll_cover :
    (v.cover c.applied (decide (0 < c.alpha))).afterAll
        (Guarded.applying alpha ((v.dimmer c).visibilityAt alpha)).primitives
      = v.cover alpha (decide (0 < alpha)) := by
  have h_visible : ((v.dimmer c).visibilityAt alpha).getD (decide (0 < c.alpha)) = _ :=
    visibilityAt_getD h_alpha
  generalize (v.dimmer c).visibilityAt alpha = change at h_visible
  rw [← h_visible]
  -- the surface is shown, hidden, or left as it was
  rcases change with - | - | - <;> rfl

/-- An advance that finds a new sample. -/
theorem passed_advance {now : Float}
    (h_sample : (c.fade.timeline c.start).sample c.fade.target now = alpha)
    (h_animating : (c.fade.target != c.alpha) = true) (h_ne : (c.alpha == alpha) = false) :
    ∃ call, Passed (inTransaction ((v.during c).session.stopped now) .advance)
      (v.during { c with alpha, applied := alpha, now }).session (c.fade.target == alpha)
        [call] := by
  let c' : Scene := { c with alpha, applied := alpha, now }
  let turn := (v.dimmer c).turn ⟨.advance, .calm now⟩
  have h_place : (v.dimmer c).timeline.sample (v.dimmer c).target (Surroundings.calm now).time
      = alpha := h_sample
  have h_turn := Dimmer.turn_tick_of_ne (d := v.dimmer c) (Surroundings.accepting_calm now) rfl
    h_animating
  rw [h_place] at h_turn
  obtain ⟨h_dimmer, h_primitives⟩ := h_turn h_ne
  rw [visibilityAt_getD h_alpha] at h_dimmer
  replace h_dimmer : turn.dimmer = v.dimmer c' := h_dimmer
  -- the tick answers whether the dimmer is still on its way
  have h_ok : (v.dimmer c).answer ⟨.advance, .calm now⟩ = .ok (some (c.fade.target != alpha)) := by
    refine (Dimmer.answer_tick (Surroundings.describable_calm now) (v.dimmer c)).trans ?_
    change Except.ok (some turn.dimmer.isAnimating) = _
    rw [h_dimmer]
    rfl
  -- an alpha and a visibility do not end the surface
  have h_lasting :
      .destroy ∉ (Guarded.applying alpha ((v.dimmer c).visibilityAt alpha)).primitives := by
    rcases (v.dimmer c).visibilityAt alpha with - | - | - <;>
      simp [Guarded.primitives, Primitive.ofVisibility]
  have h_resting : (some (c.fade.target != alpha) == some false) = (c.fade.target == alpha) := by
    rw [bne]
    cases c.fade.target == alpha <;> rfl
  obtain ⟨line, h_line⟩ := v.exists_line h_alpha (decide (0 < alpha))
  have h_passed := passed_drawing v.logger (v.staged c c.applied (decide (0 < c.alpha))) h_ok
    h_dimmer h_primitives (List.cons_ne_nil _ _) h_lasting (afterAll_cover h_alpha) h_line
  rw [h_resting] at h_passed
  exact ⟨_, h_passed⟩

end Tick

end House

/-- What a tick comes to, if its transaction went through. -/
theorem tick_of_passed {s : Show} {now : Float} {s' : Session} {resting : Bool}
    {shown : List ConsoleCall}
    (h : Passed (inTransaction (s.session.stopped now) .advance) s' resting shown)
    (palette : Palette) :
    ∃ notices, statuses palette notices = shown ∧
      s.tick now
        = let s := { s with session := s' }
          if resting then (s.next.1, notices ++ s.next.2) else (s, notices) := by
  refine ⟨_, (statuses_reported palette _).trans h.shown, ?_⟩
  unfold tick
  dsimp only
  rw [h.failure?, h.atRest, h.after]
  rfl

/-- A number goes on if its transaction went through. -/
theorem carryOut_of_passed {s : Show} {act : Act} {s' : Session} {resting : Bool}
    {shown : List ConsoleCall} (h : Passed (inTransaction s.session act.operation) s' resting shown)
    (palette : Palette) :
    ∃ notices, statuses palette notices = shown ∧ ∀ onward,
      s.carryOut act onward
        = let gone := onward { s with session := s' }
          (gone.1, .announced act.label :: notices ++ gone.2) := by
  refine ⟨_, (statuses_reported palette _).trans h.shown, fun onward => ?_⟩
  unfold carryOut
  dsimp only
  rw [h.failure?, h.after]
  rfl

/-- What the beginning of the next number comes to, if its transaction went through. -/
theorem next_of_passed {s : Show} {act : Act} {rest : List Act}
    (h_upcoming : s.upcoming = act :: rest) {s' : Session} {resting : Bool}
    {shown : List ConsoleCall} (h : Passed (inTransaction s.session act.operation) s' resting shown)
    (palette : Palette) :
    ∃ notices, statuses palette notices = shown ∧
      s.next = ({ s with session := s', upcoming := rest }, notices) := by
  obtain ⟨notices, h_shown, h_onward⟩ :=
    carryOut_of_passed (s := { s with upcoming := rest }) h palette
  refine ⟨.announced act.label :: notices ++ [], ?_, ?_⟩
  · rw [List.append_nil, ← List.singleton_append, statuses_append, statuses_announced, h_shown]
    rfl
  · unfold next
    rw [h_upcoming]
    exact h_onward _

/-- **A tick that finds a new sample draws it.** If that is at the target, what comes next begins in
the same instant. -/
theorem House.tick_during {v : House} {c : Scene} {now alpha : Float} (h_alpha : InUnit alpha)
    (h_sample : (c.fade.timeline c.start).sample c.fade.target now = alpha)
    (h_animating : (c.fade.target != c.alpha) = true) (h_ne : (c.alpha == alpha) = false) :
    ∃ notices, (statuses v.palette notices).length = 1 ∧
      (v.during c).tick now
        = let s := v.during { c with alpha, applied := alpha, now }
          if c.fade.target == alpha then (s.next.1, notices ++ s.next.2) else (s, notices) := by
  obtain ⟨call, h_passed⟩ := passed_advance (v := v) h_alpha h_sample h_animating h_ne
  obtain ⟨notices, h_shown, h_tick⟩ := tick_of_passed h_passed v.palette
  exact ⟨notices, congrArg List.length h_shown, h_tick⟩

/-! ### What comes next -/

namespace House

variable {v : House} {c : Scene} {g : Fade}

/-- A number that begins a fade and issues nothing draws nothing. -/
theorem next_of_turn {act : Act} {rest : List Act} (h_upcoming : c.upcoming = act :: rest)
    (h_ok : (v.dimmer c).answer ⟨act.operation, .calm c.now⟩ = .ok none)
    (h_dimmer : ((v.dimmer c).turn ⟨act.operation, .calm c.now⟩).dimmer
      = v.dimmer { c with fade := g, start := c.now })
    (h_primitives : ((v.dimmer c).turn ⟨act.operation, .calm c.now⟩).primitives = []) :
    ∃ notices, statuses v.palette notices = [] ∧ (v.during c).next
      = (v.during { c with fade := g, start := c.now, upcoming := rest }, notices) :=
  next_of_passed (s := v.during c) h_upcoming (passed_quietly v.logger
    (v.staged c c.applied (decide (0 < c.alpha))) h_ok h_dimmer h_primitives) v.palette

section Begin

variable {due : ℕ} (h_g : g.Punctual due) (h_rests : (c.fade.target == c.alpha) = true)
  (h_initial : c.alpha = g.initial)

include h_g h_rests h_initial

/-- A request for a fade that begins where the last one has ended. -/
theorem present_during {t : Turn} (h_t : t.dimmer = v.dimmer c) (h_going : t.failure = none) :
    let t' := t.present (.calm c.now) ⟨layer, g.target, g.duration⟩
    t'.dimmer = v.dimmer { c with fade := g, start := c.now } ∧ t'.primitives = t.primitives := by
  let request : PresentRequest := ⟨layer, g.target, g.duration⟩
  have h_handle : t.dimmer.handle = some v.handle := by
    rw [h_t]
    rfl
  have h_idle : t.dimmer.isAnimating = false := by
    rw [h_t, Dimmer.isAnimating, bne, Bool.not_eq_false']
    exact h_rests
  have h_away : (t.dimmer.alpha != request.alpha) = true := by
    rw [h_t]
    change (c.alpha != g.target) = true
    rw [h_initial]
    exact h_g.ne
  -- the fade takes time, so the request does not apply at once
  have h_lasting : ¬request.duration ≤ 0 :=
    Number.not_le_of_lt (Number.lt_of_lt_of_le (by decide +kernel) h_g.one_le_duration)
  obtain ⟨message, h_dimmer, h_primitives⟩ :=
    Turn.present_of_away (Surroundings.describable_calm c.now) h_going h_handle h_idle h_away
      h_lasting
  -- the surface is in its place already
  have h_place : (t.debug message).place (.calm c.now) v.handle layer = t.debug message := by
    refine Turn.place_of_same (show (Surroundings.calm c.now).display = some ⟨1920, 1080⟩ from rfl)
      ?_
    rw [Turn.dimmer_debug, h_t]
    change placing.footprint.differs placing.footprint = false
    decide +kernel
  rw [show request.layer = layer from rfl, h_place, Turn.dimmer_debug, h_t] at h_dimmer
  rw [show request.layer = layer from rfl, h_place, Turn.debug, Turn.primitives_say] at h_primitives
  -- the fade starts from the alpha of the dimmer, which is its own beginning
  have h_timeline : (⟨c.alpha, c.now, g.duration⟩ : Timeline) = g.timeline c.now := by
    rw [h_initial]
    rfl
  exact ⟨h_dimmer.trans (congrArg (fun timeline : Timeline =>
    { v.dimmer c with timeline, target := g.target }) h_timeline), h_primitives⟩

/-- **The next fade begins without a line.** -/
theorem next_present {label : String} {rest : List Act}
    (h_upcoming : c.upcoming
      = ⟨label, .present (.number layer) (.number g.target) (.number g.duration)⟩ :: rest)
    (h_check : PresentRequest.check (.number layer) (.number g.target) (.number g.duration)
      = .ok ⟨layer, g.target, g.duration⟩) :
    ∃ notices, statuses v.palette notices = [] ∧ (v.during c).next
      = (v.during { c with fade := g, start := c.now, upcoming := rest }, notices) := by
  have h_turn := Dimmer.turn_present h_check (v.dimmer c) (.calm c.now)
  obtain ⟨h_dimmer, h_primitives⟩ :=
    present_during (t := { dimmer := v.dimmer c }) h_g h_rests h_initial rfl rfl
  have h_answer := (v.dimmer c).answer_present (Surroundings.describable_calm c.now) h_check
  exact next_of_turn h_upcoming h_answer (h_turn ▸ h_dimmer) (h_turn ▸ h_primitives)

/-- **And so does the last one**, which leads to zero. -/
theorem next_dismiss {label : String} {rest : List Act}
    (h_upcoming : c.upcoming = ⟨label, .dismiss (.number g.duration)⟩ :: rest)
    (h_check : DismissRequest.check (.number g.duration) = .ok ⟨g.duration⟩)
    (h_zero : g.target = 0) (h_showing : 0 < c.alpha) (h_target : (c.fade.target != 0) = true) :
    ∃ notices, statuses v.palette notices = [] ∧ (v.during c).next
      = (v.during { c with fade := g, start := c.now, upcoming := rest }, notices) := by
  let t : Turn := { dimmer := v.dimmer c }
  have h_turn := Dimmer.turn_dismiss h_check (v.dimmer c) (.calm c.now)
  -- the dimmer shows and is not on its way to zero, so it is to fade out
  have h_dismiss : t.dismiss (.calm c.now) ⟨g.duration⟩ = t.fadeOut (.calm c.now) g.duration := by
    rw [Turn.dismiss_of_showing (t := t) rfl (decide_eq_true h_showing)]
    exact if_pos h_target
  obtain ⟨message, h_fadeOut⟩ := t.fadeOut_eq (.calm c.now) g.duration
  -- which is to present it at zero
  obtain ⟨h_dimmer, h_primitives⟩ :=
    present_during (t := t.debug message) h_g h_rests h_initial rfl rfl
  rw [h_zero] at h_dimmer h_primitives
  rw [h_dismiss, h_fadeOut] at h_turn
  have h_answer := (v.dimmer c).answer_dismiss (Surroundings.describable_calm c.now) h_check
  exact next_of_turn h_upcoming h_answer (h_turn ▸ h_dimmer) (h_turn ▸ h_primitives)

end Begin

/-- The dump of the dimmer once it has let go of its surface. -/
theorem exists_dump {d : Dimmer} (h_handle : d.handle = none) (h_layer : d.footprint.layer = layer)
    (h_alpha : d.alpha = 0) (now : Float) :
    ∃ rest, d.dump "  " now = "  surface=null" :: "   layer=21000 alpha=0" :: rest := by
  have h_layerText : Number.text layer = "21000" := by decide +kernel
  have h_alphaText : Number.text 0 = "0" := by decide +kernel
  unfold Dimmer.dump
  dsimp only
  rw [h_handle, h_layer, h_alpha, h_layerText, h_alphaText]
  exact ⟨_, rfl⟩

/-- **Without a further number the show is over**: nothing is on the screen, and no further line is
shown. The dump knows of no surface and is at zero. -/
theorem next_release (h_upcoming : c.upcoming = []) :
    ∃ s quiet rest, s.standing = .settled ∧ s.session.compositor.live = [] ∧
      (v.during c).next = (s, .announced "release" :: quiet ++
        ("  surface=null" :: "   layer=21000 alpha=0" :: rest).map Notice.dumped) ∧
      statuses v.palette quiet = [] ∧ statuses v.palette
        (("  surface=null" :: "   layer=21000 alpha=0" :: rest).map Notice.dumped) = [] := by
  let d : Dimmer := { (v.dimmer c).collapsed with handle := none, showing := false }
  let cleared := stand v.palette v.logger c.now d
    ((v.cover c.applied (decide (0 < c.alpha))).after .destroy)
  let s : Show := { v.during c with
    session := { cleared with compositor := { cleared.compositor with live := [] } } }
  have h_staged := v.staged c c.applied (decide (0 < c.alpha))
  have h_passed : Passed (inTransaction (v.during c).session .release) s.session false [] :=
    passed_release h_staged
  obtain ⟨quiet, h_quiet, h_onward⟩ := carryOut_of_passed (s := v.during c)
    (show Passed (inTransaction _ (Act.mk "release" .release).operation) _ _ _ from h_passed)
    v.palette
  obtain ⟨rest, h_dump⟩ := exists_dump (d := d) rfl rfl rfl c.now
  -- there is no further number, so the surface is released and the show concluded
  have h_next : (v.during c).next = (v.during c).carryOut ⟨"release", .release⟩ conclude := by
    unfold next
    split
    · next h_more => cases h_upcoming.symm.trans h_more
    · rfl
  refine ⟨{ s with standing := .settled }, quiet, rest, rfl, rfl, ?_, h_quiet, ?_⟩
  · rw [← h_dump, h_next, h_onward]
    exact congrArg (fun dump : List String => (({ s with standing := .settled },
      .announced "release" :: quiet ++ dump.map Notice.dumped) : Show × List Notice))
      (List.append_nil _)
  · rw [← h_dump]
    exact statuses_dumped v.palette (not_mem_dump rfl c.now)

end House

/-! ### The opening -/

theorem name_hold (options : Options) : (hold options).name = options.surfaceName := by
  unfold hold Dimmer.hold
  split <;> rfl

/-- The house of a show with these options. -/
def House.of (options : Options) (palette : Palette)
    (h_room : Text.units options.surfaceName + 128 ≤ longestText) : House where
  palette := palette
  logger := .console "OverlayDimmer" options.debug
  handle := hold options
  id_eq := id_hold options
  room := by rwa [name_hold]

/-- The first scene. -/
def opening (now : Float) : Scene where
  fade := Fade.fadeIn
  start := now
  alpha := 0
  applied := 1
  now := now
  upcoming := programme.tail

theorem check_first : PresentRequest.check (.number layer) (.number 0.6) (.number 600)
    = .ok ⟨layer, 0.6, 600⟩ :=
  rfl

/-- The first number starts a timeline and places the surface. -/
theorem House.turn_first (v : House) (now : Float) :
    let turn := ({ display := 0, handle := some v.handle } : Dimmer).turn
      ⟨.present (.number layer) (.number 0.6) (.number 600), .calm now⟩
    turn.dimmer = v.dimmer (opening now) ∧
      turn.primitives = (Guarded.placing placing).primitives := by
  intro turn
  let d : Dimmer := { display := 0, handle := some v.handle }
  let request : PresentRequest := ⟨layer, 0.6, 600⟩
  have h_turn : turn = _ := Dimmer.turn_present check_first d (.calm now)
  obtain ⟨message, h_dimmer, h_primitives⟩ := Turn.present_of_away (t := { dimmer := d })
    (Surroundings.describable_calm now) rfl rfl (show ((0 : Float) != 0) = false by decide +kernel)
    (show ((0 : Float) != request.alpha) = true by decide +kernel)
    (show ¬request.duration ≤ 0 by decide +kernel)
  obtain ⟨h_place, h_placing⟩ := Turn.place_of_accepting (t := Turn.debug { dimmer := d } message)
    (Surroundings.accepting_calm now)
    (show (Surroundings.calm now).display = some ⟨1920, 1080⟩ from rfl)
    (show Footprint.differs {} placing.footprint = true by decide +kernel) v.handle
  rw [Turn.debug, Turn.primitives_say] at h_placing
  refine ⟨?_, ?_⟩
  · have h_hidden : decide ((0 : Float) < 0) = false := by decide +kernel
    -- the dimmer is hidden in the first scene, as it was before
    rw [h_turn, h_dimmer, h_place]
    change _ = { v.dimmer (opening now) with showing := decide ((0 : Float) < 0) }
    rw [h_hidden]
    rfl
  · rw [h_turn, h_primitives]
    exact h_placing

section Opening

variable {options : Options} (h_room : Text.units options.surfaceName + 128 ≤ longestText)

/-- The first number goes through, and draws the surface in its place. -/
theorem passed_first (palette : Palette) (now : Float) :
    let v := House.of options palette h_room
    ∃ call, Passed (inTransaction
        (stand palette v.logger now { display := 0, handle := some v.handle }
          (.ofRequest (Dimmer.request options)))
        (.present (.number layer) (.number 0.6) (.number 600)))
      (v.during (opening now)).session false [call] := by
  intro v
  let d : Dimmer := { display := 0, handle := some v.handle }
  have h_staged : Staged d (.ofRequest (Dimmer.request options)) :=
    ⟨rfl, ⟨v.handle, rfl, v.id_eq⟩, rfl⟩
  obtain ⟨h_dimmer, h_primitives⟩ := v.turn_first now
  have h_surface : (Surface.ofRequest (Dimmer.request options)).afterAll
      (Guarded.placing placing).primitives = v.cover 1 (decide ((0 : Float) < 0)) := by
    have h_hidden : decide ((0 : Float) < 0) = false := by decide +kernel
    rw [h_hidden]
    change _ = { v.cover 1 false with name := (hold options).name }
    rw [name_hold]
    rfl
  obtain ⟨line, h_line⟩ := v.exists_line inUnit_one (decide ((0 : Float) < 0))
  have h_answer := d.answer_present (Surroundings.describable_calm now) check_first
  exact ⟨_, passed_drawing v.logger h_staged h_answer h_dimmer h_primitives
    (List.cons_ne_nil _ _) (by simp [Guarded.primitives]) h_surface h_line⟩

/-- **The show opens with two lines**, of the creation and of the first placement. -/
theorem first_eq (h : creationRefusal (Dimmer.request options) = none) (palette : Palette)
    (now : Float) :
    ∃ notices, (statuses palette notices).length = 2 ∧ first options palette now
      = ((House.of options palette h_room).during (opening now), notices) := by
  let v := House.of options palette h_room
  obtain ⟨h_after, h_outcome, h_created⟩ := createDimmer_stage h palette now
  obtain ⟨line, h_passed⟩ := passed_first h_room palette now
  obtain ⟨notices, h_shown, h_next⟩ := next_of_passed
    (s := { session := stand palette v.logger now { display := 0, handle := some v.handle }
              (.ofRequest (Dimmer.request options))
            upcoming := programme }) rfl h_passed palette
  refine ⟨((stage options palette now).createDimmer options 0).reports.map .reported ++ notices,
    ?_, ?_⟩
  · rw [statuses_append, statuses_reported, List.length_append, h_created, h_shown]
    rfl
  · unfold first
    dsimp only
    -- the creation did not fail, and so the first number follows
    rw [h_outcome, h_after]
    exact congrArg (fun begun : Show × List Notice => (begun.1, _ ++ begun.2)) h_next

end Opening

end Scrim.Show

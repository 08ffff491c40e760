import Scrim.Proofs.Dimmer.Primitives
import Scrim.Proofs.Session.Separation
import Scrim.Proofs.Show.Console

/-!
# A dimmer on the stage

On the stage of a show there is one dimmer with one surface (`Show.stand`). An operation in a
transaction of its own is the dimmer's turn in calm surroundings, of which the surface takes over
all primitives. It draws the surface once if there were any, and nothing otherwise
(`Show.passed_stand`).
-/

namespace Scrim

open Compositor

/-! ### Primitives on the only surface -/

namespace Compositor

/-- The compositor after several accepted primitives on the first surface. -/
def acceptAll (c : Compositor) (primitives : List Primitive) : Compositor :=
  primitives.foldl (fun c primitive => c.accept 0 primitive) c

/-- The surface after several accepted primitives. -/
def Surface.afterAll (s : Surface) (primitives : List Primitive) : Surface :=
  primitives.foldl Surface.after s

/-- The only surface takes over what it is told, unless that is to end it. -/
theorem acceptAll_eq {primitives : List Primitive} (h : .destroy ∉ primitives) (c : Compositor)
    (surface : Surface) (h_only : c.surfaces = [surface]) :
    c.acceptAll primitives = { c with
      surfaces := [surface.afterAll primitives], dirty := c.dirty || !primitives.isEmpty } := by
  induction primitives generalizing c surface with
  | nil =>
    obtain ⟨displays, style, surfaces, live, depth, dirty⟩ := c
    obtain rfl : surfaces = [surface] := h_only
    exact congrArg (Compositor.mk displays style [surface] live depth) (Bool.or_false dirty).symm
  | cons primitive rest ih =>
    obtain ⟨h_first, h_rest⟩ := not_or.mp (mt List.mem_cons.mpr h)
    -- a primitive that does not end the surface changes it in its place and asks for a frame
    have h_accept : c.accept 0 primitive
        = { c with surfaces := [surface.after primitive], dirty := true } := by
      unfold accept
      rw [h_only]
      cases primitive with
      | destroy => exact absurd rfl h_first
      | _ => rfl
    have h_later := ih h_rest (c.accept 0 primitive) (surface.after primitive) (by rw [h_accept])
    rw [h_accept] at h_later
    -- once a primitive was accepted, a frame is due whatever follows
    change (c.accept 0 primitive).acceptAll rest = _
    rw [h_accept, h_later, List.isEmpty_cons, Bool.true_or, Bool.not_false, Bool.or_true]
    rfl

/-- A frame in which every line could be written. -/
theorem draw_of_frame {c : Compositor} {lines : List String}
    (h : c.style.frame c.liveSurfaces = ⟨lines, none⟩) :
    c.draw = ⟨{ c with dirty := false }, lines, .ok ()⟩ := by
  unfold draw
  rw [h]

end Compositor

/-! ### Heeded events -/

namespace Session

/-- **What a surface heeds is carried out on it, and no status line is written meanwhile.** -/
theorem replay_heeded (s : Session) {events : List Event} (h : ∀ e ∈ events, e.Heeded 0) :
    (s.replay events).after
        = { s with compositor := s.compositor.acceptAll (events.filterMap Event.primitive?) } ∧
      Show.statusesOf (s.replay events).reports = [] := by
  induction events generalizing s with
  | nil => exact ⟨rfl, rfl⟩
  | cons e rest ih =>
    have h_e := h e List.mem_cons_self
    rw [replay_cons_eq s h_e.ne_closed]
    obtain ⟨h_after, h_lines⟩ := ih (s.carryOut e).after fun e' he' =>
      h e' (List.mem_cons_of_mem e he')
    dsimp only
    rw [Show.statusesOf_append, h_lines, h_after, List.append_nil]
    -- a line of the log is no status line, and an accepted call says nothing at all
    cases h_e with
    | logged line => exact ⟨rfl, Show.statusesOf_log s.logger line⟩
    | called primitive => exact ⟨rfl, rfl⟩

end Session

namespace Show

/-! ### The stage -/

/-- The compositor of the stage with its only surface. -/
def screen (palette : Palette) (surface : Compositor.Surface) : Compositor where
  displays := [(0, ⟨1920, 1080⟩)]
  style := { palette }
  surfaces := [surface]
  live := [0]

/-- The session of a show in which its dimmer and the surface stand like this. -/
def stand (palette : Palette) (logger : Logger) (now : Float) (d : Dimmer)
    (surface : Compositor.Surface) : Session where
  compositor := screen palette surface
  dimmers := [d]
  clock := fun _ => now
  logger := logger

/-- A dimmer that holds the surface of the stage, which has not ended. -/
structure Staged (d : Dimmer) (surface : Compositor.Surface) : Prop where
  display : d.display = 0
  holds : ∃ handle, d.handle = some handle ∧ handle.id = 0
  lasting : surface.destroyed = false

variable {palette : Palette} {logger : Logger} {now : Float} {d : Dimmer}
  {surface : Compositor.Surface}

/-- In a transaction on the stage, surroundings are calm. -/
theorem surroundings_stand (h : Staged d surface) :
    (stand palette logger now d surface).entered.surroundings d = .calm now := by
  obtain ⟨handle, h_handle, h_id⟩ := h.holds
  have h_display : (stand palette logger now d surface).entered.compositor.display? d.display
      = some ⟨1920, 1080⟩ := by
    rw [h.display]
    rfl
  have h_refusal : (stand palette logger now d surface).entered.compositor.refusal handle.id
      = none := by
    rw [h_id]
    exact refusal_eq_none_iff.mpr ⟨surface, rfl, h.lasting, Nat.one_ne_zero⟩
  -- the display is there, and nothing that the surface is told is refused
  unfold Session.surroundings Surroundings.calm
  rw [h_display, h_handle, Option.bind_some, h_refusal]
  rfl

/-- **An operation on the stage is a turn in calm surroundings**, all of which is carried out. -/
theorem operate_stand (palette : Palette) (logger : Logger) (now : Float) (h : Staged d surface)
    (operation : Operation) :
    let entered := (stand palette logger now d surface).entered
    let reply := entered.operate 0 operation
    let turn := d.turn ⟨operation, .calm now⟩
    reply.outcome = d.answer ⟨operation, .calm now⟩ ∧
      reply.after = { entered with
        compositor := entered.compositor.acceptAll turn.primitives, dimmers := [turn.dimmer] } ∧
      statusesOf reply.reports = [] := by
  intro entered reply turn
  have h_reply : reply = _ :=
    Session.operate_eq (show entered.dimmers[0]? = some d from rfl) operation
  rw [h_reply, surroundings_stand h]
  obtain ⟨handle, h_handle, h_id⟩ := h.holds
  -- the turn calls the surface of the stage only, and that accepts all
  have h_heeded (e : Event) (he : e ∈ turn.events) : e.Heeded 0 := by
    refine (Dimmer.own_of_mem_turn he).heeded (Surroundings.accepting_calm now) ?_
    rintro handle' h_handle'
    obtain rfl := Option.some.inj (h_handle.symm.trans h_handle')
    exact h_id
  obtain ⟨h_after, h_lines⟩ := (entered.replaced 0 turn.dimmer).replay_heeded h_heeded
  exact ⟨rfl, h_after, h_lines⟩

/-- An operation that succeeds, in a transaction of its own. -/
theorem inTransaction_eq {s : Session} (h_d : s.dimmers[0]? = some d) {operation : Operation}
    {result : Option Bool} (h_ok : (s.entered.operate 0 operation).outcome = .ok result) :
    let reply := s.entered.operate 0 operation
    let closing := reply.after.closeTransaction
    inTransaction s operation =
      .scope [] [.action { after := reply.after, outcome := .ok (.ofDimmer (.ofResult result))
                           reports := reply.reports }]
        { after := closing.after, reports := closing.reports
          outcome := Script.conclude Session.Answer.value closing.outcome none (.ok .absent) } := by
  intro reply closing
  -- the command comes to what the operation comes to
  have h_act : Session.act (.command 0 (.operate operation)) s.entered
      = { after := reply.after, outcome := .ok (.ofDimmer (.ofResult result))
          reports := reply.reports } := by
    unfold Session.act
    dsimp only
    rw [show s.entered.dimmers[0]? = some d from h_d]
    change Reply.map _ (Reply.map _ reply) = _
    unfold Reply.map
    rw [show reply.outcome = .ok result from h_ok]
    rfl
  -- which ends neither the step nor the body
  have h_step : (Script.action (.command 0 (.operate operation)) false).run s.entered
      = Entry.action { after := reply.after, outcome := .ok (.ofDimmer (.ofResult result))
                       reports := reply.reports } := by
    rw [Script.run]
    exact congrArg Entry.action h_act
  have h_body : Script.runBody [.action (.command 0 (.operate operation)) false] s.entered
      = ⟨[.action { after := reply.after, outcome := .ok (.ofDimmer (.ofResult result))
                    reports := reply.reports }], reply.after, none⟩ := by
    rw [Script.runBody_cons_of_succeeded (by rw [h_step]; rfl), h_step, Script.runBody_nil]
    rfl
  -- so the scope closes its transaction after one entry
  have h_run : inTransaction s operation
      = (fun ended : BodyEnd Session Session.Answer =>
          Entry.scope [] ended.entries
            { after := ended.after.closeTransaction.after
              outcome := Script.conclude Session.Answer.value ended.after.closeTransaction.outcome
                ended.failure (.ok .absent)
              reports := ended.after.closeTransaction.reports })
          (Script.runBody [.action (.command 0 (.operate operation)) false] s.entered) := by
    unfold inTransaction
    rw [Script.run]
    rfl
  rw [h_run, h_body]

/-- How an operation in a transaction of its own went through, with these status lines on the
console. -/
structure Passed (entry : Entry Session Session.Answer) (s : Session) (resting : Bool)
    (shown : List ConsoleCall) : Prop where
  after : entry.after = s
  failure? : entry.failure? = none
  atRest : atRest entry = resting
  shown : statusesOf entry.reports = shown

/-- An operation that succeeds goes through if the transaction can be closed, and what that draws is
all that is written. -/
theorem Passed.of_closing {s s' : Session} (h_d : s.dimmers[0]? = some d) {operation : Operation}
    {result : Option Bool} (h_ok : (s.entered.operate 0 operation).outcome = .ok result)
    (h_quiet : statusesOf (s.entered.operate 0 operation).reports = []) {lines : List String}
    (h_closing : (s.entered.operate 0 operation).after.closeTransaction
      = { after := s', outcome := .ok (), reports := lines.map Report.line }) :
    Passed (inTransaction s operation) s' (result == some false)
      (statusesOf (lines.map Report.line)) := by
  rw [inTransaction_eq h_d h_ok, h_closing]
  refine ⟨rfl, rfl, ?_, ?_⟩
  · -- a dimmer is at rest if the tick answered so
    cases result with
    | none => rfl
    | some more => cases more <;> rfl
  · -- first comes what the operation said, which is quiet, and then the drawing
    rw [Entry.reports, Entry.reportsOf, Entry.reports, Entry.reportsOf]
    dsimp only
    rw [List.nil_append, List.append_nil, statusesOf_append, h_quiet, List.nil_append]

/-- What is drawn of a surface when a transaction closes in which primitives were accepted. -/
def drawn (palette : Palette) (surface : Compositor.Surface) (primitives : List Primitive) :
    Except Failure (List String) :=
  if primitives = [] then .ok []
  else (({ palette } : StatusStyle).line (surface.afterAll primitives)).map fun line => [line]

/-- The transaction closes with the drawing. -/
theorem leave_screen {primitives : List Primitive} {lines : List String}
    (h_drawn : drawn palette surface primitives = .ok lines) :
    let c := screen palette (surface.afterAll primitives)
    ({ c with depth := 1, dirty := !primitives.isEmpty } : Compositor).leave
      = ⟨c, lines, .ok ()⟩ := by
  intro c
  unfold drawn at h_drawn
  cases primitives with
  | nil =>
    -- nothing was told, and so no frame is due
    obtain rfl : [] = lines := Except.ok.inj h_drawn
    rfl
  | cons primitive rest =>
    rw [if_neg (List.cons_ne_nil primitive rest)] at h_drawn
    cases h_line : ({ palette } : StatusStyle).line (surface.afterAll (primitive :: rest)) with
    | error failure =>
      rw [h_line] at h_drawn
      cases h_drawn
    | ok line =>
      rw [h_line] at h_drawn
      obtain rfl : [line] = lines := Except.ok.inj h_drawn
      -- the frame is the line of the only surface
      have h_frame : ({ palette } : StatusStyle).frame [surface.afterAll (primitive :: rest)]
          = ⟨[line], none⟩ := by
        rw [StatusStyle.frame, h_line]
        rfl
      exact draw_of_frame (c := exited { c with depth := 1, dirty := true }) h_frame

/-- **What an operation on the stage comes to**, as long as it does not end the surface. -/
theorem passed_stand (logger : Logger) (h : Staged d surface) {operation : Operation}
    {result : Option Bool} (h_ok : d.answer ⟨operation, .calm now⟩ = .ok result)
    (h_lasting : .destroy ∉ (d.turn ⟨operation, .calm now⟩).primitives) {lines : List String}
    (h_drawn : drawn palette surface (d.turn ⟨operation, .calm now⟩).primitives = .ok lines) :
    let turn := d.turn ⟨operation, .calm now⟩
    Passed (inTransaction (stand palette logger now d surface) operation)
      (stand palette logger now turn.dimmer (surface.afterAll turn.primitives))
      (result == some false) (statusesOf (lines.map Report.line)) := by
  intro turn
  obtain ⟨h_outcome, h_after, h_quiet⟩ :=
    operate_stand palette logger now h operation
  have h_compositor : (stand palette logger now d surface).entered.compositor.acceptAll
      turn.primitives = _ := acceptAll_eq h_lasting _ surface rfl
  refine Passed.of_closing (d := d) rfl (h_outcome.trans h_ok) h_quiet ?_
  -- the surface has taken the primitives, and the closing draws it
  rw [h_after, h_compositor]
  exact congrArg (fun closing : Closing => Reply.mk
    { stand palette logger now turn.dimmer surface with compositor := closing.after }
    closing.outcome (closing.lines.map Report.line)) (leave_screen h_drawn)

section Known

variable (logger : Logger) (h : Staged d surface) {operation : Operation} {result : Option Bool}
  (h_ok : d.answer ⟨operation, .calm now⟩ = .ok result) {d' : Dimmer}
  (h_dimmer : (d.turn ⟨operation, .calm now⟩).dimmer = d')

include h h_ok h_dimmer

/-- An operation that issues nothing draws nothing. -/
theorem passed_quietly (h_quiet : (d.turn ⟨operation, .calm now⟩).primitives = []) :
    Passed (inTransaction (stand palette logger now d surface) operation)
      (stand palette logger now d' surface) (result == some false) [] := by
  have h_drawn : drawn palette surface (d.turn ⟨operation, .calm now⟩).primitives = .ok [] := by
    rw [h_quiet]
    rfl
  have h_passed := passed_stand logger h h_ok (h_quiet ▸ List.not_mem_nil) h_drawn
  dsimp only at h_passed
  rwa [h_quiet, h_dimmer] at h_passed

/-- Any other draws the surface as its primitives have left it. -/
theorem passed_drawing {primitives : List Primitive}
    (h_primitives : (d.turn ⟨operation, .calm now⟩).primitives = primitives)
    (h_some : primitives ≠ []) (h_lasting : .destroy ∉ primitives) {surface' : Compositor.Surface}
    (h_surface : surface.afterAll primitives = surface') {line : String}
    (h_line : ({ palette } : StatusStyle).line surface' = .ok line) :
    Passed (inTransaction (stand palette logger now d surface) operation)
      (stand palette logger now d' surface') (result == some false) [.plain ("  " ++ line)] := by
  have h_drawn : drawn palette surface (d.turn ⟨operation, .calm now⟩).primitives = .ok [line] := by
    rw [h_primitives, drawn, if_neg h_some, h_surface, h_line]
    rfl
  have h_passed := passed_stand logger h h_ok (h_primitives ▸ h_lasting) h_drawn
  dsimp only at h_passed
  rwa [h_primitives, h_surface, h_dimmer, statusesOf_line h_line] at h_passed

end Known

/-- **Releasing clears the stage**, and there is nothing left to draw. -/
theorem passed_release (h : Staged d surface) :
    let s := stand palette logger now { d.collapsed with handle := none, showing := false }
      (surface.after .destroy)
    Passed (inTransaction (stand palette logger now d surface) .release)
      { s with compositor := { s.compositor with live := [] } } false [] := by
  intro s
  obtain ⟨handle, h_handle, -⟩ := h.holds
  obtain ⟨h_outcome, h_after, h_quiet⟩ :=
    operate_stand palette logger now h .release
  -- the turn issues the primitive that ends the surface, and no other
  have h_turn : d.turn ⟨.release, .calm now⟩ = _ :=
    Turn.release_of_handle (t := { dimmer := d }) h_handle (.calm now)
  have h_primitives : (d.turn ⟨.release, .calm now⟩).primitives = [.destroy] := by
    rw [h_turn, Turn.primitives_guard (Surroundings.accepting_calm now)]
    rfl
  have h_answer : d.answer ⟨.release, .calm now⟩ = .ok none :=
    Dimmer.answer_of_going (s := ⟨.release, .calm now⟩) trivial
      (d.going_turn (Surroundings.describable_calm now))
  have h_closing : ((stand palette logger now d surface).entered.operate 0
      .release).after.closeTransaction
        = { after := { s with compositor := { s.compositor with live := [] } }
            outcome := .ok (), reports := ([] : List String).map Report.line } := by
    rw [h_after, h_primitives, h_turn]
    rfl
  exact Passed.of_closing (d := d) rfl (h_outcome.trans h_answer) h_quiet h_closing

/-! ### Creation -/

/-- The hold of the show on its surface. -/
def hold (options : Options) : Handle :=
  Dimmer.hold options { id := 0, name := options.surfaceName }

theorem id_hold (options : Options) : (hold options).id = 0 :=
  Dimmer.id_hold ..

/-- **The dimmer of the show is created with a surface**, of which a line is shown. -/
theorem createDimmer_stage {options : Options}
    (h : creationRefusal (Dimmer.request options) = none) (palette : Palette) (now : Float) :
    let made := (stage options palette now).createDimmer options 0
    made.after = stand palette (.console "OverlayDimmer" options.debug) now
        { display := 0, handle := some (hold options) } (.ofRequest (Dimmer.request options)) ∧
      made.outcome = .ok (.number 0) ∧ (statusesOf made.reports).length = 1 := by
  intro made
  let s := stage options palette now
  let s' := stand palette s.logger now { display := 0, handle := some (hold options) }
    (.ofRequest (Dimmer.request options))
  obtain ⟨message, asking, h_heeded, h_primitives, h_creation⟩ :=
    Session.creation_of_granted (s := s) h 0
  -- inside the transaction the surface is added and bound, and then there is something to draw
  obtain ⟨h_inner, h_quiet⟩ := (s.asked options).replay_heeded h_heeded
  rw [h_primitives] at h_inner
  obtain ⟨line, h_line⟩ : ∃ line, ({ palette } : StatusStyle).line
      (.ofRequest (Dimmer.request options)) = .ok line := ⟨_, rfl⟩
  have h_drawn : drawn palette (.ofRequest (Dimmer.request options)) [.layerStack 0]
      = .ok [line] := congrArg (Except.map fun line => [line]) h_line
  have h_closing : ((s.asked options).replay asking).after.closeTransaction
      = { after := { s' with dimmers := [] }, outcome := .ok (), reports := [.line line] } := by
    rw [h_inner]
    exact congrArg (fun closing : Closing => Reply.mk
      { s' with compositor := closing.after, dimmers := [] } closing.outcome
        (closing.lines.map Report.line)) (leave_screen h_drawn)
  -- the dimmer is added after its transaction, which did not fail
  have h_made : made = { after := s', outcome := .ok (.number 0)
                         reports := s.logger.reports ⟨.debug, message, none⟩
                           ++ (((s.asked options).replay asking).reports ++ [.line line]) } := by
    have h_replay := s.replay_granted options message
      fun e he => by cases h_heeded e he <;> rfl
    dsimp only at h_replay
    rw [h_closing] at h_replay
    change s.createDimmer options 0 = _
    unfold Session.createDimmer
    rw [h_creation]
    dsimp only
    rw [h_replay]
    rfl
  rw [h_made]
  refine ⟨rfl, rfl, ?_⟩
  -- of all that is reported only the drawing is a status line
  rw [statusesOf_append, statusesOf_append, statusesOf_log, h_quiet]
  exact congrArg List.length (statusesOf_line h_line)

end Show

end Scrim

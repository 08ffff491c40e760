import Scrim.Bench
import Scrim.Proofs.Dimmer.Recasting
import Scrim.Proofs.Trace
import Scrim.Show

/-!
# Diagnostics

Three of the options are for diagnostics: to keep debug lines on the console, to trace the surface,
and to show transactions. None of them changes what a dimmer does (`Dimmer.diagnostics_of_run`).

To trace and to show is a `Recasting`, the `commentary`: the hold has one tracer more, each call is
announced by its trace line, and the surface that was given is announced as well. A trace line names
the surface, so that the hold is carried if it has the name that the commentary goes by. Whether
debug lines are kept is a matter of the console alone, which the dimmer does not know of.
-/

namespace Scrim

/-- The diagnostics that are asked for. -/
structure Diagnostics where
  debug : Bool := false
  surfaceTrace : Bool := false
  showTransactions : Bool := false

namespace Options

/-- The options with other diagnostics. -/
def diagnosed (options : Options) (g : Diagnostics) : Options :=
  { options with
    debug := g.debug, surfaceTrace := g.surfaceTrace, showTransactions := g.showTransactions }

/-- Where a dimmer logs unless it is given a logger. -/
def logger (options : Options) : Logger :=
  .console "OverlayDimmer" options.debug

/-- The show leaves it at that. -/
example (options : Options) (palette : Palette) (now : Float) :
    (Show.stage options palette now).logger = options.logger := rfl

end Options

/-- Whether an event is a logged piece of information. -/
def Event.isInfo : Event → Bool
  | .log line => line.level == .info
  | _ => false

/-- Whether a report is a debug line on the console. -/
def Report.isDebug : Report → Bool
  | .console made => made.channel == Level.debug.channel
  | _ => false

/-- A dimmer, apart from how its hold is traced. -/
def Dimmer.untraced (d : Dimmer) : Dimmer :=
  { d with handle := d.handle.map fun handle => { handle with tracers := 0 } }

/-- What is to be seen of an event on the console if debug lines are kept, and not otherwise. -/
def Event.debugReports (tag : String) : Event → List Report
  | .log ⟨.debug, message, _⟩ => [.console ⟨"debug", "[" ++ tag ++ "] " ++ message, none⟩]
  | _ => []

/-- A console that keeps debug lines shows these, and what it shows otherwise. -/
theorem Bench.filter_reportsOf (tag : String) (debug : Bool) (e : Event) :
    (reportsOf (.console tag debug) e).filter (fun report => !report.isDebug)
        = reportsOf (.console tag false) e ∧
      (reportsOf (.console tag debug) e).filter Report.isDebug
        = if debug then e.debugReports tag else [] := by
  cases e with
  | call | requested | opened | closed => cases debug <;> exact ⟨rfl, rfl⟩
  | log line =>
    obtain ⟨level, message, cause⟩ := line
    cases level with
    | debug | info => cases debug <;> exact ⟨rfl, rfl⟩
    | warn | error =>
      -- a cause changes what is said, not where
      cases cause with
      | none => cases debug <;> exact ⟨rfl, rfl⟩
      | some failure =>
        dsimp only [reportsOf, Logger.reports, Logger.consoleCalls, Option.map]
        generalize failure.value = value
        cases debug <;> cases value <;> exact ⟨rfl, rfl⟩

theorem Bench.filter_flatMap_reportsOf (tag : String) (debug : Bool) (events : List Event) :
    (events.flatMap (reportsOf (.console tag debug))).filter (fun report => !report.isDebug)
        = events.flatMap (reportsOf (.console tag false)) ∧
      (events.flatMap (reportsOf (.console tag debug))).filter Report.isDebug
        = if debug then events.flatMap (Event.debugReports tag) else [] := by
  induction events with
  | nil => cases debug <;> exact ⟨rfl, rfl⟩
  | cons e rest ih =>
    obtain ⟨h_other, h_debug⟩ := filter_reportsOf tag debug e
    rw [List.flatMap_cons, List.filter_append, List.filter_append, ih.1, ih.2, h_other, h_debug]
    refine ⟨rfl, ?_⟩
    split_ifs <;> rfl

namespace Diagnostics

variable (g : Diagnostics) (name : String)

/-- What the diagnostics make of an event of a dimmer whose surface has a name: a line with the
surface and the call directly before each call, and a line directly after a surface was given. -/
def annotate : Event → List Event
  | .call surface primitive refusal =>
    (if g.surfaceTrace then [.say .info (primitive.traceLine name)] else [])
      ++ [.call surface primitive refusal]
  | .requested request none =>
    .requested request none
      :: if g.showTransactions then [.say .info s!"  DIM {name}: CREATE"] else []
  | e => [e]

/-- An annotation adds no more than information. -/
theorem filter_annotate (e : Event) :
    (g.annotate name e).filter (fun e => !e.isInfo) = [e].filter fun e => !e.isInfo := by
  cases e with
  | log | opened | closed => rfl
  | call surface primitive refusal =>
    dsimp only [annotate]
    split_ifs <;> rfl
  | requested request refusal =>
    cases refusal with
    | some failure => rfl
    | none =>
      dsimp only [annotate]
      split_ifs <;> rfl

theorem filter_flatMap_annotate (events : List Event) :
    (events.flatMap (g.annotate name)).filter (fun e => !e.isInfo)
      = events.filter fun e => !e.isInfo := by
  induction events with
  | nil => rfl
  | cons e rest ih =>
    rw [List.flatMap_cons, List.filter_append, ih, filter_annotate, ← List.filter_append]
    rfl

/-- To trace the surface and to show transactions. -/
def commentary : Recasting where
  handle given := if g.surfaceTrace then { given with tracers := given.tracers + 1 } else given
  event := g.annotate name
  event_log _ := rfl
  event_refused _ _ := rfl
  event_opened := rfl
  event_closed := rfl

/-- The innermost tracer speaks last, directly before the call. -/
theorem commentary_carries {handle : Handle} (h_name : handle.name = name) :
    (g.commentary name).Carries handle := by
  intro primitive refusal
  have h_said (messages : List String) :
      (messages.map (Event.say .info)).flatMap (g.annotate name)
        = messages.map (Event.say .info) := by
    induction messages with
    | nil => rfl
    | cons message rest ih =>
      rw [List.map_cons, List.flatMap_cons, ih]
      rfl
  change _ = (handle.issue primitive refusal).flatMap (g.annotate name)
  rw [Handle.issue, Handle.issue, List.flatMap_append, h_said, List.flatMap_singleton]
  -- with tracing there is one more announcement before the call, and otherwise none
  dsimp only [commentary, annotate]
  split_ifs
  · subst h_name
    rw [Primitive.traceLine, ← primitive.announcement_eq, Handle.announcements,
      List.replicate_succ', List.map_append, List.append_assoc]
    rfl
  · rfl

theorem untraced_commentary (d : Dimmer) :
    ((g.commentary name).dimmer d).untraced = d.untraced := by
  have h_tracers (handle : Handle) :
      { (g.commentary name).handle handle with tracers := 0 } = { handle with tracers := 0 } := by
    dsimp only [commentary]
    split_ifs <;> rfl
  unfold Dimmer.untraced Recasting.dimmer
  rw [Option.map_map]
  exact congrArg (fun f => { d with handle := d.handle.map f }) (funext h_tracers)

end Diagnostics

namespace Dimmer

section

variable (options : Options) (display : Float)
  (admission : SurfaceRequest → Except Failure Handle) (refusal : Primitive → Option Failure)

/-- The name of the surface that a new dimmer is given. -/
def givenName : String :=
  ((admission (request options)).toOption.map Handle.name).getD ""

/-- All that a dimmer does, from its creation on. -/
def history (steps : List Step) : List Event :=
  (create options display admission refusal).events
    ++ (new options display admission refusal).events steps

variable {options admission} in
theorem name_eq_givenName {given : Handle}
    (h_given : (admission (request options)).toOption = some given) :
    given.name = givenName options admission := by
  unfold givenName
  rw [h_given]
  rfl

/-- The commentary on a creation without diagnostics is the creation with them. -/
theorem create_diagnosed (g : Diagnostics) :
    create (options.diagnosed g) display admission refusal
      = (g.commentary (givenName options admission)).turn
          (create (options.diagnosed {}) display admission refusal) := by
  refine @Recasting.create (g.commentary (givenName options admission)) (options.diagnosed {})
    (options.diagnosed g) admission admission rfl (fun failure => id) ?_ display refusal
  intro given h_admission
  have h_given : (admission (request options)).toOption = some given :=
    congrArg Except.toOption h_admission
  have h_name : given.name = givenName options admission := name_eq_givenName h_given
  refine ⟨given, h_admission, g.commentary_carries _ h_name, rfl, ?_⟩
  -- without diagnostics nothing is noted, and the commentary adds what is
  rw [← h_name]
  exact (List.append_nil _).symm

/-- A dimmer with diagnostics is as the commentary has it, and so is what it does. -/
theorem run_diagnosed (g : Diagnostics) (steps : List Step) :
    let name := givenName options admission
    let plain := new (options.diagnosed {}) display admission refusal
    let d := new (options.diagnosed g) display admission refusal
    d = (g.commentary name).dimmer plain ∧
      history (options.diagnosed g) display admission refusal steps
        = (history (options.diagnosed {}) display admission refusal steps).flatMap
            (g.annotate name) ∧
      d.clock steps = plain.clock steps ∧
      d.outcomes steps = (plain.outcomes steps).map (Prod.map (g.commentary name).dimmer id) := by
  intro name plain d
  have h_create := create_diagnosed options display admission refusal g
  have h_new : d = (g.commentary name).dimmer plain := congrArg Turn.dimmer h_create
  -- the commentary goes with the name that the surface was given
  have h_carries : ∀ handle ∈ plain.handle, (g.commentary name).Carries handle := by
    intro handle h_handle
    apply g.commentary_carries
    change (new (options.diagnosed {}) display admission refusal).handle = some handle at h_handle
    rw [handle_new, Option.map_eq_some_iff] at h_handle
    obtain ⟨given, h_given, rfl⟩ := h_handle
    exact (name_eq_givenName h_given).trans rfl
  obtain ⟨-, h_events, h_clock, h_outcomes⟩ := Recasting.run_eq h_carries steps
  rw [← h_new] at h_events h_clock h_outcomes
  refine ⟨h_new, ?_, h_clock, h_outcomes⟩
  unfold history
  rw [List.flatMap_append, h_events, h_create]
  rfl

/-- **Diagnostics do not change what a dimmer does.** Two dimmers are created alike, but with any
two choices of diagnostics, and take any steps. They stand the same after the creation and after
each step, how their holds are traced apart; they answer the same and read the clock as often. What
they do is the same but for what is logged as information: the requests, the calls with their
refusals, and all other lines. Each does what it does without diagnostics, with a line that names
the surface and the call directly before each call if the surface is traced, and with a line
directly after the surface was given if transactions are shown. Whether debug lines are kept is not
to be seen in that at all, but only on the console, which shows those lines or does not.

The line before a call is its trace line, in the words of `Primitive.Kind.wording`, and two trace
lines that read the same are of the same surface and the same call. -/
theorem diagnostics_of_run (steps : List Step) (g g' : Diagnostics) :
    let name := givenName options admission
    let d (g : Diagnostics) := new (options.diagnosed g) display admission refusal
    let events (g : Diagnostics) := history (options.diagnosed g) display admission refusal steps
    let onConsole (g : Diagnostics) :=
      (events g).flatMap (Bench.reportsOf (options.diagnosed g).logger)
    (d g).untraced = (d g').untraced ∧
      ((d g).outcomes steps).map (Prod.map untraced id)
        = ((d g').outcomes steps).map (Prod.map untraced id) ∧
      (d g).clock steps = (d g').clock steps ∧
      (events g).filter (fun e => !e.isInfo) = (events g').filter (fun e => !e.isInfo) ∧
      events g = (events {}).flatMap (g.annotate name) ∧
      events g = events { g with debug := false } ∧
      (onConsole g).filter (fun report => !report.isDebug) = onConsole { g with debug := false } ∧
      (onConsole g).filter Report.isDebug
        = (if g.debug then (events g).flatMap (Event.debugReports "OverlayDimmer") else []) ∧
      ∀ (name' : String) (p q : Primitive), p.traceLine name = q.traceLine name' →
        name = name' ∧ p.kind = q.kind ∧
          p.arguments.map Number.text = q.arguments.map Number.text := by
  intro name d events onConsole
  have h_run (g : Diagnostics) := run_diagnosed options display admission refusal g steps
  -- every switch is compared with the dimmer that has all of them off
  have h_untraced (g : Diagnostics) : (d g).untraced = (d {}).untraced := by
    rw [show d g = (g.commentary name).dimmer (d {}) from (h_run g).1]
    exact g.untraced_commentary name (d {})
  have h_events (g : Diagnostics) : events g = (events {}).flatMap (g.annotate name) :=
    (h_run g).2.1
  have h_clock (g : Diagnostics) : (d g).clock steps = (d {}).clock steps := (h_run g).2.2.1
  have h_outcomes (g : Diagnostics) : ((d g).outcomes steps).map (Prod.map untraced id)
      = ((d {}).outcomes steps).map (Prod.map untraced id) := by
    have h_same : untraced ∘ (g.commentary name).dimmer = untraced :=
      funext (g.untraced_commentary name)
    rw [show (d g).outcomes steps = _ from (h_run g).2.2.2, List.map_map, Prod.map_comp_map, h_same]
    rfl
  have h_kept (g : Diagnostics) : (events g).filter (fun e => !e.isInfo)
      = (events {}).filter fun e => !e.isInfo := by
    rw [h_events]
    exact g.filter_flatMap_annotate name _
  -- annotations do not depend on the switch for details
  have h_debug : events g = events { g with debug := false } :=
    (h_events g).trans (h_events { g with debug := false }).symm
  refine ⟨(h_untraced g).trans (h_untraced g').symm, (h_outcomes g).trans (h_outcomes g').symm,
    (h_clock g).trans (h_clock g').symm, (h_kept g).trans (h_kept g').symm, h_events g, h_debug, ?_⟩
  obtain ⟨h_other, h_lines⟩ := Bench.filter_flatMap_reportsOf "OverlayDimmer" g.debug (events g)
  refine ⟨?_, h_lines, fun _ _ _ => Primitive.traceLine_inj⟩
  -- details are an affair of the console only
  change _ = (events { g with debug := false }).flatMap _
  rw [← h_debug]
  exact h_other

end

/-- What is said of a surface as a piece of information, and which calls it receives. -/
def told? : Event → Option String
  | .log line => if line.level = .info then some line.message else none
  | .call _ primitive _ => some primitive.kind.name
  | _ => none

/-- To dim at once, and to let go of the surface. -/
def dimmedAndReleased : List Step :=
  [⟨.present (.number 5) (.number 0.8) (.number 0), .calm 0⟩, ⟨.release, .calm 10⟩]

/-- **A traced run in full**: the surface is given, and each call comes directly after its line. -/
theorem diagnostics_of_dimmedAndReleased :
    let admission (request : SurfaceRequest) : Except Failure Handle :=
      .ok { id := 0, name := request.name }
    let options := Options.diagnosed {} { surfaceTrace := true, showTransactions := true }
    (history options 0 admission (fun _ => none) dimmedAndReleased).filterMap told?
      = ["  DIM DimSurface: CREATE",
          "DimSurface layerStack=0", "layerStack_set",
          "DimSurface pos=(-480,-270)", "position_set",
          "DimSurface size=2880x1620", "size_set",
          "DimSurface layer=5", "layer_set",
          "DimSurface alpha=0.8", "alpha_set",
          "DimSurface SHOW", "show",
          "DimSurface DESTROY", "destroy"] := by
  intro admission options
  have h_run := diagnostics_of_run {} 0 admission (fun _ => none) dimmedAndReleased
    { surfaceTrace := true, showTransactions := true } {}
  have h_annotated : history options 0 admission (fun _ => none) dimmedAndReleased = _ :=
    h_run.2.2.2.2.1
  -- what is told is computed from the plain history and its annotations
  rw [h_annotated]
  decide +kernel

end Dimmer

end Scrim

import Scrim.Dimmer.Turn

/-!
# The operations of a dimmer

Presenting, dismissing, hiding, jumping to the end, advancing and releasing, each as a function from
turns to turns, then the creation of a dimmer, and last `Dimmer.perform`, which checks the
arguments of an operation and carries it out.

Refusals of the surface are logged and otherwise ignored: the dimmer's state goes on as though the
call had succeeded, except that the surface counts as shown or hidden only if the primitive for it
was accepted. A refusal that cannot be told is logged as well, but then it ends the operation where
it stands: what was to be kept of the block is not, and nothing follows.
-/

namespace Scrim

namespace Turn

/-! ### Placement -/

/-- Places the surface over its display if extents or layer differ from the last placement. The
footprint is kept even if the surface refused to move, unless that ended the operation. Without a
display nothing is placed. -/
def place (t : Turn) (w : Surroundings) (handle : Handle) (layer : Float) : Turn :=
  match w.display with
  | none => t.say .warn s!"No display {Number.text t.dimmer.display}; skipping geometry sync"
  | some size =>
    let placement := Placement.covering size
    let footprint : Footprint :=
      { width := placement.width, height := placement.height, layer }
    if t.dimmer.footprint.differs footprint then
      let acts : List Block.Act :=
        [.issue (.position placement.x placement.y),
         .issue (.size placement.width placement.height),
         .issue (.layer layer)]
      (t.attempt "setting size or layer" (Block.run w.refusal handle acts)).andThen
        (update · fun d => { d with footprint })
    else t

/-! ### Alpha -/

/-- The acts that change the visibility of the surface. -/
def visibilityActs : Option Bool → List Block.Act
  | none => []
  | some false => [.note "alpha_apply: hiding", .issue .hide]
  | some true => [.note "alpha_apply: showing", .issue .show]

/-- Applies an alpha unless it is in place already, and shows or hides the surface where the alpha
leaves or reaches zero. The alpha is kept even if the surface refused it, unless that ended the
operation. -/
def applyAlpha (t : Turn) (w : Surroundings) (handle : Handle) (alpha : Float) : Turn :=
  if t.dimmer.alpha == alpha then t
  else
    let change := t.dimmer.visibilityAt alpha
    let outcome := Block.run w.refusal handle (.issue (.alpha alpha) :: visibilityActs change)
    let showing :=
      if outcome.failure.isNone then change.getD t.dimmer.showing else t.dimmer.showing
    ((t.debug s!"alpha_apply: alpha={Number.text alpha}").attempt
      "setting alpha immediately" outcome).andThen (update · fun d => { d with alpha, showing })

/-! ### Requests -/

/-- Starts on a request: at once if it has no duration, else along a new timeline from the alpha
in place. -/
def commit (t : Turn) (w : Surroundings) (handle : Handle) (request : PresentRequest)
    (now : Float) : Turn :=
  if request.duration ≤ 0 then t.applyAlpha w handle request.alpha
  else
    t.update fun d =>
      { d with timeline :=
          { startAlpha := d.alpha, startTime := now, duration := request.duration } }

/-- Reads the clock, and starts on a request if it is due. -/
def consider (t : Turn) (w : Surroundings) (handle : Handle) (request : PresentRequest) : Turn :=
  if t.dimmer.commits request (t.now w) then t.tookReading.commit w handle request (t.now w)
  else t.tookReading

/-- Logs where the timeline in place begins. -/
def logTimeline (t : Turn) : Turn :=
  let begins := t.dimmer.timeline
  t.debug
    s!"present: startAlpha={Number.text begins.startAlpha} startTime={Number.text begins.startTime}"

/-- Begins, redirects or hastens a fade toward an alpha. The target is recorded even if the
timeline in place is kept. -/
def present (t : Turn) (w : Surroundings) (request : PresentRequest) : Turn :=
  let n := Number.text
  let t := t.debug
    s!"present: layer={n request.layer} alpha={n request.alpha} duration={n request.duration}"
  match t.dimmer.handle with
  | none => t.collapse "present"
  | some handle =>
    (t.place w handle request.layer).andThen fun t =>
      (t.consider w handle request).andThen fun t =>
        t.logTimeline.update fun d => { d with target := request.alpha }

/-- Presents alpha zero at the layer in place. That layer was checked when it was requested, so it
needs no check now. -/
def fadeOut (t : Turn) (w : Surroundings) (duration : Float) : Turn :=
  (t.debug s!"dismiss: duration={Number.text duration}").present w
    { layer := t.dimmer.footprint.layer, alpha := 0, duration }

/-- Fades out. Nothing happens while hidden, or while already fading out no slower than
requested. -/
def dismiss (t : Turn) (w : Surroundings) (request : DismissRequest) : Turn :=
  match t.dimmer.handle with
  | none => t.collapse "dismiss"
  | some _ =>
    if !t.dimmer.showing then t
    else if t.dimmer.target != 0 then t.fadeOut w request.duration
    -- Only a dimmer that is fading out already has to look at the clock.
    else if t.dimmer.timeline.outrunBy request.duration (t.now w) then
      t.tookReading.fadeOut w request.duration
    else t.tookReading

/-- Hides at once if showing. -/
def hideNow (t : Turn) (w : Surroundings) : Turn :=
  match t.dimmer.handle with
  | none => t.collapse "hideNow"
  | some _ =>
    if t.dimmer.showing then (t.debug "hideNow: immediate").dismiss w { duration := 0 } else t

/-- Brings the fade in progress to its target at once. -/
def jumpToEnd (t : Turn) (w : Surroundings) : Turn :=
  match t.dimmer.handle with
  | none => t.collapse "jumpToEnd"
  | some _ =>
    if t.dimmer.isAnimating then
      (t.debug "jumpToEnd: immediate").present w
        { layer := t.dimmer.footprint.layer, alpha := t.dimmer.target, duration := 0 }
    else t

/-! ### Time -/

/-- Moves the fade in progress to the current clock value. -/
def advance (t : Turn) (w : Surroundings) : Turn :=
  match t.dimmer.handle with
  | none => t.collapse "advance"
  | some handle =>
    if t.dimmer.isAnimating then
      let now := t.now w
      let alpha := t.dimmer.timeline.sample t.dimmer.target now
      (t.tookReading.debug
        s!"advance: curTime={Number.text now} alpha={Number.text alpha}").applyAlpha w handle alpha
    else t

/-! ### Release -/

/-- Gives the surface up and comes to rest. Without a surface nothing happens. -/
def release (t : Turn) (w : Surroundings) : Turn :=
  match t.dimmer.handle with
  | none => t
  | some handle =>
    -- The hold is given up first, so that a refusal cannot bring it back.
    let t := (t.debug "release: destroying surface").update
      fun d => { d.collapsed with handle := none, showing := false }
    t.attempt "destroying surface" (Block.run w.refusal handle [.issue .destroy])

end Turn

namespace Dimmer

/-! ### Creation -/

/-- The surface that a dimmer asks for: square, and hidden until it is first shown. -/
def request (options : Options) : SurfaceRequest :=
  { name := options.surfaceName, width := options.initialSize, height := options.initialSize }

/-- What creation does with the surface it was given. The handle is kept even if the surface
refuses to be put on its display. -/
def adopt (options : Options) (refusal : Primitive → Option Failure) (given : Handle) (t : Turn) :
    Turn :=
  let handle := if options.surfaceTrace then { given with tracers := given.tracers + 1 } else given
  let t := t.update fun d => { d with handle := some handle }
  let t := if options.showTransactions then t.say .info s!"  DIM {given.name}: CREATE" else t
  let outcome := Block.run refusal handle [.issue (.layerStack t.dimmer.display)]
  let t := t.emit outcome.events
  match outcome.failure with
  | none => t
  | some failure => t.emit [.log ⟨.error, "Exception creating dim surface", some failure⟩]

/-- Creates a dimmer for a display. It asks for its surface inside a transaction of its own; if it
gets none, it stays without. -/
def create (options : Options) (display : Float)
    (admission : SurfaceRequest → Except Failure Handle) (refusal : Primitive → Option Failure) :
    Turn :=
  let t : Turn := { dimmer := { display } }
  let t := t.debug s!"ctor: displayId={Number.text display}"
  let t := t.emit [.opened]
  let t :=
    match admission (request options) with
    | .ok handle => adopt options refusal handle (t.emit [.requested (request options) none])
    | .error failure =>
      t.emit [.requested (request options) (some failure),
        .log ⟨.error, "Exception creating dim surface", some failure⟩]
  t.emit [.closed]

end Dimmer

/-! ### Operations as data -/

/-- An operation with its arguments as they were given. -/
inductive Operation
  | present (layer alpha duration : Value)
  | dismiss (duration : Value)
  | hideNow
  | jumpToEnd
  | advance
  | release

namespace Dimmer

/-- Carries out an operation. It fails if its arguments are refused, and then it has done nothing,
or if what the surface refused something with cannot be told. Only advancing has a result: whether
more of it is needed. -/
def perform (d : Dimmer) (w : Surroundings) : Operation → Turn × Except Failure (Option Bool)
  | .present layer alpha duration =>
    match PresentRequest.check layer alpha duration with
    | .ok request =>
      let t := Turn.present { dimmer := d } w request
      (t, t.answer none)
    | .error failure => ({ dimmer := d }, .error failure)
  | .dismiss duration =>
    match DismissRequest.check duration with
    | .ok request =>
      let t := Turn.dismiss { dimmer := d } w request
      (t, t.answer none)
    | .error failure => ({ dimmer := d }, .error failure)
  | .hideNow =>
    let t := Turn.hideNow { dimmer := d } w
    (t, t.answer none)
  | .jumpToEnd =>
    let t := Turn.jumpToEnd { dimmer := d } w
    (t, t.answer none)
  | .advance =>
    let t := Turn.advance { dimmer := d } w
    (t, t.answer (some t.dimmer.isAnimating))
  | .release =>
    let t := Turn.release { dimmer := d } w
    (t, t.answer none)

end Dimmer

end Scrim

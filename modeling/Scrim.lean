import Scrim.Number.Whole
import Scrim.Number.Shortest
import Scrim.Number.Text
import Scrim.Text.Blank
import Scrim.Text.Units
import Scrim.Value
import Scrim.Contract
import Scrim.Timeline
import Scrim.Placement
import Scrim.Surface
import Scrim.Failure
import Scrim.Log
import Scrim.Request
import Scrim.Options
import Scrim.Block
import Scrim.Script
import Scrim.Tally
import Scrim.Dimmer.Basic
import Scrim.Dimmer.Turn
import Scrim.Dimmer.Operations
import Scrim.Dimmer.Command
import Scrim.Bench
import Scrim.Palette
import Scrim.Compositor.Surface
import Scrim.Compositor.Status
import Scrim.Compositor.Basic
import Scrim.Session
import Scrim.Show
import Scrim.Main
import Scrim.Proofs.Number.Nearest
import Scrim.Proofs.Number.Precision
import Scrim.Proofs.Number.Binary
import Scrim.Proofs.Number.Order
import Scrim.Proofs.Number.Rounded
import Scrim.Proofs.Number.Arithmetic
import Scrim.Proofs.Number.Laws
import Scrim.Proofs.Block
import Scrim.Proofs.Timeline
import Scrim.Proofs.Arrival
import Scrim.Proofs.Progress
import Scrim.Proofs.Shift
import Scrim.Proofs.Accuracy
import Scrim.Proofs.Request
import Scrim.Proofs.Placement
import Scrim.Proofs.Options
import Scrim.Proofs.Text
import Scrim.Proofs.Trace
import Scrim.Proofs.Spelling
import Scrim.Proofs.Number.Whole
import Scrim.Proofs.Validation
import Scrim.Proofs.Resolution
import Scrim.Proofs.Precedence
import Scrim.Proofs.Compositor.Steps
import Scrim.Proofs.Compositor.Frames
import Scrim.Proofs.Compositor.Bars
import Scrim.Proofs.Compositor.Lifetimes
import Scrim.Proofs.Dimmer.Run
import Scrim.Proofs.Dimmer.Guarded
import Scrim.Proofs.Dimmer.Course
import Scrim.Proofs.Dimmer.Moves
import Scrim.Proofs.Dimmer.Requests
import Scrim.Proofs.Dimmer.Creation
import Scrim.Proofs.Dimmer.Absence
import Scrim.Proofs.Dimmer.Layers
import Scrim.Proofs.Dimmer.Placements
import Scrim.Proofs.Dimmer.Alpha
import Scrim.Proofs.Dimmer.Instant
import Scrim.Proofs.Dimmer.Arrival
import Scrim.Proofs.Dimmer.Visibility
import Scrim.Proofs.Dimmer.Ticks
import Scrim.Proofs.Dimmer.Primitives
import Scrim.Proofs.Dimmer.Dismissal
import Scrim.Proofs.Dimmer.Hastening
import Scrim.Proofs.Dimmer.Shift
import Scrim.Proofs.Dimmer.Refusal
import Scrim.Proofs.Dimmer.Shown
import Scrim.Proofs.Dimmer.Containment
import Scrim.Proofs.Dimmer.Toggling
import Scrim.Proofs.Dimmer.Calls
import Scrim.Proofs.Dimmer.Idempotence
import Scrim.Proofs.Dimmer.Recasting
import Scrim.Proofs.Dimmer.Diagnostics
import Scrim.Proofs.Dimmer.Numbers
import Scrim.Proofs.Dimmer.Pushes
import Scrim.Proofs.Dimmer.Headway
import Scrim.Proofs.Dimmer.Shortcut
import Scrim.Proofs.Session.Mirror
import Scrim.Proofs.Session.Setting
import Scrim.Proofs.Session.Drawing
import Scrim.Proofs.Session.Matched
import Scrim.Proofs.Scopes
import Scrim.Proofs.Session.Separation
import Scrim.Proofs.Show.Fades
import Scrim.Proofs.Show.Clock
import Scrim.Proofs.Show.Stage
import Scrim.Proofs.Show.Scenes
import Scrim.Proofs.Show.Settling
import Scrim.Proofs.Coverage

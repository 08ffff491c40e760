import Scrim.Number.Text

/-!
# Surfaces as a dimmer sees them

A dimmer draws nothing itself. It asks for one surface (`SurfaceRequest`), is given a `Handle` on
it, and from then on issues primitives. A handle may carry tracers; each of them announces every
primitive, by the name of the surface, just before passing it on.
-/

namespace Scrim

/-- What can be asked of a surface. -/
inductive Primitive
  | layerStack (display : Float)
  | position (x y : Float)
  | size (width height : Float)
  | layer (layer : Float)
  | alpha (alpha : Float)
  | show
  | hide
  | destroy
deriving Repr

namespace Primitive

/-- A primitive without its arguments. -/
inductive Kind
  | layerStack
  | position
  | size
  | layer
  | alpha
  | show
  | hide
  | destroy
deriving Repr, DecidableEq

/-- The name by which a kind of primitive is reported. -/
def Kind.name : Kind → String
  | .layerStack => "layerStack_set"
  | .position => "position_set"
  | .size => "size_set"
  | .layer => "layer_set"
  | .alpha => "alpha_set"
  | .show => "show"
  | .hide => "hide"
  | .destroy => "destroy"

/-- Every kind. -/
def Kind.all : List Kind :=
  [.layerStack, .position, .size, .layer, .alpha, .show, .hide, .destroy]

/-- The kind of a given name. -/
def Kind.ofName? (name : String) : Option Kind :=
  all.find? fun kind => kind.name == name

/-- The kind of a primitive. -/
def kind : Primitive → Kind
  | .layerStack _ => .layerStack
  | .position .. => .position
  | .size .. => .size
  | .layer _ => .layer
  | .alpha _ => .alpha
  | .show => .show
  | .hide => .hide
  | .destroy => .destroy

/-- The arguments of a primitive. -/
def arguments : Primitive → List Float
  | .layerStack id => [id]
  | .position x y => [x, y]
  | .size w h => [w, h]
  | .layer n => [n]
  | .alpha a => [a]
  | .show => []
  | .hide => []
  | .destroy => []

/-- What a tracer says of a primitive. -/
def announcement : Primitive → String
  | .layerStack id => "layerStack=" ++ Number.text id
  | .position x y => "pos=(" ++ Number.text x ++ "," ++ Number.text y ++ ")"
  | .size w h => "size=" ++ Number.text w ++ "x" ++ Number.text h
  | .layer n => "layer=" ++ Number.text n
  | .alpha a => "alpha=" ++ Number.text a
  | .show => "SHOW"
  | .hide => "HIDE"
  | .destroy => "DESTROY"

end Primitive

/-- A surface as it is asked for: opaque, for dimming, and hidden at first unless said otherwise. -/
structure SurfaceRequest where
  name : String
  width : Float
  height : Float
  hidden : Bool := true
deriving Repr

/-- A hold on a surface: which one, its name, and how many tracers are stacked on the hold. -/
structure Handle where
  id : Nat
  name : String
  tracers : Nat := 0
deriving Repr, DecidableEq

/-- What the tracers of a handle say before a primitive is passed on, one line each. -/
def Handle.announcements (handle : Handle) (primitive : Primitive) : List String :=
  List.replicate handle.tracers (handle.name ++ " " ++ primitive.announcement)

end Scrim

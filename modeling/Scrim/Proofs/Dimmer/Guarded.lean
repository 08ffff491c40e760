import Scrim.Proofs.Block
import Scrim.Proofs.Dimmer.Run

/-!
# The guarded blocks of a dimmer

A dimmer works on its surface in guarded blocks, of which there are three kinds (`Guarded`): the
surface is placed, an alpha is applied, or the surface is ended. A refusal stays inside its block,
unless what the surface refused a primitive with cannot be told (`Guarded.escape`). Then the block
is cut short for good, and the operation ends with it.

`Turn.AfterPlace` and `Turn.AfterAlpha` list what placing the surface and applying an alpha come to,
so that no later proof opens these two. `Dimmer.going_turn` says that no operation is cut short if
whatever is refused can be told.
-/

namespace Scrim

/-! ### Placements that are called for -/

/-- A placement that was called for: over a display of this size, at this layer. -/
structure Placing where
  display : Size
  layer : Float

namespace Placing

/-- Where the surface is to lie. -/
def placement (p : Placing) : Placement :=
  .covering p.display

/-- What identifies the placement. -/
def footprint (p : Placing) : Footprint :=
  { width := p.placement.width, height := p.placement.height, layer := p.layer }

/-- The primitives that place the surface. -/
def acts (p : Placing) : List Block.Act :=
  [.issue (.position p.placement.x p.placement.y),
   .issue (.size p.placement.width p.placement.height),
   .issue (.layer p.layer)]

theorem mem_acts {p : Placing} {primitive : Primitive} (h : .issue primitive ∈ p.acts) :
    primitive = .position p.placement.x p.placement.y ∨
      primitive = .size p.placement.width p.placement.height ∨ primitive = .layer p.layer := by
  simpa [acts] using h

end Placing

/-! ### Blocks -/

/-- The primitive that makes a surface visible or not. -/
def Primitive.ofVisibility : Bool → Primitive
  | true => .show
  | false => .hide

/-- What changes the visibility of a surface shows or hides it. -/
theorem Turn.mem_visibilityActs {change : Option Bool} {primitive : Primitive}
    (h : .issue primitive ∈ visibilityActs change) : primitive = .show ∨ primitive = .hide := by
  rcases change with - | - | - <;> simp [visibilityActs] at h
  · exact Or.inr h
  · exact Or.inl h

/-- Nothing is raised where an alpha is applied, so that only the surface can make it fail. -/
theorem Turn.raise_not_mem_alphaActs (alpha : Float) (change : Option Bool) (value : Value) :
    Block.Act.raise value ∉ .issue (.alpha alpha) :: visibilityActs change := by
  rcases change with - | - | - <;> simp [visibilityActs]

/-- Whether a call was refused with what cannot be told. -/
def isUntold (answer : Option Failure) : Bool :=
  (answer.bind Failure.untold).isSome

/-- A guarded block of a dimmer, by what it is for. -/
inductive Guarded
  /-- The surface is placed. -/
  | placing (placing : Placing)
  /-- An alpha is applied, and the visibility changed if that is due. -/
  | applying (alpha : Float) (change : Option Bool)
  /-- The surface is ended. -/
  | ending

namespace Guarded

/-- What a block says it was attempting, if it fails. -/
def context : Guarded → String
  | .placing _ => "setting size or layer"
  | .applying .. => "setting alpha immediately"
  | .ending => "destroying surface"

/-- The primitives that a block is to issue, in order. -/
def primitives : Guarded → List Primitive
  | .placing p =>
    [.position p.placement.x p.placement.y, .size p.placement.width p.placement.height,
      .layer p.layer]
  | .applying alpha change => .alpha alpha :: change.toList.map Primitive.ofVisibility
  | .ending => [.destroy]

/-- The acts of a block. -/
def acts : Guarded → List Block.Act
  | .placing p => p.acts
  | .applying alpha change => .issue (.alpha alpha) :: Turn.visibilityActs change
  | .ending => [.issue .destroy]

theorem mem_primitives_placing {p : Placing} {primitive : Primitive}
    (h : primitive ∈ (placing p).primitives) :
    primitive = .position p.placement.x p.placement.y ∨
      primitive = .size p.placement.width p.placement.height ∨ primitive = .layer p.layer := by
  simpa [primitives] using h

theorem mem_primitives_applying {alpha : Float} {change : Option Bool} {primitive : Primitive}
    (h : primitive ∈ (applying alpha change).primitives) :
    primitive = .alpha alpha ∨ primitive = .show ∨ primitive = .hide := by
  -- beyond the alpha there is at most one primitive, that of the new visibility
  refine (List.mem_cons.mp h).imp_right fun h_change => ?_
  obtain ⟨visible, -, rfl⟩ := List.mem_map.mp h_change
  cases visible with
  | true => exact Or.inl rfl
  | false => exact Or.inr rfl

theorem filterMap_acts (g : Guarded) : g.acts.filterMap Block.Act.primitive? = g.primitives := by
  cases g with
  | placing p => rfl
  | applying alpha change => rcases change with - | - | - <;> rfl
  | ending => rfl

theorem raise_not_mem_acts (g : Guarded) (value : Value) : Block.Act.raise value ∉ g.acts := by
  cases g with
  | placing p => simp [acts, Placing.acts]
  | applying alpha change => exact Turn.raise_not_mem_alphaActs alpha change value
  | ending => simp [acts]

/-- What a block does on a surface that refuses as told, with the warning if it fails. -/
def events (g : Guarded) (refusal : Primitive → Option Failure) (handle : Handle) : List Event :=
  (Block.run refusal handle g.acts).reported g.context

/-- What happens in a block: lines are logged, and its primitives are issued. -/
theorem mem_events {g : Guarded} {refusal : Primitive → Option Failure} {handle : Handle}
    {e : Event} (he : e ∈ g.events refusal handle) :
    (∃ line, e = .log line) ∨
      ∃ primitive ∈ g.primitives, e = .call handle.id primitive (refusal primitive) := by
  rcases Block.mem_reported he with he | h_line
  · -- what is not a line is the call of an act, and the acts issue the primitives
    refine (Block.mem_events_run he).imp_right ?_
    rintro ⟨primitive, h_act, rfl⟩
    refine ⟨primitive, ?_, rfl⟩
    rw [← g.filterMap_acts]
    exact List.mem_filterMap.mpr ⟨_, h_act, rfl⟩
  · exact Or.inl h_line

/-- The calls of a block are those of its primitives, up to the first that is refused. -/
theorem issued_events (g : Guarded) (refusal : Primitive → Option Failure) (handle : Handle) :
    issued (g.events refusal handle) = attempted refusal g.primitives := by
  rw [events, Block.issued_reported, (Block.issued_run refusal handle g.raise_not_mem_acts).1,
    filterMap_acts]

theorem failure_run (g : Guarded) (refusal : Primitive → Option Failure) (handle : Handle) :
    (Block.run refusal handle g.acts).failure = g.primitives.findSome? refusal := by
  rw [(Block.issued_run refusal handle g.raise_not_mem_acts).2, filterMap_acts]

/-- The failure that gets out of a block: that of telling what a primitive was refused with. -/
def escape (g : Guarded) (refusal : Primitive → Option Failure) : Option Failure :=
  (g.primitives.findSome? refusal).bind Failure.untold

theorem escape_run (g : Guarded) (refusal : Primitive → Option Failure) (handle : Handle) :
    (Block.run refusal handle g.acts).escape = g.escape refusal := by
  rw [Block.Outcome.escape_eq, failure_run, escape]

variable {w : Surroundings}

/-- Nothing gets out of a block if whatever is refused can be told. -/
theorem escape_of_describable (hw : w.Describable) (g : Guarded) : g.escape w.refusal = none := by
  unfold escape
  cases h_failure : g.primitives.findSome? w.refusal with
  | none => rfl
  | some failure =>
    -- the refusal is that of one of its primitives, and can be told
    obtain ⟨primitive, -, h_refused⟩ := List.exists_of_findSome?_eq_some h_failure
    exact hw primitive failure h_refused

/-- A block does not fail on a surface that refuses nothing. -/
theorem failure_run_of_accepting (hw : w.Accepting) (g : Guarded) (handle : Handle) :
    (Block.run w.refusal handle g.acts).failure = none := by
  rw [failure_run]
  exact List.findSome?_eq_none_iff.mpr fun primitive _ => hw primitive

end Guarded

/-- The dimmer that the block of an alpha leaves behind. It keeps the alpha, and the visibility
follows if nothing was refused, unless the block is cut short. -/
def Dimmer.afterBlock (d : Dimmer) (alpha : Float) (refusal : Primitive → Option Failure) :
    Dimmer :=
  let g := Guarded.applying alpha (d.visibilityAt alpha)
  if (g.escape refusal).isSome then d
  else
    { d with
      alpha
      showing :=
        if (g.primitives.findSome? refusal).isNone then (d.visibilityAt alpha).getD d.showing
        else d.showing }

namespace Turn

/-! ### Carrying out a block -/

/-- Carries out a guarded block. -/
def guard (t : Turn) (w : Surroundings) (handle : Handle) (g : Guarded) : Turn :=
  t.attempt g.context (Block.run w.refusal handle g.acts)

section Guard

variable (t : Turn) (w : Surroundings) (handle : Handle) (g : Guarded)

@[simp] theorem dimmer_guard : (t.guard w handle g).dimmer = t.dimmer := rfl

@[simp] theorem events_guard :
    (t.guard w handle g).events = t.events ++ g.events w.refusal handle := rfl

@[simp] theorem failure_guard : (t.guard w handle g).failure = g.escape w.refusal :=
  g.escape_run w.refusal handle

end Guard

/-! ### Placing -/

/-- The warning that a display is not known. -/
def missingDisplay (display : Float) : String :=
  s!"No display {Number.text display}; skipping geometry sync"

/-- What placing the surface can come to. -/
inductive AfterPlace (w : Surroundings) (handle : Handle) (layer : Float) (t : Turn) : Turn → Prop
  /-- The display is not known, and nothing is placed. -/
  | unseen (h_display : w.display = none) :
      AfterPlace w handle layer t (t.say .warn (missingDisplay t.dimmer.display))
  /-- The footprint is in place already. -/
  | inPlace (size : Size) (h_display : w.display = some size)
      (h_same : t.dimmer.footprint.differs (Placing.mk size layer).footprint = false) :
      AfterPlace w handle layer t t
  /-- The surface is told where to lie, and the footprint is kept, whatever was refused. -/
  | settled (size : Size) (h_display : w.display = some size)
      (h_differs : t.dimmer.footprint.differs (Placing.mk size layer).footprint = true)
      (h_told : (Guarded.placing ⟨size, layer⟩).escape w.refusal = none) :
      AfterPlace w handle layer t ((t.guard w handle (.placing ⟨size, layer⟩)).update
        fun d => { d with footprint := (Placing.mk size layer).footprint })
  /-- The surface refuses something with what cannot be told, and the operation ends. -/
  | cutShort (size : Size) (h_display : w.display = some size)
      (h_differs : t.dimmer.footprint.differs (Placing.mk size layer).footprint = true)
      (h_untold : (Guarded.placing ⟨size, layer⟩).escape w.refusal ≠ none) :
      AfterPlace w handle layer t (t.guard w handle (.placing ⟨size, layer⟩))

section Place

variable {t : Turn} {w : Surroundings} {handle : Handle} {layer : Float}

theorem place_of_unseen (h_display : w.display = none) :
    t.place w handle layer = t.say .warn (missingDisplay t.dimmer.display) := by
  unfold place
  rw [h_display]
  rfl

theorem place_of_same {size : Size} (h_display : w.display = some size)
    (h_same : t.dimmer.footprint.differs (Placing.mk size layer).footprint = false) :
    t.place w handle layer = t := by
  unfold place
  rw [h_display]
  exact if_neg (Bool.eq_false_iff.mp h_same)

theorem place_of_differs {size : Size} (h_display : w.display = some size)
    (h_differs : t.dimmer.footprint.differs (Placing.mk size layer).footprint = true) :
    t.place w handle layer = (t.guard w handle (.placing ⟨size, layer⟩)).andThen
      (update · fun d => { d with footprint := (Placing.mk size layer).footprint }) := by
  unfold place
  rw [h_display]
  exact if_pos h_differs

variable (t w handle layer)

theorem afterPlace : AfterPlace w handle layer t (t.place w handle layer) := by
  cases h_display : w.display with
  | none =>
    rw [place_of_unseen h_display]
    exact .unseen h_display
  | some size =>
    cases h_differs : t.dimmer.footprint.differs (Placing.mk size layer).footprint with
    | false =>
      rw [place_of_same h_display h_differs]
      exact .inPlace size h_display h_differs
    | true =>
      rw [place_of_differs h_display h_differs]
      -- whether the footprint is kept hangs on how the block has ended
      refine andThen_cases (fun h_ended => ?_) (fun h_going => ?_)
      · exact .cutShort size h_display h_differs (failure_guard t w handle _ ▸ h_ended)
      · exact .settled size h_display h_differs (failure_guard t w handle _ ▸ h_going)

end Place

/-! ### Applying an alpha -/

/-- What applying an alpha can come to. -/
inductive AfterAlpha (w : Surroundings) (handle : Handle) (alpha : Float) (t : Turn) : Turn → Prop
  /-- The alpha is in place already. -/
  | inPlace (h_alpha : (t.dimmer.alpha == alpha) = true) : AfterAlpha w handle alpha t t
  /-- The alpha is applied and kept, whatever was refused; the visibility follows it if nothing
  was. -/
  | settled (message : String) (h_alpha : (t.dimmer.alpha == alpha) = false)
      (h_told : (Guarded.applying alpha (t.dimmer.visibilityAt alpha)).escape w.refusal = none) :
      AfterAlpha w handle alpha t
        (((t.debug message).guard w handle
          (.applying alpha (t.dimmer.visibilityAt alpha))).update fun d =>
            { d with
              alpha
              showing :=
                if ((Guarded.applying alpha
                    (t.dimmer.visibilityAt alpha)).primitives.findSome? w.refusal).isNone then
                  (t.dimmer.visibilityAt alpha).getD t.dimmer.showing
                else t.dimmer.showing })
  /-- The surface refuses something with what cannot be told, and the operation ends. -/
  | cutShort (message : String) (h_alpha : (t.dimmer.alpha == alpha) = false)
      (h_untold : (Guarded.applying alpha (t.dimmer.visibilityAt alpha)).escape w.refusal ≠ none) :
      AfterAlpha w handle alpha t
        ((t.debug message).guard w handle (.applying alpha (t.dimmer.visibilityAt alpha)))

section Alpha

variable {t : Turn} {w : Surroundings} {handle : Handle} {alpha : Float}

theorem applyAlpha_of_inPlace (h_alpha : (t.dimmer.alpha == alpha) = true) :
    t.applyAlpha w handle alpha = t :=
  if_pos h_alpha

theorem applyAlpha_of_ne (h_alpha : (t.dimmer.alpha == alpha) = false) :
    t.applyAlpha w handle alpha
      = ((t.debug s!"alpha_apply: alpha={Number.text alpha}").guard w handle
          (.applying alpha (t.dimmer.visibilityAt alpha))).andThen (update · fun d =>
            { d with
              alpha
              showing :=
                if ((Guarded.applying alpha
                    (t.dimmer.visibilityAt alpha)).primitives.findSome? w.refusal).isNone then
                  (t.dimmer.visibilityAt alpha).getD t.dimmer.showing
                else t.dimmer.showing }) := by
  -- whether the block failed is read off its primitives
  rw [← Guarded.failure_run _ w.refusal handle]
  exact if_neg (Bool.eq_false_iff.mp h_alpha)

variable (t w handle alpha)

theorem afterAlpha : AfterAlpha w handle alpha t (t.applyAlpha w handle alpha) := by
  cases h_alpha : t.dimmer.alpha == alpha with
  | true =>
    rw [applyAlpha_of_inPlace h_alpha]
    exact .inPlace h_alpha
  | false =>
    rw [applyAlpha_of_ne h_alpha]
    -- the alpha is kept unless its block has ended the operation
    refine andThen_cases (fun h_ended => ?_) (fun h_going => ?_)
    · exact .cutShort _ h_alpha (failure_guard _ w handle _ ▸ h_ended)
    · exact .settled _ h_alpha (failure_guard _ w handle _ ▸ h_going)

variable {t w handle alpha}

/-- An alpha that is not in place leaves the dimmer that its block leaves. -/
theorem dimmer_applyAlpha_of_ne (h_alpha : (t.dimmer.alpha == alpha) = false) (w : Surroundings)
    (handle : Handle) :
    (t.applyAlpha w handle alpha).dimmer = t.dimmer.afterBlock alpha w.refusal := by
  have h_after := t.afterAlpha w handle alpha
  generalize t.applyAlpha w handle alpha = t' at h_after ⊢
  unfold Dimmer.afterBlock
  dsimp only
  -- of the three outcomes the first is excluded, and the others are the two branches
  cases h_after with
  | inPlace h_inPlace => cases h_alpha.symm.trans h_inPlace
  | settled message _ h_told =>
    rw [h_told]
    rfl
  | cutShort message _ h_untold =>
    rw [if_pos (Option.isSome_iff_ne_none.mpr h_untold)]
    rfl

/-- An alpha that is not in place ends an operation if its block does. -/
theorem failure_applyAlpha_of_ne (h_alpha : (t.dimmer.alpha == alpha) = false) (w : Surroundings)
    (handle : Handle) :
    (t.applyAlpha w handle alpha).failure
      = (Guarded.applying alpha (t.dimmer.visibilityAt alpha)).escape w.refusal := by
  have h_after := t.afterAlpha w handle alpha
  generalize t.applyAlpha w handle alpha = t' at h_after ⊢
  cases h_after with
  | inPlace h_inPlace => cases h_alpha.symm.trans h_inPlace
  | settled message => exact failure_guard (t.debug message) ..
  | cutShort message => exact failure_guard (t.debug message) ..

/-- An alpha that is not in place is not cut short if whatever is refused can be told. -/
theorem going_applyAlpha (hw : w.Describable) (h_alpha : (t.dimmer.alpha == alpha) = false)
    (handle : Handle) :
    (t.applyAlpha w handle alpha).failure = none :=
  (failure_applyAlpha_of_ne h_alpha w handle).trans (Guarded.escape_of_describable hw _)

end Alpha

end Turn

end Scrim

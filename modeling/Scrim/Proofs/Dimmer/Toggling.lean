import Mathlib.Data.List.Chain
import Scrim.Proofs.Dimmer.Containment
import Scrim.Proofs.Dimmer.Shown

/-!
# Showing and hiding by turns

A surface that refuses as it likes may be left at another visibility than its dimmer meant it to
have, but never at another than its dimmer believes: of the calls to show and to hide, those that
were accepted come by turns, and while the dimmer holds the surface it takes itself to show if the
last of them was to show. The same cannot be said of alphas. The dimmer keeps the last alpha that it
was to set, even if the surface refused it, unless that was a refusal that cannot be told. Then it
may set the same alpha again (`Dimmer.toggling_of_run`).

`Applies` lists the calls by which an alpha is applied and the dimmer afterwards. The other moves
make calls that concern neither alpha nor visibility (`Primitive.isAside`). `Attuned` is what the
calls so far and the dimmer have to do with each other, which every move keeps, because a change of
visibility is only tried where it is one (`Dimmer.visibilityAt_ne`), and an alpha only where it is
not in place.
-/

namespace Scrim

/-! ### Alphas and toggles -/

/-- The alpha that a call was to set, whether it was refused or not. -/
def alpha? : Primitive × Option Failure → Option Float
  | (.alpha alpha, _) => some alpha
  | _ => none

/-- The alphas that calls were to set, in order. -/
def alphas (calls : List (Primitive × Option Failure)) : List Float :=
  calls.filterMap alpha?

/-- Whether a primitive shows or hides. -/
def Primitive.isToggle : Primitive → Bool
  | .show | .hide => true
  | .alpha _ | .layerStack _ | .position .. | .size .. | .layer _ | .destroy => false

/-- The alphas that calls were to set and that the dimmer has kept, in order: all but those of
blocks that were cut short, by a refusal of the alpha that cannot be told, or of the change of
visibility directly after it. -/
def alphasKept : List (Primitive × Option Failure) → List Float
  | [] => []
  | call :: rest =>
    if isUntold call.2 || rest.head?.any fun next => next.1.isToggle && isUntold next.2 then
      alphasKept rest
    else (alpha? call).toList ++ alphasKept rest

/-- The visibility that a call brought about: only an accepted one does. -/
def toggle? : Primitive × Option Failure → Option Bool
  | (.show, none) => some true
  | (.hide, none) => some false
  | _ => none

/-- The visibilities that calls brought about, in order. -/
def toggles (calls : List (Primitive × Option Failure)) : List Bool :=
  calls.filterMap toggle?

/-- Each call to show comes directly after an alpha above zero was accepted, and each call to hide
directly after alpha zero was, whether the call itself is refused or not. -/
def Prompted (calls : List (Primitive × Option Failure)) : Prop :=
  ∀ before visible answer after, calls = before ++ (.ofVisibility visible, answer) :: after →
    ∃ earlier alpha, before = earlier ++ [(.alpha alpha, none)] ∧
      (if visible then 0 < alpha else (alpha == 0) = true)

/-- Whether a primitive concerns neither alpha nor visibility. -/
def Primitive.isAside : Primitive → Bool
  | .alpha _ | .show | .hide => false
  | .layerStack _ | .position .. | .size .. | .layer _ | .destroy => true

section Calls

variable {calls later : List (Primitive × Option Failure)}

@[simp] theorem alphas_append : alphas (calls ++ later) = alphas calls ++ alphas later :=
  List.filterMap_append

@[simp] theorem toggles_append : toggles (calls ++ later) = toggles calls ++ toggles later :=
  List.filterMap_append

/-- Where no block is cut short, the dimmer keeps what is to be set. -/
theorem alphasKept_of_told (h : ∀ call ∈ calls, isUntold call.2 = false) :
    alphasKept calls = alphas calls := by
  induction calls with
  | nil => rfl
  | cons call rest ih =>
    have h_rest (next : Primitive × Option Failure) (h_next : next ∈ rest) :
        isUntold next.2 = false := h next (List.mem_cons_of_mem call h_next)
    -- the call after an alpha decides whether that was kept, and it was told
    have h_following : (rest.head?.any fun next => next.1.isToggle && isUntold next.2) = false := by
      cases rest with
      | nil => rfl
      | cons next rest =>
        change (next.1.isToggle && isUntold next.2) = false
        rw [h_rest next List.mem_cons_self, Bool.and_false]
    rw [alphasKept, h call List.mem_cons_self, h_following, Bool.or_self, if_neg Bool.false_ne_true,
      ih h_rest]
    cases h_alpha : alpha? call with
    | none => exact (List.filterMap_cons_none h_alpha).symm
    | some alpha => exact (List.filterMap_cons_some h_alpha).symm

/-- What comes later can only cut a block short that it goes on with. -/
theorem alphasKept_append
    (h : ∀ call, later.head? = some call → call.1.isToggle = false) :
    alphasKept (calls ++ later) = alphasKept calls ++ alphasKept later := by
  induction calls with
  | nil => rfl
  | cons call rest ih =>
    have h_following : ((rest ++ later).head?.any fun next => next.1.isToggle && isUntold next.2)
        = rest.head?.any fun next => next.1.isToggle && isUntold next.2 := by
      cases rest with
      | cons next rest => rfl
      | nil =>
        -- the call is the last of its part
        cases h_later : later.head? with
        | none => rw [List.nil_append, h_later]; rfl
        | some next =>
          rw [List.nil_append, h_later]
          change (next.1.isToggle && isUntold next.2) = false
          rw [h next h_later, Bool.false_and]
    rw [List.cons_append, alphasKept, alphasKept, h_following, ih]
    split_ifs
    · rfl
    · exact (List.append_assoc ..).symm

theorem Primitive.isAside_ofVisibility (visible : Bool) :
    (ofVisibility visible).isAside = false := by
  cases visible <;> rfl

theorem Primitive.ofVisibility_injective : Function.Injective ofVisibility := by
  rintro (_ | _) (_ | _) h
  · rfl
  · cases h
  · cases h
  · rfl

theorem alphasKept_of_aside (h : ∀ call ∈ later, call.1.isAside = true) :
    alphasKept later = [] := by
  induction later with
  | nil => rfl
  | cons call rest ih =>
    have h_alpha : alpha? call = none := by
      obtain ⟨primitive, answer⟩ := call
      cases primitive with
      | alpha => cases h _ List.mem_cons_self
      | layerStack | position | size | layer | «show» | hide | destroy => rfl
    rw [alphasKept, h_alpha, ih fun next h_next => h next (List.mem_cons_of_mem call h_next)]
    exact ite_self _

/-- A primitive that is aside does not show or hide. -/
theorem Primitive.isToggle_of_isAside {primitive : Primitive} (h : primitive.isAside = true) :
    primitive.isToggle = false := by
  cases primitive with
  | «show» | hide | alpha => cases h
  | layerStack | position | size | layer | destroy => rfl

theorem toggles_of_aside (h : ∀ call ∈ later, call.1.isAside = true) : toggles later = [] := by
  refine List.filterMap_eq_nil_iff.mpr ?_
  rintro ⟨primitive, answer⟩ h_call
  cases primitive with
  | «show» | hide => cases h _ h_call
  | layerStack | position | size | layer | alpha | destroy => rfl

theorem prompted_of_aside (h : ∀ call ∈ later, call.1.isAside = true) : Prompted later := by
  rintro before visible answer after rfl
  have h_aside := h (.ofVisibility visible, answer) (List.mem_append_right _ List.mem_cons_self)
  rw [Primitive.isAside_ofVisibility] at h_aside
  exact absurd h_aside Bool.false_ne_true

/-- A call is prompted within its own part of the calls. -/
theorem Prompted.append (h : Prompted calls) (h_later : Prompted later) :
    Prompted (calls ++ later) := by
  intro before visible answer after h_eq
  rcases List.append_eq_append_iff.mp h_eq with ⟨between, rfl, h_split⟩ | ⟨between, rfl, h_split⟩
  · -- the call is a later one
    obtain ⟨earlier, alpha, rfl, h_alpha⟩ := h_later between visible answer after h_split
    exact ⟨calls ++ earlier, alpha, (List.append_assoc ..).symm, h_alpha⟩
  · cases between with
    | nil =>
      -- the first of the later calls, which nothing would have prompted
      obtain ⟨earlier, alpha, h_nil, -⟩ := h_later [] visible answer after h_split.symm
      cases List.append_ne_nil_of_right_ne_nil _ (List.cons_ne_nil _ _) h_nil.symm
    | cons call rest =>
      obtain ⟨h_call, -⟩ := List.cons.inj h_split
      exact h before visible answer rest (by rw [h_call])

end Calls

/-! ### What applying an alpha calls for -/

/-- The calls by which a dimmer applies an alpha that is not in place, and the dimmer afterwards. -/
inductive Applies (d : Dimmer) (alpha : Float) : List (Primitive × Option Failure) → Dimmer → Prop
  /-- The alpha was refused, or called for no other visibility. -/
  | alone (answer : Option Failure) :
      Applies d alpha [(.alpha alpha, answer)] (if isUntold answer then d else { d with alpha })
  /-- The other visibility was refused. -/
  | thwarted (visible : Bool) (failure : Failure) (h_due : d.visibilityAt alpha = some visible) :
      Applies d alpha [(.alpha alpha, none), (.ofVisibility visible, some failure)]
        (if isUntold (some failure) then d else { d with alpha })
  /-- The visibility has changed. -/
  | followed (visible : Bool) (h_due : d.visibilityAt alpha = some visible) :
      Applies d alpha [(.alpha alpha, none), (.ofVisibility visible, none)]
        { d with alpha, showing := visible }

/-- An alpha calls for showing only above zero, and for hiding only at zero. -/
theorem Dimmer.alpha_of_visibilityAt {d : Dimmer} {alpha : Float} {visible : Bool}
    (h : d.visibilityAt alpha = some visible) :
    if visible then 0 < alpha else (alpha == 0) = true := by
  unfold visibilityAt at h
  split_ifs at h with h_hide h_show
  · obtain rfl := Option.some.inj h
    exact (Bool.and_eq_true_iff.mp h_hide).1
  · obtain rfl := Option.some.inj h
    exact of_decide_eq_true (Bool.and_eq_true_iff.mp h_show).1

/-- Whatever the surface refuses, an alpha is applied in one of three ways. -/
theorem Dimmer.applies (d : Dimmer) (alpha : Float) (refusal : Primitive → Option Failure) :
    Applies d alpha (attempted refusal (Guarded.applying alpha (d.visibilityAt alpha)).primitives)
      (d.afterBlock alpha refusal) := by
  unfold afterBlock Guarded.escape
  dsimp only
  rw [Guarded.primitives, List.findSome?_cons]
  cases h_alpha : refusal (.alpha alpha) with
  | some failure =>
    -- the alpha itself is refused, and nothing else is issued
    rw [attempted_of_refused h_alpha]
    exact .alone (some failure)
  | none =>
    rw [attempted_of_accepted h_alpha]
    cases h_due : d.visibilityAt alpha with
    | none => exact .alone none
    | some visible =>
      change Applies d alpha (_ :: attempted refusal [.ofVisibility visible])
        (if (([Primitive.ofVisibility visible].findSome? refusal).bind Failure.untold).isSome then d
          else { d with
            alpha
            showing := if ([Primitive.ofVisibility visible].findSome? refusal).isNone then visible
              else d.showing })
      -- a change of visibility is the second and last primitive of the block
      rw [List.findSome?_cons]
      cases h_visible : refusal (.ofVisibility visible) with
      | some failure =>
        rw [attempted_of_refused h_visible]
        exact .thwarted visible failure h_due
      | none =>
        rw [attempted_of_accepted h_visible]
        exact .followed visible h_due

section Applies

variable {d d' : Dimmer} {alpha : Float} {later : List (Primitive × Option Failure)}

/-- However an alpha is applied, it is set first, and only then. -/
theorem Applies.eq_cons (h : Applies d alpha later d') :
    ∃ answer rest, later = (.alpha alpha, answer) :: rest ∧ ∀ call ∈ rest, alpha? call = none := by
  have h_toggle (visible : Bool) (answer : Option Failure) :
      alpha? (.ofVisibility visible, answer) = none := by
    cases visible <;> rfl
  cases h with
  | alone answer => exact ⟨answer, [], rfl, List.forall_mem_nil _⟩
  | thwarted visible failure =>
    exact ⟨none, _, rfl, List.forall_mem_singleton.mpr (h_toggle visible _)⟩
  | followed visible => exact ⟨none, _, rfl, List.forall_mem_singleton.mpr (h_toggle visible _)⟩

theorem Applies.alphas_eq (h : Applies d alpha later d') : alphas later = [alpha] := by
  obtain ⟨answer, rest, rfl, h_rest⟩ := h.eq_cons
  exact congrArg (alpha :: ·) (List.filterMap_eq_nil_iff.mpr h_rest)

theorem Applies.handle_eq (h : Applies d alpha later d') : d'.handle = d.handle := by
  cases h with
  | alone => split_ifs <;> rfl
  | thwarted => split_ifs <;> rfl
  | followed => rfl

/-- The dimmer has the alpha if it is one that is kept. -/
theorem Applies.alpha_eq (h : Applies d alpha later d') :
    d'.alpha = (alphasKept later).getLast?.getD d.alpha := by
  cases h with
  | alone answer =>
    unfold alphasKept
    cases isUntold answer <;> rfl
  | thwarted visible failure =>
    have h_toggle : (Primitive.ofVisibility visible).isToggle = true := by cases visible <;> rfl
    have h_alpha : alpha? (.ofVisibility visible, some failure) = none := by cases visible <;> rfl
    simp only [alphasKept, h_alpha, List.head?_cons, Option.any_some, h_toggle, Bool.true_and]
    cases isUntold (some failure) <;> rfl
  | followed visible => cases visible <;> rfl

/-- The visibility follows an accepted toggle, which there is at most one of. -/
theorem Applies.toggles_eq (h : Applies d alpha later d') :
    (toggles later = [] ∧ d'.showing = d.showing) ∨
      (toggles later = [d'.showing] ∧ d.visibilityAt alpha = some d'.showing) := by
  cases h with
  | alone => exact Or.inl ⟨rfl, by split_ifs <;> rfl⟩
  | thwarted visible failure =>
    exact Or.inl ⟨by cases visible <;> rfl, by split_ifs <;> rfl⟩
  | followed visible h_due => exact Or.inr ⟨by cases visible <;> rfl, h_due⟩

/-- The call for another visibility directly follows the alpha that calls for it. -/
theorem Applies.prompted (h : Applies d alpha later d') : Prompted later := by
  have h_alpha_ne (visible : Bool) : Primitive.alpha alpha ≠ .ofVisibility visible := by
    cases visible <;> exact Primitive.noConfusion
  have h_pair {visible : Bool} (answer : Option Failure)
      (h_due : d.visibilityAt alpha = some visible) :
      Prompted [(.alpha alpha, none), (.ofVisibility visible, answer)] := by
    intro before visible' answer' after h_eq
    -- the change of visibility is the second of two calls, so one call comes before it
    cases before with
    | nil =>
      have h_head := congrArg Prod.fst (List.cons.inj h_eq).1
      exact absurd h_head (h_alpha_ne visible')
    | cons first rest =>
      obtain ⟨rfl, h_rest⟩ := List.cons.inj h_eq
      cases rest with
      | nil =>
        have h_same := congrArg Prod.fst (List.cons.inj h_rest).1
        rw [Primitive.ofVisibility_injective h_same] at h_due
        exact ⟨[], alpha, rfl, Dimmer.alpha_of_visibilityAt h_due⟩
      | cons second rest =>
        cases List.append_ne_nil_of_right_ne_nil rest (List.cons_ne_nil _ _)
          (List.cons.inj h_rest).2.symm
  cases h with
  | alone answer =>
    -- one call that sets an alpha has none that shows or hides
    intro before visible answer' after h_eq
    have h_mem : (Primitive.ofVisibility visible, answer') ∈ [(Primitive.alpha alpha, answer)] :=
      h_eq ▸ List.mem_append_right _ List.mem_cons_self
    exact absurd (congrArg Prod.fst (List.mem_singleton.mp h_mem)).symm (h_alpha_ne visible)
  | thwarted visible failure h_due => exact h_pair (some failure) h_due
  | followed visible h_due => exact h_pair none h_due

end Applies

/-- What a turn comes to by applying an alpha that is not in place. -/
theorem Turn.applies {t : Turn} {alpha : Float} (h_ne : (t.dimmer.alpha == alpha) = false)
    (w : Surroundings) (handle : Handle) :
    ∃ later, Applies t.dimmer alpha later (t.applyAlpha w handle alpha).dimmer ∧
      issued (t.applyAlpha w handle alpha).events = issued t.events ++ later := by
  let block := Guarded.applying alpha (t.dimmer.visibilityAt alpha)
  have h_dimmer := dimmer_applyAlpha_of_ne h_ne w handle
  obtain ⟨message, h_events⟩ := events_applyAlpha h_ne w handle
  refine ⟨_, h_dimmer ▸ t.dimmer.applies alpha w.refusal, ?_⟩
  rw [h_events, issued_append, issued_append, block.issued_events]
  rfl

/-! ### A dimmer and its calls -/

/-- What a dimmer and the calls that it has made so far have to do with each other. -/
structure Attuned (d : Dimmer) (calls : List (Primitive × Option Failure)) : Prop where
  /-- The surface was shown and hidden by turns, and shown first. -/
  alternating : (false :: toggles calls).IsChain (· ≠ ·)
  /-- No alpha was to be set that was kept last, and not zero at first. -/
  distinct : ∀ before alpha answer after, calls = before ++ (.alpha alpha, answer) :: after →
    ((alphasKept before).getLast?.getD 0 == alpha) = false
  prompted : Prompted calls
  /-- The dimmer believes in the visibility that was last brought about. -/
  showing_eq : ∀ handle, d.handle = some handle → d.showing = (toggles calls).getLast?.getD false
  /-- The dimmer believes in the alpha that was kept last. -/
  alpha_eq : ∀ handle, d.handle = some handle → d.alpha = (alphasKept calls).getLast?.getD 0

/-- A chain goes on with what its last element allows. -/
theorem isChain_cons_concat {α : Type} {R : α → α → Prop} {first next : α} {rest : List α}
    (h : (first :: rest).IsChain R) (h_next : R (rest.getLast?.getD first) next) :
    (first :: (rest ++ [next])).IsChain R := by
  refine List.IsChain.append h (List.isChain_singleton next) ?_
  intro last h_last following h_following
  rw [List.getLast?_cons, Option.mem_some_iff] at h_last
  rw [List.head?_cons, Option.mem_some_iff] at h_following
  exact h_last ▸ h_following ▸ h_next

namespace Attuned

variable {d d' : Dimmer} {calls later : List (Primitive × Option Failure)}

/-- An alpha that was to be set was so among the earlier calls, or among the later ones. -/
theorem distinct_append (h : Attuned d calls)
    (h_later : ∀ before alpha answer after, later = before ++ (.alpha alpha, answer) :: after →
      ((alphasKept (calls ++ before)).getLast?.getD 0 == alpha) = false) :
    ∀ before alpha answer after, calls ++ later = before ++ (.alpha alpha, answer) :: after →
      ((alphasKept before).getLast?.getD 0 == alpha) = false := by
  intro before alpha answer after h_eq
  rcases List.append_eq_append_iff.mp h_eq with ⟨between, rfl, h_split⟩ | ⟨between, rfl, h_split⟩
  · exact h_later between alpha answer after h_split
  · cases between with
    | nil =>
      -- the first of the later calls
      have h_first := h_later [] alpha answer after h_split.symm
      rwa [List.append_nil, List.append_nil] at h_first
    | cons call rest =>
      obtain ⟨rfl, -⟩ := List.cons.inj h_split
      exact h.distinct before alpha answer rest rfl

/-- Calls that concern neither alpha nor visibility leave the dimmer attuned, and so does giving the
surface up. -/
theorem aside (h : Attuned d calls) (h_aside : ∀ call ∈ later, call.1.isAside = true)
    (h_held : d'.handle ≠ none →
      d'.handle = d.handle ∧ d'.showing = d.showing ∧ d'.alpha = d.alpha) :
    Attuned d' (calls ++ later) := by
  -- calls aside neither show nor hide, nor do they set an alpha
  have h_toggles : toggles (calls ++ later) = toggles calls := by
    rw [toggles_append, toggles_of_aside h_aside, List.append_nil]
  have h_alphas : alphasKept (calls ++ later) = alphasKept calls := by
    rw [alphasKept_append, alphasKept_of_aside h_aside, List.append_nil]
    exact fun call h_call =>
      Primitive.isToggle_of_isAside (h_aside call (List.mem_of_mem_head? h_call))
  refine ⟨?_, h.distinct_append ?_, h.prompted.append (prompted_of_aside h_aside), ?_, ?_⟩
  · rw [h_toggles]
    exact h.alternating
  · rintro before alpha answer after rfl
    cases h_aside (.alpha alpha, answer) (List.mem_append_right _ List.mem_cons_self)
  · intro handle h_handle
    obtain ⟨h_same, h_showing, -⟩ := h_held (h_handle ▸ Option.some_ne_none handle)
    rw [h_toggles, h_showing]
    exact h.showing_eq handle (h_same.symm.trans h_handle)
  · intro handle h_handle
    obtain ⟨h_same, -, h_alpha⟩ := h_held (h_handle ▸ Option.some_ne_none handle)
    rw [h_alphas, h_alpha]
    exact h.alpha_eq handle (h_same.symm.trans h_handle)

/-- No call at all is needed for that. -/
theorem silent (h : Attuned d calls)
    (h_held : d'.handle ≠ none →
      d'.handle = d.handle ∧ d'.showing = d.showing ∧ d'.alpha = d.alpha) :
    Attuned d' calls := by
  have h_silent : Attuned d' (calls ++ []) := h.aside (List.forall_mem_nil _) h_held
  rwa [List.append_nil] at h_silent

/-- **An alpha that is applied leaves the dimmer attuned**, whatever is refused. -/
theorem applied {alpha : Float} {handle : Handle} (h : Attuned d calls)
    (h_handle : d.handle = some handle) (h_ne : (d.alpha == alpha) = false)
    (h_applies : Applies d alpha later d') : Attuned d' (calls ++ later) := by
  have h_handle' : d'.handle = some handle := h_applies.handle_eq.trans h_handle
  obtain ⟨answer, rest, h_later, h_rest⟩ := h_applies.eq_cons
  have h_new (before : List (Primitive × Option Failure)) (alpha' : Float)
      (answer' : Option Failure) (after : List (Primitive × Option Failure))
      (h_split : later = before ++ (.alpha alpha', answer') :: after) :
      ((alphasKept (calls ++ before)).getLast?.getD 0 == alpha') = false := by
    rw [h_later] at h_split
    cases before with
    | nil =>
      -- the alpha that is applied now
      cases (List.cons.inj h_split).1
      rw [List.append_nil, ← h.alpha_eq handle h_handle]
      exact h_ne
    | cons call before =>
      obtain ⟨-, rfl⟩ := List.cons.inj h_split
      cases h_rest (.alpha alpha', answer') (List.mem_append_right _ List.mem_cons_self)
  have h_distinct := h.distinct_append h_new
  have h_alpha : d'.alpha = (alphasKept (calls ++ later)).getLast?.getD 0 := by
    rw [alphasKept_append, List.getLast?_append, Option.getD_or, ← h.alpha_eq handle h_handle]
    · exact h_applies.alpha_eq
    · intro call h_call
      rw [h_later, List.head?_cons] at h_call
      cases h_call
      rfl
  have h_prompted := h.prompted.append h_applies.prompted
  rcases h_applies.toggles_eq with ⟨h_none, h_showing⟩ | ⟨h_toggled, h_due⟩
  · have h_toggles : toggles (calls ++ later) = toggles calls := by
      rw [toggles_append, h_none, List.append_nil]
    refine ⟨h_toggles ▸ h.alternating, h_distinct, h_prompted, ?_, fun _ _ => h_alpha⟩
    intro _ _
    rw [h_toggles, h_showing]
    exact h.showing_eq handle h_handle
  · have h_toggles : toggles (calls ++ later) = toggles calls ++ [d'.showing] := by
      rw [toggles_append, h_toggled]
    -- a change of visibility is due only where it is one
    have h_alternating : (false :: (toggles calls ++ [d'.showing])).IsChain (· ≠ ·) :=
      isChain_cons_concat h.alternating
        (h.showing_eq handle h_handle ▸ (Dimmer.visibilityAt_ne h_due).symm)
    refine ⟨h_toggles ▸ h_alternating, h_distinct, h_prompted, ?_, fun _ _ => h_alpha⟩
    intro _ _
    rw [h_toggles, List.getLast?_concat, Option.getD_some]

end Attuned

/-- Placing makes calls that concern neither alpha nor visibility. -/
theorem Turn.issued_place (t : Turn) (w : Surroundings) (handle : Handle) (layer : Float) :
    ∃ later, issued (t.place w handle layer).events = issued t.events ++ later ∧
      ∀ call ∈ later, call.1.isAside = true := by
  have h_silent : ∀ call ∈ ([] : List (Primitive × Option Failure)), call.1.isAside = true :=
    List.forall_mem_nil _
  have h_block (p : Placing) : ∃ later,
      issued (t.guard w handle (.placing p)).events = issued t.events ++ later ∧
        ∀ call ∈ later, call.1.isAside = true := by
    refine ⟨attempted w.refusal (Guarded.placing p).primitives, ?_, ?_⟩
    · rw [events_guard, issued_append, Guarded.issued_events]
    · intro call h_call
      have h_mem := mem_of_mem_attempted h_call
      rcases Guarded.mem_primitives_placing h_mem with h_eq | h_eq | h_eq <;> rw [h_eq] <;> rfl
  have h_after := t.afterPlace w handle layer
  generalize t.place w handle layer = t' at h_after ⊢
  -- a warning and a placement in place issue nothing
  cases h_after with
  | unseen => exact ⟨[], issued_append .., h_silent⟩
  | inPlace => exact ⟨[], (List.append_nil _).symm, h_silent⟩
  | settled => exact h_block _
  | cutShort => exact h_block _

/-- Giving the surface up makes one call, which concerns neither. -/
theorem Turn.issued_release {t : Turn} {handle : Handle} (h_handle : t.dimmer.handle = some handle)
    (w : Surroundings) :
    ∃ later, issued (t.release w).events = issued t.events ++ later ∧
      ∀ call ∈ later, call.1.isAside = true := by
  refine ⟨attempted w.refusal Guarded.ending.primitives, ?_, ?_⟩
  · rw [release_of_handle h_handle, ← Guarded.ending.issued_events w.refusal handle]
    change issued ((t.say .debug _).events ++ Guarded.ending.events w.refusal handle) = _
    rw [issued_append, issued_events_say]
  · intro call h_call
    rw [List.mem_singleton.mp (mem_of_mem_attempted h_call)]
    rfl

/-- **Each move keeps the dimmer attuned to its calls**, whatever is refused. -/
theorem Attuned.moves {w : Surroundings} {t t' : Turn}
    {past : List (Primitive × Option Failure)} (h : Attuned t.dimmer (past ++ issued t.events))
    (h_moves : Turn.Moves w t t') : Attuned t'.dimmer (past ++ issued t'.events) := by
  -- on the moves of the turn; only an applied alpha issues calls that count
  induction h_moves with
  | none => exact h
  | @said t' _ level message ih =>
    rw [Turn.issued_events_say]
    exact ih
  | read _ ih => exact ih
  | @placed t' _ handle h_handle layer ih =>
    obtain ⟨later, h_issued, h_aside⟩ := t'.issued_place w handle layer
    obtain ⟨footprint, h_place⟩ := t'.dimmer_place w handle layer
    rw [h_issued, ← List.append_assoc, h_place]
    exact ih.aside h_aside fun _ => ⟨rfl, rfl, rfl⟩
  | @applied t' _ handle h_handle alpha ih =>
    cases h_alpha : t'.dimmer.alpha == alpha with
    | true =>
      rw [Turn.applyAlpha_of_inPlace h_alpha]
      exact ih
    | false =>
      obtain ⟨later, h_applies, h_issued⟩ := Turn.applies h_alpha w handle
      rw [h_issued, ← List.append_assoc]
      exact ih.applied h_handle h_alpha h_applies
  | timed _ _ _ ih => exact ih.silent fun _ => ⟨rfl, rfl, rfl⟩
  | aimed _ _ _ ih => exact ih.silent fun _ => ⟨rfl, rfl, rfl⟩
  | @released t' _ handle h_handle ih =>
    obtain ⟨later, h_issued, h_aside⟩ := Turn.issued_release h_handle w
    rw [h_issued, ← List.append_assoc]
    -- after a release no surface is held, so nothing is claimed of what it shows
    refine ih.aside h_aside (absurd ?_)
    rw [Turn.release_of_handle h_handle]
    rfl
  | @collapsed t' _ h_none operation ih =>
    rw [Turn.collapse, Turn.events_update, Turn.issued_events_say]
    exact ih.silent fun h_held => absurd h_none h_held

theorem attuned_new (options : Options) (display : Float)
    (admission : SurfaceRequest → Except Failure Handle) (refusal : Primitive → Option Failure) :
    Attuned (Dimmer.new options display admission refusal)
      (issued (Dimmer.create options display admission refusal).events) := by
  -- the one primitive that a creation issues binds the surface to its display
  have h_aside : ∀ call ∈ issued (Dimmer.create options display admission refusal).events,
      call.1.isAside = true := by
    rintro ⟨primitive, answer⟩ h_call
    obtain ⟨e, h_mem, h_e⟩ := List.mem_filterMap.mp h_call
    cases e with
    | call surface =>
      cases h_e
      rw [Dimmer.primitive_of_call_mem_create _ _ _ _ h_mem]
      rfl
    | log | requested | opened | closed => cases h_e
  obtain ⟨held, h_new⟩ := Dimmer.new_eq options display admission refusal
  have h_start : Attuned (Dimmer.new options display admission refusal) [] := by
    rw [h_new]
    refine ⟨List.isChain_singleton _, ?_, ?_, fun _ _ => rfl, fun _ _ => rfl⟩
    · intro before alpha answer after h_eq
      cases List.append_ne_nil_of_right_ne_nil before (List.cons_ne_nil _ _) h_eq.symm
    · exact prompted_of_aside (List.forall_mem_nil _)
  exact h_start.aside h_aside fun _ => ⟨rfl, rfl, rfl⟩

/-- Every run keeps the dimmer attuned to its calls. -/
theorem Attuned.after {d : Dimmer} {past : List Event} (h : Attuned d (issued past))
    (steps : List Step) : Attuned (d.after steps) (issued (past ++ d.events steps)) := by
  have h_moves {w : Surroundings} {t t' : Turn} {past : List Event}
      (h : Attuned t.dimmer (issued (past ++ t.events))) (h_moves : Turn.Moves w t t') :
      Attuned t'.dimmer (issued (past ++ t'.events)) := by
    rw [issued_append] at h ⊢
    exact h.moves h_moves
  exact Dimmer.moves_induction (P := fun d events => Attuned d (issued events))
    (fun (_ : True) => h_moves) h fun _ _ => trivial

/-- If each alpha to be set differs from the one before it, no two in a row are equal. -/
theorem isChain_alphas {calls : List (Primitive × Option Failure)}
    (h : ∀ before alpha answer after, calls = before ++ (.alpha alpha, answer) :: after →
      ((alphas before).getLast?.getD 0 == alpha) = false) :
    (0 :: alphas calls).IsChain fun alpha next => (alpha == next) = false := by
  -- on the calls from the last one backwards, since each is compared with those before it
  induction calls using List.reverseRecOn with
  | nil => exact List.isChain_singleton 0
  | append_singleton calls call ih =>
    have h_before := ih fun before alpha answer after h_eq =>
      h before alpha answer (after ++ [call]) (by rw [h_eq, List.append_assoc]; rfl)
    rw [alphas_append]
    cases h_alpha : alpha? call with
    | none =>
      rw [show alphas [call] = [] from List.filterMap_cons_none h_alpha, List.append_nil]
      exact h_before
    | some alpha =>
      rw [show alphas [call] = [alpha] from List.filterMap_cons_some h_alpha]
      obtain ⟨primitive, answer⟩ := call
      cases primitive with
      | alpha =>
        cases h_alpha
        exact isChain_cons_concat h_before (h calls alpha answer [] rfl)
      | layerStack | position | size | layer | «show» | hide | destroy => cases h_alpha

/-- **The surface is shown and hidden by turns, whatever it refuses.** The dimmer was created anyhow
and has since taken any steps. The calls to show and to hide that were accepted alternate, beginning
with one to show, and while the dimmer holds the surface it shows if the last of them was to show,
and not otherwise. Each call to show, refused or not, comes directly after an alpha above zero was
accepted, and each call to hide directly after alpha zero was.

No alpha is to be set that is equal to the one kept last, which is zero at first. If all that was
refused can be told, this is to say that no two alphas in a row that were to be set are equal, and
that the first one is not zero. An alpha whose block was cut short was not kept, and may follow
itself. -/
theorem Dimmer.toggling_of_run (options : Options) (display : Float)
    (admission : SurfaceRequest → Except Failure Handle) (refusal : Primitive → Option Failure)
    (steps : List Step) :
    let d := (new options display admission refusal).after steps
    let calls := issued ((create options display admission refusal).events
      ++ (new options display admission refusal).events steps)
    (false :: toggles calls).IsChain (· ≠ ·) ∧
      (∀ handle, d.handle = some handle →
        (d.showing = true ↔ (toggles calls).getLast? = some true)) ∧
      Prompted calls ∧
      (∀ before alpha answer after, calls = before ++ (.alpha alpha, answer) :: after →
        ((alphasKept before).getLast?.getD 0 == alpha) = false) ∧
      ((∀ call ∈ calls, isUntold call.2 = false) →
        (0 :: alphas calls).IsChain fun alpha next => (alpha == next) = false) := by
  intro d calls
  have h : Attuned d calls := (attuned_new options display admission refusal).after steps
  refine ⟨h.alternating, ?_, h.prompted, h.distinct, ?_⟩
  · intro handle h_handle
    rw [h.showing_eq handle h_handle]
    cases (toggles calls).getLast? with
    | none => exact iff_of_false Bool.false_ne_true (Option.some_ne_none true).symm
    | some visible => exact Option.some_inj.symm
  · intro h_told
    -- told refusals leave every alpha kept, so what was kept last is the alpha before
    apply isChain_alphas
    intro before alpha answer after h_eq
    have h_before (call : Primitive × Option Failure) (h_call : call ∈ before) :
        isUntold call.2 = false := h_told call (h_eq ▸ List.mem_append_left _ h_call)
    rw [← alphasKept_of_told h_before]
    exact h.distinct before alpha answer after h_eq

/-- The alpha that a speechless surface refuses is to be set once more when it is asked for again.
-/
example :
    let again : Step := ⟨.present (.number 5) (.number 0.8) (.number 0), .calm 0⟩
    alphas (issued (Dimmer.fresh.events [Dimmer.speechlessPresent, again])) = [0.8, 0.8] := by
  decide +kernel

end Scrim

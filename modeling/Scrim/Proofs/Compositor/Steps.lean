import Mathlib.Data.List.Basic
import Scrim.Compositor.Basic

/-!
# Steps of a compositor

Everything that can be done to a compositor is a `Step`: transactions are opened and closed,
surfaces created, changed and taken off the screen, displays set. What a step comes to is what
`Compositor.perform` says, and `Compositor.does` lists the cases.

`Altered` is what a compositor can become while only some surfaces are touched, by steps or by
anyone else who works with it. It keeps the numbers on the screen in the order of creation, each of
them that of a surface which is not at its end (`Altered.tidy`), and leaves the other surfaces alone
(`Altered.untouched`).
-/

namespace Scrim.Compositor

/-- Something that is done to a compositor. -/
inductive Step
  /-- Opens a transaction. -/
  | enter
  /-- Closes a transaction. -/
  | leave
  /-- Creates a surface. -/
  | create (request : SurfaceRequest)
  /-- Issues a primitive on a surface. -/
  | issue (id : Nat) (primitive : Primitive)
  /-- Takes a surface off the screen. -/
  | remove (id : Nat)
  /-- Announces a change of a surface. -/
  | beginChange (id : Nat)
  /-- Adds or resizes a display. -/
  | setDisplay (key : Float) (size : Size)

/-- What a change comes to, which leaves the compositor as it was if it is refused. -/
def changed (c : Compositor) : Except Failure Compositor → Closing
  | .ok after => ⟨after, [], .ok ()⟩
  | .error failure => ⟨c, [], .error failure⟩

/-- What a step comes to. -/
def perform (c : Compositor) : Step → Closing
  | .enter => c.changed (.ok c.enter)
  | .leave => c.leave
  | .create request => c.changed ((c.create request).map Prod.fst)
  | .issue id primitive => c.changed (c.issue id primitive)
  | .remove id => c.changed (.ok (c.remove id))
  | .beginChange id => c.changed (c.beginChange id)
  | .setDisplay key size => c.changed (.ok (c.setDisplay key size))

/-- The compositor after a run. -/
def after (c : Compositor) (steps : List Step) : Compositor :=
  steps.foldl (fun c s => (c.perform s).after) c

section

variable {c : Compositor}

@[simp] theorem after_nil (c : Compositor) : c.after [] = c := rfl

theorem after_append (c : Compositor) (earlier later : List Step) :
    c.after (earlier ++ later) = (c.after earlier).after later :=
  List.foldl_append

theorem after_concat (c : Compositor) (steps : List Step) (s : Step) :
    c.after (steps ++ [s]) = ((c.after steps).perform s).after :=
  c.after_append steps [s]

/-! ### What steps come to -/

theorem depth_ne_zero_of_changeRefusal {name : String} (h : c.changeRefusal name = none) :
    c.depth ≠ 0 := by
  intro h_depth
  rw [changeRefusal, if_pos h_depth] at h
  cases h

/-- A primitive is accepted on a surface that is not at its end, inside a transaction. -/
theorem refusal_eq_none_iff {id : Nat} :
    c.refusal id = none ↔
      ∃ surface, c.surfaces[id]? = some surface ∧ surface.destroyed = false ∧ c.depth ≠ 0 := by
  unfold refusal
  cases c.surfaces[id]? with
  | none => simp
  | some surface =>
    -- a surface at its end refuses everything, and another one asks for a transaction
    cases h_destroyed : surface.destroyed with
    | true => simp [h_destroyed]
    | false => simp [changeRefusal, h_destroyed]

/-- What a step can come to. A change that is refused changes nothing, and nothing but closing a
transaction can write lines. -/
inductive Does (c : Compositor) : Step → Closing → Prop
  | refused {s : Step} (h_step : s ≠ .leave) (failure : Failure) : Does c s ⟨c, [], .error failure⟩
  | entered : Does c .enter ⟨c.enter, [], .ok ()⟩
  | left : Does c .leave c.leave
  | added (request : SurfaceRequest) : Does c (.create request) ⟨c.add request, [], .ok ()⟩
  | accepted (id : Nat) (primitive : Primitive) (h_refusal : c.refusal id = none) :
      Does c (.issue id primitive) ⟨c.accept id primitive, [], .ok ()⟩
  | removed (id : Nat) : Does c (.remove id) ⟨c.remove id, [], .ok ()⟩
  | noted (id : Nat) (h_depth : c.depth ≠ 0) :
      Does c (.beginChange id) ⟨{ c with dirty := true }, [], .ok ()⟩
  | resized (key : Float) (size : Size) :
      Does c (.setDisplay key size) ⟨c.setDisplay key size, [], .ok ()⟩

/-- **Each step comes to one of these.** -/
theorem does (c : Compositor) (s : Step) : Does c s (c.perform s) := by
  cases s with
  | enter => exact .entered
  | leave => exact .left
  | create request =>
    change Does c _ (c.changed ((c.create request).map Prod.fst))
    -- a request is granted or refused for its extent
    unfold create
    cases creationRefusal request with
    | some failure => exact .refused Step.noConfusion failure
    | none => exact .added request
  | issue id primitive =>
    change Does c _ (c.changed (c.issue id primitive))
    unfold issue
    cases h_refusal : c.refusal id with
    | some failure => exact .refused Step.noConfusion failure
    | none => exact .accepted id primitive h_refusal
  | remove id => exact .removed id
  | beginChange id =>
    change Does c _ (c.changed (c.beginChange id))
    -- a change can only be announced of a surface that there is, in a transaction
    unfold beginChange
    cases c.surfaces[id]? with
    | none => exact .refused Step.noConfusion _
    | some surface =>
      dsimp only
      cases h : c.changeRefusal surface.name with
      | some failure => exact .refused Step.noConfusion failure
      | none => exact .noted id (depth_ne_zero_of_changeRefusal h)
  | setDisplay key size => exact .resized key size

/-- Closing a transaction changes nothing but the depth and the note of a change. -/
theorem leave_after_eq (c : Compositor) :
    ∃ dirty, c.leave.after = { c with depth := c.depth - 1, dirty } := by
  unfold leave
  -- nothing is open, the last transaction closes, or an inner one does
  split_ifs with h_depth
  · exact ⟨c.dirty, by rw [h_depth]; cases c; simp_all⟩
  · exact ⟨false, rfl⟩
  · exact ⟨c.dirty, rfl⟩

/-- Surfaces stay as they are, also where the frame fails. -/
theorem surfaces_leave (c : Compositor) : c.leave.after.surfaces = c.surfaces := by
  obtain ⟨dirty, h_leave⟩ := c.leave_after_eq
  rw [h_leave]

/-! ### Fresh compositors -/

/-- A new compositor has displays, and nothing else. -/
theorem ofDisplays_eq (displays : List (Float × Size)) (style : StatusStyle) :
    ∃ entries, ofDisplays displays style = { displays := entries, style } := by
  -- displays are set one after the other, over any that there are
  have h_fold (entries : List (Float × Size)) :
      ∃ entries', displays.foldl (fun c entry => c.setDisplay entry.1 entry.2)
        ({ displays := entries, style } : Compositor) = { displays := entries', style } := by
    induction displays generalizing entries with
    | nil => exact ⟨entries, rfl⟩
    | cons entry rest ih => exact ih _
  exact h_fold []

/-! ### The numbers on the screen -/

/-- The numbers on the screen are in the order of creation, and each is that of a surface which is
not at its end. -/
structure Tidy (c : Compositor) : Prop where
  ordered : c.live.Pairwise (· < ·)
  exist : ∀ id ∈ c.live, ∃ surface, c.surfaces[id]? = some surface ∧ surface.destroyed = false

namespace Tidy

/-- What is on the screen is each surface whose number is, in this order. -/
theorem map_live (h : c.Tidy) :
    c.live.map (fun id => c.surfaces[id]?) = c.liveSurfaces.map some := by
  have h_exist := h.exist
  unfold liveSurfaces
  generalize c.live = live at h_exist
  induction live with
  | nil => rfl
  | cons id rest ih =>
    obtain ⟨surface, h_surface, -⟩ := h_exist id List.mem_cons_self
    -- the first number is that of a surface, and so it is not skipped
    rw [List.filterMap_cons_some h_surface, List.map_cons, List.map_cons, h_surface,
      ih fun id' h' => h_exist id' (List.mem_cons_of_mem id h')]

theorem remove (h : c.Tidy) (id : Nat) : (c.remove id).Tidy where
  ordered := h.ordered.sublist List.erase_sublist
  exist id' h' := h.exist id' (List.mem_of_mem_erase h')

theorem add (h : c.Tidy) (request : SurfaceRequest) : (c.add request).Tidy where
  ordered := by
    refine List.pairwise_append.mpr ⟨h.ordered, List.pairwise_singleton _ _, ?_⟩
    intro id h_live n hn
    obtain rfl := List.mem_singleton.mp hn
    -- the new number is greater than that of any surface that there is
    obtain ⟨surface, h_surface, -⟩ := h.exist id h_live
    exact (List.getElem?_eq_some_iff.mp h_surface).1
  exist id h_live := by
    rcases List.mem_append.mp h_live with h_before | h_new
    · obtain ⟨surface, h_surface, h_alive⟩ := h.exist id h_before
      have h_bound := (List.getElem?_eq_some_iff.mp h_surface).1
      exact ⟨surface, (List.getElem?_append_left h_bound).trans h_surface, h_alive⟩
    · obtain rfl := List.mem_singleton.mp h_new
      exact ⟨.ofRequest request, List.getElem?_concat_length, rfl⟩

end Tidy

end

/-- Only ending a surface puts an end to it. -/
theorem Surface.destroyed_after {s : Surface} {primitive : Primitive} (h : primitive ≠ .destroy) :
    (s.after primitive).destroyed = s.destroyed := by
  cases primitive <;> first | rfl | exact absurd rfl h

section

variable {c : Compositor}

/-- The surfaces after an accepted primitive. -/
theorem surfaces_accept (c : Compositor) (id : Nat) (primitive : Primitive) :
    (c.accept id primitive).surfaces = c.surfaces.modify id fun s => s.after primitive := by
  cases primitive <;> rfl

theorem live_accept_destroy (c : Compositor) (id : Nat) :
    (c.accept id .destroy).live = c.live.erase id := rfl

theorem live_accept (c : Compositor) (id : Nat) {primitive : Primitive} (h : primitive ≠ .destroy) :
    (c.accept id primitive).live = c.live := by
  cases primitive <;> first | rfl | exact absurd rfl h

theorem dirty_accept (c : Compositor) (id : Nat) (primitive : Primitive) :
    (c.accept id primitive).dirty = true := by
  cases primitive <;> rfl

/-- What stands at a number after an accepted primitive. -/
theorem getElem?_surfaces_accept (c : Compositor) (id : Nat) (primitive : Primitive) (id' : Nat) :
    (c.accept id primitive).surfaces[id']?
      = if id = id' then (c.surfaces[id']?).map fun s => s.after primitive
        else c.surfaces[id']? := by
  rw [surfaces_accept, List.getElem?_modify]
  split_ifs <;> simp

namespace Tidy

theorem accept (h : c.Tidy) (id : Nat) (primitive : Primitive) : (c.accept id primitive).Tidy := by
  by_cases h_destroy : primitive = .destroy
  · subst h_destroy
    refine ⟨h.ordered.sublist List.erase_sublist, ?_⟩
    intro id' h_live
    -- the surface that ends is no longer among them
    have h_nodup : c.live.Nodup := h.ordered.imp Nat.ne_of_lt
    obtain ⟨h_ne, h_before⟩ := h_nodup.mem_erase_iff.mp h_live
    rw [getElem?_surfaces_accept, if_neg h_ne.symm]
    exact h.exist id' h_before
  · refine ⟨?_, ?_⟩
    · -- another primitive takes no number away, and puts no surface to its end
      rw [live_accept c id h_destroy]
      exact h.ordered
    · intro id' h_live
      rw [live_accept c id h_destroy] at h_live
      obtain ⟨surface, h_surface, h_alive⟩ := h.exist id' h_live
      rw [getElem?_surfaces_accept, h_surface]
      split_ifs
      · exact ⟨_, rfl, (Surface.destroyed_after h_destroy).trans h_alive⟩
      · exact ⟨surface, rfl, h_alive⟩

end Tidy

/-! ### What a compositor can become -/

/-- What a compositor can have become while only the surfaces of some numbers were touched. -/
inductive Altered (touched : Nat → Prop) (c : Compositor) : Compositor → Prop
  | none : Altered touched c c
  | entered {c' : Compositor} (h : Altered touched c c') : Altered touched c c'.enter
  | left {c' : Compositor} (h : Altered touched c c') : Altered touched c c'.leave.after
  | added {c' : Compositor} (h : Altered touched c c') (request : SurfaceRequest) :
      Altered touched c (c'.add request)
  | accepted {c' : Compositor} (h : Altered touched c c') {id : Nat} (h_id : touched id)
      (primitive : Primitive) : Altered touched c (c'.accept id primitive)
  | removed {c' : Compositor} (h : Altered touched c c') {id : Nat} (h_id : touched id) :
      Altered touched c (c'.remove id)
  | noted {c' : Compositor} (h : Altered touched c c') : Altered touched c { c' with dirty := true }
  | resized {c' : Compositor} (h : Altered touched c c') (key : Float) (size : Size) :
      Altered touched c (c'.setDisplay key size)

namespace Altered

variable {touched : Nat → Prop} {c c' c'' : Compositor}

theorem trans (h : Altered touched c c') (h' : Altered touched c' c'') : Altered touched c c'' := by
  induction h' with
  | none => exact h
  | entered _ ih => exact ih.entered
  | left _ ih => exact ih.left
  | added _ request ih => exact ih.added request
  | accepted _ h_id primitive ih => exact ih.accepted h_id primitive
  | removed _ h_id ih => exact ih.removed h_id
  | noted _ ih => exact ih.noted
  | resized _ key size ih => exact ih.resized key size

theorem mono {touched' : Nat → Prop} (h : Altered touched c c')
    (h_touched : ∀ id, touched id → touched' id) : Altered touched' c c' := by
  induction h with
  | none => exact .none
  | entered _ ih => exact ih.entered
  | left _ ih => exact ih.left
  | added _ request ih => exact ih.added request
  | accepted _ h_id primitive ih => exact ih.accepted (h_touched _ h_id) primitive
  | removed _ h_id ih => exact ih.removed (h_touched _ h_id)
  | noted _ ih => exact ih.noted
  | resized _ key size ih => exact ih.resized key size

/-- **Whatever is done keeps the screen tidy.** -/
theorem tidy (h : Altered touched c c') (h_tidy : c.Tidy) : c'.Tidy := by
  induction h with
  | none => exact h_tidy
  | @left c' _ ih =>
    obtain ⟨dirty, h_after⟩ := c'.leave_after_eq
    rw [h_after]
    exact ⟨ih.ordered, ih.exist⟩
  | added _ request ih => exact ih.add request
  | accepted _ h_id primitive ih => exact ih.accept _ primitive
  | removed _ h_id ih => exact ih.remove _
  | entered _ ih | noted _ ih | resized _ _ _ ih => exact ⟨ih.ordered, ih.exist⟩

/-- Surfaces do not cease to have been created. -/
theorem length_le (h : Altered touched c c') : c.surfaces.length ≤ c'.surfaces.length := by
  induction h with
  | none => exact Nat.le_refl _
  | @left c' _ ih =>
    obtain ⟨dirty, h_after⟩ := c'.leave_after_eq
    rw [h_after]
    exact ih
  | added _ request ih =>
    -- one more surface is there than before
    refine Nat.le_trans ih ?_
    change _ ≤ (_ ++ [_]).length
    rw [List.length_append]
    exact Nat.le_add_right ..
  | accepted _ h_id primitive ih => rwa [surfaces_accept, List.length_modify]
  | entered _ ih | noted _ ih | resized _ _ _ ih | removed _ _ ih => exact ih

/-- **A surface that is not touched stays as it is**, and stays on the screen or off it. -/
theorem untouched (h : Altered touched c c') {id : Nat} (h_id : ¬touched id)
    (h_bound : id < c.surfaces.length) :
    c'.surfaces[id]? = c.surfaces[id]? ∧ (id ∈ c'.live ↔ id ∈ c.live) := by
  induction h with
  | none => exact ⟨rfl, Iff.rfl⟩
  | @left c' _ ih =>
    obtain ⟨dirty, h_after⟩ := c'.leave_after_eq
    rw [h_after]
    exact ih
  | @added c' h request ih =>
    -- the new number is not this one, which was there before
    have h_before : id < c'.surfaces.length := Nat.lt_of_lt_of_le h_bound h.length_le
    refine ⟨(List.getElem?_append_left h_before).trans ih.1, ?_⟩
    change id ∈ c'.live ++ [c'.surfaces.length] ↔ _
    rw [List.mem_append, List.mem_singleton, or_iff_left (Nat.ne_of_lt h_before), ih.2]
  | @accepted c' _ id' h_touched primitive ih =>
    -- the primitive is on a surface that is touched, and so on another one
    have h_ne : id' ≠ id := fun h_eq => h_id (h_eq ▸ h_touched)
    refine ⟨?_, ?_⟩
    · rw [getElem?_surfaces_accept, if_neg h_ne]
      exact ih.1
    · by_cases h_destroy : primitive = .destroy
      · rw [h_destroy, live_accept_destroy, List.mem_erase_of_ne h_ne.symm]
        exact ih.2
      · rw [live_accept c' id' h_destroy]
        exact ih.2
  | @removed c' _ id' h_touched ih =>
    have h_ne : id ≠ id' := fun h_eq => h_id (h_eq ▸ h_touched)
    exact ⟨ih.1, (List.mem_erase_of_ne h_ne).trans ih.2⟩
  | entered _ ih | noted _ ih | resized _ _ _ ih => exact ih

end Altered

/-- Every step alters the compositor in one of these ways. -/
theorem altered_perform (c : Compositor) (s : Step) :
    Altered (fun _ => True) c (c.perform s).after := by
  have h_does := c.does s
  generalize c.perform s = done at h_does ⊢
  cases h_does with
  | refused => exact .none
  | entered => exact Altered.none.entered
  | left => exact Altered.none.left
  | added request => exact Altered.none.added request
  | accepted id primitive => exact Altered.none.accepted trivial primitive
  | removed id => exact Altered.none.removed trivial
  | noted => exact Altered.none.noted
  | resized key size => exact Altered.none.resized key size

theorem tidy_ofDisplays (displays : List (Float × Size)) (style : StatusStyle) :
    (ofDisplays displays style).Tidy := by
  obtain ⟨entries, h_eq⟩ := ofDisplays_eq displays style
  rw [h_eq]
  exact ⟨List.Pairwise.nil, fun id h => by cases h⟩

/-- Every run keeps the screen tidy. -/
theorem Tidy.after (h : c.Tidy) (steps : List Step) : (c.after steps).Tidy := by
  induction steps generalizing c with
  | nil => exact h
  | cons s rest ih => exact ih ((c.altered_perform s).tidy h)

end

end Scrim.Compositor

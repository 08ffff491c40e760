import Mathlib.Data.List.Induction
import Scrim.Proofs.Compositor.Steps

/-!
# How long surfaces live

A surface is on the screen from its creation until it is destroyed or taken off, and nothing else
puts it there or takes it away. `accounted_after` says so of every run, in terms of the steps that
end a surface (`Ends`) or take it off (`TakesOff`), and says which surfaces know that they are at
their end.

A primitive either is refused, and then nothing at all has changed, or it changes the surface that
it is about and no other (`perform_issue_of_refused`, `perform_issue_of_accepted`).
-/

namespace Scrim.Compositor

/-! ### What has happened in a run -/

/-- A step of some kind was taken in the course of a run. -/
def Happened (P : Compositor → Step → Prop) (c : Compositor) (steps : List Step) : Prop :=
  ∃ earlier s later, steps = earlier ++ s :: later ∧ P (c.after earlier) s

theorem not_happened_nil {P : Compositor → Step → Prop} {c : Compositor} : ¬c.Happened P [] := by
  rintro ⟨earlier, s, later, h_steps, -⟩
  exact List.append_ne_nil_of_right_ne_nil _ (List.cons_ne_nil _ _) h_steps.symm

/-- What has happened after a step had happened before it, or is the step itself. -/
theorem happened_concat_iff {P : Compositor → Step → Prop} {c : Compositor} {steps : List Step}
    {s : Step} : c.Happened P (steps ++ [s]) ↔ c.Happened P steps ∨ P (c.after steps) s := by
  refine ⟨?_, ?_⟩
  · rintro ⟨earlier, s', later, h_steps, h⟩
    -- the step that was taken is the last one, or comes before it
    rcases List.eq_nil_or_concat' later with rfl | ⟨later, last, rfl⟩
    · obtain ⟨rfl, h_last⟩ := List.append_inj' h_steps rfl
      obtain rfl := List.singleton_inj.mp h_last
      exact Or.inr h
    · rw [← List.cons_append, ← List.append_assoc] at h_steps
      obtain ⟨rfl, -⟩ := List.append_inj' h_steps rfl
      exact Or.inl ⟨earlier, s', later, rfl, h⟩
  · rintro (⟨earlier, s', later, rfl, h⟩ | h)
    · exact ⟨earlier, s', later ++ [s], by rw [List.append_assoc, List.cons_append], h⟩
    · exact ⟨steps, s, [], rfl, h⟩

/-- A step that puts an end to the surface of a number: it is destroyed, and that is accepted. -/
def Ends (id : Nat) (c : Compositor) (s : Step) : Prop :=
  s = .issue id .destroy ∧ (c.perform s).outcome = .ok ()

/-- A step that takes the surface of a number off the screen without ending it. A number that no
surface has yet means none. -/
def TakesOff (id : Nat) (c : Compositor) (s : Step) : Prop :=
  s = .remove id ∧ id < c.surfaces.length

/-- What a step asks for, if that is granted. -/
def Step.granted? : Step → Option SurfaceRequest
  | .create request => if (creationRefusal request).isNone then some request else none
  | _ => none

section

variable {c : Compositor} {id : Nat} {s : Step}

/-! ### Primitives -/

/-- **A refused primitive fails and changes nothing.** -/
theorem perform_issue_of_refused {failure : Failure} (h : c.refusal id = some failure)
    (primitive : Primitive) :
    c.perform (.issue id primitive) = ⟨c, [], .error failure⟩ := by
  change c.changed (c.issue id primitive) = _
  rw [issue, h]
  rfl

/-- **An accepted primitive changes its surface**, and if that is the end of the surface, takes it
off the screen. -/
theorem perform_issue_of_accepted (h : c.refusal id = none) (primitive : Primitive) :
    c.perform (.issue id primitive) = ⟨c.accept id primitive, [], .ok ()⟩ := by
  change c.changed (c.issue id primitive) = _
  rw [issue, h]
  rfl

theorem outcome_perform_issue_iff {primitive : Primitive} :
    (c.perform (.issue id primitive)).outcome = .ok () ↔ c.refusal id = none := by
  cases h : c.refusal id with
  | none => simp [perform_issue_of_accepted h]
  | some failure => simp [perform_issue_of_refused h]

/-- What an accepted primitive does to the surfaces, to the list of those on the screen, and to the
rest. -/
theorem accept_eq {surface : Surface} (h_tidy : c.Tidy) (h_surface : c.surfaces[id]? = some surface)
    (primitive : Primitive) :
    c.accept id primitive
      = { c with
          surfaces := c.surfaces.set id (surface.after primitive)
          live := if primitive.kind = .destroy then c.live.filter (· != id) else c.live
          dirty := true } := by
  -- the surface is there, so changing it is replacing it
  have h_surfaces : c.surfaces.modify id (fun s => s.after primitive)
      = c.surfaces.set id (surface.after primitive) := by
    obtain ⟨h_bound, h_get⟩ := List.getElem?_eq_some_iff.mp h_surface
    rw [List.modify_eq_set_get _ h_bound, List.get_eq_getElem, h_get]
  have h_nodup : c.live.Nodup := h_tidy.ordered.imp Nat.ne_of_lt
  -- no number is there twice, so that to take one away once is to leave none
  have h_live : c.live.erase id = c.live.filter (· != id) := h_nodup.erase_eq_filter id
  cases primitive with
  | destroy =>
    unfold accept remove
    dsimp only
    rw [h_surfaces, h_live]
    rfl
  | layerStack | position | size | layer | alpha | «show» | hide =>
    unfold accept
    dsimp only
    rw [h_surfaces]
    rfl

/-! ### Surfaces and their names -/

/-- Every surface that is granted is added, under the name that it was asked for, and keeps it. -/
theorem names_perform (c : Compositor) (s : Step) :
    (c.perform s).after.surfaces.map Surface.name
      = c.surfaces.map Surface.name ++ s.granted?.toList.map SurfaceRequest.name := by
  have h_does := c.does s
  cases s with
  | create request =>
    change (c.changed ((c.create request).map Prod.fst)).after.surfaces.map _ = _
    -- a surface is added exactly if the request is granted
    unfold create Step.granted?
    dsimp only
    cases creationRefusal request with
    | some failure => exact (List.append_nil _).symm
    | none => exact List.map_append
  | issue id primitive =>
    rw [show (Step.issue id primitive).granted? = none from rfl, Option.toList_none, List.map_nil,
      List.append_nil]
    generalize c.perform (.issue id primitive) = done at h_does ⊢
    cases h_does with
    | refused => rfl
    | accepted =>
      -- a primitive changes much of a surface, but not its name
      rw [surfaces_accept]
      refine List.ext_getElem? fun i => ?_
      rw [List.getElem?_map, List.getElem?_map, List.getElem?_modify]
      cases c.surfaces[i]? with
      | none => rfl
      | some surface =>
        split
        · cases primitive <;> rfl
        · rfl
  | leave =>
    change c.leave.after.surfaces.map _ = _
    rw [surfaces_leave]
    exact (List.append_nil _).symm
  | enter | remove | beginChange | setDisplay =>
    generalize c.perform _ = done at h_does ⊢
    cases h_does <;> exact (List.append_nil _).symm

/-- **The surfaces are those that were granted**, in this order. -/
theorem names_after (c : Compositor) (steps : List Step) :
    (c.after steps).surfaces.map Surface.name
      = c.surfaces.map Surface.name
        ++ (steps.filterMap Step.granted?).map SurfaceRequest.name := by
  induction steps using List.reverseRecOn with
  | nil => exact (List.append_nil _).symm
  | append_singleton steps s ih =>
    rw [after_concat, names_perform, ih, List.filterMap_append, List.map_append, List.append_assoc]
    cases h : s.granted? <;> simp [h]

/-! ### Ends -/

/-- A surface that can end has been created. -/
theorem Ends.created (h : c.Ends id s) : id < c.surfaces.length := by
  obtain ⟨rfl, h_ok⟩ := h
  obtain ⟨surface, h_surface, -⟩ := refusal_eq_none_iff.mp (outcome_perform_issue_iff.mp h_ok)
  exact (List.getElem?_eq_some_iff.mp h_surface).1

/-- **A surface is at its end after a step if it was before it, or the step ends it.** -/
theorem destroyed_perform_iff {surface : Surface}
    (h_surface : (c.perform s).after.surfaces[id]? = some surface) :
    surface.destroyed = true ↔
      (∃ before, c.surfaces[id]? = some before ∧ before.destroyed = true) ∨ c.Ends id s := by
  unfold Ends
  have h_does := c.does s
  generalize c.perform s = done at h_does h_surface ⊢
  cases h_does with
  | refused => simp_all
  | entered => simp_all [enter]
  | left =>
    rw [surfaces_leave] at h_surface
    simp_all
  | added request =>
    have h_added : (c.surfaces ++ [.ofRequest request])[id]? = some surface := h_surface
    by_cases h_bound : id < c.surfaces.length
    · rw [List.getElem?_append_left h_bound] at h_added
      simp_all
    · -- a new surface is not at its end
      have h_new : surface = .ofRequest request := by
        have h_mem := h_added
        rw [List.getElem?_append_right (Nat.le_of_not_lt h_bound)] at h_mem
        exact List.mem_singleton.mp (List.mem_of_getElem? h_mem)
      have h_none : c.surfaces[id]? = none := List.getElem?_eq_none (Nat.le_of_not_lt h_bound)
      simp [h_new, h_none, Surface.ofRequest]
  | accepted id' primitive h_refusal =>
    rw [getElem?_surfaces_accept] at h_surface
    by_cases h_id : id' = id
    · subst h_id
      rw [if_pos rfl] at h_surface
      obtain ⟨before, h_before, rfl⟩ := Option.map_eq_some_iff.mp h_surface
      -- a destroyed surface has just ended, and any other is as it was
      by_cases h_destroy : primitive = .destroy
      · subst h_destroy
        simp [Surface.after]
      · rw [Surface.destroyed_after h_destroy]
        simp [h_before, h_destroy]
    · rw [if_neg h_id] at h_surface
      simp_all
  | removed => simp_all [remove]
  | noted => simp_all
  | resized => simp_all [setDisplay]

/-- **What is on the screen after a step** was there before it or is new, and the step neither ends
it nor takes it off. -/
theorem live_perform_iff (h_tidy : c.Tidy) :
    id ∈ (c.perform s).after.live ↔
      (id ∈ c.live ∨ c.surfaces.length ≤ id ∧ id < (c.perform s).after.surfaces.length) ∧
        ¬c.Ends id s ∧ ¬c.TakesOff id s := by
  have h_nodup : c.live.Nodup := h_tidy.ordered.imp Nat.ne_of_lt
  have h_created (h : id ∈ c.live) : id < c.surfaces.length := by
    obtain ⟨surface, h_surface, -⟩ := h_tidy.exist id h
    exact (List.getElem?_eq_some_iff.mp h_surface).1
  by_cases h_remove : ∃ id', s = .remove id'
  · obtain ⟨id', rfl⟩ := h_remove
    have h_ends : ¬c.Ends id (.remove id') := fun h => Step.noConfusion h.1
    change id ∈ c.live.erase id' ↔ (id ∈ c.live ∨ c.surfaces.length ≤ id ∧ id < c.surfaces.length)
      ∧ ¬c.Ends id (.remove id') ∧ ¬c.TakesOff id (.remove id')
    -- the number of another surface stays, and this one is taken off
    rw [h_nodup.mem_erase_iff]
    simp only [TakesOff, h_ends, Step.remove.injEq]
    grind
  · have h_takes : ¬c.TakesOff id s := fun h => h_remove ⟨id, h.1⟩
    -- where no surface is added, none is new
    have h_new : (c.surfaces.length ≤ id ∧ id < c.surfaces.length) = False := by
      rw [eq_iff_iff, iff_false]
      omega
    simp only [h_takes, not_false_eq_true, and_true]
    unfold Ends
    have h_does := c.does s
    generalize c.perform s = done at h_does ⊢
    cases h_does with
    | refused => simp only [h_new, reduceCtorEq, and_false, or_false, not_false_eq_true, and_true]
    | entered => simp [enter, h_new]
    | left =>
      obtain ⟨dirty, h_leave⟩ := c.leave_after_eq
      simp [h_leave, h_new]
    | added request => simp [add]; grind
    | accepted id' primitive h_refusal =>
      have h_length : (c.accept id' primitive).surfaces.length = c.surfaces.length := by
        rw [surfaces_accept, List.length_modify]
      by_cases h_destroy : primitive = .destroy
      · subst h_destroy
        -- the end takes the number of the surface away, and no other
        rw [live_accept_destroy, h_nodup.mem_erase_iff, h_length, h_new]
        simp [and_comm, eq_comm]
      · rw [live_accept c id' h_destroy, h_length, h_new]
        simp [h_destroy]
    | removed => exact absurd ⟨_, rfl⟩ h_remove
    | noted => simp [h_new]
    | resized => simp [setDisplay, h_new]

/-! ### Runs -/

/-- The screen after a run, and what its surfaces have come to. -/
structure Accounted (fresh : Compositor) (steps : List Step) : Prop where
  tidy : (fresh.after steps).Tidy
  live : ∀ id, id ∈ (fresh.after steps).live ↔ id < (fresh.after steps).surfaces.length ∧
    ¬fresh.Happened (Ends id) steps ∧ ¬fresh.Happened (TakesOff id) steps
  destroyed : ∀ id surface, (fresh.after steps).surfaces[id]? = some surface →
    (surface.destroyed = true ↔ fresh.Happened (Ends id) steps)
  created : ∀ id, fresh.Happened (Ends id) steps ∨ fresh.Happened (TakesOff id) steps →
    id < (fresh.after steps).surfaces.length

/-- Each step keeps account of the surfaces. -/
theorem Accounted.concat {fresh : Compositor} {steps : List Step} (h : fresh.Accounted steps)
    (s : Step) : fresh.Accounted (steps ++ [s]) := by
  have h_altered := (fresh.after steps).altered_perform s
  have h_length := h_altered.length_le
  refine ⟨?_, ?_, ?_, ?_⟩
  · rw [after_concat]
    exact h_altered.tidy h.tidy
  · intro id
    rw [after_concat, happened_concat_iff, happened_concat_iff, live_perform_iff h.tidy, h.live]
    have h_created := h.created id
    -- a surface that is new in this step has not been ended or taken off before
    grind
  · intro id surface h_surface
    rw [after_concat] at h_surface
    rw [destroyed_perform_iff h_surface, happened_concat_iff]
    refine or_congr ⟨?_, ?_⟩ Iff.rfl
    · rintro ⟨before, h_before, h_destroyed⟩
      exact (h.destroyed id before h_before).mp h_destroyed
    · intro h_ended
      have h_before := List.getElem?_eq_getElem (h.created id (Or.inl h_ended))
      exact ⟨_, h_before, (h.destroyed id _ h_before).mpr h_ended⟩
  · intro id h_happened
    rw [happened_concat_iff, happened_concat_iff] at h_happened
    rw [after_concat]
    -- whatever has come to its end was created before, and none ceases to have been
    rcases h_happened with (h_before | h_now) | h_before | h_now
    · exact Nat.lt_of_lt_of_le (h.created id (Or.inl h_before)) h_length
    · exact Nat.lt_of_lt_of_le h_now.created h_length
    · exact Nat.lt_of_lt_of_le (h.created id (Or.inr h_before)) h_length
    · exact Nat.lt_of_lt_of_le h_now.2 h_length

/-- **Every run keeps account of the surfaces.** -/
theorem accounted_after (displays : List (Float × Size)) (style : StatusStyle)
    (steps : List Step) : (ofDisplays displays style).Accounted steps := by
  induction steps using List.reverseRecOn with
  | nil =>
    -- a fresh compositor has no surfaces
    obtain ⟨entries, h_fresh⟩ := ofDisplays_eq displays style
    refine ⟨tidy_ofDisplays displays style, ?_, ?_, ?_⟩
    · simp [h_fresh]
    · simp [h_fresh]
    · intro id h_happened
      rcases h_happened with h | h <;> exact absurd h not_happened_nil
  | append_singleton steps s ih => exact ih.concat s

end

/-- **What is on the screen, and what primitives can do.** A compositor has taken any steps since it
was new. Its surfaces are those that were asked for and granted. On the screen, each once and in the
order of creation, are those of them that have neither been destroyed nor taken off, and none that
is destroyed.

A primitive on a surface succeeds exactly if the surface is not destroyed and a transaction is open.
If it does not, it fails for the first of these that is not so, and nothing has changed. If it does,
no surface but this one is changed, and nothing else but that the change is noted and a destroyed
surface leaves the screen. -/
theorem surfaces_of_run (displays : List (Float × Size)) (style : StatusStyle)
    (steps : List Step) :
    let fresh := ofDisplays displays style
    let c := fresh.after steps
    c.surfaces.map Surface.name = (steps.filterMap Step.granted?).map SurfaceRequest.name ∧
      c.live.Pairwise (· < ·) ∧
      (∀ id, id ∈ c.live ↔ id < c.surfaces.length ∧ ¬fresh.Happened (Ends id) steps ∧
        ¬fresh.Happened (TakesOff id) steps) ∧
      ∀ id surface, c.surfaces[id]? = some surface →
        (surface.destroyed = true ↔ fresh.Happened (Ends id) steps) ∧
          ∀ primitive,
            let done := c.perform (.issue id primitive)
            (done.outcome = .ok () ↔ surface.destroyed = false ∧ c.depth ≠ 0) ∧
              (surface.destroyed = true →
                done = ⟨c, [], .error (.destroyed surface.name)⟩) ∧
              (surface.destroyed = false → c.depth = 0 →
                done = ⟨c, [], .error (.outsideTransaction surface.name)⟩) ∧
              (surface.destroyed = false → c.depth ≠ 0 →
                done.lines = [] ∧
                  done.after = { c with
                    surfaces := c.surfaces.set id (surface.after primitive)
                    live := if primitive.kind = .destroy then c.live.filter (· != id) else c.live
                    dirty := true }) := by
  intro fresh c
  have h_accounted : fresh.Accounted steps := accounted_after displays style steps
  refine ⟨?_, h_accounted.tidy.ordered, h_accounted.live, ?_⟩
  · obtain ⟨entries, h_fresh⟩ := ofDisplays_eq displays style
    have h_none : fresh.surfaces = [] := by rw [show fresh = _ from h_fresh]
    have h_names := fresh.names_after steps
    rwa [h_none, List.map_nil, List.nil_append] at h_names
  · intro id surface h_surface
    refine ⟨h_accounted.destroyed id surface h_surface, fun primitive => ?_⟩
    have h_refusal : c.refusal id
        = if surface.destroyed then some (.destroyed surface.name)
          else c.changeRefusal surface.name := by
      unfold refusal
      rw [h_surface]
    refine ⟨?_, ?_, ?_, ?_⟩
    · rw [outcome_perform_issue_iff, refusal_eq_none_iff]
      simp [h_surface]
    · intro h_destroyed
      rw [if_pos h_destroyed] at h_refusal
      exact perform_issue_of_refused h_refusal primitive
    · intro h_alive h_depth
      rw [h_alive, if_neg Bool.false_ne_true, changeRefusal, if_pos h_depth] at h_refusal
      exact perform_issue_of_refused h_refusal primitive
    · intro h_alive h_depth
      rw [h_alive, if_neg Bool.false_ne_true, changeRefusal, if_neg h_depth] at h_refusal
      rw [perform_issue_of_accepted h_refusal, accept_eq h_accounted.tidy h_surface]
      exact ⟨rfl, rfl⟩

/-- Four surfaces are created, but one of them in vain; one is taken off, one destroyed, and the
last is told to show where no transaction is open. -/
def comingAndGoing : List Step :=
  [.create { name := "A", width := 16, height := 16 },
    .create { name := "none", width := 0, height := 16 },
    .create { name := "B", width := 16, height := 16 },
    .create { name := "C", width := 16, height := 16 }, .remove 0,
    .enter, .issue 1 .destroy, .leave]

/-- Only the last one is still there, the destroyed one says that it is so, and the other two that
no transaction is open. -/
theorem surfaces_of_comingAndGoing :
    let c := (ofDisplays [] {}).after comingAndGoing
    c.surfaces.map Surface.name = ["A", "B", "C"] ∧ c.live = [2] ∧
      c.perform (.issue 1 .show) = ⟨c, [], .error (.destroyed "B")⟩ ∧
      c.perform (.issue 0 .show) = ⟨c, [], .error (.outsideTransaction "A")⟩ ∧
      (c.enter.perform (.issue 0 .show)).outcome = .ok () := by
  intro c
  have h_ended : ∃ surface, c.surfaces[1]? = some surface ∧ surface.destroyed = true ∧
      surface.name = "B" := ⟨_, rfl, by decide +kernel, by decide +kernel⟩
  have h_off : ∃ surface, c.surfaces[0]? = some surface ∧ surface.destroyed = false ∧
      surface.name = "A" := ⟨_, rfl, by decide +kernel, by decide +kernel⟩
  obtain ⟨ended, h_surface, h_destroyed, h_name⟩ := h_ended
  obtain ⟨off, h_surface', h_alive, h_name'⟩ := h_off
  obtain ⟨h_names, -, -, h_each⟩ := surfaces_of_run [] {} comingAndGoing
  obtain ⟨-, h_primitives⟩ := h_each 1 ended h_surface
  obtain ⟨-, h_refused, -⟩ := h_primitives .show
  obtain ⟨-, h_primitives'⟩ := h_each 0 off h_surface'
  obtain ⟨-, -, h_outside, -⟩ := h_primitives' .show
  refine ⟨h_names.trans (by decide +kernel), by decide +kernel, ?_, ?_, ?_⟩
  · rw [← h_name]
    exact h_refused h_destroyed
  · rw [← h_name']
    exact h_outside h_alive (by decide +kernel)
  · -- the same in a transaction, and it succeeds
    obtain ⟨-, -, -, h_each'⟩ := surfaces_of_run [] {} (comingAndGoing ++ [.enter])
    obtain ⟨-, h_inside⟩ := h_each' 0 off h_surface'
    exact (h_inside .show).1.mpr ⟨h_alive, by decide +kernel⟩

end Scrim.Compositor

import Mathlib.Data.List.Induction
import Scrim.Proofs.Compositor.Steps

/-!
# When frames are drawn

A compositor draws nothing while a transaction is open. It notes that something has changed, and
draws a frame when the last transaction closes. The note is there exactly if a surface was changed
since no transaction was open (`dirty_after_iff`), and so `lines_of_run` says when lines are
written, and which: one for each surface on the screen, or those before the first that cannot be
written.
-/

namespace Scrim.Compositor

/-! ### Pending changes -/

/-- A step that is a change of a surface, and accepted. -/
def Mutates (c : Compositor) (s : Step) : Prop :=
  ((∃ id primitive, s = .issue id primitive) ∨ ∃ id, s = .beginChange id) ∧
    (c.perform s).outcome = .ok ()

/-- A surface was changed in a run, and a transaction has been open ever since. -/
def Pending (c : Compositor) (steps : List Step) : Prop :=
  ∃ earlier s later, steps = earlier ++ s :: later ∧ (c.after earlier).Mutates s ∧
    ∀ middle, middle <+: later → (c.after (earlier ++ s :: middle)).depth ≠ 0

/-- No surface is changed in a run. -/
def Quiet (c : Compositor) (steps : List Step) : Prop :=
  ∀ earlier s later, steps = earlier ++ s :: later → ¬(c.after earlier).Mutates s

section Pending

variable {c : Compositor} {steps : List Step} {s : Step}

theorem not_pending_nil : ¬c.Pending [] := by
  rintro ⟨earlier, s, later, h_steps, -⟩
  exact List.append_ne_nil_of_right_ne_nil _ (List.cons_ne_nil _ _) h_steps.symm

/-- Changes that are pending are so in an open transaction. -/
theorem Pending.depth_ne_zero (h : c.Pending steps) : (c.after steps).depth ≠ 0 := by
  obtain ⟨earlier, s, later, rfl, -, h_open⟩ := h
  exact h_open later List.prefix_rfl

/-- A change is pending after a step if the step leaves a transaction open, and a change was pending
before it, or it is one itself. -/
theorem pending_concat_iff :
    c.Pending (steps ++ [s]) ↔
      (c.after (steps ++ [s])).depth ≠ 0 ∧ (c.Pending steps ∨ (c.after steps).Mutates s) := by
  refine ⟨?_, ?_⟩
  · intro h
    refine ⟨h.depth_ne_zero, ?_⟩
    obtain ⟨earlier, s', later, h_steps, h_mutates, h_open⟩ := h
    -- the change is the last step, or comes before it
    rcases List.eq_nil_or_concat' later with rfl | ⟨later, last, rfl⟩
    · obtain ⟨rfl, h_last⟩ := List.append_inj' h_steps rfl
      obtain rfl := List.singleton_inj.mp h_last
      exact Or.inr h_mutates
    · rw [← List.cons_append, ← List.append_assoc] at h_steps
      obtain ⟨rfl, -⟩ := List.append_inj' h_steps rfl
      exact Or.inl ⟨earlier, s', later, rfl, h_mutates,
        fun middle h_middle => h_open middle (h_middle.trans (List.prefix_append later _))⟩
  · rintro ⟨h_depth, ⟨earlier, s', later, rfl, h_mutates, h_open⟩ | h_mutates⟩
    · -- a transaction has been open ever since, and still is after the last step
      refine ⟨earlier, s', later ++ [s], by rw [List.append_assoc]; rfl, h_mutates, ?_⟩
      intro middle h_middle
      rcases List.prefix_concat_iff.mp h_middle with rfl | h_before
      · rwa [List.append_assoc] at h_depth
      · exact h_open middle h_before
    · -- the change was just made
      refine ⟨steps, s, [], rfl, h_mutates, ?_⟩
      intro middle h_middle
      rwa [List.prefix_nil.mp h_middle]

/-- **Each step leaves a note exactly if a transaction stays open, and there was a note before it or
it is a change.** -/
theorem dirty_perform_iff (h : c.dirty = true → c.depth ≠ 0) :
    (c.perform s).after.dirty = true ↔
      (c.perform s).after.depth ≠ 0 ∧ (c.dirty = true ∨ c.Mutates s) := by
  unfold Mutates
  have h_does := c.does s
  generalize c.perform s = done at h_does ⊢
  cases h_does with
  | refused => simpa using h
  | entered => simp [enter]
  | left =>
    -- closing fails, or closes the last transaction, or leaves others open
    unfold leave
    split_ifs with h_depth h_last
    · simpa using h
    · simp [draw, exited, h_last.1]
    · by_cases h_one : c.depth = 1
      · -- a note would have been acted on
        simp_all [exited]
      · have h_open : c.depth - 1 ≠ 0 := by omega
        simp [exited, h_open]
  | added => simpa [add] using h
  | accepted id primitive h_refusal =>
    -- what is accepted is a change, and a transaction is open
    obtain ⟨-, -, -, h_depth⟩ := refusal_eq_none_iff.mp h_refusal
    simp [dirty_accept, h_depth]
  | removed => simpa [remove] using h
  | noted id h_depth => simp [h_depth]
  | resized => simpa [setDisplay] using h

/-- **The note is there exactly if a change is pending.** -/
theorem dirty_after_iff (h_clean : c.dirty = false) (steps : List Step) :
    (c.after steps).dirty = true ↔ c.Pending steps := by
  -- from the end, where changes become pending and cease to be
  induction steps using List.reverseRecOn with
  | nil => exact iff_of_false (by rw [after_nil, h_clean]; exact Bool.false_ne_true) not_pending_nil
  | append_singleton steps s ih =>
    rw [pending_concat_iff, after_concat, dirty_perform_iff fun h => (ih.mp h).depth_ne_zero, ih]

/-- A run without changes after the last note leaves none. -/
theorem dirty_after_of_quiet (h_clean : c.dirty = false) (h_quiet : c.Quiet steps) :
    (c.after steps).dirty = false := by
  refine Bool.eq_false_iff.mpr fun h_dirty => ?_
  -- a note would come from a change, and there was none
  obtain ⟨earlier, s, later, h_steps, h_mutates, -⟩ := (dirty_after_iff h_clean steps).mp h_dirty
  exact h_quiet earlier s later h_steps h_mutates

end Pending

/-! ### Frames -/

/-- What is drawn of lines that may fail: all of them, or those before the first that fails. -/
inductive Drawn : List (Except Failure String) → List String → Except Failure Unit → Prop
  | whole (lines : List String) : Drawn (lines.map .ok) lines (.ok ())
  | cut (lines : List String) (failure : Failure) (rest : List (Except Failure String)) :
      Drawn (lines.map .ok ++ .error failure :: rest) lines (.error failure)

theorem Drawn.cons {formats : List (Except Failure String)} {lines : List String}
    {outcome : Except Failure Unit} (h : Drawn formats lines outcome) (line : String) :
    Drawn (.ok line :: formats) (line :: lines) outcome := by
  cases h with
  | whole => exact .whole (line :: lines)
  | cut _ failure rest => exact .cut (line :: lines) failure rest

/-- A frame has the lines of its surfaces, up to the first that fails. -/
theorem StatusStyle.drawn_frame (style : StatusStyle) (surfaces : List Surface) :
    Drawn (surfaces.map style.line) (style.frame surfaces).lines
      (match (style.frame surfaces).failure with
        | none => .ok ()
        | some failure => .error failure) := by
  induction surfaces with
  | nil => exact .whole []
  | cons s rest ih =>
    unfold frame
    rw [List.map_cons]
    cases style.line s with
    | error failure => exact .cut [] failure _
    | ok line => exact ih.cons line

variable {c : Compositor} {s : Step}

/-- Lines are written only when the last transaction closes after a note. -/
theorem leave_of_lines_ne_nil (h : (c.perform s).lines ≠ []) :
    s = .leave ∧ c.depth = 1 ∧ c.dirty = true := by
  have h_does := c.does s
  generalize c.perform s = done at h h_does
  cases h_does with
  | left =>
    -- only a frame writes lines, and it is drawn only in one of the three cases
    unfold leave at h
    split_ifs at h with h_depth h_last
    · exact absurd rfl h
    · exact ⟨rfl, h_last⟩
    · exact absurd rfl h
  | refused | entered | added | accepted | removed | noted | resized => exact absurd rfl h

/-- **When lines are written, and which.** A compositor has taken any steps since it was new. The
next step writes lines only if it closes the last transaction and a surface has been changed since
no transaction was open. If it does and one has, it draws a frame: for each surface on the screen,
in the order of creation, the line that it has at that moment, or if one of these cannot be written,
only those before it. Either way no transaction is open then, and nothing is written until a surface
is changed again. Closing a transaction when none is open fails and changes nothing. -/
theorem lines_of_run (displays : List (Float × Size)) (style : StatusStyle) (steps : List Step)
    (s : Step) :
    let fresh := ofDisplays displays style
    let c := fresh.after steps
    let done := c.perform s
    (done.lines ≠ [] → s = .leave ∧ c.depth = 1 ∧ fresh.Pending steps) ∧
      (s = .leave → c.depth = 1 → fresh.Pending steps →
        c.live.Pairwise (· < ·) ∧
          c.live.map (fun id => c.surfaces[id]?) = c.liveSurfaces.map some ∧
          Drawn (c.liveSurfaces.map c.style.line) done.lines done.outcome ∧
          done.after.depth = 0 ∧
          ∀ later, done.after.Quiet later →
            ∀ s', ((done.after.after later).perform s').lines = []) ∧
      (s = .leave → c.depth = 0 → done = ⟨c, [], .error .nothingToClose⟩) := by
  intro fresh c done
  have h_clean : fresh.dirty = false := by
    obtain ⟨entries, h_fresh⟩ := ofDisplays_eq displays style
    rw [show fresh = _ from h_fresh]
  have h_tidy : c.Tidy := (tidy_ofDisplays displays style).after steps
  refine ⟨?_, ?_, ?_⟩
  · intro h_lines
    obtain ⟨h_step, h_depth, h_dirty⟩ := leave_of_lines_ne_nil h_lines
    exact ⟨h_step, h_depth, (dirty_after_iff h_clean steps).mp h_dirty⟩
  · rintro rfl h_depth h_pending
    -- the last transaction closes after a note, and so a frame is drawn
    have h_drawn : done = c.exited.draw := by
      change c.leave = _
      unfold leave
      rw [if_neg (by omega), if_pos ⟨h_depth, (dirty_after_iff h_clean steps).mpr h_pending⟩]
    rw [h_drawn]
    refine ⟨h_tidy.ordered, h_tidy.map_live, StatusStyle.drawn_frame c.style c.liveSurfaces, ?_, ?_⟩
    · change c.depth - 1 = 0
      omega
    · intro later h_quiet s'
      -- lines would mean a note, but the frame has cleared it and nothing has been changed
      by_contra h_lines
      obtain ⟨-, -, h_dirty⟩ := leave_of_lines_ne_nil h_lines
      have h_none : c.exited.draw.after.dirty = false := rfl
      exact absurd h_dirty (Bool.eq_false_iff.mp (dirty_after_of_quiet h_none h_quiet))
  · rintro rfl h_depth
    exact if_pos h_depth

/-- A hidden surface, and a shown one that is given more than full alpha. -/
def overbright : List Step :=
  [.create { name := "A", width := 16, height := 16 },
    .create { name := "B", width := 16, height := 16, hidden := false }, .enter,
    .issue 1 (.alpha 2)]

/-- The line of the first is written, that of the second fails, and that was it. -/
theorem lines_of_overbright :
    let done := ((ofDisplays [] {}).after overbright).perform .leave
    done.lines = ["A display=0 layer=0 16x16@(0,0) hidden"] ∧ done.outcome.toBool = false ∧
      done.after.depth = 0 ∧
      ∀ s', ((done.after.after [.enter, .leave, .enter]).perform s').lines = [] := by
  intro done
  have h_pending : (ofDisplays [] {}).Pending overbright :=
    (dirty_after_iff rfl overbright).mp (by decide +kernel)
  obtain ⟨-, h_frame, -⟩ := lines_of_run [] {} overbright .leave
  obtain ⟨-, -, -, h_depth, h_later⟩ := h_frame rfl (by decide +kernel) h_pending
  refine ⟨by decide +kernel, by decide +kernel, h_depth, h_later _ ?_⟩
  -- transactions that are opened and closed are not changes
  rintro earlier s later h_steps ⟨h_change, -⟩
  have h_mem : s ∈ [Step.enter, .leave, .enter] := by
    rw [h_steps]
    exact List.mem_append_right _ List.mem_cons_self
  rcases h_change with ⟨id, primitive, rfl⟩ | ⟨id, rfl⟩ <;> simp at h_mem

end Scrim.Compositor

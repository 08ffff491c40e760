import Scrim.Proofs.Compositor.Cells
import Scrim.Proofs.Compositor.Steps

/-!
# When status lines can be written

A status line fails if its bar asks for a number of cells that there is not, or if it is longer than
a text can be. The first does not happen at an alpha between zero and one, if bars are a natural
number of cells wide, since then the line is known (`StatusStyle.line_eq`). A frame of such surfaces
can therefore only fail for the length of a line (`tooLong_of_frame`), and so can the closing of a
transaction (`Compositor.textTooLong_of_leave`). `bars_of_natural` puts this together with what the
line shows.
-/

namespace Scrim

open Number

namespace Compositor

/-- Bars are some natural number of cells wide. -/
structure StatusStyle.Natural (style : StatusStyle) : Prop where
  whole : isWhole style.barWidth = true
  nonneg : 0 ≤ style.barWidth

namespace StatusStyle

theorem Natural.isFinite {style : StatusStyle} (h : style.Natural) :
    style.barWidth.isFinite = true :=
  (isWhole_iff.mp h.whole).1

theorem Natural.exists_width {style : StatusStyle} (h : style.Natural) :
    ∃ w : ℕ, toRat style.barWidth = w :=
  exists_natCast_of_isWhole h.whole h.nonneg

/-! ### Lines that are too long -/

/-- The line of a visible surface, with a bar of `w` cells, is longer than a text can be. -/
structure TooLong (style : StatusStyle) (w : ℕ) (s : Surface) : Prop where
  visible : s.visible = true
  long : longestText < Text.units (style.written w s)

section

variable {style : StatusStyle} (h_style : style.Natural) {w : ℕ}
  (h_width : toRat style.barWidth = w) {failure : Failure}

include h_style h_width

/-- **A line at an alpha between zero and one can only fail for its length.** -/
theorem tooLong_of_line {s : Surface} (h_alpha : s.visible = true → InUnit s.alpha)
    (h : style.line s = .error failure) : failure = .textTooLong ∧ style.TooLong w s := by
  -- a hidden surface has no bar, and its line never fails
  cases h_visible : s.visible with
  | false =>
    rw [line, h_visible] at h
    cases h
  | true =>
    rw [line_eq h_style.isFinite h_width h_visible (h_alpha h_visible)] at h
    split at h
    · cases h
    · next h_long => exact ⟨(Except.error.inj h).symm, h_visible, not_le.mp h_long⟩

theorem tooLong_of_frame {surfaces : List Surface}
    (h_alpha : ∀ s ∈ surfaces, s.visible = true → InUnit s.alpha)
    (h : (style.frame surfaces).failure = some failure) :
    failure = .textTooLong ∧ ∃ s ∈ surfaces, style.TooLong w s := by
  -- a frame fails with the first of its lines that does
  induction surfaces with
  | nil => cases h
  | cons s rest ih =>
    obtain ⟨h_first, h_rest⟩ := List.forall_mem_cons.mp h_alpha
    unfold frame at h
    split at h
    · next h_line =>
      cases h
      obtain ⟨h_failure, h_long⟩ := tooLong_of_line h_style h_width h_first h_line
      exact ⟨h_failure, s, List.mem_cons_self, h_long⟩
    · obtain ⟨h_failure, s', h_mem, h_long⟩ := ih h_rest h
      exact ⟨h_failure, s', List.mem_cons_of_mem s h_mem, h_long⟩

omit failure in
/-- A line of which the head leaves room for the cells can be written. -/
theorem exists_line {s : Surface} (h_alpha : s.visible = true → InUnit s.alpha)
    (h_room : Text.units (head s) + w + 26 ≤ longestText) :
    ∃ line, style.line s = .ok line := by
  cases h : style.line s with
  | ok line => exact ⟨line, rfl⟩
  | error failure =>
    obtain ⟨-, h_visible, h_long⟩ := tooLong_of_line h_style h_width h_alpha h
    -- cells, percentage and codes take no more room than the head has left
    have h_units := units_written_le h_style.isFinite h_width (h_alpha h_visible)
    omega

end

end StatusStyle

/-! ### What is true of every surface -/

/-- Every surface that has been created has a property. -/
def Every (P : Surface → Prop) (c : Compositor) : Prop :=
  ∀ (id : Nat) (surface : Surface), c.surfaces[id]? = some surface → P surface

namespace Every

variable {P : Surface → Prop} {c : Compositor}

theorem add (h : c.Every P) {request : SurfaceRequest} (h_new : P (.ofRequest request)) :
    (c.add request).Every P := by
  intro id surface h_surface
  -- a surface is an old one, or the one that was added
  rcases List.mem_append.mp (List.mem_of_getElem? h_surface) with h_old | h_last
  · obtain ⟨id', h_id'⟩ := List.mem_iff_getElem?.mp h_old
    exact h id' surface h_id'
  · obtain rfl := List.mem_singleton.mp h_last
    exact h_new

theorem accept (h : c.Every P) {primitive : Primitive}
    (h_primitive : ∀ surface, P surface → P (surface.after primitive)) (id : Nat) :
    (c.accept id primitive).Every P := by
  intro id' surface h_surface
  rw [getElem?_surfaces_accept] at h_surface
  split_ifs at h_surface
  · -- the surface was there before, and has taken the primitive
    obtain ⟨before, h_before, rfl⟩ := Option.map_eq_some_iff.mp h_surface
    exact h_primitive before (h id' before h_before)
  · exact h id' surface h_surface

theorem leave (h : c.Every P) : c.leave.after.Every P := by
  intro id surface h_surface
  rw [surfaces_leave] at h_surface
  exact h id surface h_surface

end Every

theorem Every.liveSurfaces {P : Surface → Prop} {c : Compositor} (h : c.Every P) :
    ∀ surface ∈ c.liveSurfaces, P surface := by
  intro surface h_mem
  obtain ⟨id, -, h_surface⟩ := List.mem_filterMap.mp h_mem
  exact h id surface h_surface

/-! ### Frames -/

/-- Every surface has an alpha between zero and one. -/
def Lit (c : Compositor) : Prop :=
  c.Every fun surface => InUnit surface.alpha

/-- Every surface is hidden. -/
def Dark (c : Compositor) : Prop :=
  c.Every fun surface => surface.visible = false

theorem failure_of_draw {c : Compositor} {failure : Failure}
    (h : c.draw.outcome = .error failure) :
    (c.style.frame c.liveSurfaces).failure = some failure := by
  unfold draw at h
  dsimp only at h
  split at h
  · cases h
  · next h_frame => rw [h_frame, Except.error.inj h]

/-- Closing an open transaction fails only if a frame does. -/
theorem failure_of_leave {c : Compositor} (h_depth : c.depth ≠ 0) {failure : Failure}
    (h : c.leave.outcome = .error failure) :
    (c.style.frame c.liveSurfaces).failure = some failure := by
  unfold leave at h
  rw [if_neg h_depth] at h
  split at h
  · -- this was the last transaction that was open, and something had changed
    exact failure_of_draw (c := c.exited) h
  · cases h

/-- **Closing a transaction of surfaces that all have a proper alpha can only fail for the length
of a line.** -/
theorem textTooLong_of_leave {c : Compositor} (h_lit : c.Lit) (h_style : c.style.Natural)
    (h_depth : c.depth ≠ 0) {failure : Failure} (h : c.leave.outcome = .error failure) :
    failure = .textTooLong := by
  obtain ⟨w, h_width⟩ := h_style.exists_width
  exact (StatusStyle.tooLong_of_frame h_style h_width
    (fun s h_mem _ => h_lit.liveSurfaces s h_mem) (failure_of_leave h_depth h)).1

/-- The line of a hidden surface can always be written. -/
theorem StatusStyle.failure_frame_of_hidden (style : StatusStyle) {surfaces : List Surface}
    (h : ∀ s ∈ surfaces, s.visible = false) : (style.frame surfaces).failure = none := by
  induction surfaces with
  | nil => rfl
  | cons s rest ih =>
    obtain ⟨h_first, h_rest⟩ := List.forall_mem_cons.mp h
    have h_line : ∃ line, style.line s = .ok line := by
      unfold line
      -- no bar is drawn of what is hidden
      rw [h_first]
      exact ⟨_, rfl⟩
    obtain ⟨line, h_line⟩ := h_line
    unfold frame
    rw [h_line]
    exact ih h_rest

/-- A screen on which nothing shows can always be drawn. -/
theorem leave_of_dark {c : Compositor} (h_dark : c.Dark) (h_depth : c.depth ≠ 0) :
    c.leave.outcome = .ok () := by
  cases h : c.leave.outcome with
  | ok _ => rfl
  | error failure =>
    have h_frame := failure_of_leave h_depth h
    rw [c.style.failure_frame_of_hidden h_dark.liveSurfaces] at h_frame
    cases h_frame

/-! ### What bars show -/

/-- What the status line of a visible surface shows, with a bar of `w` cells. -/
structure StatusStyle.Shows (style : StatusStyle) (w : ℕ) (s : Surface) : Prop where
  /-- No more cells are filled than there are. -/
  filled_le : share s.alpha w ≤ w
  percent_le : share s.alpha 100 ≤ 100
  /-- Colours aside, the filled cells come first, and the bar has as many cells as it is wide. -/
  cells_eq : Palette.printed false ((barOf s.alpha w).render style.palette).toList
    = List.replicate (share s.alpha w) '█' ++ List.replicate (w - share s.alpha w) '·'
  /-- What stands in the line besides its head and the cells is short. -/
  units_le : Text.units (style.written w s) ≤ Text.units (head s) + w + 26
  /-- The line is written, unless there cannot be such a text. -/
  line_eq : style.line s
    = if Text.units (style.written w s) ≤ longestText then .ok (style.written w s)
      else .error .textTooLong

/-- **Bars are well formed.** The bars of a compositor are a natural number `w` of cells wide. At an
alpha between zero and one, a visible surface has a bar of `w` cells, of which the filled ones come
first, and behind it a whole percentage of up to a hundred. Neither becomes less when the alpha
becomes more; at no alpha there is nothing of either, and at full alpha there is all. The line can
be written if it is not longer than a text can be. So, as long as every visible surface on the
screen has an alpha between zero and one, closing a transaction fails only if none is open, or if
the line of one of them is too long. -/
theorem bars_of_natural {c : Compositor} (h_style : c.style.Natural) {w : ℕ}
    (h_width : toRat c.style.barWidth = w) :
    (∀ s : Surface, s.visible = true → InUnit s.alpha → c.style.Shows w s) ∧
      (∀ a b : Float, a ≤ b → share a w ≤ share b w ∧ share a 100 ≤ share b 100) ∧
      (∀ a : Float, (a == 0) = true → share a w = 0 ∧ share a 100 = 0) ∧
      (∀ a : Float, (a == 1) = true → share a w = w ∧ share a 100 = 100) ∧
      ((∀ s ∈ c.liveSurfaces, s.visible = true → InUnit s.alpha) →
        (c.depth = 0 → c.leave.outcome = .error .nothingToClose) ∧
          (c.depth ≠ 0 → c.leave.outcome = .ok () ∨
            c.leave.outcome = .error .textTooLong ∧
              ∃ s ∈ c.liveSurfaces, c.style.TooLong w s)) := by
  -- the width is a double already, however many bits it has
  have h_exact : Number.round w = w := h_width ▸ round_toRat h_style.isFinite
  have h_bits : 100 ≤ 2 ^ 53 := by norm_num
  refine ⟨?_, ?_, ?_, ?_, ?_⟩
  · intro s h_visible h_alpha
    exact {
      filled_le := share_le h_alpha h_exact
      percent_le := share_hundred_le h_alpha
      cells_eq := printed_render c.style.palette (StatusStyle.barOf s.alpha w)
      units_le := StatusStyle.units_written_le h_style.isFinite h_width h_alpha
      line_eq := StatusStyle.line_eq h_style.isFinite h_width h_visible h_alpha }
  · intro a b h_le
    exact ⟨share_mono h_le, share_mono h_le⟩
  · intro a h_zero
    have h_rat := (toRat_eq_of_beq h_zero).trans toRat_zero
    exact ⟨share_of_zero h_rat, share_of_zero h_rat⟩
  · intro a h_one
    have h_rat := (toRat_eq_of_beq h_one).trans toRat_one
    exact ⟨share_of_one h_rat h_exact, share_of_one h_rat (round_natCast h_bits)⟩
  · intro h_alpha
    refine ⟨fun h_depth => ?_, fun h_depth => ?_⟩
    · rw [leave, if_pos h_depth]
    · -- if the closing fails, the frame did, and that for the length of a line
      cases h_outcome : c.leave.outcome with
      | ok _ => exact Or.inl rfl
      | error failure =>
        obtain ⟨rfl, h_long⟩ := StatusStyle.tooLong_of_frame h_style h_width h_alpha
          (failure_of_leave h_depth h_outcome)
        exact Or.inr ⟨rfl, h_long⟩

/-- A hidden surface with more than full alpha, and a visible one with a quarter of it. -/
def quarterLit : Compositor :=
  (ofDisplays [] { barWidth := 10 }).after
    [.create { name := "A", width := 16, height := 16 },
      .create { name := "B", width := 16, height := 16, hidden := false }, .enter,
      .issue 0 (.alpha 2), .issue 1 (.alpha 0.25)]

/-- Of ten cells, two and a half are rounded to three. -/
theorem bars_of_quarterLit :
    (∀ s ∈ quarterLit.liveSurfaces, s.visible = true → quarterLit.style.Shows 10 s) ∧
      quarterLit.leave.lines = ["A display=0 layer=0 16x16@(0,0) hidden",
        "B display=0 layer=0 16x16@(0,0) ███······· 25%"] ∧
      quarterLit.leave.outcome = .ok () := by
  have h_natural : quarterLit.style.Natural := by
    constructor <;> decide +kernel
  obtain ⟨h_shows, -, -, -, h_close⟩ :=
    bars_of_natural h_natural (show toRat quarterLit.style.barWidth = (10 : ℕ) by decide +kernel)
  have h_alpha : ∀ s ∈ quarterLit.liveSurfaces, s.visible = true → InUnit s.alpha := by
    have h_all : quarterLit.liveSurfaces.all fun s =>
        !s.visible || (decide (0 ≤ s.alpha) && decide (s.alpha ≤ 1)) := by decide +kernel
    intro s h_mem h_visible
    obtain ⟨h_low, h_high⟩ : 0 ≤ s.alpha ∧ s.alpha ≤ 1 := by
      simpa [h_visible] using List.all_eq_true.mp h_all s h_mem
    exact ⟨h_low, h_high⟩
  have h_room : ∀ s ∈ quarterLit.liveSurfaces,
      Text.units (StatusStyle.head s) + 10 + 26 ≤ longestText := by
    decide +kernel
  refine ⟨fun s h_mem h_visible => h_shows s h_visible (h_alpha s h_mem h_visible),
    by decide +kernel, ?_⟩
  rcases (h_close h_alpha).2 (by decide +kernel) with h_ok | ⟨-, s, h_mem, h_visible, h_long⟩
  · exact h_ok
  · have h_units := (h_shows s h_visible (h_alpha s h_mem h_visible)).units_le
    have h_fits := h_room s h_mem
    omega

end Compositor

end Scrim

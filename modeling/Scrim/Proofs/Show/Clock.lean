import Mathlib.Algebra.BigOperators.Intervals
import Scrim.Proofs.Show.Fades
import Scrim.Proofs.Validation

/-!
# The clock of the show

Each tick comes one frame and a lateness after the one before. Where the clock is exact, what has
passed between two ticks is the sum of what each took (`Exact.elapsed`). Ticks take fifty
milliseconds at least, and so a fade is over after a number of ticks that does not depend on how
late they are (`exists_reaches`).
-/

namespace Scrim.Show

open Number

/-- The clock at the start of a show and at each of its ticks. -/
def clock (start : Float) (late : ℕ → Float) : ℕ → Float
  | 0 => start
  | k + 1 => clock start late k + (frame + late k)

/-- The milliseconds that `n` ticks take, after the first `k` of them. -/
def span (late : ℕ → Float) (k n : ℕ) : ℚ :=
  ∑ i ∈ Finset.range n, (50 + toRat (late (k + i)))

/-- After the first `k` ticks it takes `n` of them, and no fewer, for a time to pass. -/
structure Reaches (late : ℕ → Float) (k due n : ℕ) : Prop where
  reached : due ≤ span late k n
  least : ∀ m < n, span late k m < due

theorem Reaches.unique {late : ℕ → Float} {k due n n' : ℕ} (h : Reaches late k due n)
    (h' : Reaches late k due n') : n = n' := by
  -- a smaller number of ticks would be reached too early for the greater
  refine Nat.le_antisymm (Nat.not_lt.mp fun h_lt => ?_) (Nat.not_lt.mp fun h_lt => ?_)
  · exact not_lt.mpr h'.reached (h.least n' h_lt)
  · exact not_lt.mpr h.reached (h'.least n h_lt)

/-- All values of the clock, up to that of the tick number `n`, are computed exactly. -/
def Exact (start : Float) (late : ℕ → Float) (n : ℕ) : Prop :=
  ∀ k ≤ n, (clock start late k).isFinite = true ∧
    toRat (clock start late k) = toRat start + span late 0 k

variable {late : ℕ → Float}

theorem span_zero (k : ℕ) : span late k 0 = 0 :=
  rfl

/-- No time passes without a tick. -/
theorem Reaches.exists_succ {k due n : ℕ} (h : Reaches late k due n) (h_due : 1 ≤ due) :
    ∃ r, n = r + 1 := by
  refine Nat.exists_eq_add_one_of_ne_zero ?_
  -- after no tick no time has passed, but some is due
  rintro rfl
  have h_reached := h.reached
  rw [span_zero] at h_reached
  have h_pos : (1 : ℚ) ≤ due := by exact_mod_cast h_due
  linarith

theorem span_succ (k n : ℕ) : span late k (n + 1) = span late k n + (50 + toRat (late (k + n))) :=
  Finset.sum_range_succ ..

theorem span_add (k m n : ℕ) : span late k (m + n) = span late k m + span late (k + m) n := by
  unfold span
  rw [Finset.sum_range_add]
  simp only [Nat.add_assoc]

/-- **Between two ticks passes what the ticks take.** -/
theorem Exact.elapsed {start : Float} {N k m y : ℕ} (h : Exact start late N) (h_le : k + m ≤ N)
    (h_span : span late k m = y) :
    Fade.Elapsed (clock start late k) (clock start late (k + m)) y := by
  obtain ⟨h_before, h_from⟩ := h k ((Nat.le_add_right k m).trans h_le)
  obtain ⟨h_after, h_to⟩ := h (k + m) h_le
  refine ⟨h_before, h_after, ?_⟩
  -- the start and what came before the first tick cancel
  rw [h_to, h_from, span_add, Nat.zero_add, h_span]
  ring

/-! ### Whole milliseconds -/

section Whole

variable (h_whole : ∀ k, ∃ n : ℕ, toRat (late k) = n)

include h_whole

theorem exists_natCast_span (k n : ℕ) : ∃ y : ℕ, span late k n = y := by
  induction n with
  | zero => exact ⟨0, by rw [span_zero, Nat.cast_zero]⟩
  | succ n ih =>
    obtain ⟨y, h_y⟩ := ih
    obtain ⟨x, h_x⟩ := h_whole (k + n)
    exact ⟨y + (50 + x), by rw [span_succ, h_y, h_x]; push_cast; rfl⟩

theorem span_add_le (k n : ℕ) : span late k n + 50 ≤ span late k (n + 1) := by
  obtain ⟨x, h_x⟩ := h_whole (k + n)
  have h_nonneg : (0 : ℚ) ≤ x := Nat.cast_nonneg x
  -- a frame takes fifty, and a lateness takes nothing away
  rw [span_succ, h_x]
  linarith

theorem strictMono_span (k : ℕ) : StrictMono (span late k) :=
  strictMono_nat_of_lt_succ fun n => by linarith [span_add_le h_whole k n]

theorem le_span (k n : ℕ) : ((50 * n : ℕ) : ℚ) ≤ span late k n := by
  induction n with
  | zero => rw [span_zero, Nat.mul_zero, Nat.cast_zero]
  | succ n ih =>
    push_cast at ih ⊢
    linarith [span_add_le h_whole k n]

/-- **A time passes** within as many ticks as it has frames. -/
theorem exists_reaches (k m : ℕ) : ∃ n ≤ m, Reaches late k (50 * m) n := by
  have h_some : ∃ n, ((50 * m : ℕ) : ℚ) ≤ span late k n := ⟨m, le_span h_whole k m⟩
  -- the first number of ticks that is enough, which is at most that of the frames
  exact ⟨Nat.find h_some, Nat.find_min' h_some (le_span h_whole k m), Nat.find_spec h_some,
    fun n h_n => not_le.mp (Nat.find_min h_some h_n)⟩

end Whole

/-! ### Latenesses from a list -/

/-- What is taken from a list again and again is in the list. -/
theorem cycle_mem {late : List Float} (h : late ≠ []) (k : ℕ) : cycle late k ∈ late := by
  -- the index has been reduced to the length of the list
  have h_lt : k % late.length < late.length := Nat.mod_lt k (List.length_pos_iff.mpr h)
  unfold cycle
  rw [List.getElem?_eq_getElem h_lt]
  exact List.getElem_mem h_lt

/-- Integers that are not negative make whole latenesses. -/
theorem exists_natCast_cycle {late : List Float} (h : late ≠ [])
    (h_late : ∀ x ∈ late, Integral x ∧ 0 ≤ x) (k : ℕ) : ∃ n : ℕ, toRat (cycle late k) = n := by
  obtain ⟨h_integral, h_nonneg⟩ := h_late _ (cycle_mem h k)
  exact exists_natCast_of_isWhole (isWhole_iff.mpr h_integral) h_nonneg

end Scrim.Show

import Scrim.Proofs.Number.Whole
import Scrim.Proofs.Placement

/-!
# How displays are covered

A surface is half as large again as its display, and set back by a sixth of its own extent. The
extent and the sixth are both cut down to whole numbers, and the sixth is rounded to a double before
that. For lengths below `2 ^ 51` none of this adds up: half as much again is exact, a sixth of a
whole number is never rounded up to the next one (`lies_truncate_sixth`), and a sixth of `3 * n / 2`
is a quarter of `n`, whatever `n` leaves when divided by four. So a surface covers its display, and
lies as evenly about it as whole numbers can (`covering_centred`).
-/

namespace Scrim

open Number

/-- A length in logical units: a natural number of them, below `2 ^ 51`. -/
structure IsLength (size : Float) : Prop where
  whole : isWhole size = true
  nonneg : 0 ≤ size
  small : toRat size < 2 ^ 51

theorem IsLength.isFinite {size : Float} (h : IsLength size) : size.isFinite = true :=
  (isWhole_iff.mp h.whole).1

theorem IsLength.exists_natCast {size : Float} (h : IsLength size) :
    ∃ n : ℕ, toRat size = n ∧ n < 2 ^ 51 := by
  obtain ⟨n, h_n⟩ := exists_natCast_of_isWhole h.whole h.nonneg
  have h_small := h.small
  rw [h_n] at h_small
  exact ⟨n, h_n, by exact_mod_cast h_small⟩

namespace Number

/-- Taking something from zero does not give negative zero. -/
theorem zero_sub_ne_neg_zero {x : Float} (hx : x.isFinite = true) : 0 - x ≠ -0 := by
  intro h
  have h_num := isNaN_of_isFinite hx
  -- the difference is exact, so that only a zero could have been taken away
  have h_lies := lies_toModel_sub isFinite_zero hx
  rw [toRat_zero, zero_sub, round_neg, round_toRat hx] at h_lies
  have h_place : toRat (-0) = -toRat x := h ▸ toRat_of_lies h_lies
  have h_neg : toRat (-0) = 0 := by decide +kernel
  have h_beq : (x == 0) = true := by
    rw [beq_iff h_num (isNaN_of_isFinite isFinite_zero), toRat_zero]
    linarith
  rcases eq_or_zeros_of_beq h_beq with rfl | ⟨rfl | rfl, -⟩
  · exact absurd h (by decide +kernel)
  · exact absurd h (by decide +kernel)
  · exact absurd h (by decide +kernel)

end Number

namespace Placement

/-! ### Extents -/

/-- A length and half of it is exact, and then loses a half at most. -/
theorem lies_extent {size : Float} {n : ℕ} (h_finite : size.isFinite = true)
    (h : toRat size = n) (hn : n < 2 ^ 51) :
    Lies (extent size).toModel.unpack (3 * n / 2 : ℕ) := by
  have h_oversize : toRat oversize = 3 / 2 := by decide +kernel
  -- three times the length fits into fifty-three bits, and halves are doubles
  have h_exact : Number.round (n * (3 / 2)) = (3 * n : ℕ) / (2 : ℕ) := by
    have h_digits := round_of_digits (m := 3 * n) (show 3 * n < 2 ^ 53 by omega)
      (show -1074 ≤ (-1 : ℤ) by norm_num) (by norm_num)
    have h_half : (n * (3 / 2) : ℚ) = (3 * n : ℕ) * 2 ^ (-1 : ℤ) := by
      push_cast
      ring
    rw [h_half, h_digits, zpow_neg_one, div_eq_mul_inv, Nat.cast_ofNat]
  have h_lies := lies_toModel_mul h_finite (show oversize.isFinite = true by decide +kernel)
  rw [h, h_oversize, h_exact] at h_lies
  have h_nonneg : 0 ≤ size * oversize := le_of_lies lies_zero h_lies (by positivity)
  -- the product is far from where doubles end, and can be cut down
  have h_product : (size * oversize).isFinite = true := by
    refine isFinite_of_abs_le h_lies ?_
    rw [abs_of_nonneg (by positivity), div_le_iff₀ (by norm_num)]
    exact_mod_cast (show 3 * n ≤ 2 ^ 53 * 2 by omega)
  have h_cut := lies_truncate h_product h_nonneg
  rwa [toRat_of_lies h_lies, Nat.floor_div_eq_div] at h_cut

/-! ### Offsets -/

/-- A sixth of a whole number is not rounded up to a whole number above it. -/
theorem round_sixth_bounds {t : ℕ} (ht : t < 2 ^ 52) :
    ((t / 6 : ℕ) : ℚ) ≤ Number.round (t / 6) ∧ Number.round (t / 6) < (t / 6 : ℕ) + 1 := by
  constructor
  · rw [← round_natCast (show t / 6 ≤ 2 ^ 53 by omega)]
    exact round_mono Nat.cast_div_le
  · -- at most five sixths are left over, which is less than seven eighths, and these are exact
    have h_digits := round_of_digits (m := 8 * (t / 6) + 7)
      (show 8 * (t / 6) + 7 < 2 ^ 53 by omega) (show -1074 ≤ (-3 : ℤ) by norm_num) (by norm_num)
    have h_over : (t : ℚ) ≤ 6 * (t / 6 : ℕ) + 5 := by
      exact_mod_cast (show t ≤ 6 * (t / 6) + 5 by omega)
    have h_eighth : (2 : ℚ) ^ (-3 : ℤ) = 1 / 8 := by norm_num
    rw [h_eighth] at h_digits
    push_cast at h_digits
    calc Number.round (t / 6) ≤ Number.round ((8 * (t / 6 : ℕ) + 7) * (1 / 8)) :=
          round_mono (by linarith)
      _ = (8 * (t / 6 : ℕ) + 7) * (1 / 8) := h_digits
      _ < (t / 6 : ℕ) + 1 := by linarith

/-- So the sixth of an extent is cut down to what a division of whole numbers gives. -/
theorem lies_truncate_sixth {e : Float} {t : ℕ} (h : Lies e.toModel.unpack t) (ht : t < 2 ^ 52) :
    Lies (truncate (e / 6)).toModel.unpack (t / 6 : ℕ) := by
  have h_six : toRat 6 = 6 := by decide +kernel
  obtain ⟨h_low, h_high⟩ := round_sixth_bounds ht
  have h_lies := lies_toModel_div (isFinite_of_natCast h (by omega))
    (show (6 : Float).isFinite = true by decide +kernel) (by rw [h_six]; norm_num)
  rw [toRat_of_lies h, h_six] at h_lies
  have h_round : 0 ≤ Number.round (t / 6) := round_nonneg (by positivity)
  have h_nonneg : 0 ≤ e / 6 := le_of_lies lies_zero h_lies h_round
  -- so is the sixth
  have h_quotient : (e / 6).isFinite = true := by
    refine isFinite_of_abs_le h_lies ?_
    rw [abs_of_nonneg h_round]
    refine h_high.le.trans ?_
    exact_mod_cast (show t / 6 + 1 ≤ 2 ^ 53 by omega)
  have h_cut := lies_truncate h_quotient h_nonneg
  -- between a whole number and the next, it is cut down to the first
  rwa [toRat_of_lies h_lies, (Nat.floor_eq_iff h_round).mpr ⟨h_low, h_high⟩] at h_cut

/-- The surface is set back by that much. -/
theorem lies_offset {e : Float} {t : ℕ} (h : Lies e.toModel.unpack t) (ht : t < 2 ^ 52) :
    Lies (offset e).toModel.unpack (-(t / 6 : ℕ)) := by
  have h_sixth := lies_truncate_sixth h ht
  have h_bits : t / 6 ≤ 2 ^ 53 := by omega
  have h_lies := lies_toModel_sub isFinite_zero (isFinite_of_natCast h_sixth h_bits)
  -- whole numbers of so many bits are doubles, so that taking from zero is exact
  rwa [toRat_zero, toRat_of_lies h_sixth, zero_sub, round_neg, round_natCast h_bits] at h_lies

theorem offset_ne_neg_zero {e : Float} {t : ℕ} (h : Lies e.toModel.unpack t) (ht : t < 2 ^ 52) :
    offset e ≠ -0 :=
  zero_sub_ne_neg_zero (isFinite_of_natCast (lies_truncate_sixth h ht) (by omega))

/-! ### Axes -/

/-- An axis of a display, and of the surface that covers it. -/
structure Axis where
  size : Float
  extent : Float
  offset : Float

/-- The axis from left to right. -/
def horizontal (display : Size) : Axis :=
  ⟨display.width, (covering display).width, (covering display).x⟩

/-- The axis from top to bottom. -/
def vertical (display : Size) : Axis :=
  ⟨display.height, (covering display).height, (covering display).y⟩

namespace Axis

/-- How far the surface reaches out before the display. -/
def before (a : Axis) : ℚ :=
  -toRat a.offset

/-- How far it reaches out behind the display. -/
def behind (a : Axis) : ℚ :=
  toRat a.offset + toRat a.extent - toRat a.size

/-- A display of `n` units is covered by whole units, and as evenly as they can. -/
structure Centred (a : Axis) (n : ℕ) : Prop where
  size_eq : toRat a.size = n
  whole_extent : isWhole a.extent = true
  extent_eq : toRat a.extent = (3 * n / 2 : ℕ)
  whole_offset : isWhole a.offset = true
  offset_eq : toRat a.offset = -(n / 4 : ℕ)
  offset_ne : a.offset ≠ -0
  covered : toRat a.offset ≤ 0 ∧ n ≤ toRat a.offset + toRat a.extent
  even : a.behind = a.before ∨ a.behind = a.before + 1

/-- The axis of a length. -/
def along (size : Float) : Axis :=
  ⟨size, Placement.extent size, Placement.offset (Placement.extent size)⟩

/-- What reaches out behind a display of `n` units, if the surface has its extent and offset. -/
theorem behind_eq {a : Axis} {n : ℕ} (h_size : toRat a.size = n)
    (h_extent : toRat a.extent = (3 * n / 2 : ℕ)) (h_offset : toRat a.offset = -(n / 4 : ℕ)) :
    a.behind = (3 * n / 2 - (n / 4 + n) : ℕ) := by
  rw [behind, h_size, h_extent, h_offset, Nat.cast_sub (by omega), Nat.cast_add]
  ring

/-- An axis whose extent and offset are the right ones is evenly covered. -/
theorem centred_of_lies {a : Axis} {n : ℕ} (h_size : toRat a.size = n) (hn : n < 2 ^ 51)
    (h_extent : Lies a.extent.toModel.unpack (3 * n / 2 : ℕ))
    (h_offset : Lies a.offset.toModel.unpack (-(n / 4 : ℕ))) (h_ne : a.offset ≠ -0) :
    a.Centred n := by
  have h_extent_eq := toRat_of_lies h_extent
  have h_offset_eq := toRat_of_lies h_offset
  have h_behind := behind_eq h_size h_extent_eq h_offset_eq
  refine {
    size_eq := h_size
    whole_extent := isWhole_of_intCast (n := (3 * n / 2 : ℕ)) (by exact_mod_cast h_extent) ?_
    extent_eq := h_extent_eq
    whole_offset := isWhole_of_intCast (n := -(n / 4 : ℕ)) (by exact_mod_cast h_offset) ?_
    offset_eq := h_offset_eq
    offset_ne := h_ne
    covered := ⟨?_, ?_⟩
    even := ?_ }
  · -- extent and offset are whole because they lie at whole numbers of few bits
    rw [Nat.abs_cast]
    exact_mod_cast (show 3 * n / 2 ≤ 2 ^ 53 by omega)
  · rw [abs_neg, Nat.abs_cast]
    exact_mod_cast (show n / 4 ≤ 2 ^ 53 by omega)
  · rw [h_offset_eq]
    exact neg_nonpos.mpr (Nat.cast_nonneg _)
  · -- what reaches out behind the display is a natural number
    have h_reach : 0 ≤ a.behind := h_behind ▸ Nat.cast_nonneg _
    rw [behind, h_size] at h_reach
    exact sub_nonneg.mp h_reach
  · -- a remainder of two or three by the quarter leaves one unit more behind
    rw [h_behind, before, h_offset_eq, neg_neg]
    have h_nat : 3 * n / 2 - (n / 4 + n) = n / 4 ∨ 3 * n / 2 - (n / 4 + n) = n / 4 + 1 := by omega
    exact_mod_cast h_nat

theorem centred_along {size : Float} (h : IsLength size) : ∃ n, (along size).Centred n := by
  obtain ⟨n, h_size, hn⟩ := h.exists_natCast
  have h_extent := lies_extent h.isFinite h_size hn
  have h_small : 3 * n / 2 < 2 ^ 52 := by omega
  have h_offset := lies_offset h_extent h_small
  -- a sixth of the extent is a quarter of the length
  have h_quarter : 3 * n / 2 / 6 = n / 4 := by omega
  rw [h_quarter] at h_offset
  exact ⟨n, centred_of_lies h_size hn h_extent h_offset (offset_ne_neg_zero h_extent h_small)⟩

/-- A longer axis has no less extent, and the surface does not reach out less on either side. -/
theorem Centred.mono {a b : Axis} {n m : ℕ} (ha : a.Centred n) (hb : b.Centred m)
    (h : a.size ≤ b.size) :
    a.extent ≤ b.extent ∧ a.before ≤ b.before ∧ a.behind ≤ b.behind := by
  -- the order of the lengths is that of their units
  have h_le : n ≤ m := by
    have h_rat := toRat_le_of_le h
    rw [ha.size_eq, hb.size_eq] at h_rat
    exact_mod_cast h_rat
  refine ⟨?_, ?_, ?_⟩
  · have h_num {c : Axis} {k : ℕ} (hc : c.Centred k) : c.extent.isNaN = false :=
      isNaN_of_isFinite (isWhole_iff.mp hc.whole_extent).1
    rw [le_iff (h_num ha) (h_num hb), ha.extent_eq, hb.extent_eq]
    exact_mod_cast (show 3 * n / 2 ≤ 3 * m / 2 by omega)
  · rw [before, before, ha.offset_eq, hb.offset_eq, neg_neg, neg_neg]
    exact_mod_cast (show n / 4 ≤ m / 4 by omega)
  · rw [behind_eq ha.size_eq ha.extent_eq ha.offset_eq,
      behind_eq hb.size_eq hb.extent_eq hb.offset_eq]
    exact_mod_cast (show 3 * n / 2 - (n / 4 + n) ≤ 3 * m / 2 - (m / 4 + m) by omega)

end Axis

/-- **Displays are covered, and surfaces are centred on them.** A display has a whole number of
units below `2 ^ 51` on each axis. On an axis of `n` units the surface that covers it has the whole
extent `3 * n / 2` and the whole offset `-(n / 4)`, which is never negative zero. So it reaches from
the near edge of the display to the far one at least, and out behind the display as far as before it
or one unit farther. On a longer axis of any other such display it has no less extent, and reaches
out no less on either side. -/
theorem covering_centred {display : Size} (h_width : IsLength display.width)
    (h_height : IsLength display.height) :
    ∀ axis ∈ [horizontal, vertical],
      (∃ n, (axis display).Centred n) ∧
        ∀ other : Size, IsLength other.width → IsLength other.height →
          (axis display).size ≤ (axis other).size →
            (axis display).extent ≤ (axis other).extent ∧
              (axis display).before ≤ (axis other).before ∧
              (axis display).behind ≤ (axis other).behind := by
  have h_centred : ∀ axis ∈ [horizontal, vertical], ∀ {d : Size}, IsLength d.width →
      IsLength d.height → ∃ n, (axis d).Centred n := by
    intro axis h_axis d hw hh
    -- both axes go the same way
    rcases List.mem_pair.mp h_axis with rfl | rfl
    · exact Axis.centred_along hw
    · exact Axis.centred_along hh
  intro axis h_axis
  obtain ⟨n, h_display⟩ := h_centred axis h_axis h_width h_height
  refine ⟨⟨n, h_display⟩, fun other hw hh h_le => ?_⟩
  obtain ⟨m, h_other⟩ := h_centred axis h_axis hw hh
  exact h_display.mono h_other h_le

/-- A display of odd lengths, of which one is the greatest. -/
def tallest : Size :=
  ⟨803, 2251799813685247⟩

/-- On its long axis the surface reaches out by one unit more behind than before, and farther than
on an axis of 601 units. -/
theorem covering_of_tallest :
    (∃ n, (vertical tallest).Centred n) ∧ (vertical tallest).extent = 3377699720527870 ∧
      (vertical tallest).offset = -562949953421311 ∧
      (vertical tallest).behind = (vertical tallest).before + 1 ∧
      (vertical ⟨801, 601⟩).behind ≤ (vertical tallest).behind := by
  have h_width : IsLength tallest.width := by
    constructor <;> decide +kernel
  have h_height : IsLength tallest.height := by
    constructor <;> decide +kernel
  have h_small_width : IsLength (801 : Float) := by
    constructor <;> decide +kernel
  have h_small_height : IsLength (601 : Float) := by
    constructor <;> decide +kernel
  have h_vertical : vertical ∈ [horizontal, vertical] := by simp
  obtain ⟨h_centred, -⟩ := covering_centred h_width h_height vertical h_vertical
  obtain ⟨-, h_mono⟩ := @covering_centred ⟨801, 601⟩ h_small_width h_small_height vertical
    h_vertical
  obtain ⟨-, -, h_behind⟩ := h_mono tallest h_width h_height (by decide +kernel)
  exact ⟨h_centred, by decide +kernel, by decide +kernel, by decide +kernel, h_behind⟩

end Placement

end Scrim

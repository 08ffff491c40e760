import Scrim.Placement
import Scrim.Proofs.Number.Laws

/-!
# Placements as numbers

A placement is identified by its footprint, whose parts are compared as numbers. Footprints that do
not differ are interchangeable in such comparisons (`Footprint.differs_congr`), and belong to
placements with the same offsets (`Placement.offset_eq_of_beq`), so that nothing is lost by leaving
the offsets out. A display whose size is a number is covered by a placement whose parts are numbers.
-/

namespace Scrim

open Number
open Float.Model (Format UnpackedFloat)
open Float.Model.UnpackedFloat

/-! ### Footprints -/

theorem Footprint.differs_eq_false_iff {f g : Footprint} :
    f.differs g = false ↔
      (f.width == g.width) = true ∧ (f.height == g.height) = true ∧
        (f.layer == g.layer) = true := by
  unfold differs
  simp only [Bool.or_eq_false_iff, bne, Bool.not_eq_false', and_assoc]

/-- Footprints that do not differ from one another differ from the same others. -/
theorem Footprint.differs_congr {f g : Footprint} (h : f.differs g = false) (other : Footprint) :
    f.differs other = g.differs other := by
  obtain ⟨h_width, h_height, h_layer⟩ := differs_eq_false_iff.mp h
  unfold differs bne
  rw [BEq.congr_left h_width, BEq.congr_left h_height, BEq.congr_left h_layer]

/-- Equal numbers are the same, except that there are two zeros. -/
theorem Number.eq_or_zeros_of_beq {x y : Float} (h : (x == y) = true) :
    x = y ∨ (x = 0 ∨ x = -0) ∧ (y = 0 ∨ y = -0) := by
  obtain ⟨-, -, h_eq | ⟨h_x, h_y⟩ | ⟨h_x, h_y⟩⟩ := Float.beq_iff_ne_nan_and_eq.mp h
  · exact Or.inl h_eq
  · exact Or.inr ⟨Or.inl h_x, Or.inr h_y⟩
  · exact Or.inr ⟨Or.inr h_x, Or.inl h_y⟩

/-- What is not a zero is the same number as no other. -/
theorem Number.eq_of_beq_of_nonzero {x y : Float} (h_zeros : ¬(x = 0 ∨ x = -0))
    (h : (x == y) = true) : y = x :=
  ((eq_or_zeros_of_beq h).resolve_right fun h => h_zeros h.1).symm

/-- The layer of a surface that has not been given one is the same number as no other. -/
theorem eq_unsetLayer {layer : Float} (h : (unsetLayer == layer) = true) : layer = unsetLayer :=
  eq_of_beq_of_nonzero (by decide +kernel) h

namespace Placement

/-! ### Offsets -/

/-- The offset depends on the extent as a number only. -/
theorem offset_eq_of_beq {x y : Float} (h : (x == y) = true) : offset x = offset y := by
  -- of either zero the offset is the positive one
  have h_zero {z : Float} (hz : z = 0 ∨ z = -0) : offset z = 0 := by
    rcases hz with rfl | rfl <;> decide +kernel
  rcases eq_or_zeros_of_beq h with rfl | ⟨hx, hy⟩
  · rfl
  · rw [h_zero hx, h_zero hy]

/-! ### Parts that are numbers -/

/-- A positive factor keeps an infinity, also as the second one. -/
theorem lies_infinity_mul_of_pos {u v : UnpackedFloat} {s : Sign} (hu : u = .infinity s)
    (hv : v.isFinite = true) (h_pos : 0 < place v) :
    Lies (Float.Model.pack (UnpackedFloat.mul Format.binary64 u v)).unpack (side s limit) := by
  subst hu
  cases hv using finite_cases with
  | zero s' => exact absurd h_pos (lt_irrefl _)
  | finite s' m e hm =>
    obtain rfl := side_pos (by positivity) h_pos
    cases s
    · exact lies_infinity .negative
    · exact lies_infinity .positive

theorem isNaN_neg {x : Float} (h : x.isNaN = false) : (-x).isNaN = false := by
  change (Float.Model.pack x.toModel.unpack.neg).unpack.isNaN = false
  rw [unpack_pack (canonical_neg (canonical_unpack _))]
  change x.toModel.unpack.isNaN = false at h
  generalize x.toModel.unpack = u at h ⊢
  cases u with
  | notANumber => exact Bool.noConfusion h
  | infinity s | zero s | finite s m e hm => rfl

theorem isNaN_signed (sign : Sign) (n : ℕ) : (signed sign n).isNaN = false := by
  have h_num : n.toUInt64.toFloat.isNaN = false :=
    (lies_normalize n.toUInt64.toNat 0 .positive).isNaN_eq
  cases sign with
  | positive => exact h_num
  | negative => exact isNaN_neg h_num

theorem isNaN_truncate {x : Float} (h : x.isNaN = false) : (truncate x).isNaN = false := by
  unfold truncate
  -- a fraction is cut off only where there is one
  split
  · split
    · exact h
    · exact isNaN_signed ..
  · exact h

/-- A positive finite factor or divisor leaves a number one. -/
theorem isNaN_mul_div {x y : Float} (h : x.isNaN = false) (hy : y.isFinite = true)
    (hy_pos : 0 < y) :
    (x * y).isNaN = false ∧ (x / y).isNaN = false := by
  have h_pos := toRat_pos hy_pos
  rcases isFinite_or_infinity h with hx | ⟨s, hs⟩
  · exact ⟨(lies_toModel_mul hx hy).isNaN_eq, (lies_toModel_div hx hy h_pos.ne').isNaN_eq⟩
  · exact ⟨(lies_infinity_mul_of_pos hs hy h_pos).isNaN_eq,
      (lies_infinity_div_of_pos hs hy h_pos).isNaN_eq⟩

theorem isNaN_zero_sub {x : Float} (h : x.isNaN = false) : (0 - x).isNaN = false := by
  rcases isFinite_or_infinity h with hx | ⟨s, hs⟩
  · exact (lies_toModel_sub isFinite_zero hx).isNaN_eq
  · change (Float.Model.pack (UnpackedFloat.sub Format.binary64 (0 : Float).toModel.unpack
      x.toModel.unpack)).unpack.isNaN = false
    -- an infinity absorbs the zero that it is taken from
    rw [sub_eq_add_negated, hs]
    have h_zero : (0 : Float).toModel.unpack.isFinite = true := isFinite_zero
    exact (lies_add_infinity h_zero rfl).isNaN_eq

theorem isNaN_extent {size : Float} (h : size.isNaN = false) : (extent size).isNaN = false :=
  isNaN_truncate (isNaN_mul_div h (by decide +kernel) (by decide +kernel)).1

theorem isNaN_offset {extent : Float} (h : extent.isNaN = false) : (offset extent).isNaN = false :=
  isNaN_zero_sub (isNaN_truncate (isNaN_mul_div h (by decide +kernel) (by decide +kernel)).2)

end Placement

end Scrim

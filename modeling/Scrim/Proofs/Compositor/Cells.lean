import Scrim.Compositor.Status
import Scrim.Proofs.Arrival
import Scrim.Proofs.Number.Whole
import Scrim.Proofs.Placement

/-!
# Status lines in full

The filled cells of a bar and the percentage behind it are shares of whole numbers at an alpha
(`Number.share`): of the width of the bar, and of a hundred. Both roundings of a product keep the
order, so a share does not shrink as the alpha grows, and is all of the number at full alpha. The
empty cells are what a subtraction of doubles leaves of the width. It is exact for widths of up to
fifty-three bits, and wider bars do not fit into a text anyway. So the line of a visible surface at
an alpha between zero and one is known (`StatusStyle.written`), and it can be written unless it is
longer than a text can be (`StatusStyle.line_eq`).
-/

namespace Scrim

open Number

/-! ### Shares -/

/-- A share of a number is at least zero and at most the number. -/
theorem InUnit.share_bounds {a w : Float} (h : InUnit a) (hw : w.isFinite = true)
    (hw_nonneg : 0 ≤ w) : 0 ≤ a * w ∧ a * w ≤ w := by
  have h_lies := lies_toModel_mul h.isFinite hw
  have h_rat := Number.toRat_nonneg hw_nonneg
  refine ⟨le_of_lies lies_zero h_lies (round_nonneg (mul_nonneg h.toRat_nonneg h_rat)), ?_⟩
  -- the product is at most the number, and rounding keeps the order
  refine le_of_lies h_lies (lies_toRat (isNaN_of_isFinite hw)) ?_
  calc Number.round (toRat a * toRat w) ≤ Number.round (toRat w) :=
        round_mono (mul_le_of_le_one_left h_rat h.toRat_le_one)
    _ = toRat w := round_toRat hw

namespace Number

/-- The share of a natural number at an alpha: the product, rounded to a double and then to a whole
number, of two equally near ones to the greater. -/
def share (alpha : Float) (n : ℕ) : ℕ :=
  ⌊round (toRat alpha * n) + 1 / 2⌋₊

section

variable {a b : Float} {n : ℕ}

theorem share_mono (h : a ≤ b) : share a n ≤ share b n := by
  have h_product : toRat a * n ≤ toRat b * n :=
    mul_le_mul_of_nonneg_right (toRat_le_of_le h) (Nat.cast_nonneg n)
  exact Nat.floor_mono (add_le_add_left (round_mono h_product) _)

theorem share_of_zero (h : toRat a = 0) : share a n = 0 := by
  rw [share, h, zero_mul, round_zero]
  norm_num

/-- At full alpha the share is all, if the number is a double. -/
theorem share_of_one (h : toRat a = 1) (hn : round n = n) : share a n = n := by
  rw [share, h, one_mul, hn, add_comm, Nat.floor_add_natCast (by norm_num)]
  norm_num

theorem share_le (h : InUnit a) (hn : round n = n) : share a n ≤ n := by
  calc share a n ≤ share 1 n := share_mono h.le_one
    -- at full alpha, which is the most
    _ = n := share_of_one toRat_one hn

theorem share_hundred_le (h : InUnit a) : share a 100 ≤ 100 := by
  have h_bits : 100 ≤ 2 ^ 53 := by norm_num
  exact share_le h (round_natCast h_bits)

/-- A share is what is computed of it. -/
theorem lies_share (h : InUnit a) (hb : b.isFinite = true) (h_eq : toRat b = n) :
    Lies (roundHalfUp (a * b)).toModel.unpack (share a n) := by
  -- half is rounded up, which is to cut down a half more, as the product is not negative
  have h_nonneg : 0 ≤ b :=
    le_of_lies lies_zero (lies_toRat (isNaN_of_isFinite hb)) (h_eq ▸ Nat.cast_nonneg n)
  obtain ⟨h_share, h_share_le⟩ := h.share_bounds hb h_nonneg
  have h_lies := lies_roundHalfUp (isFinite_of_le_of_le isFinite_zero hb h_share h_share_le) h_share
  rwa [toRat_of_lies (lies_toModel_mul h.isFinite hb), h_eq] at h_lies

end

/-- A number that lies at a small natural number is the double for it, or one of the zeros. -/
theorem eq_signed_of_lies {x : Float} {n : ℕ} (hn : n ≤ 2 ^ 53)
    (h : Lies x.toModel.unpack n) : x = signed .positive n ∨ x = 0 ∨ x = -0 := by
  have h_signed := lies_signed_positive hn
  have h_beq : (x == signed .positive n) = true := by
    rw [beq_iff h.isNaN_eq h_signed.isNaN_eq, toRat_of_lies h, toRat_of_lies h_signed]
  exact (eq_or_zeros_of_beq h_beq).imp_right And.left

/-- Natural numbers of up to three digits are written as such. -/
theorem text_of_lies {x : Float} {n : ℕ} (hn : n ≤ 100) (h : Lies x.toModel.unpack n) :
    text x = toString n := by
  have h_text : ∀ k ∈ List.range 101, text (signed .positive k) = toString k := by decide +kernel
  have h_zero (h_eq : toRat x = 0) : n = 0 := by
    rw [toRat_of_lies h] at h_eq
    exact_mod_cast h_eq
  -- a zero of either sign is written without a sign
  rcases eq_signed_of_lies (hn.trans (by norm_num)) h with rfl | rfl | rfl
  · exact h_text n (List.mem_range.mpr (Nat.lt_succ_of_le hn))
  · rw [h_zero toRat_zero]
    decide +kernel
  · rw [h_zero (by decide +kernel)]
    decide +kernel

end Number

namespace Compositor

/-! ### Cells -/

/-- A number that lies at a natural number, as near as doubles can, asks for that many cells. -/
theorem cellCount_eq {count : Float} {n : ℕ} (h_finite : count.isFinite = true)
    (h : toRat count = Number.round n) :
    cellCount count = if n ≤ longestText then .ok n else .error .textTooLong := by
  have h_nonneg : 0 ≤ count := by
    refine le_of_lies lies_zero (lies_toRat (isNaN_of_isFinite h_finite)) ?_
    rw [h]
    exact round_nonneg (Nat.cast_nonneg n)
  unfold cellCount
  rw [count?_eq_floor h_finite h_nonneg, h]
  dsimp only
  rcases le_total n (2 ^ 53) with h_exact | h_large
  · -- a number of up to fifty-three bits is not rounded
    rw [round_natCast h_exact, Nat.floor_natCast]
  · -- too many to be counted exactly are too many
    have h_floor : 2 ^ 53 ≤ ⌊Number.round n⌋₊ := by
      refine Nat.le_floor ?_
      rw [← round_natCast le_rfl]
      exact round_mono (by exact_mod_cast h_large)
    have h_longest : longestText < 2 ^ 53 := by decide
    rw [if_neg (by omega), if_neg (by omega)]

end Compositor

namespace Palette

/-- A tint does not shorten a text. -/
theorem le_span (palette : Palette) (tint : Tint) (length : ℕ) :
    length ≤ palette.span tint length := by
  unfold span
  split <;> omega

/-- It takes ten units at most. -/
theorem span_le (palette : Palette) (tint : Tint) (length : ℕ) :
    palette.span tint length ≤ length + 10 := by
  have h_codes : Text.units tint.opening + Text.units tint.closing ≤ 10 := by
    cases tint <;> decide
  unfold span
  split <;> omega

/-- What a terminal prints of a text. An escape code, from the escape character to the next `m`, is
not printed; `inCode` tells whether one is under way. -/
def printed : (inCode : Bool) → List Char → List Char
  | _, [] => []
  | false, c :: rest => if c = '\x1b' then printed true rest else c :: printed false rest
  | true, c :: rest => printed (c != 'm') rest

/-- The codes of a tint are not printed. -/
theorem printed_codes (tint : Tint) (rest : List Char) :
    printed false (tint.opening.toList ++ rest) = printed false rest ∧
      printed false (tint.closing.toList ++ rest) = printed false rest := by
  cases tint <;> exact ⟨rfl, rfl⟩

/-- What is not an escape character is printed. -/
theorem printed_replicate (n : ℕ) {c : Char} (h : c ≠ '\x1b') (rest : List Char) :
    printed false (List.replicate n c ++ rest) = List.replicate n c ++ printed false rest := by
  induction n with
  | zero => rfl
  | succ n ih =>
    rw [List.replicate_succ, List.cons_append, printed, if_neg h, ih]
    rfl

/-- A tint leaves what is printed of a row of characters. -/
theorem printed_paint (palette : Palette) (tint : Tint) (n : ℕ) {c : Char}
    (unbroken : c ≠ '\n') (plain : c ≠ '\x1b') (rest : List Char) :
    printed false ((palette.paint tint (String.ofList (List.replicate n c))).toList ++ rest)
      = List.replicate n c ++ printed false rest := by
  have absent {d : Char} (h : c ≠ d) : d ∉ (String.ofList (List.replicate n c)).toList := by
    rw [String.toList_ofList]
    exact fun h_mem => h (List.eq_of_mem_replicate h_mem).symm
  unfold paint
  split
  · rw [String.toList_ofList, printed_replicate n plain]
  · -- the row neither closes the tint nor breaks the line, so that the codes only enclose it
    rw [String.toList_ofList, Chars.follow_eq_self (head?_closing tint) (absent plain),
      Chars.breakAt_eq_self (absent unbroken), String.toList_ofList, List.append_assoc,
      List.append_assoc, (printed_codes tint _).1, printed_replicate n plain,
      (printed_codes tint _).2]

end Palette

namespace Compositor

/-- **Colours aside, a bar is its filled cells and after them its empty ones.** -/
theorem printed_render (palette : Palette) (bar : Bar) :
    Palette.printed false (bar.render palette).toList
      = List.replicate bar.full '█' ++ List.replicate bar.empty '·' := by
  rw [Bar.render, String.toList_append,
    palette.printed_paint .gray bar.full (by decide) (by decide),
    ← List.append_nil (palette.paint .dim _).toList,
    palette.printed_paint .dim bar.empty (by decide) (by decide), Palette.printed, List.append_nil]

namespace StatusStyle

/-! ### Lines -/

/-- The bar of a natural number of cells at an alpha. -/
def barOf (alpha : Float) (w : ℕ) : Bar :=
  ⟨share alpha w, w - share alpha w⟩

/-- The status line of a visible surface, with a bar of a natural number of cells. -/
def written (style : StatusStyle) (w : ℕ) (s : Surface) : String :=
  head s ++ " " ++ (barOf s.alpha w).render style.palette ++ " " ++ toString (share s.alpha 100)
    ++ "%"

/-- A percentage is the share of a hundred. -/
theorem text_percentage {alpha : Float} (h : InUnit alpha) :
    Number.text (percentage alpha) = toString (share alpha 100) := by
  have h_hundred : toRat 100 = (100 : ℕ) := by decide +kernel
  have h_finite : (100 : Float).isFinite = true := by decide +kernel
  exact text_of_lies (share_hundred_le h) (lies_share h h_finite h_hundred)

section

variable {style : StatusStyle} {w : ℕ} (h_finite : style.barWidth.isFinite = true)
  (h_width : toRat style.barWidth = w)

include h_finite h_width

theorem share_le_width {alpha : Float} (h : InUnit alpha) : share alpha w ≤ w := by
  refine share_le h ?_
  rw [← h_width]
  exact round_toRat h_finite

theorem toRat_filled {alpha : Float} (h : InUnit alpha) :
    toRat (style.filled alpha) = share alpha w :=
  toRat_of_lies (lies_share h h_finite h_width)

/-- Between none and all of the cells are filled, as numbers. -/
theorem filled_bounds {alpha : Float} (h : InUnit alpha) :
    0 ≤ style.filled alpha ∧ style.filled alpha ≤ style.barWidth := by
  have h_lies : Lies (style.filled alpha).toModel.unpack (share alpha w) :=
    lies_share h h_finite h_width
  refine ⟨le_of_lies lies_zero h_lies (Nat.cast_nonneg _), ?_⟩
  refine le_of_lies h_lies (lies_toRat (isNaN_of_isFinite h_finite)) ?_
  rw [h_width]
  exact_mod_cast share_le_width h_finite h_width h

/-- How many cells are filled. -/
theorem cellCount_filled {alpha : Float} (h : InUnit alpha) :
    cellCount (style.filled alpha)
      = if share alpha w ≤ longestText then .ok (share alpha w) else .error .textTooLong := by
  obtain ⟨h_low, h_high⟩ := filled_bounds h_finite h_width h
  have h_filled := isFinite_of_le_of_le isFinite_zero h_finite h_low h_high
  refine cellCount_eq h_filled ?_
  -- the share is a double, and so its own rounding
  rw [← toRat_filled h_finite h_width h, round_toRat h_filled]

/-- How many are left empty. -/
theorem cellCount_empty {alpha : Float} (h : InUnit alpha) :
    cellCount (style.barWidth - style.filled alpha)
      = if w - share alpha w ≤ longestText then .ok (w - share alpha w)
        else .error .textTooLong := by
  obtain ⟨h_low, h_high⟩ := filled_bounds h_finite h_width h
  have h_filled := isFinite_of_le_of_le isFinite_zero h_finite h_low h_high
  have h_rest : (style.barWidth - style.filled alpha).isFinite = true :=
    Number.isFinite_sub h_finite (Number.le_trans h_low h_high)
      (Number.le_refl (isNaN_of_isFinite h_finite)) h_low h_high
  refine cellCount_eq h_rest ?_
  -- the difference of two doubles is rounded once, from the exact number of cells
  rw [toRat_of_lies (lies_toModel_sub h_finite h_filled), h_width, toRat_filled h_finite h_width h,
    Nat.cast_sub (share_le_width h_finite h_width h)]

/-- What stands in a line besides its head and its cells is short. -/
theorem units_written_le {s : Surface} (h : InUnit s.alpha) :
    Text.units (style.written w s) ≤ Text.units (head s) + w + 26 := by
  have h_digits : ∀ n ∈ List.range 101, Text.units (toString n) ≤ 3 := by decide +kernel
  -- the percentage has three digits at most
  have h_behind := h_digits _ (List.mem_range.mpr (Nat.lt_succ_of_le (share_hundred_le h)))
  have h_le := share_le_width h_finite h_width h
  -- and the codes of the two rows take ten units each
  have h_full := style.palette.span_le .gray (share s.alpha w)
  have h_empty := style.palette.span_le .dim (w - share s.alpha w)
  have h_space : Text.units " " = 1 := by decide
  have h_sign : Text.units "%" = 1 := by decide
  rw [written, Text.units_append, Text.units_append, Text.units_append, Text.units_append,
    Text.units_append, units_render, Bar.length, barOf, h_space, h_sign]
  dsimp only
  omega

/-- **A bar has as many cells as it is wide**, if there can be a text of them. -/
theorem bar_eq {alpha : Float} (h : InUnit alpha) :
    style.bar alpha
      = if style.palette.span .gray (share alpha w) ≤ longestText ∧ w - share alpha w ≤ longestText
        then .ok (barOf alpha w) else .error .textTooLong := by
  have h_span := style.palette.le_span .gray (share alpha w)
  unfold bar
  rw [cellCount_filled h_finite h_width h, cellCount_empty h_finite h_width h]
  by_cases h_full : share alpha w ≤ longestText
  · rw [if_pos h_full]
    dsimp only
    -- there can be a text of the filled cells and yet none of them in colour
    by_cases h_coloured : style.palette.span .gray (share alpha w) ≤ longestText
    · rw [if_neg (not_lt.mpr h_coloured)]
      by_cases h_empty : w - share alpha w ≤ longestText
      · rw [if_pos h_empty, if_pos ⟨h_coloured, h_empty⟩]
        rfl
      · rw [if_neg h_empty, if_neg fun h_both => h_empty h_both.2]
        rfl
    · rw [if_pos (not_le.mp h_coloured), if_neg fun h_both => h_coloured h_both.1]
  · have h_not : ¬(style.palette.span .gray (share alpha w) ≤ longestText ∧
        w - share alpha w ≤ longestText) := fun h_both => h_full (h_span.trans h_both.1)
    rw [if_neg h_full, if_neg h_not]

/-- **A visible surface has the line that it should have**, unless that is too long for a text. -/
theorem line_eq {s : Surface} (h_visible : s.visible = true) (h : InUnit s.alpha) :
    style.line s
      = if Text.units (style.written w s) ≤ longestText then .ok (style.written w s)
        else .error .textTooLong := by
  -- the text that is put together is the line that there should be
  have h_written : head s ++ " " ++ (barOf s.alpha w).render style.palette
      ++ (" " ++ Number.text (percentage s.alpha) ++ "%") = style.written w s := by
    rw [text_percentage h, written]
    simp only [String.append_assoc]
  -- and its length is what is compared before that
  have h_units : Text.units (head s ++ " ") + (barOf s.alpha w).length style.palette
      + Text.units (" " ++ Number.text (percentage s.alpha) ++ "%")
      = Text.units (style.written w s) := by
    rw [← h_written, Text.units_append (head s ++ " " ++ _), Text.units_append (head s ++ " "),
      units_render]
  unfold line
  dsimp only
  rw [h_visible, bar_eq h_finite h_width h, Bool.not_true, if_neg Bool.false_ne_true]
  by_cases h_bar : style.palette.span .gray (share s.alpha w) ≤ longestText ∧
      w - share s.alpha w ≤ longestText
  · rw [if_pos h_bar]
    dsimp only
    rw [h_units, h_written]
    by_cases h_short : Text.units (style.written w s) ≤ longestText
    · rw [if_pos h_short, if_neg (not_lt.mpr h_short)]
    · rw [if_neg h_short, if_pos (not_le.mp h_short)]
  · -- a line is not shorter than the cells in it
    have h_empty := style.palette.le_span .dim (w - share s.alpha w)
    have h_long : ¬Text.units (style.written w s) ≤ longestText := by
      rw [← h_units, Bar.length, barOf]
      dsimp only
      omega
    rw [if_neg h_bar, if_neg h_long]

end

end StatusStyle

end Compositor

end Scrim

import Mathlib
import Scrim.Text.Blank

/-!
# Blanks and letter case

Two ways of writing a text differently: with blanks around it (`Text.Padded`), and with other cases
of its ASCII letters (`Text.Recased`). Trimming undoes the first and lowering the second
(`Text.trim_eq_iff`, `Text.Recased.toLower_eq`). No letter is blank, so neither gets in the way of
the other: a text is lowered within its blanks.
-/

namespace Scrim.Text

/-! ### Padding -/

/-- The second text is the first one with blanks before and after it, or without. -/
def Padded (s s' : String) : Prop :=
  ∃ front back, isBlankText front = true ∧ isBlankText back = true ∧ s' = front ++ s ++ back

/-- Neither end of a text is blank. -/
structure Bare (s : String) : Prop where
  front : ∀ c, s.toList.head? = some c → isBlank c = false
  back : ∀ c, s.toList.getLast? = some c → isBlank c = false

variable {s s' : String}

theorem isBlankText_append (s s' : String) :
    isBlankText (s ++ s') = (isBlankText s && isBlankText s') := by
  rw [isBlankText, String.toList_append, List.all_append]
  rfl

/-- Blanks around a text are blanks around a blank text. -/
theorem Padded.isBlankText_eq (h : Padded s s') : isBlankText s' = isBlankText s := by
  obtain ⟨front, back, h_front, h_back, rfl⟩ := h
  rw [isBlankText_append, isBlankText_append, h_front, h_back, Bool.true_and, Bool.and_true]

/-- The characters that are left by trimming: first the blanks in front are dropped, then those at
the back. -/
theorem toList_trim (s : String) :
    (trim s).toList = (s.toList.dropWhile isBlank).rdropWhile isBlank := by
  rw [trim, String.toList_ofList]
  rfl

/-- Trimming takes nothing but blanks away. -/
theorem padded_trim (s : String) : Padded (trim s) s := by
  refine ⟨String.ofList (s.toList.takeWhile isBlank),
    String.ofList ((s.toList.dropWhile isBlank).rtakeWhile isBlank), ?_, ?_, ?_⟩
  · -- what was taken away in front and at the back is blank
    rw [isBlankText, String.toList_ofList]
    exact List.all_takeWhile
  · rw [isBlankText, String.toList_ofList]
    exact List.all_eq_true.mpr fun c hc => List.mem_rtakeWhile_imp hc
  · -- together with what is left it is the whole
    apply String.toList_injective
    rw [String.toList_append, String.toList_append, toList_trim, String.toList_ofList,
      String.toList_ofList, List.append_assoc, List.rdropWhile_append_rtakeWhile,
      List.takeWhile_append_dropWhile]

/-- Trimming leaves no blank at either end. -/
theorem bare_trim (s : String) : Bare (trim s) := by
  refine ⟨?_, ?_⟩
  · -- what is dropped at the back leaves the front as it is
    intro c hc
    rw [toList_trim] at hc
    obtain ⟨rest, h_rest⟩ := List.head?_eq_some_iff.mp hc
    obtain ⟨back, h_back⟩ := List.rdropWhile_prefix isBlank (s.toList.dropWhile isBlank)
    have h_head := List.head?_dropWhile_not isBlank s.toList
    rw [← h_back, h_rest] at h_head
    exact h_head
  · intro c hc
    rw [toList_trim] at hc
    -- the last character is the last that was not dropped
    have h_ne := List.getLast?_isSome.mp (Option.isSome_of_mem hc)
    have h_last := List.rdropWhile_last_not isBlank _ h_ne
    rw [List.getLast_of_getLast?_eq_some hc] at h_last
    exact Bool.eq_false_of_not_eq_true h_last

/-- Blanks around a text are taken away together with its own. -/
theorem Padded.trim_eq (h : Padded s s') : trim s' = trim s := by
  obtain ⟨front, back, h_front, h_back, rfl⟩ := h
  have h_front := List.all_eq_true.mp h_front
  have h_back := List.all_eq_true.mp h_back
  apply String.toList_injective
  rw [toList_trim, toList_trim, String.toList_append, String.toList_append, List.append_assoc,
    List.dropWhile_append_of_pos h_front, List.dropWhile_append]
  -- the text is blank, and nothing is left, or its blanks are dropped with those around it
  split_ifs with h_blank
  · rw [List.isEmpty_iff.mp h_blank, List.dropWhile_eq_nil_iff.mpr h_back]
  · rw [List.rdropWhile, List.reverse_append, List.dropWhile_append_of_pos]
    · rfl
    · intro c hc
      exact h_back c (List.mem_reverse.mp hc)

theorem Bare.trim_eq (h : Bare s) : trim s = s := by
  apply String.toList_injective
  have h_front : s.toList.dropWhile isBlank = s.toList := by
    cases h_s : s.toList with
    | nil => rfl
    | cons c rest =>
      have h_c := h.front c (by rw [h_s]; rfl)
      exact List.dropWhile_cons_of_neg (by rw [h_c]; exact Bool.false_ne_true)
  rw [toList_trim, h_front, List.rdropWhile_eq_self_iff]
  intro h_ne
  rw [h.back _ (List.getLast?_eq_some_getLast h_ne)]
  exact Bool.false_ne_true

/-- **Trimming leaves the one bare text within the blanks.** -/
theorem trim_eq_iff : trim s' = s ↔ Padded s s' ∧ Bare s := by
  constructor
  · rintro rfl
    exact ⟨padded_trim s', bare_trim s'⟩
  · rintro ⟨h_padded, h_bare⟩
    -- blanks around it are taken away, and there are none of its own
    rw [h_padded.trim_eq, h_bare.trim_eq]

/-! ### Letter case -/

/-- The second character is the first one, perhaps in another case if that is an ASCII letter. -/
def RecasedChar (c c' : Char) : Prop :=
  c' = c ∨ c' = c.toLower ∨ c' = c.toUpper

/-- The second text is the first one, perhaps with ASCII letters in other cases. -/
def Recased (s s' : String) : Prop :=
  List.Forall₂ RecasedChar s.toList s'.toList

theorem RecasedChar.toLower_eq {c c' : Char} (h : RecasedChar c c') : c'.toLower = c.toLower := by
  rcases h with rfl | rfl | rfl
  · rfl
  · exact Char.toLower_toLower_eq_toLower c
  · exact Char.toLower_toUpper_eq_toLower c

/-- A character is its lower case recased. -/
theorem recasedChar_toLower (c : Char) : RecasedChar c.toLower c := by
  by_cases h : c.isUpper = true
  · refine Or.inr (Or.inr ?_)
    rw [Char.toUpper_toLower_eq_toUpper,
      Char.toUpper_eq_of_not_isLower (Char.not_isLower_of_isUpper h)]
  · exact Or.inl (Char.toLower_eq_of_not_isUpper h).symm

/-- Cases are gone when a text is lowered. -/
theorem Recased.toLower_eq (h : Recased s s') : s'.toLower = s.toLower := by
  have h_map {chars chars' : List Char} (h : List.Forall₂ RecasedChar chars chars') :
      chars'.map Char.toLower = chars.map Char.toLower := by
    induction h with
    | nil => rfl
    | cons h_c _ ih => rw [List.map_cons, List.map_cons, h_c.toLower_eq, ih]
  apply String.toList_injective
  rw [String.toLower, String.toLower, String.toList_map, String.toList_map, h_map h]

theorem recased_toLower (s : String) : Recased s.toLower s := by
  rw [Recased, String.toLower, String.toList_map, List.forall₂_map_left_iff]
  exact List.forall₂_same.mpr fun c _ => recasedChar_toLower c

/-- Nothing from the first of the ASCII letters to the last is blank. -/
theorem isBlank_eq_false {c : Char} (h_low : 65 ≤ c.toNat) (h_high : c.toNat ≤ 122) :
    isBlank c = false := by
  simp only [isBlank, Bool.or_eq_false_iff, Bool.and_eq_false_iff, decide_eq_false_iff_not,
    beq_eq_false_iff_ne]
  omega

/-- A character is as blank as its lower case. -/
theorem isBlank_toLower (c : Char) : isBlank c.toLower = isBlank c := by
  by_cases h : c.isUpper = true
  · -- a capital and its small letter both lie among the ASCII letters
    have h_range : 65 ≤ c.toNat ∧ c.toNat ≤ 90 := by
      simp only [Char.isUpper, UInt32.le_iff_toNat_le, decide_eq_true_eq] at h
      exact h
    have h_lowered : c.toLower.toNat = c.toNat + 32 := by
      rw [Char.toLower_eq_of_isUpper h, Char.toNat_ofNat, if_pos]
      exact Or.inl (by omega)
    rw [isBlank_eq_false h_range.1 (by omega), isBlank_eq_false (by omega) (by omega)]
  · rw [Char.toLower_eq_of_not_isUpper h]

theorem isBlankText_toLower (s : String) : isBlankText s.toLower = isBlankText s := by
  rw [isBlankText, String.toLower, String.toList_map, List.all_map, isBlankText]
  congr 1
  funext c
  exact isBlank_toLower c

theorem Recased.isBlankText_eq (h : Recased s s') : isBlankText s' = isBlankText s := by
  rw [← isBlankText_toLower s', h.toLower_eq, isBlankText_toLower]

/-- A text is lowered within its blanks. -/
theorem toLower_trim (s : String) : (trim s).toLower = trim s.toLower := by
  -- dropping blanks and lowering letters can be done in either order
  have h_comp : isBlank ∘ Char.toLower = isBlank := funext isBlank_toLower
  apply String.toList_injective
  rw [toList_trim, String.toLower, String.toLower, String.toList_map, String.toList_map,
    toList_trim, List.dropWhile_map, h_comp, List.rdropWhile, List.rdropWhile, ← List.map_reverse,
    List.dropWhile_map, h_comp, List.map_reverse]

end Scrim.Text

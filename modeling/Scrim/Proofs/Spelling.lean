import Scrim.Proofs.Options
import Scrim.Proofs.Text

/-!
# How flags are spelled

A flag variable is read as `Flag.Spelled` says: one of the spellings of a value, in whatever letter
case, with blanks around it or not. A variable that is unset or blank means nothing, and one that is
neither and spells no value is malformed; all others are `Flag.Legible`. `Flag.Reading` tells these
apart, and `Environment.Malformed` lists what is said of the malformed ones.
-/

namespace Scrim.Options

/-! ### Flag variables -/

namespace Flag

/-- The spellings of a value. -/
def spellings : Bool → List String
  | true => onSpellings
  | false => offSpellings

/-- A text spells a value: within its blanks, if it has any, stands one of the spellings of the
value, in whatever letter case. -/
def Spelled (raw : String) (b : Bool) : Prop :=
  ∃ spelling ∈ spellings b, ∃ word, Text.Recased spelling word ∧ Text.Padded word raw

/-- It can be said what a variable means: it is unset, blank, or spells a value. -/
def Legible (raw? : Option String) : Prop :=
  ∀ raw, raw? = some raw → Text.isBlankText raw = true ∨ ∃ b, Spelled raw b

/-- What is said of a malformed variable. -/
def complaint (flag : Flag) (raw : String) : String :=
  flag.variableName ++ " must be a boolean flag, got \"" ++ raw ++ "\""

variable {raw : String} {b : Bool}

/-- No spelling stands for both values. -/
theorem onSpellings_disjoint : ∀ spelling ∈ offSpellings, spelling ∉ onSpellings := by
  decide

theorem parse?_eq_some_iff_mem :
    parse? raw = some b ↔ (Text.trim raw).toLower ∈ spellings b := by
  unfold parse?
  generalize (Text.trim raw).toLower = spelling
  dsimp only
  cases b with
  | true =>
    -- the spellings of a flag that is on are looked for first
    by_cases h_on : spelling ∈ onSpellings
    · rw [if_pos h_on]
      exact iff_of_true rfl h_on
    · rw [if_neg h_on]
      refine iff_of_false ?_ h_on
      split_ifs <;> simp
  | false =>
    by_cases h_off : spelling ∈ offSpellings
    · rw [if_neg (onSpellings_disjoint spelling h_off), if_pos h_off]
      exact iff_of_true rfl h_off
    · refine iff_of_false ?_ h_off
      rw [if_neg h_off]
      split_ifs <;> simp

/-- Spellings are written in lower case and without blanks. -/
theorem trim_of_mem_spellings :
    ∀ b, ∀ spelling ∈ spellings b, Text.trim spelling.toLower = spelling := by
  decide +kernel

theorem isBlankText_of_mem_spellings :
    ∀ b, ∀ spelling ∈ spellings b, Text.isBlankText spelling = false := by
  decide +kernel

/-- **A flag is read where it is spelled.** -/
theorem parse?_eq_some_iff : parse? raw = some b ↔ Spelled raw b := by
  rw [parse?_eq_some_iff_mem]
  constructor
  · -- what is trimmed and lowered to a spelling is that spelling, recased and padded
    intro h_mem
    exact ⟨_, h_mem, Text.trim raw, Text.recased_toLower _, Text.padded_trim raw⟩
  · rintro ⟨spelling, h_mem, word, h_recased, h_padded⟩
    have h_lowered : (Text.trim raw).toLower = spelling :=
      calc (Text.trim raw).toLower = (Text.trim word).toLower := by rw [h_padded.trim_eq]
        _ = Text.trim spelling.toLower := by rw [Text.toLower_trim, h_recased.toLower_eq]
        _ = spelling := trim_of_mem_spellings b spelling h_mem
    rwa [h_lowered]

/-- What spells a value is not blank. -/
theorem Spelled.isBlankText_eq (h : Spelled raw b) : Text.isBlankText raw = false := by
  obtain ⟨spelling, h_mem, word, h_recased, h_padded⟩ := h
  -- blanks and cases do not matter here, and no spelling is blank
  rw [h_padded.isBlankText_eq, h_recased.isBlankText_eq]
  exact isBlankText_of_mem_spellings b spelling h_mem

/-- Reading a variable tells whether it is legible. -/
instance (raw? : Option String) : Decidable (Legible raw?) :=
  decidable_of_iff
    (raw?.all fun raw => Text.isBlankText raw || (parse? raw).isSome) (by
      cases raw? with
      | none => exact iff_of_true rfl nofun
      | some raw =>
        rw [Option.all_some, Bool.or_eq_true, Option.isSome_iff_exists]
        simp only [parse?_eq_some_iff]
        exact ⟨fun h _ h_raw => Option.some.inj h_raw ▸ h, fun h => h raw rfl⟩)

/-- What a variable can hold. -/
inductive Reading (raw? : Option String) : Prop
  /-- The variable is unset or blank. -/
  | unset (unset : ∀ raw, raw? = some raw → Text.isBlankText raw = true)
  /-- The variable spells a value. -/
  | spelled {raw : String} {b : Bool} (given : raw? = some raw) (spelled : Spelled raw b)
  /-- It cannot be said what the variable means. -/
  | illegible {raw : String} (given : raw? = some raw) (visible : Text.isBlankText raw = false)
    (unspelled : ∀ b, ¬Spelled raw b)

theorem reading (raw? : Option String) : Reading raw? := by
  cases raw? with
  | none => exact .unset nofun
  | some raw =>
    cases h_blank : Text.isBlankText raw with
    | true => exact .unset fun _ h => Option.some.inj h ▸ h_blank
    | false =>
      by_cases h : ∃ b, Spelled raw b
      · obtain ⟨b, h_spelled⟩ := h
        exact .spelled rfl h_spelled
      · exact .illegible rfl h_blank (not_exists.mp h)

/-- What is visible and spells nothing is not legible. -/
theorem not_legible {raw : String} (h_visible : Text.isBlankText raw = false)
    (h_unspelled : ∀ b, ¬Spelled raw b) : ¬Legible (some raw) := by
  intro h
  -- it would have to be blank, or spell something
  rcases h raw rfl with h_blank | ⟨b, h_spelled⟩
  · cases h_visible.symm.trans h_blank
  · exact h_unspelled b h_spelled

end Flag

/-! ### Complaints -/

namespace Environment

variable {env : Environment}

/-- All flag variables are legible. -/
def Legible (env : Environment) : Prop :=
  ∀ flag, Flag.Legible (env.raw flag)

/-- The complaints about those of some flags whose variables are not legible, in their order. -/
inductive Malformed (env : Environment) : List Flag → List String → Prop
  | nil : Malformed env [] []
  | legible {flag : Flag} {rest said} (legible : Flag.Legible (env.raw flag))
    (later : Malformed env rest said) : Malformed env (flag :: rest) said
  | illegible {flag : Flag} {raw : String} {rest said} (given : env.raw flag = some raw)
    (illegible : ¬Flag.Legible (some raw)) (later : Malformed env rest said) :
    Malformed env (flag :: rest) (flag.complaint raw :: said)

theorem legible_iff_recognised : env.Legible ↔ env.Recognised := by
  refine forall_congr' fun flag => forall_congr' fun raw => imp_congr_right fun _ => ?_
  rw [Option.isSome_iff_exists]
  simp only [Flag.parse?_eq_some_iff]

theorem legible_iff : env.Legible ↔ env.complaints = [] :=
  legible_iff_recognised.trans complaints_eq_nil_iff.symm

/-- What there is to complain about of one flag. -/
def complaint? (env : Environment) (flag : Flag) : Option String :=
  match env.given? flag with
  | none => none
  | some raw =>
    match Flag.parse? raw with
    | some _ => none
    | none => some (flag.complaint raw)

theorem complaints_eq (env : Environment) :
    env.complaints = Flag.all.filterMap env.complaint? := rfl

section Given

variable {flag : Flag} {raw : String} {b : Bool}

theorem given?_of_unset (h : ∀ raw, env.raw flag = some raw → Text.isBlankText raw = true) :
    env.given? flag = none := by
  rw [given?, Option.filter_eq_none_iff]
  intro raw h_raw
  rw [h raw h_raw]
  exact Bool.false_ne_true

theorem given?_of_visible (h_raw : env.raw flag = some raw)
    (h : Text.isBlankText raw = false) : env.given? flag = some raw := by
  rw [given?, h_raw, Option.filter_some, h]
  rfl

theorem flag?_of_spelled (h_raw : env.raw flag = some raw) (h : Flag.Spelled raw b) :
    env.flag? flag = some b := by
  rw [flag?, given?_of_visible h_raw h.isBlankText_eq]
  exact Flag.parse?_eq_some_iff.mpr h

/-- What is said of one flag variable. -/
theorem complaint?_cases (env : Environment) (flag : Flag) :
    (Flag.Legible (env.raw flag) ∧ env.complaint? flag = none) ∨
      ∃ raw, env.raw flag = some raw ∧ ¬Flag.Legible (some raw) ∧
        env.complaint? flag = some (flag.complaint raw) := by
  unfold complaint?
  cases Flag.reading (env.raw flag) with
  | unset h_unset =>
    rw [given?_of_unset h_unset]
    exact Or.inl ⟨fun raw h_raw => Or.inl (h_unset raw h_raw), rfl⟩
  | @spelled raw b h_raw h_spelled =>
    rw [given?_of_visible h_raw h_spelled.isBlankText_eq]
    dsimp only
    rw [Flag.parse?_eq_some_iff.mpr h_spelled, h_raw]
    refine Or.inl ⟨?_, rfl⟩
    rintro _ ⟨rfl⟩
    exact Or.inr ⟨b, h_spelled⟩
  | @illegible raw h_raw h_visible h_unspelled =>
    -- what spells neither value is read as neither
    have h_parse : Flag.parse? raw = none :=
      Option.eq_none_iff_forall_ne_some.mpr fun b h_b =>
        h_unspelled b (Flag.parse?_eq_some_iff.mp h_b)
    rw [given?_of_visible h_raw h_visible]
    dsimp only
    rw [h_parse]
    exact Or.inr ⟨raw, h_raw, Flag.not_legible h_visible h_unspelled, rfl⟩

/-- Nothing is said of a legible variable. -/
theorem complaint?_of_legible (h : Flag.Legible (env.raw flag)) : env.complaint? flag = none := by
  obtain ⟨-, h_none⟩ | ⟨raw, h_raw, h_illegible, -⟩ := env.complaint?_cases flag
  · exact h_none
  · rw [h_raw] at h
    exact absurd h h_illegible

theorem name?_of_unset (h : ∀ raw, env.surfaceName = some raw → Text.isBlankText raw = true) :
    env.name? = none := by
  rw [name?, Option.map_eq_none_iff, Option.filter_eq_none_iff]
  intro raw h_raw
  rw [h raw h_raw]
  exact Bool.false_ne_true

theorem name?_of_visible (h_raw : env.surfaceName = some raw)
    (h : Text.isBlankText raw = false) : env.name? = some (Text.trim raw) := by
  rw [name?, h_raw, Option.filter_some, h]
  rfl

end Given

/-- **The complaints are those of the malformed variables**, flag by flag. -/
theorem malformed_complaints (env : Environment) (flags : List Flag) :
    env.Malformed flags (flags.filterMap env.complaint?) := by
  -- on the flags, each of which adds one complaint or none
  induction flags with
  | nil => exact .nil
  | cons flag rest ih =>
    rcases env.complaint?_cases flag with ⟨h_legible, h_none⟩ | ⟨raw, h_raw, h_illegible, h_some⟩
    · rw [List.filterMap_cons_none h_none]
      exact .legible h_legible ih
    · rw [List.filterMap_cons_some h_some]
      exact .illegible h_raw h_illegible ih

end Environment

end Scrim.Options

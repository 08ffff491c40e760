import Mathlib.Data.List.TakeWhile
import Scrim.Options

/-!
# Which environments give options

Without overrides, options can only fail for a flag variable that is neither blank nor spelled in a
known way. If there is one, the complaints about such variables are all that is reported
(`Options.resolve_of_malformed`), and overrides would not help (`Options.refused_of_malformed`).
Otherwise there are options: the name that was given is trimmed only if it holds more than blanks,
and so it is not empty (`Options.resolve_of_recognised`).
-/

namespace Scrim

/-! ### Trimmed text -/

namespace Text

/-- Trimming leaves nothing of a blank text alone. -/
theorem isBlankText_of_trim {s : String} (h : trim s = "") : isBlankText s = true := by
  have h_back : ((s.toList.dropWhile isBlank).reverse.dropWhile isBlank).reverse = [] :=
    String.ofList_eq_empty_iff.mp h
  -- dropping blanks from the back leaves nothing only if there is nothing but blanks
  rw [List.reverse_eq_nil_iff, List.dropWhile_eq_nil_iff] at h_back
  unfold isBlankText
  cases h_front : s.toList.dropWhile isBlank with
  | nil => exact List.all_eq_true.mpr (List.dropWhile_eq_nil_iff.mp h_front)
  | cons c rest =>
    -- what is left at the front begins with something that is not blank
    have h_blank : isBlank c = true := h_back c (by rw [h_front]; simp)
    have h_not := List.head_dropWhile_not isBlank (by rw [h_front]; exact List.cons_ne_nil c rest)
    simp only [h_front, List.head_cons, h_blank] at h_not
    cases h_not

end Text

namespace Options

namespace Environment

variable {env : Environment}

/-- Each flag variable is unset, blank or spelled in a known way. -/
def Recognised (env : Environment) : Prop :=
  ∀ flag raw, env.raw flag = some raw →
    Text.isBlankText raw = true ∨ (Flag.parse? raw).isSome = true

/-- A flag variable of which can be said what it means, if anything. -/
theorem given?_eq_none_or (h : env.Recognised) (flag : Flag) :
    env.given? flag = none ∨ ∃ raw b, env.given? flag = some raw ∧ Flag.parse? raw = some b := by
  unfold given?
  cases h_raw : env.raw flag with
  | none => exact Or.inl rfl
  | some raw =>
    rcases h flag raw h_raw with h_blank | h_parse
    · exact Or.inl (by rw [Option.filter_some, h_blank]; rfl)
    · obtain ⟨b, h_b⟩ := Option.isSome_iff_exists.mp h_parse
      cases h_blank : Text.isBlankText raw with
      | true => exact Or.inl (by rw [Option.filter_some, h_blank]; rfl)
      | false => exact Or.inr ⟨raw, b, by rw [Option.filter_some, h_blank]; rfl, h_b⟩

/-- **There is nothing to complain about exactly if all flag variables are recognised.** -/
theorem complaints_eq_nil_iff : env.complaints = [] ↔ env.Recognised := by
  unfold complaints
  rw [List.filterMap_eq_nil_iff]
  constructor
  · intro h flag raw h_raw
    have h_flag := h flag (by cases flag <;> decide)
    -- a variable that is neither blank nor spelled is given, and would be complained about
    by_contra h_both
    obtain ⟨h_blank, h_parse⟩ := not_or.mp h_both
    have h_given : env.given? flag = some raw := by
      rw [given?, h_raw, Option.filter_some, eq_false_of_ne_true h_blank]
      rfl
    rw [Option.not_isSome_iff_eq_none] at h_parse
    rw [h_given] at h_flag
    dsimp only at h_flag
    rw [h_parse] at h_flag
    cases h_flag
  · intro h flag _
    -- a flag that is not given, or is spelled, adds no complaint
    rcases given?_eq_none_or h flag with h_none | ⟨raw, b, h_given, h_parse⟩
    · rw [h_none]
    · rw [h_given]
      dsimp only
      rw [h_parse]

/-- A name that is given is not empty. -/
theorem name?_ne_empty {name : String} (h : env.name? = some name) : name ≠ "" := by
  rintro rfl
  obtain ⟨raw, h_raw, h_trim⟩ := Option.map_eq_some_iff.mp h
  have h_blank := (Option.filter_eq_some_iff.mp h_raw).2
  -- only a blank variable is trimmed to nothing, and that does not count as given
  rw [Text.isBlankText_of_trim h_trim] at h_blank
  cases h_blank

end Environment

/-- The options that an environment gives. -/
def ofEnvironment (env : Environment) : Options where
  debug := (env.flag? .debug).getD false
  surfaceTrace := (env.flag? .surfaceTrace).getD false
  showTransactions := (env.flag? .showTransactions).getD false
  surfaceName := env.name?.getD "DimSurface"

variable {env : Environment}

/-- A name that keeps its rule. -/
theorem text_nameRules {name : String} (h : name ≠ "") :
    Contract.text nameRules (.text name) = .ok name := by
  have h_complaints : Rule.complaints nameRules name = [] := by
    simp [Rule.complaints, nameRules, h]
  change Contract.judge nameRules name = .ok name
  unfold Contract.judge
  rw [h_complaints]

/-- **A recognised environment gives options.** -/
theorem resolve_of_recognised (h : env.Recognised) : resolve {} env = .ok (ofEnvironment env) := by
  -- the name is the default or one that was given, and neither is empty
  have h_name : env.name?.getD "DimSurface" ≠ "" := by
    cases h_name : env.name? with
    | none => decide
    | some name => exact Environment.name?_ne_empty h_name
  have h_size : Contract.number sizeRules (.number 16) = .ok 16 := by
    have h_num : Float.isNaN 16 = false := by decide +kernel
    have h_complaints : Rule.complaints sizeRules 16 = [] := by decide +kernel
    unfold Contract.number Contract.judge
    dsimp only
    rw [h_num, h_complaints]
    rfl
  -- with no override each option is that of the environment or the default
  have h_check : check (merge {} env) = .ok (ofEnvironment env) := by
    have h_name : Contract.text nameRules (merge {} env).surfaceName = .ok _ :=
      text_nameRules h_name
    have h_size : Contract.number sizeRules (merge {} env).initialSize = .ok 16 := h_size
    unfold check
    rw [h_name, h_size]
    rfl
  unfold resolve
  rw [Environment.complaints_eq_nil_iff.mpr h]
  dsimp only
  rw [h_check]

/-- Malformed flags are reported before anything is merged, so whatever is overridden. -/
theorem refused_of_malformed (overrides : Overrides) (h : ¬env.Recognised) :
    resolve overrides env = .error env.complaints := by
  unfold resolve
  cases h_complaints : env.complaints with
  | nil => exact absurd (Environment.complaints_eq_nil_iff.mp h_complaints) h
  | cons first rest => rfl

/-- **Of any other environment only its malformed flags are reported.** -/
theorem resolve_of_malformed (h : ¬env.Recognised) :
    resolve {} env = .error env.complaints ∧ env.complaints ≠ [] :=
  ⟨refused_of_malformed {} h, mt Environment.complaints_eq_nil_iff.mp h⟩

end Options

end Scrim

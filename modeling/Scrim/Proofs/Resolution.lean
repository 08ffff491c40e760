import Scrim.Proofs.Spelling
import Scrim.Proofs.Validation

/-!
# Options from their layers

What options come to is said here without saying how they are computed. `Merges` takes each of them
from its override, its variable or its default, `Overrides.Meets` tells whether such values keep the
contract, and `Overrides.Faulty` all that is wrong with them if not.

`Options.resolution_of_layers` states that options are resolved so, unless a flag variable is
malformed; then such variables are all that is reported. That an ok answer does not depend on how
the variables are written (`Environment.Restyled`) is because trimming and lowering undo the
difference before anything else looks at them.
-/

namespace Scrim.Options

open Number

/-! ### The layers -/

/-- The value of a flag. -/
def flag (options : Options) : Flag → Bool
  | .debug => options.debug
  | .surfaceTrace => options.surfaceTrace
  | .showTransactions => options.showTransactions

/-- The explicit value of a flag. -/
def Overrides.flag (overrides : Overrides) : Flag → Value
  | .debug => overrides.debug
  | .surfaceTrace => overrides.surfaceTrace
  | .showTransactions => overrides.showTransactions

/-- An explicit value if there is one, and otherwise what is below. -/
inductive Topmost (override : Value) (below : Value → Prop) : Value → Prop
  | override (given : override ≠ .absent) : Topmost override below override
  | below {value : Value} (missing : override = .absent) (h_below : below value) :
    Topmost override below value

/-- What a flag variable gives, or the default if it gives nothing. -/
inductive FromFlag (raw? : Option String) (fallback : Bool) : Value → Prop
  | given {raw : String} {b : Bool} (given : raw? = some raw) (spelled : Flag.Spelled raw b) :
    FromFlag raw? fallback (.flag b)
  | fallback (unset : ∀ raw, raw? = some raw → Text.isBlankText raw = true) :
    FromFlag raw? fallback (.flag fallback)

/-- What a name variable gives, without the blanks around it, or the default if it gives nothing. -/
inductive FromName (raw? : Option String) (fallback : String) : Value → Prop
  | given {raw name : String} (given : raw? = some raw) (visible : Text.isBlankText raw = false)
    (padded : Text.Padded name raw) (bare : Text.Bare name) :
    FromName raw? fallback (.text name)
  | fallback (unset : ∀ raw, raw? = some raw → Text.isBlankText raw = true) :
    FromName raw? fallback (.text fallback)

/-- The options with nothing to override and nothing in the environment. -/
def defaults : Options := {}

/-- Values taken from the layers, option by option. The environment has no say in the size. -/
structure Merges (overrides : Overrides) (env : Environment) (merged : Overrides) : Prop where
  flag : ∀ flag, Topmost (overrides.flag flag) (FromFlag (env.raw flag) (defaults.flag flag))
    (merged.flag flag)
  surfaceName : Topmost overrides.surfaceName (FromName env.surfaceName defaults.surfaceName)
    merged.surfaceName
  initialSize : Topmost overrides.initialSize (· = .number defaults.initialSize) merged.initialSize

section Merges

variable {overrides : Overrides} {env : Environment} {merged : Overrides}

theorem layered_eq_self {override : Value} (given : override ≠ .absent) (below : Value) :
    layered override below = override := by
  cases override with
  | absent => exact absurd rfl given
  | _ => rfl

theorem topmost_layered {override below : Value} {P : Value → Prop} (h : P below) :
    Topmost override P (layered override below) := by
  -- what is below counts only where there is no override
  by_cases missing : override = .absent
  · rw [missing]
    exact .below rfl h
  · rw [layered_eq_self missing]
    exact .override missing

theorem Topmost.eq {override below value : Value} {P : Value → Prop}
    (h : Topmost override P value) (h_below : ∀ value, P value → value = below) :
    value = layered override below := by
  cases h with
  | override given => exact (layered_eq_self given below).symm
  | below missing h_value =>
    rw [missing]
    exact h_below value h_value

theorem fromFlag_flag? {flag : Flag} (h : Flag.Legible (env.raw flag)) (fallback : Bool) :
    FromFlag (env.raw flag) fallback (.flag ((env.flag? flag).getD fallback)) := by
  cases Flag.reading (env.raw flag) with
  | unset h_unset =>
    rw [Environment.flag?, Environment.given?_of_unset h_unset]
    exact .fallback h_unset
  | spelled h_raw h_spelled =>
    rw [Environment.flag?_of_spelled h_raw h_spelled]
    exact .given h_raw h_spelled
  | illegible h_raw h_visible h_unspelled =>
    rw [h_raw] at h
    exact absurd h (Flag.not_legible h_visible h_unspelled)

theorem FromFlag.eq {flag : Flag} {fallback : Bool} {value : Value}
    (h : FromFlag (env.raw flag) fallback value) :
    value = .flag ((env.flag? flag).getD fallback) := by
  cases h with
  | given h_raw h_spelled => rw [Environment.flag?_of_spelled h_raw h_spelled, Option.getD_some]
  | fallback h_unset =>
    rw [Environment.flag?, Environment.given?_of_unset h_unset]
    rfl

theorem fromName_name? (env : Environment) (fallback : String) :
    FromName env.surfaceName fallback (.text (env.name?.getD fallback)) := by
  by_cases h_unset : ∀ raw, env.surfaceName = some raw → Text.isBlankText raw = true
  · rw [Environment.name?_of_unset h_unset]
    exact .fallback h_unset
  · -- a name that is visible is trimmed, which takes its blanks away and no more
    push Not at h_unset
    obtain ⟨raw, h_raw, h_visible⟩ := h_unset
    have h_visible := Bool.eq_false_of_not_eq_true h_visible
    rw [Environment.name?_of_visible h_raw h_visible]
    exact .given h_raw h_visible (Text.padded_trim raw) (Text.bare_trim raw)

theorem FromName.eq {fallback : String} {value : Value}
    (h : FromName env.surfaceName fallback value) :
    value = .text (env.name?.getD fallback) := by
  cases h with
  | given h_raw h_visible h_padded h_bare =>
    rw [Environment.name?_of_visible h_raw h_visible, Option.getD_some,
      Text.trim_eq_iff.mpr ⟨h_padded, h_bare⟩]
  | fallback h_unset => rw [Environment.name?_of_unset h_unset, Option.getD_none]

/-- **Merging takes each option from its layers**, as long as all flag variables are legible. -/
theorem merges_merge (h : env.Legible) : Merges overrides env (merge overrides env) where
  flag flag := by
    cases flag <;> exact topmost_layered (fromFlag_flag? (h _) _)
  surfaceName := topmost_layered (fromName_name? env _)
  initialSize := topmost_layered rfl

/-- **The layers leave no choice.** -/
theorem Merges.eq (h : Merges overrides env merged) : merged = merge overrides env := by
  have h_flag (flag : Flag) := (h.flag flag).eq fun _ => FromFlag.eq
  have h_name := h.surfaceName.eq fun _ => FromName.eq
  have h_size := h.initialSize.eq fun _ => id
  obtain ⟨debug, surfaceTrace, showTransactions, surfaceName, initialSize⟩ := merged
  unfold merge
  congr 1
  · exact h_flag .debug
  · exact h_flag .surfaceTrace
  · exact h_flag .showTransactions

end Merges

/-! ### The contract -/

/-- What must hold of an initial size. -/
def sizeRequirements : List Requirement :=
  [⟨Integral, "Expected integer, received float"⟩,
   ⟨fun x => 0 < x, "initialSize must be > 0"⟩]

/-- Values that keep the contract, as the options that they make. -/
structure Overrides.Meets (merged : Overrides) (options : Options) : Prop where
  flag : ∀ flag, merged.flag flag = .flag (options.flag flag)
  surfaceName : merged.surfaceName = .text options.surfaceName
  initialSize : merged.initialSize = .number options.initialSize
  named : options.surfaceName ≠ ""
  sized : Integral options.initialSize ∧ 0 < options.initialSize

/-- All that is wrong with the value of a flag. -/
inductive FlagFaults : Value → List String → Prop
  | flag (b : Bool) : FlagFaults (.flag b) []
  | mistyped {value : Value} (given : value ≠ .absent) (other : ∀ b, value ≠ .flag b) :
    FlagFaults value ["Expected boolean, received " ++ value.kind]

/-- All that is wrong with the value of a name. -/
inductive NameFaults : Value → List String → Prop
  | named {name : String} (named : name ≠ "") : NameFaults (.text name) []
  | empty : NameFaults (.text "") ["surfaceName must be non-empty"]
  | mistyped {value : Value} (given : value ≠ .absent) (other : ∀ s, value ≠ .text s) :
    NameFaults value ["Expected string, received " ++ value.kind]

/-- All that is wrong with some values, option by option. -/
def Overrides.Faulty (merged : Overrides) (said : List String) : Prop :=
  ∃ (ofFlag : Flag → List String) (ofName ofSize : List String),
    (∀ flag, FlagFaults (merged.flag flag) (ofFlag flag)) ∧
    NameFaults merged.surfaceName ofName ∧
    Faults sizeRequirements merged.initialSize ofSize ∧
    said = reported "debug" (ofFlag .debug) ++ reported "surfaceTrace" (ofFlag .surfaceTrace) ++
      reported "showTransactions" (ofFlag .showTransactions) ++ reported "surfaceName" ofName ++
      reported "initialSize" ofSize

theorem not_le_iff {x y : Float} (hx : x.isNaN = false) (hy : y.isNaN = false) :
    (!decide (x ≤ y)) = true ↔ y < x := by
  rw [Bool.not_eq_true', decide_eq_false_iff_not]
  exact ⟨Number.lt_of_not_le hy hx, Number.not_le_of_lt⟩

theorem sizeRules_decide : List.Forall₂ Rule.Decides sizeRules sizeRequirements :=
  .cons ⟨rfl, fun _ _ => isWhole_iff⟩ <|
  .cons ⟨rfl, fun _ hx => not_le_iff hx (isNaN_of_isFinite isFinite_zero)⟩ .nil

section Check

variable {merged : Overrides} {options : Options} {value : Value}

theorem flag_ok_iff {b : Bool} : Contract.flag value = .ok b ↔ value = .flag b := by
  cases value with
  | flag b' =>
    constructor
    · rintro ⟨⟩
      rfl
    · rintro ⟨⟩
      rfl
  | _ => exact iff_of_false nofun nofun

theorem text_nameRules_empty :
    Contract.text nameRules (.text "") = .error ["surfaceName must be non-empty"] := rfl

theorem name_ok_iff {name : String} :
    Contract.text nameRules value = .ok name ↔ value = .text name ∧ name ≠ "" := by
  cases value with
  | text s =>
    -- the one rule for a name is that it is not empty
    by_cases h_empty : s = ""
    · subst h_empty
      rw [text_nameRules_empty]
      refine iff_of_false nofun ?_
      rintro ⟨⟨⟩, h_ne⟩
      exact h_ne rfl
    · rw [text_nameRules h_empty]
      constructor
      · rintro ⟨⟩
        exact ⟨rfl, h_empty⟩
      · rintro ⟨⟨⟩, -⟩
        rfl
  | _ => exact iff_of_false nofun nofun

theorem size_ok_iff {x : Float} :
    Contract.number sizeRules value = .ok x ↔ value = .number x ∧ Integral x ∧ 0 < x := by
  rw [number_eq_ok_iff sizeRules_decide]
  refine and_congr_right fun _ => ?_
  simp only [sizeRequirements, List.forall_mem_cons, List.not_mem_nil, false_imp_iff,
    implies_true, and_true]
  exact and_iff_right_of_imp fun h => isNaN_of_isFinite h.1.1

/-- **Values are accepted exactly if they keep the contract.** -/
theorem check_eq_ok_iff : check merged = .ok options ↔ merged.Meets options := by
  constructor
  · intro h
    unfold check at h
    -- it is accepted only if each of the five options is
    split at h
    · next h_debug h_trace h_transactions h_name h_size =>
      cases h
      obtain ⟨h_name, h_named⟩ := name_ok_iff.mp h_name
      obtain ⟨h_size, h_sized⟩ := size_ok_iff.mp h_size
      refine ⟨?_, h_name, h_size, h_named, h_sized⟩
      rintro (_ | _ | _)
      · exact flag_ok_iff.mp h_debug
      · exact flag_ok_iff.mp h_trace
      · exact flag_ok_iff.mp h_transactions
    · cases h
  · intro h
    -- flag by flag, as the check looks at them
    have h_debug : merged.debug = _ := h.flag .debug
    have h_trace : merged.surfaceTrace = _ := h.flag .surfaceTrace
    have h_transactions : merged.showTransactions = _ := h.flag .showTransactions
    unfold check
    rw [flag_ok_iff.mpr h_debug, flag_ok_iff.mpr h_trace, flag_ok_iff.mpr h_transactions,
      name_ok_iff.mpr ⟨h.surfaceName, h.named⟩, size_ok_iff.mpr ⟨h.initialSize, h.sized⟩]
    rfl

theorem flagFaults (h : value ≠ .absent) :
    FlagFaults value (complaintsOf (Contract.flag value)) := by
  cases value with
  | absent => exact absurd rfl h
  | flag b => exact .flag b
  | _ => exact .mistyped h nofun

theorem nameFaults (h : value ≠ .absent) :
    NameFaults value (complaintsOf (Contract.text nameRules value)) := by
  cases value with
  | absent => exact absurd rfl h
  | text s =>
    by_cases h_empty : s = ""
    · rw [h_empty, text_nameRules_empty]
      exact .empty
    · rw [text_nameRules h_empty]
      exact .named h_empty
  | _ => exact .mistyped h nofun

/-- **Values that are not accepted are told all that is wrong with them.** -/
theorem faulty_of_check {issues : List Issue} (h : check merged = .error issues)
    (h_flag : ∀ flag, merged.flag flag ≠ .absent) (h_name : merged.surfaceName ≠ .absent) :
    merged.Faulty (issues.map Issue.text) := by
  unfold check at h
  split at h
  · cases h
  · cases h
    -- what is wrong with each option is what its own check complains about
    refine ⟨fun flag => complaintsOf (Contract.flag (merged.flag flag)), _, _,
      fun flag => flagFaults (h_flag flag), nameFaults h_name,
      faults_of_number sizeRules_decide merged.initialSize, ?_⟩
    simp only [List.map_append, text_issues]
    rfl

theorem holds_of_broken_nil {x : Float} {requirements : List Requirement}
    (h : Broken x requirements []) : ∀ r ∈ requirements, r.holds x := by
  generalize h_said : ([] : List String) = said at h
  induction h with
  | nil => exact List.forall_mem_nil _
  | kept kept _ ih => exact List.forall_mem_cons.mpr ⟨kept, ih h_said⟩
  | broken => cases h_said

/-- Where nothing is wrong, the contract is kept. -/
theorem Overrides.Faulty.meets (h : merged.Faulty []) : ∃ options, merged.Meets options := by
  obtain ⟨ofFlag, ofName, ofSize, h_flag, h_name, h_size, h_said⟩ := h
  -- no list is left out of what is said, so each of them is empty
  have h_none := h_said.symm
  simp only [reported, List.append_eq_nil_iff, List.map_eq_nil_iff] at h_none
  obtain ⟨⟨⟨⟨h_debug, h_trace⟩, h_transactions⟩, rfl⟩, rfl⟩ := h_none
  have h_holds {value : Value} (h : FlagFaults value []) : ∃ b, value = .flag b := by
    cases h with
    | flag b => exact ⟨b, rfl⟩
  obtain ⟨debug, h_debug⟩ := h_holds (h_debug ▸ h_flag .debug)
  obtain ⟨surfaceTrace, h_trace⟩ := h_holds (h_trace ▸ h_flag .surfaceTrace)
  obtain ⟨showTransactions, h_transactions⟩ := h_holds (h_transactions ▸ h_flag .showTransactions)
  obtain ⟨surfaceName, h_name, h_named⟩ :
      ∃ name, merged.surfaceName = .text name ∧ name ≠ "" := by
    generalize merged.surfaceName = value at h_name
    cases h_name with
    | @named name h_named => exact ⟨name, rfl, h_named⟩
  obtain ⟨initialSize, h_size, h_sized⟩ :
      ∃ x, merged.initialSize = .number x ∧ ∀ r ∈ sizeRequirements, r.holds x := by
    generalize merged.initialSize = value at h_size
    cases h_size with
    | @number x _ _ h_broken => exact ⟨x, rfl, holds_of_broken_nil h_broken⟩
  obtain ⟨h_whole, h_rest⟩ := List.forall_mem_cons.mp h_sized
  have h_pos := List.forall_mem_singleton.mp h_rest
  refine ⟨⟨debug, surfaceTrace, showTransactions, surfaceName, initialSize⟩, ?_, h_name, h_size,
    h_named, h_whole, h_pos⟩
  rintro (_ | _ | _)
  · exact h_debug
  · exact h_trace
  · exact h_transactions

end Check

/-! ### Other ways of writing an environment -/

/-- The same environment written otherwise: the flag variables with letters in other cases, and all
variables with blanks around them. -/
structure Environment.Restyled (env env' : Environment) : Prop where
  flag : ∀ flag,
    Option.Rel (fun raw raw' => ∃ word, Text.Recased raw word ∧ Text.Padded word raw')
      (env.raw flag) (env'.raw flag)
  surfaceName : Option.Rel Text.Padded env.surfaceName env'.surfaceName

section Restyled

variable {env env' : Environment}

/-- A flag is read the same in whatever case and between whatever blanks. -/
theorem Flag.parse?_of_restyled {raw word raw' : String} (h_recased : Text.Recased raw word)
    (h_padded : Text.Padded word raw') : parse? raw' = parse? raw := by
  have h_lowered : (Text.trim raw').toLower = (Text.trim raw).toLower := by
    rw [h_padded.trim_eq, Text.toLower_trim, Text.toLower_trim, h_recased.toLower_eq]
  unfold parse?
  rw [h_lowered]

namespace Environment.Restyled

variable (h : env.Restyled env')

include h

theorem flag?_eq (flag : Flag) : env'.flag? flag = env.flag? flag := by
  have h_rel := h.flag flag
  unfold Environment.flag? given?
  generalize env.raw flag = raw?, env'.raw flag = raw?' at h_rel
  cases h_rel with
  | none => rfl
  | @some raw raw' h_raw =>
    obtain ⟨word, h_recased, h_padded⟩ := h_raw
    rw [Option.filter_some, Option.filter_some, h_padded.isBlankText_eq, h_recased.isBlankText_eq]
    -- a blank variable is not given in either writing
    cases Text.isBlankText raw with
    | true => rfl
    | false => exact Flag.parse?_of_restyled h_recased h_padded

theorem name?_eq : env'.name? = env.name? := by
  have h_rel := h.surfaceName
  unfold name?
  generalize env.surfaceName = raw?, env'.surfaceName = raw?' at h_rel
  cases h_rel with
  | none => rfl
  | @some raw raw' h_padded =>
    rw [Option.filter_some, Option.filter_some, h_padded.isBlankText_eq]
    cases Text.isBlankText raw with
    | true => rfl
    | false => exact congrArg some h_padded.trim_eq

theorem recognised_iff : env'.Recognised ↔ env.Recognised := by
  refine forall_congr' fun flag => ?_
  have h_rel := h.flag flag
  generalize env.raw flag = raw?, env'.raw flag = raw?' at h_rel
  cases h_rel with
  | none => exact Iff.rfl
  | @some raw raw' h_raw =>
    obtain ⟨word, h_recased, h_padded⟩ := h_raw
    -- neither blanks nor cases change whether it is blank or what it spells
    have h_same : (Text.isBlankText raw' = true ∨ (Flag.parse? raw').isSome = true) ↔
        (Text.isBlankText raw = true ∨ (Flag.parse? raw).isSome = true) := by
      rw [h_padded.isBlankText_eq, h_recased.isBlankText_eq,
        Flag.parse?_of_restyled h_recased h_padded]
    constructor
    · rintro h_all _ ⟨rfl⟩
      exact h_same.mp (h_all raw' rfl)
    · rintro h_all _ ⟨rfl⟩
      exact h_same.mpr (h_all raw rfl)

theorem merge_eq (overrides : Overrides) : merge overrides env' = merge overrides env := by
  unfold merge
  rw [h.flag?_eq, h.flag?_eq, h.flag?_eq, h.name?_eq]

end Environment.Restyled

end Restyled

/-! ### Resolving -/

section Resolve

variable {overrides : Overrides} {env : Environment} {options : Options}

theorem resolve_of_ok (h : env.Legible) (h_check : check (merge overrides env) = .ok options) :
    resolve overrides env = .ok options := by
  unfold resolve
  rw [Environment.legible_iff.mp h]
  dsimp only
  rw [h_check]

theorem resolve_of_error {issues : List Issue} (h : env.Legible)
    (h_check : check (merge overrides env) = .error issues) :
    resolve overrides env = .error (issues.map Issue.text) := by
  unfold resolve
  rw [Environment.legible_iff.mp h]
  dsimp only
  rw [h_check]

theorem resolve_of_illegible (h : ¬env.Legible) :
    resolve overrides env = .error env.complaints :=
  refused_of_malformed overrides (mt Environment.legible_iff_recognised.mpr h)

theorem resolve_eq_ok_iff_check :
    resolve overrides env = .ok options ↔
      env.Legible ∧ check (merge overrides env) = .ok options := by
  constructor
  · intro h
    -- no other branch has an ok answer
    by_cases h_legible : env.Legible
    · refine ⟨h_legible, ?_⟩
      cases h_check : check (merge overrides env) with
      | ok options' =>
        rw [resolve_of_ok h_legible h_check] at h
        exact congrArg Except.ok (Except.ok.inj h)
      | error issues => cases (resolve_of_error h_legible h_check).symm.trans h
    · cases (resolve_of_illegible h_legible).symm.trans h
  · rintro ⟨h_legible, h_check⟩
    exact resolve_of_ok h_legible h_check

/-- An ok answer is what the layers come to, if that keeps the contract. -/
theorem resolve_eq_ok_iff :
    resolve overrides env = .ok options ↔
      env.Legible ∧ ∃ merged, Merges overrides env merged ∧ merged.Meets options := by
  rw [resolve_eq_ok_iff_check, check_eq_ok_iff]
  refine and_congr_right fun h_legible => ⟨?_, ?_⟩
  · intro h_meets
    exact ⟨_, merges_merge h_legible, h_meets⟩
  · rintro ⟨merged, h_merges, h_meets⟩
    -- there is only one thing that the layers come to
    rwa [← h_merges.eq]

/-- The layers always give something. -/
theorem Merges.ne_absent {merged : Overrides} (h : Merges overrides env merged) :
    (∀ flag, merged.flag flag ≠ .absent) ∧ merged.surfaceName ≠ .absent := by
  have h_ne {override value : Value} {P : Value → Prop} (h : Topmost override P value)
      (h_below : ¬P .absent) : value ≠ .absent := by
    rintro rfl
    -- an override is there, and so is any default
    cases h with
    | override given => exact given rfl
    | below missing h_value => exact h_below h_value
  refine ⟨fun flag => h_ne (h.flag flag) nofun, h_ne h.surfaceName nofun⟩

theorem refused_of_resolve {said : List String} (h : resolve overrides env = .error said) :
    said ≠ [] ∧
      ((¬env.Legible ∧ env.Malformed Flag.all said) ∨
        (env.Legible ∧ ∃ merged, Merges overrides env merged ∧ merged.Faulty said)) := by
  by_cases h_legible : env.Legible
  · have h_merges : Merges overrides env (merge overrides env) := merges_merge h_legible
    -- the variables are legible, so that it is the check that failed
    cases h_check : check (merge overrides env) with
    | ok options => cases (resolve_of_ok h_legible h_check).symm.trans h
    | error issues =>
      obtain rfl := Except.error.inj ((resolve_of_error h_legible h_check).symm.trans h)
      have h_faulty := faulty_of_check h_check h_merges.ne_absent.1 h_merges.ne_absent.2
      refine ⟨?_, Or.inr ⟨h_legible, _, h_merges, h_faulty⟩⟩
      -- if nothing were wrong, the check would not have failed
      intro h_none
      rw [h_none] at h_faulty
      obtain ⟨options, h_meets⟩ := h_faulty.meets
      cases (check_eq_ok_iff.mpr h_meets).symm.trans h_check
  · obtain rfl := Except.error.inj ((resolve_of_illegible h_legible).symm.trans h)
    refine ⟨mt Environment.legible_iff.mpr h_legible, Or.inl ⟨h_legible, ?_⟩⟩
    rw [Environment.complaints_eq]
    exact env.malformed_complaints Flag.all

end Resolve

/-- How options come about, whatever is given for them. -/
structure Resolution (overrides : Overrides) (env : Environment) : Prop where
  /-- The answer is ok exactly if all flag variables are legible and what the layers come to keeps
  the contract, and then it is that. -/
  accepted : ∀ options, resolve overrides env = .ok options ↔
    env.Legible ∧ ∃ merged, Merges overrides env merged ∧ merged.Meets options
  /-- Otherwise something is wrong: with flag variables, and then nothing else is looked at, or with
  what the layers come to. All of it is listed. -/
  refused : ∀ said, resolve overrides env = .error said →
    said ≠ [] ∧
      ((¬env.Legible ∧ env.Malformed Flag.all said) ∨
        (env.Legible ∧ ∃ merged, Merges overrides env merged ∧ merged.Faulty said))
  /-- The environment has no say in the size. -/
  sized : ∀ env' options options', resolve overrides env = .ok options →
    resolve overrides env' = .ok options' → options.initialSize = options'.initialSize
  /-- The same environment written otherwise gives the same options. -/
  restyled : ∀ env', env.Restyled env' →
    ∀ options, resolve overrides env = .ok options ↔ resolve overrides env' = .ok options

/-- **Options follow their layers**, for all overrides and environments. -/
theorem resolution_of_layers (overrides : Overrides) (env : Environment) :
    Resolution overrides env where
  accepted _ := resolve_eq_ok_iff
  refused _ := refused_of_resolve
  sized env' options options' h h' := by
    -- either size was merged, and merging takes it from the override or the default
    obtain ⟨-, merged, h_merges, h_meets⟩ := resolve_eq_ok_iff.mp h
    obtain ⟨-, merged', h_merges', h_meets'⟩ := resolve_eq_ok_iff.mp h'
    have h_size : merged.initialSize = merged'.initialSize := by
      rw [h_merges.eq, h_merges'.eq]
      rfl
    rw [h_meets.initialSize, h_meets'.initialSize] at h_size
    exact Value.number.inj h_size
  restyled env' h_restyled options := by
    rw [resolve_eq_ok_iff_check, resolve_eq_ok_iff_check, h_restyled.merge_eq,
      Environment.legible_iff_recognised, Environment.legible_iff_recognised,
      h_restyled.recognised_iff]

/-- A flag is overridden, the variables give another flag and the name. -/
example :
    (resolve { debug := .flag false }
        { debug := some "on", surfaceTrace := some " YES ", surfaceName := some "  Backdrop " }
      ).toOption.map (fun o => (o.debug, o.surfaceTrace, o.showTransactions, o.surfaceName))
      = some (false, true, false, "Backdrop") := by
  decide +kernel

end Scrim.Options

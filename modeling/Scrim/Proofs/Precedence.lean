import Scrim.Proofs.Resolution

/-!
# What an override hides

An override stands before its variable: where both are given, merging takes the override
(`Options.merge_congr`). So the variable could hold anything, and of the name of the surface that is
so. But flag variables are read before anything is merged, and a malformed one is reported even if
nobody would have asked for it. What such a variable holds shows in the answer then, because the
complaint quotes it and is told apart from all others (`Flag.complaint_injective`).

`Options.hiding_of_overrides` draws the line: two environments that differ in the variable of an
overridden flag give the same answer exactly if the variable is legible in both.
-/

namespace Scrim.Options

/-! ### Environments that agree -/

section Congr

variable {env env' : Environment} {overrides : Overrides}

theorem Environment.flag?_congr {flag : Flag} (h : env.raw flag = env'.raw flag) :
    env.flag? flag = env'.flag? flag := by
  unfold flag? given?
  rw [h]

theorem Environment.complaint?_congr {flag : Flag} (h : env.raw flag = env'.raw flag) :
    env.complaint? flag = env'.complaint? flag := by
  unfold complaint? given?
  rw [h]

/-- **Merging does not look below an override.** -/
theorem merge_congr (h_flag : ∀ flag, overrides.flag flag ≠ .absent ∨ env.raw flag = env'.raw flag)
    (h_name : overrides.surfaceName ≠ .absent ∨ env.surfaceName = env'.surfaceName) :
    merge overrides env = merge overrides env' := by
  have h_layer (flag : Flag) :
      layeredFlag (overrides.flag flag) (env.flag? flag) (defaults.flag flag)
        = layeredFlag (overrides.flag flag) (env'.flag? flag) (defaults.flag flag) := by
    -- an override covers its variable; without one the variables are the same
    rcases h_flag flag with h_given | h_same
    · exact (layered_eq_self h_given _).trans (layered_eq_self h_given _).symm
    · rw [Environment.flag?_congr h_same]
  unfold merge
  dsimp only
  congr 1
  · exact h_layer .debug
  · exact h_layer .surfaceTrace
  · exact h_layer .showTransactions
  · rcases h_name with h_given | h_same
    · exact (layered_eq_self h_given _).trans (layered_eq_self h_given _).symm
    · unfold Environment.name?
      rw [h_same]

theorem resolve_congr (h_complaints : env.complaints = env'.complaints)
    (h_merge : merge overrides env = merge overrides env') :
    resolve overrides env = resolve overrides env' := by
  unfold resolve
  rw [h_complaints, h_merge]

end Congr

/-! ### Complaints and issues -/

namespace Flag

/-- A complaint begins with the name of its variable. -/
theorem take_complaint (flag : Flag) (raw : String) :
    (flag.complaint raw).toList.take 9 = flag.variableName.toList.take 9 := by
  unfold complaint
  rw [String.toList_append, String.toList_append, String.toList_append, List.append_assoc,
    List.append_assoc, List.take_append_of_le_length]
  cases flag <;> decide

/-- **A complaint tells which flag it is about, and what its variable holds.** -/
theorem complaint_injective {flag flag' : Flag} {raw raw' : String}
    (h : flag.complaint raw = flag'.complaint raw') : flag = flag' ∧ raw = raw' := by
  -- the names of the variables differ in their first nine characters
  have h_name : flag.variableName.toList.take 9 = flag'.variableName.toList.take 9 := by
    rw [← take_complaint flag raw, ← take_complaint flag' raw', h]
  have h_flag : flag = flag' := by
    revert h_name
    cases flag <;> cases flag' <;> decide
  subst h_flag
  -- and what is quoted stands between the same words
  exact ⟨rfl, String.append_right_inj _ |>.mp (String.append_left_inj _ |>.mp h)⟩

end Flag

/-- A complaint about a variable is no issue with an option, which begins with a bracket. -/
theorem complaint_ne_text (flag : Flag) (raw : String) (issue : Issue) :
    flag.complaint raw ≠ issue.text := by
  intro h
  -- the text of an issue begins with a bracket, and a complaint with a letter
  have h_text : issue.text.toList.head? = some '[' := by
    unfold Issue.text
    simp
  have h_head := congrArg List.head? (Flag.take_complaint flag raw)
  rw [List.head?_take, if_neg (by decide), h, h_text] at h_head
  revert h_head
  cases flag <;> decide

/-! ### The variable of an overridden option -/

section Hiding

variable {overrides : Overrides} {get get' : String → Option String}

theorem raw_ofLookup (get : String → Option String) (flag : Flag) :
    (Environment.ofLookup get).raw flag = get flag.variableName := by
  cases flag <;> rfl

theorem Flag.variableName_injective : Function.Injective Flag.variableName := by
  intro flag flag'
  cases flag <;> cases flag' <;> decide

theorem Flag.variableName_ne (flag : Flag) : flag.variableName ≠ surfaceNameVariable := by
  cases flag <;> decide

/-- A variable that is not legible shows in the answer. -/
theorem eq_of_illegible {env env' : Environment} {flag : Flag}
    (h_illegible : ¬Flag.Legible (env.raw flag))
    (h : resolve overrides env = resolve overrides env') : env.raw flag = env'.raw flag := by
  obtain ⟨h_legible, -⟩ | ⟨raw, h_raw, -, h_complaint⟩ := env.complaint?_cases flag
  · exact absurd h_legible h_illegible
  -- what is wrong with the variable is among the complaints
  have h_mem : flag.complaint raw ∈ env.complaints := by
    rw [Environment.complaints_eq]
    exact List.mem_filterMap.mpr ⟨flag, by cases flag <;> decide, h_complaint⟩
  rw [resolve_of_illegible fun h_all => h_illegible (h_all flag)] at h
  by_cases h_legible' : env'.Legible
  · -- a legible environment has nothing like that said of it
    cases h_check : check (merge overrides env') with
    | ok options => cases h.trans (resolve_of_ok h_legible' h_check)
    | error issues =>
      rw [resolve_of_error h_legible' h_check] at h
      rw [Except.error.inj h] at h_mem
      obtain ⟨issue, -, h_text⟩ := List.mem_map.mp h_mem
      exact absurd h_text.symm (complaint_ne_text flag raw issue)
  · -- the other one has the same complaint, and so the same in the variable
    rw [resolve_of_illegible h_legible'] at h
    rw [Except.error.inj h, Environment.complaints_eq] at h_mem
    obtain ⟨flag', -, h_some⟩ := List.mem_filterMap.mp h_mem
    obtain ⟨-, h_none⟩ | ⟨raw', h_raw', -, h_complaint'⟩ := env'.complaint?_cases flag'
    · cases h_none.symm.trans h_some
    · obtain ⟨rfl, rfl⟩ :=
        Flag.complaint_injective (Option.some.inj (h_complaint'.symm.trans h_some))
      exact h_raw.trans h_raw'.symm

/-- **A legible variable is hidden by the override of its flag.** -/
theorem resolve_eq_of_legible {env env' : Environment} {flag : Flag}
    (h_override : overrides.flag flag ≠ .absent)
    (h_flag : ∀ flag', flag' ≠ flag → env.raw flag' = env'.raw flag')
    (h_name : env.surfaceName = env'.surfaceName) (h : Flag.Legible (env.raw flag))
    (h' : Flag.Legible (env'.raw flag)) : resolve overrides env = resolve overrides env' := by
  refine resolve_congr ?_ (merge_congr (fun flag' => ?_) (Or.inr h_name))
  · -- nothing is said of either of the two, and of the others the same
    rw [Environment.complaints_eq, Environment.complaints_eq]
    refine List.filterMap_congr fun flag' _ => ?_
    by_cases h_same : flag' = flag
    · rw [h_same, Environment.complaint?_of_legible h, Environment.complaint?_of_legible h']
    · exact Environment.complaint?_congr (h_flag flag' h_same)
  · -- merging sees the override and not what is below it
    by_cases h_same : flag' = flag
    · exact Or.inl (h_same ▸ h_override)
    · exact Or.inr (h_flag flag' h_same)

end Hiding

/-- **An override hides its variable as long as that is legible.** Two environments differ in the
variable of one option only, and the option is overridden. If that is the name of the surface, the
answers are the same. If it is a flag, they are the same exactly if the variable is, or if it is
unset, blank or spells a value in either of them. -/
theorem hiding_of_overrides (overrides : Overrides) (get get' : String → Option String) :
    (∀ flag : Flag, overrides.flag flag ≠ .absent →
      (∀ name, name ≠ flag.variableName → get name = get' name) →
      (resolve overrides (.ofLookup get) = resolve overrides (.ofLookup get') ↔
        get flag.variableName = get' flag.variableName ∨
          Flag.Legible (get flag.variableName) ∧ Flag.Legible (get' flag.variableName))) ∧
    (overrides.surfaceName ≠ .absent →
      (∀ name, name ≠ surfaceNameVariable → get name = get' name) →
      resolve overrides (.ofLookup get) = resolve overrides (.ofLookup get')) := by
  refine ⟨?_, ?_⟩
  · intro flag h_override h_same
    have h_flag (flag' : Flag) (h_ne : flag' ≠ flag) :
        (Environment.ofLookup get).raw flag' = (Environment.ofLookup get').raw flag' := by
      rw [raw_ofLookup, raw_ofLookup]
      exact h_same _ (Flag.variableName_injective.ne h_ne)
    have h_name : get surfaceNameVariable = get' surfaceNameVariable :=
      h_same _ flag.variableName_ne.symm
    rw [← raw_ofLookup get flag, ← raw_ofLookup get' flag]
    constructor
    · intro h
      -- if either is not legible, the answer shows what it holds
      by_cases h_legible : Flag.Legible ((Environment.ofLookup get).raw flag)
      · by_cases h_legible' : Flag.Legible ((Environment.ofLookup get').raw flag)
        · exact Or.inr ⟨h_legible, h_legible'⟩
        · exact Or.inl (eq_of_illegible h_legible' h.symm).symm
      · exact Or.inl (eq_of_illegible h_legible h)
    · rintro (h_raw | ⟨h_legible, h_legible'⟩)
      · rw [raw_ofLookup, raw_ofLookup] at h_raw
        -- the two environments are one
        have h_get : get = get' := by
          funext name
          by_cases h_name : name = flag.variableName
          · rw [h_name, h_raw]
          · exact h_same name h_name
        rw [h_get]
      · exact resolve_eq_of_legible h_override h_flag h_name h_legible h_legible'
  · intro h_override h_same
    have h_flag (flag : Flag) :
        (Environment.ofLookup get).raw flag = (Environment.ofLookup get').raw flag := by
      rw [raw_ofLookup, raw_ofLookup]
      exact h_same _ flag.variableName_ne
    refine resolve_congr ?_ (merge_congr (fun flag => Or.inr (h_flag flag)) (Or.inl h_override))
    rw [Environment.complaints_eq, Environment.complaints_eq]
    exact List.filterMap_congr fun flag _ => Environment.complaint?_congr (h_flag flag)

/-- An environment in which no variable is set but perhaps this one. -/
def Environment.only (name : String) (value : Option String) : Environment :=
  .ofLookup fun name' => if name' = name then value else none

/-- A flag that is overridden to be off hides that its variable turns it on, but not that it holds
something malformed. An overridden name hides any other one. -/
theorem hiding_of_malformed :
    resolve { debug := .flag false } (.only "DIMMER_DEBUG" (some " TRUE "))
        = resolve { debug := .flag false } (.only "DIMMER_DEBUG" none) ∧
      resolve { debug := .flag false } (.only "DIMMER_DEBUG" (some "maybe"))
        ≠ resolve { debug := .flag false } (.only "DIMMER_DEBUG" none) ∧
      resolve { surfaceName := .text "Scrim" } (.only "DIMMER_SURFACE_NAME" (some "Veil"))
        = resolve { surfaceName := .text "Scrim" } (.only "DIMMER_SURFACE_NAME" none) := by
  have h_elsewhere {name name' : String} (h : name' ≠ name) (value value' : Option String) :
      (if name' = name then value else none) = if name' = name then value' else none := by
    rw [if_neg h, if_neg h]
  have h_debug (value : Option String) := (hiding_of_overrides { debug := .flag false }
    (fun name => if name = "DIMMER_DEBUG" then value else none)
    (fun name => if name = "DIMMER_DEBUG" then none else none)).1 .debug nofun
    fun _ h => h_elsewhere h value none
  have h_name := (hiding_of_overrides { surfaceName := .text "Scrim" }
    (fun name => if name = "DIMMER_SURFACE_NAME" then some "Veil" else none)
    (fun name => if name = "DIMMER_SURFACE_NAME" then none else none)).2 nofun
    fun _ h => h_elsewhere h _ none
  refine ⟨(h_debug _).mpr (Or.inr ?_), mt (h_debug _).mp ?_, h_name⟩
  · decide +kernel
  · decide +kernel

end Scrim.Options

import Scrim.Bench
import Scrim.Proofs.Number.Whole
import Scrim.Proofs.Request
import Scrim.Session

/-!
# Which requests are accepted, and what is said of the others

A field of a request has requirements on the number that it holds. `Broken` lists the complaints of
those that a number does not meet, in their order, and `Faults` all that is wrong with a field,
whatever value it was given: an absent value and one of the wrong kind have one fault, and what is
not a number is of the wrong kind.

The rules by which requests are checked say the same by computation (`Rule.Decides`), so a check of
a field finds its faults (`faults_of_number`). It follows that a request is accepted exactly if its
fields meet all requirements, and that a refusal lists what is wrong field by field. A refusal comes
before anything else is done, for a dimmer in whatever state and wherever it works (`Rejected`).
`requests_validated` puts this together.
-/

namespace Scrim

open Number

/-! ### Requirements -/

/-- What must hold of the number in a field, and what is said if it does not. -/
structure Requirement where
  holds : Float → Prop
  complaint : String

/-- The number is finite and an integer. -/
def Integral (x : Float) : Prop :=
  x.isFinite = true ∧ ∃ n : ℤ, toRat x = n

namespace Request

def layerRequirements : List Requirement :=
  [⟨Integral, "layer must be an integer"⟩]

def alphaRequirements : List Requirement :=
  [⟨fun x => x.isFinite = true, "targetAlpha must be finite"⟩,
   ⟨fun x => 0 ≤ x, "targetAlpha must be within [0, 1]"⟩,
   ⟨fun x => x ≤ 1, "targetAlpha must be within [0, 1]"⟩]

def durationRequirements : List Requirement :=
  [⟨fun x => x.isFinite = true, "durationMs must be finite"⟩,
   ⟨Integral, "durationMs must be an integer"⟩,
   ⟨fun x => 0 ≤ x, "durationMs must be >= 0"⟩]

end Request

/-- The complaints of the requirements that a number does not meet, in their order. -/
inductive Broken (x : Float) : List Requirement → List String → Prop
  | nil : Broken x [] []
  | kept {r : Requirement} {rest said} (kept : r.holds x) (later : Broken x rest said) :
    Broken x (r :: rest) said
  | broken {r : Requirement} {rest said} (broken : ¬r.holds x) (later : Broken x rest said) :
    Broken x (r :: rest) (r.complaint :: said)

/-- All that is wrong with the value given for a field. -/
inductive Faults (requirements : List Requirement) : Value → List String → Prop
  | absent : Faults requirements .absent ["Required"]
  | mistyped {value : Value} (given : value ≠ .absent) (other : ∀ x, value ≠ .number x) :
    Faults requirements value ["Expected number, received " ++ value.kind]
  | notANumber {x : Float} (h_nan : x.isNaN = true) :
    Faults requirements (.number x) ["Expected number, received nan"]
  | number {x : Float} {said : List String} (h_num : x.isNaN = false)
    (h_broken : Broken x requirements said) : Faults requirements (.number x) said

/-! ### Rules -/

/-- A rule tells by computation whether a requirement is met, for what is a number. -/
structure Rule.Decides (rule : Rule Float) (requirement : Requirement) : Prop where
  complaint : rule.complaint = requirement.complaint
  admits : ∀ x : Float, x.isNaN = false → (rule.admits x = true ↔ requirement.holds x)

namespace Request

theorem not_lt_iff {x y : Float} (hx : x.isNaN = false) (hy : y.isNaN = false) :
    (!decide (x < y)) = true ↔ y ≤ x := by
  rw [Bool.not_eq_true', decide_eq_false_iff_not]
  exact ⟨Number.le_of_not_lt hy hx, fun h h_lt => Number.not_le_of_lt h_lt h⟩

theorem layerRules_decide : List.Forall₂ Rule.Decides layerRules layerRequirements :=
  .cons ⟨rfl, fun _ _ => isWhole_iff⟩ .nil

theorem alphaRules_decide : List.Forall₂ Rule.Decides alphaRules alphaRequirements :=
  .cons ⟨rfl, fun _ _ => Iff.rfl⟩ <|
  .cons ⟨rfl, fun _ hx => not_lt_iff hx (isNaN_of_isFinite isFinite_zero)⟩ <|
  .cons ⟨rfl, fun _ hx => not_lt_iff (isNaN_of_isFinite isFinite_one) hx⟩ .nil

theorem durationRules_decide : List.Forall₂ Rule.Decides durationRules durationRequirements :=
  .cons ⟨rfl, fun _ _ => Iff.rfl⟩ <|
  .cons ⟨rfl, fun _ _ => isWhole_iff⟩ <|
  .cons ⟨rfl, fun _ hx => not_lt_iff hx (isNaN_of_isFinite isFinite_zero)⟩ .nil

end Request

/-- What is said of a value. -/
def complaintsOf {α : Type} : Except (List String) α → List String
  | .ok _ => []
  | .error complaints => complaints

theorem text_issues {α : Type} (field : String) (checked : Except (List String) α) :
    (Contract.issues field checked).map Issue.text
      = (complaintsOf checked).map fun complaint => "[" ++ field ++ "] " ++ complaint := by
  cases checked with
  | ok _ => rfl
  | error complaints => exact List.map_map

section

variable {rules : List (Rule Float)} {requirements : List Requirement}

theorem complaintsOf_judge {x : Float} :
    complaintsOf (Contract.judge rules x) = Rule.complaints rules x := by
  unfold Contract.judge
  split
  · next h => exact h.symm
  · rfl

/-- A field is accepted if it holds a number that breaks no rule. -/
theorem Contract.number_eq_ok_iff {value : Value} {x : Float} :
    Contract.number rules value = .ok x ↔
      value = .number x ∧ x.isNaN = false ∧ Rule.complaints rules x = [] := by
  refine ⟨fun h => ?_, ?_⟩
  · -- what is no number is refused for that, and NaN counts as none
    cases value
    case number y =>
      unfold Contract.number at h
      dsimp only at h
      split_ifs at h with h_nan
      unfold Contract.judge at h
      split at h
      · next h_none =>
        obtain rfl : y = x := Except.ok.inj h
        exact ⟨rfl, Bool.eq_false_of_not_eq_true h_nan, h_none⟩
      · cases h
    all_goals cases h
  · rintro ⟨rfl, h_num, h_none⟩
    unfold Contract.number Contract.judge
    dsimp only
    rw [if_neg (Bool.not_eq_true _ ▸ h_num), h_none]

variable (h_rules : List.Forall₂ Rule.Decides rules requirements)

include h_rules

theorem broken_complaints {x : Float} (hx : x.isNaN = false) :
    Broken x requirements (Rule.complaints rules x) := by
  induction h_rules with
  | nil => exact .nil
  | @cons rule requirement rules requirements h_rule _ ih =>
    unfold Rule.complaints
    -- a rule that admits the number says nothing, and any other its complaint
    by_cases h : rule.admits x = true
    · rw [List.filter_cons_of_neg (by simp [h])]
      exact .kept ((h_rule.admits x hx).mp h) ih
    · rw [List.filter_cons_of_pos (by simpa using h), List.map_cons, h_rule.complaint]
      exact .broken (fun h_holds => h ((h_rule.admits x hx).mpr h_holds)) ih

/-- **The check of a field finds its faults.** -/
theorem faults_of_number (value : Value) :
    Faults requirements value (complaintsOf (Contract.number rules value)) := by
  -- one case for each way in which a field can have faults
  cases value with
  | number x =>
    unfold Contract.number
    dsimp only
    split_ifs with h_nan
    · have h_said : Contract.mistyped "number" (.number x) = "Expected number, received nan" := by
        rw [Contract.mistyped, show Value.kind (.number x) = "nan" from if_pos h_nan]
        rfl
      rw [h_said]
      exact .notANumber h_nan
    · have h_num := Bool.eq_false_of_not_eq_true h_nan
      rw [complaintsOf_judge]
      exact .number h_num (broken_complaints h_rules h_num)
  | absent => exact .absent
  | _ => exact .mistyped nofun nofun

/-- **A field is accepted if it holds a number that meets all requirements.** -/
theorem number_eq_ok_iff {value : Value} {x : Float} :
    Contract.number rules value = .ok x ↔
      value = .number x ∧ x.isNaN = false ∧ ∀ r ∈ requirements, r.holds x := by
  rw [Contract.number_eq_ok_iff]
  refine and_congr_right fun _ => and_congr_right fun hx => ?_
  induction h_rules with
  | nil => exact iff_of_true rfl nofun
  | @cons rule requirement rules requirements h_rule _ ih =>
    rw [List.forall_mem_cons, ← ih, ← h_rule.admits x hx]
    unfold Rule.complaints
    by_cases h : rule.admits x = true
    · rw [List.filter_cons_of_neg (by simp [h])]
      exact (and_iff_right h).symm
    · rw [List.filter_cons_of_pos (by simpa using h)]
      exact iff_of_false nofun fun h' => h h'.1

end

/-! ### Fields -/

theorem layer_ok_iff {value : Value} {x : Float} :
    Contract.number Request.layerRules value = .ok x ↔ value = .number x ∧ Integral x := by
  rw [number_eq_ok_iff Request.layerRules_decide, Request.layerRequirements,
    List.forall_mem_singleton]
  refine and_congr_right fun _ => and_iff_right_of_imp ?_
  exact fun h => isNaN_of_isFinite h.1

theorem alpha_ok_iff {value : Value} {x : Float} :
    Contract.number Request.alphaRules value = .ok x ↔ value = .number x ∧ InUnit x := by
  rw [number_eq_ok_iff Request.alphaRules_decide]
  refine and_congr_right fun _ => ?_
  simp only [Request.alphaRequirements, List.forall_mem_cons, List.not_mem_nil, false_imp_iff,
    implies_true, and_true]
  exact ⟨fun h => ⟨h.2.2.1, h.2.2.2⟩, fun h => ⟨h.isNaN, h.isFinite, h.nonneg, h.le_one⟩⟩

theorem duration_ok_iff {value : Value} {x : Float} :
    Contract.number Request.durationRules value = .ok x ↔
      value = .number x ∧ Integral x ∧ 0 ≤ x := by
  rw [number_eq_ok_iff Request.durationRules_decide]
  refine and_congr_right fun _ => ?_
  simp only [Request.durationRequirements, List.forall_mem_cons, List.not_mem_nil, false_imp_iff,
    implies_true, and_true]
  exact ⟨fun h => h.2.2, fun h => ⟨isNaN_of_isFinite h.1.1, h.1.1, h⟩⟩

/-! ### Requests -/

/-- Arguments that meet all requirements, as the request that they make. -/
structure PresentRequest.Meets (request : PresentRequest) (layer alpha duration : Value) :
    Prop where
  layer_eq : layer = .number request.layer
  alpha_eq : alpha = .number request.alpha
  duration_eq : duration = .number request.duration
  layer : Integral request.layer
  alpha : InUnit request.alpha
  duration : Integral request.duration ∧ 0 ≤ request.duration

/-- An argument that meets all requirements, as the request that it makes. -/
structure DismissRequest.Meets (request : DismissRequest) (duration : Value) : Prop where
  duration_eq : duration = .number request.duration
  duration : Integral request.duration ∧ 0 ≤ request.duration

/-- The faults of a field, as they are reported. -/
def reported (field : String) (said : List String) : List String :=
  said.map fun complaint => "[" ++ field ++ "] " ++ complaint

/-- The failure raises an error that lists these faults. -/
def Failure.Lists (failure : Failure) (faults : List String) : Prop :=
  failure.value = .error .general ("Invalid dim request: " ++ "; ".intercalate faults)

theorem PresentRequest.check_eq_ok_iff {layer alpha duration : Value} {request : PresentRequest} :
    PresentRequest.check layer alpha duration = .ok request ↔
      request.Meets layer alpha duration := by
  refine ⟨fun h => ?_, fun h => ?_⟩
  · -- a request that is accepted has had all its fields accepted
    obtain ⟨h_alpha, h_duration⟩ := check_fields h
    obtain ⟨h_layer_eq, h_layer⟩ := layer_ok_iff.mp (check_layer h)
    obtain ⟨h_alpha_eq, h_alpha⟩ := alpha_ok_iff.mp h_alpha
    obtain ⟨h_duration_eq, h_duration⟩ := duration_ok_iff.mp h_duration
    exact ⟨h_layer_eq, h_alpha_eq, h_duration_eq, h_layer, h_alpha, h_duration⟩
  · unfold PresentRequest.check
    rw [layer_ok_iff.mpr ⟨h.layer_eq, h.layer⟩, alpha_ok_iff.mpr ⟨h.alpha_eq, h.alpha⟩,
      duration_ok_iff.mpr ⟨h.duration_eq, h.duration⟩]

theorem DismissRequest.check_eq_ok_iff {duration : Value} {request : DismissRequest} :
    DismissRequest.check duration = .ok request ↔ request.Meets duration := by
  refine ⟨fun h => ?_, fun h => ?_⟩
  · obtain ⟨h_duration_eq, h_duration⟩ := duration_ok_iff.mp (check_fields h)
    exact ⟨h_duration_eq, h_duration⟩
  · unfold DismissRequest.check
    rw [duration_ok_iff.mpr ⟨h.duration_eq, h.duration⟩]

/-- A refused present request lists what was found in its fields. -/
theorem PresentRequest.lists_of_check {layer alpha duration : Value} {failure : Failure}
    (h : PresentRequest.check layer alpha duration = .error failure) :
    failure.Lists
      (reported "layer" (complaintsOf (Contract.number Request.layerRules layer)) ++
        reported "targetAlpha" (complaintsOf (Contract.number Request.alphaRules alpha)) ++
        reported "durationMs" (complaintsOf (Contract.number Request.durationRules duration))) := by
  unfold PresentRequest.check at h
  split at h
  · cases h
  · cases h
    -- the issues are listed in the order of the fields
    unfold Failure.Lists Failure.value reported
    dsimp only
    rw [List.map_append, List.map_append, text_issues, text_issues, text_issues]

theorem DismissRequest.lists_of_check {duration : Value} {failure : Failure}
    (h : DismissRequest.check duration = .error failure) :
    failure.Lists
      (reported "durationMs" (complaintsOf (Contract.number Request.durationRules duration))) := by
  unfold DismissRequest.check at h
  split at h
  · cases h
  · cases h
    unfold Failure.Lists Failure.value reported
    dsimp only
    rw [text_issues]

/-- An infinite duration is not an integer either, and may be below zero as well. -/
example :
    complaintsOf (Contract.number Request.durationRules (.number (-1 / 0))) =
      ["durationMs must be finite", "durationMs must be an integer",
        "durationMs must be >= 0"] := by
  decide +kernel

/-! ### Refusals -/

/-- An operation that fails without having done anything: no state of a dimmer or of its surface
changes, nothing is logged, and the clock is not read. -/
structure Rejected (operation : Operation) (failure : Failure) : Prop where
  turn : ∀ (d : Dimmer) (w : Surroundings),
    d.perform w operation = ({ dimmer := d, readings := 0, events := [] }, .error failure)
  bench : ∀ b : Bench,
    b.operate operation = { after := b, outcome := .error failure, reports := [] }
  session : ∀ (s : Session) (index : ℕ), index < s.dimmers.length →
    s.operate index operation = { after := s, outcome := .error failure, reports := [] }

/-- A dimmer that does nothing leaves its bench and its session alone. -/
theorem rejected_of_turn {operation : Operation} {failure : Failure}
    (h : ∀ (d : Dimmer) (w : Surroundings),
      d.perform w operation = ({ dimmer := d }, .error failure)) : Rejected operation failure where
  turn := h
  bench b := by
    have h_reading : b.reading 0 = b.now := by
      unfold Bench.reading
      cases b.drift <;> rfl
    unfold Bench.operate
    rw [h]
    -- no reading was taken and nothing has happened, so that nothing is carried over
    unfold Bench.absorb Bench.reports
    dsimp only
    rw [h_reading]
    rfl
  session s index h_index := by
    unfold Session.operate
    rw [List.getElem?_eq_getElem h_index]
    dsimp only
    rw [h, List.set_getElem_self]
    rfl

/-- How a check goes whose arguments have these faults: it returns the arguments if there is
nothing wrong with them, and otherwise the operation that asked for it has no effect. -/
structure Verdict {α : Type} (check : Except Failure α) (meets : α → Prop) (faults : List String)
    (operation : Operation) : Prop where
  accepts : ∀ request, check = .ok request ↔ meets request
  refuses : (∀ request, ¬meets request) →
    ∃ failure, check = .error failure ∧ failure.Lists faults ∧ Rejected operation failure

theorem verdict_present (layer alpha duration : Value) :
    Verdict (PresentRequest.check layer alpha duration)
      (fun request => request.Meets layer alpha duration)
      (reported "layer" (complaintsOf (Contract.number Request.layerRules layer)) ++
        reported "targetAlpha" (complaintsOf (Contract.number Request.alphaRules alpha)) ++
        reported "durationMs" (complaintsOf (Contract.number Request.durationRules duration)))
      (.present layer alpha duration) where
  accepts _ := PresentRequest.check_eq_ok_iff
  refuses h := by
    cases h_check : PresentRequest.check layer alpha duration with
    | ok request => exact absurd (PresentRequest.check_eq_ok_iff.mp h_check) (h request)
    | error failure =>
      refine ⟨failure, rfl, PresentRequest.lists_of_check h_check, rejected_of_turn fun d w => ?_⟩
      -- the arguments are checked before anything else is done
      unfold Dimmer.perform
      dsimp only
      rw [h_check]

theorem verdict_dismiss (duration : Value) :
    Verdict (DismissRequest.check duration) (fun request => request.Meets duration)
      (reported "durationMs" (complaintsOf (Contract.number Request.durationRules duration)))
      (.dismiss duration) where
  accepts _ := DismissRequest.check_eq_ok_iff
  refuses h := by
    cases h_check : DismissRequest.check duration with
    | ok request => exact absurd (DismissRequest.check_eq_ok_iff.mp h_check) (h request)
    | error failure =>
      refine ⟨failure, rfl, DismissRequest.lists_of_check h_check, rejected_of_turn fun d w => ?_⟩
      unfold Dimmer.perform
      dsimp only
      rw [h_check]

/-- **A request is accepted exactly if its arguments meet all requirements, and a refused one lists
all that is wrong with them and has no other effect.** -/
theorem requests_validated (layer alpha duration : Value) :
    ∃ ofLayer ofAlpha ofDuration : List String,
      Faults Request.layerRequirements layer ofLayer ∧
      Faults Request.alphaRequirements alpha ofAlpha ∧
      Faults Request.durationRequirements duration ofDuration ∧
      Verdict (PresentRequest.check layer alpha duration)
        (fun request => request.Meets layer alpha duration)
        (reported "layer" ofLayer ++ reported "targetAlpha" ofAlpha ++
          reported "durationMs" ofDuration)
        (.present layer alpha duration) ∧
      Verdict (DismissRequest.check duration) (fun request => request.Meets duration)
        (reported "durationMs" ofDuration) (.dismiss duration) :=
  ⟨_, _, _, faults_of_number Request.layerRules_decide layer,
    faults_of_number Request.alphaRules_decide alpha,
    faults_of_number Request.durationRules_decide duration, verdict_present layer alpha duration,
    verdict_dismiss duration⟩

end Scrim

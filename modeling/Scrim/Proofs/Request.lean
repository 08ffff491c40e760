import Scrim.Proofs.Timeline
import Scrim.Request

/-!
# Accepted requests

A request that has passed its check asks for an alpha between zero and one and for a finite duration
that is not negative. `check_accepted` of either kind of request says so; both rest on
`Contract.number_ok`, by which an accepted field keeps all its rules.
-/

namespace Scrim

open Number Request

/-- An accepted number is one, and keeps every rule of its field. -/
theorem Contract.number_ok {rules : List (Rule Float)} {value : Value} {x : Float}
    (h : Contract.number rules value = .ok x) :
    x.isNaN = false ∧ ∀ rule ∈ rules, rule.admits x = true := by
  cases value
  case number y =>
    unfold Contract.number at h
    dsimp only at h
    split_ifs at h with h_nan
    unfold Contract.judge at h
    split at h
    · next h_none =>
      -- no rule is among those that the number breaks
      obtain rfl : y = x := Except.ok.inj h
      refine ⟨Bool.eq_false_of_not_eq_true h_nan, ?_⟩
      intro rule h_rule
      have h_filter := List.map_eq_nil_iff.mp h_none
      have h_kept := List.filter_eq_nil_iff.mp h_filter rule h_rule
      simpa using h_kept
    · cases h
  all_goals cases h

/-- A duration that has been accepted. -/
structure AcceptedDuration (duration : Float) : Prop where
  isFinite : duration.isFinite = true
  nonneg : 0 ≤ duration

theorem durationRules_accepted {value : Value} {duration : Float}
    (h : Contract.number durationRules value = .ok duration) : AcceptedDuration duration := by
  obtain ⟨h_num, h_rules⟩ := Contract.number_ok h
  have h_finite := h_rules _ (List.mem_cons_self ..)
  have h_nonneg := h_rules ⟨fun x => !decide (x < 0), "durationMs must be >= 0"⟩
    (by simp [durationRules])
  refine ⟨h_finite, Number.le_of_not_lt (isNaN_of_isFinite isFinite_zero) h_num ?_⟩
  simpa using h_nonneg

theorem durationRules_isWhole {value : Value} {duration : Float}
    (h : Contract.number durationRules value = .ok duration) : isWhole duration = true := by
  obtain ⟨-, h_rules⟩ := Contract.number_ok h
  exact h_rules ⟨isWhole, "durationMs must be an integer"⟩ (by simp [durationRules])

theorem alphaRules_inUnit {value : Value} {alpha : Float}
    (h : Contract.number alphaRules value = .ok alpha) : InUnit alpha := by
  obtain ⟨h_num, h_rules⟩ := Contract.number_ok h
  -- two of the rules are the two bounds, which an alpha is told of in the same words
  have h_nonneg := h_rules ⟨fun x => !decide (x < 0), "targetAlpha must be within [0, 1]"⟩
    (by simp [alphaRules])
  have h_le_one := h_rules ⟨fun x => !decide (1 < x), "targetAlpha must be within [0, 1]"⟩
    (by simp [alphaRules])
  refine ⟨?_, ?_⟩
  · refine Number.le_of_not_lt (isNaN_of_isFinite isFinite_zero) h_num ?_
    simpa using h_nonneg
  · refine Number.le_of_not_lt h_num (isNaN_of_isFinite isFinite_one) ?_
    simpa using h_le_one

/-- A present request that has been accepted. -/
structure PresentRequest.Accepted (request : PresentRequest) : Prop where
  alpha : InUnit request.alpha
  duration : AcceptedDuration request.duration

/-- The fields of an accepted request have been accepted one by one. -/
theorem PresentRequest.check_fields {layer alpha duration : Value} {request : PresentRequest}
    (h : PresentRequest.check layer alpha duration = .ok request) :
    Contract.number alphaRules alpha = .ok request.alpha ∧
      Contract.number durationRules duration = .ok request.duration := by
  unfold PresentRequest.check at h
  split at h
  · next h_alpha h_duration =>
    obtain rfl := Except.ok.inj h
    exact ⟨h_alpha, h_duration⟩
  · cases h

theorem PresentRequest.check_layer {layer alpha duration : Value} {request : PresentRequest}
    (h : PresentRequest.check layer alpha duration = .ok request) :
    Contract.number layerRules layer = .ok request.layer := by
  unfold PresentRequest.check at h
  split at h
  · next h_layer _ _ =>
    obtain rfl := Except.ok.inj h
    exact h_layer
  · cases h

theorem PresentRequest.check_accepted {layer alpha duration : Value} {request : PresentRequest}
    (h : PresentRequest.check layer alpha duration = .ok request) : request.Accepted := by
  obtain ⟨h_alpha, h_duration⟩ := check_fields h
  exact ⟨alphaRules_inUnit h_alpha, durationRules_accepted h_duration⟩

theorem DismissRequest.check_fields {duration : Value} {request : DismissRequest}
    (h : DismissRequest.check duration = .ok request) :
    Contract.number durationRules duration = .ok request.duration := by
  unfold DismissRequest.check at h
  split at h
  · next h_duration =>
    obtain rfl := Except.ok.inj h
    exact h_duration
  · cases h

theorem DismissRequest.check_accepted {duration : Value} {request : DismissRequest}
    (h : DismissRequest.check duration = .ok request) : AcceptedDuration request.duration :=
  durationRules_accepted (check_fields h)

end Scrim

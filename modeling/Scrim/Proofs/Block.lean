import Mathlib.Tactic.Basic
import Scrim.Block

/-!
# What a guarded block leaves behind

The events of a block are log lines and calls of the primitives that it issues
(`Block.mem_events_run`), and it fails only with the refusal of one of these
(`Block.failure_cases`).

Its calls are those of its primitives, up to the first that is refused (`Block.issued_run`), and the
lines that it logs by itself are remarks and announcements; only the report of a failure is a
warning (`Block.warnings_reported`).
-/

namespace Scrim

namespace Block

/-- The events of a block are log lines and calls of the primitives that it issues. -/
theorem mem_events_run {refusal : Primitive → Option Failure} {handle : Handle}
    {acts : List Act} {e : Event} (he : e ∈ (run refusal handle acts).events) :
    (∃ line, e = .log line) ∨
      ∃ primitive, Act.issue primitive ∈ acts ∧
        e = .call handle.id primitive (refusal primitive) := by
  -- a tracer speaks first, and then comes the call
  have h_issue {primitive : Primitive} {failure : Option Failure}
      (h_e : e ∈ handle.issue primitive failure) :
      (∃ line, e = .log line) ∨ e = .call handle.id primitive failure := by
    rcases List.mem_append.mp h_e with h_said | h_call
    · obtain ⟨message, -, rfl⟩ := List.mem_map.mp h_said
      exact Or.inl ⟨_, rfl⟩
    · exact Or.inr (List.mem_singleton.mp h_call)
  -- by induction on the block, of which a refusal leaves the rest undone
  induction acts with
  | nil => cases he
  | cons act rest ih =>
    have h_rest (h : e ∈ (run refusal handle rest).events) :
        (∃ line, e = .log line) ∨ ∃ primitive, Act.issue primitive ∈ act :: rest ∧
          e = .call handle.id primitive (refusal primitive) :=
      (ih h).imp_right fun ⟨primitive, h_mem, h_eq⟩ =>
        ⟨primitive, List.mem_cons_of_mem _ h_mem, h_eq⟩
    cases act with
    | note message =>
      rcases List.mem_cons.mp he with rfl | he
      · exact Or.inl ⟨_, rfl⟩
      · exact h_rest he
    | issue primitive =>
      cases h_refusal : refusal primitive with
      | none =>
        -- the event is of this primitive, or of what the block goes on with
        rw [run_issue_of_accepted h_refusal] at he
        rcases List.mem_append.mp he with he | he
        · refine (h_issue he).imp_right fun h_eq => ⟨primitive, List.mem_cons_self, ?_⟩
          rw [h_refusal]
          exact h_eq
        · exact h_rest he
      | some failure =>
        -- the refusal ends the block, so there is no other primitive that it could be of
        rw [run_issue_of_refused h_refusal] at he
        refine (h_issue he).imp_right fun h_eq => ⟨primitive, List.mem_cons_self, ?_⟩
        rw [h_refusal]
        exact h_eq
    | raise value => cases he

/-- A block that raises nothing either has all its primitives accepted, or fails with the refusal of
one of them. -/
theorem failure_cases (refusal : Primitive → Option Failure) (handle : Handle)
    {acts : List Act} (h_acts : ∀ value, Act.raise value ∉ acts) :
    ((run refusal handle acts).failure = none ∧
        ∀ primitive, Act.issue primitive ∈ acts → refusal primitive = none) ∨
      ∃ primitive failure, (run refusal handle acts).failure = some failure ∧
        Act.issue primitive ∈ acts ∧
        Event.call handle.id primitive (some failure) ∈ (run refusal handle acts).events := by
  induction acts with
  | nil => exact Or.inl ⟨rfl, fun _ h => by cases h⟩
  | cons act rest ih =>
    have h_later := ih fun value h => h_acts value (List.mem_cons_of_mem _ h)
    cases act with
    | note message =>
      rcases h_later with ⟨h_none, h_accepted⟩ | ⟨primitive, failure, h_some, h_mem, h_call⟩
      · refine Or.inl ⟨h_none, fun primitive h => h_accepted primitive ?_⟩
        exact (List.mem_cons.mp h).resolve_left fun h_eq => by cases h_eq
      · exact Or.inr ⟨primitive, failure, h_some, List.mem_cons_of_mem _ h_mem,
          List.mem_cons_of_mem _ h_call⟩
    | issue primitive =>
      cases h_refusal : refusal primitive with
      | none =>
        -- the block comes to what the rest of it comes to
        rw [run_issue_of_accepted h_refusal]
        rcases h_later with ⟨h_none, h_accepted⟩ | ⟨primitive', failure, h_some, h_mem, h_call⟩
        · refine Or.inl ⟨h_none, ?_⟩
          intro primitive' h
          rcases List.mem_cons.mp h with h_eq | h_rest
          · cases h_eq
            exact h_refusal
          · exact h_accepted primitive' h_rest
        · exact Or.inr ⟨primitive', failure, h_some, List.mem_cons_of_mem _ h_mem,
            List.mem_append_right _ h_call⟩
      | some failure =>
        -- the block ends here
        rw [run_issue_of_refused h_refusal]
        exact Or.inr ⟨primitive, failure, rfl, List.mem_cons_self,
          List.mem_append_right _ (List.mem_singleton_self _)⟩
    | raise value => exact absurd List.mem_cons_self (h_acts value)

/-- What is reported of a block is what it did, and perhaps a line about its failure. -/
theorem mem_reported {context : String} {outcome : Outcome} {e : Event}
    (he : e ∈ outcome.reported context) : e ∈ outcome.events ∨ ∃ line, e = .log line := by
  unfold Outcome.reported at he
  split at he
  · exact Or.inl he
  · exact (List.mem_append.mp he).imp_right fun h => ⟨_, List.mem_singleton.mp h⟩

end Block

/-! ### Calls -/

/-- The call that an event is: a primitive, and why it was refused, if it was. -/
def Event.call? : Event → Option (Primitive × Option Failure)
  | .call _ primitive refusal => some (primitive, refusal)
  | _ => none

/-- The calls among events, in order. -/
def issued (events : List Event) : List (Primitive × Option Failure) :=
  events.filterMap Event.call?

@[simp] theorem issued_append (events later : List Event) :
    issued (events ++ later) = issued events ++ issued later :=
  List.filterMap_append

theorem issued_eq_nil {events : List Event} (h : ∀ e ∈ events, e.call? = none) :
    issued events = [] :=
  List.filterMap_eq_nil_iff.mpr h

/-- The primitive that a call issues. -/
def Event.primitive? : Event → Option Primitive
  | .call _ primitive _ => some primitive
  | _ => none

theorem filterMap_primitive? (events : List Event) :
    events.filterMap Event.primitive? = (issued events).map Prod.fst := by
  rw [issued, List.map_filterMap]
  congr 1
  funext e
  cases e <;> rfl

/-- Tracers announce a primitive in the log, and the handle issues it once. What is picked from the
calls among events is what that one has. -/
theorem Handle.filterMap_issue {α : Type} {pick : Event → Option α}
    (h : ∀ message, pick (.say .info message) = none) (handle : Handle) (primitive : Primitive)
    (refusal : Option Failure) :
    (handle.issue primitive refusal).filterMap pick
      = (pick (.call handle.id primitive refusal)).toList := by
  -- nothing is picked from what the tracer says
  have h_said : ((handle.announcements primitive).map (Event.say .info)).filterMap pick = [] := by
    rw [List.filterMap_map]
    exact List.filterMap_eq_nil_iff.mpr fun message _ => h message
  rw [issue, List.filterMap_append, h_said, List.nil_append]
  cases h_call : pick (.call handle.id primitive refusal) with
  | none => exact List.filterMap_cons_none h_call
  | some picked => exact List.filterMap_cons_some h_call

@[simp] theorem Handle.issued_issue (handle : Handle) (primitive : Primitive)
    (refusal : Option Failure) :
    issued (handle.issue primitive refusal) = [(primitive, refusal)] :=
  filterMap_issue (fun _ => rfl) handle primitive refusal

/-- What comes of primitives that are to be issued one after another: those after the first that is
refused are not. -/
def attempted (refusal : Primitive → Option Failure) :
    List Primitive → List (Primitive × Option Failure)
  | [] => []
  | primitive :: rest =>
    match refusal primitive with
    | some failure => [(primitive, some failure)]
    | none => (primitive, none) :: attempted refusal rest

section Attempted

variable {refusal : Primitive → Option Failure} {primitive : Primitive} {failure : Failure}

theorem attempted_of_refused (h : refusal primitive = some failure) (rest : List Primitive) :
    attempted refusal (primitive :: rest) = [(primitive, some failure)] := by
  simp only [attempted, h]

theorem attempted_of_accepted (h : refusal primitive = none) (rest : List Primitive) :
    attempted refusal (primitive :: rest) = (primitive, none) :: attempted refusal rest := by
  simp only [attempted, h]

/-- Either all primitives are accepted, or they are issued up to the first that is refused. -/
theorem attempted_cases (refusal : Primitive → Option Failure) (primitives : List Primitive) :
    ((∀ p ∈ primitives, refusal p = none) ∧ primitives.findSome? refusal = none ∧
        attempted refusal primitives = primitives.map (·, none)) ∨
      ∃ before primitive after failure, primitives = before ++ primitive :: after ∧
        (∀ p ∈ before, refusal p = none) ∧ refusal primitive = some failure ∧
        primitives.findSome? refusal = some failure ∧
        attempted refusal primitives = before.map (·, none) ++ [(primitive, some failure)] := by
  induction primitives with
  | nil => exact Or.inl ⟨List.forall_mem_nil _, rfl, rfl⟩
  | cons p rest ih =>
    cases h_refusal : refusal p with
    | some failure =>
      -- this one is the first that is refused
      refine Or.inr ⟨[], p, rest, failure, rfl, List.forall_mem_nil _, h_refusal, ?_, ?_⟩
      · rw [List.findSome?_cons, h_refusal]
      · exact attempted_of_refused h_refusal rest
    | none =>
      have h_first : (p :: rest).findSome? refusal = rest.findSome? refusal := by
        rw [List.findSome?_cons, h_refusal]
      -- this one is accepted, and the matter is settled by those after it
      rw [h_first, attempted_of_accepted h_refusal]
      rcases ih with ⟨h_accepted, h_none, h_all⟩ |
        ⟨before, primitive, after, failure, rfl, h_before, h_refused, h_some, h_issued⟩
      · rw [h_all]
        exact Or.inl ⟨List.forall_mem_cons.mpr ⟨h_refusal, h_accepted⟩, h_none, rfl⟩
      · rw [h_issued]
        exact Or.inr ⟨p :: before, primitive, after, failure, rfl,
          List.forall_mem_cons.mpr ⟨h_refusal, h_before⟩, h_refused, h_some, rfl⟩

theorem attempted_of_all_accepted {primitives : List Primitive}
    (h : ∀ p ∈ primitives, refusal p = none) :
    attempted refusal primitives = primitives.map (·, none) := by
  rcases attempted_cases refusal primitives with ⟨-, -, h_all⟩ |
    ⟨before, primitive, after, failure, rfl, -, h_refused, -, -⟩
  · exact h_all
  · -- one that is refused would be among those that are accepted
    have h_accepted := h primitive (List.mem_append_right _ List.mem_cons_self)
    cases h_accepted.symm.trans h_refused

/-- Only primitives that are to be issued are. -/
theorem mem_of_mem_attempted {primitives : List Primitive} {call : Primitive × Option Failure}
    (h : call ∈ attempted refusal primitives) : call.1 ∈ primitives := by
  rcases attempted_cases refusal primitives with ⟨-, -, h_all⟩ |
    ⟨before, primitive, after, failure, rfl, -, -, -, h_cut⟩
  · rw [h_all] at h
    obtain ⟨primitive, h_mem, rfl⟩ := List.mem_map.mp h
    exact h_mem
  · rw [h_cut] at h
    rcases List.mem_append.mp h with h | h
    · obtain ⟨primitive, h_mem, rfl⟩ := List.mem_map.mp h
      exact List.mem_append_left _ h_mem
    · rw [List.mem_singleton.mp h]
      exact List.mem_append_right _ List.mem_cons_self

end Attempted

/-- The primitive that an act issues. -/
def Block.Act.primitive? : Block.Act → Option Primitive
  | .issue primitive => some primitive
  | _ => none

/-- **The calls of a block are those of its primitives, up to the first that is refused**, whose
refusal the block fails with. -/
theorem Block.issued_run (refusal : Primitive → Option Failure) (handle : Handle)
    {acts : List Act} (h_acts : ∀ value, Act.raise value ∉ acts) :
    issued (run refusal handle acts).events
        = attempted refusal (acts.filterMap Act.primitive?) ∧
      (run refusal handle acts).failure
        = (acts.filterMap Act.primitive?).findSome? refusal := by
  induction acts with
  | nil => exact ⟨rfl, rfl⟩
  | cons act rest ih =>
    obtain ⟨h_issued, h_failure⟩ := ih fun value h => h_acts value (List.mem_cons_of_mem _ h)
    cases act with
    | note message => exact ⟨h_issued, h_failure⟩
    | issue primitive =>
      -- only the acts that issue a primitive count
      change _ = attempted refusal (primitive :: rest.filterMap Act.primitive?) ∧
        _ = (primitive :: rest.filterMap Act.primitive?).findSome? refusal
      cases h_refusal : refusal primitive with
      | some failure =>
        rw [run_issue_of_refused h_refusal, attempted_of_refused h_refusal,
          List.findSome?_cons, h_refusal]
        exact ⟨handle.issued_issue .., rfl⟩
      | none =>
        rw [run_issue_of_accepted h_refusal, attempted_of_accepted h_refusal,
          List.findSome?_cons, h_refusal, Outcome.after, issued_append, handle.issued_issue,
          h_issued]
        exact ⟨rfl, h_failure⟩
    | raise value => exact absurd List.mem_cons_self (h_acts value)

/-- The report of a failure is no call. -/
theorem Block.issued_reported (context : String) (outcome : Outcome) :
    issued (outcome.reported context) = issued outcome.events := by
  unfold Outcome.reported
  split
  · rfl
  · rw [issued_append]
    exact List.append_nil _

/-! ### Lines -/

/-- Whether an event is a logged warning. -/
def Event.isWarning : Event → Bool
  | .log line => line.level == .warn
  | _ => false

/-- What a block logs by itself are remarks and announcements. -/
theorem Block.said_of_mem_run {refusal : Primitive → Option Failure} {handle : Handle}
    {acts : List Act} {line : LogLine} (h : .log line ∈ (run refusal handle acts).events) :
    ∃ message, line = ⟨.debug, message, none⟩ ∨ line = ⟨.info, message, none⟩ := by
  -- an announcement is a remark without a cause
  have h_issue {primitive : Primitive} {answer : Option Failure}
      (h : .log line ∈ handle.issue primitive answer) :
      ∃ message, line = ⟨.debug, message, none⟩ ∨ line = ⟨.info, message, none⟩ := by
    rcases List.mem_append.mp h with h_said | h_call
    · obtain ⟨message, -, h_eq⟩ := List.mem_map.mp h_said
      cases h_eq
      exact ⟨message, Or.inr rfl⟩
    · cases List.mem_singleton.mp h_call
  induction acts with
  | nil => cases h
  | cons act rest ih =>
    cases act with
    | note message =>
      rcases List.mem_cons.mp h with h_eq | h_rest
      · cases h_eq
        exact ⟨message, Or.inl rfl⟩
      · exact ih h_rest
    | issue primitive =>
      cases h_refusal : refusal primitive with
      | none =>
        rw [run_issue_of_accepted h_refusal] at h
        exact (List.mem_append.mp h).elim h_issue ih
      | some failure =>
        rw [run_issue_of_refused h_refusal] at h
        exact h_issue h
    | raise value => cases h

/-- A block that fails is warned of once, with its failure as the cause, and no other is. -/
theorem Block.warnings_reported (refusal : Primitive → Option Failure) (handle : Handle)
    (acts : List Act) (context : String) :
    ((run refusal handle acts).reported context).filter Event.isWarning
      = (run refusal handle acts).failure.toList.map fun failure =>
          .log ⟨.warn, "Failure " ++ context, some failure⟩ := by
  -- before the report nothing is warned of
  have h_quiet : (run refusal handle acts).events.filter Event.isWarning = [] := by
    rw [List.filter_eq_nil_iff]
    intro e he
    cases e with
    | log line =>
      obtain ⟨message, rfl | rfl⟩ := said_of_mem_run he <;> exact Bool.false_ne_true
    | call | requested | opened | closed => exact Bool.false_ne_true
  unfold Outcome.reported
  cases (run refusal handle acts).failure with
  | none => exact h_quiet
  | some failure =>
    rw [List.filter_append, h_quiet]
    rfl

end Scrim

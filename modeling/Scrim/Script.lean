import Scrim.Block

/-!
# Scripts and transaction scopes

A `Stage` is something on which actions can be carried out and transactions opened and closed. A
`Script` is a sequence of actions and scopes on a stage. A scope opens a transaction, runs its body
and closes the transaction however the body ended:

* an action that fails ends the body it stands in, unless it is marked as caught;
* a body that comes to its end ends the way the scope says, by returning a value or raising one;
* a close that fails replaces whatever the body came to.

Playing a script keeps an `Entry` for each step, with the stage as it was afterwards.
-/

namespace Scrim

/-- Something that an onlooker of a stage gets to see. -/
inductive Report
  /-- A line handed to whoever captures the log. -/
  | log (line : LogLine)
  /-- A call of the console. -/
  | console (call : ConsoleCall)
  /-- A primitive that reached a recorded surface. -/
  | call (primitive : Primitive)
  /-- A surface that was asked for. -/
  | requested (request : SurfaceRequest)
  /-- A transaction was opened. -/
  | opened
  /-- A transaction was closed. -/
  | closed
  /-- A status line. -/
  | line (text : String)

/-- What becomes visible of a log line. -/
def Logger.reports : Logger → LogLine → List Report
  | .captured, line => [.log line]
  | .console tag debug, line => (Logger.consoleCalls tag debug line).map Report.console

/-- What a stage answers to an action. -/
structure Reply (σ β : Type) where
  after : σ
  outcome : Except Failure β
  reports : List Report := []

/-- A reply with its answer rewritten. -/
def Reply.map {σ α β : Type} (f : α → β) (reply : Reply σ α) : Reply σ β :=
  { after := reply.after, outcome := reply.outcome.map f, reports := reply.reports }

/-- A place where actions `α` are carried out, with answers `β`, inside or outside transactions. -/
class Stage (σ : Type) (α β : outParam Type) where
  /-- Carries out an action. -/
  act : α → σ → Reply σ β
  /-- Opens a transaction. -/
  enter : σ → σ × List Report
  /-- Closes a transaction, which may fail. -/
  leave : σ → Reply σ Unit
  /-- A value returned by the body of a scope, as an answer. -/
  returned : Value → β

/-- A step of a script. -/
inductive Script (α : Type)
  | action (act : α) (caught : Bool)
  | scope (body : List (Script α)) (ending : Except Value Value) (caught : Bool)

/-- What a step came to. The reports of a scope's reply are those of its closing. -/
inductive Entry (σ β : Type)
  | action (reply : Reply σ β)
  | scope (opening : List Report) (inner : List (Entry σ β)) (reply : Reply σ β)

namespace Entry

variable {σ β : Type}

/-- The reply of the step itself. -/
def reply : Entry σ β → Reply σ β
  | .action reply => reply
  | .scope _ _ reply => reply

/-- The stage after the step. -/
def after (entry : Entry σ β) : σ :=
  entry.reply.after

/-- Why the step failed, if it did. -/
def failure? (entry : Entry σ β) : Option Failure :=
  match entry.reply.outcome with
  | .ok _ => none
  | .error failure => some failure

/-- The reports of the step itself, without those of inner steps. -/
def ownReports : Entry σ β → List Report
  | .action reply => reply.reports
  | .scope opening _ reply => opening ++ reply.reports

mutual

/-- All reports of a step, in the order in which they were made. -/
def reports : Entry σ β → List Report
  | .action reply => reply.reports
  | .scope opening inner reply => opening ++ reportsOf inner ++ reply.reports

/-- All reports of several steps. -/
def reportsOf : List (Entry σ β) → List Report
  | [] => []
  | entry :: rest => entry.reports ++ reportsOf rest

end

end Entry

/-- How a body ended: the entries of the steps that ran, the stage after them, and the failure that
cut the body short, if one did. -/
structure BodyEnd (σ β : Type) where
  entries : List (Entry σ β)
  after : σ
  failure : Option Failure

namespace Script

variable {σ α β : Type}

/-- Whether a failure of the step stays inside it. -/
def caught : Script α → Bool
  | .action _ caught => caught
  | .scope _ _ caught => caught

/-- What a scope comes to: the failure of its closing before that of its body, and that before the
ending that was laid down for it. -/
def conclude (returned : Value → β) (closing : Except Failure Unit) (body : Option Failure)
    (ending : Except Value Value) : Except Failure β :=
  match closing, body, ending with
  | .error failure, _, _ => .error failure
  | .ok _, some failure, _ => .error failure
  | .ok _, none, .error value => .error (.raised value)
  | .ok _, none, .ok value => .ok (returned value)

variable [Stage σ α β]

mutual

/-- Carries out one step. -/
def run : Script α → σ → Entry σ β
  | .action act _, s => .action (Stage.act act s)
  | .scope body ending _, s =>
    let (inside, opening) := Stage.enter s
    let ended := runBody body inside
    let closing := Stage.leave ended.after
    .scope opening ended.entries
      { after := closing.after
        outcome := conclude (Stage.returned σ) closing.outcome ended.failure ending
        reports := closing.reports }

/-- Carries out the body of a scope. -/
def runBody : List (Script α) → σ → BodyEnd σ β
  | [], s => ⟨[], s, none⟩
  | step :: rest, s =>
    let entry := step.run s
    match entry.failure?, step.caught with
    | some failure, false => ⟨[entry], entry.after, some failure⟩
    | _, _ =>
      let ended := runBody rest entry.after
      { ended with entries := entry :: ended.entries }

end

/-- Carries out steps one after another, going on after a failure. -/
def play : List (Script α) → σ → List (Entry σ β)
  | [], _ => []
  | step :: rest, s =>
    let entry := step.run s
    entry :: play rest entry.after

end Script

namespace Script

variable {σ α β : Type} [Stage σ α β]

@[simp] theorem runBody_nil (s : σ) : runBody ([] : List (Script α)) s = ⟨[], s, none⟩ := by
  rw [runBody]

/-- A failure that is not caught ends the body. -/
theorem runBody_cons_of_failed {step : Script α} {s : σ} {failure : Failure}
    (failed : (step.run s).failure? = some failure) (uncaught : step.caught = false)
    (rest : List (Script α)) :
    runBody (step :: rest) s = ⟨[step.run s], (step.run s).after, some failure⟩ := by
  rw [runBody]
  simp only [failed, uncaught]

/-- A step that succeeds leaves the body to go on. -/
theorem runBody_cons_of_succeeded {step : Script α} {s : σ}
    (succeeded : (step.run s).failure? = none) (rest : List (Script α)) :
    runBody (step :: rest) s
      = { runBody rest (step.run s).after with
          entries := step.run s :: (runBody rest (step.run s).after).entries } := by
  rw [runBody]
  simp only [succeeded]

/-- A caught failure leaves the body to go on. -/
theorem runBody_cons_of_caught {step : Script α} {s : σ} (caught : step.caught = true)
    (rest : List (Script α)) :
    runBody (step :: rest) s
      = { runBody rest (step.run s).after with
          entries := step.run s :: (runBody rest (step.run s).after).entries } := by
  rw [runBody]
  cases (step.run s).failure? <;> simp only [caught]

end Script

/-- Repeats a step at most so many times, and no longer than it asks for more; gives what the steps
yielded, the last one included. -/
def repeatWhile {σ γ : Type} (step : σ → σ × Bool × γ) : Nat → σ → σ × List γ
  | 0, s => (s, [])
  | times + 1, s =>
    match step s with
    | (s, true, yield) =>
      let (s, yields) := repeatWhile step times s
      (s, yield :: yields)
    | (s, false, yield) => (s, [yield])

end Scrim

import Scrim.Dimmer.Operations
import Scrim.Proofs.Number.Laws

/-!
# Runs of a dimmer

A run is a list of `Step`s, each an operation together with what it learns from outside meanwhile:
the display, the clock and the refusals of the surface may be different every time. Nothing is
assumed of the readings that a run does not take. `Dimmer.clock` collects those that it does, in
order, and a run with a proper clock is one whose readings are `Chronological`.

`Dimmer.run_induction` is the one induction over runs: what holds of a dimmer and the readings taken
so far, and is kept by each step, holds after every run.
-/

namespace Scrim

open Number

/-! ### Steps -/

/-- An operation, and what it can learn from outside. -/
structure Step where
  operation : Operation
  surroundings : Surroundings

/-- The readings that a turn has taken. -/
def Turn.taken (t : Turn) (w : Surroundings) : List Float :=
  (List.range t.readings).map w.reading

/-- The surface refuses nothing. -/
def Surroundings.Accepting (w : Surroundings) : Prop :=
  ∀ primitive, w.refusal primitive = none

/-- Whatever the surface refuses something with can be told. -/
def Surroundings.Describable (w : Surroundings) : Prop :=
  ∀ primitive failure, w.refusal primitive = some failure → failure.untold = none

theorem Surroundings.Accepting.describable {w : Surroundings} (hw : w.Accepting) :
    w.Describable := by
  intro primitive failure h_refused
  cases (hw primitive).symm.trans h_refused

/-- A large display, a clock that stands at a value, and a surface that accepts everything. -/
def Surroundings.calm (now : Float) : Surroundings where
  display := some ⟨1920, 1080⟩
  reading _ := now
  refusal _ := none

theorem Surroundings.accepting_calm (now : Float) : (calm now).Accepting := fun _ => rfl

theorem Surroundings.describable_calm (now : Float) : (calm now).Describable :=
  (accepting_calm now).describable

namespace Dimmer

/-- A dimmer as it is created. -/
def new (options : Options) (display : Float) (admission : SurfaceRequest → Except Failure Handle)
    (refusal : Primitive → Option Failure) : Dimmer :=
  (create options display admission refusal).dimmer

/-- A new dimmer is at rest, with or without a surface. -/
theorem new_eq (options : Options) (display : Float)
    (admission : SurfaceRequest → Except Failure Handle) (refusal : Primitive → Option Failure) :
    ∃ handle, new options display admission refusal = { display, handle } := by
  unfold new create
  dsimp only
  split
  · unfold adopt
    dsimp only
    -- tracing, the line about the creation and a refused layer stack leave the handle where it is
    split <;> split <;> split <;> exact ⟨_, rfl⟩
  · exact ⟨none, rfl⟩

/-- A new dimmer of display zero that was given the surface it asked for. -/
def fresh : Dimmer :=
  new {} 0 (fun request => .ok { id := 0, name := request.name }) fun _ => none

theorem fresh_eq :
    fresh = new {} 0 (fun request => .ok { id := 0, name := request.name }) fun _ => none := rfl

/-- The turn that a step is. -/
def turn (d : Dimmer) (s : Step) : Turn :=
  (d.perform s.surroundings s.operation).1

/-- What the caller is told of a step. -/
def answer (d : Dimmer) (s : Step) : Except Failure (Option Bool) :=
  (d.perform s.surroundings s.operation).2

/-- The dimmer after a run. -/
def after (d : Dimmer) : List Step → Dimmer
  | [] => d
  | s :: rest => (d.turn s).dimmer.after rest

/-- The readings that a run takes. -/
def clock (d : Dimmer) : List Step → List Float
  | [] => []
  | s :: rest => (d.turn s).taken s.surroundings ++ (d.turn s).dimmer.clock rest

end Dimmer

theorem Turn.taken_tookReading (t : Turn) (w : Surroundings) :
    t.tookReading.taken w = t.taken w ++ [t.now w] := by
  unfold Turn.taken
  -- the last of the readings is the one that the clock would have given next
  rw [readings_tookReading, List.range_succ, List.map_append]
  rfl

theorem Turn.taken_of_readings_eq {t t' : Turn} (h : t'.readings = t.readings)
    (w : Surroundings) : t'.taken w = t.taken w := by
  rw [taken, taken, h]

/-! ### Clocks -/

/-- Readings of a clock that is finite and never goes back. -/
structure Chronological (readings : List Float) : Prop where
  finite : ∀ r ∈ readings, r.isFinite = true
  ordered : readings.Pairwise (· ≤ ·)

namespace Chronological

variable {earlier later : List Float} {now : Float}

/-- What was read up to some time was read by a proper clock if all was. -/
theorem left (h : Chronological (earlier ++ later)) : Chronological earlier where
  finite r hr := h.finite r (List.mem_append_left _ hr)
  ordered := (List.pairwise_append.mp h.ordered).1

theorem le_now (h : Chronological (earlier ++ [now])) {r : Float} (hr : r ∈ earlier) : r ≤ now :=
  (List.pairwise_append.mp h.ordered).2.2 r hr now (List.mem_singleton_self now)

theorem isFinite_now (h : Chronological (earlier ++ [now])) : now.isFinite = true :=
  h.finite now (List.mem_append_right _ (List.mem_singleton_self now))

end Chronological

/-! ### Induction over runs -/

/-- The readings of a run, behind earlier ones, from its first step on. -/
theorem Dimmer.append_clock_cons (past : List Float) (d : Dimmer) (s : Step) (rest : List Step) :
    past ++ d.clock (s :: rest)
      = (past ++ (d.turn s).taken s.surroundings) ++ (d.turn s).dimmer.clock rest :=
  (List.append_assoc ..).symm

/-- **What each step keeps, every run keeps.** The property may speak of the readings taken so far,
and the steps may be restricted to those of a kind. -/
theorem Dimmer.run_induction {P : Dimmer → List Float → Prop} {kind : Step → Prop}
    (h_step : ∀ (d : Dimmer) (past : List Float) (s : Step), kind s → P d past →
      Chronological (past ++ (d.turn s).taken s.surroundings) →
      P (d.turn s).dimmer (past ++ (d.turn s).taken s.surroundings))
    {d : Dimmer} {past : List Float} {steps : List Step} (h : P d past)
    (h_kind : ∀ s ∈ steps, kind s) (h_clock : Chronological (past ++ d.clock steps)) :
    P (d.after steps) (past ++ d.clock steps) := by
  -- on the steps; the dimmer and the readings behind it move along
  induction steps generalizing d past with
  | nil =>
    rw [clock, List.append_nil]
    exact h
  | cons s rest ih =>
    rw [append_clock_cons] at h_clock ⊢
    have h_next := h_step d past s (h_kind s List.mem_cons_self) h h_clock.left
    exact ih h_next (fun s' hs' => h_kind s' (List.mem_cons_of_mem s hs')) h_clock

end Scrim

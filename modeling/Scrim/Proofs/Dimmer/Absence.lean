import Scrim.Proofs.Dimmer.Creation

/-!
# Dimmers without a surface

A dimmer has no surface if it could not be had, or since the dimmer was released. From then on it
never changes again: whatever it is told, it stays at rest at zero, hidden, with the timeline and
the footprint that it had, and complains once about each operation but a release
(`Dimmer.absence_of_run`).

`Vacant` is what is known of such a dimmer. It holds from the moment at which the surface is missing
(`Dimmer.vacant_after`), because coming to rest and giving the surface up leave nothing else behind.
The hold is given up before the surface is told to end, so that nothing can be issued after that,
whether the surface refuses to end or not (`Parting`).
-/

namespace Scrim

/-! ### What operations come to without a surface -/

namespace Operation

/-- The name under which an operation complains that there is no surface. To release what has been
released is in order. -/
def complainant? : Operation → Option String
  | .present .. => some "present"
  | .dismiss _ => some "dismiss"
  | .hideNow => some "hideNow"
  | .jumpToEnd => some "jumpToEnd"
  | .advance => some "advance"
  | .release => none

/-- The complaint of an operation that there is no surface. -/
def complaints (operation : Operation) : List Event :=
  operation.complainant?.toList.map fun name => .say .error (name ++ ": no surface")

/-- What an operation answers if there is no surface: advancing, that no more of it is needed. -/
def vacantResult : Operation → Option Bool
  | .advance => some false
  | .present .. | .dismiss _ | .hideNow | .jumpToEnd | .release => none

end Operation

/-- Whether an event is a logged error. -/
def Event.isError : Event → Bool
  | .log line => line.level == .error
  | _ => false

/-- Whether an event is a call of a primitive, refused or not. -/
def Event.isCall : Event → Bool
  | .call .. => true
  | _ => false

/-- Whether an event is a call that ends a surface, refused or not. -/
def Event.isEnding : Event → Bool
  | .call _ .destroy _ => true
  | _ => false

namespace Dimmer

variable {d : Dimmer}

/-- A dimmer without a surface is at rest at zero, and hidden. -/
structure Vacant (d : Dimmer) : Prop where
  handle : d.handle = none
  alpha : d.alpha = 0
  target : d.target = 0
  showing : d.showing = false

/-- Coming to rest changes nothing any more. -/
theorem Vacant.collapsed_eq (h : d.Vacant) : d.collapsed = d := by
  obtain ⟨-, h_alpha, h_target, -⟩ := h
  cases d
  subst h_alpha h_target
  rfl

end Dimmer

section Moves

variable {w : Surroundings} {t t' : Turn}

/-- Without a surface, moves change nothing. -/
theorem Turn.Moves.dimmer_of_vacant (h : Moves w t t') (h_vacant : t.dimmer.Vacant) :
    t'.dimmer = t.dimmer := by
  induction h with
  | none => rfl
  | said _ level message ih => exact ih
  | read _ ih => exact ih
  | collapsed _ _ operation ih =>
    rw [dimmer_collapse, ih]
    exact h_vacant.collapsed_eq
  -- the other moves are made on a surface
  | placed _ h_handle _ ih => cases h_vacant.handle.symm.trans (ih ▸ h_handle)
  | applied _ h_handle _ ih => cases h_vacant.handle.symm.trans (ih ▸ h_handle)
  | timed _ h_handle _ ih => cases h_vacant.handle.symm.trans (ih ▸ h_handle)
  | aimed _ h_handle _ ih => cases h_vacant.handle.symm.trans (ih ▸ h_handle)
  | released _ h_handle ih => cases h_vacant.handle.symm.trans (ih ▸ h_handle)

/-- **When the surface is missing, the dimmer is vacant**: moves keep that, and bring it about where
they give the surface up. -/
theorem Turn.Moves.vacant (h : Moves w t t')
    (h_before : t.dimmer.handle = Option.none → t.dimmer.Vacant) :
    t'.dimmer.handle = Option.none → t'.dimmer.Vacant := by
  -- steps that need the surface leave it with the dimmer, which refutes the premise
  have h_held {d : Dimmer} {handle : Handle} (h_handle : d.handle = some handle) :
      d.handle = Option.none → d.Vacant := by
    intro h_none
    cases h_none.symm.trans h_handle
  induction h with
  | none => exact h_before
  | said _ level message ih => exact ih
  | read _ ih => exact ih
  | placed _ h_handle _ ih => exact h_held ((handle_place ..).trans h_handle)
  | applied _ h_handle _ ih => exact h_held ((handle_applyAlpha ..).trans h_handle)
  | timed _ h_handle _ ih => exact h_held h_handle
  | aimed _ h_handle _ ih => exact h_held h_handle
  | released _ h_handle ih =>
    intro _
    -- giving the surface up is what makes a dimmer vacant
    rw [release_of_handle h_handle]
    exact ⟨rfl, rfl, rfl, rfl⟩
  | collapsed _ h_handle operation ih =>
    intro _
    exact ⟨h_handle, rfl, rfl, (ih h_handle).showing⟩

end Moves

namespace Dimmer

variable {d : Dimmer}

/-- A dimmer without a surface does not change any more. -/
theorem Vacant.after_eq (h : d.Vacant) (steps : List Step) : d.after steps = d := by
  induction steps with
  | nil => rfl
  | cons s rest ih =>
    have h_same : (d.turn s).dimmer = d := (d.moves s).dimmer_of_vacant h
    rw [after, h_same]
    exact ih

/-- After every run, a dimmer whose surface is missing is vacant. -/
theorem vacant_after (steps : List Step) (h : d.handle = none → d.Vacant) :
    (d.after steps).handle = none → (d.after steps).Vacant := by
  induction steps generalizing d with
  | nil => exact h
  | cons s rest ih => exact ih ((d.moves s).vacant h)

theorem vacant_new (options : Options) (display : Float)
    (admission : SurfaceRequest → Except Failure Handle) (refusal : Primitive → Option Failure) :
    (new options display admission refusal).handle = none →
      (new options display admission refusal).Vacant := by
  obtain ⟨handle, h_new⟩ := new_eq options display admission refusal
  rw [h_new]
  intro h_none
  exact ⟨h_none, rfl, rfl, rfl⟩

/-- What a valid operation does without a surface: after some remarks it complains, unless it is a
release. -/
theorem events_turn_of_vacant (h : d.Vacant) {s : Step} (h_valid : s.operation.Valid) :
    ∃ remarks : List String,
      (d.turn s).events = remarks.map (Event.say .debug) ++ s.operation.complaints ∧
        (s.operation = .release → remarks = []) := by
  have h_handle := h.handle
  obtain ⟨operation, w⟩ := s
  cases operation with
  | present layer alpha duration =>
    obtain ⟨request, h_check⟩ := h_valid
    rw [turn_present h_check]
    unfold Turn.present
    dsimp only
    rw [Turn.dimmer_debug, h_handle]
    -- a present request is remarked on before the surface is looked for
    exact ⟨[_], rfl, fun h_release => by cases h_release⟩
  | dismiss duration =>
    obtain ⟨request, h_check⟩ := h_valid
    rw [turn_dismiss h_check]
    unfold Turn.dismiss
    rw [h_handle]
    exact ⟨[], rfl, fun _ => rfl⟩
  | hideNow =>
    refine ⟨[], ?_, fun _ => rfl⟩
    change (Turn.hideNow { dimmer := d } w).events = _
    unfold Turn.hideNow
    rw [h_handle]
    rfl
  | jumpToEnd =>
    refine ⟨[], ?_, fun _ => rfl⟩
    change (Turn.jumpToEnd { dimmer := d } w).events = _
    unfold Turn.jumpToEnd
    rw [h_handle]
    rfl
  | advance =>
    refine ⟨[], ?_, fun _ => rfl⟩
    change (Turn.advance { dimmer := d } w).events = _
    unfold Turn.advance
    rw [h_handle]
    rfl
  | release =>
    refine ⟨[], ?_, fun _ => rfl⟩
    change (Turn.release { dimmer := d } w).events = _
    unfold Turn.release
    rw [h_handle]
    rfl

/-- A valid operation does not fail without a surface. -/
theorem answer_of_vacant (h : d.Vacant) {s : Step} (h_valid : s.operation.Valid) :
    d.answer s = .ok s.operation.vacantResult := by
  have h_same : (d.turn s).dimmer = d := (d.moves s).dimmer_of_vacant h
  obtain ⟨-, h_going⟩ := (d.moves s).of_absent h.handle
  rw [answer_of_going h_valid h_going, h_same]
  obtain ⟨operation, w⟩ := s
  cases operation with
  | advance =>
    -- at rest at zero, no fade is in progress
    have h_idle : d.isAnimating = false := by
      unfold isAnimating
      rw [h.alpha, h.target]
      decide +kernel
    exact congrArg (Except.ok ∘ some) h_idle
  | present | dismiss | hideNow | jumpToEnd | release => rfl

end Dimmer

/-! ### Endings -/

theorem Event.isEnding_of_not_isCall {e : Event} (h : e.isCall = false) : e.isEnding = false := by
  cases e with
  | call => cases h
  | log | requested | opened | closed => rfl

/-- Nothing has been issued after a surface was told to end, and a dimmer that holds a surface has
not told it to. -/
structure Parting (d : Dimmer) (past : List Event) : Prop where
  last : past.Pairwise fun e later => e.isEnding = true → later.isCall = false
  held : d.handle ≠ none → ∀ e ∈ past, e.isEnding = false

namespace Parting

variable {d d' : Dimmer} {past later : List Event}

/-- What is not issued may follow anything. -/
theorem of_uncalled (h : Parting d past) (h_handle : d'.handle = d.handle)
    (h_later : ∀ e ∈ later, e.isCall = false) : Parting d' (past ++ later) where
  last := by
    refine List.pairwise_append.mpr ⟨h.last, ?_, fun e _ e' he' _ => h_later e' he'⟩
    exact List.pairwise_of_forall_mem_list fun e _ e' he' _ => h_later e' he'
  held h_held := by
    rw [List.forall_mem_append]
    exact ⟨h.held (h_handle ▸ h_held), fun e he => Event.isEnding_of_not_isCall (h_later e he)⟩

/-- As long as the surface is held, anything but its end may follow. -/
theorem of_endless (h : Parting d past) (h_held : d.handle ≠ none)
    (h_later : ∀ e ∈ later, e.isEnding = false) : Parting d' (past ++ later) := by
  have h_endless : ∀ e ∈ past ++ later, e.isEnding = false :=
    List.forall_mem_append.mpr ⟨h.held h_held, h_later⟩
  refine ⟨?_, fun _ => h_endless⟩
  refine List.pairwise_of_forall_mem_list fun e he e' _ h_ending => ?_
  rw [h_endless e he] at h_ending
  cases h_ending

/-- The end of the surface may follow if the surface is given up. -/
theorem of_end (h : Parting d past) (h_held : d.handle ≠ none) (h_none : d'.handle = none)
    (surface : Nat) (answer : Option Failure) :
    Parting d' (past ++ [.call surface .destroy answer]) where
  last := by
    refine List.pairwise_append.mpr ⟨h.last, List.pairwise_singleton .., ?_⟩
    intro e he e' _ h_ending
    rw [h.held h_held e he] at h_ending
    cases h_ending
  held h_held' := absurd h_none h_held'

end Parting

section Moves

variable {w : Surroundings} {t t' : Turn} {past : List Event} {handle : Handle}

/-- A block that does not end the surface may follow as long as the surface is held. -/
theorem Parting.guard {d' : Dimmer} (h : Parting t.dimmer (past ++ t.events))
    (h_held : t.dimmer.handle ≠ none) {g : Guarded}
    (h_other : .destroy ∉ g.primitives) :
    Parting d' (past ++ (t.guard w handle g).events) := by
  rw [Turn.events_guard, ← List.append_assoc]
  refine h.of_endless h_held fun e he => ?_
  rcases Guarded.mem_events he with ⟨line, rfl⟩ | ⟨primitive, h_mem, rfl⟩
  · rfl
  · cases primitive with
    | destroy => exact absurd h_mem h_other
    | _ => rfl

theorem Parting.placed (h : Parting t.dimmer (past ++ t.events))
    (h_handle : t.dimmer.handle = some handle) (layer : Float) :
    Parting (t.place w handle layer).dimmer (past ++ (t.place w handle layer).events) := by
  have h_held : t.dimmer.handle ≠ none := h_handle ▸ Option.some_ne_none handle
  have h_other (p : Placing) : .destroy ∉ (Guarded.placing p).primitives := by
    simp [Guarded.primitives]
  have h_after := t.afterPlace w handle layer
  generalize t.place w handle layer = t' at h_after ⊢
  -- a warning, nothing, or the block of the placement, of which no primitive ends the surface
  cases h_after with
  | unseen =>
    rw [Turn.say, Turn.events_emit, ← List.append_assoc]
    exact h.of_endless h_held (List.forall_mem_singleton.mpr rfl)
  | inPlace => exact h
  | settled => exact h.guard h_held (h_other _)
  | cutShort => exact h.guard h_held (h_other _)

theorem Parting.applied (h : Parting t.dimmer (past ++ t.events))
    (h_handle : t.dimmer.handle = some handle) (alpha : Float) :
    Parting (t.applyAlpha w handle alpha).dimmer
      (past ++ (t.applyAlpha w handle alpha).events) := by
  have h_held : t.dimmer.handle ≠ none := h_handle ▸ Option.some_ne_none handle
  have h_other :
      .destroy ∉ (Guarded.applying alpha (t.dimmer.visibilityAt alpha)).primitives := by
    intro h_mem
    rcases Guarded.mem_primitives_applying h_mem with h_eq | h_eq | h_eq <;> cases h_eq
  have h_said (message : String) : Parting t.dimmer (past ++ (t.debug message).events) := by
    rw [Turn.debug, Turn.say, Turn.events_emit, ← List.append_assoc]
    exact h.of_endless h_held (List.forall_mem_singleton.mpr rfl)
  have h_after := t.afterAlpha w handle alpha
  generalize t.applyAlpha w handle alpha = t' at h_after ⊢
  cases h_after with
  | inPlace => exact h
  | settled message => exact Parting.guard (t := t.debug message) (h_said message) h_held h_other
  | cutShort message => exact Parting.guard (t := t.debug message) (h_said message) h_held h_other

/-- Giving the surface up ends it last. -/
theorem Parting.released (h : Parting t.dimmer (past ++ t.events))
    (h_handle : t.dimmer.handle = some handle) :
    Parting (t.release w).dimmer (past ++ (t.release w).events) := by
  have h_held : t.dimmer.handle ≠ none := h_handle ▸ Option.some_ne_none handle
  have h_reported : Guarded.ending.events w.refusal handle
      = (handle.announcements .destroy).map (Event.say .info)
        ++ [.call handle.id .destroy (w.refusal .destroy)]
        ++ (w.refusal .destroy).toList.map fun failure =>
          .log ⟨.warn, "Failure " ++ "destroying surface", some failure⟩ := by
    change (Block.run w.refusal handle [.issue .destroy]).reported _ = _
    rw [Block.run_singleton]
    cases w.refusal .destroy with
    | none => exact (List.append_nil _).symm
    | some failure => rfl
  rw [Turn.release_of_handle h_handle, Turn.events_guard, h_reported,
    ← List.append_assoc, ← List.append_assoc, ← List.append_assoc]
  -- the remark and what the tracers announce come before the end, a complaint after it
  have h_remark : Parting t.dimmer
      (past ++ t.events ++ [.say .debug "release: destroying surface"]) :=
    h.of_uncalled rfl (List.forall_mem_singleton.mpr rfl)
  have h_announced : Parting t.dimmer (past ++ t.events
      ++ [.say .debug "release: destroying surface"]
      ++ (handle.announcements .destroy).map (Event.say .info)) := by
    refine h_remark.of_uncalled rfl ?_
    simp [Event.say, Event.isCall]
  have h_ended : Parting { t.dimmer.collapsed with handle := none, showing := false } _ :=
    h_announced.of_end h_held rfl handle.id (w.refusal .destroy)
  rw [List.append_assoc past] at h_ended
  refine h_ended.of_uncalled rfl ?_
  simp [Event.isCall]

/-- **Each move keeps to that**: the surface is ended last. -/
theorem Parting.moves (h : Parting t.dimmer (past ++ t.events)) (h_moves : Turn.Moves w t t') :
    Parting t'.dimmer (past ++ t'.events) := by
  have h_said {t : Turn} (h : Parting t.dimmer (past ++ t.events)) (level : Level)
      (message : String) :
      Parting (t.say level message).dimmer (past ++ (t.say level message).events) := by
    rw [Turn.say, Turn.events_emit, ← List.append_assoc]
    exact h.of_uncalled rfl (List.forall_mem_singleton.mpr rfl)
  -- on the moves of the turn; only giving the surface up can end it
  induction h_moves with
  | none => exact h
  | said _ level message ih => exact h_said ih level message
  | read _ ih => exact ih
  | placed _ h_handle layer ih => exact ih.placed h_handle layer
  | applied _ h_handle alpha ih => exact ih.applied h_handle alpha
  | timed _ _ timeline ih => exact ⟨ih.last, ih.held⟩
  | aimed _ _ target ih => exact ⟨ih.last, ih.held⟩
  | released _ h_handle ih => exact ih.released h_handle
  | collapsed _ _ operation ih =>
    have h_complained := h_said ih .error (operation ++ ": no surface")
    exact ⟨h_complained.last, h_complained.held⟩

end Moves

theorem parting_new (options : Options) (display : Float)
    (admission : SurfaceRequest → Except Failure Handle) (refusal : Primitive → Option Failure) :
    Parting (Dimmer.new options display admission refusal)
      (Dimmer.create options display admission refusal).events := by
  have h_endless : ∀ e ∈ (Dimmer.create options display admission refusal).events,
      e.isEnding = false := by
    intro e he
    cases e with
    | call surface primitive answer =>
      rw [Dimmer.primitive_of_call_mem_create _ _ _ _ he]
      rfl
    | log | requested | opened | closed => rfl
  -- no event of a creation ends a surface, so nothing has to be silent after it
  refine ⟨?_, fun _ => h_endless⟩
  refine List.pairwise_of_forall_mem_list fun e he e' _ h_ending => ?_
  rw [h_endless e he] at h_ending
  cases h_ending

theorem Parting.after {d : Dimmer} {past : List Event} (h : Parting d past) (steps : List Step) :
    Parting (d.after steps) (past ++ d.events steps) :=
  Dimmer.moves_induction (fun (_ : True) => Parting.moves) h fun _ _ => trivial

/-! ### Every run -/

/-- **A dimmer without a surface stays as it is, and nothing is issued after a surface was told to
end.** The dimmer was created anyhow and has since taken any steps, with any clock, any displays and
any refusals. If it has no surface, it is at rest at zero and hidden, and no further run changes
anything about it or issues a primitive. A valid operation does not fail then, advancing answers
that no more is needed, and each operation but a release logs just one error, which is its complaint
that there is no surface, while a release logs nothing. -/
theorem Dimmer.absence_of_run (options : Options) (display : Float)
    (admission : SurfaceRequest → Except Failure Handle) (refusal : Primitive → Option Failure)
    (steps : List Step) :
    let d := (new options display admission refusal).after steps
    let events := (create options display admission refusal).events
      ++ (new options display admission refusal).events steps
    (d.handle = none →
      d.alpha = 0 ∧ d.target = 0 ∧ d.showing = false ∧
        ∀ later, d.after later = d ∧ (∀ e ∈ d.events later, e.isCall = false) ∧
          ∀ s, s.operation.Valid →
            (d.after later).answer s = .ok s.operation.vacantResult ∧
              ((d.after later).turn s).events.filter Event.isError = s.operation.complaints ∧
              (s.operation = .release → ((d.after later).turn s).events = [])) ∧
      events.Pairwise fun e later => e.isEnding = true → later.isCall = false := by
  intro d events
  refine ⟨?_, ?_⟩
  · intro h_none
    have h_vacant : d.Vacant :=
      vacant_after steps (vacant_new options display admission refusal) h_none
    refine ⟨h_vacant.alpha, h_vacant.target, h_vacant.showing, ?_⟩
    intro later
    refine ⟨h_vacant.after_eq later, ?_, ?_⟩
    · -- a vacant dimmer is inert
      intro e he
      have h_inert := inert_of_handle_eq_none h_vacant.handle h_vacant.alpha h_vacant.target
      cases e with
      | call surface primitive answer =>
        exact absurd he (h_inert.silent later surface primitive answer)
      | log | requested | opened | closed => rfl
    · intro s h_valid
      rw [h_vacant.after_eq later]
      obtain ⟨remarks, h_events, h_release⟩ := events_turn_of_vacant h_vacant h_valid
      refine ⟨answer_of_vacant h_vacant h_valid, ?_, ?_⟩
      · -- the remarks are no errors
        have h_remarks : (remarks.map (Event.say .debug)).filter Event.isError = [] := by
          simp [List.filter_eq_nil_iff, Event.say, Event.isError]
        rw [h_events, List.filter_append, h_remarks, List.nil_append]
        simp [Operation.complaints, List.filter_eq_self, Event.say, Event.isError]
      · intro h_operation
        rw [h_events, h_release h_operation, h_operation]
        rfl
  · exact ((parting_new options display admission refusal).after steps).last

/-- A dim that is released by a surface which refuses to end. -/
def Dimmer.stubbornRelease : List Step :=
  [⟨.present (.number 5) (.number 0.8) (.number 0), .calm 0⟩,
    ⟨.release, { Surroundings.calm 0 with refusal := fun p => some (.refused p.kind) }⟩]

/-- The dimmer has given it up all the same, and from then on only complains. -/
theorem Dimmer.absence_of_stubbornRelease :
    let d := fresh.after stubbornRelease
    let s : Step := ⟨.present (.number 5) (.number 0.8) (.number 0), .calm 1000⟩
    d.handle = none ∧ d.alpha = 0 ∧ d.after [s] = d ∧ s.operation.Valid ∧
      d.answer s = .ok none ∧
      (d.turn s).events.filter Event.isError = [.say .error "present: no surface"] := by
  intro d s
  have h_none : d.handle = none := by
    rw [← Option.isNone_iff_eq_none]
    decide +kernel
  have h_valid : s.operation.Valid := ⟨_, rfl⟩
  have h_absence := absence_of_run {} 0 (fun request => .ok { id := 0, name := request.name })
    (fun _ => none) stubbornRelease
  rw [← fresh_eq] at h_absence
  obtain ⟨h_alpha, -, -, h_run⟩ := h_absence.1 h_none
  obtain ⟨h_same, -, h_now⟩ := h_run []
  obtain ⟨h_answer, h_errors, -⟩ := h_now s h_valid
  rw [h_same] at h_answer h_errors
  have h_text : "present" ++ ": no surface" = "present: no surface" := by decide
  refine ⟨h_none, h_alpha, (h_run [s]).1, h_valid, h_answer, ?_⟩
  rw [h_errors, ← h_text]
  rfl

end Scrim

import Scrim.Proofs.Trace
import Scrim.Show

/-!
# The console of a show

A status line appears on the console as a plain line, set in by two blanks, that says with an at
sign where its surface is (`ConsoleCall.isStatus`). All else that a show lets be known looks
different: a line of the log begins with a bracket, an announcement with an arrow, and the dump of a
dimmer that holds no surface does without at signs. Coloured text begins with an escape code.

So the status lines of a show can be counted on the console (`Show.statuses`).
-/

namespace Scrim

/-- Whether a call of the console shows a status line. -/
def ConsoleCall.isStatus (call : ConsoleCall) : Bool :=
  call.channel == Level.info.channel
    && ("  ".toList.isPrefixOf call.text.toList && call.text.toList.contains '@')

namespace ConsoleCall

theorem isStatus_of_head {call : ConsoleCall} {c : Char} (h : call.text.toList.head? = some c)
    (h_c : c ≠ ' ') : call.isStatus = false := by
  obtain ⟨rest, h_text⟩ := List.head?_eq_some_iff.mp h
  have h_prefix : "  ".toList.isPrefixOf (c :: rest) = false :=
    Bool.and_eq_false_imp.mpr fun h_beq => absurd (beq_iff_eq.mp h_beq).symm h_c
  rw [isStatus, h_text, h_prefix, Bool.false_and, Bool.and_false]

theorem isStatus_of_not_mem {call : ConsoleCall} (h : '@' ∉ call.text.toList) :
    call.isStatus = false := by
  have h_contains : call.text.toList.contains '@' = false := by simpa using h
  rw [isStatus, h_contains, Bool.and_false, Bool.and_false]

/-- Colours make no status line of a text. -/
theorem isStatus_paint {s : String} (h : (plain s).isStatus = false) (palette : Palette)
    (tint : Tint) : (plain (palette.paint tint s)).isStatus = false := by
  unfold Palette.paint
  split
  · exact h
  · -- the colour is set by an escape code, with which the text begins
    refine isStatus_of_head (c := '\x1b') ?_ (by decide)
    change (String.ofList _).toList.head? = _
    rw [String.toList_ofList, List.append_assoc]
    cases tint <;> rfl

end ConsoleCall

/-- A line of the log begins with its tag, in brackets. -/
theorem Logger.isStatus_of_mem {tag : String} {debug : Bool} {line : LogLine} {call : ConsoleCall}
    (h : call ∈ consoleCalls tag debug line) : call.isStatus = false := by
  obtain ⟨level, message, cause⟩ := line
  let text := "[" ++ tag ++ "] " ++ message
  -- only a cause that is passed along adds to the text, and that at its end
  have h_text : call.text = text ∨ call.text = text ++ ":" := by
    cases level with
    | debug =>
      cases debug with
      | true => exact Or.inl (congrArg ConsoleCall.text (List.mem_singleton.mp h))
      | false => cases h
    | info => exact Or.inl (congrArg ConsoleCall.text (List.mem_singleton.mp h))
    | warn | error =>
      obtain rfl := List.mem_singleton.mp h
      split
      · exact Or.inl rfl
      · exact Or.inl rfl
      · exact Or.inr rfl
  -- either way the text begins with the bracket of the tag
  refine ConsoleCall.isStatus_of_head (c := '[') ?_ (by decide)
  rcases h_text with h_text | h_text <;>
    rw [h_text] <;> simp only [text, String.toList_append, List.append_assoc] <;> rfl

/-- **A status line is one on the console, too.** -/
theorem Compositor.StatusStyle.isStatus_of_line {style : StatusStyle} {surface : Surface}
    {line : String} (h : style.line surface = .ok line) :
    (ConsoleCall.plain ("  " ++ line)).isStatus = true := by
  have h_place : '@' ∈ (head surface).toList := by
    simp [head, toString]
  -- whether the surface shows, is hidden or has faded, the line begins with its head
  have h_line : '@' ∈ line.toList := by
    unfold StatusStyle.line at h
    dsimp only at h
    split at h
    · obtain rfl := Except.ok.inj h
      simp [h_place]
    · split at h
      · cases h
      · split at h
        · cases h
        · obtain rfl := Except.ok.inj h
          simp [h_place]
  have h_text : ("  " ++ line).toList = ' ' :: ' ' :: line.toList := String.toList_append
  have h_contains : (' ' :: ' ' :: line.toList).contains '@' = true := by simpa using h_line
  rw [ConsoleCall.isStatus, ConsoleCall.plain, h_text, h_contains]
  rfl

namespace Show

/-- The status lines that some reports make on the console. -/
def statusesOf (reports : List Report) : List ConsoleCall :=
  (reports.flatMap consoleCalls).filter ConsoleCall.isStatus

theorem statusesOf_append (reports later : List Report) :
    statusesOf (reports ++ later) = statusesOf reports ++ statusesOf later := by
  unfold statusesOf
  rw [List.flatMap_append, List.filter_append]

/-- Nothing that is logged is a status line. -/
theorem statusesOf_log (logger : Logger) (line : LogLine) :
    statusesOf (logger.reports line) = [] := by
  cases logger with
  | captured => rfl
  | console tag debug =>
    refine List.filter_eq_nil_iff.mpr fun call h_mem => ?_
    obtain ⟨report, h_report, h_call⟩ := List.mem_flatMap.mp h_mem
    obtain ⟨call', h_made, rfl⟩ := List.mem_map.mp h_report
    obtain rfl := List.mem_singleton.mp h_call
    rw [Logger.isStatus_of_mem h_made]
    exact Bool.false_ne_true

theorem statusesOf_line {style : Compositor.StatusStyle} {surface : Compositor.Surface}
    {line : String} (h : style.line surface = .ok line) :
    statusesOf ([line].map .line) = [.plain ("  " ++ line)] :=
  List.filter_cons_of_pos (Compositor.StatusStyle.isStatus_of_line h)

/-- The status lines among the console calls of some notices. -/
def statuses (palette : Palette) (notices : List Notice) : List ConsoleCall :=
  (notices.flatMap (Notice.calls palette)).filter ConsoleCall.isStatus

theorem statuses_append (palette : Palette) (notices later : List Notice) :
    statuses palette (notices ++ later) = statuses palette notices ++ statuses palette later := by
  unfold statuses
  rw [List.flatMap_append, List.filter_append]

/-- Where each of several parts shows one line, there are as many lines as parts. -/
theorem length_statuses_flatten {palette : Palette} {parts : List (List Notice)}
    (h : ∀ notices ∈ parts, (statuses palette notices).length = 1) :
    (statuses palette parts.flatten).length = parts.length := by
  induction parts with
  | nil => rfl
  | cons notices rest ih =>
    obtain ⟨h_first, h_rest⟩ := List.forall_mem_cons.mp h
    -- the first part adds one line, and the others as many as they are
    rw [List.flatten_cons, statuses_append, List.length_append, h_first, ih h_rest,
      List.length_cons, Nat.add_comm]

theorem statuses_reported (palette : Palette) (reports : List Report) :
    statuses palette (reports.map .reported) = statusesOf reports := by
  unfold statuses statusesOf
  rw [List.flatMap_map]
  rfl

/-- An announcement begins with an arrow. -/
theorem statuses_announced (palette : Palette) (label : String) :
    statuses palette [.announced label] = [] := by
  have h_plain : (ConsoleCall.plain (">> " ++ label)).isStatus = false :=
    ConsoleCall.isStatus_of_head (c := '>') (by rw [ConsoleCall.plain, String.toList_append]; rfl)
      (by decide)
  refine List.filter_eq_nil_iff.mpr fun call h_mem => ?_
  obtain rfl := List.mem_singleton.mp h_mem
  rw [ConsoleCall.isStatus_paint h_plain]
  exact Bool.false_ne_true

/-- A dump without at signs shows no status line. -/
theorem statuses_dumped (palette : Palette) {dump : List String}
    (h : ∀ line ∈ dump, '@' ∉ line.toList) : statuses palette (dump.map .dumped) = [] := by
  refine List.filter_eq_nil_iff.mpr fun call h_mem => ?_
  obtain ⟨notice, h_notice, h_call⟩ := List.mem_flatMap.mp h_mem
  obtain ⟨line, h_line, rfl⟩ := List.mem_map.mp h_notice
  obtain rfl := List.mem_singleton.mp h_call
  have h_plain : (ConsoleCall.plain line).isStatus = false :=
    ConsoleCall.isStatus_of_not_mem (h line h_line)
  rw [ConsoleCall.isStatus_paint h_plain]
  exact Bool.false_ne_true

/-- **There are no at signs in the dump of a dimmer that holds no surface.** -/
theorem not_mem_dump {d : Dimmer} (h : d.handle = none) (now : Float) :
    ∀ line ∈ d.dump "  " now, '@' ∉ line.toList := by
  -- what is printed besides the labels are numbers
  have h_text (x : Float) : '@' ∉ (Number.text x).toList := Number.not_mem_text (by decide) x
  simp [Dimmer.dump, toString, h, h_text]

end Show

end Scrim

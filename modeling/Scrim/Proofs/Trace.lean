import Mathlib.Data.List.Basic
import Scrim.Surface

/-!
# Trace lines

A tracer writes one line for each call: the name of the surface, a blank, and the call. How calls
are written is laid down for each kind of them (`Primitive.Kind.wording`), and a tracer keeps to it
(`Primitive.announcement_eq`).

A line names the surface and the call, which is to say that both can be read off it
(`Primitive.traceLine_inj`): no call is written with a blank in it, each kind begins in a way of its
own, and neither a comma nor a cross is part of a number.
-/

namespace Scrim

/-! ### The characters of numbers -/

namespace Number

/-- The characters with which numbers are written, infinities and the like included. -/
def isNumeral (c : Char) : Bool :=
  c.isDigit || "+-.eINafinty".toList.contains c

/-- A text is written with these characters. -/
def Numeric (s : String) : Prop :=
  ∀ c ∈ s.toList, isNumeral c = true

instance (s : String) : Decidable (Numeric s) :=
  decidable_of_iff (s.toList.all isNumeral = true) List.all_eq_true

theorem Numeric.append {s t : String} (h : Numeric s) (h' : Numeric t) : Numeric (s ++ t) := by
  intro c hc
  rw [String.toList_append] at hc
  exact (List.mem_append.mp hc).elim (h c) (h' c)

theorem numeric_of_digits {digits : List Char} (h : ∀ c ∈ digits, c.isDigit = true) :
    Numeric (String.ofList digits) := by
  intro c hc
  rw [String.toList_ofList] at hc
  rw [isNumeral, h c hc, Bool.true_or]

theorem isDigit_of_mem_toDigits (n : Nat) : ∀ c ∈ Nat.toDigits 10 n, c.isDigit = true :=
  fun _ => Nat.isDigit_of_mem_toDigits (by decide) (by decide)

theorem isDigit_of_mem_zeros (n : Nat) : ∀ c ∈ List.replicate n '0', c.isDigit = true := by
  intro c hc
  rw [List.eq_of_mem_replicate hc]
  rfl

theorem numeric_render (layout : Layout) (d : Decimal) : Numeric (d.render layout) := by
  have h_digits := isDigit_of_mem_toDigits d.digits
  have h_take (n : Nat) : Numeric (String.ofList ((Nat.toDigits 10 d.digits).take n)) :=
    numeric_of_digits fun c hc => h_digits c (List.mem_of_mem_take hc)
  have h_drop (n : Nat) : Numeric (String.ofList ((Nat.toDigits 10 d.digits).drop n)) :=
    numeric_of_digits fun c hc => h_digits c (List.mem_of_mem_drop hc)
  unfold Decimal.render
  dsimp only
  split
  · split
    · -- zeros follow the point
      refine Numeric.append (by decide) (numeric_of_digits ?_)
      exact List.forall_mem_append.mpr ⟨isDigit_of_mem_zeros _, h_digits⟩
    · split
      · -- zeros make up for the digits that are missing before the point
        refine numeric_of_digits ?_
        exact List.forall_mem_append.mpr ⟨h_digits, isDigit_of_mem_zeros _⟩
      · exact ((h_take _).append (by decide)).append (h_drop _)
  · -- an exponent
    refine ((((h_take 1).append ?_).append (by decide)).append ?_).append ?_
    · split
      · decide
      · exact Numeric.append (by decide) (h_drop 1)
    · split <;> decide
    · exact numeric_of_digits (isDigit_of_mem_toDigits _)

/-- **Numbers are written in numerals.** -/
theorem numeric_text (x : Float) : Numeric (text x) := by
  unfold text
  split
  · decide
  · decide
  · decide
  · decide
  · exact numeric_render _ _
  · exact Numeric.append (by decide) (numeric_render _ _)

theorem not_mem_text {c : Char} (h : isNumeral c = false) (x : Float) : c ∉ (text x).toList := by
  intro h_mem
  rw [numeric_text x c h_mem] at h
  cases h

end Number

/-! ### How calls are written -/

/-- How a call is written: what stands before its arguments, between them, and after them. -/
structure Wording where
  before : String
  between : String := ""
  after : String := ""

namespace Primitive

/-- How the calls of a kind are written. -/
def Kind.wording : Kind → Wording
  | .layerStack => { before := "layerStack=" }
  | .position => { before := "pos=(", between := ",", after := ")" }
  | .size => { before := "size=", between := "x" }
  | .layer => { before := "layer=" }
  | .alpha => { before := "alpha=" }
  | .show => { before := "SHOW" }
  | .hide => { before := "HIDE" }
  | .destroy => { before := "DESTROY" }

/-- A call as it is written. -/
def written (primitive : Primitive) : String :=
  let w := primitive.kind.wording
  w.before ++ w.between.intercalate (primitive.arguments.map Number.text) ++ w.after

/-- The trace line of a call on a surface. -/
def traceLine (name : String) (primitive : Primitive) : String :=
  name ++ " " ++ primitive.written

/-- What is written of two arguments. -/
theorem written_pair {primitive : Primitive} {x y : Float} (h : primitive.arguments = [x, y]) :
    primitive.written = primitive.kind.wording.before ++ Number.text x
      ++ primitive.kind.wording.between ++ Number.text y ++ primitive.kind.wording.after := by
  rw [written, h]
  change _ ++ (Number.text x ++ primitive.kind.wording.between ++ Number.text y) ++ _ = _
  simp only [String.append_assoc]

/-- **A tracer keeps to the wording.** -/
theorem announcement_eq (primitive : Primitive) : primitive.announcement = primitive.written := by
  cases primitive with
  | position x y =>
    rw [written_pair rfl, announcement, kind, Kind.wording]
  | size w h =>
    rw [written_pair rfl, announcement, kind, Kind.wording, String.append_empty]
  | layerStack | layer | alpha => exact String.append_empty.symm
  | «show» | hide | destroy => rfl

/-! ### What can be read off a line -/

/-- The kind of call that a text begins with. -/
def Kind.leading (characters : List Char) : Option Kind :=
  all.find? fun kind => kind.wording.before.toList.isPrefixOf characters

/-- **Each kind of call begins in a way of its own.** -/
theorem Kind.leading_append (kind : Kind) (rest : List Char) :
    leading (kind.wording.before.toList ++ rest) = some kind := by
  cases kind <;> rfl

theorem leading_written (primitive : Primitive) :
    Kind.leading primitive.written.toList = some primitive.kind := by
  rw [written, String.toList_append, String.toList_append, List.append_assoc, Kind.leading_append]

/-- There is no blank in a call. -/
theorem blank_not_mem_written (primitive : Primitive) : ' ' ∉ primitive.written.toList := by
  have h_text (x : Float) : ' ' ∉ (Number.text x).toList := Number.not_mem_text (by decide) x
  cases primitive with
  | position x y | size x y =>
    rw [written_pair rfl]
    simp [Kind.wording, kind, h_text]
  | layerStack x | layer x | alpha x =>
    simp [written, Kind.wording, kind, arguments, h_text]
  | «show» | hide | destroy => decide

/-- A text ends in one way only with a blank and a text without blanks. -/
theorem append_blank_inj {xs xs' ys ys' : List Char} (h : ' ' ∉ ys) (h' : ' ' ∉ ys')
    (h_eq : xs ++ ' ' :: ys = xs' ++ ' ' :: ys') : xs = xs' ∧ ys = ys' := by
  -- neither of the two blanks lies beyond the other
  have h_beyond {as zs zs' : List Char} (h_zs : ' ' ∉ zs) (h_rest : ' ' :: zs = as ++ ' ' :: zs') :
      as = [] := by
    cases as with
    | nil => rfl
    | cons a as =>
      refine absurd ?_ h_zs
      rw [List.tail_eq_of_cons_eq h_rest]
      exact List.mem_append_right as List.mem_cons_self
  rcases List.append_eq_append_iff.mp h_eq with ⟨as, rfl, h_rest⟩ | ⟨as, rfl, h_rest⟩
  · obtain rfl := h_beyond h h_rest
    exact ⟨(List.append_nil xs).symm, List.tail_eq_of_cons_eq h_rest⟩
  · obtain rfl := h_beyond h' h_rest
    exact ⟨List.append_nil xs', (List.tail_eq_of_cons_eq h_rest).symm⟩

/-- Two numbers can be told apart if what stands between them is not part of a number. -/
theorem pair_inj (between : String) (h_between : between.toList.map Number.isNumeral = [false])
    {x y x' y' : Float}
    (h : Number.text x ++ between ++ Number.text y = Number.text x' ++ between ++ Number.text y') :
    [x, y].map Number.text = [x', y'].map Number.text := by
  obtain ⟨c, h_c, h_foreign⟩ := List.map_eq_singleton_iff.mp h_between
  have h_characters := congrArg String.toList h
  simp only [String.toList_append, h_c, List.append_assoc, List.singleton_append]
    at h_characters
  -- the first foreign character is the one between them
  obtain ⟨h_first, -, h_second⟩ := (List.append_cons_inj_of_notMem (Number.not_mem_text h_foreign x)
    (Number.not_mem_text h_foreign y)).mp h_characters
  exact congrArg₂ ([·, ·]) (String.toList_inj.mp h_first) (String.toList_inj.mp h_second)

/-- Calls of a kind that are written alike have the same arguments, as numbers are written. -/
theorem arguments_of_written {p q : Primitive} (h_kind : p.kind = q.kind)
    (h : p.written = q.written) :
    p.arguments.map Number.text = q.arguments.map Number.text := by
  -- what they have in common is taken off at either end
  have h_between : p.kind.wording.between.intercalate (p.arguments.map Number.text)
      = p.kind.wording.between.intercalate (q.arguments.map Number.text) := by
    unfold written at h
    rw [← h_kind] at h
    exact (String.append_right_inj _).mp ((String.append_left_inj _).mp h)
  -- one number, two with a comma or a cross between them, or none
  cases p with
  | layerStack x | layer x | alpha x =>
    cases q with
    | layerStack y | layer y | alpha y =>
      exact congrArg ([·]) h_between
    | _ => cases h_kind
  | position x y =>
    cases q with
    | position x' y' => exact pair_inj "," (by decide) h_between
    | _ => cases h_kind
  | size w h =>
    cases q with
    | size w' h' => exact pair_inj "x" (by decide) h_between
    | _ => cases h_kind
  | «show» | hide | destroy =>
    cases q with
    | «show» | hide | destroy => rfl
    | _ => cases h_kind

/-- **A line names the surface and the call.** -/
theorem traceLine_inj {name name' : String} {p q : Primitive}
    (h : traceLine name p = traceLine name' q) :
    name = name' ∧ p.kind = q.kind ∧
      p.arguments.map Number.text = q.arguments.map Number.text := by
  -- there is one blank after the name, and none in the call
  have h_characters : name.toList ++ ' ' :: p.written.toList
      = name'.toList ++ ' ' :: q.written.toList := by
    have h_toList := congrArg String.toList h
    simpa [traceLine] using h_toList
  obtain ⟨h_name, h_written⟩ := append_blank_inj p.blank_not_mem_written q.blank_not_mem_written
    h_characters
  -- the calls are written alike, and so begin alike
  have h_kind : p.kind = q.kind :=
    Option.some.inj (p.leading_written.symm.trans (h_written ▸ q.leading_written))
  exact ⟨String.toList_inj.mp h_name, h_kind,
    arguments_of_written h_kind (String.toList_inj.mp h_written)⟩

end Primitive

end Scrim

import Scrim.Text.Units

/-!
# Coloured text

A palette either colours text by terminal escape codes or leaves it alone. Coloured text stays
coloured to its end: where it holds the closing code already, the tint is opened again, and over a
line end the tint is closed and opened anew, so that it does not reach into the margin.
-/

namespace Scrim

/-- A way to set text off. -/
inductive Tint
  | dim
  | gray
  | cyan
  | red
deriving Repr, DecidableEq

namespace Tint

/-- The escape code of a number. -/
def escape (code : String) : String :=
  "\x1b[" ++ code ++ "m"

/-- The code that begins a tint. -/
def opening : Tint → String
  | .dim => escape "2"
  | .gray => escape "90"
  | .cyan => escape "36"
  | .red => escape "31"

/-- The code that ends a tint. -/
def closing : Tint → String
  | .dim => escape "22"
  | .gray => escape "39"
  | .cyan => escape "39"
  | .red => escape "39"

end Tint

namespace Palette.Chars

/-- Puts `more` behind every occurrence of a text that is not empty; `due` counts the characters of
the occurrence under way. -/
def follow (mark more : List Char) : List Char → Nat → List Char
  | [], _ => []
  | c :: rest, 0 =>
    if mark.isPrefixOf (c :: rest) then
      if mark.length ≤ 1 then c :: more ++ follow mark more rest 0
      else c :: follow mark more rest (mark.length - 1)
    else c :: follow mark more rest 0
  | c :: rest, 1 => c :: more ++ follow mark more rest 0
  | c :: rest, due + 2 => c :: follow mark more rest (due + 1)

/-- Puts `before` in front of every line end and `behind` after it. A line end is a line feed,
together with a carriage return right before it. -/
def breakAt (before behind : List Char) : List Char → List Char
  | [] => []
  | '\r' :: '\n' :: rest => before ++ '\r' :: '\n' :: behind ++ breakAt before behind rest
  | c :: rest =>
    if c = '\n' then before ++ '\n' :: behind ++ breakAt before behind rest
    else c :: breakAt before behind rest

/-- A text without the first character of a mark holds no mark. -/
theorem follow_eq_self {mark more s : List Char} {first : Char} (head : mark.head? = some first)
    (absent : first ∉ s) : follow mark more s 0 = s := by
  obtain ⟨tail, rfl⟩ := List.head?_eq_some_iff.1 head
  induction s with
  | nil => rfl
  | cons c rest ih =>
    have other : first ≠ c := fun same => absent (same ▸ List.mem_cons_self)
    have later : first ∉ rest := fun here => absent (List.mem_cons_of_mem c here)
    simp [follow, List.isPrefixOf, other, ih later]

/-- A text without line feeds has no line ends. -/
theorem breakAt_eq_self {before behind s : List Char} (absent : '\n' ∉ s) :
    breakAt before behind s = s := by
  fun_induction breakAt before behind s with
  | case1 => rfl
  | case2 => simp at absent
  | case3 => simp at absent
  | case4 c rest _ _ ih => rw [ih fun here => absent (List.mem_cons_of_mem c here)]

end Palette.Chars

/-- Whether text is coloured. -/
structure Palette where
  coloured : Bool
deriving Repr, DecidableEq

namespace Palette

/-- The palette of a colour level; all levels but zero are alike here. -/
def ofLevel (level : Nat) : Palette :=
  ⟨level != 0⟩

/-- A text in a tint. An empty text stays empty. -/
def paint (palette : Palette) (tint : Tint) (s : String) : String :=
  if !palette.coloured || s.isEmpty then s
  else
    let opening := tint.opening.toList
    let closing := tint.closing.toList
    let kept := Chars.breakAt closing opening (Chars.follow closing opening s.toList 0)
    String.ofList (opening ++ kept ++ closing)

/-- The length in a tint of a text of the given length that has neither line ends nor escape codes
in it. -/
def span (palette : Palette) (tint : Tint) (length : Nat) : Nat :=
  if !palette.coloured || length = 0 then length
  else Text.units tint.opening + length + Text.units tint.closing

/-- Every closing code begins with the escape character. -/
theorem head?_closing (tint : Tint) : tint.closing.toList.head? = some '\x1b' := by
  cases tint <;> decide

/-- The length of a coloured text is its span. -/
theorem units_paint (palette : Palette) (tint : Tint) {s : String} (unbroken : '\n' ∉ s.toList)
    (plain : '\x1b' ∉ s.toList) :
    Text.units (palette.paint tint s) = palette.span tint (Text.units s) := by
  have same : Chars.breakAt tint.closing.toList tint.opening.toList s.toList = s.toList :=
    Chars.breakAt_eq_self unbroken
  simp only [paint, span, Chars.follow_eq_self (head?_closing tint) plain, same,
    Text.units_eq_zero_iff, String.ofList_append, String.ofList_toList]
  split <;> simp_all [Text.units_append]

end Palette

end Scrim

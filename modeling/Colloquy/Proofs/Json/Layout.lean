import Colloquy.Proofs.Json.Integers

/-! # Layout of a text

The styles differ in the spaces behind commas and colons, and the reader passes over these. What stands
between two separators begins with a character that is no space, so nothing of it is passed over.
-/
set_option autoImplicit false

namespace Colloquy.Json

/-- Items are parted by a comma and names end in a colon, with nothing but spaces behind these. -/
structure Style.Regular (style : Style) : Prop where
  items : ∃ gap, style.itemSeparator = ',' :: gap ∧ ∀ c ∈ gap, isSpace c = true
  names : ∃ gap, style.nameSeparator = ':' :: gap ∧ ∀ c ∈ gap, isSpace c = true

theorem Style.Regular.comma {style : Style} (regular : style.Regular) :
    ∃ gap, (∀ rest, style.itemSeparator ++ rest = ',' :: (gap ++ rest)) ∧
      ∀ c ∈ gap, isSpace c = true := by
  obtain ⟨gap, hGap, blank⟩ := regular.items
  exact ⟨gap, fun rest => by rw [hGap, List.cons_append], blank⟩

theorem regular_spacedAscii : Style.spacedAscii.Regular where
  items := ⟨[' '], rfl, by simp [isSpace]⟩
  names := ⟨[' '], rfl, by simp [isSpace]⟩

theorem skipSpace_cons {c : Char} (visible : isSpace c = false) (rest : List Char) :
    skipSpace (c :: rest) = c :: rest := by
  simp [skipSpace, visible]

theorem skipSpace_append {gap : List Char} (blank : ∀ c ∈ gap, isSpace c = true)
    (rest : List Char) : skipSpace (gap ++ rest) = skipSpace rest :=
  List.dropWhile_append_of_pos blank

/-- A text that begins neither with a space nor with the end of a list. -/
def Opens (cs : List Char) : Prop :=
  ∃ c more, cs = c :: more ∧ isSpace c = false ∧ c ≠ ']'

theorem Opens.append {cs : List Char} (h : Opens cs) (rest : List Char) : Opens (cs ++ rest) := by
  obtain ⟨c, more, rfl, visible, inside⟩ := h
  exact ⟨c, more ++ rest, rfl, visible, inside⟩

theorem Opens.skipSpace_eq {cs : List Char} (h : Opens cs) : skipSpace cs = cs := by
  obtain ⟨c, more, rfl, visible, -⟩ := h
  exact skipSpace_cons visible more

theorem isSpace_of_isDigit {c : Char} (digit : c.isDigit = true) : isSpace c = false := by
  simp only [isSpace, Bool.or_eq_false_iff, decide_eq_false_iff_not]
  exact ⟨⟨⟨ne_of_isDigit digit rfl, ne_of_isDigit digit rfl⟩, ne_of_isDigit digit rfl⟩,
    ne_of_isDigit digit rfl⟩

theorem opens_intChars (n : Int) : Opens (intChars n) := by
  obtain ⟨c, more, hChars, digit | rfl⟩ := intChars_eq_cons n
  · exact ⟨c, more, hChars, isSpace_of_isDigit digit, ne_of_isDigit digit rfl⟩
  · exact ⟨'-', more, hChars, rfl, by decide⟩

theorem joined_cons (separator part next : List Char) (more : List (List Char)) :
    joined separator (part :: next :: more) =
      part ++ (separator ++ joined separator (next :: more)) := by
  rw [joined]
  · simp
  · simp

theorem opens_joined {part : List Char} (opens : Opens part) (separator : List Char)
    (more : List (List Char)) : Opens (joined separator (part :: more)) := by
  cases more with
  | nil => exact opens
  | cons next more =>
    rw [joined_cons]
    exact opens.append _

end Colloquy.Json

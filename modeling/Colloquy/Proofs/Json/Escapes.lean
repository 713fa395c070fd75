import Colloquy.Json.Reader
import Colloquy.Json.Writer

/-! # Texts between quotes

Between quotes a character is written as itself, as a short escape, or by the units of its code
point. Each of these forms reads back as the character, whatever stands behind it, so a written text
reads back whole up to the quote that ends it.
-/
set_option autoImplicit false

namespace Colloquy.Json

open Text (hexDigit)

theorem digitValue?_hexDigit (n : Nat) : Whole.digitValue? (hexDigit n) = some (n % 16) := by
  have each : ∀ d < 16, Whole.digitValue? (Nat.digitChar d) = some d := by decide
  exact each _ (Nat.mod_lt n (by decide))

theorem unicodeEscape_eq (u : Nat) :
    unicodeEscape u =
      ['\\', 'u', hexDigit (u / 16 / 16 / 16), hexDigit (u / 16 / 16), hexDigit (u / 16), hexDigit u] :=
  rfl

theorem hexUnit?_hexDigit {u : Nat} (bound : u < 0x10000) :
    hexUnit? (hexDigit (u / 16 / 16 / 16)) (hexDigit (u / 16 / 16)) (hexDigit (u / 16)) (hexDigit u) =
      some u := by
  simp only [hexUnit?, digitValue?_hexDigit, bind, Option.bind_some, pure, Option.some.injEq]
  omega

def withHead (c : Char) : List Char × List Char → List Char × List Char
  | (s, r) => (c :: s, r)

theorem stringTail?_pair {high low : Nat} (isHigh : isHighSurrogate high = true)
    (isLow : isLowSurrogate low = true) (rest : List Char) :
    stringTail? (unicodeEscape high ++ (unicodeEscape low ++ rest)) =
      (stringTail? rest).map (withHead (pairChar high low)) := by
  have highBound : high < 0x10000 := by
    simp only [isHighSurrogate, Bool.and_eq_true, decide_eq_true_eq] at isHigh
    omega
  have lowBound : low < 0x10000 := by
    simp only [isLowSurrogate, Bool.and_eq_true, decide_eq_true_eq] at isLow
    omega
  simp only [unicodeEscape_eq, List.cons_append, List.nil_append]
  rw [stringTail?, hexUnit?_hexDigit highBound, hexUnit?_hexDigit lowBound]
  simp only [isHigh, isLow, Bool.and_self, if_true]
  rfl

def Follows (rest : List Char) : Prop :=
  ∃ a b c d more, rest = '\\' :: 'u' :: a :: b :: c :: d :: more

theorem stringTail?_of_not_follows {rest : List Char} (alone : ¬ Follows rest) (a b c d : Char) :
    stringTail? ('\\' :: 'u' :: a :: b :: c :: d :: rest) = match hexUnit? a b c d with
      | some u => (stringTail? rest).map (withHead (unitChar u))
      | none => none :=
  stringTail?.eq_4 a b c d rest fun a' b' c' d' more h => alone ⟨a', b', c', d', more, h⟩

theorem stringTail?_noUnit {a b c d : Char} (noUnit : hexUnit? a b c d = none) (rest : List Char) :
    stringTail? ('\\' :: 'u' :: a :: b :: c :: d :: rest) = none := by
  by_cases follows : Follows rest
  · obtain ⟨a', b', c', d', more, rfl⟩ := follows
    rw [stringTail?, noUnit]
  · rw [stringTail?_of_not_follows follows, noUnit]

/-- The reader looks ahead for a second unit, but one that is no high surrogate stands alone. -/
theorem stringTail?_unit {u : Nat} (bound : u < 0x10000) (alone : isHighSurrogate u = false)
    (rest : List Char) :
    stringTail? (unicodeEscape u ++ rest) = (stringTail? rest).map (withHead (unitChar u)) := by
  simp only [unicodeEscape_eq, List.cons_append, List.nil_append]
  by_cases follows : Follows rest
  · obtain ⟨a, b, c, d, more, rfl⟩ := follows
    rw [stringTail?, hexUnit?_hexDigit bound]
    cases second : hexUnit? a b c d with
    | none =>
      rw [stringTail?_noUnit second]
      rfl
    | some v =>
      simp only [alone, Bool.false_and, Bool.false_eq_true, if_false]
      rfl
  · rw [stringTail?_of_not_follows follows, hexUnit?_hexDigit bound]

theorem toNat_cases (c : Char) :
    c.toNat < 0xD800 ∨ (0xE000 ≤ c.toNat ∧ c.toNat < 0x110000) := by
  have valid := c.valid
  simp only [UInt32.isValidChar, Nat.isValidChar] at valid
  have : c.toNat = c.val.toNat := rfl
  omega

theorem stringTail?_escapedPoint (c : Char) (rest : List Char) :
    stringTail? (escapedPoint c.toNat ++ rest) = (stringTail? rest).map (withHead c) := by
  have range := toNat_cases c
  by_cases basic : c.toNat < 0x10000
  · have high : isHighSurrogate c.toNat = false := by
      simp only [isHighSurrogate, Bool.and_eq_false_iff, decide_eq_false_iff_not]
      omega
    have low : isLowSurrogate c.toNat = false := by
      simp only [isLowSurrogate, Bool.and_eq_false_iff, decide_eq_false_iff_not]
      omega
    have whole : unitChar c.toNat = c := by
      simp [unitChar, high, low]
    rw [escapedPoint, if_pos basic, stringTail?_unit basic high, whole]
  · have high : isHighSurrogate (0xD800 + (c.toNat - 0x10000) / 0x400) = true := by
      simp only [isHighSurrogate, Bool.and_eq_true, decide_eq_true_eq]
      omega
    have low : isLowSurrogate (0xDC00 + (c.toNat - 0x10000) % 0x400) = true := by
      simp only [isLowSurrogate, Bool.and_eq_true, decide_eq_true_eq]
      omega
    have whole : pairChar (0xD800 + (c.toNat - 0x10000) / 0x400)
        (0xDC00 + (c.toNat - 0x10000) % 0x400) = c := by
      have point : 0x10000 + (0xD800 + (c.toNat - 0x10000) / 0x400 - 0xD800) * 0x400 +
          (0xDC00 + (c.toNat - 0x10000) % 0x400 - 0xDC00) = c.toNat := by
        omega
      rw [pairChar, point, Char.ofNat_toNat]
    rw [escapedPoint, if_neg basic, List.append_assoc, stringTail?_pair high low, whole]

theorem stringTail?_simple {c e : Char} (escape : simpleEscape? c = some e) (rest : List Char) :
    stringTail? ('\\' :: c :: rest) = (stringTail? rest).map (withHead e) := by
  have noUnit : c ≠ 'u' := by
    rintro rfl
    cases escape
  rw [stringTail?.eq_5 _ _ (fun _ _ _ _ _ _ _ _ _ h => (noUnit h).elim)
    (fun _ _ _ _ _ h => (noUnit h).elim), escape]
  rfl

theorem stringTail?_plain {c : Char} (noQuote : c ≠ '"') (noEscape : c ≠ '\\')
    (graphic : ¬ c.toNat < 0x20) (rest : List Char) :
    stringTail? (c :: rest) = (stringTail? rest).map (withHead c) := by
  rw [stringTail?.eq_6 _ _ noQuote (fun _ _ _ _ _ _ _ _ _ h => (noEscape h).elim)
    (fun _ _ _ _ _ h => (noEscape h).elim) (fun _ _ h => (noEscape h).elim), if_neg graphic]
  rfl

theorem stringTail?_escapedChar (ascii : Bool) (c : Char) (rest : List Char) :
    stringTail? (escapedChar ascii c ++ rest) = (stringTail? rest).map (withHead c) := by
  unfold escapedChar
  split
  · next special =>
    apply stringTail?_simple
    obtain rfl | rfl := special <;> rfl
  split
  · next h => exact h ▸ stringTail?_simple rfl rest
  split
  · next h => exact h ▸ stringTail?_simple rfl rest
  split
  · next h => exact h ▸ stringTail?_simple rfl rest
  split
  · next h => exact h ▸ stringTail?_simple rfl rest
  split
  · next h => exact h ▸ stringTail?_simple rfl rest
  split
  · exact stringTail?_escapedPoint c rest
  · next special _ _ _ _ _ coded =>
    obtain ⟨noQuote, noEscape⟩ := not_or.mp special
    exact stringTail?_plain noQuote noEscape (fun h => coded (.inl h)) rest

theorem stringTail?_written (ascii : Bool) (cs rest : List Char) :
    stringTail? (cs.flatMap (escapedChar ascii) ++ '"' :: rest) = some (cs, rest) := by
  induction cs with
  | nil => rw [List.flatMap_nil, List.nil_append, stringTail?]
  | cons c cs ih =>
    rw [List.flatMap_cons, List.append_assoc, stringTail?_escapedChar, ih]
    rfl

end Colloquy.Json

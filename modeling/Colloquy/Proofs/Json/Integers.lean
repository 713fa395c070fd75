import Colloquy.Proofs.Decoding.Json

/-! # Integers in a text

An integer is written as a sign and digits without leading zeros. As long as these are no more digits
than a text may give it, it reads back as it was, provided that what stands behind it cannot be taken
for more of the number.
-/
set_option autoImplicit false

namespace Colloquy.Json

def EndsNumber (rest : List Char) : Prop :=
  ∀ c more, rest = c :: more → c.isDigit = false ∧ c ≠ '.' ∧ c ≠ 'e' ∧ c ≠ 'E'

theorem endsNumber_nil : EndsNumber [] := by
  intro c more h
  cases h

theorem endsNumber_cons {c : Char} (ends : c.isDigit = false ∧ c ≠ '.' ∧ c ≠ 'e' ∧ c ≠ 'E')
    (more : List Char) : EndsNumber (c :: more) := by
  intro d rest h
  obtain ⟨rfl, rfl⟩ := List.cons.inj h
  exact ends

section

variable {rest : List Char}

theorem spanDigits_append {digits : List Char} (all : ∀ c ∈ digits, c.isDigit = true)
    (ends : EndsNumber rest) : spanDigits (digits ++ rest) = (digits, rest) := by
  have stops : spanDigits rest = ([], rest) := by
    cases rest with
    | nil => rfl
    | cons c more => simp [spanDigits, (ends c more rfl).1]
  obtain ⟨hTake, hDrop⟩ := Prod.mk.inj stops
  rw [spanDigits, List.takeWhile_append_of_pos all, List.dropWhile_append_of_pos all, hTake, hDrop,
    List.append_nil]

theorem fractionPart_of_ends (ends : EndsNumber rest) : fractionPart rest = ([], rest) := by
  unfold fractionPart
  split
  · next more => exact absurd rfl (ends '.' more rfl).2.1
  · rfl

theorem exponentPart_of_ends (ends : EndsNumber rest) : exponentPart rest = (none, rest) := by
  cases rest with
  | nil => rfl
  | cons c more =>
    obtain ⟨-, -, lower, upper⟩ := ends c more rfl
    simp [exponentPart, lower, upper]

theorem toDigits_eq_cons (n : Nat) :
    ∃ d ds, Nat.toDigits 10 n = d :: ds ∧ d.isDigit = true ∧ (n ≠ 0 → d ≠ '0') := by
  induction n using Nat.strongRecOn with
  | ind n ih =>
    by_cases small : n < 10
    · refine ⟨n.digitChar, [], Nat.toDigits_of_lt_base small, ?_⟩
      have each : ∀ d < 10, (Nat.digitChar d).isDigit = true ∧ (d ≠ 0 → Nat.digitChar d ≠ '0') := by
        decide
      exact each n small
    · obtain ⟨d, ds, hDigits, digit, leading⟩ := ih (n / 10) (by omega)
      refine ⟨d, ds ++ [(n % 10).digitChar], ?_, digit, fun _ => leading (by omega)⟩
      rw [Nat.toDigits_of_base_le (by decide) (by omega), hDigits]
      rfl

theorem magnitude_of_whole (negative : Bool) {whole cs : List Char} (present : whole ≠ [])
    (split : wholePart cs = (whole, rest)) (ends : EndsNumber rest) :
    magnitude negative cs = (integer negative whole).map fun v => (v, rest) := by
  simp [magnitude, split, present, fractionPart_of_ends ends, exponentPart_of_ends ends]

theorem wholePart_toDigits (n : Nat) (ends : EndsNumber rest) :
    wholePart (Nat.toDigits 10 n ++ rest) = (Nat.toDigits 10 n, rest) := by
  by_cases zero : n = 0
  · subst zero
    rfl
  · have all (c : Char) (hc : c ∈ Nat.toDigits 10 n) : c.isDigit = true :=
      Nat.isDigit_of_mem_toDigits (by decide) (by decide) hc
    obtain ⟨d, ds, hDigits, -, leading⟩ := toDigits_eq_cons n
    rw [← spanDigits_append all ends, hDigits, List.cons_append]
    unfold wholePart
    split
    · next h => exact absurd (List.cons.inj h).1 (leading zero)
    · rfl

theorem magnitude_toDigits (negative : Bool) (n : Nat) (ends : EndsNumber rest) :
    magnitude negative (Nat.toDigits 10 n ++ rest) =
      (integer negative (Nat.toDigits 10 n)).map fun v => (v, rest) :=
  magnitude_of_whole negative Nat.toDigits_ne_nil (wholePart_toDigits n ends) ends

theorem ne_of_isDigit {d c : Char} (digit : d.isDigit = true) (other : c.isDigit = false) : d ≠ c := by
  rintro rfl
  cases digit.symm.trans other

theorem number_digit {d : Char} (digit : d.isDigit = true) (cs : List Char) :
    number (d :: cs) = magnitude false (d :: cs) :=
  have noN := ne_of_isDigit digit (c := 'N') rfl
  have noI := ne_of_isDigit digit (c := 'I') rfl
  have noMinus := ne_of_isDigit digit (c := '-') rfl
  number.eq_5 (d :: cs) (fun _ h => noN (List.cons.inj h).1) (fun _ h => noI (List.cons.inj h).1)
    (fun _ h => noMinus (List.cons.inj h).1) fun _ h => noMinus (List.cons.inj h).1

theorem number_minus {d : Char} (digit : d.isDigit = true) (cs : List Char) :
    number ('-' :: d :: cs) = magnitude true (d :: cs) :=
  have noI := ne_of_isDigit digit (c := 'I') rfl
  number.eq_4 (d :: cs) fun _ h => noI (List.cons.inj h).1

theorem intChars_of_neg {n : Int} (negative : n < 0) :
    intChars n = '-' :: Nat.toDigits 10 n.natAbs := by
  simp [intChars, negative, Decimal.sign]

theorem intChars_of_nonneg {n : Int} (positive : ¬ n < 0) :
    intChars n = Nat.toDigits 10 n.natAbs := by
  simp [intChars, positive, Decimal.sign]

theorem intChars_eq_cons (n : Int) :
    ∃ c more, intChars n = c :: more ∧ (c.isDigit = true ∨ c = '-') := by
  by_cases negative : n < 0
  · exact ⟨'-', _, intChars_of_neg negative, .inr rfl⟩
  · obtain ⟨d, ds, hDigits, digit, -⟩ := toDigits_eq_cons n.natAbs
    exact ⟨d, ds, (intChars_of_nonneg negative).trans hDigits, .inl digit⟩

theorem number_intChars_eq (n : Int) (ends : EndsNumber rest) :
    number (intChars n ++ rest) =
      (integer (decide (n < 0)) (Nat.toDigits 10 n.natAbs)).map fun v => (v, rest) := by
  obtain ⟨d, ds, hDigits, digit, -⟩ := toDigits_eq_cons n.natAbs
  have read := magnitude_toDigits (decide (n < 0)) n.natAbs ends
  rw [← read]
  by_cases negative : n < 0
  · rw [intChars_of_neg negative, hDigits, List.cons_append, List.cons_append, number_minus digit,
      decide_eq_true negative]
  · rw [intChars_of_nonneg negative, hDigits, List.cons_append, number_digit digit,
      decide_eq_false negative]

theorem integer_toDigits_of_fits {n : Int} (fits : Whole.fits n = true) :
    integer (decide (n < 0)) (Nat.toDigits 10 n.natAbs) = .ok (.int n) := by
  have short : ¬ Whole.maxDigits < (Nat.toDigits 10 n.natAbs).length :=
    Nat.not_lt.mpr ((Whole.fits_iff n).mp fits)
  have value : Nat.ofDigitChars 10 (Nat.toDigits 10 n.natAbs) 0 = n.natAbs :=
    Nat.ofDigitChars_ten_toDigits
  have signed : (if decide (n < 0) = true then -(n.natAbs : Int) else n.natAbs) = n := by
    simp only [decide_eq_true_eq]
    omega
  simp only [integer, if_neg short, value, signed]

theorem number_intChars {n : Int} (fits : Whole.fits n = true) (ends : EndsNumber rest) :
    number (intChars n ++ rest) = .ok (.int n, rest) := by
  rw [number_intChars_eq n ends, integer_toDigits_of_fits fits]
  rfl

end

end Colloquy.Json

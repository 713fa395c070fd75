import Mathlib
import Colloquy.Value.Number

/-! # The range of floating-point numbers

Which natural numbers have a floating-point number near them: those below half a step past the
greatest. The number near one is finite and not negative.
-/
set_option autoImplicit false

namespace Colloquy

open Float.Model (Format UnpackedFloat)
open Float.Model.UnpackedFloat (unpack unpackExponent unpackMantissa unpackSign)

namespace Binary64

theorem unpack_ofBits {w : UInt64} (h : @unpackExponent Format.binary64 w.toBitVec ≠ -1#11) :
    (Float.ofBits w).toModel.unpack = unpack Format.binary64 w.toBitVec := by
  have valid : Format.binary64.Valid w.toBitVec := ⟨fun full => absurd full h⟩
  change unpack Format.binary64 (UnpackedFloat.pack Format.binary64 (unpack Format.binary64 w.toBitVec)) = _
  rw [UnpackedFloat.pack_unpack_of_valid valid]

theorem toNat_unpackExponent (w : UInt64) :
    (@unpackExponent Format.binary64 w.toBitVec).toNat = w.toNat / 2 ^ 52 % 2 ^ 11 := by
  simp [unpackExponent, BitVec.extractLsb, BitVec.extractLsb'_toNat, Nat.shiftRight_eq_div_pow]

theorem unpackExponent_ne {w : UInt64} (h : w.toNat / 2 ^ 52 % 2 ^ 11 ≠ 2047) :
    @unpackExponent Format.binary64 w.toBitVec ≠ -1#11 := by
  intro full
  have field := congrArg BitVec.toNat full
  rw [toNat_unpackExponent] at field
  exact h field

theorem toNat_unpackSign (w : UInt64) :
    (@unpackSign Format.binary64 w.toBitVec).toNat = w.toNat / 2 ^ 63 % 2 := by
  simp [unpackSign, BitVec.extractLsb, BitVec.extractLsb'_toNat, Nat.shiftRight_eq_div_pow]

theorem isFinite_ofBits {w : UInt64} (h : w.toNat / 2 ^ 52 % 2 ^ 11 ≠ 2047) :
    (Float.ofBits w).isFinite = true := by
  have hExponent := unpackExponent_ne h
  change (Float.ofBits w).toModel.unpack.isFinite = true
  rw [unpack_ofBits hExponent, unpack]
  simp only [hExponent, if_false]
  split
  · split <;> rfl
  · rfl

theorem lt_iff_compare (x y : Float) :
    x < y ↔ x.toModel.unpack.compare y.toModel.unpack = some .lt := by
  change decide (UnpackedFloat.lt _ _ = true) = true ↔ _
  simp [UnpackedFloat.lt]

theorem unpack_zero : (0.0 : Float).toModel.unpack = .zero .positive := by
  rfl

theorem not_lt_zero_ofBits {w : UInt64} (h : w.toNat < 2047 * 2 ^ 52) : ¬ Float.ofBits w < 0.0 := by
  have hExponent := unpackExponent_ne (w := w) (by omega)
  have hSign : @unpackSign Format.binary64 w.toBitVec = 0#1 := by
    apply BitVec.eq_of_toNat_eq
    rw [toNat_unpackSign, Nat.div_eq_of_lt (by omega)]
    rfl
  rw [lt_iff_compare, unpack_zero, unpack_ofBits hExponent, unpack]
  simp only [hExponent, hSign, if_false]
  split
  · split <;> simp [UnpackedFloat.compare, UnpackedFloat.Sign.ofBitVec]
  · simp [UnpackedFloat.compare, UnpackedFloat.Sign.ofBitVec]

/-! ## Rounding -/

theorem div_le_roundHalfEven (num den : Nat) : num / den ≤ roundHalfEven num den := by
  unfold roundHalfEven
  dsimp only
  split <;> omega

theorem roundHalfEven_le (num den : Nat) : roundHalfEven num den ≤ num / den + 1 := by
  unfold roundHalfEven
  dsimp only
  split <;> omega

theorem even_le_roundHalfEven_iff {num den b : Nat} (den_pos : 0 < den) (even : b % 2 = 0) (pos : 0 < b) :
    b ≤ roundHalfEven num den ↔ (2 * b - 1) * den ≤ 2 * num := by
  obtain ⟨c, rfl⟩ : ∃ c, b = c + 1 := ⟨b - 1, by omega⟩
  have parts := Nat.div_add_mod num den
  have less := Nat.mod_lt num den_pos
  have twice : (2 * (c + 1) - 1) * den = 2 * (den * c) + den := by
    rw [show 2 * (c + 1) - 1 = 2 * c + 1 by omega]
    ring
  rw [twice]
  obtain below | rfl | above := Nat.lt_trichotomy (num / den) c
  · have := roundHalfEven_le num den
    have : den * (num / den) + den ≤ den * c := by
      rw [← Nat.mul_succ]
      exact Nat.mul_le_mul_left den below
    constructor <;> intro <;> omega
  · unfold roundHalfEven
    dsimp only
    split <;> omega
  · have := div_le_roundHalfEven num den
    have : den * c + den ≤ den * (num / den) := by
      rw [← Nat.mul_succ]
      exact Nat.mul_le_mul_left den above
    constructor <;> intro <;> omega

/-- Integers from here on are rounded past the greatest finite number. -/
def limit : Nat := 2 ^ 1024 - 2 ^ 970

def integerBits (n : Nat) : Nat :=
  (n.log2 + 1022) * 2 ^ 52 + roundHalfEven (n * 2 ^ (52 - n.log2)) (2 ^ (n.log2 - 52))

theorem binaryExponent_one {n : Nat} (pos : n ≠ 0) : binaryExponent n 1 = n.log2 := by
  have self := Nat.log2_self_le pos
  have one : Nat.log2 1 = 0 := rfl
  unfold binaryExponent
  simp only [one, Nat.cast_zero, sub_zero]
  rw [if_neg]
  simp only [Int.toNat_natCast, Int.toNat_neg_natCast, Nat.pow_eq]
  omega

theorem ofRatio_one (negative : Bool) {n : Nat} (pos : n ≠ 0) : ofRatio negative n 1 =
    if 2047 * 2 ^ 52 ≤ integerBits n then infinity negative
    else Float.ofBits (signBit negative + integerBits n).toUInt64 := by
  have hExponent : max ((n.log2 : Int) - 52) leastExponent = n.log2 - 52 := by
    unfold leastExponent
    omega
  have down : (-((n.log2 : Int) - 52)).toNat = 52 - n.log2 := by omega
  have up : ((n.log2 : Int) - 52).toNat = n.log2 - 52 := by omega
  have biased : ((n.log2 : Int) - 52 - leastExponent).toNat = n.log2 + 1022 := by
    unfold leastExponent
    omega
  unfold ofRatio integerBits
  simp only [pos, if_false, binaryExponent_one pos, hExponent, down, up, biased, Nat.one_mul, ge_iff_le,
    Nat.pow_eq]

theorem mantissa_bounds {n : Nat} (pos : n ≠ 0) :
    2 ^ 52 * 2 ^ (n.log2 - 52) ≤ n * 2 ^ (52 - n.log2) ∧
      n * 2 ^ (52 - n.log2) < 2 ^ 53 * 2 ^ (n.log2 - 52) := by
  constructor
  · calc
      2 ^ 52 * 2 ^ (n.log2 - 52) = 2 ^ n.log2 * 2 ^ (52 - n.log2) := by
        rw [← pow_add, ← pow_add]
        congr 1
        omega
      _ ≤ n * 2 ^ (52 - n.log2) := Nat.mul_le_mul_right _ (Nat.log2_self_le pos)
  · calc
      n * 2 ^ (52 - n.log2) < 2 ^ (n.log2 + 1) * 2 ^ (52 - n.log2) :=
        Nat.mul_lt_mul_of_pos_right Nat.lt_log2_self (Nat.two_pow_pos _)
      _ = 2 ^ 53 * 2 ^ (n.log2 - 52) := by
        rw [← pow_add, ← pow_add]
        congr 1
        omega

theorem limit_le_iff {n : Nat} (pos : n ≠ 0) : 2047 * 2 ^ 52 ≤ integerBits n ↔ limit ≤ n := by
  have least := Nat.log2_self_le pos
  have most := Nat.lt_log2_self (n := n)
  obtain ⟨above, below⟩ := mantissa_bounds pos
  unfold integerBits
  obtain small | exact | great := Nat.lt_trichotomy n.log2 1023
  · have rounded := roundHalfEven_le (n * 2 ^ (52 - n.log2)) (2 ^ (n.log2 - 52))
    have floor := (Nat.div_lt_iff_lt_mul (Nat.two_pow_pos _)).mpr below
    have less : n < limit := calc
      n < 2 ^ (n.log2 + 1) := most
      _ ≤ 2 ^ 1023 := Nat.pow_le_pow_right (by decide) small
      _ ≤ limit := by decide +kernel
    omega
  · obtain ⟨b, hb⟩ : ∃ b, b = 2 ^ 53 := ⟨_, rfl⟩
    have threshold : (2 * b - 1) * 2 ^ (n.log2 - 52) = 2 * limit := by
      rw [exact, hb]
      decide +kernel
    have half : b ≤ roundHalfEven n (2 ^ (n.log2 - 52)) ↔
        (2 * b - 1) * 2 ^ (n.log2 - 52) ≤ 2 * n :=
      even_le_roundHalfEven_iff (Nat.two_pow_pos _) (by omega) (by omega)
    have whole : n * 2 ^ (52 - n.log2) = n := by
      rw [show 52 - n.log2 = 0 by omega, pow_zero, mul_one]
    rw [threshold] at half
    rw [whole]
    omega
  · have rounded := div_le_roundHalfEven (n * 2 ^ (52 - n.log2)) (2 ^ (n.log2 - 52))
    have floor := (Nat.le_div_iff_mul_le (Nat.two_pow_pos _)).mpr above
    have more : limit ≤ n := calc
      limit ≤ 2 ^ 1024 := by decide +kernel
      _ ≤ 2 ^ n.log2 := Nat.pow_le_pow_right (by decide) great
      _ ≤ n := least
    omega

theorem isInf_of_isFinite {x : Float} (h : x.isFinite = true) : x.isInf = false := by
  change x.toModel.unpack.isFinite = true at h
  change x.toModel.unpack.isInf = false
  cases hParts : x.toModel.unpack with
  | infinity s =>
    rw [hParts] at h
    cases h
  | _ => rfl

theorem ofInt?_eq (n : Nat) : ofInt? n =
    if (ofRatio false n 1).isInf then none else some (ofRatio false n 1) := by
  have sign : decide ((n : Int) < 0) = false := decide_eq_false (by omega)
  unfold ofInt?
  rw [sign]
  rfl

theorem ofInt?_of_ofBits {n : Nat} {w : UInt64} (small : w.toNat < 2047 * 2 ^ 52)
    (rounded : ofRatio false n 1 = Float.ofBits w) :
    ∃ x, ofInt? n = some x ∧ x.isFinite = true ∧ ¬ x < 0.0 := by
  have finite : (Float.ofBits w).isFinite = true := isFinite_ofBits (by omega)
  refine ⟨Float.ofBits w, ?_, finite, not_lt_zero_ofBits small⟩
  rw [ofInt?_eq, rounded, isInf_of_isFinite finite]
  rfl

/-- A natural number is rounded to a finite number that is not negative, or is past them all. -/
theorem ofInt?_natCast (n : Nat) : (limit ≤ n ∧ ofInt? n = none) ∨
    n < limit ∧ ∃ x, ofInt? n = some x ∧ x.isFinite = true ∧ ¬ x < 0.0 := by
  by_cases zero : n = 0
  · subst zero
    exact .inr ⟨by decide +kernel, ofInt?_of_ofBits (w := 0) (by decide) rfl⟩
  · have rounded := ofRatio_one false zero
    by_cases past : 2047 * 2 ^ 52 ≤ integerBits n
    · rw [if_pos past] at rounded
      have infinite : (infinity false).isInf = true := by decide +kernel
      refine .inl ⟨(limit_le_iff zero).mp past, ?_⟩
      rw [ofInt?_eq, rounded, infinite]
      rfl
    · rw [if_neg past] at rounded
      have bits : (signBit false + integerBits n).toUInt64.toNat = integerBits n := by
        rw [signBit, if_neg (by decide), Nat.zero_add]
        refine UInt64.toNat_ofNat_of_lt' ?_
        rw [UInt64.size]
        omega
      refine .inr ⟨?_, ofInt?_of_ofBits ?_ rounded⟩
      · rw [limit_le_iff zero] at past
        omega
      · omega

end Binary64
end Colloquy

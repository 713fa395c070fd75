/-! # The double-precision grid

A finite floating-point number is `± m * 2 ^ q`; this module reads `m` and `q` off its bits and
goes the other way, from a quotient of natural numbers to the number nearest to it. Both are exact
integer arithmetic, so that decimal texts and comparisons with integers never round twice.
-/
set_option autoImplicit false

namespace Colloquy

inductive Binary64 where
  | nan
  | infinite (negative : Bool)
  /-- `± m * 2 ^ q`, with `m < 2 ^ 53` and `q ≥ -1074`. -/
  | finite (negative : Bool) (m : Nat) (q : Int)
deriving DecidableEq, Repr

namespace Binary64

def leastExponent : Int := -1074

def ofFloat (x : Float) : Binary64 :=
  let bits : Nat := x.toBits.toNat
  let negative := bits / Nat.pow 2 63 == 1
  let biased : Nat := bits / Nat.pow 2 52 % 2048
  let fraction : Nat := bits % Nat.pow 2 52
  if biased = 2047 then
    if fraction = 0 then .infinite negative else .nan
  else if biased = 0 then .finite negative fraction leastExponent
  else .finite negative (Nat.pow 2 52 + fraction) ((biased : Int) + leastExponent - 1)

def signBit (negative : Bool) : Nat :=
  if negative then Nat.pow 2 63 else 0

def infinity (negative : Bool) : Float :=
  Float.ofBits (signBit negative + 2047 * Nat.pow 2 52).toUInt64

/-- The greatest `e` with `2 ^ e ≤ num / den`, for positive `num` and `den`. -/
def binaryExponent (num den : Nat) : Int :=
  let e : Int := num.log2 - den.log2
  if num * Nat.pow 2 (-e).toNat < den * Nat.pow 2 e.toNat then e - 1 else e

/-- The quotient rounded to the nearest integer, a half to the even neighbour. -/
def roundHalfEven (num den : Nat) : Nat :=
  let floor := num / den
  let twice := 2 * (num % den)
  if den < twice ∨ (twice = den ∧ floor % 2 = 1) then floor + 1 else floor

/-- The number nearest to `± num / den`; past the greatest finite one, infinity. -/
def ofRatio (negative : Bool) (num den : Nat) : Float :=
  if num = 0 then Float.ofBits (signBit negative).toUInt64
  else
    let q := max (binaryExponent num den - 52) leastExponent
    let m := roundHalfEven (num * Nat.pow 2 (-q).toNat) (den * Nat.pow 2 q.toNat)
    let bits := (q - leastExponent).toNat * Nat.pow 2 52 + m
    if bits ≥ 2047 * Nat.pow 2 52 then infinity negative
    else Float.ofBits (signBit negative + bits).toUInt64

/-- The number nearest to `± digits * 10 ^ exponent`. Exponents far outside the grid are answered
without building the power. -/
def ofDecimal (negative : Bool) (digits : Nat) (exponent : Int) : Float :=
  let size : Int := (Nat.toDigits 10 digits).length + exponent
  if digits = 0 ∨ size < -330 then ofRatio negative 0 1
  else if size > 310 then infinity negative
  else ofRatio negative (digits * Nat.pow 10 exponent.toNat) (Nat.pow 10 (-exponent).toNat)

def ofInt? (n : Int) : Option Float :=
  let x := ofRatio (n < 0) n.natAbs 1
  if x.isInf then none else some x

/-- How a finite number compares with an integer, exactly. -/
def compareInt (negative : Bool) (m : Nat) (q : Int) (n : Int) : Ordering :=
  let signed : Int := if negative then -(m : Int) else m
  compare (signed * Int.pow 2 q.toNat) (n * Int.pow 2 (-q).toNat)

end Binary64
end Colloquy

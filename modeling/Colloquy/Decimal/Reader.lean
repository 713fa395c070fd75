import Colloquy.Binary64
import Colloquy.Decimal.Whole

/-! # Reading decimals

Floating-point numbers as people write them: digits of any script, with or without a point and an
exponent, single underscores between digits, blanks around, and names for the exceptional numbers.
The result is the number nearest to the decimal.
-/
set_option autoImplicit false

namespace Colloquy.Decimal

/-- The characters without their underscores, each of which must stand between two digits. -/
def withoutUnderscores? (afterDigit : Bool) : List Char → Option (List Char)
  | [] => some []
  | '_' :: rest =>
    if afterDigit && (rest.head?.any Char.isDigit) then withoutUnderscores? false rest else none
  | c :: rest => (withoutUnderscores? c.isDigit rest).map (c :: ·)

def exponent? : List Char → Option Int
  | [] => some 0
  | e :: rest =>
    if e = 'e' ∨ e = 'E' then
      let (negative, ds) := dropSign rest
      if ds.isEmpty || !ds.all Char.isDigit then none
      else
        let n : Int := Nat.ofDigitChars 10 ds 0
        some (if negative then -n else n)
    else none

def magnitude? (negative : Bool) (cs : List Char) : Option Float := do
  let whole := cs.takeWhile Char.isDigit
  let rest := cs.dropWhile Char.isDigit
  let (fraction, rest) := match rest with
    | '.' :: r => (r.takeWhile Char.isDigit, r.dropWhile Char.isDigit)
    | r => ([], r)
  if whole.isEmpty && fraction.isEmpty then none
  let e ← exponent? rest
  return Binary64.ofDecimal negative (Nat.ofDigitChars 10 (whole ++ fraction) 0)
    (e - fraction.length)

def bare? (cs : List Char) : Option Float :=
  let (negative, cs) := dropSign cs
  let name := String.ofList (cs.map Char.toLower)
  if name = "inf" ∨ name = "infinity" then some (Binary64.infinity negative)
  else if name = "nan" then some (Float.ofBits 0x7FF8000000000000)
  else magnitude? negative cs

def read? (cs : List Char) : Option Float := do
  bare? (← withoutUnderscores? false (unpadded cs))

end Colloquy.Decimal

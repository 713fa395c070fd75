import Colloquy.Text.Blank
import Colloquy.Text.Digits

/-! # Whole numbers as texts

Writing integers in base ten and reading them in any base up to sixteen: digits of any script, a
sign, blanks around, single underscores between digits, and the mark of the base in front of them.
-/
set_option autoImplicit false

namespace Colloquy

namespace Decimal

def sign (negative : Bool) : List Char :=
  if negative then ['-'] else []

def isPadding (c : Char) : Bool :=
  Text.isBlank c && !(0x1C ≤ c.toNat && c.toNat ≤ 0x1F)

def plainDigit (c : Char) : Char :=
  match Text.digitValue? c with
  | some n => Nat.digitChar n
  | none => c

/-- A number without the blanks around it, in ASCII digits. -/
def unpadded (cs : List Char) : List Char :=
  ((cs.dropWhile isPadding).reverse.dropWhile isPadding).reverse.map plainDigit

def dropSign : List Char → Bool × List Char
  | '-' :: rest => (true, rest)
  | '+' :: rest => (false, rest)
  | cs => (false, cs)

end Decimal

def intChars (n : Int) : List Char :=
  Decimal.sign (n < 0) ++ Nat.toDigits 10 n.natAbs

def intText (n : Int) : String :=
  String.ofList (intChars n)

namespace Whole

/-- How many decimal digits an integer may have that becomes a text or comes from one. -/
def maxDigits : Nat := 4300

/-- The least number of more digits. In two steps its powers stay small enough to be evaluated. -/
def bound : Nat := ((10 : Nat).pow 100).pow 43

theorem pow_pow_eq {b m n k : Nat} (h : m * n = k) : (b.pow m).pow n = b.pow k :=
  h ▸ (Nat.pow_mul b m n).symm

theorem bound_eq : bound = (10 : Nat).pow maxDigits :=
  pow_pow_eq rfl

def fits (n : Int) : Bool :=
  n.natAbs < bound

def digitValue? (c : Char) : Option Nat :=
  if '0' ≤ c ∧ c ≤ '9' then some (c.toNat - 48)
  else if 'a' ≤ c ∧ c ≤ 'f' then some (c.toNat - 87)
  else if 'A' ≤ c ∧ c ≤ 'F' then some (c.toNat - 55)
  else none

def digitIn? (base : Nat) (c : Char) : Option Nat :=
  (digitValue? c).bind fun d => if d < base then some d else none

/-- The digits behind `n`; an underscore stands between two of them. -/
def more? (base n : Nat) : List Char → Option Nat
  | [] => some n
  | '_' :: c :: rest => (digitIn? base c).bind fun d => more? base (n * base + d) rest
  | c :: rest => (digitIn? base c).bind fun d => more? base (n * base + d) rest

def digits? (base : Nat) : List Char → Option Nat
  | [] => none
  | c :: rest => (digitIn? base c).bind fun d => more? base d rest

def mark? (base : Nat) : Option Char :=
  if base = 2 then some 'b' else if base = 8 then some 'o' else if base = 16 then some 'x' else none

def digitCount (base : Nat) (cs : List Char) : Nat :=
  (cs.takeWhile fun c => c = '_' || (digitIn? base c).isSome).countP (· ≠ '_')

/-- Where the base is a power of two, a number may have any length. -/
def isLong (base : Nat) (cs : List Char) : Bool :=
  (mark? base).isNone && maxDigits < digitCount base cs

def magnitude? (base : Nat) (cs : List Char) : Option Nat :=
  match cs with
  | '0' :: m :: rest =>
    if mark? base == some m.toLower then
      digits? base (if rest.head? == some '_' then rest.tail else rest)
    else digits? base cs
  | _ => digits? base cs

def read? (base : Nat) (cs : List Char) : Option Int :=
  let (negative, cs) := Decimal.dropSign (Decimal.unpadded cs)
  if isLong base cs then none
  else (magnitude? base cs).map fun n => if negative then -(n : Int) else n

end Whole
end Colloquy

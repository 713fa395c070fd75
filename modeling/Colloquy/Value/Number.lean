import Colloquy.Value
import Colloquy.Binary64

/-! # Numbers among the values

Integers are exact and of any size; a truth value counts as zero or one; an operation with a
floating-point operand is carried out in floating point. Comparison is exact between the two kinds.
Times a whole number, a sequence is repeated.
-/
set_option autoImplicit false

namespace Colloquy

inductive NumberError where
  | overflow
  | zeroDivision
  /-- A negative number was raised to a power that is not whole. -/
  | notReal
  | unsupported (operator left right : String)
  | notTimes (kind : String)
  /-- A sequence repeated that often does not fit into memory. -/
  | noMemory
  | unordered (left right : String)
  | dateAmongTimes
  | mixedZones
deriving DecidableEq, Repr

namespace Value

inductive Quantity where
  | whole (n : Int)
  | real (x : Float)
deriving Repr

def quantity? : Value → Option Quantity
  | bool b => some (.whole (if b then 1 else 0))
  | int n => some (.whole n)
  | float x => some (.real x)
  | _ => none

def toFloat (n : Int) : Except NumberError Float :=
  match Binary64.ofInt? n with
  | some x => .ok x
  | none => .error .overflow

def Quantity.toFloat : Quantity → Except NumberError Float
  | .whole n => Value.toFloat n
  | .real x => .ok x

/-- Exact comparison; `none` when one side is not a number of the line. -/
def Quantity.compare? : Quantity → Quantity → Option Ordering
  | .whole m, .whole n => some (compare m n)
  | .real x, .real y => if x < y then some .lt else if y < x then some .gt
    else if x == y then some .eq else none
  | .real x, .whole n => against x n
  | .whole n, .real x => (against x n).map Ordering.swap
where
  against (x : Float) (n : Int) : Option Ordering :=
    match Binary64.ofFloat x with
    | .nan => none
    | .infinite negative => some (if negative then .lt else .gt)
    | .finite negative m q => some (Binary64.compareInt negative m q n)

def isIndex (n : Int) : Bool :=
  -(Int.pow 2 63) ≤ n && n < Int.pow 2 63

/-- How many items a memory is taken to hold. -/
def memorySize : Nat := Nat.pow 2 36

def repeatItems {α : Type} (tooMany : NumberError) (count : Int) (items : List α) :
    Except NumberError (List α) :=
  let total := count.toNat * items.length
  if !isIndex count then .error .overflow
  else if total = 0 then .ok []
  else if Nat.pow 2 63 ≤ total then .error tooMany
  else if memorySize < total then .error .noMemory
  else .ok (List.replicate count.toNat items).flatten

def repeated? (count : Int) : Value → Option (Except NumberError Value)
  | str s => some do return str (String.ofList (← repeatItems .overflow count s.toList))
  | list items => some do return list (← repeatItems .noMemory count items)
  | atom (.octets bytes) => some do return atom (.octets (← repeatItems .overflow count bytes))
  | _ => none

def isSequence : Value → Bool
  | str _ | list _ | pair .. | atom (.octets _) | atom (.again true) => true
  | _ => false

def multiple (a b : Value) : Except NumberError Value :=
  let product? := match a.quantity?, b.quantity? with
    | some (.whole n), _ => b.repeated? n
    | _, some (.whole n) => a.repeated? n
    | _, _ => none
  match product? with
  | some product => product
  | none =>
    if a.isSequence then .error (.notTimes b.kind)
    else if b.isSequence then .error (.notTimes a.kind)
    else .error (.unsupported "*" a.kind b.kind)

def times (a b : Value) : Except NumberError Value :=
  match a.quantity?, b.quantity? with
  | some (.whole m), some (.whole n) => .ok (int (m * n))
  | some x, some y => do return float ((← x.toFloat) * (← y.toFloat))
  | _, _ => multiple a b

/-- A product with a number off the real line. It is no value, so only its faults count. -/
def timesUnreal (a : Value) : Except NumberError Unit :=
  match a.quantity? with
  | some x => x.toFloat.map fun _ => ()
  | none =>
    if a.isSequence then .error (.notTimes "complex")
    else .error (.unsupported "*" a.kind "complex")

/-- A floating-point power. Zero has no finite negative power, and a finite base does not give
infinity. -/
def floatPower (x y : Float) : Except NumberError Float :=
  if x == 0.0 ∧ y < 0.0 ∧ y.isFinite then .error .zeroDivision
  else if x < 0.0 ∧ x.isFinite ∧ y.isFinite ∧ !(y.floor == y) then .error .notReal
  else
    let r := Float.pow x y
    if r.isInf ∧ x.isFinite ∧ y.isFinite then .error .overflow else .ok r

def longExponent : Nat := Nat.pow 2 23

/-- `m ^ n`. The powers of zero and of the units need no multiplication, however great `n` is. -/
def intPower (m : Int) (n : Nat) : Int :=
  if m = 1 then 1
  else if m = 0 then if n = 0 then 1 else 0
  else if m = -1 then if n % 2 = 0 then 1 else -1
  else if n < longExponent then m.pow n
  else m.pow (n % longExponent) * (m.pow longExponent).pow (n / longExponent)

theorem intPower_eq (m : Int) (n : Nat) : intPower m n = m.pow n := by
  have power (a : Int) (k : Nat) : a.pow k = a ^ k := rfl
  simp only [intPower, power]
  split
  · next h => rw [h, Int.one_pow]
  split
  · next h =>
    subst h
    by_cases hn : n = 0
    · simp [hn]
    · simp [hn, Int.zero_pow hn]
  split
  · next h =>
    subst h
    have hn := Nat.div_add_mod n 2
    rw [← hn, Int.pow_add, Int.pow_mul, show (-1 : Int) ^ 2 = 1 from rfl, Int.one_pow]
    rcases Nat.mod_two_eq_zero_or_one n with h | h <;> simp [h]
  split
  · rfl
  · rw [← Int.pow_mul, ← Int.pow_add, Nat.mod_add_div]

def power (a b : Value) : Except NumberError Value :=
  match a.quantity?, b.quantity? with
  | some (.whole m), some (.whole n) =>
    if 0 ≤ n then .ok (int (intPower m n.toNat))
    else do return float (← floatPower (← toFloat m) (← toFloat n))
  | some x, some y => do return float (← floatPower (← x.toFloat) (← y.toFloat))
  | _, _ => .error (.unsupported "** or pow()" a.kind b.kind)

end Value
end Colloquy

/-! # Base sixty-four

Octets as text, three octets in four digits. Writing fills up the last four with padding; reading
passes over characters that are no digits, and ends at the padding that completes four.
-/
set_option autoImplicit false

namespace Colloquy.Text.Base64

def alphabet : List Char :=
  "ABCDEFGHIJKLMNOPQRSTUVWXYZabcdefghijklmnopqrstuvwxyz0123456789+/".toList

def digit (n : Nat) : Char :=
  alphabet.getD (n % 64) '='

def value? (c : Char) : Option Nat :=
  alphabet.idxOf? c

def encode : List UInt8 → List Char
  | [] => []
  | [a] =>
    let n := a.toNat * 16
    [digit (n / 64), digit n, '=', '=']
  | [a, b] =>
    let n := (a.toNat * 256 + b.toNat) * 4
    [digit (n / 4096), digit (n / 64), digit n, '=']
  | a :: b :: c :: rest =>
    let n := (a.toNat * 256 + b.toNat) * 256 + c.toNat
    digit (n / 262144) :: digit (n / 4096) :: digit (n / 64) :: digit n :: encode rest

/-- The digits read of the four under way, the last first, and the padding behind the last. -/
structure Group where
  digits : List Nat := []
  pads : Nat := 0

def Group.octet? (g : Group) : Option UInt8 :=
  match g.digits with
  | [_] | [] => none
  | b :: a :: rest =>
    let places := 2 * (rest.length + 1)
    some (a * Nat.pow 2 places + b / Nat.pow 2 (6 - places)).toUInt8

def decodeFrom (g : Group) : List Char → Option (List UInt8)
  | [] => if g.digits.isEmpty then some [] else none
  | c :: rest =>
    let held := g.digits.length
    if c = '=' then
      if held < 2 then decodeFrom g rest
      else if 4 ≤ held + g.pads + 1 then some []
      else decodeFrom { g with pads := g.pads + 1 } rest
    else match value? c with
      | none => decodeFrom g rest
      | some v =>
        let g : Group := { digits := v :: g.digits }
        let next : Group := if held = 3 then {} else g
        (decodeFrom next rest).map fun octets => g.octet?.toList ++ octets

def decode? (cs : List Char) : Option (List UInt8) :=
  decodeFrom {} cs

end Colloquy.Text.Base64

/-! # Octets as text

UTF-8, read leniently or strictly, and the detection of the encoding of a JSON text by its first
octets. The lenient reader puts one replacement character for each longest run of octets that
begins a character but does not end it.
-/
set_option autoImplicit false

namespace Colloquy.Text

/-- How many octets follow the first octet of a character, and the bounds of the next one.
Surrogates are no characters, but may be admitted as such. -/
def utf8Lead (surrogates : Bool) (b : Nat) : Option (Nat × Nat × Nat) :=
  if 0xC2 ≤ b ∧ b ≤ 0xDF then some (1, 0x80, 0xBF)
  else if b = 0xE0 then some (2, 0xA0, 0xBF)
  else if b = 0xED then some (2, 0x80, if surrogates then 0xBF else 0x9F)
  else if 0xE1 ≤ b ∧ b ≤ 0xEF then some (2, 0x80, 0xBF)
  else if b = 0xF0 then some (3, 0x90, 0xBF)
  else if 0xF1 ≤ b ∧ b ≤ 0xF3 then some (3, 0x80, 0xBF)
  else if b = 0xF4 then some (3, 0x80, 0x8F)
  else none

def replacement : Char := '\uFFFD'

/-- Pairs of surrogates joined; a surrogate that stands alone has no character and is replaced. -/
def joinSurrogates : List Nat → List Char
  | [] => []
  | [u] => [if 0xD800 ≤ u ∧ u < 0xE000 then replacement else Char.ofNat u]
  | u :: v :: rest =>
    if 0xD800 ≤ u ∧ u < 0xDC00 ∧ 0xDC00 ≤ v ∧ v < 0xE000 then
      Char.ofNat (0x10000 + (u - 0xD800) * 0x400 + (v - 0xDC00)) :: joinSurrogates rest
    else
      (if 0xD800 ≤ u ∧ u < 0xE000 then replacement else Char.ofNat u) :: joinSurrogates (v :: rest)

/-- A character under way: its value so far, the octets owed, the bounds of the next. -/
structure Utf8Partial where
  value : Nat
  owed : Nat
  low : Nat := 0x80
  high : Nat := 0xBF
deriving Repr, DecidableEq

/-- The code points read, the last first, how many of them stand for malformed octets, and the
character under way. -/
structure Utf8State where
  surrogates : Bool := false
  codes : List Nat := []
  malformed : Nat := 0
  current : Option Utf8Partial := none
deriving Repr, DecidableEq

namespace Utf8State

def emit (s : Utf8State) (code : Nat) : Utf8State :=
  { s with codes := code :: s.codes, current := none }

def spoil (s : Utf8State) : Utf8State :=
  { s with
    codes := replacement.toNat :: s.codes
    malformed := s.malformed + 1
    current := none }

def pushFirst (s : Utf8State) (b : Nat) : Utf8State :=
  if b < 0x80 then s.emit b
  else match utf8Lead s.surrogates b with
    | some (owed, low, high) =>
      { s with current := some ⟨b % Nat.pow 2 (6 - owed), owed, low, high⟩ }
    | none => s.spoil

def push (s : Utf8State) (octet : UInt8) : Utf8State :=
  let b := octet.toNat
  match s.current with
  | none => s.pushFirst b
  | some p =>
    if p.low ≤ b ∧ b ≤ p.high then
      let value := p.value * 64 + b % 64
      if p.owed ≤ 1 then s.emit value
      else { s with current := some { value, owed := p.owed - 1 } }
    else s.spoil.pushFirst b

def ofOctets (octets : List UInt8) : Utf8State :=
  octets.foldl push {}

def finish (s : Utf8State) : Utf8State :=
  match s.current with
  | none => s
  | some _ => s.spoil

def text (s : Utf8State) : List Char :=
  joinSurrogates s.codes.reverse

end Utf8State

def utf8Lossy (octets : List UInt8) : List Char :=
  (Utf8State.ofOctets octets).finish.text

def utf8? (surrogates : Bool) (octets : List UInt8) : Option (List Char) :=
  let s := (octets.foldl Utf8State.push { surrogates }).finish
  if s.malformed = 0 then some s.text else none

def units16 (bigEndian : Bool) : List UInt8 → Option (List Nat)
  | [] => some []
  | [_] => none
  | a :: b :: rest =>
    let unit := if bigEndian then a.toNat * 256 + b.toNat else b.toNat * 256 + a.toNat
    (units16 bigEndian rest).map (unit :: ·)

def utf16? (bigEndian : Bool) (octets : List UInt8) : Option (List Char) :=
  (units16 bigEndian octets).map joinSurrogates

def utf32? (bigEndian : Bool) : List UInt8 → Option (List Char)
  | [] => some []
  | a :: b :: c :: d :: rest =>
    let n :=
      if bigEndian then ((a.toNat * 256 + b.toNat) * 256 + c.toNat) * 256 + d.toNat
      else ((d.toNat * 256 + c.toNat) * 256 + b.toNat) * 256 + a.toNat
    if n ≥ 0x110000 then none
    else
      let char := if 0xD800 ≤ n ∧ n < 0xE000 then replacement else Char.ofNat n
      (utf32? bigEndian rest).map (char :: ·)
  | _ => none

/-- The text of octets that hold JSON: a byte-order mark names the encoding, else the places of
zero octets among the first four do, else it is UTF-8. Surrogates pass in all encodings. -/
def jsonText? (octets : List UInt8) : Option (List Char) :=
  match octets with
  | 0x00 :: 0x00 :: 0xFE :: 0xFF :: rest => utf32? true rest
  | 0xFF :: 0xFE :: 0x00 :: 0x00 :: rest => utf32? false rest
  | 0xFE :: 0xFF :: rest => utf16? true rest
  | 0xFF :: 0xFE :: rest => utf16? false rest
  | 0xEF :: 0xBB :: 0xBF :: rest => utf8? true rest
  | a :: b :: c :: d :: _ =>
    if a = 0 then if b = 0 then utf32? true octets else utf16? true octets
    else if b = 0 then
      if c = 0 ∧ d = 0 then utf32? false octets else utf16? false octets
    else utf8? true octets
  | [a, b] =>
    if a = 0 then utf16? true octets
    else if b = 0 then utf16? false octets
    else utf8? true octets
  | _ => utf8? true octets

def isBlankOctet (b : UInt8) : Bool :=
  b == 0x20 || (0x09 ≤ b && b ≤ 0x0D)

def octets (s : String) : List UInt8 :=
  s.toUTF8.toList

end Colloquy.Text

/-! # Punycode

A text in ASCII letters, digits and hyphens: first its ASCII characters, then, for the others from
the lowest up, the distances between the places where they are put in. A distance is written in
digits of base thirty-six whose weights adapt to the distances before.
-/
set_option autoImplicit false

namespace Colloquy.Hostname.Punycode

def digit (n : Nat) : Char :=
  if n < 26 then Char.ofNat (97 + n) else Char.ofNat (22 + n)

def value? (c : Char) : Option Nat :=
  if 'a' ≤ c ∧ c ≤ 'z' then some (c.toNat - 97)
  else if 'A' ≤ c ∧ c ≤ 'Z' then some (c.toNat - 65)
  else if '0' ≤ c ∧ c ≤ '9' then some (c.toNat - 22)
  else none

/-- Digits below this end a number; `place` counts digits from zero. -/
def threshold (bias place : Nat) : Nat :=
  max 1 (min 26 (36 * (place + 1) - bias))

def shrink (delta : Nat) : Nat × Nat :=
  if 455 < delta then
    let (steps, rest) := shrink (delta / 35)
    (steps + 1, rest)
  else (0, delta)

/-- The bias behind a distance, when the text so far has `length` characters. -/
def adapted (delta length : Nat) (isFirst : Bool) : Nat :=
  let delta := if isFirst then delta / 700 else delta / 2
  let (steps, rest) := shrink (delta + delta / length)
  36 * steps + 36 * rest / (rest + 38)

def number (bias place n : Nat) : List Char :=
  let t := threshold bias place
  if n < t then [digit n]
  else digit (t + (n - t) % (36 - t)) :: number bias (place + 1) ((n - t) / (36 - t))
termination_by n
decreasing_by
  have : 1 ≤ threshold bias place := Nat.le_max_left _ _
  have := Nat.div_le_self (n - threshold bias place) (36 - threshold bias place)
  omega

structure Writer where
  written : List Char := []
  delta : Nat := 0
  bias : Nat := 72
  length : Nat
  isFirst : Bool := true

/-- One character of the text, where those of code point `point` are being put in. -/
def Writer.pass (point : Nat) (w : Writer) (c : Char) : Writer :=
  if c.toNat < point then { w with delta := w.delta + 1 }
  else if c.toNat = point then {
    written := w.written ++ number w.bias 0 w.delta
    delta := 0
    bias := adapted w.delta (w.length + 1) w.isFirst
    length := w.length + 1
    isFirst := false }
  else w

/-- Puts in the characters of the code points given, which ascend from `last` on. -/
def Writer.insert (cs : List Char) (last : Nat) (w : Writer) : List Nat → Writer
  | [] => w
  | point :: rest =>
    let w := { w with delta := w.delta + (point - last) * (w.length + 1) }
    let w := cs.foldl (Writer.pass point) w
    Writer.insert cs (point + 1) { w with delta := w.delta + 1 } rest

def encode (cs : List Char) : List Char :=
  let isPlain (c : Char) : Bool := c.toNat < 128
  let plain := cs.filter isPlain
  let points := (((cs.filter fun c => !isPlain c).map Char.toNat).mergeSort).eraseDups
  let mark := if plain.isEmpty then [] else ['-']
  plain ++ mark ++ (Writer.insert cs 128 { length := plain.length } points).written

def readNumber? (bias place weight sum : Nat) : List Char → Option (Nat × List Char)
  | [] => none
  | c :: rest => do
    let d ← value? c
    let t := threshold bias place
    let sum := sum + d * weight
    if d < t then return (sum, rest)
    readNumber? bias (place + 1) (weight * (36 - t)) sum rest

/-- Puts characters into a text, the last of them of code point `point` in front of `position`. -/
def insertAll? (text : List Char) (point position bias : Nat) (isFirst : Bool) :
    Nat → List Char → Option (List Char)
  | _, [] => some text
  | 0, _ => none
  | fuel + 1, digits => do
    let (delta, digits) ← readNumber? bias 0 1 0 digits
    let length := text.length + 1
    let position := position + delta
    let point := point + position / length
    let position := position % length
    if point.isValidChar then
      insertAll? (text.insertIdx position (Char.ofNat point)) point (position + 1)
        (adapted delta length isFirst) false fuel digits
    else none

/-- The text that ASCII characters stand for. The last hyphen ends the characters that stand for
themselves. -/
def decode? (cs : List Char) : Option (List Char) :=
  let digits := (cs.reverse.takeWhile (· ≠ '-')).reverse
  let plain := (cs.take (cs.length - digits.length)).dropLast
  insertAll? plain 128 0 72 true digits.length digits

end Colloquy.Hostname.Punycode

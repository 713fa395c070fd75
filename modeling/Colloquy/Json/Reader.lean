import Colloquy.Binary64
import Colloquy.Json.Writer

/-! # Reading JSON

A number with a point or an exponent is floating-point, any other an integer; the exceptional
numbers have names; of members with one name the last counts, at the place of the first. Every
reader takes the characters still to come and gives back what it leaves. The nesting readers are
bounded by a count that the length of the text always suffices for, and by the room there is for
lists and objects inside each other. An integer of too many digits ends the reading where it
stands, and so does a bracket there is no room for.
-/
set_option autoImplicit false

namespace Colloquy.Json

inductive Flaw where
  | malformed
  | tooLong (digits : Nat)
  | tooDeep (what : String)
deriving DecidableEq, Repr

def isSpace (c : Char) : Bool :=
  c = ' ' || c = '\t' || c = '\n' || c = '\r'

def skipSpace (cs : List Char) : List Char :=
  cs.dropWhile isSpace

def hexUnit? (a b c d : Char) : Option Nat := do
  let high := (← Whole.digitValue? a) * 16 + (← Whole.digitValue? b)
  let low := (← Whole.digitValue? c) * 16 + (← Whole.digitValue? d)
  return high * 256 + low

def isHighSurrogate (u : Nat) : Bool := 0xD800 ≤ u && u < 0xDC00

def isLowSurrogate (u : Nat) : Bool := 0xDC00 ≤ u && u < 0xE000

/-- The character of a code unit that stands alone; a lone surrogate has none and is replaced. -/
def unitChar (u : Nat) : Char :=
  if isHighSurrogate u || isLowSurrogate u then '\uFFFD' else Char.ofNat u

def pairChar (high low : Nat) : Char :=
  Char.ofNat (0x10000 + (high - 0xD800) * 0x400 + (low - 0xDC00))

def simpleEscape? (c : Char) : Option Char :=
  if c = '"' ∨ c = '\\' ∨ c = '/' then some c
  else if c = 'b' then some '\x08'
  else if c = 'f' then some '\x0c'
  else if c = 'n' then some '\n'
  else if c = 'r' then some '\r'
  else if c = 't' then some '\t'
  else none

/-- The rest of a string after its opening quote, with what follows the closing one. -/
def stringTail? : List Char → Option (List Char × List Char)
  | [] => none
  | '"' :: rest => some ([], rest)
  | '\\' :: 'u' :: a :: b :: c :: d :: '\\' :: 'u' :: a' :: b' :: c' :: d' :: rest =>
    match hexUnit? a b c d, hexUnit? a' b' c' d' with
    | some u, some v =>
      if isHighSurrogate u && isLowSurrogate v then
        (stringTail? rest).map fun (s, r) => (pairChar u v :: s, r)
      else
        (stringTail? ('\\' :: 'u' :: a' :: b' :: c' :: d' :: rest)).map
          fun (s, r) => (unitChar u :: s, r)
    | _, _ => none
  | '\\' :: 'u' :: a :: b :: c :: d :: rest =>
    match hexUnit? a b c d with
    | some u => (stringTail? rest).map fun (s, r) => (unitChar u :: s, r)
    | none => none
  | '\\' :: c :: rest =>
    match simpleEscape? c with
    | some e => (stringTail? rest).map fun (s, r) => (e :: s, r)
    | none => none
  | c :: rest =>
    if c.toNat < 0x20 then none
    else (stringTail? rest).map fun (s, r) => (c :: s, r)

def spanDigits (cs : List Char) : List Char × List Char :=
  (cs.takeWhile Char.isDigit, cs.dropWhile Char.isDigit)

/-- A zero in front has no digits behind it. -/
def wholePart : List Char → List Char × List Char
  | '0' :: rest => (['0'], rest)
  | cs => spanDigits cs

def fractionPart : List Char → List Char × List Char
  | '.' :: rest =>
    match spanDigits rest with
    | ([], _) => ([], '.' :: rest)
    | split => split
  | cs => ([], cs)

def exponentPart (cs : List Char) : Option Int × List Char :=
  match cs with
  | e :: rest =>
    if e = 'e' ∨ e = 'E' then
      let (negative, digits) := match rest with
        | '-' :: r => (true, r)
        | '+' :: r => (false, r)
        | r => (false, r)
      match spanDigits digits with
      | ([], _) => (none, cs)
      | (ds, r) =>
        let n : Int := Nat.ofDigitChars 10 ds 0
        (some (if negative then -n else n), r)
    else (none, cs)
  | [] => (none, [])

def integer (negative : Bool) (digits : List Char) : Except Flaw Value :=
  if Whole.maxDigits < digits.length then .error (.tooLong digits.length)
  else
    let n : Int := Nat.ofDigitChars 10 digits 0
    .ok (.int (if negative then -n else n))

def magnitude (negative : Bool) (cs : List Char) : Except Flaw (Value × List Char) :=
  let (whole, afterWhole) := wholePart cs
  if whole.isEmpty then .error .malformed
  else
    let (fraction, afterFraction) := fractionPart afterWhole
    let (exponent, rest) := exponentPart afterFraction
    if fraction.isEmpty && exponent.isNone then (integer negative whole).map fun v => (v, rest)
    else
      let digits := Nat.ofDigitChars 10 (whole ++ fraction) 0
      .ok (.float (Binary64.ofDecimal negative digits (exponent.getD 0 - fraction.length)), rest)

def notANumber : Float := Float.ofBits 0x7FF8000000000000

def number : List Char → Except Flaw (Value × List Char)
  | 'N' :: 'a' :: 'N' :: rest => .ok (.float notANumber, rest)
  | 'I' :: 'n' :: 'f' :: 'i' :: 'n' :: 'i' :: 't' :: 'y' :: rest =>
    .ok (.float (Binary64.infinity false), rest)
  | '-' :: 'I' :: 'n' :: 'f' :: 'i' :: 'n' :: 'i' :: 't' :: 'y' :: rest =>
    .ok (.float (Binary64.infinity true), rest)
  | '-' :: rest => magnitude true rest
  | cs => magnitude false cs

mutual

def value : Nat → Nat → List Char → Except Flaw (Value × List Char)
  | 0, _, _ => .error .malformed
  | fuel + 1, room, cs =>
    match cs with
    | '"' :: rest =>
      match stringTail? rest with
      | none => .error .malformed
      | some (s, r) => .ok (.str (String.ofList s), r)
    | '[' :: rest =>
      match room with
      | 0 => .error (.tooDeep "array")
      | room + 1 =>
        match skipSpace rest with
        | ']' :: r => .ok (.list [], r)
        | r => (items fuel room r).map fun (vs, r) => (.list vs, r)
    | '\x7b' :: rest =>
      match room with
      | 0 => .error (.tooDeep "object")
      | room + 1 =>
        match skipSpace rest with
        | '\x7d' :: r => .ok (.object [], r)
        | r => (members fuel room r).map fun (ms, r) => (.object (Keyed.ofList ms), r)
    | 'n' :: 'u' :: 'l' :: 'l' :: r => .ok (.null, r)
    | 't' :: 'r' :: 'u' :: 'e' :: r => .ok (.bool true, r)
    | 'f' :: 'a' :: 'l' :: 's' :: 'e' :: r => .ok (.bool false, r)
    | _ => number cs

def items : Nat → Nat → List Char → Except Flaw (List Value × List Char)
  | 0, _, _ => .error .malformed
  | fuel + 1, room, cs =>
    match value fuel room cs with
    | .error flaw => .error flaw
    | .ok (v, rest) =>
      match skipSpace rest with
      | ']' :: r => .ok ([v], r)
      | ',' :: r => (items fuel room (skipSpace r)).map fun (vs, r) => (v :: vs, r)
      | _ => .error .malformed

def members : Nat → Nat → List Char → Except Flaw (List (String × Value) × List Char)
  | 0, _, _ => .error .malformed
  | fuel + 1, room, cs =>
    match cs with
    | '"' :: quoted =>
      match stringTail? quoted with
      | none => .error .malformed
      | some (name, rest) =>
        match skipSpace rest with
        | ':' :: r =>
          match value fuel room (skipSpace r) with
          | .error flaw => .error flaw
          | .ok (v, rest) =>
            match skipSpace rest with
            | '\x7d' :: r => .ok ([(String.ofList name, v)], r)
            | ',' :: r =>
              (members fuel room (skipSpace r)).map fun (ms, r) =>
                ((String.ofList name, v) :: ms, r)
            | _ => .error .malformed
        | _ => .error .malformed
    | _ => .error .malformed

end

def readChars (cs : List Char) : Except Flaw Value :=
  match value (2 * cs.length + 2) room (skipSpace cs) with
  | .error flaw => .error flaw
  | .ok (v, rest) => if (skipSpace rest).isEmpty then .ok v else .error .malformed

def read (s : String) : Except Flaw Value :=
  readChars s.toList

end Colloquy.Json

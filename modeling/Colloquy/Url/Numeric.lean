import Colloquy.Decimal.Whole
import Colloquy.Text.Parts

/-! # Numeric hosts

Addresses of four numbers below 256 with points between them, and of eight groups of four
hexadecimal digits with colons between them, where one run of zero groups may be left out.
-/
set_option autoImplicit false

namespace Colloquy.Url

def isDigit (c : Char) : Bool :=
  '0' ≤ c && c ≤ '9'

/-! ## Four numbers -/

/-- Whether a text reads as four runs of digits with any one character between two of them. A run of
`n` digits can be read as up to `(n + 1) / 2` runs, since a digit may be what stands between. -/
def looksLikeIpv4 (cs : List Char) : Bool :=
  let runs := Text.parts '.' (cs.map fun c => if isDigit c then c else '.')
  runs.all (fun run => !run.isEmpty) && runs.length ≤ 4 &&
    4 ≤ runs.foldl (fun n run => n + (run.length + 1) / 2) 0

def isIpv4Number (cs : List Char) : Bool :=
  cs.all isDigit && cs.length ≤ 3 && (cs.head? != some '0' || cs.length == 1) &&
    (Whole.digits? 10 cs).any fun n => n < 256

def isIpv4 (cs : List Char) : Bool :=
  let numbers := Text.parts '.' cs
  numbers.length == 4 && numbers.all isIpv4Number

/-! ## Eight groups -/

def isGroup (cs : List Char) : Bool :=
  !cs.isEmpty && cs.length ≤ 4 && cs.all fun c => (Whole.digitValue? c).isSome

/-- How many groups a run of them has. In the end four numbers may stand for the last two. -/
def groupCount? (isEnd : Bool) : List (List Char) → Option Nat
  | [] => some 0
  | [g] => if isGroup g then some 1 else if isEnd && isIpv4 g then some 2 else none
  | g :: rest => if isGroup g then (groupCount? isEnd rest).map (· + 1) else none

def groups (cs : List Char) : List (List Char) :=
  if cs.isEmpty then [] else Text.parts ':' cs

def cutAtGap : List Char → Option (List Char × List Char)
  | ':' :: ':' :: rest => some ([], rest)
  | c :: rest => (cutAtGap rest).map fun (before, after) => (c :: before, after)
  | [] => none

def isGroups (cs : List Char) : Bool :=
  match cutAtGap cs with
  | none => groupCount? true (groups cs) == some 8
  | some (before, after) =>
    match groupCount? false (groups before), groupCount? true (groups after) with
    | some m, some n => m + n < 8
    | _, _ => false

/-- Groups, perhaps with the name of a zone behind a percent sign. -/
def isIpv6 (cs : List Char) : Bool :=
  match Text.parts '%' cs with
  | [address] => isGroups address
  | [address, zone] => isGroups address && !zone.isEmpty
  | _ => false

end Colloquy.Url

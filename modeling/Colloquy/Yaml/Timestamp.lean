import Colloquy.Calendar

/-! # Timestamps

How dates and times are written: `read?` takes one or two digits for most parts and an hour's
distance from universal time with or without minutes. The look is narrower: a date alone has two
digits for month and day.
-/
set_option autoImplicit false

namespace Colloquy.Yaml.Timestamp

def number? (least most : Nat) (cs : List Char) : Option (Nat × List Char) :=
  let ds := (cs.take most).takeWhile Char.isDigit
  if least ≤ ds.length then some (Nat.ofDigitChars 10 ds 0, cs.drop ds.length) else none

def mark? (c : Char) : List Char → Option (List Char)
  | x :: rest => if x = c then some rest else none
  | [] => none

def date? (width : Nat) (cs : List Char) : Option (Moment × List Char) := do
  let (year, cs) ← number? 4 4 cs
  let (month, cs) ← number? width 2 (← mark? '-' cs)
  let (day, cs) ← number? width 2 (← mark? '-' cs)
  return ({ year, month, day }, cs)

def isGap (c : Char) : Bool := c = ' ' || c = '\t'

def divider? : List Char → Option (List Char)
  | 'T' :: rest | 't' :: rest => some rest
  | c :: rest => if isGap c then some (rest.dropWhile isGap) else none
  | [] => none

def microseconds (ds : List Char) : Nat :=
  Nat.ofDigitChars 10 ((ds ++ List.replicate 6 '0').take 6) 0

def fraction : List Char → Nat × List Char
  | '.' :: rest => (microseconds (rest.takeWhile Char.isDigit), rest.dropWhile Char.isDigit)
  | cs => (0, cs)

def offset? (cs : List Char) : Option (Option Int) :=
  match cs with
  | [] => some none
  | _ => match cs.dropWhile isGap with
    | ['Z'] => some (some 0)
    | '+' :: rest => east? rest
    | '-' :: rest => (east? rest).map fun o => o.map (- ·)
    | _ => none
where
  east? (cs : List Char) : Option (Option Int) := do
    let (hours, cs) ← number? 1 2 cs
    match cs with
    | [] => return some (60 * hours)
    | cs =>
      let (minutes, cs) ← number? 2 2 (← mark? ':' cs)
      if cs.isEmpty then return some (60 * hours + minutes) else none

def clock? (cs : List Char) : Option Clock := do
  let (hour, cs) ← number? 1 2 (← divider? cs)
  let (minute, cs) ← number? 2 2 (← mark? ':' cs)
  let (second, cs) ← number? 2 2 (← mark? ':' cs)
  let (microsecond, cs) := fraction cs
  return { hour, minute, second, microsecond, offset := ← offset? cs }

def read? (cs : List Char) : Option Moment := do
  let (t, cs) ← date? 1 cs
  if cs.isEmpty then return t
  return { t with clock := some (← clock? cs) }

def isLook (cs : List Char) : Bool :=
  match read? cs with
  | some t => t.clock.isSome || (date? 2 cs).isSome
  | none => false

end Colloquy.Yaml.Timestamp

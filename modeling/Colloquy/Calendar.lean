import Colloquy.Decimal.Whole

/-! # Dates and times

A date, alone or with a time of day, which may be tied to universal time by its distance from it.
`flaw?` refuses what no calendar or clock shows. Two times that are tied to universal time are
the same when they name one instant; a time that is tied is never the same as one that is not, and
neither is a date alone.
-/
set_option autoImplicit false

namespace Colloquy

structure Clock where
  hour : Nat
  minute : Nat
  second : Nat
  microsecond : Nat := 0
  offset : Option Int := none
deriving DecidableEq, Repr

structure Moment where
  year : Nat
  month : Nat
  day : Nat
  clock : Option Clock := none
deriving DecidableEq, Repr

namespace Moment

/-! ## Calendar and clock -/

def isLeap (year : Nat) : Bool :=
  year % 4 = 0 && (year % 100 ≠ 0 || year % 400 = 0)

def daysIn (year month : Nat) : Nat :=
  if month = 2 then if isLeap year then 29 else 28
  else if [4, 6, 9, 11].contains month then 30 else 31

def durationText (minutes : Int) : String :=
  let days := Int.fdiv minutes 1440
  let seconds := Int.fmod minutes 1440 * 60
  let parts :=
    (if days ≠ 0 then ["days=" ++ intText days] else []) ++
    (if seconds ≠ 0 then ["seconds=" ++ intText seconds] else [])
  "datetime.timedelta(" ++ (if parts.isEmpty then "0" else String.intercalate ", " parts) ++ ")"

def flaw? (t : Moment) : Option String :=
  let inDate : Option String :=
    if t.year = 0 then some "year 0 is out of range"
    else if t.month = 0 ∨ 12 < t.month then some "month must be in 1..12"
    else if t.day = 0 ∨ daysIn t.year t.month < t.day then some "day is out of range for month"
    else none
  match t.clock with
  | none => inDate
  | some c =>
    let inOffset : Option String := match c.offset with
      | some o =>
        if o.natAbs < 1440 then none
        else some ("offset must be a timedelta strictly between -timedelta(hours=24) and " ++
          "timedelta(hours=24), not " ++ durationText o ++ ".")
      | none => none
    let inClock : Option String :=
      if 23 < c.hour then some "hour must be in 0..23"
      else if 59 < c.minute then some "minute must be in 0..59"
      else if 59 < c.second then some "second must be in 0..59"
      else none
    inOffset <|> inDate <|> inClock

/-! ## Order -/

def dayNumber (t : Moment) : Nat :=
  let before := t.year - 1
  let months := (List.range (t.month - 1)).foldl (fun days m => days + daysIn t.year (m + 1)) 0
  365 * before + before / 4 - before / 100 + before / 400 + months + t.day

/-- Microseconds since the beginning of the calendar, by the clock as it stands. -/
def wallTime (t : Moment) (c : Clock) : Int :=
  (((t.dayNumber * 24 + c.hour) * 60 + c.minute) * 60 + c.second) * 1000000 + c.microsecond

inductive Scale where
  | day (n : Nat)
  | wall (time : Int)
  | universal (time : Int)
deriving DecidableEq, Repr

def scale (t : Moment) : Scale :=
  match t.clock with
  | none => .day t.dayNumber
  | some c =>
    match c.offset with
    | none => .wall (t.wallTime c)
    | some o => .universal (t.wallTime c - o * 60000000)

/-! ## Text and display -/

def padded (width n : Nat) : String :=
  let ds := Nat.toDigits 10 n
  String.ofList (List.replicate (width - ds.length) '0' ++ ds)

def dateText (t : Moment) : String :=
  padded 4 t.year ++ "-" ++ padded 2 t.month ++ "-" ++ padded 2 t.day

def offsetText (minutes : Int) : String :=
  (if minutes < 0 then "-" else "+") ++ padded 2 (minutes.natAbs / 60) ++ ":" ++
    padded 2 (minutes.natAbs % 60)

def clockText (c : Clock) : String :=
  padded 2 c.hour ++ ":" ++ padded 2 c.minute ++ ":" ++ padded 2 c.second ++
    (if c.microsecond = 0 then "" else "." ++ padded 6 c.microsecond) ++ c.offset.elim "" offsetText

def text (t : Moment) : String :=
  t.dateText ++ t.clock.elim "" fun c => " " ++ clockText c

def zoneText (minutes : Int) : String :=
  if minutes = 0 then "datetime.timezone.utc"
  else "datetime.timezone(" ++ durationText minutes ++ ")"

def kind (t : Moment) : String :=
  if t.clock.isSome then "datetime.datetime" else "datetime.date"

/-- Seconds are left out of a display where they and what follows are zero. -/
def display (t : Moment) : String :=
  let date := [t.year, t.month, t.day]
  let (parts, zone) := match t.clock with
    | none => (date, [])
    | some c =>
      let fine :=
        if c.microsecond ≠ 0 then [c.second, c.microsecond]
        else if c.second ≠ 0 then [c.second]
        else []
      (date ++ [c.hour, c.minute] ++ fine, c.offset.toList.map fun o => "tzinfo=" ++ zoneText o)
  t.kind ++ "(" ++ String.intercalate ", " (parts.map toString ++ zone) ++ ")"

end Moment
end Colloquy

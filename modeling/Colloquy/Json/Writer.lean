import Colloquy.Value.Display

/-! # Writing JSON

One writer for the three forms of JSON in use: spaced and ASCII only, spaced, and compact. `write`
has a text for every value; `dump` gives it only where nothing in the value stands in the way, which
`obstacle?` finds in writing order.
-/
set_option autoImplicit false

namespace Colloquy.Json

/-- How deep lists and objects may be nested in a text: what the stack leaves where texts are read
and written. Nothing that is said about texts depends on the number. -/
def room : Nat := 970

structure Style where
  itemSeparator : List Char
  nameSeparator : List Char
  ascii : Bool
  /-- Numbers that are not finite are refused. -/
  strict : Bool
  /-- What JSON has no form for is shown as a text. -/
  shows : Bool
deriving Repr

def Style.spacedAscii : Style := ⟨[',', ' '], [':', ' '], true, false, false⟩

def Style.spaced : Style := ⟨[',', ' '], [':', ' '], false, false, true⟩

def Style.compact : Style := ⟨[','], [':'], false, true, false⟩

def unicodeEscape (unit : Nat) : List Char :=
  '\\' :: 'u' :: Text.hexDigits 4 unit

/-- The escape of a code point: one unit, or the two surrogates of a supplementary one. -/
def escapedPoint (n : Nat) : List Char :=
  if n < 0x10000 then unicodeEscape n
  else
    unicodeEscape (0xD800 + (n - 0x10000) / 0x400) ++
      unicodeEscape (0xDC00 + (n - 0x10000) % 0x400)

def escapedChar (ascii : Bool) (c : Char) : List Char :=
  if c = '"' ∨ c = '\\' then ['\\', c]
  else if c = '\n' then ['\\', 'n']
  else if c = '\r' then ['\\', 'r']
  else if c = '\t' then ['\\', 't']
  else if c = '\x08' then ['\\', 'b']
  else if c = '\x0c' then ['\\', 'f']
  else if c.toNat < 0x20 ∨ (ascii ∧ 0x7F ≤ c.toNat) then escapedPoint c.toNat
  else [c]

def stringChars (ascii : Bool) (s : String) : List Char :=
  '"' :: (s.toList.flatMap (escapedChar ascii) ++ ['"'])

def floatChars (x : Float) : List Char :=
  Decimal.Layout.json.chars x

def keyText : Value → String
  | .null => "null"
  | .bool b => if b then "true" else "false"
  | .float x => String.ofList (floatChars x)
  | v => v.text

def joined (separator : List Char) : List (List Char) → List Char
  | [] => []
  | [part] => part
  | part :: rest => part ++ separator ++ joined separator rest

mutual

def chars (style : Style) : Value → List Char
  | .null => ['n', 'u', 'l', 'l']
  | .bool true => ['t', 'r', 'u', 'e']
  | .bool false => ['f', 'a', 'l', 's', 'e']
  | .int n => intChars n
  | .float x => floatChars x
  | .str s => stringChars style.ascii s
  | .list items => '[' :: (joined style.itemSeparator (itemParts style items) ++ [']'])
  | .object members =>
    '\x7b' :: (joined style.itemSeparator (memberParts style members) ++ ['\x7d'])
  | .table entries =>
    '\x7b' :: (joined style.itemSeparator (entryParts style entries) ++ ['\x7d'])
  | .set items => stringChars style.ascii (Value.text (.set items))
  | .pair a b => '[' :: (chars style a ++ style.itemSeparator ++ chars style b ++ [']'])
  | .atom a => stringChars style.ascii a.text
termination_by structural v => v

def itemParts (style : Style) : List Value → List (List Char)
  | [] => []
  | v :: rest => chars style v :: itemParts style rest
termination_by structural vs => vs

def memberParts (style : Style) : List (String × Value) → List (List Char)
  | [] => []
  | (k, v) :: rest =>
    (stringChars style.ascii k ++ style.nameSeparator ++ chars style v) :: memberParts style rest
termination_by structural ms => ms

def entryParts (style : Style) : List (Value × Value) → List (List Char)
  | [] => []
  | (k, v) :: rest =>
    (stringChars style.ascii (keyText k) ++ style.nameSeparator ++ chars style v) ::
      entryParts style rest
termination_by structural es => es

end

def write (style : Style) (v : Value) : String :=
  String.ofList (chars style v)

inductive Obstacle where
  | notFinite
  | notWritable (kind : String)
  | notKey (kind : String)
  | circular
  | tooLong
  | tooDeep
deriving DecidableEq, Repr

def floatObstacle? (style : Style) (x : Float) : Option Obstacle :=
  if style.strict && !x.isFinite then some .notFinite else none

def intObstacle? (n : Int) : Option Obstacle :=
  if Whole.fits n then none else some .tooLong

def shownObstacle? (style : Style) (kind : String) : Option Obstacle :=
  if style.shows then none else some (.notWritable (Value.shortKind kind))

def keyObstacle? (style : Style) : Value → Option Obstacle
  | .int n => intObstacle? n
  | .float x => floatObstacle? style x
  | .pair a b => some (.notKey (Value.pair a b).kind)
  | .atom a => some (.notKey a.kind)
  | _ => none

def insideObstacle? (inside : Nat → Option Obstacle) : Nat → Option Obstacle
  | 0 => some .tooDeep
  | room + 1 => inside room

mutual

/-- The first thing, in writing order, that keeps a value from being written with so much room. -/
def obstacle? (style : Style) (room : Nat) : Value → Option Obstacle
  | .int n => intObstacle? n
  | .float x => floatObstacle? style x
  | .set _ => shownObstacle? style "set"
  | .pair a b =>
    insideObstacle? (fun room => (obstacle? style room a).or (obstacle? style room b)) room
  | .atom (.again _) => insideObstacle? (fun _ => some .circular) room
  | .atom a => shownObstacle? style a.kind
  | .list items => insideObstacle? (fun room => itemsObstacle? style room items) room
  | .object members => insideObstacle? (fun room => membersObstacle? style room members) room
  | .table entries => insideObstacle? (fun room => entriesObstacle? style room entries) room
  | _ => none
termination_by structural v => v

def itemsObstacle? (style : Style) (room : Nat) : List Value → Option Obstacle
  | [] => none
  | v :: rest => (obstacle? style room v).or (itemsObstacle? style room rest)
termination_by structural vs => vs

def membersObstacle? (style : Style) (room : Nat) : List (String × Value) → Option Obstacle
  | [] => none
  | (_, v) :: rest => (obstacle? style room v).or (membersObstacle? style room rest)
termination_by structural ms => ms

def entriesObstacle? (style : Style) (room : Nat) : List (Value × Value) → Option Obstacle
  | [] => none
  | (k, v) :: rest =>
    ((keyObstacle? style k).or (obstacle? style room v)).or (entriesObstacle? style room rest)
termination_by structural es => es

end

def dump (style : Style) (v : Value) : Except Obstacle String :=
  match obstacle? style room v with
  | some o => .error o
  | none => .ok (write style v)

end Colloquy.Json

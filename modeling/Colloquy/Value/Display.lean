import Colloquy.Value
import Colloquy.Decimal.Shortest
import Colloquy.Text.Quoted

/-! # Values inside messages

The display of a value quotes its texts; its text is the display, except that a text stands for
itself.
-/
set_option autoImplicit false

namespace Colloquy

def floatText (x : Float) : String :=
  String.ofList (Decimal.Layout.plain.chars x)

namespace Atom

def octetChars (quote : Char) (b : UInt8) : List Char :=
  let n := b.toNat
  if 0x20 ≤ n && n < 0x7F then Text.escapeIn quote (Char.ofNat n)
  else if n = 0x0A then ['\\', 'n']
  else if n = 0x0D then ['\\', 'r']
  else if n = 0x09 then ['\\', 't']
  else '\\' :: 'x' :: Text.hexDigits 2 n

def octetsDisplay (bytes : List UInt8) : String :=
  let quote := Text.quoteMark (bytes.map fun b => Char.ofNat b.toNat)
  String.ofList ('b' :: quote :: (bytes.flatMap (octetChars quote) ++ [quote]))

def display : Atom → String
  | moment t => t.display
  | octets bytes => octetsDisplay bytes
  | again isList => if isList then "[...]" else "\x7b...\x7d"
  | sealed _ text => text

def text : Atom → String
  | moment t => t.text
  | a => a.display

end Atom

namespace Value

mutual

def display : Value → String
  | null => "None"
  | bool b => if b then "True" else "False"
  | int n => intText n
  | float x => floatText x
  | str s => Text.quoted s
  | list items => "[" ++ String.intercalate ", " (displayItems items) ++ "]"
  | object members => "\x7b" ++ String.intercalate ", " (displayMembers members) ++ "\x7d"
  | table entries => "\x7b" ++ String.intercalate ", " (displayEntries entries) ++ "\x7d"
  | set [] => "set()"
  | set items => "\x7b" ++ String.intercalate ", " (displayItems items) ++ "\x7d"
  | pair a b => "(" ++ a.display ++ ", " ++ b.display ++ ")"
  | atom a => a.display
termination_by structural v => v

def displayItems : List Value → List String
  | [] => []
  | v :: rest => v.display :: displayItems rest
termination_by structural vs => vs

def displayMembers : List (String × Value) → List String
  | [] => []
  | (k, v) :: rest => (Text.quoted k ++ ": " ++ v.display) :: displayMembers rest
termination_by structural ms => ms

def displayEntries : List (Value × Value) → List String
  | [] => []
  | (k, v) :: rest => (k.display ++ ": " ++ v.display) :: displayEntries rest
termination_by structural es => es

end

def text : Value → String
  | str s => s
  | atom a => a.text
  | v => v.display

end Value
end Colloquy

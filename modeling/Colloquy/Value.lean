import Colloquy.Calendar
import Colloquy.Keyed

/-! # Dynamic values

Messages, options and configuration files carry data whose shape the other side decides.
`Value` is that data: JSON with integers kept apart from floating-point numbers, and what else a
configuration file can hold: mappings with keys that are not text, sets, pairs, and atoms that JSON
has no form for. Objects keep the order in which their members were first seen.
-/
set_option autoImplicit false

namespace Colloquy

inductive Atom where
  | moment (t : Moment)
  | octets (bytes : List UInt8)
  | again (isList : Bool)
  | sealed (kind text : String)
deriving Repr

inductive Value where
  | null
  | bool (b : Bool)
  | int (n : Int)
  | float (x : Float)
  | str (s : String)
  | list (items : List Value)
  /-- An object: a mapping whose keys are all text. -/
  | object (members : List (String × Value))
  /-- A mapping with at least one key that is not text. -/
  | table (entries : List (Value × Value))
  | set (items : List Value)
  | pair (first second : Value)
  | atom (a : Atom)
deriving Inhabited

abbrev Members := Keyed String Value

namespace Members

def present (ms : Members) : Members :=
  ms.filter fun p => match p.2 with
    | .null => false
    | _ => true

end Members

namespace Atom

def truthy : Atom → Bool
  | octets bytes => !bytes.isEmpty
  | _ => true

def kind : Atom → String
  | moment t => t.kind
  | octets _ => "bytes"
  | again isList => if isList then "list" else "dict"
  | sealed k _ => k

end Atom

namespace Value

def isNull : Value → Bool
  | null => true
  | _ => false

theorem eq_null_of_isNull {v : Value} (h : v.isNull = true) : v = .null := by
  cases v <;> first | rfl | cases h

/-- `null`, `false`, zero and everything empty count as absent. -/
def truthy : Value → Bool
  | null => false
  | bool b => b
  | int n => n != 0
  | float x => !(x == 0.0)
  | str s => s != ""
  | list items => !items.isEmpty
  | object members => !members.isEmpty
  | table entries => !entries.isEmpty
  | set items => !items.isEmpty
  | pair .. => true
  | atom a => a.truthy

def isZero : Value → Bool
  | bool b => !b
  | int n => n == 0
  | float x => x == 0.0
  | _ => false

/-- The value itself where it counts as present, else `other`. -/
def orElse (v other : Value) : Value :=
  if v.truthy then v else other

def toOption : Value → Option Value
  | null => none
  | v => some v

def ofOption : Option Value → Value
  | none => null
  | some v => v

def kind : Value → String
  | null => "NoneType"
  | bool _ => "bool"
  | int _ => "int"
  | float _ => "float"
  | str _ => "str"
  | list _ => "list"
  | object _ | table _ => "dict"
  | set _ => "set"
  | pair .. => "tuple"
  | atom a => a.kind

/-- A kind without the names in front of its last point. -/
def shortKind (kind : String) : String :=
  String.ofList (kind.toList.reverse.takeWhile (· ≠ '.')).reverse

end Value
end Colloquy

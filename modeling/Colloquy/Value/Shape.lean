import Colloquy.Fault
import Colloquy.Key

/-! # Reading values of uncertain shape

Access to a member is granted to mappings only, and iteration to collections, texts and octets; on
every other value the fault names its kind.
-/
set_option autoImplicit false

namespace Colloquy

namespace Value

def underText? (name : String) : List (Value × Value) → Option Value
  | [] => none
  | (.str k, v) :: rest => if k = name then some v else underText? name rest
  | _ :: rest => underText? name rest

def member? (v : Value) (name : String) : Except Fault (Option Value) :=
  match v with
  | object ms => .ok (Keyed.get? name ms)
  | table es => .ok (underText? name es)
  | v => .error (.noAttribute v.kind "get")

def memberD (v : Value) (name : String) (default : Value) : Except Fault Value :=
  return (← v.member? name).getD default

def member (v : Value) (name : String) : Except Fault Value :=
  v.memberD name null

/-- What iteration over a value gives: items, characters, octets, or keys. -/
def elements : Value → Except Fault (List Value)
  | list items => .ok items
  | str s => .ok (s.toList.map fun c => str (String.ofList [c]))
  | object ms => .ok (ms.map fun p => str p.1)
  | table es => .ok (es.map Prod.fst)
  | set items => .ok items
  | pair a b => .ok [a, b]
  | atom (.octets bytes) => .ok (bytes.map fun b => int b.toNat)
  | v => .error (.notIterable v.kind)

/-- The texts among values that must all be texts, counted from `position`. -/
def texts (position : Nat) : List Value → Except Fault (List String)
  | [] => .ok []
  | .str s :: rest => do return s :: (← texts (position + 1) rest)
  | v :: _ => .error (.notText position v.kind)

end Value

namespace Name

def ofValue (v : Value) : Except Fault Name :=
  match ofValue? v with
  | some n => .ok n
  | none => .error (.notKey v.notKeyKind)

def setOf (v : Value) : Except Fault (List Name) := do
  return distinct (← (← v.elements).mapM ofValue)

end Name
end Colloquy

import Colloquy.Binary64
import Colloquy.Value

/-! # Keys

What a value counts as when it serves as a key of a mapping or as a member of a set. Numbers of
equal value are one key, whatever their kind, and the exceptional number is one key with itself;
times are one key when they name one instant. Collections that can change are no keys at all.
-/
set_option autoImplicit false

namespace Colloquy

inductive Key where
  | null
  | text (s : String)
  | whole (n : Int)
  /-- `± m * 2 ^ q`, which is not whole. -/
  | fraction (negative : Bool) (m : Nat) (q : Int)
  | infinite (negative : Bool)
  | exceptional
  | octets (bytes : List UInt8)
  | moment (scale : Moment.Scale)
  | sealed (kind text : String)
  | pair (first second : Key)
deriving DecidableEq, Repr

namespace Key

/-- The key of `± m * 2 ^ q`: whole where the number is. -/
def ofScaled (negative : Bool) (m : Nat) (q : Int) : Key :=
  let unit := Nat.pow 2 (-q).toNat
  if m % unit = 0 then
    let n : Int := m / unit * Int.pow 2 q.toNat
    .whole (if negative then -n else n)
  else .fraction negative m q

def ofFloat (x : Float) : Key :=
  match Binary64.ofFloat x with
  | .nan => .exceptional
  | .infinite negative => .infinite negative
  | .finite negative m q => ofScaled negative m q

end Key

def Atom.key? : Atom → Option Key
  | moment t => some (.moment t.scale)
  | octets bytes => some (.octets bytes)
  | sealed kind text => some (.sealed kind text)
  | again _ => none

def Value.key? : Value → Option Key
  | null => some .null
  | bool b => some (.whole (if b then 1 else 0))
  | int n => some (.whole n)
  | float x => some (.ofFloat x)
  | str s => some (.text s)
  | pair a b => do return .pair (← a.key?) (← b.key?)
  | atom a => a.key?
  | list _ | object _ | table _ | set _ => none
termination_by structural v => v

def Value.notKeyKind : Value → String
  | pair a b => if a.key?.isSome then b.notKeyKind else a.notKeyKind
  | v => v.kind
termination_by structural v => v

/-- A value that can serve as a key, with the key it is. -/
structure Name where
  shown : Value
  key : Key
  isKey : shown.key? = some key

namespace Name

def ofText (s : String) : Name := ⟨.str s, .text s, rfl⟩

instance : Inhabited Name := ⟨ofText ""⟩

def ofValue? (v : Value) : Option Name :=
  match h : v.key? with
  | some k => some ⟨v, k, h⟩
  | none => none

def isText (n : Name) : Bool :=
  match n.shown with
  | .str _ => true
  | _ => false

def distinct : List Name → List Name
  | [] => []
  | n :: rest => n :: (distinct rest).filter fun other => other.key ≠ n.key

end Name
end Colloquy

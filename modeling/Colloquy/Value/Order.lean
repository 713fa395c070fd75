import Colloquy.Key
import Colloquy.Value.Display
import Colloquy.Value.Number

/-! # Equality and order of values

Numbers are equal by value, whatever their kind, and the exceptional number equals nothing;
collections are equal when their parts are. Only values of one kind have an order: numbers, texts,
octets, moments, sets by inclusion, and sequences by the first place at which they differ.
-/
set_option autoImplicit false

namespace Colloquy

def Atom.same : Atom → Atom → Bool
  | moment s, moment t => s.scale == t.scale
  | octets xs, octets ys => xs == ys
  | again b, again c => b == c
  | sealed k s, sealed l t => k == l && s == t
  | _, _ => false

def Moment.less (s t : Moment) : Except NumberError Bool :=
  match s.scale, t.scale with
  | .day m, .day n => .ok (m < n)
  | .wall m, .wall n | .universal m, .universal n => .ok (m < n)
  | .day _, _ | _, .day _ => .error .dateAmongTimes
  | _, _ => .error .mixedZones

namespace Value

def entryUnder? (key : Option Key) (es : List (Value × Value)) : Option Value :=
  (es.find? fun e => e.1.key? == key).map Prod.snd

mutual

def same (a b : Value) : Bool :=
  match a with
  | null => b.isNull
  | bool p => b.quantity?.any fun y => Quantity.compare? (.whole (if p then 1 else 0)) y == some .eq
  | int n => b.quantity?.any fun y => Quantity.compare? (.whole n) y == some .eq
  | float x => b.quantity?.any fun y => Quantity.compare? (.real x) y == some .eq
  | str s => match b with
    | str t => s == t
    | _ => false
  | list xs => match b with
    | list ys => sameItems xs ys
    | _ => false
  | object ms => match b with
    | object ns => ms.length == ns.length && sameMembers ms ns
    | _ => false
  | table es => match b with
    | table fs => es.length == fs.length && sameEntries es fs
    | _ => false
  | set xs => match b with
    | set ys => xs.length == ys.length && xs.all fun x => ys.any fun y => x.key? == y.key?
    | _ => false
  | pair x y => match b with
    | pair z w => same x z && same y w
    | _ => false
  | atom x => match b with
    | atom y => x.same y
    | _ => false
termination_by structural a

def sameItems : List Value → List Value → Bool
  | [], ys => ys.isEmpty
  | x :: xs, ys => match ys with
    | [] => false
    | y :: ys => same x y && sameItems xs ys
termination_by structural xs => xs

def sameMembers : List (String × Value) → List (String × Value) → Bool
  | [], _ => true
  | (k, v) :: rest, ns => (match Keyed.get? k ns with
    | some w => same v w
    | none => false) && sameMembers rest ns
termination_by structural ms => ms

def sameEntries : List (Value × Value) → List (Value × Value) → Bool
  | [], _ => true
  | (k, v) :: rest, fs => (match entryUnder? k.key? fs with
    | some w => same v w
    | none => false) && sameEntries rest fs
termination_by structural es => es

end

def isProperSubset (xs ys : List Value) : Bool :=
  decide (xs.length < ys.length) && xs.all fun x => ys.any fun y => x.key? == y.key?

mutual

def less (a b : Value) : Except NumberError Bool :=
  match a with
  | list xs => match b with
    | list ys => lessItems xs ys
    | _ => .error (.unordered a.kind b.kind)
  | pair x y => match b with
    | pair z w => if !same x z then less x z else if !same y w then less y w else .ok false
    | _ => .error (.unordered a.kind b.kind)
  | a => match a.quantity?, b.quantity? with
    | some x, some y => .ok (x.compare? y == some .lt)
    | _, _ => match a, b with
      | str s, str t => .ok (decide (s < t))
      | set xs, set ys => .ok (isProperSubset xs ys)
      | atom (.octets xs), atom (.octets ys) => .ok (decide (xs < ys))
      | atom (.moment s), atom (.moment t) => s.less t
      | _, _ => .error (.unordered a.kind b.kind)
termination_by structural a

/-- Sequences are ordered by their first items that differ; the beginning of a sequence is less
than the whole. -/
def lessItems : List Value → List Value → Except NumberError Bool
  | [], ys => .ok (!ys.isEmpty)
  | x :: xs, ys => match ys with
    | [] => .ok false
    | y :: ys => if same x y then lessItems xs ys else less x y
termination_by structural xs => xs

end

def least (a b : Value) : Except NumberError Value := do
  return if ← less b a then b else a

end Value

namespace Name

def text (n : Name) : String :=
  n.shown.text

def insertOrdered (n : Name) : List Name → Except NumberError (List Name)
  | [] => .ok [n]
  | m :: rest => do
    if ← n.shown.less m.shown then return n :: m :: rest
    return m :: (← insertOrdered n rest)

def ordered (names : List Name) : Except NumberError (List Name) :=
  if names.all isText then .ok (names.mergeSort fun m n => decide (m.text ≤ n.text))
  else names.foldlM (fun sorted n => insertOrdered n sorted) []

end Name
end Colloquy

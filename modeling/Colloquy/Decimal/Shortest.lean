import Colloquy.Binary64
import Colloquy.Decimal.Whole

/-! # Shortest decimals

The text of a floating-point number is the shortest decimal that reads back as the same number,
and of several the nearest. `nearest?` tests one decimal grid in exact arithmetic, `digits` takes
the first of the grids with 1, 2, … 17 digits that has a hit, and `Layout` decides how digits and
exponent are set out.
-/
set_option autoImplicit false

namespace Colloquy.Decimal

structure Scientific where
  coefficient : Nat
  exponent : Int
deriving DecidableEq, Repr

/-- The least `j ≥ start` with `den ≤ num * 10 ^ j`, looked for `fuel` places far. -/
def leadingZeros (num den : Nat) : Nat → Nat → Nat
  | start, 0 => start
  | start, fuel + 1 =>
    if den ≤ num * Nat.pow 10 start then start else leadingZeros num den (start + 1) fuel

/-- The `k` with `10 ^ (k - 1) ≤ num / den < 10 ^ k`, for a positive quotient. -/
def pointPosition (num den : Nat) : Int :=
  if den ≤ num then (Nat.toDigits 10 (num / den)).length
  else 1 - leadingZeros num den 1 400

/-- The point of the grid of multiples of `10 ^ e` nearest to `m * 2 ^ q` among those that read
back as it, if there is one. All quantities are in quarters of the gap `2 ^ q`, so that the
half-way points to the neighbours are whole numbers. -/
def nearest? (m : Nat) (q e : Int) : Option Scientific :=
  let unit (k : Nat) : Nat := k * Nat.pow 2 (q - 2).toNat * Nat.pow 10 (-e).toNat
  let scale : Nat := Nat.pow 2 (2 - q).toNat * Nat.pow 10 e.toNat
  let low := unit (if m = Nat.pow 2 52 ∧ q > Binary64.leastExponent then 4 * m - 1 else 4 * m - 2)
  let high := unit (4 * m + 2)
  let value := unit (4 * m)
  let inside (c : Nat) : Bool :=
    if m % 2 = 0 then low ≤ c * scale && c * scale ≤ high
    else low < c * scale && c * scale < high
  let below := value / scale
  let above := below + 1
  let belowFits := inside below && below != 0
  if belowFits && inside above then
    let down := value - below * scale
    let up := above * scale - value
    if down < up ∨ (down = up ∧ below % 2 = 0) then some ⟨below, e⟩ else some ⟨above, e⟩
  else if belowFits then some ⟨below, e⟩
  else if inside above then some ⟨above, e⟩
  else none

def Scientific.reduced (d : Scientific) : Scientific :=
  if d.coefficient = 10 then ⟨1, d.exponent + 1⟩ else d

def digits (m : Nat) (q : Int) : Scientific :=
  let k := pointPosition (m * Nat.pow 2 q.toNat) (Nat.pow 2 (-q).toNat)
  match (List.range 17).findSome? fun (n : Nat) => nearest? m q (k - 1 - (n : Int)) with
  | some d => d.reduced
  | none => ⟨m, q⟩

structure Layout where
  /-- The least decimal exponent written with a point and no exponent. -/
  leastPositional : Int
  /-- The least decimal exponent above that which is written with one. -/
  leastScientific : Int
  nan : String
  infinity : String
deriving Repr

/-- Numbers are written positionally from `10 ^ -4` up to below `10 ^ 16`, always with a point; else
with a signed exponent of at least two digits. -/
def Layout.plain : Layout := ⟨-4, 16, "nan", "inf"⟩

/-- The numbers of JSON texts, where the exceptional ones have names of their own. -/
def Layout.json : Layout := ⟨-4, 16, "NaN", "Infinity"⟩

def exponentChars (e : Int) : List Char :=
  let ds := Nat.toDigits 10 e.natAbs
  'e' :: (if e < 0 then '-' else '+') :: (if ds.length < 2 then '0' :: ds else ds)

def Layout.place (layout : Layout) (ds : List Char) (lead : Int) : List Char :=
  if lead < layout.leastPositional ∨ layout.leastScientific ≤ lead then
    match ds with
    | [] => []
    | d :: rest =>
      d :: ((if rest.isEmpty then [] else '.' :: rest) ++ exponentChars lead)
  else if lead < 0 then
    '0' :: '.' :: (List.replicate (-lead - 1).toNat '0' ++ ds)
  else
    let whole := lead.toNat + 1
    let padded := ds ++ List.replicate (whole - ds.length) '0'
    let fraction := padded.drop whole
    padded.take whole ++ '.' :: (if fraction.isEmpty then ['0'] else fraction)

def Layout.chars (layout : Layout) (x : Float) : List Char :=
  match Binary64.ofFloat x with
  | .nan => layout.nan.toList
  | .infinite negative => sign negative ++ layout.infinity.toList
  | .finite negative m q =>
    if m = 0 then sign negative ++ ['0', '.', '0']
    else
      let d := digits m q
      let ds := Nat.toDigits 10 d.coefficient
      sign negative ++ layout.place ds (d.exponent + ds.length - 1)

end Colloquy.Decimal

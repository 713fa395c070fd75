import Colloquy.Decimal.Whole
import Colloquy.Text.Parts
import Colloquy.Yaml.Timestamp

/-! # Tags

What says how a node is to be understood. A tag is written out, or follows from the look of a plain
scalar: truth values in several spellings, integers in four bases and in base sixty, numbers with a
point, timestamps, nothing at all, or text.
-/
set_option autoImplicit false

namespace Colloquy.Yaml

inductive Tag where
  | text
  | null
  | bool
  | int
  | float
  | timestamp
  | binary
  | sequence
  | mapping
  | set
  /-- A sequence of mappings with one pair each. -/
  | pairs
  /-- As a key: what stands under it is merged into the mapping. -/
  | merge
  /-- As a key: what stands under it is what the mapping has for a text. -/
  | value
  | unknown
deriving DecidableEq, Repr

namespace Tag

def isScalar : Tag → Bool
  | text | null | bool | int | float | timestamp | binary => true
  | _ => false

def names : List (String × Tag) := [
  ("str", text), ("null", null), ("bool", bool), ("int", int), ("float", float),
  ("timestamp", timestamp), ("binary", binary), ("seq", sequence), ("map", mapping), ("set", set),
  ("omap", pairs), ("pairs", pairs), ("merge", merge), ("value", value)]

def ofUri (uri : String) : Tag :=
  ((names.find? fun p => "tag:yaml.org,2002:" ++ p.1 = uri).map Prod.snd).getD unknown

/-! ## The look of plain scalars -/

def nullSpellings : List String := ["", "~", "null", "Null", "NULL"]

def truthSpellings : List String := [
  "yes", "Yes", "YES", "no", "No", "NO", "true", "True", "TRUE", "false", "False", "FALSE",
  "on", "On", "ON", "off", "Off", "OFF"]

def isRun (isDigit : Char → Bool) (cs : List Char) : Bool :=
  !cs.isEmpty && cs.all fun c => isDigit c || c = '_'

def isSixtieth (cs : List Char) : Bool :=
  match cs with
  | [d] => d.isDigit
  | [d, e] => '0' ≤ d && d ≤ '5' && e.isDigit
  | _ => false

def areSixtieths (cs : List Char) : Bool :=
  match Text.parts ':' cs with
  | first :: second :: rest =>
    first.head?.any Char.isDigit && isRun Char.isDigit first && (second :: rest).all isSixtieth
  | _ => false

def isNatural (cs : List Char) : Bool :=
  match cs with
  | ['0'] => true
  | '0' :: 'b' :: ds => isRun (fun c => c = '0' || c = '1') ds
  | '0' :: 'x' :: ds => isRun (fun c => (Whole.digitValue? c).isSome) ds
  | '0' :: ds => isRun (fun c => '0' ≤ c && c ≤ '7') ds
  | c :: _ => c.isDigit && (isRun Char.isDigit cs || areSixtieths cs)
  | [] => false

def isExponent (cs : List Char) : Bool :=
  match cs with
  | [] => true
  | e :: s :: ds =>
    (e = 'e' || e = 'E') && (s = '+' || s = '-') && !ds.isEmpty && ds.all Char.isDigit
  | _ => false

/-- Digits with a point. In front of the point they may be missing where there is no sign. -/
def isPointed (signed : Bool) (cs : List Char) : Bool :=
  let isPart (c : Char) : Bool := c.isDigit || c = '_'
  let whole := cs.takeWhile isPart
  match cs.dropWhile isPart with
  | '.' :: rest =>
    let fraction := rest.takeWhile isPart
    let startsWell :=
      if whole.isEmpty then !signed && fraction.head?.any Char.isDigit
      else whole.head?.any Char.isDigit
    startsWell && isExponent (rest.dropWhile isPart)
  | _ => false

def isPointedSixtieths (cs : List Char) : Bool :=
  match cs.dropWhile (· ≠ '.') with
  | '.' :: rest =>
    areSixtieths (cs.takeWhile (· ≠ '.')) && rest.all fun c => c.isDigit || c = '_'
  | _ => false

def isReal (cs : List Char) : Bool :=
  let (_, body) := Decimal.dropSign cs
  let signed := body.length < cs.length
  let name := String.ofList body
  [".inf", ".Inf", ".INF"].contains name || (!signed && [".nan", ".NaN", ".NAN"].contains name) ||
    isPointed signed body || isPointedSixtieths body

def withoutLastBreak (cs : List Char) : List Char :=
  if cs.getLast? == some '\n' then cs.dropLast else cs

/-- The tag of a plain scalar. A line feed at its end does not change its look, unless nothing else
is there. -/
def ofLook (s : String) : Tag :=
  let cs := withoutLastBreak s.toList
  let shown := String.ofList cs
  if s = "\n" then text
  else if nullSpellings.contains shown then null
  else if truthSpellings.contains shown then bool
  else if isNatural (Decimal.dropSign cs).2 then int
  else if isReal cs then float
  else if Timestamp.isLook cs then timestamp
  else if shown = "<<" then merge
  else if shown = "=" then value
  else if ["!", "&", "*"].contains shown then unknown
  else text

end Tag
end Colloquy.Yaml

import Colloquy.Decimal.Reader
import Colloquy.Fault
import Colloquy.Text.Base64
import Colloquy.Text.Lower
import Colloquy.Yaml.ScalarText
import Colloquy.Yaml.Tag

/-! # Scalars as values

A scalar's text read as its tag asks. A tag that is written out may stand at any text, so every
reader says what it finds wrong with a text that does not have the look of its tag.
-/
set_option autoImplicit false

namespace Colloquy.Yaml.Scalar

def withoutUnderscores (s : String) : List Char :=
  s.toList.filter (· ≠ '_')

def whole (base : Nat) (cs : List Char) : Except Fault Int :=
  if Whole.isLong base cs then .error (.unreadable (.tooLong (Whole.digitCount base cs)))
  else
    match Whole.read? base cs with
    | some n => .ok n
    | none => .error (.badInteger base (String.ofList cs))

/-- An integer without its sign: a zero in front gives the base, colons divide powers of sixty. -/
def unsigned (cs : List Char) : Except Fault Int :=
  match cs with
  | [] => .error .emptyText
  | ['0'] => .ok 0
  | '0' :: 'b' :: ds => whole 2 ds
  | '0' :: 'x' :: ds => whole 16 ds
  | '0' :: _ => whole 8 cs
  | _ =>
    if cs.contains ':' then do
      let parts ← (Text.parts ':' cs).mapM (whole 10)
      return parts.foldl (fun n part => n * 60 + part) 0
    else whole 10 cs

def integer (s : String) : Except Fault Int :=
  let cs := withoutUnderscores s
  let (negative, digits) := Decimal.dropSign cs
  if cs.isEmpty then .error .emptyText
  else (unsigned digits).map fun n => if negative then -n else n

def real (cs : List Char) : Except Fault Float :=
  match Decimal.read? cs with
  | some x => .ok x
  | none => .error (.badDecimal (String.ofList cs))

def sixtiethsSum (parts : List Float) : Except Fault Float := do
  let step : Float × Int → Float → Except Fault (Float × Int) := fun (sum, unit) part => do
    return (sum + part * (← NumberError.lift (Value.toFloat unit)), unit * 60)
  return (← parts.reverse.foldlM step (0.0, 1)).1

def magnitude (cs : List Char) : Except Fault Float :=
  if cs = ".inf".toList then .ok (Binary64.infinity false)
  else if cs = ".nan".toList then .ok (Float.ofBits 0x7FF8000000000000)
  else if cs.contains ':' then do sixtiethsSum (← (Text.parts ':' cs).mapM real)
  else real cs

def decimal (s : String) : Except Fault Float :=
  let cs := (Text.lower (String.ofList (withoutUnderscores s))).toList
  let (negative, digits) := Decimal.dropSign cs
  if cs.isEmpty then .error .emptyText
  else (magnitude digits).map fun x => if negative then -x else x

def truths : List (String × Bool) := [
  ("yes", true), ("no", false), ("true", true), ("false", false), ("on", true), ("off", false)]

def truth (s : String) : Except Fault Bool :=
  let small := Text.lower s
  match Keyed.get? small truths with
  | some b => .ok b
  | none => .error (.missingKey (.str small))

def moment (s : String) : Except Fault Moment :=
  match Timestamp.read? (Tag.withoutLastBreak s.toList) with
  | none => .error (.noAttribute "NoneType" "groupdict")
  | some t => match t.flaw? with
    | some flaw => .error (.badMoment flaw)
    | none => .ok t

def octets (s : String) : Except Fault (List UInt8) :=
  if s.toList.all fun c => c.toNat < 128 then
    match Text.Base64.decode? s.toList with
    | some bytes => .ok bytes
    | none => malformed
  else malformed

def read (tag : Tag) (s : String) : Except Fault Value :=
  match tag with
  | .text => .ok (.str s)
  | .null => .ok .null
  | .bool => .bool <$> truth s
  | .int => .int <$> integer s
  | .float => .float <$> decimal s
  | .timestamp => (fun t => .atom (.moment t)) <$> moment s
  | .binary => (fun bytes => .atom (.octets bytes)) <$> octets s
  | _ => malformed

end Colloquy.Yaml.Scalar

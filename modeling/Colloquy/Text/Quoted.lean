import Colloquy.Text.Graphic

/-! # Quoted text

The display of a text inside messages: in single quotes, or in double quotes when it holds single
quotes only, with everything that is not graphic escaped.
-/
set_option autoImplicit false

namespace Colloquy.Text

def hexDigit (n : Nat) : Char :=
  Nat.digitChar (n % 16)

def hexDigits : Nat → Nat → List Char
  | 0, _ => []
  | width + 1, n => hexDigits width (n / 16) ++ [hexDigit n]

def quoteMark (cs : List Char) : Char :=
  if cs.contains '\'' && !cs.contains '"' then '"' else '\''

def escapeIn (quote c : Char) : List Char :=
  if c = quote ∨ c = '\\' then ['\\', c]
  else if c = '\n' then ['\\', 'n']
  else if c = '\r' then ['\\', 'r']
  else if c = '\t' then ['\\', 't']
  else if isGraphic c then [c]
  else if c.toNat < 0x100 then '\\' :: 'x' :: hexDigits 2 c.toNat
  else if c.toNat < 0x10000 then '\\' :: 'u' :: hexDigits 4 c.toNat
  else '\\' :: 'U' :: hexDigits 8 c.toNat

def quotedChars (cs : List Char) : List Char :=
  let quote := quoteMark cs
  quote :: (cs.flatMap (escapeIn quote) ++ [quote])

def quoted (s : String) : String :=
  String.ofList (quotedChars s.toList)

end Colloquy.Text

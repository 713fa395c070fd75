import Colloquy.Hostname.Label
import Colloquy.Text.Parts

/-! # Host names

Labels with points between them, and perhaps one at the end. Three other characters serve as points.
-/
set_option autoImplicit false

namespace Colloquy.Hostname

def plainPoint (c : Char) : Char :=
  if c = '\u3002' ∨ c = '\uff0e' ∨ c = '\uff61' then '.' else c

/-- The ASCII form of a name in small letters, if all its labels have one. It is not shorter than
the name, so a name that is too long has none. -/
def ascii? (cs : List Char) : Option (List Char) := do
  let labels := Text.parts '.' (cs.map plainPoint)
  let isEnded := labels.getLast? == some []
  let limit := if isEnded then 254 else 253
  if limit < cs.length then none
  let forms ← (if isEnded then labels.dropLast else labels).mapM labelAscii?
  let name := List.intercalate ['.'] (if isEnded then forms ++ [[]] else forms)
  if limit < name.length then none else some name

end Colloquy.Hostname

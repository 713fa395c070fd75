import Colloquy.Hostname
import Colloquy.Text.Lower
import Colloquy.Url.Escape
import Colloquy.Url.Flaw
import Colloquy.Url.Numeric

/-! # Hosts

The form in which a URL holds its host: an address of four numbers as it is, an address of groups
without its brackets, a name in ASCII with small letters, any other name as its ASCII form.
-/
set_option autoImplicit false

namespace Colloquy.Url

def bracketed? (cs : List Char) : Option (List Char) :=
  match cs with
  | '[' :: rest => if rest.getLast? == some ']' then some rest.dropLast else none
  | _ => none

def normalHost (cs : List Char) : Except Flaw (List Char) :=
  let shown := String.ofList cs
  if cs.isEmpty then .ok []
  else if looksLikeIpv4 cs then if isIpv4 cs then .ok cs else .error (.badIpv4 shown)
  else match bracketed? cs with
    | some address => if isIpv6 address then .ok address else .error (.badIpv6 shown)
    | none =>
      if cs.all fun c => c.toNat < 128 then .ok (escape .host (cs.map Char.toLower))
      else match Hostname.ascii? (Text.lower shown).toList with
        | some name => .ok name
        | none => .error (.badName shown)

def shownHost (cs : List Char) : List Char :=
  if cs.contains ':' then '[' :: (cs ++ [']']) else cs

end Colloquy.Url

import Colloquy.Fault
import Colloquy.Text.Base64
import Colloquy.Url

/-! # Endpoints

Where requests go and what they are signed with. An address is read when the endpoint is made. What
else is wrong with it shows only when a request is made, sent or answered, so these checks stand
apart.
-/
set_option autoImplicit false

namespace Colloquy

structure Endpoint where
  target : Except Url.Flaw Url
  signature : String

namespace Endpoint

def path : String := "/v1/text/chatcompletion_v2"

def defaultBase : String := "https://api.minimax.chat"

def contentType : String := "application/json"

def withoutSlashes (s : String) : String :=
  String.ofList (s.toList.reverse.dropWhile fun c => c = '/').reverse

def isAscii (s : String) : Bool :=
  s.toList.all fun c => c.toNat < 128

def targetUnder (base : Url) : Except Url.Flaw Url :=
  base.withPlace (base.place ++ path.toList.tail)

/-- The endpoint under a base address, for a key that must not be empty. Headers are ASCII. -/
def make (key base : Value) : Except Fault Endpoint := do
  if !key.truthy then throw .emptyApiKey
  match base with
  | .str address =>
    match (Url.ofText (withoutSlashes address)).bind Url.asDirectory with
    | .error flaw => throw (.badAddress flaw)
    | .ok base =>
      let signature := "Bearer " ++ key.text
      if !isAscii signature then throw .headerNotAscii
      return { target := targetUnder base, signature }
  | .atom (.octets _) => throw (.notOctets "str")
  | v => throw (.noAttribute v.kind "rstrip")

/-! ## What a request shows -/

def url (e : Endpoint) : String :=
  match e.target with
  | .ok u => u.text
  | .error _ => ""

def credentials? (u : Url) : Option (List UInt8) :=
  let (name, password) := Url.cutAt ':' u.userinfo
  let name := Url.unescape name
  let password := Url.unescape (password.getD [])
  if name.isEmpty && password.isEmpty then none
  else some (Text.octets (String.ofList (name ++ ':' :: password)))

/-- Credentials in the address take the place of the key. -/
def authorization (e : Endpoint) : String :=
  match e.target.toOption.bind credentials? with
  | some octets => "Basic " ++ String.ofList (Text.Base64.encode octets)
  | none => e.signature

/-! ## What may keep an exchange from coming about -/

def checkAddress (e : Endpoint) : Except Fault Unit :=
  match e.target with
  | .ok _ => .ok ()
  | .error flaw => .error (.badAddress flaw)

def checkHost (e : Endpoint) : Except Fault Unit :=
  match e.target with
  | .ok u => if isAscii (String.ofList u.host) then .ok () else .error .headerNotAscii
  | .error flaw => .error (.badAddress flaw)

def hasScheme (cs : List Char) : Bool :=
  match cs.span fun c => c ≠ ':' && c ≠ '/' with
  | (_ :: _, ':' :: _) => true
  | _ => false

/-- An answer is taken only from an address with a scheme. A fragment is not looked at. -/
def checkOrigin (e : Endpoint) : Except Fault Unit :=
  match e.target with
  | .ok u =>
    let (address, fragment) := match Url.cutAtLast '#' u.chars with
      | (some address, fragment) => (address, fragment)
      | (none, address) => (address, [])
    if hasScheme address then .ok ()
    else
      let shown := if fragment.isEmpty then address else address ++ '#' :: fragment
      .error (.unknownAddress (String.ofList shown))
  | .error flaw => .error (.badAddress flaw)

end Endpoint
end Colloquy

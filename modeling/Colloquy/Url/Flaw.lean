import Colloquy.Text.Quoted

/-! # Flaws of URLs

What can be wrong with a text that is to be a URL, and how it is said.
-/
set_option autoImplicit false

namespace Colloquy

namespace Url

inductive Part where
  | scheme
  | authority
  | path
  | query
  | fragment
deriving DecidableEq, Repr

def Part.name : Part → String
  | scheme => "scheme"
  | authority => "authority"
  | path => "path"
  | query => "query"
  | fragment => "fragment"

inductive Flaw where
  | tooLong
  | partTooLong (part : Part)
  | unprintable (c : Char) (position : Nat)
  | badPort (text : String)
  | badIpv4 (host : String)
  | badIpv6 (host : String)
  | badName (host : String)
  | unrooted
  /-- A path that would be taken for an authority. -/
  | likeAuthority
  /-- A path that would be taken for a scheme. -/
  | likeScheme
deriving DecidableEq, Repr

namespace Flaw

def message : Flaw → String
  | tooLong => "URL too long"
  | partTooLong part => "URL component '" ++ part.name ++ "' too long"
  | unprintable c position =>
    "Invalid non-printable ASCII character in URL, " ++ Text.quoted (String.singleton c) ++
      " at position " ++ toString position ++ "."
  | badPort text => "Invalid port: " ++ Text.quoted text
  | badIpv4 host => "Invalid IPv4 address: " ++ Text.quoted host
  | badIpv6 host => "Invalid IPv6 address: " ++ Text.quoted host
  | badName host => "Invalid IDNA hostname: " ++ Text.quoted host
  | unrooted => "For absolute URLs, path must be empty or begin with '/'"
  | likeAuthority => "Relative URLs cannot have a path starting with '//'"
  | likeScheme => "Relative URLs cannot have a path starting with ':'"

end Flaw
end Url
end Colloquy

import Colloquy.Decimal.Whole
import Colloquy.Text.Quoted
import Colloquy.Text.Utf8

/-! # Escapes in URLs

An octet is escaped as a percent sign and two hexadecimal digits. Each part of a URL has characters
that it does not show as they are; everything outside visible ASCII is escaped in all of them. A
percent sign is never escaped, so what is escaped already stays as it is.
-/
set_option autoImplicit false

namespace Colloquy.Url

structure Escaped where
  marks : String

namespace Escaped

def query : Escaped := ⟨"\"#<>"⟩

def path : Escaped := ⟨query.marks ++ "?`\x7b\x7d"⟩

def userinfo : Escaped := ⟨path.marks ++ "/;=@[\\]^|"⟩

def fragment : Escaped := ⟨"\"<>`"⟩

def host : Escaped := ⟨"#/:<>?@[]^"⟩

end Escaped

def escapeOctet (b : UInt8) : List Char :=
  '%' :: (Text.hexDigits 2 b.toNat).map Char.toUpper

def isVisible (c : Char) : Bool :=
  '!' ≤ c && c ≤ '~'

def escapeChar (escaped : Escaped) (c : Char) : List Char :=
  if isVisible c && !escaped.marks.toList.contains c then [c]
  else (Text.octets (String.singleton c)).flatMap escapeOctet

def escape (escaped : Escaped) (cs : List Char) : List Char :=
  cs.flatMap (escapeChar escaped)

/-- The octets of a text with its escapes undone. A percent sign without two digits behind it stands
for itself. -/
def unescapedOctets : List Char → List UInt8
  | '%' :: a :: b :: rest =>
    match Whole.digitValue? a, Whole.digitValue? b with
    | some m, some n => (m * 16 + n).toUInt8 :: unescapedOctets rest
    | _, _ => '%'.toUInt8 :: unescapedOctets (a :: b :: rest)
  | c :: rest => Text.octets (String.singleton c) ++ unescapedOctets rest
  | [] => []

def unescape (cs : List Char) : List Char :=
  Text.utf8Lossy (unescapedOctets cs)

end Colloquy.Url

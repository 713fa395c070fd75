import Colloquy.Hostname.Composition
import Colloquy.Hostname.Punycode

/-! # Labels

What a label of a host name may be: composed letters, digits, marks and hyphens, with a few further
characters where their neighbours call for them, and written in one direction. In ASCII a label with
other characters is the prefix `xn--` and its Punycode.
-/
set_option autoImplicit false

namespace Colloquy.Hostname

/-! ## Characters with conditions -/

def joinsOn (sides : List Joining) (cs : List Char) : Bool :=
  (cs.find? fun c => !isNonspacing c).any fun c => (joining? c).any fun j => sides.contains j

def isArabicDigit (c : Char) : Bool :=
  '\u0660' ≤ c && c ≤ '\u0669'

def isPersianDigit (c : Char) : Bool :=
  '\u06f0' ≤ c && c ≤ '\u06f9'

/-- Whether a character that is no letter may stand between those `before` it, the nearest first,
and those `after` it. -/
def fitsBetween (before : List Char) (c : Char) (after : List Char) : Bool :=
  let followsVirama := before.head?.any fun b => orderClass b = viramaClass
  let others := before ++ after
  if c = '\u200c' then
    followsVirama || (joinsOn [.left, .dual] before && joinsOn [.right, .dual] after)
  else if c = '\u200d' then followsVirama
  else if c = '\u00b7' then before.head? == some 'l' && after.head? == some 'l'
  else if c = '\u0375' then after.head?.any fun a => Text.inRanges greekRanges a.toNat
  else if c = '\u05f3' ∨ c = '\u05f4' then
    before.head?.any fun b => Text.inRanges hebrewRanges b.toNat
  else if c = '\u30fb' then others.any fun o => Text.inRanges japaneseRanges o.toNat
  else if isArabicDigit c then !others.any isPersianDigit
  else isPersianDigit c && !others.any isArabicDigit

def allFit (before : List Char) : List Char → Bool
  | [] => true
  | c :: after => (isLetter c || fitsBetween before c after) && allFit (c :: before) after

/-! ## Direction -/

/-- A label with characters written from the right begins with one, holds none written from the
left, has digits of one kind, and ends, but for marks, with a letter or digit. -/
def isDirected (cs : List Char) : Bool :=
  let ds := cs.map direction
  if !ds.any fun d => d = .right || d = .arabicNumber then true
  else
    ds.head? == some .right && !ds.contains .left &&
      !(ds.contains .number && ds.contains .arabicNumber) &&
      ((ds.reverse.find? (· ≠ .mark)).any fun d => d ≠ .neutral)

/-! ## Labels -/

def hyphensFit (cs : List Char) : Bool :=
  cs.head? != some '-' && cs.getLast? != some '-' && (cs.drop 2).take 2 != ['-', '-']

def isLabel (cs : List Char) : Bool :=
  !cs.isEmpty && !cs.head?.any isMark && hyphensFit cs && allFit [] cs && isComposed cs &&
    isDirected cs

def isAsciiLabel (cs : List Char) : Bool :=
  match cs with
  | 'x' :: 'n' :: '-' :: '-' :: rest =>
    !rest.isEmpty && rest.getLast? != some '-' && (Punycode.decode? rest).any isLabel
  | _ => isLabel cs

def isAscii (cs : List Char) : Bool :=
  cs.all fun c => c.toNat < 128

def labelAscii? (cs : List Char) : Option (List Char) :=
  let form? :=
    if isAscii cs then if isAsciiLabel cs then some cs else none
    else if isLabel cs then some ("xn--".toList ++ Punycode.encode cs)
    else none
  form?.filter fun form => form.length ≤ 63

end Colloquy.Hostname

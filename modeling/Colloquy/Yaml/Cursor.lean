/-! # A place in a YAML text

The characters still to come, with the line and column they begin at. Columns count characters,
except that a byte-order mark has no width.
-/
set_option autoImplicit false

namespace Colloquy.Yaml

def isBreak (c : Char) : Bool :=
  c = '\n' || c = '\r' || c = '\x85' || c = '\u2028' || c = '\u2029'

def atBreak : Option Char → Bool
  | none => true
  | some c => isBreak c

def atSpace (c : Option Char) : Bool :=
  c == some ' ' || atBreak c

def atBlank (c : Option Char) : Bool :=
  c == some '\t' || atSpace c

def isWordChar (c : Char) : Bool :=
  ('0' ≤ c && c ≤ '9') || ('A' ≤ c && c ≤ 'Z') || ('a' ≤ c && c ≤ 'z') || c = '-' || c = '_'

structure Cursor where
  rest : List Char
  index : Nat := 0
  line : Nat := 0
  column : Nat := 0
deriving Repr

namespace Cursor

def peek (c : Cursor) : Option Char := c.rest.head?

def peekAt (c : Cursor) (k : Nat) : Option Char := c.rest[k]?

def next (c : Cursor) : Cursor :=
  match c.rest with
  | [] => c
  | x :: rest =>
    if isBreak x then
      if x = '\r' && rest.head? == some '\n' then
        { c with rest := rest, index := c.index + 1, column := c.column + 1 }
      else ⟨rest, c.index + 1, c.line + 1, 0⟩
    else
      { c with
        rest := rest, index := c.index + 1
        column := if x = '\uFEFF' then c.column else c.column + 1 }

def skip : Nat → Cursor → Cursor
  | 0, c => c
  | n + 1, c => skip n c.next

def span (p : Char → Bool) (c : Cursor) : List Char × Cursor :=
  let taken := c.rest.takeWhile p
  (taken, c.skip taken.length)

def skipWhile (p : Char → Bool) (c : Cursor) : Cursor :=
  (c.span p).2

def lineBreak? (c : Cursor) : Option (Char × Cursor) :=
  match c.rest with
  | '\r' :: '\n' :: _ => some ('\n', c.skip 2)
  | x :: _ =>
    if x = '\u2028' ∨ x = '\u2029' then some (x, c.next)
    else if isBreak x then some ('\n', c.next)
    else none
  | [] => none

/-- Three of the same mark and then a blank: the beginning or end of a document. -/
def atMarker (mark : Char) (c : Cursor) : Bool :=
  match c.rest with
  | x :: y :: z :: rest => x = mark && y = mark && z = mark && atBlank rest.head?
  | _ => false

def atSeparator (c : Cursor) : Bool :=
  c.atMarker '-' || c.atMarker '.'

def finishLine? (c : Cursor) : Option Cursor :=
  let c := c.skipWhile (· = ' ')
  let c := if c.peek == some '#' then c.skipWhile fun x => !isBreak x else c
  if atBreak c.peek then some ((c.lineBreak?.map Prod.snd).getD c) else none

end Cursor
end Colloquy.Yaml

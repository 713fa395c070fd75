/-! # Lines of a stream

Text that arrives in pieces is cut at every line boundary of Unicode. A carriage return may be the
first half of a boundary, so a line that ends in one is complete only when the next character is
known, or the text is.
-/
set_option autoImplicit false

namespace Colloquy.Text

def isLineBreak (c : Char) : Bool :=
  let n := c.toNat
  n == 0x0A || n == 0x0B || n == 0x0C || (0x1C ≤ n && n ≤ 0x1E) || n == 0x85 || n == 0x2028 ||
    n == 0x2029

structure LineFeed where
  /-- The complete lines, the last first. -/
  lines : List (List Char) := []
  pending : List Char := []
  /-- The line under way is followed by a carriage return. -/
  afterReturn : Bool := false
deriving Repr, DecidableEq

namespace LineFeed

def finishLine (f : LineFeed) : LineFeed :=
  ⟨f.pending.reverse :: f.lines, [], false⟩

def pushPlain (f : LineFeed) (c : Char) : LineFeed :=
  if isLineBreak c then f.finishLine
  else if c = '\r' then { f with afterReturn := true }
  else { f with pending := c :: f.pending }

def push (f : LineFeed) (c : Char) : LineFeed :=
  if f.afterReturn then
    if c = '\n' then f.finishLine else f.finishLine.pushPlain c
  else f.pushPlain c

def ofText (cs : List Char) : LineFeed :=
  cs.foldl push {}

def complete (f : LineFeed) : List String :=
  (f.lines.map String.ofList).reverse

def all (f : LineFeed) : List String :=
  if f.pending.isEmpty && !f.afterReturn then f.complete else f.finishLine.complete

end LineFeed

end Colloquy.Text

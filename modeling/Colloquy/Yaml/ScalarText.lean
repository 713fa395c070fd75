import Colloquy.Fault
import Colloquy.Json.Reader
import Colloquy.Yaml.Cursor

/-! # The text of YAML scalars

The four styles of scalars and how each folds its lines. Loops are bounded by the number of
characters still to come; every turn takes at least one.
-/
set_option autoImplicit false

namespace Colloquy.Yaml

/-- A scalar's text, the place behind it, and whether a line ended inside it. -/
structure ScalarText where
  text : List Char
  cursor : Cursor
  brokeLine : Bool := false

def malformed {α : Type} : Except Fault α :=
  .error .malformedYaml

namespace ScalarText

/-! ## Quoted scalars -/

/-- Line breaks, each with the blanks in front of it. A document may not end here. -/
def quotedBreaks : Nat → Cursor → Except Fault (List Char × Cursor)
  | 0, _ => malformed
  | fuel + 1, c =>
    if c.atSeparator then malformed
    else
      let c := c.skipWhile fun x => x = ' ' || x = '\t'
      match c.lineBreak? with
      | none => .ok ([], c)
      | some (b, c) => (quotedBreaks fuel c).map fun (bs, c) => (b :: bs, c)

def folded (first : Char) (more : List Char) : List Char :=
  if first ≠ '\n' then first :: more
  else if more.isEmpty then [' ']
  else more

def quotedSpaces (fuel : Nat) (c : Cursor) : Except Fault (List Char × Cursor) :=
  let (spaces, c) := c.span fun x => x = ' ' || x = '\t'
  if c.rest.isEmpty then malformed
  else match c.lineBreak? with
    | none => .ok (spaces, c)
    | some (b, c) => (quotedBreaks fuel c).map fun (bs, c) => (folded b bs, c)

def simpleEscape? (c : Char) : Option Char :=
  match c with
  | '0' => some '\x00'
  | 'a' => some '\x07'
  | 'b' => some '\x08'
  | 't' | '\t' => some '\t'
  | 'n' => some '\n'
  | 'v' => some '\x0b'
  | 'f' => some '\x0c'
  | 'r' => some '\r'
  | 'e' => some '\x1b'
  | ' ' | '"' | '\\' | '/' => some c
  | 'N' => some '\x85'
  | '_' => some '\xa0'
  | 'L' => some '\u2028'
  | 'P' => some '\u2029'
  | _ => none

def escapeWidth? (c : Char) : Option Nat :=
  if c = 'x' then some 2 else if c = 'u' then some 4 else if c = 'U' then some 8 else none

def pointChar (n : Nat) : Except Fault Char :=
  if n < 0x110000 then .ok (Json.unitChar n)
  else if n < 0x80000000 then .error .badCodePoint
  else .error (.number .overflow)

def hexNumber? (width : Nat) (cs : List Char) : Option Nat := do
  let digits ← (cs.take width).mapM Whole.digitValue?
  if digits.length = width then some (digits.foldl (fun n d => n * 16 + d) 0) else none

def lowSurrogate? (cs : List Char) : Option Nat :=
  match cs with
  | '\\' :: 'u' :: rest => (hexNumber? 4 rest).filter Json.isLowSurrogate
  | _ => none

/-- The character that `width` hexadecimal digits name. Two surrogates name one. -/
def hexEscape (width : Nat) (c : Cursor) : Except Fault (Char × Cursor) :=
  match hexNumber? width c.rest with
  | none => malformed
  | some n =>
    let c := c.skip width
    match if Json.isHighSurrogate n then lowSurrogate? c.rest else none with
    | some low => .ok (Json.pairChar n low, c.skip 6)
    | none => (pointChar n).map fun x => (x, c)

def escape (fuel : Nat) (c : Cursor) : Except Fault (List Char × Cursor) :=
  match c.peek with
  | none => malformed
  | some x =>
    match simpleEscape? x, escapeWidth? x with
    | some e, _ => .ok ([e], c.next)
    | none, some width => (hexEscape width c.next).map fun (e, c) => ([e], c)
    | none, none =>
      match c.lineBreak? with
      | some (_, c) => quotedBreaks fuel c
      | none => malformed

def quotedTail (double : Bool) : Nat → Cursor → Except Fault (List Char × Cursor)
  | 0, _ => malformed
  | fuel + 1, c =>
    let continued (part : List Char) (c : Cursor) : Except Fault (List Char × Cursor) :=
      (quotedTail double fuel c).map fun (more, c) => (part ++ more, c)
    match c.rest with
    | [] => malformed
    | '\'' :: '\'' :: _ =>
      if double then continued ['\''] c.next else continued ['\''] (c.skip 2)
    | '\'' :: _ => if double then continued ['\''] c.next else .ok ([], c.next)
    | '"' :: _ => if double then .ok ([], c.next) else continued ['"'] c.next
    | '\\' :: _ =>
      if double then (escape fuel c.next).bind fun (part, c) => continued part c
      else continued ['\\'] c.next
    | x :: _ =>
      if x = ' ' || x = '\t' || isBreak x then
        (quotedSpaces fuel c).bind fun (part, c) => continued part c
      else continued [x] c.next

def quoted (double : Bool) (c : Cursor) : Except Fault ScalarText :=
  (quotedTail double (c.rest.length + 1) c.next).map fun (text, cursor) => { text, cursor }

/-! ## Plain scalars -/

def isFlowMark (c : Char) : Bool :=
  c = ',' || c = '[' || c = ']' || c = '\x7b' || c = '\x7d'

def endsPlain (inFlow : Bool) (x : Char) (y : Option Char) : Bool :=
  atBlank (some x) || (x = ':' && (atBlank y || (inFlow && y.any isFlowMark))) ||
    (inFlow && (x = '?' || isFlowMark x))

def plainRun (inFlow : Bool) : List Char → List Char
  | [] => []
  | x :: rest => if endsPlain inFlow x rest.head? then [] else x :: plainRun inFlow rest

/-- Line breaks and spaces between the lines of a plain scalar; none where a document ends. -/
def plainBreaks : Nat → Cursor → Option (List Char) × Cursor
  | 0, c => (some [], c)
  | fuel + 1, c =>
    let c := c.skipWhile (· = ' ')
    match c.lineBreak? with
    | none => (some [], c)
    | some (b, c) =>
      if c.atSeparator then (none, c)
      else
        let (more, c) := plainBreaks fuel c
        (more.map (b :: ·), c)

/-- White space inside a plain scalar: what it stands for, and whether it broke the line. Nothing
means that the scalar ends. -/
def plainSpaces (fuel : Nat) (c : Cursor) : List Char × Cursor × Bool :=
  let (spaces, c) := c.span (· = ' ')
  match c.lineBreak? with
  | none => (spaces, c, false)
  | some (b, c) =>
    if c.atSeparator then ([], c, true)
    else
      let (breaks, c) := plainBreaks fuel c
      (breaks.elim [] (folded b), c, true)

/-- A plain scalar of a block indented by `indent`, with `spaces` before its next run. -/
def plainTail (inFlow : Bool) (indent : Int) : Nat → List Char → Bool → Cursor → ScalarText
  | 0, _, broke, c => ⟨[], c, broke⟩
  | fuel + 1, spaces, broke, c =>
    if c.peek == some '#' then ⟨[], c, broke⟩
    else
      let run := plainRun inFlow c.rest
      if run.isEmpty then ⟨[], c, broke⟩
      else
        let (next, c, broke) := plainSpaces fuel (c.skip run.length)
        if next.isEmpty || c.peek == some '#' || (!inFlow && c.column < indent) then
          ⟨spaces ++ run, c, broke⟩
        else
          let tail := plainTail inFlow indent fuel next broke c
          { tail with text := spaces ++ run ++ tail.text }

def plain (inFlow : Bool) (indent : Int) (c : Cursor) : ScalarText :=
  plainTail inFlow indent (c.rest.length + 1) [] false c

/-! ## Block scalars -/

inductive Chomping where
  | strip
  | clip
  | keep
deriving DecidableEq, Repr

def chomping? (c : Cursor) : Option (Chomping × Cursor) :=
  match c.peek with
  | some '+' => some (.keep, c.next)
  | some '-' => some (.strip, c.next)
  | _ => none

/-- An explicit indentation, which is not zero; no digit at all is no indentation. -/
def increment? (c : Cursor) : Option (Option Nat × Cursor) :=
  match c.peek with
  | some d =>
    if '0' ≤ d ∧ d ≤ '9' then
      if d = '0' then none else some (some (d.toNat - 48), c.next)
    else some (none, c)
  | none => some (none, c)

def blockHead? (c : Cursor) : Option (Chomping × Option Nat × Cursor) := do
  let (chomping, increment, c) ← match chomping? c with
    | some (ch, c) => do
      let (n, c) ← increment? c
      pure (ch, n, c)
    | none => do
      let (n, c) ← increment? c
      match n, chomping? c with
      | some _, some (ch, c) => pure (ch, n, c)
      | _, _ => pure (Chomping.clip, n, c)
  if atSpace c.peek then
    let c ← c.finishLine?
    return (chomping, increment, c)
  else none

def leadingBreaks : Nat → Nat → Cursor → List Char × Nat × Cursor
  | 0, widest, c => ([], widest, c)
  | fuel + 1, widest, c =>
    let c := c.skipWhile (· = ' ')
    let widest := max widest c.column
    match c.lineBreak? with
    | none => ([], widest, c)
    | some (b, c) =>
      let (bs, widest, c) := leadingBreaks fuel widest c
      (b :: bs, widest, c)

def indentTo (indent : Nat) (c : Cursor) : Cursor :=
  let spaces := (c.rest.takeWhile (· = ' ')).length
  c.skip (min spaces (indent - c.column))

def blockBreaks (indent : Nat) : Nat → Cursor → List Char × Cursor
  | 0, c => ([], c)
  | fuel + 1, c =>
    let c := indentTo indent c
    match c.lineBreak? with
    | none => ([], c)
    | some (b, c) =>
      let (bs, c) := blockBreaks indent fuel c
      (b :: bs, c)

def startsBlank (c : Cursor) : Bool :=
  c.peek == some ' ' || c.peek == some '\t'

/-- The lines of a block scalar, `breaks` being the empty lines before the next. -/
def blockLines (fold : Bool) (chomping : Chomping) (indent : Nat) :
    Nat → List Char → Option Char → Cursor → List Char × Cursor
  | 0, _, _, c => ([], c)
  | fuel + 1, breaks, lastBreak, c =>
    if c.column = indent && !c.rest.isEmpty then
      let blankStart := startsBlank c
      let (line, c) := c.span fun x => !isBreak x
      let (lineEnd, c) := match c.lineBreak? with
        | some (b, c) => (some b, c)
        | none => (none, c)
      let (following, c) := blockBreaks indent fuel c
      if c.column = indent && !c.rest.isEmpty then
        let joint :=
          if fold && lineEnd == some '\n' && !blankStart && !startsBlank c then
            if following.isEmpty then [' '] else []
          else lineEnd.toList
        let (more, c) := blockLines fold chomping indent fuel following lineEnd c
        (breaks ++ line ++ joint ++ more, c)
      else (breaks ++ line ++ ending chomping lineEnd following, c)
    else (ending chomping lastBreak breaks, c)
where
  ending (chomping : Chomping) (lineEnd : Option Char) (following : List Char) : List Char :=
    match chomping with
    | .strip => []
    | .clip => lineEnd.toList
    | .keep => lineEnd.toList ++ following

def block? (fold : Bool) (indent : Int) (c : Cursor) : Option ScalarText := do
  let (chomping, increment, c) ← blockHead? c.next
  let fuel := c.rest.length + 1
  let least := max (indent + 1) 1
  let (breaks, width, c) := match increment with
    | none =>
      let (breaks, widest, c) := leadingBreaks fuel 0 c
      (breaks, max least.toNat widest, c)
    | some n =>
      let width := (least + n - 1).toNat
      let (breaks, c) := blockBreaks width fuel c
      (breaks, width, c)
  let (text, cursor) := blockLines fold chomping width fuel breaks none c
  return { text, cursor }

end ScalarText
end Colloquy.Yaml

import Colloquy.Text.Utf8
import Colloquy.Yaml.ScalarText

/-! # YAML tokens

The marks and scalars of a text, with indentation turned into the beginnings and ends of blocks.
Where a mapping begins shows only at the colon behind its first key, so the places where a key may
have begun are kept, one for each depth of brackets, and the tokens for it are put in there.
-/
set_option autoImplicit false

namespace Colloquy.Yaml

/-- A tag as written: its handle, where it has one, and the rest. -/
structure TagName where
  handle : Option String
  suffix : String
deriving DecidableEq, Repr

inductive Directive where
  | version (major : Nat)
  | tag (handle target : String)
  | other
deriving DecidableEq, Repr

inductive Token where
  | directive (d : Directive)
  | documentStart
  | documentEnd
  | blockSequence
  | blockMapping
  | blockEnd
  | flowSequence
  | flowSequenceEnd
  | flowMapping
  | flowMappingEnd
  | entry
  | comma
  | key
  | value
  | alias (name : String)
  | anchor (name : String)
  | tag (name : TagName)
  | scalar (text : String) (isPlain : Bool)
deriving DecidableEq, Repr

structure KeyPlace where
  position : Nat
  isRequired : Bool
  index : Nat
  line : Nat
  column : Nat
deriving Repr

structure Scanner where
  cursor : Cursor
  /-- The tokens read so far, the last first, and their number. -/
  tokens : List Token := []
  count : Nat := 0
  depth : Nat := 0
  /-- The column of the block under way, and those of the blocks around it. -/
  indent : Int := -1
  indents : List Int := []
  allowsKey : Bool := true
  keys : List (Nat × KeyPlace) := []

namespace Scanner

def emit (s : Scanner) (t : Token) : Scanner :=
  { s with tokens := t :: s.tokens, count := s.count + 1 }

def move (s : Scanner) (c : Cursor) : Scanner := { s with cursor := c }

def take (s : Scanner) (n : Nat) (t : Token) : Scanner :=
  (s.move (s.cursor.skip n)).emit t

def keyPlace? (s : Scanner) : Option KeyPlace :=
  (s.keys.find? fun p => p.1 = s.depth).map Prod.snd

def dropKeyPlace (s : Scanner) : Scanner :=
  { s with keys := s.keys.filter fun p => p.1 ≠ s.depth }

/-- Gives up the place of a key at this depth, unless a key is required there. -/
def forgetKey (s : Scanner) : Except Fault Scanner :=
  match s.keyPlace? with
  | some k => if k.isRequired then malformed else .ok s.dropKeyPlace
  | none => .ok s

def rememberKey (s : Scanner) : Except Fault Scanner :=
  if s.allowsKey then do
    let s ← s.forgetKey
    let c := s.cursor
    let place : KeyPlace := {
      position := s.count
      isRequired := s.depth = 0 && s.indent == c.column
      index := c.index, line := c.line, column := c.column }
    return { s with keys := (s.depth, place) :: s.keys }
  else .ok s

/-- A key ends on the line it begins on, and within 1024 characters. -/
def dropStale (s : Scanner) : Except Fault Scanner :=
  let isStale (k : KeyPlace) : Bool :=
    k.line ≠ s.cursor.line || s.cursor.index - k.index > 1024
  if s.keys.any fun p => isStale p.2 && p.2.isRequired then malformed
  else .ok { s with keys := s.keys.filter fun p => !isStale p.2 }

def unwind (column : Int) (s : Scanner) : Scanner :=
  if s.depth ≠ 0 then s
  else
    let ended := s.indents.length
    go column ended s
where
  go (column : Int) : Nat → Scanner → Scanner
    | 0, s => s
    | n + 1, s =>
      if s.indent > column then
        let outer := { s with indent := s.indents.headD (-1), indents := s.indents.tail }
        go column n (outer.emit .blockEnd)
      else s

/-- Begins a block at `column`, where it is indented by more than the one under way. -/
def indentTo (column : Int) (s : Scanner) : Bool × Scanner :=
  if s.indent < column then
    (true, { s with indents := s.indent :: s.indents, indent := column })
  else (false, s)

/-- Begins a block here with the token `t`, unless it is under way; not inside brackets. -/
def openBlock (t : Token) (s : Scanner) : Except Fault Scanner :=
  if s.depth ≠ 0 then .ok s
  else if s.allowsKey then
    let (opened, s) := s.indentTo s.cursor.column
    .ok (if opened then s.emit t else s)
  else malformed

def insertAt (s : Scanner) (position : Nat) (t : Token) : Scanner :=
  let (later, earlier) := s.tokens.splitAt (s.count - position)
  { s with tokens := later ++ t :: earlier, count := s.count + 1 }

/-- Past blanks, comments and line breaks. A key may begin on a new line, outside brackets. -/
def toNextToken : Nat → Scanner → Scanner
  | 0, s => s
  | fuel + 1, s =>
    let c := s.cursor.skipWhile (· = ' ')
    let c := if c.peek == some '#' then c.skipWhile fun x => !isBreak x else c
    match c.lineBreak? with
    | none => s.move c
    | some (_, c) =>
      toNextToken fuel { s with cursor := c, allowsKey := s.allowsKey || s.depth = 0 }

/-! ## Names -/

def word (c : Cursor) : Except Fault (String × Cursor) :=
  let (w, c) := c.span isWordChar
  if w.isEmpty then malformed else .ok (String.ofList w, c)

def anchorName (c : Cursor) : Except Fault (String × Cursor) := do
  let (name, c) ← word c
  let follows := match c.peek with
    | some x => ['?', ':', ',', ']', '\x7d', '%', '@', '\x60'].contains x
    | none => true
  if atBlank c.peek || follows then return (name, c) else malformed

def isUriChar (c : Char) : Bool :=
  isWordChar c || ";/?:@&=+$,.!~*'()[]%".toList.contains c

def escapedOctets : List Char → Except Fault (List UInt8 × List Char)
  | '%' :: a :: b :: rest =>
    match Whole.digitValue? a, Whole.digitValue? b with
    | some high, some low => do
      let (more, rest) ← escapedOctets rest
      return ((high * 16 + low).toUInt8 :: more, rest)
    | _, _ => malformed
  | '%' :: _ => malformed
  | cs => .ok ([], cs)

/-- The characters of a tag or of what a handle stands for; escapes are UTF-8. -/
def uriChars : Nat → List Char → Except Fault (List Char × List Char)
  | 0, _ => malformed
  | fuel + 1, cs =>
    match cs with
    | '%' :: _ => do
      let (octets, rest) ← escapedOctets cs
      match Text.utf8? false octets with
      | some part =>
        let (more, rest) ← uriChars fuel rest
        return (part ++ more, rest)
      | none => malformed
    | c :: rest =>
      if isUriChar c then do
        let (more, rest) ← uriChars fuel rest
        return (c :: more, rest)
      else .ok ([], cs)
    | [] => .ok ([], [])

def uri (c : Cursor) : Except Fault (String × Cursor) := do
  let (w, rest) ← uriChars (c.rest.length + 1) c.rest
  let taken := c.rest.length - rest.length
  if taken = 0 then malformed else return (String.ofList w, c.skip taken)

def handle (c : Cursor) : Except Fault (String × Cursor) :=
  match c.rest with
  | '!' :: ' ' :: _ => .ok ("!", c.next)
  | '!' :: rest =>
    let w := rest.takeWhile isWordChar
    if rest[w.length]? == some '!' then
      .ok (String.ofList ('!' :: (w ++ ['!'])), c.skip (w.length + 2))
    else malformed
  | _ => malformed

def tag (c : Cursor) : Except Fault (TagName × Cursor) := do
  let (name, c) ←
    if c.peekAt 1 == some '<' then do
      let (suffix, c) ← uri (c.skip 2)
      if c.peek == some '>' then pure (⟨none, suffix⟩, c.next) else malformed
    else if atBlank (c.peekAt 1) then pure (⟨none, "!"⟩, c.next)
    else
      let upTo := (c.rest.drop 1).takeWhile fun x => !atSpace (some x)
      if upTo.contains '!' then do
        let (h, c) ← handle c
        let (suffix, c) ← uri c
        pure (⟨some h, suffix⟩, c)
      else do
        let (suffix, c) ← uri c.next
        pure (⟨some "!", suffix⟩, c)
  if atSpace c.peek then return (name, c) else malformed

def number (c : Cursor) : Except Fault (Nat × Cursor) :=
  let (ds, c) := c.span Char.isDigit
  if ds.isEmpty then malformed else .ok (Nat.ofDigitChars 10 ds 0, c)

def directive (c : Cursor) : Except Fault (Directive × Cursor) := do
  let (name, c) ← word c
  if !atSpace c.peek then malformed
  let spaces (c : Cursor) : Cursor := c.skipWhile (· = ' ')
  let (d, c) ←
    if name = "YAML" then do
      let (major, c) ← number (spaces c)
      if c.peek ≠ some '.' then malformed
      let (_, c) ← number c.next
      if atSpace c.peek then pure (Directive.version major, c) else malformed
    else if name = "TAG" then do
      let (h, c) ← handle (spaces c)
      if c.peek ≠ some ' ' then malformed
      let (target, c) ← uri (spaces c)
      if atSpace c.peek then pure (Directive.tag h target, c) else malformed
    else pure (Directive.other, c.skipWhile fun x => !isBreak x)
  match c.finishLine? with
  | some c => return (d, c)
  | none => malformed

/-! ## Tokens -/

/-- Ends all blocks; a key may not begin behind what follows. -/
def leaveBlocks (s : Scanner) : Except Fault Scanner := do
  let s ← (s.unwind (-1)).forgetKey
  return { s with allowsKey := false }

def openBracket (t : Token) (s : Scanner) : Except Fault Scanner := do
  let s ← s.rememberKey
  return { s with depth := s.depth + 1, allowsKey := true }.take 1 t

def closeBracket (t : Token) (s : Scanner) : Except Fault Scanner := do
  let s ← s.forgetKey
  return { s with depth := s.depth - 1, allowsKey := false }.take 1 t

def readComma (s : Scanner) : Except Fault Scanner := do
  let s ← s.forgetKey
  return { s with allowsKey := true }.take 1 .comma

def readEntry (s : Scanner) : Except Fault Scanner := do
  let s ← s.openBlock .blockSequence
  let s ← s.forgetKey
  return { s with allowsKey := true }.take 1 .entry

def readKey (s : Scanner) : Except Fault Scanner := do
  let s ← s.openBlock .blockMapping
  let s ← s.forgetKey
  return { s with allowsKey := s.depth = 0 }.take 1 .key

/-- A colon makes what begins at the kept place a key; without one, the key is empty. -/
def readValue (s : Scanner) : Except Fault Scanner :=
  match s.keyPlace? with
  | some k =>
    let s := s.dropKeyPlace.insertAt k.position .key
    let s :=
      if s.depth = 0 then
        let (opened, s) := s.indentTo k.column
        if opened then s.insertAt k.position .blockMapping else s
      else s
    .ok ({ s with allowsKey := false }.take 1 .value)
  | none => do
    let s ← s.openBlock .blockMapping
    return { s with allowsKey := s.depth = 0 }.take 1 .value

def readNamed (read : Cursor → Except Fault (Token × Cursor)) (s : Scanner) :
    Except Fault Scanner := do
  let s ← s.rememberKey
  let (t, c) ← read s.cursor
  return ({ s with allowsKey := false }.move c).emit t

def readScalar (isPlain : Bool) (read : Cursor → Except Fault ScalarText) (s : Scanner) :
    Except Fault Scanner := do
  let s ← s.rememberKey
  let scalar ← read s.cursor
  return ({ s with allowsKey := scalar.brokeLine }.move scalar.cursor).emit
    (.scalar (String.ofList scalar.text) isPlain)

def readBlock (fold : Bool) (s : Scanner) : Except Fault Scanner := do
  let s ← s.forgetKey
  match ScalarText.block? fold s.indent s.cursor with
  | some scalar =>
    return ({ s with allowsKey := true }.move scalar.cursor).emit
      (.scalar (String.ofList scalar.text) false)
  | none => malformed

def startsPlain (s : Scanner) : Bool :=
  match s.cursor.rest with
  | [] => false
  | x :: rest =>
    let indicators := "-?:,[]\x7b\x7d#&*!|>'\"%@\x60".toList
    (!atBlank (some x) && !indicators.contains x) ||
      (!atBlank rest.head? && (x = '-' || (s.depth = 0 && (x = '?' || x = ':'))))

/-- The token here. Marks that need a blank behind them are tried first, plain scalars last. -/
def readToken (s : Scanner) : Except Fault Scanner :=
  let c := s.cursor
  let spaced := atBlank (c.peekAt 1)
  let plain (s : Scanner) : Except Fault Scanner :=
    if s.startsPlain then
      s.readScalar true fun c => .ok (ScalarText.plain (s.depth ≠ 0) (s.indent + 1) c)
    else malformed
  match c.peek with
  | none => malformed
  | some x =>
    if x = '%' && c.column = 0 then do
      let s ← s.leaveBlocks
      let (d, c) ← directive c.next
      return (s.move c).emit (.directive d)
    else if c.column = 0 && c.atMarker '-' then do return (← s.leaveBlocks).take 3 .documentStart
    else if c.column = 0 && c.atMarker '.' then do return (← s.leaveBlocks).take 3 .documentEnd
    else match x with
      | '[' => s.openBracket .flowSequence
      | '\x7b' => s.openBracket .flowMapping
      | ']' => s.closeBracket .flowSequenceEnd
      | '\x7d' => s.closeBracket .flowMappingEnd
      | ',' => s.readComma
      | '-' => if spaced then s.readEntry else plain s
      | '?' => if s.depth ≠ 0 || spaced then s.readKey else plain s
      | ':' => if s.depth ≠ 0 || spaced then s.readValue else plain s
      | '*' => s.readNamed fun c => (anchorName c.next).map fun (n, c) => (.alias n, c)
      | '&' => s.readNamed fun c => (anchorName c.next).map fun (n, c) => (.anchor n, c)
      | '!' => s.readNamed fun c => (tag c).map fun (t, c) => (.tag t, c)
      | '|' => if s.depth = 0 then s.readBlock false else malformed
      | '>' => if s.depth = 0 then s.readBlock true else malformed
      | '\'' => s.readScalar false (ScalarText.quoted false)
      | '"' => s.readScalar false (ScalarText.quoted true)
      | _ => plain s

/-- Past blanks to the next token, which is read. At the end of the text all blocks are ended, and
there is nothing more to read. -/
def advance (s : Scanner) : Except Fault (Bool × Scanner) := do
  let s ← (toNextToken (s.cursor.rest.length + 1) s).dropStale
  let s := s.unwind s.cursor.column
  if s.cursor.rest.isEmpty then return (false, ← s.leaveBlocks) else return (true, ← s.readToken)

/-- The tokens whose place is settled: those in front of every place where a key may have begun. -/
def settled (s : Scanner) : List Token :=
  let least := s.keys.foldl (fun n p => min n p.2.position) s.count
  (s.tokens.drop (s.count - least)).reverse

end Scanner

structure TokenStream where
  tokens : List Token
  fault : Option Fault := none

namespace TokenStream

def read : Nat → Scanner → TokenStream
  | 0, s => ⟨s.settled, some .malformedYaml⟩
  | fuel + 1, s =>
    match s.dropStale with
    | .error f => ⟨s.settled, some f⟩
    | .ok s =>
      match s.advance with
      | .error f => ⟨s.settled, some f⟩
      | .ok (isMore, next) => if isMore then read fuel next else ⟨next.tokens.reverse, none⟩

def ofChars (cs : List Char) : TokenStream :=
  let start : Cursor := { rest := cs }
  let start := if start.peek == some '\uFEFF' then start.next else start
  read (cs.length + 1) { cursor := start }

end TokenStream

end Colloquy.Yaml

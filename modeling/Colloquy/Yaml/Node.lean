import Colloquy.Keyed
import Colloquy.Yaml.Tag
import Colloquy.Yaml.Token

/-! # YAML nodes

The graph that a text's tokens stand for. Nodes are numbered in the order in which they begin, and
an alias is the number of the node it names, which may be one of those around it. A text holds at
most one document; where a node is left out, an empty scalar stands in its place. The readers are
bounded by a count that the number of tokens always suffices for.
-/
set_option autoImplicit false

namespace Colloquy.Yaml

/-- The text of a scalar, or the numbers of the nodes in a collection. -/
inductive Form where
  | scalar (text : String)
  | sequence (items : List Nat)
  | mapping (pairs : List (Nat × Nat))
deriving Repr

structure Node where
  tag : Tag
  form : Form
deriving Repr

structure Graph where
  nodes : Array Node
  root : Nat

namespace Graph

structure Source where
  stream : TokenStream
  nodes : Array Node := #[]
  anchors : Keyed String Nat := []

abbrev Reader := StateT Source (Except Fault)

inductive Place where
  | flow
  | block
  /-- In a block mapping, where the entries of a sequence need no indentation. -/
  | blockMember
deriving DecidableEq, Repr

/-- The next token. Where none can be read, it is known only here what keeps it from being read. -/
def peek : Reader (Option Token) := do
  let stream := (← get).stream
  match stream.tokens, stream.fault with
  | t :: _, _ => return some t
  | [], some f => throw f
  | [], none => return none

def drop : Reader Unit :=
  modify fun s => { s with stream := { s.stream with tokens := s.stream.tokens.tail } }

def accept (t : Token) : Reader Bool := do
  if (← peek) == some t then
    drop
    return true
  else return false

def fail {α : Type} : Reader α :=
  throw .malformedYaml

def expect (t : Token) : Reader Unit := do
  if !(← accept t) then fail

/-! ## Properties -/

def fullTag (handles : Keyed String String) (name : TagName) : Reader String :=
  match name.handle with
  | none => pure name.suffix
  | some h => match handles.get? h with
    | some start => pure (start ++ name.suffix)
    | none => fail

structure Properties where
  anchor : Option String := none
  tag : Option String := none

def Properties.isEmpty (p : Properties) : Bool :=
  p.anchor.isNone && p.tag.isNone

def properties (handles : Keyed String String) : Reader Properties := do
  match ← peek with
  | some (.anchor a) =>
    drop
    match ← peek with
    | some (.tag name) =>
      drop
      return { anchor := a, tag := ← fullTag handles name }
    | _ => return { anchor := a }
  | some (.tag name) =>
    drop
    match ← peek with
    | some (.anchor a) =>
      drop
      return { anchor := a, tag := ← fullTag handles name }
    | _ => return { tag := ← fullTag handles name }
  | _ => return {}

/-- The tag of a scalar. An exclamation mark alone asks for the look of the text. -/
def Properties.scalarTag (p : Properties) (isPlain : Bool) (text : String) : Tag :=
  match p.tag with
  | none => if isPlain then .ofLook text else .text
  | some uri => if uri = "!" then .ofLook text else .ofUri uri

def Properties.collectionTag (p : Properties) (default : Tag) : Tag :=
  match p.tag with
  | none => default
  | some uri => if uri = "!" then default else .ofUri uri

/-! ## Nodes -/

def add (anchor : Option String) (n : Node) : Reader Nat :=
  modifyGet fun s =>
    let number := s.nodes.size
    let anchors := match anchor with
      | some a => s.anchors.insert a number
      | none => s.anchors
    (number, { s with nodes := s.nodes.push n, anchors })

def finish (number : Nat) (form : Form) : Reader Nat := do
  modify fun s => { s with nodes := s.nodes.modify number fun n => { n with form } }
  return number

def addEmpty : Reader Nat :=
  add none ⟨.null, .scalar ""⟩

def addScalar (p : Properties) (isPlain : Bool) (text : String) : Reader Nat :=
  add p.anchor ⟨p.scalarTag isPlain text, .scalar text⟩

def addSequence (p : Properties) (items : Reader (List Nat)) : Reader Nat := do
  let number ← add p.anchor ⟨p.collectionTag .sequence, .sequence []⟩
  finish number (.sequence (← items))

def addMapping (p : Properties) (pairs : Reader (List (Nat × Nat))) : Reader Nat := do
  let number ← add p.anchor ⟨p.collectionTag .mapping, .mapping []⟩
  finish number (.mapping (← pairs))

def named (a : String) : Reader Nat := do
  match (← get).anchors.get? a with
  | some number => return number
  | none => fail

mutual

def read (handles : Keyed String String) : Nat → Place → Reader Nat
  | 0, _ => fail
  | fuel + 1, place => do
    match ← peek with
    | some (.alias a) =>
      drop
      named a
    | _ => content handles fuel place (← properties handles)

/-- A node behind its anchor, which is used only once, and its tag. -/
def content (handles : Keyed String String) : Nat → Place → Properties → Reader Nat
  | 0, _, _ => fail
  | fuel + 1, place, p => do
    let next ← peek
    let anchors := (← get).anchors
    if p.anchor.any fun a => (anchors.get? a).isSome then fail
    match next, place with
    | some .entry, .blockMember => addSequence p (bareItems handles fuel)
    | some (.scalar text isPlain), _ =>
      drop
      addScalar p isPlain text
    | some .flowSequence, _ =>
      drop
      addSequence p (flowItems handles fuel true)
    | some .flowMapping, _ =>
      drop
      addMapping p (flowPairs handles fuel true)
    | some .blockSequence, .block | some .blockSequence, .blockMember =>
      drop
      addSequence p (blockItems handles fuel)
    | some .blockMapping, .block | some .blockMapping, .blockMember =>
      drop
      addMapping p (blockPairs handles fuel)
    | _, _ => if p.isEmpty then fail else addScalar p true ""

/-- A node that is left out where one of the tokens `ends` comes next. -/
def slot (handles : Keyed String String) : Nat → List Token → Place → Reader Nat
  | 0, _, _ => fail
  | fuel + 1, ends, place => do
    match ← peek with
    | some t => if ends.contains t then addEmpty else read handles fuel place
    | none => fail

def blockItems (handles : Keyed String String) : Nat → Reader (List Nat)
  | 0 => fail
  | fuel + 1 => do
    if ← accept .entry then
      let item ← slot handles fuel [.entry, .blockEnd] .block
      return item :: (← blockItems handles fuel)
    else
      expect .blockEnd
      return []

/-- The items of a sequence that is indented like the mapping around it. -/
def bareItems (handles : Keyed String String) : Nat → Reader (List Nat)
  | 0 => fail
  | fuel + 1 => do
    if ← accept .entry then
      let item ← slot handles fuel [.entry, .key, .value, .blockEnd] .block
      return item :: (← bareItems handles fuel)
    else return []

def blockPairs (handles : Keyed String String) : Nat → Reader (List (Nat × Nat))
  | 0 => fail
  | fuel + 1 => do
    let ends : List Token := [.key, .value, .blockEnd]
    if ← accept .key then
      let k ← slot handles fuel ends .blockMember
      let v ← if ← accept .value then slot handles fuel ends .blockMember else addEmpty
      return (k, v) :: (← blockPairs handles fuel)
    else
      expect .blockEnd
      return []

def flowPair (handles : Keyed String String) : Nat → Token → Reader (Nat × Nat)
  | 0, _ => fail
  | fuel + 1, close => do
    let k ← slot handles fuel [.value, .comma, close] .flow
    let v ← if ← accept .value then slot handles fuel [.comma, close] .flow else addEmpty
    return (k, v)

/-- The items of a bracketed sequence; a pair among them is a mapping of its own. -/
def flowItems (handles : Keyed String String) : Nat → (isFirst : Bool) → Reader (List Nat)
  | 0, _ => fail
  | fuel + 1, isFirst => do
    if ← accept .flowSequenceEnd then return []
    if !isFirst then expect .comma
    if ← accept .key then
      let item ← addMapping {} ((fun p => [p]) <$> flowPair handles fuel .flowSequenceEnd)
      return item :: (← flowItems handles fuel false)
    else if ← accept .flowSequenceEnd then return []
    else
      let item ← read handles fuel .flow
      return item :: (← flowItems handles fuel false)

def flowPairs (handles : Keyed String String) : Nat → (isFirst : Bool) → Reader (List (Nat × Nat))
  | 0, _ => fail
  | fuel + 1, isFirst => do
    if ← accept .flowMappingEnd then return []
    if !isFirst then expect .comma
    if ← accept .key then
      let pair ← flowPair handles fuel .flowMappingEnd
      return pair :: (← flowPairs handles fuel false)
    else if ← accept .flowMappingEnd then return []
    else
      let k ← read handles fuel .flow
      let v ← addEmpty
      return (k, v) :: (← flowPairs handles fuel false)

end

/-! ## Documents -/

def standardHandles : Keyed String String :=
  [("!", "!"), ("!!", "tag:yaml.org,2002:")]

/-- The handles that directives declare, each once. The version is given at most once, and its major
number is one. -/
def directives : Nat → (hasVersion : Bool) → Keyed String String → Reader (Keyed String String)
  | 0, _, _ => fail
  | fuel + 1, hasVersion, handles => do
    match ← peek with
    | some (.directive d) =>
      drop
      match d with
      | .version major =>
        if hasVersion || major != 1 then fail
        directives fuel true handles
      | .tag h target =>
        if (handles.get? h).isSome then fail
        directives fuel hasVersion (handles.insert h target)
      | .other => directives fuel hasVersion handles
    | _ => return handles

def document (fuel : Nat) : Reader Nat := do
  match ← peek with
  | none => addEmpty
  | some (.directive _) | some .documentStart =>
    let declared ← directives fuel false []
    let missing := standardHandles.filter fun p => (declared.get? p.1).isNone
    expect .documentStart
    match ← peek with
    | none | some (.directive _) | some .documentStart | some .documentEnd => addEmpty
    | _ => read (declared ++ missing) fuel .block
  | _ => read standardHandles fuel .block

/-- Past the end of the one document. A second one is read as far as its start. -/
def finishText : Nat → Reader Unit
  | 0 => fail
  | fuel + 1 => do
    match ← peek with
    | none => return
    | some .documentEnd =>
      drop
      finishText fuel
    | some _ =>
      let _ ← directives (fuel + 1) false []
      fail

def ofTokens (ts : TokenStream) : Except Fault Graph := do
  let fuel := 4 * ts.tokens.length + 8
  let reader : Reader Nat := do
    let root ← document fuel
    finishText fuel
    return root
  let (root, s) ← reader.run { stream := ts }
  return ⟨s.nodes, root⟩

end Graph
end Colloquy.Yaml

import Colloquy.Key
import Colloquy.Yaml.Node
import Colloquy.Yaml.Scalar

/-! # What nodes stand for

A scalar stands for a value; a collection for the numbers of what is in it, so that it may hold
itself. Collections are begun empty and filled round by round: a round fills those begun in the
round before, in their order. That order decides which of several faults is found first. A mapping
is filled after the pairs under its merge keys have been put in front of its own.
-/
set_option autoImplicit false

namespace Colloquy.Yaml

inductive Content where
  | leaf (v : Value)
  | list (items : List Nat)
  /-- Every key once, where and as it first stands, with the last number under it. -/
  | mapping (entries : Keyed Key (Value × Nat))
  | set (members : List Value)
  | pairs (ps : List (Nat × Nat))

namespace Content

def begun? : Tag → Option Content
  | .sequence => some (.list [])
  | .mapping => some (.mapping [])
  | .set => some (.set [])
  | .pairs => some (.pairs [])
  | _ => none

/-- The name that what a node stands for gives as a key. Collections give none. -/
def name? : Content → Option Name
  | leaf v => Name.ofValue? v
  | _ => none

def insertEntry (entries : Keyed Key (Value × Nat)) (n : Name) (number : Nat) :
    Keyed Key (Value × Nat) :=
  entries.insert n.key (((entries.get? n.key).map Prod.fst).getD n.shown, number)

def ofEntries (entries : List (Name × Nat)) : Keyed Key (Value × Nat) :=
  entries.foldl (fun es p => insertEntry es p.1 p.2) []

end Content

structure Building where
  nodes : Array Node
  contents : Array (Option Content)
  waiting : List Nat := []

namespace Building

abbrev Builder := StateT Building (Except Fault)

def node (number : Nat) : Builder Node := do
  return ((← get).nodes[number]?).getD ⟨.null, .scalar ""⟩

def setContent (number : Nat) (c : Content) : Builder Unit :=
  modify fun s => { s with contents := s.contents.modify number fun _ => some c }

def fail {α : Type} : Builder α :=
  throw .malformedYaml

/-! ## Scalars -/

def textOf (nodes : Array Node) : Nat → Nat → Except Fault String
  | 0, _ => .error .endless
  | fuel + 1, number =>
    match (nodes[number]?).map Node.form with
    | some (.scalar s) => .ok s
    | some (.mapping pairs) =>
      match pairs.find? fun p => (nodes[p.1]?).any fun n => n.tag = .value with
      | some (_, v) => textOf nodes fuel v
      | none => malformed
    | _ => malformed

/-- The value of a node whose tag is one of scalars. Only a scalar itself can be a timestamp. -/
def leaf (number : Nat) : Builder Value := do
  let nodes := (← get).nodes
  let n ← node number
  if !n.tag.isScalar then fail
  let text ← textOf nodes (nodes.size + 1) number
  match n.tag, n.form with
  | .timestamp, .mapping _ => throw .notWritten
  | tag, _ => Scalar.read tag text

/-! ## Merge keys -/

def pairsOf (number : Nat) : Builder (List (Nat × Nat)) := do
  match (← node number).form with
  | .mapping pairs => return pairs
  | _ => fail

def setPairs (number : Nat) (pairs : List (Nat × Nat)) : Builder Unit :=
  modify fun s => { s with
    nodes := s.nodes.modify number fun n => { n with form := .mapping pairs } }

def retag (number : Nat) : Builder Unit := do
  for p in ← pairsOf number do
    modify fun s => { s with
      nodes := s.nodes.modify p.1 fun n => if n.tag = .value then { n with tag := .text } else n }

def takeMerge? (number : Nat) : Builder (Option Nat) := do
  let nodes := (← get).nodes
  let pairs ← pairsOf number
  let isMerge (p : Nat × Nat) : Bool := (nodes[p.1]?).any fun n => n.tag = .merge
  match pairs.find? isMerge with
  | some (_, source) =>
    setPairs number (pairs.eraseP isMerge)
    return some source
  | none => return none

mutual

/-- Takes all merge keys out of a mapping, and gives the pairs under them: those of a mapping, or
those of several, of which the last comes first. -/
def takeMerges : Nat → Nat → Builder (List (Nat × Nat))
  | 0, _ => throw .endless
  | fuel + 1, number => do
    match ← takeMerge? number with
    | none => return []
    | some source =>
      let own ← match (← node source).form with
        | .mapping _ => flatten fuel source
        | .sequence items => do
          let parts ← items.mapM fun item => flatten fuel item
          pure parts.reverse.flatten
        | .scalar _ => fail
      return own ++ (← takeMerges fuel number)

/-- Puts the pairs under the merge keys of a mapping in front of its own, and gives all of them. -/
def flatten : Nat → Nat → Builder (List (Nat × Nat))
  | 0, _ => throw .endless
  | fuel + 1, number => do
    retag number
    let merged ← takeMerges fuel number
    let pairs := merged ++ (← pairsOf number)
    setPairs number pairs
    return pairs

end

def pairCount (nodes : Array Node) : Nat :=
  nodes.toList.foldl (fun count n => match n.form with
    | .mapping pairs => count + pairs.length
    | _ => count) 0

/-! ## Collections -/

def begin (number : Nat) : Builder Content := do
  match ((← get).contents[number]?).join with
  | some c => return c
  | none =>
    let c ← match Content.begun? (← node number).tag with
      | some c => do
        modify fun s => { s with waiting := number :: s.waiting }
        pure c
      | none => Content.leaf <$> leaf number
    setContent number c
    return c

/-- An entry of a mapping: its key has to be one before its value is looked at. -/
def entry (p : Nat × Nat) : Builder (Name × Nat) := do
  match (← begin p.1).name? with
  | some name =>
    let _ ← begin p.2
    return (name, p.2)
  | none => fail

def entries (number : Nat) : Builder (List (Name × Nat)) := do
  let pairs ← flatten (2 * pairCount (← get).nodes + 3) number
  pairs.mapM entry

def onePair (number : Nat) : Builder (Nat × Nat) := do
  match ← pairsOf number with
  | [(k, v)] =>
    let _ ← begin k
    let _ ← begin v
    return (k, v)
  | _ => fail

def filled (number : Nat) : Builder Content := do
  let n ← node number
  match n.tag, n.form with
  | .sequence, .sequence items => do
    items.forM fun item => discard (begin item)
    return .list items
  | .mapping, .mapping _ => return .mapping (Content.ofEntries (← entries number))
  | .set, .mapping _ =>
    let names := (← entries number).map Prod.fst
    return .set ((Name.distinct names).map Name.shown)
  | .pairs, .sequence items => return .pairs (← items.mapM onePair)
  | _, _ => fail

/-- Fills the collections begun so far, then those begun thereby, until none is left. -/
def rounds : Nat → Builder Unit
  | 0 => pure ()
  | fuel + 1 => do
    let waiting := (← get).waiting.reverse
    if !waiting.isEmpty then
      modify fun s => { s with waiting := [] }
      waiting.forM fun number => do setContent number (← filled number)
      rounds fuel

end Building

/-- What the nodes of a graph stand for; a node that nothing leads to stands for nothing. -/
def Graph.contents (g : Graph) : Except Fault (Array Content) := do
  let builder : Building.Builder Unit := do
    let _ ← Building.begin g.root
    Building.rounds (g.nodes.size + 1)
  let (_, s) ← builder.run { nodes := g.nodes, contents := g.nodes.map fun _ => none }
  return s.contents.map fun c => c.getD (.leaf .null)

end Colloquy.Yaml

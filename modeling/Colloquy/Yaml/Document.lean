import Colloquy.Yaml.Content

/-! # YAML documents

The value of a text. What nodes stand for is unfolded from the root; a collection that comes up
again inside itself is cut there, and only there, so that the value is finite.
-/
set_option autoImplicit false

namespace Colloquy.Yaml

structure Document where
  contents : Array Content
  root : Nat

/-! ## Reading -/

def isPrintable (c : Char) : Bool :=
  let n := c.toNat
  n = 0x09 || n = 0x0A || n = 0x0D || n = 0x85 || (0x20 ≤ n && n ≤ 0x7E) ||
    (0xA0 ≤ n && n ≤ 0xD7FF) || (0xE000 ≤ n && n ≤ 0xFFFD) || 0x10000 ≤ n

/-- How many characters are taken in at once, after twice that many at the beginning. -/
def blockSize : Nat := 4096

def beforeBlock (position : Nat) (cs : List Char) : List Char :=
  if position < 2 * blockSize then [] else cs.take (position / blockSize * blockSize)

/-- The graph of a text. A block with a character that no document holds is not read; what is wrong
in front of it counts first. -/
def readGraph (cs : List Char) : Except Fault Graph :=
  let graph (cs : List Char) : Except Fault Graph := Graph.ofTokens (TokenStream.ofChars cs)
  match cs.findIdx? fun c => !isPrintable c with
  | none => graph cs
  | some position => (graph (beforeBlock position cs)).bind fun _ => malformed

def readDocument (cs : List Char) : Except Fault Document := do
  let graph ← readGraph cs
  return { contents := ← graph.contents, root := graph.root }

namespace Document

/-! ## Unfolding -/

def mappingOf (entries : List (Value × Value)) : Value :=
  let member? : Value × Value → Option (String × Value)
    | (.str k, v) => some (k, v)
    | _ => none
  match entries.mapM member? with
  | some members => .object members
  | none => .table entries

/-- A value, and whether it is all of what its node stands for. A cut depends on what is around. -/
structure Unfolded where
  value : Value
  isWhole : Bool := true

def Unfolded.gather (build : List Value → Value) (parts : List Unfolded) : Unfolded where
  value := build (parts.map Unfolded.value)
  isWhole := parts.all Unfolded.isWhole

/-- Whole values are kept by the numbers of their nodes. -/
abbrev Unfolding := StateM (Array (Option Value))

def pairsOf : List Value → List Value
  | a :: b :: rest => .pair a b :: pairsOf rest
  | _ => []

def unfold (d : Document) : Nat → (around : List Nat) → Nat → Unfolding Unfolded
  | 0, _, _ => return { value := .null }
  | fuel + 1, around, number => do
    match ((← get)[number]?).join, d.contents[number]? with
    | some v, _ => return { value := v }
    | none, none => return { value := .null }
    | none, some c =>
      let parts (numbers : List Nat) : Unfolding (List Unfolded) :=
        numbers.mapM fun part => unfold d fuel (number :: around) part
      let cut (isList : Bool) : Unfolded := { value := .atom (.again isList), isWhole := false }
      let isInside := around.contains number
      let u ← match c with
        | .leaf v => pure { value := v }
        | .set members => pure { value := .set members }
        | .list items =>
          if isInside then pure (cut true) else (Unfolded.gather .list) <$> parts items
        | .pairs ps =>
          if isInside then pure (cut true)
          else
            (Unfolded.gather fun vs => .list (pairsOf vs)) <$>
              parts (ps.flatMap fun p => [p.1, p.2])
        | .mapping entries =>
          if isInside then pure (cut false)
          else
            (Unfolded.gather fun vs => mappingOf ((entries.map fun e => e.2.1).zip vs)) <$>
              parts (entries.map fun e => e.2.2)
      if u.isWhole then modify fun kept => kept.modify number fun _ => some u.value
      return u

def alone (d : Document) (number : Nat) : Unfolding Value := do
  return (← d.unfold (d.contents.size + 1) [] number).value

def opened (d : Document) (part : Value → Nat → Unfolding Value) (number : Nat) :
    Unfolding Value := do
  match d.contents[number]? with
  | some (.mapping entries) =>
    return mappingOf (← entries.mapM fun (_, shown, number) => do
      return (shown, ← part shown number))
  | _ => d.alone number

/-- The value of a document of which the members count by themselves, as do the members of its
`sections`: each of them is unfolded as if nothing were around it. -/
def value (d : Document) (sections : List String) : Value :=
  let part (shown : Value) (number : Nat) : Unfolding Value :=
    match shown with
    | .str s => if sections.contains s then d.opened (fun _ => d.alone) number else d.alone number
    | _ => d.alone number
  ((d.opened part d.root).run (d.contents.map fun _ => none)).1

end Document
end Colloquy.Yaml

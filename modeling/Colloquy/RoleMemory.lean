import Colloquy.Completion
import Colloquy.Session

/-! # Roles in a stream

Only the first fragment of a streamed answer says who speaks. The memory keeps the first role seen
under each identifier and fills it into later fragments, so that every fragment reads like a
completion of its own.
-/
set_option autoImplicit false

namespace Colloquy

abbrev RoleMemory := Keyed Key Role

namespace RoleMemory

/-- The role under an identifier that comes from outside the stream. The exceptional number is equal
to nothing there, and only identifiers that can be keys may be asked for. -/
def roleFor (id : Value) (m : RoleMemory) : Except Fault (Option Role) := do
  let name ← Name.ofValue id
  return if name.key = .exceptional then none else m.get? name.key

def remember (id : Key) (r : Role) (m : RoleMemory) : RoleMemory :=
  if (m.get? id).isSome then m else m.insert id r

/-- A fragment without a message is an empty one of the assistant. -/
def messageOf (c : ChunkChoice) : Message :=
  c.delta.getD { content := .str "", role := some .assistant }

def fill (id : Value) (message : Message) : Run RoleMemory Message := do
  let name ← Run.ofExcept (Name.ofValue id)
  let m ← get
  match message.role with
  | some r =>
    set (m.remember name.key r)
    return message
  | none => return { message with role := m.get? name.key }

def fillChoice (id : Value) (c : ChunkChoice) : Run RoleMemory Choice := do
  let message ← fill id (messageOf c)
  return { index := c.index, message, finishReason := c.finishReason, logprobs := c.logprobs }

def fillChoices (id : Value) : List ChunkChoice → Run RoleMemory (List Choice)
  | [] => return []
  | c :: rest => do
    let choice ← fillChoice id c
    return choice :: (← fillChoices id rest)

/-- A fragment as a completion. One that says it is malformed, carries a refusal, or has choices
under an identifier that cannot be a key fails. -/
def normalizing (chunk : Chunk) : Run RoleMemory Completion := do
  match chunk.error with
  | some e =>
    throw (.api ("Malformed stream fragment " ++ chunk.id.display ++ ": " ++ e) .null)
  | none => pure ()
  Run.ofExcept (ServiceStatus.check chunk.status)
  let choices ← fillChoices chunk.id chunk.choices
  return {
    id := chunk.id
    choices
    created := chunk.created
    model := chunk.model
    systemFingerprint := chunk.systemFingerprint }

def normalize (m : RoleMemory) (chunk : Chunk) : Except Fault (Completion × RoleMemory) :=
  let (outcome, m) := (normalizing chunk).exec m
  outcome.map fun completion => (completion, m)

end RoleMemory
end Colloquy

import Colloquy.Value.Shape

/-! # Messages

One turn of a conversation and the tool calls it may carry. Encoding leaves out what a message does
not have; decoding is lenient about everything but the role and the shape of tool calls. Arguments
of a tool call are kept as text, whatever form they arrived in.
-/
set_option autoImplicit false

namespace Colloquy

inductive Role where
  | system
  | user
  | assistant
  | tool
deriving DecidableEq, Repr

namespace Role

def all : List Role := [system, user, assistant, tool]

def name : Role → String
  | system => "system"
  | user => "user"
  | assistant => "assistant"
  | tool => "tool"

def ofName? (s : String) : Option Role :=
  all.find? fun r => r.name = s

/-- A role is absent, or one of the four by name. -/
def decode (v : Value) : Except Fault (Option Role) :=
  if v.truthy then
    match v with
    | .str s => match ofName? s with
      | some r => .ok (some r)
      | none => .error (.notMember v "Role")
    | _ => .error (.notMember v "Role")
  else .ok none

end Role

structure FunctionCall where
  name : Value
  arguments : String := "\x7b\x7d"

structure ToolCall where
  id : Value
  function : FunctionCall
  type : Value := .str "function"

namespace ToolCall

def toValue (c : ToolCall) : Value :=
  .object [
    ("id", c.id),
    ("type", c.type),
    ("function", .object [("name", c.function.name), ("arguments", .str c.function.arguments)])]

/-- Arguments that arrive as data are written out as JSON. -/
def argumentsText : Value → Except Fault String
  | .str s => .ok s
  | v => Json.Obstacle.lift (Json.dump .spacedAscii v)

def decode (v : Value) : Except Fault ToolCall := do
  let function := (← v.member "function").orElse (.object [])
  let arguments ← argumentsText (← function.memberD "arguments" (.str "\x7b\x7d"))
  return {
    id := ← v.memberD "id" (.str "")
    type := ← v.memberD "type" (.str "function")
    function := { name := ← function.memberD "name" (.str ""), arguments } }

end ToolCall

structure Message where
  content : Value
  role : Option Role
  name : Value := .null
  toolCallId : Value := .null
  toolCalls : Option (List ToolCall) := none

namespace Message

def roleValue (role : Option Role) : Value :=
  match role with
  | some r => .str r.name
  | none => .null

def calls (m : Message) : List ToolCall :=
  m.toolCalls.getD []

def hasToolCalls (m : Message) : Bool :=
  !m.calls.isEmpty

def toValue (m : Message) : Value :=
  let calls := if m.hasToolCalls then .list (m.calls.map ToolCall.toValue) else .null
  .object (Members.present [
    ("content", m.content),
    ("role", roleValue m.role),
    ("name", m.name),
    ("tool_call_id", m.toolCallId),
    ("tool_calls", calls)])

def decodeCalls (v : Value) : Except Fault (Option (List ToolCall)) :=
  if v.truthy then do
    return some (← (← v.elements).mapM ToolCall.decode)
  else .ok none

def decode (v : Value) : Except Fault Message := do
  let role ← v.member "role"
  let calls ← v.member "tool_calls"
  return {
    content := ← v.member "content"
    role := ← Role.decode role
    name := ← v.member "name"
    toolCallId := ← v.member "tool_call_id"
    toolCalls := ← decodeCalls calls }

end Message
end Colloquy

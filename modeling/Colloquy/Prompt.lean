import Colloquy.Options

/-! # Prompts and responses

What a caller asks and gets back, without the service's wire format.
-/
set_option autoImplicit false

namespace Colloquy

structure PromptMessage where
  content : Value
  type : Value := .str "user"
  name : Value := .null
  toolCallId : Value := .null

namespace PromptMessage

def types : List Role := [.user, .assistant, .system, .tool]

def user (content : Value) : PromptMessage := { content }

def system (content : Value) : PromptMessage := { content, type := .str "system" }

def assistant (content : Value) : PromptMessage := { content, type := .str "assistant" }

def role (m : PromptMessage) : Except Fault Role :=
  match m.type with
  | .str s => match types.find? fun r => r.name = s with
    | some r => .ok r
    | none => .error (.notMember m.type "MessageType")
  | v => .error (.notMember v "MessageType")

def toMessage (m : PromptMessage) : Except Fault Message := do
  return {
    content := m.content
    role := some (← m.role)
    name := m.name
    toolCallId := m.toolCallId }

end PromptMessage

structure Prompt where
  messages : List PromptMessage
  options : Option CallOptions := none

namespace Prompt

def ofText (text : Value) (options : Option CallOptions) : Prompt where
  messages := [.user text]
  options := options

end Prompt

structure Generation where
  content : Value
  metadata : Value := .object []
  finishReason : Value := .null

structure Response where
  generations : List Generation := []
  usage : Members := []

def Response.result (r : Response) : Option Generation :=
  r.generations.head?

end Colloquy

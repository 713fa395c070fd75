import Colloquy.Message

/-! # Completions

What the service answers: a whole completion, or the chunks of a stream. Both are decoded
leniently, with absent and empty fields filled in; a chunk that cannot be decoded becomes one that
says why.
-/
set_option autoImplicit false

namespace Colloquy

inductive FinishReason where
  | stop
  | length
  | contentFilter
  | toolCalls
  | other
deriving DecidableEq, Repr

namespace FinishReason

def all : List FinishReason := [stop, length, contentFilter, toolCalls, other]

def name : FinishReason → String
  | stop => "stop"
  | length => "length"
  | contentFilter => "content_filter"
  | toolCalls => "tool_calls"
  | other => "other"

/-- A reason that is present but not known counts as `other`. -/
def ofValue (v : Value) : Option FinishReason :=
  if v.truthy then
    match v with
    | .str s => some ((all.find? fun r => r.name = s).getD other)
    | _ => some other
  else none

def toValue : Option FinishReason → Value
  | some r => .str r.name
  | none => .null

end FinishReason

structure Usage where
  promptTokens : Value := .int 0
  completionTokens : Value := .int 0
  totalTokens : Value := .int 0

namespace Usage

def toMembers (u : Usage) : Members := [
  ("prompt_tokens", u.promptTokens),
  ("completion_tokens", u.completionTokens),
  ("total_tokens", u.totalTokens)]

def decode (v : Value) : Except Fault (Option Usage) :=
  if v.truthy then do
    return some {
      promptTokens := (← v.memberD "prompt_tokens" (.int 0)).orElse (.int 0)
      completionTokens := (← v.memberD "completion_tokens" (.int 0)).orElse (.int 0)
      totalTokens := (← v.memberD "total_tokens" (.int 0)).orElse (.int 0) }
  else .ok none

end Usage

structure ServiceStatus where
  code : Value := .int 0
  text : Value := .str ""

namespace ServiceStatus

def decode (v : Value) : Except Fault (Option ServiceStatus) :=
  if v.truthy then do
    return some {
      code := (← v.memberD "status_code" (.int 0)).orElse (.int 0)
      text := (← v.memberD "status_msg" (.str "")).orElse (.str "") }
  else .ok none

def isOk (s : ServiceStatus) : Bool :=
  s.code.isZero

def refusal (s : ServiceStatus) : String :=
  if s.text.truthy then s.text.text else "MiniMax error status " ++ s.code.text

/-- An answer with a verdict other than zero is a refusal. -/
def check : Option ServiceStatus → Except Fault Unit
  | none => .ok ()
  | some s => if s.isOk then .ok () else .error (.api s.refusal s.code)

end ServiceStatus

structure Choice where
  index : Value
  message : Message
  finishReason : Option FinishReason := none
  logprobs : Value := .null

def Choice.decode (v : Value) : Except Fault Choice := do
  let index ← v.memberD "index" (.int 0)
  let message ← Message.decode ((← v.member "message").orElse (.object []))
  return {
    index, message
    finishReason := FinishReason.ofValue (← v.member "finish_reason")
    logprobs := ← v.member "logprobs" }

structure Completion where
  id : Value
  choices : List Choice := []
  created : Value := .int 0
  model : Value := .str ""
  systemFingerprint : Value := .null
  object : Value := .str "chat.completion"
  status : Option ServiceStatus := none
  usage : Option Usage := none

def optionalElements (v : Value) : Except Fault (List Value) :=
  (v.orElse (.list [])).elements

def Completion.decode (v : Value) : Except Fault Completion := do
  let id ← v.memberD "id" (.str "")
  let choices ← (← optionalElements (← v.member "choices")).mapM Choice.decode
  return {
    id, choices
    created := (← v.memberD "created" (.int 0)).orElse (.int 0)
    model := (← v.memberD "model" (.str "")).orElse (.str "")
    systemFingerprint := ← v.member "system_fingerprint"
    object := (← v.member "object").orElse (.str "chat.completion")
    status := ← ServiceStatus.decode (← v.member "base_resp")
    usage := ← Usage.decode (← v.member "usage") }

structure ChunkChoice where
  index : Value
  delta : Option Message
  finishReason : Option FinishReason := none
  logprobs : Value := .null

def ChunkChoice.decode (v : Value) : Except Fault ChunkChoice := do
  let delta ← v.member "delta"
  let index ← v.memberD "index" (.int 0)
  let delta ← if delta.truthy then some <$> Message.decode delta else .ok none
  return {
    index, delta
    finishReason := FinishReason.ofValue (← v.member "finish_reason")
    logprobs := ← v.member "logprobs" }

structure Chunk where
  id : Value
  choices : List ChunkChoice := []
  created : Value := .int 0
  model : Value := .str ""
  systemFingerprint : Value := .null
  object : Value := .str "chat.completion.chunk"
  status : Option ServiceStatus := none
  error : Option String := none

namespace Chunk

def decode (v : Value) : Except Fault Chunk := do
  let id ← v.memberD "id" (.str "")
  let choices ← (← optionalElements (← v.member "choices")).mapM ChunkChoice.decode
  return {
    id, choices
    created := (← v.memberD "created" (.int 0)).orElse (.int 0)
    model := (← v.memberD "model" (.str "")).orElse (.str "")
    systemFingerprint := ← v.member "system_fingerprint"
    object := (← v.member "object").orElse (.str "chat.completion.chunk")
    status := ← ServiceStatus.decode (← v.member "base_resp") }

/-- The identifier of a fragment that could not be decoded, where it is a text. -/
def malformedId : Value → Value
  | .object ms => match Keyed.get? "id" ms with
    | some (.str s) => .str s
    | _ => .str ""
  | _ => .str ""

def malformed (v : Value) (error : String) : Chunk :=
  { id := malformedId v, error := some error }

/-- Every value is a chunk; one that is not an object or has the wrong shape says so. -/
def ofValue (v : Value) : Except Fault Chunk :=
  match v with
  | .object _ => decode v
  | _ => .error (.notObject v.kind)

end Chunk
end Colloquy

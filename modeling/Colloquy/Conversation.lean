import Colloquy.Session
import Colloquy.Completion
import Colloquy.Request

/-! # Conversations with tool calls

A completion whose first choice asks for tools is answered: every call is run in order, and the
results go back in a follow-up request that carries the whole conversation. `drive` repeats this
until the model stops asking or the limit on follow-ups is reached.
-/
set_option autoImplicit false

namespace Colloquy

abbrev Transport (τ : Type) := Request → Run τ (Option Completion)

/-- Completions and faults to answer requests with, in order, and the requests answered so far. -/
structure Script where
  items : List (Except Fault (Option Completion)) := []
  sent : List Request := []

def Transport.scripted : Transport Script := fun request => do
  let s ← get
  match s.items with
  | [] =>
    set { s with sent := s.sent ++ [request] }
    throw .scriptExhausted
  | item :: rest =>
    set { s with items := rest, sent := s.sent ++ [request] }
    Run.ofExcept item

structure RoundLimit where
  shown : Value := .null
  most : Option Nat := none

namespace RoundLimit

def unbounded : RoundLimit := {}

def ofNat (n : Nat) : RoundLimit := ⟨.int n, some n⟩

/-- The least whole number of rounds that is not less than `x`; none for infinity, and none where
the comparison never holds. -/
def ofFloat (x : Float) : Option Nat :=
  if x.isFinite then some x.ceil.toUInt64.toNat else none

/-- `null` sets no limit; a number must not be negative. -/
def ofValue (v : Value) : Except Fault RoundLimit := do
  if v.isNull then return unbounded
  if ← NumberError.lift (v.less (.int 0)) then throw .negativeRounds
  match v with
  | .bool b => return ⟨v, some (if b then 1 else 0)⟩
  | .int n => return ⟨v, some n.toNat⟩
  | .float x => return ⟨v, ofFloat x⟩
  | _ => return ⟨v, none⟩

def reached (limit : RoundLimit) (rounds : Nat) : Bool :=
  match limit.most with
  | some n => n ≤ rounds
  | none => false

end RoundLimit

namespace Conversation

variable {τ : Type}

def asksForTools : Option Completion → Bool
  | none => false
  | some c =>
    match c.choices with
    | [] => false
    | choice :: _ => choice.message.hasToolCalls && choice.finishReason == some .toolCalls

def toolMessage : Option Completion → Except Fault Message
  | none => .error (.noAttribute "NoneType" "choices")
  | some c =>
    match c.choices with
    | [] => .error .emptyList
    | choice :: _ => .ok choice.message

def answerTo (call : ToolCall) (text : String) : Message where
  content := .str text
  role := some .tool
  name := call.function.name
  toolCallId := call.id

def callNote (call : ToolCall) : LogEntry :=
  ⟨.info, "Calling function " ++ call.function.name.text ++ " (tool call " ++ call.id.text ++ ")"⟩

def answer (call : ToolCall) : Run (Session τ) Message := do
  let callback ← Session.callbackOf call.function.name
  Session.note (callNote call)
  return answerTo call (← Session.invoke callback call.function.arguments)

def answers : List ToolCall → StateM (Session τ) (List Message × Option Fault)
  | [] => pure ([], none)
  | call :: rest => do
    match ← (answer call).outcome with
    | .error f => pure ([], some f)
    | .ok m =>
      let (ms, f) ← answers rest
      pure (m :: ms, f)

def continuing (request : Request) (messages : List Message) : Request :=
  { request with messages := messages, stream := .bool false }

/-- Answers the tool calls of `message` after `history`: the follow-up and the history reached. -/
def respond (request : Request) (message : Message) (history : List Message) :
    StateM (Session τ) (Except Fault Request × List Message) := do
  let (ms, fault) ← answers message.calls
  let history := history ++ ms
  match fault with
  | some f => pure (.error f, history)
  | none => pure (.ok (continuing request history), history)

def transmit (send : Transport τ) (request : Request) : Run (Session τ) (Option Completion) := do
  Session.record [.request request]
  Session.onLink (send request)

def followUp (request : Request) (completion : Option Completion) :
    Run (Session τ) (Option Request) := do
  if asksForTools completion then
    let message ← Run.ofExcept (toolMessage completion)
    let (outcome, _) ← liftM (respond (τ := τ) request message (request.messages ++ [message]))
    match outcome with
    | .ok next => return some next
    | .error f => throw f
  else return none

/-- Continues after `completion`, the answer to `request`, with `rounds` follow-ups behind. -/
def follow (send : Transport τ) (limit : RoundLimit) (fuel rounds : Nat) (request : Request)
    (completion : Option Completion) : Run (Session τ) (Option Completion) := do
  if asksForTools completion then
    if limit.reached rounds then throw (.roundLimit limit.shown)
    match fuel with
    | 0 => throw .unfinished
    | fuel + 1 =>
      match ← followUp request completion with
      | none => return completion
      | some next =>
        let completion ← transmit send next
        follow send limit fuel (rounds + 1) next completion
  else return completion

/-- Sends `request` and follows tool calls until a completion is final. Within a limit, as much
`fuel` as the limit is enough. -/
def drive (send : Transport τ) (limit : RoundLimit) (fuel : Nat) (request : Request) :
    Run (Session τ) (Option Completion) := do
  let completion ← transmit send request
  follow send limit fuel 0 request completion

def passFragment (completion : Option Completion) : Except Fault (Option Completion) :=
  if asksForTools completion then .error .streamedToolCall else .ok completion

end Conversation
end Colloquy

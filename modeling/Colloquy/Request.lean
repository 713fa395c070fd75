import Colloquy.Message
import Colloquy.Tool

/-! # Requests

A request is a conversation, a stream flag and a layer of settings. Options are layers too: a layer
laid over another wins wherever it sets something, and `null` sets nothing.
-/
set_option autoImplicit false

namespace Colloquy

inductive Setting where
  | model
  | frequencyPenalty
  | maxTokens
  | n
  | presencePenalty
  | responseFormat
  | seed
  | stop
  | temperature
  | topP
  | toolChoice
deriving DecidableEq, Repr

namespace Setting

def all : List Setting :=
  [model, frequencyPenalty, maxTokens, n, presencePenalty, responseFormat, seed, stop, temperature,
    topP, toolChoice]

def name : Setting → String
  | model => "model"
  | frequencyPenalty => "frequency_penalty"
  | maxTokens => "max_tokens"
  | n => "n"
  | presencePenalty => "presence_penalty"
  | responseFormat => "response_format"
  | seed => "seed"
  | stop => "stop"
  | temperature => "temperature"
  | topP => "top_p"
  | toolChoice => "tool_choice"

end Setting

/-- A value for every setting, `null` where it is not set. -/
abbrev Settings := Setting → Value

namespace Settings

def empty : Settings := fun _ => .null

def set (s : Settings) (key : Setting) (v : Value) : Settings :=
  fun k => if k = key then v else s k

def ofNamed (read : String → Value) : Settings :=
  fun k => read k.name

end Settings

def firstSet (a b : Value) : Value :=
  if a.isNull then b else a

structure Layer where
  settings : Settings := Settings.empty
  tools : Option (List Tool) := none

/-- The settings of `upper` where it has them, else those of `lower`. -/
def Layer.over (upper lower : Layer) : Layer where
  settings := fun k => firstSet (upper.settings k) (lower.settings k)
  tools := upper.tools.or lower.tools

structure Request where
  messages : List Message
  stream : Value := .null
  layer : Layer := {}

namespace Request

def toolsValue : Option (List Tool) → Except Fault Value
  | none => .ok .null
  | some ts => .list <$> ts.mapM Tool.toValue

/-- All fields of a request, in the order in which they are sent, once its tools are values. -/
def members (r : Request) (tools : Value) : Members :=
  let s := r.layer.settings
  [ ("messages", .list (r.messages.map Message.toValue)),
    ("model", s .model),
    ("frequency_penalty", s .frequencyPenalty),
    ("max_tokens", s .maxTokens),
    ("n", s .n),
    ("presence_penalty", s .presencePenalty),
    ("response_format", s .responseFormat),
    ("seed", s .seed),
    ("stop", s .stop),
    ("stream", r.stream),
    ("temperature", s .temperature),
    ("top_p", s .topP),
    ("tools", tools),
    ("tool_choice", s .toolChoice)]

/-- The request as it is sent, without what is not set. -/
def toValue (r : Request) : Except Fault Value := do
  let tools ← toolsValue r.layer.tools
  return .object (r.members tools).present

def overlay (r : Request) (layer : Layer) : Request :=
  { r with layer := layer.over r.layer }

def underlay (r : Request) (layer : Layer) : Request :=
  (r.overlay layer).overlay r.layer

/-- Per-call settings win over the request, the request over the defaults; tools that were resolved
replace any others. -/
def merge (r : Request) (call defaults : Option Layer) (tools : List Tool) : Request :=
  let r := match call with
    | some layer => r.overlay layer
    | none => r
  let r := match defaults with
    | some layer => r.underlay layer
    | none => r
  if tools.isEmpty then r else { r with layer := { r.layer with tools := some tools } }

end Request
end Colloquy

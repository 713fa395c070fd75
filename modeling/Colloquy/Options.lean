import Colloquy.Callback
import Colloquy.Request
import Colloquy.Value.Shape

/-! # Options

Options are a layer of settings together with callbacks and the names of functions to enable. The
callbacks of per-call options are enabled with them; those of default options are only registered.
-/
set_option autoImplicit false

namespace Colloquy

structure Options where
  layer : Layer := {}
  callbacks : List Callback := []
  functions : List Name := []

/-- Options that any chat service understands, and fields that only some do. -/
structure PortableOptions where
  model : Value := .null
  temperature : Value := .null
  topP : Value := .null
  others : Members := []
  tools : Option (List Tool) := none
  callbacks : List Callback := []
  functions : List Name := []

namespace PortableOptions

def settings (p : PortableOptions) : Settings
  | .model => p.model
  | .temperature => p.temperature
  | .topP => p.topP
  | key => (p.others.get? key.name).getD .null

def layer (p : PortableOptions) : Layer := ⟨p.settings, p.tools⟩

end PortableOptions

inductive CallOptions where
  | portable (o : PortableOptions)
  | full (o : Options)
  | other (v : Value)

namespace Options

def get (o : Options) (key : Setting) : Value :=
  o.layer.settings key

def set (o : Options) (key : Setting) (v : Value) : Options :=
  { o with layer := { o.layer with settings := o.layer.settings.set key v } }

def orderedFunctions (o : Options) : Except Fault (List Name) :=
  NumberError.lift (Name.ordered o.functions)

/-- The names these options switch on, each once. -/
def enabled (o : Options) (perCall : Bool) : Except Fault (List Name) := do
  let own := if perCall then o.callbacks.map Callback.name else []
  return Name.distinct (own ++ (← o.orderedFunctions))

def shownFunctions (o : Options) : List Name :=
  match Name.ordered o.functions with
  | .ok names => names
  | .error _ => o.functions

def ofCall : CallOptions → Except Fault Options
  | .full o => .ok o
  | .portable p => .ok ⟨p.layer, p.callbacks, p.functions⟩
  | .other v => .error (.invalidOptions v.kind)

def models : List String :=
  ["abab6.5-chat", "abab6.5s-chat", "abab6.5g-chat", "abab6-chat", "abab5.5-chat", "abab5.5s-chat"]

def defaultModel : String := "abab5.5-chat"

def standard : Options :=
  (({} : Options).set .model (.str defaultModel)).set .temperature (.float 0.7)

end Options

/-- What options, a request or any other object can lay over a request. -/
def CallOptions.layer : CallOptions → Layer
  | .full o => o.layer
  | .portable p => p.layer
  | .other _ => {}

inductive Options.Step where
  | setting (key : Setting) (v : Value)
  | stop (v : Value)
  | tools (ts : List Tool)
  | callbacks (cs : List Callback)
  | functions (v : Value)
  | function (v : Value)

/-- Options after a step. Sequences of stop texts are copied into a list. -/
def Options.step (o : Options) : Options.Step → Except Fault Options
  | .setting key v => .ok (o.set key v)
  | .stop v => do return o.set .stop (.list (← v.elements))
  | .tools ts => .ok { o with layer := { o.layer with tools := some ts } }
  | .callbacks cs => .ok { o with callbacks := cs }
  | .functions v => do return { o with functions := ← Name.setOf v }
  | .function v => do
    return { o with functions := Name.distinct (o.functions ++ [← Name.ofValue v]) }

end Colloquy

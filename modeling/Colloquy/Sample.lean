import Colloquy.Callback
import Colloquy.Value.Shape

/-! # Sample functions

Small functions to wrap as callbacks: one for each way in which a function can take arguments,
answer or fail, with converters for their results.
-/
set_option autoImplicit false

namespace Colloquy.Sample

def argument (ms : Members) (name : String) : Value :=
  Value.ofOption (ms.get? name)

def getWeather : KeywordFunction where
  name := "get_weather"
  documentation := "Get the weather in location."
  arguments := [{ name := "location" }, { name := "unit", default := some (.str "C") }]
  body ms := .ok (.object [
    ("location", argument ms "location"), ("temp", .int 30), ("unit", argument ms "unit")])

def ping : KeywordFunction where
  name := "ping"
  body _ := .ok (.str "pong")

def nothing : KeywordFunction where
  name := "nothing"
  body _ := .ok .null

def boom : KeywordFunction where
  name := "boom"
  arguments := [{ name := "reason", default := some (.str "boom") }]
  body ms := .error (.raised .value (argument ms "reason").text)

/-- Gives an atom that has no written form. -/
def atom : KeywordFunction where
  name := "opaque"
  arguments := [{ name := "text" }]
  body ms := .ok (.list [.atom (.sealed "Opaque" (argument ms "text").text)])

def collect : KeywordFunction where
  name := "collect"
  documentation := "Collect the arguments.\n\n    Indented line.\nLast line."
  collects := true
  body ms := .ok (.object ms)

def lookup : KeywordFunction where
  name := "lookup"
  documentation := "Look up a key."
  arguments := [{ name := "key" }]
  deferred := true
  body ms := .ok (.object [("key", argument ms "key")])

def all : List KeywordFunction :=
  [getWeather, ping, nothing, boom, atom, collect, lookup]

def function? (name : String) : Option KeywordFunction :=
  all.find? fun f => f.name = name

def resultMember (v : Value) (name : String) : Except Fault Value :=
  match v with
  | .object ms => match Keyed.get? name ms with
    | some w => .ok w
    | none => .error (.missingKey (.str name))
  | .str _ => .error (.badSubscript "str")
  | .list _ => .error (.badSubscript "list")
  | v => .error (.notSubscriptable v.kind)

def temperatureText (v : Value) : Except Fault Value := do
  return .str ((← resultMember v "temp").text ++ (← resultMember v "unit").text)

def fortyTwo (_ : Value) : Except Fault Value :=
  .ok (.int 42)

end Colloquy.Sample

import Colloquy.Fault

/-! # Tools

What a function is advertised as: a name, a description and the schema of its arguments. The
service takes the schema as JSON text inside the tool.
-/
set_option autoImplicit false

namespace Colloquy

structure Tool where
  name : Value
  description : String := ""
  parameters : Value := .object []

def Tool.toValue (t : Tool) : Except Fault Value := do
  let parameters ← Json.Obstacle.lift (Json.dump .spacedAscii t.parameters)
  return .object [
    ("type", .str "function"),
    ("function", .object [
      ("name", t.name),
      ("description", .str t.description),
      ("parameters", .str parameters)])]

def Tool.generalChoices : List String := ["none", "auto"]

def Tool.choice (name : String) : String :=
  Json.write .spacedAscii
    (.object [("type", .str "function"), ("function", .object [("name", .str name)])])

structure Parameter where
  name : String
  type : Value
  description : Value
  required : Bool := true
  default : Value := .null
  choices : Value := .null

namespace Parameter

def property (p : Parameter) : Value :=
  let choices := if p.choices.truthy then [("enum", p.choices)] else []
  let default := if p.default.isNull then [] else [("default", p.default)]
  .object ([("type", p.type), ("description", p.description)] ++ choices ++ default)

def schema (parameters : List Parameter) : Value :=
  .object [
    ("type", .str "object"),
    ("properties", .object (Keyed.ofList (parameters.map fun p => (p.name, p.property)))),
    ("required", .list ((parameters.filter Parameter.required).map fun p => .str p.name))]

end Parameter
end Colloquy

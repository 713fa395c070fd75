import Colloquy.Fault
import Colloquy.Json.Reader
import Colloquy.Text.Blank
import Colloquy.Tool
import Colloquy.Value.Order

/-! # Callbacks

A callback is a named function that the model may ask to run. Its handler takes the raw text of the
arguments, and may remember what was called before; a wrapped function gets the members of the JSON
object they spell as keyword arguments. An answer may come at once or later, and is sent back as
text.
-/
set_option autoImplicit false

namespace Colloquy

inductive Answer where
  | now (v : Value)
  /-- An answer that has to be waited for. -/
  | later (outcome : Except Fault Value)

structure Argument where
  name : String
  default : Option Value := none

structure KeywordFunction where
  name : String
  documentation : String := ""
  arguments : List Argument := []
  /-- Arguments under other names are collected too. -/
  collects : Bool := false
  deferred : Bool := false
  /-- Works on the bound arguments: those declared in order, then those collected. -/
  body : Members → Except Fault Value

namespace KeywordFunction

def declares (f : KeywordFunction) (name : String) : Bool :=
  f.arguments.any fun a => a.name = name

def declared (f : KeywordFunction) (given : Members) : List Argument → Except Fault Members
  | [] => .ok []
  | a :: rest =>
    match (given.get? a.name).or a.default with
    | some v => do return (a.name, v) :: (← declared f given rest)
    | none => .error (.missingArgument f.name a.name)

/-- An argument of an unknown name is refused before a missing one is noticed. -/
def bind (f : KeywordFunction) (given : Members) : Except Fault Members := do
  let others := given.filter fun p => !f.declares p.1
  match others with
  | p :: _ => if f.collects then pure () else throw (.unexpectedKeyword f.name p.1)
  | [] => pure ()
  return (← f.declared given f.arguments) ++ others

def apply (f : KeywordFunction) (given : Members) : Except Fault Value := do
  f.body (← f.bind given)

end KeywordFunction

inductive Call where
  | handler (name : Name) (arguments : String)
  | wrapped (name : Name) (arguments : String)
  | resolver (name : Name)

inductive Handler where
  /-- Takes the text of the arguments as it came, after all calls made before. -/
  | stateful (run : List Call → String → Except Fault Answer)
  | wrapped (label : String) (function : KeywordFunction) (convert : Value → Except Fault Value)

namespace Handler

def raw (run : String → Except Fault Answer) : Handler := .stateful fun _ => run

/-- Arguments left out altogether are an empty object. -/
def decodeArguments (label arguments : String) : Except Fault Members :=
  if (Text.trimBlanks arguments.toList).isEmpty then .ok []
  else
    match Json.read arguments with
    | .error flaw => .error (.unreadable flaw)
    | .ok (.object ms) => .ok ms
    | .ok v => .error (.argumentsNotObject label v.kind)

def run (h : Handler) (before : List Call) (arguments : String) : Except Fault Answer :=
  match h with
  | stateful f => f before arguments
  | wrapped label f convert => do
    let given ← decodeArguments label arguments
    if f.deferred then
      let bound ← f.bind given
      return .later ((f.body bound).bind convert)
    else
      return .now (← convert (← f.apply given))

end Handler

structure Callback where
  name : Name
  description : String := ""
  schema : Value := .object []
  handler : Option Handler := none

namespace Callback

/-- The text of an answer: a text as it is, anything else as JSON. -/
def answerText : Value → Except Fault String
  | .str s => .ok s
  | v => Json.Obstacle.lift (Json.dump .spaced v)

def invokeNow (c : Callback) (before : List Call) (arguments : String) : Except Fault String :=
  match c.handler with
  | none => .error (.noHandler c.name.text)
  | some h => do
    match ← h.run before arguments with
    | .now v => answerText v
    | .later _ => throw (.needsAwait c.name.text)

def invoke (c : Callback) (before : List Call) (arguments : String) : Except Fault String :=
  match c.handler with
  | none => .error (.noHandler c.name.text)
  | some h => do
    match ← h.run before arguments with
    | .now v => answerText v
    | .later outcome => answerText (← outcome)

def tool (c : Callback) : Tool where
  name := c.name.shown
  description := c.description
  parameters := c.schema

/-- A function as a callback. A name or description that is empty is taken from the function, and
the schema, where none is given, from the parameters. -/
def wrap (f : KeywordFunction) (name description : String) (schema : Option Value)
    (parameters : List Parameter) (convert : Option (Value → Except Fault Value)) : Callback :=
  let label := if name = "" then f.name else name
  let convert := convert.getD fun v => .str <$> answerText v
  { name := .ofText label
    description := if description = "" then f.documentation else description
    schema := schema.getD (Parameter.schema parameters)
    handler := some (.wrapped label f convert) }

end Callback
end Colloquy

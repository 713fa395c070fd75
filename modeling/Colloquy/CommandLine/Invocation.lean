import Colloquy.CommandLine.Grammar
import Colloquy.Decimal.Reader
import Colloquy.Prompt

/-! # What the arguments ask for

One text to send, and options that say how. An option that is given again replaces itself, except
for the one that collects function names. Help is given whenever the options can be read at all.
-/
set_option autoImplicit false

namespace Colloquy.CommandLine

inductive OptionKey where
  | system
  | model
  | temperature
  | function
  | stream
  | config
  | verbose
  | help
deriving DecidableEq, Repr

def forms : List (OptionForm OptionKey) := [
  { key := .system, long := "system", short := some 's', takesValue := true },
  { key := .model, long := "model", short := some 'm', takesValue := true },
  { key := .temperature, long := "temperature", short := some 'T', takesValue := true },
  { key := .function, long := "function", short := some 'f', takesValue := true },
  { key := .stream, long := "stream" },
  { key := .config, long := "config", short := some 'c', takesValue := true },
  { key := .verbose, long := "verbose", short := some 'v' },
  { key := .help, long := "help" }]

structure Invocation where
  text : String
  system : Option String := none
  model : Option String := none
  temperature : Option Float := none
  functions : List String := []
  stream : Bool := false
  config : Option String := none
  verbose : Bool := false

inductive Intent where
  | help
  | misuse
  | run (i : Invocation)

def hasFlag (key : OptionKey) (items : List (Item OptionKey)) : Bool :=
  items.any fun
    | .flag k => k = key
    | _ => false

def values (key : OptionKey) (items : List (Item OptionKey)) : List String :=
  items.filterMap fun
    | .value k text => if k = key then some text else none
    | _ => none

def positionals (items : List (Item OptionKey)) : List String :=
  items.filterMap fun
    | .positional text => some text
    | _ => none

/-- The invocation that items describe: exactly one text, and a temperature that is a number. -/
def Invocation.ofItems? (items : List (Item OptionKey)) : Option Invocation := do
  let last (key : OptionKey) : Option String := (values key items).getLast?
  let temperature ← match last .temperature with
    | none => pure none
    | some text => some <$> Decimal.read? text.toList
  match positionals items with
  | [text] => return {
      text
      system := last .system
      model := last .model
      temperature
      functions := values .function items
      stream := hasFlag .stream items
      config := last .config
      verbose := hasFlag .verbose items }
  | _ => none

def Intent.ofArguments (args : List String) : Intent :=
  match items? forms args with
  | none => .misuse
  | some items =>
    if hasFlag .help items then .help
    else match Invocation.ofItems? items with
      | some i => .run i
      | none => .misuse

/-- A prompt of a user's text, behind a system text if there is one. It has options of its own where
something is asked for. -/
def composePrompt (text system model temperature : Value) (functions : List String) : Prompt :=
  let messages :=
    (if system.truthy then [PromptMessage.system system] else []) ++ [PromptMessage.user text]
  let asks := model.truthy || !temperature.isNull || !functions.isEmpty
  let options : Options :=
    { (({} : Options).set .model model).set .temperature temperature with
      functions := Name.distinct (functions.map Name.ofText) }
  { messages, options := if asks then some (.full options) else none }

def Invocation.prompt (i : Invocation) : Prompt :=
  composePrompt (.str i.text) (Value.ofOption (i.system.map .str))
    (Value.ofOption (i.model.map .str)) (Value.ofOption (i.temperature.map .float)) i.functions

end Colloquy.CommandLine

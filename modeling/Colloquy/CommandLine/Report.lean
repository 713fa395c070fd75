import Colloquy.CommandLine.Invocation
import Colloquy.Config
import Colloquy.Registry.Discovery

/-! # What a command does

A command reads its configuration, sends one prompt and reports: what it prints, the code it ends
with, and the fault that ended it where that is not one of the library's own.
-/
set_option autoImplicit false

namespace Colloquy.CommandLine

inductive Print where
  | line (markup : String)
  | fragment (content : Value)
  | panel (title markdown : String)
  | lineEnd

/-- A reply written as an object: its status, 200 where none is given, and its body. -/
def replyOfText? (text : String) : Option Reply :=
  match Json.read text with
  | .ok (.object ms) =>
    let status := match Keyed.get? "status" ms with
      | some (.int n) => n
      | _ => 200
    match Keyed.get? "body" ms with
    | some (.str body) => some (.answer status [.octets (Text.octets body)])
    | _ => some (.answer status [])
  | _ => none

structure Surroundings where
  key : Option String := none
  disk : Disk := {}
  entryPoints : List EntryPoint := []
  replies : List Reply := []

structure Report where
  exitCode : Nat
  prints : List Print := []
  /-- Whether everything is logged; nothing where the command does not come to run. -/
  verbose : Option Bool := none
  fault : Option Fault := none
  journal : Journal := {}
  endpoint : Option Endpoint := none
  sent : List String := []

def colored (color text : String) : Print :=
  .line ("[" ++ color ++ "]" ++ text ++ "[/" ++ color ++ "]")

def missingKey : Print :=
  colored "red" ("No API key: set " ++ Config.keyVariable ++ " or api_key in the config file.")

def fragments (responses : List Response) : List Print :=
  responses.filterMap fun r => r.result.map fun g => .fragment g.content

def usageLine (usage : Members) : List Print :=
  let count (name : String) : String := ((usage.get? name).getD (.int 0)).text
  if usage.isEmpty then []
  else [colored "dim" ("tokens: " ++ count "prompt_tokens" ++ " in / " ++
    count "completion_tokens" ++ " out")]

/-- What an answer prints. Only text can be shown in a frame. -/
def answerPrints (r : Response) : Except Fault (List Print) :=
  match r.result with
  | none => .ok [colored "yellow" "No response returned."]
  | some g => match g.content with
    | .str markdown => .ok (.panel "MiniMax" markdown :: usageLine r.usage)
    | v => .error (.notMarkup v.kind)

/-- Faults of the library are printed by name, others end the command as they are. -/
def ownFault (f : Fault) : List Print × Option Fault :=
  match f.ownName? with
  | some name => ([colored "red" (name ++ ": " ++ f.message)], none)
  | none => ([], some f)

def send (c : Client) (p : Prompt) (stream : Bool) :
    Run (Session Link) (List Print × Option Fault) := do
  if stream then
    let feed ← c.stream p none
    let printed := fragments feed.items
    return (if feed.fault.isSome then printed else printed ++ [.lineEnd], feed.fault)
  else return (← Run.ofExcept (answerPrints (← c.call p)), none)

/-- Finds callbacks, builds the client and sends the prompt. The link is closed in the end. -/
def runClient (entryPoints : List EntryPoint) (config : Config) (p : Prompt) (stream : Bool)
    (s : Session Link) : Report :=
  let (_, s) := (Session.discover EntryPoint.callbackGroup entryPoints).exec s
  let report (prints : List Print) (fault : Option Fault) (endpoint : Option Endpoint)
      (s : Session Link) : Report :=
    let (said, fault') := (fault.map ownFault).getD ([], none)
    { exitCode := if fault.isSome then 1 else 0
      prints := prints ++ said
      fault := fault'
      journal := s.journal
      endpoint
      sent := s.link.sent }
  match config.setup with
  | .error f => report [] (some f) none s
  | .ok setup =>
    let s := { s with
      registry := setup.client.begin s.registry
      link := { s.link with endpoint := some setup.endpoint } }
    let (outcome, s) := (send setup.client p stream).exec s
    let s := { s with link := s.link.close }
    match outcome with
    | .ok (prints, fault) => report prints fault (some setup.endpoint) s
    | .error f => report [] (some f) (some setup.endpoint) s

def Invocation.run (i : Invocation) (around : Surroundings) : Report :=
  let (loaded, log) := (Config.load around.disk around.key i.config).exec []
  let report : Report := match loaded with
    | .error f => { exitCode := 1, fault := some f, journal := .ofLog log }
    | .ok config =>
      if config.apiKey.truthy then
        runClient around.entryPoints config i.prompt i.stream {
          registry := [Level.ofCallbacks [] none]
          journal := .ofLog log
          link := { replies := around.replies } }
      else { exitCode := 1, prints := [missingKey], journal := .ofLog log }
  { report with verbose := some i.verbose }

def run (around : Surroundings) (args : List String) : Report :=
  match Intent.ofArguments args with
  | .help => { exitCode := 0 }
  | .misuse => { exitCode := 2 }
  | .run i => i.run around

end Colloquy.CommandLine

import Colloquy.Client
import Colloquy.Disk
import Colloquy.Text.Utf8
import Colloquy.Yaml.Document

/-! # Configuration

Where the configuration is looked for, and what its file may say. A key in the environment wins over
one in the file. Sections take the keys they know and note the others; values are not checked before
a client is built from them.
-/
set_option autoImplicit false

namespace Colloquy

/-- Defaults for every request. The names of enabled functions are taken apart later. -/
structure OptionDefaults where
  settings : Settings := Options.standard.layer.settings
  functions : Value := .list []

structure Config where
  apiKey : Value := .str ""
  baseUrl : Value := .str Endpoint.defaultBase
  timeout : Value := .int 120
  options : OptionDefaults := {}
  retry : Backoff := {}
  rounds : Value := .int 10
  policy : FragmentPolicy := .proceed

abbrev Loading := Run (List LogEntry)

def Loading.note (entry : LogEntry) : Loading Unit :=
  modify fun log => log ++ [entry]

/-! ## Sections -/

structure Section where
  title : String
  keys : List String

namespace Section

def known (s : Section) : Value → Except Fault Members
  | .object ms => .ok (ms.filter fun p => s.keys.contains p.1)
  | .table es => .ok (es.filterMap fun
    | (.str k, v) => if s.keys.contains k then some (k, v) else none
    | _ => none)
  | v => .error (.noAttribute v.kind "items")

def knows (s : Section) (n : Name) : Bool :=
  match n.shown with
  | .str k => s.keys.contains k
  | _ => false

def unknown (s : Section) (raw : Value) : Except Fault (List Value) := do
  let names ← Name.setOf raw
  return (← NumberError.lift (Name.ordered (names.filter fun n => !s.knows n))).map Name.shown

def unknownNote (s : Section) (keys : List String) : LogEntry :=
  ⟨.warning, "Ignoring unknown " ++ s.title ++ " keys: " ++ String.intercalate ", " keys⟩

def read (s : Section) (raw : Value) : Loading Members := do
  if !raw.truthy then return []
  let unknown ← Run.ofExcept (s.unknown raw)
  if !unknown.isEmpty then
    Loading.note (s.unknownNote (← Run.ofExcept (Value.texts 0 unknown)))
  Run.ofExcept (s.known raw)

end Section

namespace OptionDefaults

def settingsKnown : List Setting :=
  [.model, .temperature, .topP, .maxTokens, .frequencyPenalty, .presencePenalty, .seed, .stop,
    .toolChoice]

def fileSection : Section where
  title := "OptionsSpec"
  keys := settingsKnown.map Setting.name ++ ["functions"]

def ofMembers (ms : Members) : OptionDefaults :=
  let base : OptionDefaults := {}
  { settings := fun k =>
      if settingsKnown.contains k then (ms.get? k.name).getD (base.settings k) else .null
    functions := (ms.get? "functions").getD base.functions }

end OptionDefaults

namespace Backoff

def fileSection : Section where
  title := "RetrySpec"
  keys := ["max_attempts", "backoff_base", "backoff_factor", "max_backoff"]

def ofMembers (ms : Members) : Backoff :=
  let base : Backoff := {}
  { maxAttempts := (ms.get? "max_attempts").getD base.maxAttempts
    base := (ms.get? "backoff_base").getD base.base
    factor := (ms.get? "backoff_factor").getD base.factor
    cap := (ms.get? "max_backoff").getD base.cap }

end Backoff

namespace Config

def keyVariable : String := "MINIMAX_API_KEY"

/-- A key from the environment wins, unless it is empty. -/
def withKey (key : Option String) (c : Config) : Config :=
  match key with
  | some k => if k = "" then c else { c with apiKey := .str k }
  | none => c

/-! ## The file -/

def ofMapping (path : String) (raw : Value) : Loading Config := do
  let get (name : String) (default : Value) : Loading Value :=
    Run.ofExcept (raw.memberD name default)
  let policyName ← get "stream_error_policy" (.str FragmentPolicy.proceed.name)
  let policy ← match FragmentPolicy.ofValue policyName with
    | .ok p => pure p
    | .error _ => throw (.unknownPolicy path policyName)
  return {
    apiKey := (← get "api_key" (.str "")).orElse (.str "")
    baseUrl := ← get "base_url" (.str Endpoint.defaultBase)
    timeout := ← get "timeout" (.int 120)
    options := .ofMembers (← OptionDefaults.fileSection.read (← get "options" .null))
    retry := .ofMembers (← Backoff.fileSection.read (← get "retry" .null))
    rounds := ← get "max_tool_rounds" (.int 10)
    policy }

def unifyLines : List Char → List Char
  | '\r' :: '\n' :: rest => '\n' :: unifyLines rest
  | '\r' :: rest => '\n' :: unifyLines rest
  | c :: rest => c :: unifyLines rest
  | [] => []

def sections : List String := ["options", "retry"]

/-- The mapping that an entry of a disk holds; nothing at all stands for an empty one. -/
def readMapping (path : String) : DiskEntry → Except Fault Value
  | .directory => .error .isDirectory
  | .file octets => do
    let text ← match Text.utf8? false octets with
      | some text => .ok text
      | none => .error .malformedText
    let document ← Yaml.readDocument (unifyLines text)
    match (document.value sections).orElse (.object []) with
    | .object ms => return .object ms
    | .table es => return .table es
    | _ => throw (.notMapping path)

def loadingNote (path : String) : LogEntry := ⟨.info, "Loading config from " ++ path⟩

def missingNote (path : String) : LogEntry :=
  ⟨.warning, "Config file not found: " ++ path ++ ", using defaults"⟩

def noFileNote : LogEntry := ⟨.info, "No config file found, using defaults"⟩

def ofEntry (path : String) (entry : DiskEntry) : Loading Config := do
  Loading.note (loadingNote path)
  ofMapping path (← Run.ofExcept (readMapping path entry))

/-! ## Where it is looked for -/

def localFile : List String := ["minimax_chat.yaml"]

def homeFile : List String := [".config", "minimax-chat", "config.yaml"]

def discover? (disk : Disk) : Option (String × DiskEntry) :=
  ((disk.here.at? localFile).map fun e => (Path.text { parts := localFile }, e)) <|>
  ((disk.home.at? homeFile).map fun e => (Path.text { parts := "~" :: homeFile }, e))

def loadFile (disk : Disk) (path : Option String) : Loading Config :=
  match path with
  | some text => do
    match ← Run.ofExcept (disk.find? (.ofText text)) with
    | some entry => ofEntry (Path.ofText text).text entry
    | none =>
      Loading.note (missingNote text)
      return {}
  | none =>
    match discover? disk with
    | some (shown, entry) => ofEntry shown entry
    | none => do
      Loading.note noFileNote
      return {}

/-- The configuration at `path`, or where one is found, under the key of the environment. -/
def load (disk : Disk) (key path : Option String) : Loading Config :=
  withKey key <$> loadFile disk path

/-! ## A client for it -/

structure Timeouts where
  connect : Value := .int 30
  read : Value := .int 300
  write : Value
  pool : Value

structure Setup where
  client : Client
  endpoint : Endpoint
  timeouts : Timeouts

def setup (c : Config) : Except Fault Setup := do
  let endpoint ← Endpoint.make c.apiKey c.baseUrl
  let functions ← Name.setOf c.options.functions
  let backoff ← c.retry.check
  return {
    client := {
      defaults := { layer := { settings := c.options.settings }, functions }
      backoff
      rounds := c.rounds
      policy := c.policy }
    endpoint
    timeouts := { write := c.timeout, pool := c.timeout } }

end Config
end Colloquy

import Colloquy.Completion
import Colloquy.Conversation
import Colloquy.Endpoint
import Colloquy.Feed
import Colloquy.Json.Reader
import Colloquy.Text.Blank
import Colloquy.Text.Lines
import Colloquy.Text.Utf8

/-! # Exchanges with the service

One request body goes out, one reply comes back. This module turns the reply into the outcomes the
rest of the library knows: a completion or none, the chunks of a stream, or a fault that says
whether another attempt makes sense.
-/
set_option autoImplicit false

namespace Colloquy

inductive Piece where
  | octets (bytes : List UInt8)
  | broken (fault : Fault)

inductive Reply where
  | fault (f : Fault)
  | answer (status : Int) (body : List Piece)

/-- The link to the service: the replies still to come and the bodies sent so far. A link without an
endpoint takes every request. -/
structure Link where
  endpoint : Option Endpoint := none
  replies : List Reply := []
  isOpen : Bool := true
  sent : List String := []

namespace Link

def close (l : Link) : Link := { l with isOpen := false }

def ask (check : Endpoint → Except Fault Unit) : Run Link Unit := do
  match (← get).endpoint with
  | none => return ()
  | some endpoint => Run.ofExcept (check endpoint)

def address : Run Link Unit :=
  ask Endpoint.checkAddress

def post (body : String) : Run Link (Int × List Piece) := do
  ask Endpoint.checkHost
  let l ← get
  if !l.isOpen then throw .clientClosed
  let l := { l with sent := l.sent ++ [body] }
  match l.replies with
  | [] =>
    set l
    throw .scriptExhausted
  | reply :: rest =>
    set { l with replies := rest }
    match reply with
    | .fault f => throw f
    | .answer status body =>
      ask Endpoint.checkOrigin
      return (status, body)

end Link

namespace Exchange

def transientStatuses : List Int := [429, 500, 502, 503, 504]

def ofNetwork (what : String) : Fault → Fault
  | .network cause text =>
    if cause.isTimeout then .transient ("MiniMax " ++ what ++ " timeout: " ++ text) .null
    else if cause.isTransport then
      .transient ("MiniMax " ++ what ++ " transport error: " ++ text) .null
    else .network cause text
  | f => f

/-- The refusal that a status of 400 or more stands for, with the beginning of the body. -/
def refusal (status : Int) (body : List Char) : Fault :=
  let message := "MiniMax API returned " ++ intText status
  let message :=
    if body.isEmpty then message else message ++ ": " ++ String.ofList (body.take 500)
  if transientStatuses.contains status then .transient message (.int status)
  else .api message (.int status)

def wholeBody : List Piece → Except Fault (List UInt8)
  | [] => .ok []
  | .octets bytes :: rest => do return bytes ++ (← wholeBody rest)
  | .broken f :: _ => .error f

def arrived : List Piece → List UInt8 × Option Fault
  | [] => ([], none)
  | .octets bytes :: rest => let (more, f) := arrived rest; (bytes ++ more, f)
  | .broken f :: _ => ([], some f)

def accept (data : Value) : Except Fault (Option Completion) := do
  match data with
  | .null => return none
  | .object _ =>
    match Completion.decode data with
    | .ok c =>
      ServiceStatus.check c.status
      return some c
    | .error f =>
      if f.isDataFault then
        throw (.api ("MiniMax API returned a malformed completion: " ++ f.message) .null)
      else throw f
  | _ => throw (.api "MiniMax API returned a non-object body" .null)

def interpret (status : Int) (body : List UInt8) : Except Fault (Option Completion) := do
  if 400 ≤ status then throw (refusal status (Text.utf8Lossy body))
  if body.all Text.isBlankOctet then return none
  match Text.jsonText? body with
  | none => throw .malformedText
  | some text =>
    match Json.readChars text with
    | .error .malformed => throw (.api "MiniMax API returned invalid JSON" .null)
    | .error flaw => throw (.unreadable flaw)
    | .ok data => accept data

def send (r : Request) : Run Link (Int × List Piece) := do
  let payload ← Run.ofExcept r.toValue
  Link.address
  Link.post (← Run.ofExcept (Json.Obstacle.lift (Json.dump .compact payload)))

def fetch (r : Request) : Run Link (Int × List UInt8) := do
  let (status, pieces) ← send r
  return (status, ← Run.ofExcept (wholeBody pieces))

/-- Asks for one completion. An empty answer is none. -/
def complete (r : Request) : Run Link (Option Completion) := do
  if r.stream.truthy then throw (.streamFlag false)
  match ← liftM (fetch r).outcome with
  | .error f => throw (ofNetwork "API" f)
  | .ok (status, octets) => Run.ofExcept (interpret status octets)

inductive Line where
  | skip
  | undecodable (data : List Char)
  | unreadable (flaw : Json.Flaw)
  | done
  | data (v : Value)

/-- Reads one line; only lines that begin with `data:` say anything. -/
def Line.read (line : String) : Line :=
  match line.toList with
  | 'd' :: 'a' :: 't' :: 'a' :: ':' :: rest =>
    let data := Text.trimBlanks rest
    if data.isEmpty then .skip
    else if data = ['[', 'D', 'O', 'N', 'E', ']'] then .done
    else
      match Json.readChars data with
      | .error .malformed => .undecodable data
      | .error flaw => .unreadable flaw
      | .ok .null => .skip
      | .ok v => .data v
  | _ => .skip

def undecodableNote (data : List Char) : LogEntry :=
  ⟨.warning, "Skipping undecodable stream line: " ++ String.ofList (data.take 200)⟩

def malformedNote (f : Fault) : LogEntry :=
  ⟨.warning, "Malformed stream fragment: " ++ f.message⟩

/-- A value as a chunk; where it has the wrong shape, the chunk that says so, with a note. -/
def readChunk (v : Value) : Chunk × List LogEntry :=
  match Chunk.ofValue v with
  | .ok c => (c, [])
  | .error f => (Chunk.malformed v f.message, [malformedNote f])

def chunkEvents (v : Value) : List (Feed.Event Chunk) :=
  let (chunk, notes) := readChunk v
  notes.map .note ++ [.item chunk]

/-- The chunks of a stream of lines, up to the end it announces or a line that cannot be read. -/
def chunkFeed (fault : Option Fault) : List String → Feed Chunk
  | [] => ⟨[], fault⟩
  | line :: rest =>
    match Line.read line with
    | .skip => chunkFeed fault rest
    | .undecodable data => Feed.after [.note (undecodableNote data)] (chunkFeed fault rest)
    | .unreadable flaw => Feed.failed (.unreadable flaw)
    | .done => {}
    | .data v => Feed.after (chunkEvents v) (chunkFeed fault rest)

/-- The lines of a body as far as it arrives. A line that may still grow when the body breaks off is
not complete. -/
def bodyLines (octets : List UInt8) (isWhole : Bool) : List String :=
  let text := Text.Utf8State.ofOctets octets
  if isWhole then (Text.LineFeed.ofText text.finish.text).all
  else (Text.LineFeed.ofText text.text).complete

def streamFeed (status : Int) (pieces : List Piece) : Feed Chunk :=
  if 400 ≤ status then
    match wholeBody pieces with
    | .ok octets => Feed.failed (refusal status (Text.utf8Lossy octets))
    | .error f => Feed.failed (ofNetwork "stream" f)
  else
    let (octets, fault) := arrived pieces
    chunkFeed (fault.map (ofNetwork "stream")) (bodyLines octets fault.isNone)

def openStream (r : Request) : StateM Link (Feed Chunk) := do
  if !r.stream.truthy then return Feed.failed (.streamFlag true)
  match ← (send r).outcome with
  | .error f => return Feed.failed (ofNetwork "stream" f)
  | .ok (status, pieces) => return streamFeed status pieces

end Exchange
end Colloquy

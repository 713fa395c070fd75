import Colloquy.Backoff
import Colloquy.Exchange
import Colloquy.Prompt
import Colloquy.RoleMemory

/-! # The chat client

Prompts become requests: roles for turns, per-call options over defaults, tools for the enabled
functions. A call is a whole conversation under retry; a stream is a feed of responses, one for each
fragment.
-/
set_option autoImplicit false

namespace Colloquy

abbrev Source (τ : Type) := Request → StateM τ (Feed Chunk)

inductive FragmentPolicy where
  /-- It is noted, and an empty response takes its place. -/
  | proceed
  | abort
deriving DecidableEq, Repr

structure Client where
  defaults : Options := Options.standard
  backoff : Backoff := {}
  /-- The limit on follow-ups as it was given; it is checked when a conversation begins. -/
  rounds : Value := .int 10
  policy : FragmentPolicy := .proceed

namespace FragmentPolicy

def all : List FragmentPolicy := [proceed, abort]

def name : FragmentPolicy → String
  | proceed => "continue"
  | abort => "abort"

def ofValue (v : Value) : Except Fault FragmentPolicy :=
  match v with
  | .str s => match all.find? fun p => p.name = s with
    | some p => .ok p
    | none => .error (.notMember v "StreamErrorPolicy")
  | _ => .error (.notMember v "StreamErrorPolicy")

end FragmentPolicy

namespace Client

/-- The registry a client begins with: the callbacks of its defaults are added where no level holds
their names. -/
def begin (c : Client) (r : Registry) : Registry :=
  c.defaults.callbacks.foldl (fun r callback => (r.registerIfAbsent callback).2) r

variable {τ : Type}

def overlayOf (o : Options) : Level :=
  Level.ofCallbacks o.callbacks none

def prepare (c : Client) (p : Prompt) (stream : Bool) :
    Run (Session τ) (Request × Option Level) := do
  let messages ← Run.ofExcept (p.messages.mapM PromptMessage.toMessage)
  let bare : Request := { messages, stream := .bool stream }
  let call ← Run.ofExcept (p.options.mapM Options.ofCall)
  let overlay := call.map overlayOf
  let own ← Run.ofExcept (call.elim (.ok []) fun o => o.enabled true)
  let defaults ← Run.ofExcept (c.defaults.enabled false)
  let tools ← Session.overlaid overlay (Session.tools (own ++ defaults))
  return (bare.merge (call.map Options.layer) (some c.defaults.layer) tools, overlay)

def createRequest (c : Client) (p : Prompt) (stream : Bool) : Run (Session τ) Request :=
  Prod.fst <$> c.prepare p stream

def generationOf (id : Value) (choice : Choice) : Generation :=
  let finish := FinishReason.toValue choice.finishReason
  { content := choice.message.content.orElse (.str "")
    metadata := .object [
      ("id", id),
      ("role", Message.roleValue choice.message.role),
      ("finish_reason", finish.orElse (.str ""))]
    finishReason := finish }

def responseOf (c : Completion) : Response where
  generations := c.choices.map (generationOf c.id)
  usage := c.usage.elim [] Usage.toMembers

def noCompletionNote : LogEntry :=
  ⟨.warning, "No chat completion returned for prompt"⟩

def respond (completion : Option Completion) : Run (Session τ) Response :=
  match completion with
  | none => do
    Session.note noCompletionNote
    return {}
  | some c => return responseOf c

def callOver (c : Client) (send : Transport τ) (fuel : Nat) (p : Prompt) :
    Run (Session τ) Response := do
  let (request, overlay) ← c.prepare p false
  let limit ← Run.ofExcept (RoundLimit.ofValue c.rounds)
  let fuel := limit.most.getD fuel
  let completion ← Session.overlaid overlay
    (c.backoff.execute (Conversation.drive send limit fuel request))
  respond completion

/-- Sends a prompt and follows its tool calls. Every follow-up takes a reply, so the replies still
to come bound their number. -/
def call (c : Client) (p : Prompt) : Run (Session Link) Response := do
  c.callOver Exchange.complete ((← get).link.replies.length + 1) p

def processFragment (chunk : Chunk) : Run RoleMemory Response := do
  let completion ← RoleMemory.normalizing chunk
  discard (Run.ofExcept (Conversation.passFragment (some completion)))
  return responseOf completion

def fragmentNote (chunk : Chunk) : LogEntry :=
  ⟨.error, "Error processing chat completion chunk " ++ chunk.id.text⟩

/-- The responses for the fragments of a feed. A fragment that asks for tools always ends them. -/
def responses (policy : FragmentPolicy) (fault : Option Fault) :
    RoleMemory → List (Feed.Event Chunk) → Feed Response
  | _, [] => ⟨[], fault⟩
  | m, .note e :: rest => Feed.after [.note e] (responses policy fault m rest)
  | m, .sleep v :: rest => Feed.after [.sleep v] (responses policy fault m rest)
  | m, .item chunk :: rest =>
    match (processFragment chunk).exec m with
    | (.ok response, m) => Feed.after [.item response] (responses policy fault m rest)
    | (.error .streamedToolCall, _) => Feed.failed .streamedToolCall
    | (.error f, m) =>
      match policy with
      | .abort => Feed.failed f
      | .proceed =>
        Feed.after [.note (fragmentNote chunk), .item {}] (responses policy fault m rest)

def streamFeed (c : Client) (source : StateM τ (Feed Chunk)) : StateM τ (Feed Response) := do
  let chunks ← c.backoff.feed source
  return responses c.policy chunks.fault [] chunks.events

def streamOver (c : Client) (source : Source τ) (p : Prompt) (limit : Option Nat) :
    Run (Session τ) (Feed Response) := do
  if limit = some 0 then return {}
  let (request, _) ← c.prepare p true
  discard (Run.ofExcept (RoundLimit.ofValue c.rounds))
  let s ← get
  let (feed, link) := (c.streamFeed (source request)).run s.link
  let feed := limit.elim feed feed.take
  set { s with link := link, journal := s.journal.add feed.journal.events }
  return feed

/-- Streams a prompt to a reader who stops after `limit` responses. One who never starts has nothing
done for him. -/
def stream (c : Client) (p : Prompt) (limit : Option Nat) : Run (Session Link) (Feed Response) :=
  c.streamOver Exchange.openStream p limit

end Client
end Colloquy

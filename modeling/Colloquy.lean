import Colloquy.Main
import Colloquy.Sample
import Colloquy.Proofs.Names
import Colloquy.Proofs.Outcome
import Colloquy.Proofs.Retry.Attempts
import Colloquy.Proofs.Retry.Reopening
import Colloquy.Proofs.Registry.Lookup
import Colloquy.Proofs.Registry.Places
import Colloquy.Proofs.Registry.Runs
import Colloquy.Proofs.Registry.Law
import Colloquy.Proofs.Registry.Leading
import Colloquy.Proofs.Registry.Unfolding
import Colloquy.Proofs.Registry.Filling
import Colloquy.Proofs.Conversation.Answering
import Colloquy.Proofs.Conversation.Course
import Colloquy.Proofs.Conversation.Law
import Colloquy.Proofs.Conversation.Resolving
import Colloquy.Proofs.Conversation.Rounds
import Colloquy.Proofs.Conversation.Supply
import Colloquy.Proofs.Stream.Fragments
import Colloquy.Proofs.Stream.Verdicts
import Colloquy.Proofs.Stream.Parity
import Colloquy.Proofs.Stream.Roles
import Colloquy.Proofs.Decoding.Json
import Colloquy.Proofs.Decoding.Grammar
import Colloquy.Proofs.Decoding.Messages
import Colloquy.Proofs.Decoding.Agreement
import Colloquy.Proofs.Exchange.Sending
import Colloquy.Proofs.Exchange.Streams
import Colloquy.Proofs.Exchange.Answers
import Colloquy.Proofs.Exchange.Outcomes
import Colloquy.Proofs.Exchange.Failures
import Colloquy.Proofs.Exchange.Halting
import Colloquy.Proofs.Exchange.Lines
import Colloquy.Proofs.Client.Layers
import Colloquy.Proofs.Client.Requests
import Colloquy.Proofs.Client.Calls
import Colloquy.Proofs.Client.Streams
import Colloquy.Proofs.Client.Histories
import Colloquy.Proofs.Client.Recovery
import Colloquy.Proofs.Client.Resilience
import Colloquy.Proofs.Client.Dispatch
import Colloquy.Proofs.Config.Sections
import Colloquy.Proofs.Config.Wire
import Colloquy.Proofs.Json.Escapes
import Colloquy.Proofs.Json.Integers
import Colloquy.Proofs.Json.Layout
import Colloquy.Proofs.Json.Exact
import Colloquy.Proofs.Json.Arguments
import Colloquy.Proofs.Config.UnknownKeys
import Colloquy.Proofs.Retry.Exhaustion
import Colloquy.Proofs.Registry.Discovery
import Colloquy.Proofs.Exchange.Payloads
import Colloquy.Proofs.Json.Limits

import Colloquy.Proofs.Decoding.Grammar
import Colloquy.Proofs.Exchange.Sending

/-! # What becomes of an answer

An answer that arrives whole is refused, empty, or data to be decoded. Data that fits the grammar of
completions is one, unless the service refuses in it; all other data is a refusal too. The same data in
a stream is a chunk that says what is wrong with it.
-/
set_option autoImplicit false

namespace Colloquy

namespace Exchange

/-- For a request one body is sent, and these octets come back for it with this status. -/
structure Receives (l : Link) (r : Request) (body : String) (status : Int) (octets : List UInt8) :
    Prop where
  whole : r.stream.truthy = false
  sendable : l.body? r = .ok body
  origin : Link.finds l.endpoint Endpoint.checkOrigin = .ok ()
  reply : ∃ pieces, l.replies.head? = some (.answer status pieces) ∧ wholeBody pieces = .ok octets

def Holds (octets : List UInt8) (v : Value) : Prop :=
  octets.all Text.isBlankOctet = false ∧
    ∃ text, Text.jsonText? octets = some text ∧ Json.readChars text = .ok v

section

variable {l : Link} {r : Request} {body : String} {status : Int} {octets : List UInt8} {v : Value}

theorem Receives.exec (h : Receives l r body status octets) :
    (complete r).exec l = (interpret status octets, l.sending body) := by
  obtain ⟨pieces, hReply, hWhole⟩ := h.reply
  have ended : completed l.endpoint l.replies.head? = interpret status octets := by
    simp [completed, hReply, Link.answer, h.origin, Except.map, Except.bind, hWhole]
  rw [exec_complete h.whole, h.sendable]
  simp only [ended]

theorem Holds.isJson (h : Holds octets v) : v.IsJson Json.room := by
  obtain ⟨-, text, -, hRead⟩ := h
  exact Json.isJson_of_readChars hRead

theorem refusal_eq (status : Int) (text : List Char) :
    ∃ message, refusal status text =
      if transientStatuses.contains status then .transient message (.int status)
      else .api message (.int status) :=
  ⟨_, rfl⟩

theorem interpret_of_refusing (refusing : 400 ≤ status) (octets : List UInt8) :
    interpret status octets = .error (refusal status (Text.utf8Lossy octets)) := by
  rw [interpret, if_pos refusing]
  rfl

theorem interpret_of_blank (taking : ¬ 400 ≤ status)
    (blank : octets.all Text.isBlankOctet = true) : interpret status octets = .ok none := by
  rw [interpret, if_neg taking, if_pos blank]
  rfl

theorem interpret_of_text {text : List Char} (taking : ¬ 400 ≤ status)
    (present : octets.all Text.isBlankOctet = false) (legible : Text.jsonText? octets = some text) :
    interpret status octets = match Json.readChars text with
      | .error .malformed => .error (.api "MiniMax API returned invalid JSON" .null)
      | .error flaw => .error (.unreadable flaw)
      | .ok data => accept data := by
  simp only [interpret, if_neg taking, present, legible]
  rcases Json.readChars text with (- | digits | what) | data <;> rfl

theorem interpret_of_holds (taking : ¬ 400 ≤ status) (h : Holds octets v) :
    interpret status octets = accept v := by
  obtain ⟨present, text, legible, hRead⟩ := h
  rw [interpret_of_text taking present legible, hRead]

theorem accept_of_decode {ms : Members} {c : Completion}
    (decoded : Completion.decode (.object ms) = .ok c) :
    accept (.object ms) = (ServiceStatus.check c.status).map fun _ => some c := by
  simp only [accept, decoded]
  cases ServiceStatus.check c.status <;> rfl

theorem accept_of_decode_error {ms : Members} {f : Fault}
    (failed : Completion.decode (.object ms) = .error f) (shape : f.IsShape) :
    accept (.object ms) =
      .error (.api ("MiniMax API returned a malformed completion: " ++ f.message) .null) := by
  simp only [accept, failed, shape.isDataFault]
  rfl

end

theorem error_of_decode {v : Value} {chunk : Chunk} (h : Chunk.decode v = .ok chunk) :
    chunk.error = none := by
  unfold Chunk.decode at h
  obtain ⟨id, -, h⟩ := ok_of_bind h
  obtain ⟨member, -, h⟩ := ok_of_bind h
  obtain ⟨items, -, h⟩ := ok_of_bind h
  obtain ⟨choices, -, h⟩ := ok_of_bind h
  obtain ⟨created, -, h⟩ := ok_of_bind h
  obtain ⟨model, -, h⟩ := ok_of_bind h
  obtain ⟨fingerprint, -, h⟩ := ok_of_bind h
  obtain ⟨object, -, h⟩ := ok_of_bind h
  obtain ⟨member, -, h⟩ := ok_of_bind h
  obtain ⟨status, -, h⟩ := ok_of_bind h
  obtain rfl := Except.ok.inj h
  rfl

theorem error_of_ofValue {v : Value} {chunk : Chunk} (h : Chunk.ofValue v = .ok chunk) :
    chunk.error = none := by
  cases v with
  | object ms => exact error_of_decode h
  | _ => cases h

structure Reported (v : Value) (f : Fault) (chunk : Chunk) : Prop where
  error : chunk.error = some f.message
  choices : chunk.choices = []
  id_text : ∀ s, Grammar.field "id" v = .str s → chunk.id = .str s
  id_other : (∀ s, Grammar.field "id" v ≠ .str s) → chunk.id = .str ""

theorem reported_malformed (v : Value) (f : Fault) : Reported v f (Chunk.malformed v f.message) where
  error := rfl
  choices := rfl
  id_text := by
    intro s hText
    cases v with
    | object ms =>
      cases hId : Keyed.get? "id" ms with
      | none => simp [Grammar.field, hId] at hText
      | some w =>
        obtain rfl : w = .str s := by simpa [Grammar.field, hId] using hText
        simp [Chunk.malformed, Chunk.malformedId, hId]
    | _ => cases hText
  id_other := by
    intro noText
    cases v with
    | object ms =>
      cases hId : Keyed.get? "id" ms with
      | none => simp [Chunk.malformed, Chunk.malformedId, hId]
      | some w =>
        cases w with
        | str s => exact absurd (by simp [Grammar.field, hId]) (noText s)
        | _ => simp [Chunk.malformed, Chunk.malformedId, hId]
    | _ => rfl

/-- The decoders take what the grammar says and nothing else. Where one fails it is for the shape of
its data, which becomes a chunk that says so or a refusal. -/
theorem decoding_exact {v : Value} (json : v.IsJson Json.room) :
    ((∃ c, Completion.decode v = .ok c) ↔ Grammar.completion v = true) ∧
    ((∃ c, Chunk.ofValue v = .ok c) ↔ Grammar.chunk v = true) ∧
    (∀ f, Completion.decode v = .error f → f.IsShape) ∧
    (∀ f, Chunk.ofValue v = .error f → f.IsShape) ∧
    (∀ chunk, Chunk.ofValue v = .ok chunk → readChunk v = (chunk, []) ∧ chunk.error = none) ∧
    (∀ f, Chunk.ofValue v = .error f →
      ∃ chunk, readChunk v = (chunk, [malformedNote f]) ∧ Reported v f chunk) ∧
    (∀ (r : Request) (l : Link) (body : String) (status : Int) (octets : List UInt8) (f : Fault),
      Receives l r body status octets → status < 400 → Holds octets v →
      Grammar.isObject v = true → Completion.decode v = .error f →
      (complete r).exec l = (.error (.api ("MiniMax API returned a malformed completion: " ++
        f.message) .null), l.sending body)) := by
  have completions := Completion.judged_decode json
  have chunks := Chunk.judged_ofValue json
  refine ⟨completions.fits_iff.symm, chunks.fits_iff.symm, fun _ => completions.shape_of_error,
    fun _ => chunks.shape_of_error, ?_, ?_, ?_⟩
  · intro chunk decoded
    exact ⟨by simp only [readChunk, decoded], error_of_ofValue decoded⟩
  · intro f failed
    exact ⟨_, by simp only [readChunk, failed], reported_malformed v f⟩
  · intro r l body status octets f received taking held object failed
    have shape : f.IsShape := completions.shape_of_error failed
    rw [received.exec, interpret_of_holds (Int.not_le.mpr taking) held]
    cases v with
    | object ms => rw [accept_of_decode_error failed shape]
    | _ => cases object

def plainRequest : Request := { messages := [], stream := .bool false }

/-- The text `{"usage":7}`, which counts tokens with a number. -/
def countedOctets : List UInt8 :=
  [0x7B, 0x22, 0x75, 0x73, 0x61, 0x67, 0x65, 0x22, 0x3A, 0x37, 0x7D]

def countedLink : Link := { replies := [.answer 200 [.octets countedOctets]] }

theorem decoding_exact_counted :
    ∃ body f, Completion.decode (.object [("usage", .int 7)]) = .error f ∧ f.IsShape ∧
      (complete plainRequest).exec countedLink =
        (.error (.api ("MiniMax API returned a malformed completion: " ++ f.message) .null),
          countedLink.sending body) := by
  have held : Holds countedOctets (.object [("usage", .int 7)]) := ⟨rfl, _, rfl, rfl⟩
  obtain ⟨body, sendable⟩ : ∃ body, countedLink.body? plainRequest = .ok body := ⟨_, rfl⟩
  have received : Receives countedLink plainRequest body 200 countedOctets :=
    { whole := rfl
      sendable
      origin := rfl
      reply := ⟨_, rfl, rfl⟩ }
  obtain ⟨-, -, shape, -, -, -, refused⟩ := decoding_exact held.isJson
  exact ⟨body, _, rfl, shape _ rfl, refused _ _ _ _ _ _ received (by decide) held rfl rfl⟩

end Exchange

end Colloquy

import Colloquy.Proofs.Exchange.Failures

/-! # Lines of a stream

A stream delivers one chunk for each value said on its lines, in order, up to the mark of the end or a
line that goes beyond what can be read. The value `null` is the one exception: a line that says it
delivers nothing.
-/
set_option autoImplicit false

namespace Colloquy

namespace Exchange

/-- The chunk for a value: what it is decoded to where it has the form of a chunk, else a chunk that
carries what is wrong with it. -/
inductive Renders (v : Value) : Chunk → Prop where
  | chunk {c : Chunk} (fits : Grammar.chunk v = true) (decoded : Chunk.decode v = .ok c)
      (sound : c.error = none) : Renders v c
  | flawed {f : Fault} (unfit : Grammar.chunk v = false) (refused : Chunk.ofValue v = .error f) :
      Renders v { id := Chunk.malformedId v, error := some f.message }

/-- What the reader of a stream hears, if these lines arrive before the body ends or breaks off. -/
structure Hears (lines : List String) (break? : Option Fault) (feed : Feed Chunk) : Prop where
  items : List.Forall₂ Renders ((said lines).filter fun v => !v.isNull) feed.items
  items_iff : List.Forall₂ Renders (said lines) feed.items ↔ Value.null ∉ said lines
  fault_of_ended : ∀ line, lines.find? stops = some line → ends line = true → feed.fault = none
  fault_of_excess : ∀ line flaw, lines.find? stops = some line → excess? line = some flaw →
    feed.fault = some (.unreadable flaw)
  fault_of_open : (∀ line ∈ lines, stops line = false) →
    feed.fault = break?.map (ofNetwork "stream")
  transient : (∀ line ∈ lines, stops line = false) → ∀ f, break? = some f → PassingFault f →
    ∃ message, feed.fault = some (.transient message .null)

theorem renders_readChunk {v : Value} (json : v.IsJson Json.room) : Renders v (readChunk v).1 := by
  have judged := Chunk.judged_ofValue json
  have fits := judged.fits_iff
  rw [readChunk]
  cases decoded : Chunk.ofValue v with
  | error f =>
    refine .flawed ?_ decoded
    rw [decoded] at fits
    simpa using fits
  | ok c =>
    have valid : Grammar.chunk v = true := fits.mpr ⟨c, decoded⟩
    cases v with
    | object ms => exact .chunk valid decoded (error_of_decode decoded)
    | _ => cases decoded

theorem rendered_chunkFeed (fault : Option Fault) (lines : List String) :
    List.Forall₂ Renders ((said lines).filter fun v => !v.isNull) (chunkFeed fault lines).items := by
  rw [items_chunkFeed, chunksOf, List.forall₂_map_right_iff, List.forall₂_same]
  intro v hv
  exact renders_readChunk (isJson_of_mem_said (List.mem_of_mem_filter hv))

theorem forall₂_iff_of_filter {α β : Type} {R : α → β → Prop} {p : α → Bool} {xs : List α}
    {ys : List β} (kept : List.Forall₂ R (xs.filter p) ys) :
    List.Forall₂ R xs ys ↔ ∀ x ∈ xs, p x = true := by
  constructor
  · intro all
    exact List.length_filter_eq_length_iff.mp (kept.length_eq.trans all.length_eq.symm)
  · intro each
    rwa [List.filter_eq_self.mpr each] at kept

theorem holds_iff_not_mem (vs : List Value) : (∀ v ∈ vs, (!v.isNull) = true) ↔ Value.null ∉ vs := by
  constructor
  · intro each null
    cases each _ null
  · intro noNull v hv
    cases h : v.isNull with
    | false => rfl
    | true => exact absurd (Value.eq_null_of_isNull h ▸ hv) noNull

theorem hears_chunkFeed (lines : List String) (break? : Option Fault) :
    Hears lines break? (chunkFeed (break?.map (ofNetwork "stream")) lines) := by
  have items := rendered_chunkFeed (break?.map (ofNetwork "stream")) lines
  have unended (open_ : ∀ line ∈ lines, stops line = false) :
      (chunkFeed (break?.map (ofNetwork "stream")) lines).fault =
        break?.map (ofNetwork "stream") := by
    rw [fault_chunkFeed, closing?_of_open open_]
  refine ⟨items, (forall₂_iff_of_filter items).trans (holds_iff_not_mem _), ?_, ?_, unended, ?_⟩
  · intro line last ended
    rw [fault_chunkFeed, closing?_of_last last, excess?_of_ends ended]
    rfl
  · intro line flaw last beyond
    rw [fault_chunkFeed, closing?_of_last last, beyond]
    rfl
  · intro open_ f hBreak passing
    obtain ⟨message, hMessage⟩ := passing.ofNetwork_eq "stream"
    exact ⟨message, by rw [unended open_, hBreak, Option.map_some, hMessage]⟩

/-- A request for a stream, sent as `body`, to which an answer that takes it comes in: `octets` of it,
and then the fault that breaks it off if one does. -/
structure Streams (l : Link) (r : Request) (body : String) (octets : List UInt8)
    (break? : Option Fault) : Prop where
  streaming : r.stream.truthy = true
  sendable : l.body? r = .ok body
  origin : Link.finds l.endpoint Endpoint.checkOrigin = .ok ()
  reply : ∃ status pieces, l.replies.head? = some (.answer status pieces) ∧ status < 400 ∧
    arrived pieces = (octets, break?)

theorem Streams.run_openStream {l : Link} {r : Request} {body : String} {octets : List UInt8}
    {break? : Option Fault} (h : Streams l r body octets break?) :
    (openStream r).run l = (chunkFeed (break?.map (ofNetwork "stream"))
      (bodyLines octets break?.isNone), l.sending body) := by
  obtain ⟨status, pieces, hReply, taking, came⟩ := h.reply
  have taken : ¬ 400 ≤ status := Int.not_le.mpr taking
  rw [Exchange.run_openStream h.streaming, h.sendable]
  simp only [hReply, given_answer h.origin, streamFeed, if_neg taken, came]

/-- A stream delivers one chunk for each value said on its lines, in order, where none of these is
`null`; and if it breaks off, or comes to a line beyond what can be read, the chunks so far come before
the fault. -/
theorem stream_heard {l : Link} {r : Request} {body : String} {octets : List UInt8}
    {break? : Option Fault} (streams : Streams l r body octets break?) :
    ∃ feed, (openStream r).run l = (feed, l.sending body) ∧
      Hears (bodyLines octets break?.isNone) break? feed :=
  ⟨_, streams.run_openStream, hears_chunkFeed _ break?⟩

def brokenOctets : List UInt8 :=
  asciiOctets "data: \x7b\x7d\n: wait\ndata: true\ndata: tr"

def brokenLink : Link where
  replies := [.answer 200 [.octets brokenOctets, .broken (.network .readTimeout "slow")]]

theorem bodyLines_brokenOctets :
    bodyLines brokenOctets false = ["data: \x7b\x7d", ": wait", "data: true"] := by
  decide +kernel

theorem said_brokenOctets :
    said (bodyLines brokenOctets false) = [.object [], .bool true] := by
  rw [bodyLines_brokenOctets]
  rfl

theorem stream_heard_broken :
    ∃ body feed, (openStream streamedRequest).run brokenLink = (feed, brokenLink.sending body) ∧
      List.Forall₂ Renders [.object [], .bool true] feed.items ∧
      ∃ message, feed.fault = some (.transient message .null) := by
  obtain ⟨body, sendable⟩ : ∃ body, brokenLink.body? streamedRequest = .ok body := ⟨_, rfl⟩
  have streams : Streams brokenLink streamedRequest body brokenOctets
      (some (.network .readTimeout "slow")) :=
    { streaming := rfl
      sendable
      origin := rfl
      reply := ⟨_, _, rfl, by decide, by simp [arrived]⟩ }
  obtain ⟨feed, ran, hears⟩ := stream_heard streams
  change Hears (bodyLines brokenOctets false) _ feed at hears
  have open_ : ∀ line ∈ bodyLines brokenOctets false, stops line = false := by
    rw [bodyLines_brokenOctets]
    decide
  have items := hears.items
  rw [said_brokenOctets] at items
  exact ⟨body, feed, ran, items, hears.transient open_ _ rfl (.timeout rfl)⟩

def nullOctets : List UInt8 := asciiOctets "data: null\n"

def nullLink : Link where
  replies := [.answer 200 [.octets nullOctets]]

theorem said_nullOctets : said (bodyLines nullOctets true) = [.null] := by
  have lines : bodyLines nullOctets true = ["data: null"] := by decide +kernel
  rw [lines]
  rfl

theorem not_heard_null :
    ((openStream streamedRequest).run nullLink).1.items = [] ∧
    ¬ List.Forall₂ Renders (said (bodyLines nullOctets true))
      ((openStream streamedRequest).run nullLink).1.items := by
  obtain ⟨body, sendable⟩ : ∃ body, nullLink.body? streamedRequest = .ok body := ⟨_, rfl⟩
  have streams : Streams nullLink streamedRequest body nullOctets none :=
    { streaming := rfl
      sendable
      origin := rfl
      reply := ⟨_, _, rfl, by decide, by simp [arrived]⟩ }
  have silent : ((openStream streamedRequest).run nullLink).1.items = [] := by
    rw [streams.run_openStream, items_chunkFeed, chunksOf]
    change ((said (bodyLines nullOctets true)).filter _).map _ = _
    rw [said_nullOctets]
    rfl
  refine ⟨silent, ?_⟩
  rw [said_nullOctets, silent]
  intro all
  cases all

end Exchange

end Colloquy

import Colloquy.Proofs.Decoding.Agreement
import Colloquy.Proofs.Exchange.Payloads
import Colloquy.Proofs.Exchange.Sending
import Colloquy.Proofs.Retry.Reopening

/-! # Streams under retry

An exchange delivers the chunks of what its lines say, up to the end that the stream announces, a line
beyond what can be read, or the place where it breaks off. Under retry a reader sees one exchange whole;
the ones before it delivered nothing.
-/
set_option autoImplicit false

namespace Colloquy

namespace Exchange

/-- What an exchange delivers to the reader of a stream, and how it fails if it does. -/
inductive Delivers (endpoint : Option Endpoint) :
    Option Reply → List Chunk → Option Fault → Prop where
  | exhausted : Delivers endpoint none [] (some .scriptExhausted)
  | lost (f : Fault) : Delivers endpoint (some (.fault f)) [] (some (ofNetwork "stream" f))
  | foreign {status : Int} {body : List Piece} {f : Fault}
      (origin : Link.finds endpoint Endpoint.checkOrigin = .error f) :
      Delivers endpoint (some (.answer status body)) [] (some (ofNetwork "stream" f))
  | refused {status : Int} {body : List Piece} {octets : List UInt8}
      (origin : Link.finds endpoint Endpoint.checkOrigin = .ok ()) (refusing : 400 ≤ status)
      (whole : wholeBody body = .ok octets) :
      Delivers endpoint (some (.answer status body)) []
        (some (refusal status (Text.utf8Lossy octets)))
  | refusalLost {status : Int} {body : List Piece} {f : Fault}
      (origin : Link.finds endpoint Endpoint.checkOrigin = .ok ()) (refusing : 400 ≤ status)
      (broken : wholeBody body = .error f) :
      Delivers endpoint (some (.answer status body)) [] (some (ofNetwork "stream" f))
  | ended {status : Int} {body : List Piece} {octets : List UInt8} {break? : Option Fault}
      {line : String} (origin : Link.finds endpoint Endpoint.checkOrigin = .ok ())
      (taking : status < 400) (came : arrived body = (octets, break?))
      (last : (bodyLines octets break?.isNone).find? stops = some line) (done : ends line = true) :
      Delivers endpoint (some (.answer status body)) (chunksOf (bodyLines octets break?.isNone)) none
  | exceeded {status : Int} {body : List Piece} {octets : List UInt8} {break? : Option Fault}
      {line : String} {flaw : Json.Flaw} (origin : Link.finds endpoint Endpoint.checkOrigin = .ok ())
      (taking : status < 400) (came : arrived body = (octets, break?))
      (last : (bodyLines octets break?.isNone).find? stops = some line)
      (beyond : excess? line = some flaw) :
      Delivers endpoint (some (.answer status body)) (chunksOf (bodyLines octets break?.isNone))
        (some (.unreadable flaw))
  | unended {status : Int} {body : List Piece} {octets : List UInt8} {break? : Option Fault}
      (origin : Link.finds endpoint Endpoint.checkOrigin = .ok ()) (taking : status < 400)
      (came : arrived body = (octets, break?))
      (open_ : ∀ line ∈ bodyLines octets break?.isNone, stops line = false) :
      Delivers endpoint (some (.answer status body)) (chunksOf (bodyLines octets break?.isNone))
        (break?.map (ofNetwork "stream"))

def given (endpoint : Option Endpoint) (reply : Option Reply) : Feed Chunk :=
  match Link.answer endpoint reply with
  | .error f => Feed.failed (ofNetwork "stream" f)
  | .ok (status, pieces) => streamFeed status pieces

theorem given_answer {endpoint : Option Endpoint}
    (origin : Link.finds endpoint Endpoint.checkOrigin = .ok ()) (status : Int) (body : List Piece) :
    given endpoint (some (.answer status body)) = streamFeed status body := by
  simp only [given, Link.answer, origin, Except.map]

theorem arrived_of_whole {body : List Piece} {octets : List UInt8}
    (whole : wholeBody body = .ok octets) : arrived body = (octets, none) := by
  induction body generalizing octets with
  | nil =>
    cases whole
    rfl
  | cons piece rest ih =>
    cases piece with
    | octets bytes =>
      rw [wholeBody] at whole
      obtain ⟨more, hMore, hOctets⟩ := ok_of_bind whole
      obtain rfl := Except.ok.inj hOctets
      simp [arrived, ih hMore]
    | broken f => cases whole

theorem given_of_whole {endpoint : Option Endpoint}
    (origin : Link.finds endpoint Endpoint.checkOrigin = .ok ()) {status : Int} {body : List Piece}
    {octets : List UInt8} (taking : status < 400)
    (whole : wholeBody body = .ok octets) :
    (given endpoint (some (.answer status body))).items = (fragments (bodyLines octets true)).items ∧
      (given endpoint (some (.answer status body))).fault =
        (fragments (bodyLines octets true)).fault := by
  rw [given_answer origin, streamFeed, if_neg (Int.not_le.mpr taking), arrived_of_whole whole,
    items_fragments]
  exact ⟨items_chunkFeed _ _, fault_chunkFeed _ _⟩

theorem delivers_given (endpoint : Option Endpoint) (reply : Option Reply) :
    Delivers endpoint reply (given endpoint reply).items (given endpoint reply).fault := by
  match reply with
  | none => exact .exhausted
  | some (.fault f) => exact .lost f
  | some (.answer status body) =>
    cases origin : Link.finds endpoint Endpoint.checkOrigin with
    | error f =>
      simp only [given, Link.answer, origin, Except.map]
      exact .foreign origin
    | ok u =>
      rw [given_answer origin, streamFeed]
      by_cases refusing : 400 ≤ status
      · rw [if_pos refusing]
        cases whole : wholeBody body with
        | ok octets => exact .refused origin refusing whole
        | error f => exact .refusalLost origin refusing whole
      · rw [if_neg refusing]
        rcases came : arrived body with ⟨octets, break?⟩
        have taking : status < 400 := Int.not_le.mp refusing
        simp only [items_chunkFeed, fault_chunkFeed]
        cases last : (bodyLines octets break?.isNone).find? stops with
        | none =>
          have open_ : ∀ line ∈ bodyLines octets break?.isNone, stops line = false := by
            simpa using List.find?_eq_none.mp last
          rw [closing?_of_open open_]
          exact .unended origin taking came open_
        | some line =>
          rw [closing?_of_last last]
          have stop : stops line = true := List.find?_some last
          obtain done | beyond := Bool.or_eq_true_iff.mp stop
          · rw [excess?_of_ends done]
            exact .ended origin taking came last done
          · obtain ⟨flaw, hExcess⟩ := Option.isSome_iff_exists.mp beyond
            rw [hExcess]
            exact .exceeded origin taking came last hExcess

/-- An exchange delivers nothing but what it gives. -/
theorem Delivers.eq_given {endpoint : Option Endpoint} {reply : Option Reply} {items : List Chunk}
    {fault : Option Fault} (h : Delivers endpoint reply items fault) :
    items = (given endpoint reply).items ∧ fault = (given endpoint reply).fault := by
  cases h with
  | exhausted => exact ⟨rfl, rfl⟩
  | lost f => exact ⟨rfl, rfl⟩
  | foreign origin =>
    simp only [given, Link.answer, origin, Except.map]
    exact ⟨rfl, rfl⟩
  | refused origin refusing whole =>
    rw [given_answer origin, streamFeed, if_pos refusing, whole]
    exact ⟨rfl, rfl⟩
  | refusalLost origin refusing broken =>
    rw [given_answer origin, streamFeed, if_pos refusing, broken]
    exact ⟨rfl, rfl⟩
  | ended origin taking came last done =>
    rw [given_answer origin, streamFeed, if_neg (Int.not_le.mpr taking), came]
    simp only [items_chunkFeed, fault_chunkFeed, closing?_of_last last, excess?_of_ends done,
      Option.map_none, and_self]
  | exceeded origin taking came last beyond =>
    rw [given_answer origin, streamFeed, if_neg (Int.not_le.mpr taking), came]
    simp only [items_chunkFeed, fault_chunkFeed, closing?_of_last last, beyond, Option.map_some,
      and_self]
  | unended origin taking came open_ =>
    rw [given_answer origin, streamFeed, if_neg (Int.not_le.mpr taking), came]
    simp only [items_chunkFeed, fault_chunkFeed, closing?_of_open open_, and_self]

theorem sleeps_given (endpoint : Option Endpoint) (reply : Option Reply) :
    (given endpoint reply).journal.sleeps = [] := by
  unfold given
  split
  · rfl
  · unfold streamFeed
    split
    · split <;> rfl
    · exact sleeps_chunkFeed _ _

theorem run_openStream {r : Request} (streaming : r.stream.truthy = true) (l : Link) :
    (openStream r).run l = match l.body? r with
      | .error f => (Feed.failed f, l)
      | .ok body => (given l.endpoint l.replies.head?, l.sending body) := by
  rw [openStream]
  simp only [streaming, Bool.not_true, Bool.false_eq_true, if_false]
  cases hBody : l.body? r with
  | error f =>
    have sent : (send r).outcome.run l = (.error f, l) := by
      rw [Run.run_outcome, exec_send, hBody]
    rw [Backoff.run_bind_of_run sent]
    exact congrArg (fun g => (Feed.failed g, l)) (lasting_of_body? hBody).2
  | ok body =>
    have sent : (send r).outcome.run l =
        (Link.answer l.endpoint l.replies.head?, l.sending body) := by
      rw [Run.run_outcome, exec_send, hBody]
    rw [Backoff.run_bind_of_run sent, given]
    cases Link.answer l.endpoint l.replies.head? <;> rfl

open Backoff (Opening Restarts)

def resent (l : Link) (body : String) (k : Nat) : Link :=
  { l with sent := l.sent ++ List.replicate k body, replies := l.replies.drop k }

theorem resent_zero (l : Link) (body : String) : resent l body 0 = l := by
  simp [resent]

theorem sending_resent (l : Link) (body : String) (k : Nat) :
    (resent l body k).sending body = resent l body (k + 1) := by
  simp [resent, Link.sending, List.replicate_succ', List.tail_drop]

theorem run_openStream_resent {r : Request} (streaming : r.stream.truthy = true) {l : Link}
    {body : String} (hBody : l.body? r = .ok body) (k : Nat) :
    (openStream r).run (resent l body k) =
      (given l.endpoint l.replies[k]?, resent l body (k + 1)) := by
  have same : (resent l body k).body? r = .ok body := hBody
  rw [run_openStream streaming, same]
  simp only [sending_resent]
  simp [resent, List.head?_drop]

/-- Reading a stream under a policy, from a link `l` to a link `m`: `body` is sent once for each of the
openings `xs`, and `feed` is what the reader sees. -/
structure Reopened (b : Backoff) (most : Nat) (body : String) (l : Link)
    (xs : List (Opening Link Chunk)) (feed : Feed Chunk) (m : Link) : Prop where
  length_pos : 0 < xs.length
  length_le : xs.length ≤ most
  link_eq : m = { l with
    sent := l.sent ++ List.replicate xs.length body
    replies := l.replies.drop xs.length }
  exchange : ∀ (j : Nat) x, xs[j]? = some x →
    Delivers l.endpoint l.replies[j]? x.feed.items x.feed.fault
  again : ∀ (j : Nat) x, xs[j]? = some x → j + 1 < xs.length → Restarts x.feed
  last : ∃ x, xs.getLast? = some x ∧ feed.items = x.feed.items ∧ feed.fault = x.feed.fault ∧
    (xs.length = most ∨ ¬ Restarts x.feed)
  sleeps : feed.journal.sleeps.length + 1 = xs.length ∧
    ∀ (j : Nat) d, feed.journal.sleeps[j]? = some d → b.delay (.int j) = .ok d

/-- The `j`-th opening is the exchange for the `j`-th reply, whatever became of the ones before it. -/
theorem opening_eq {b : Backoff} {r : Request} (streaming : r.stream.truthy = true) {l m : Link}
    {body : String} (hBody : l.body? r = .ok body) {attempts left : Nat}
    {xs : List (Opening Link Chunk)} {feed : Feed Chunk}
    (openings : Backoff.Openings b attempts (openStream r) left 0 l xs feed m) (j : Nat)
    (x : Opening Link Chunk) (hx : xs[j]? = some x) :
    x = ⟨resent l body j, given l.endpoint l.replies[j]?, resent l body (j + 1)⟩ := by
  have step {j : Nat} {x : Opening Link Chunk} (hx : xs[j]? = some x)
      (hBefore : x.before = resent l body j) :
      x = ⟨resent l body j, given l.endpoint l.replies[j]?, resent l body (j + 1)⟩ := by
    have ran := openings.ran x (List.mem_of_getElem? hx)
    rw [hBefore, run_openStream_resent streaming hBody] at ran
    obtain ⟨hFeed, hAfter⟩ := Prod.mk.inj ran
    rcases x with ⟨before, feed, after⟩
    simp only at hBefore hFeed hAfter
    rw [hBefore, ← hFeed, ← hAfter]
  refine of_getElem?_of_next (P := fun j x =>
    x = ⟨resent l body j, given l.endpoint l.replies[j]?, resent l body (j + 1)⟩) ?_ ?_ hx
  · intro x hx
    obtain ⟨y, hy, hBefore⟩ := openings.first
    obtain rfl := Option.some.inj (hy.symm.trans hx)
    exact step hx (by rw [hBefore, resent_zero])
  · intro j y x hy hx hPlace
    obtain ⟨-, hBefore⟩ := openings.next j y x hy hx
    exact step hx (by rw [hBefore, hPlace])

theorem reopened_of_openings {b : Backoff} {r : Request} (streaming : r.stream.truthy = true)
    {l m : Link} {body : String} (hBody : l.body? r = .ok body) {left : Nat}
    {xs : List (Opening Link Chunk)} {feed : Feed Chunk}
    (openings : Backoff.Openings b (left + 1) (openStream r) left 0 l xs feed m)
    (delays : ∀ i : Nat, i + 1 < left + 1 → ∃ d, b.delay (.int i) = .ok d) :
    Reopened b (left + 1) body l xs feed m := by
  have place := opening_eq streaming hBody openings
  obtain ⟨x, hLast, hItems, hFault, hAfter, hEnd⟩ := openings.last fun j hj => by
    simpa using delays j (Nat.succ_lt_succ hj)
  exact
    { length_pos := openings.length_pos
      length_le := openings.length_le
      link_eq := by
        have lastPlace : xs[xs.length - 1]? = some x := by
          rw [← hLast, List.getLast?_eq_getElem?]
        have hCount : xs.length - 1 + 1 = xs.length := Nat.sub_add_cancel openings.length_pos
        rw [hAfter, place _ x lastPlace, hCount]
        rfl
      exchange := by
        intro j y hy
        rw [place j y hy]
        exact delivers_given _ _
      again := by
        intro j y hy hj
        exact (openings.next j y _ hy (List.getElem?_eq_getElem hj)).1
      last := ⟨x, hLast, hItems, hFault, hEnd⟩
      sleeps := by
        have quiet : ∀ y ∈ xs, y.feed.journal.sleeps = [] := by
          intro y hy
          obtain ⟨j, hj⟩ := List.mem_iff_getElem?.mp hy
          rw [place j y hj]
          exact sleeps_given _ _
        simpa using openings.sleeps quiet }

/-- A stream under retry is one exchange whole, behind exchanges that came to nothing; one that cannot
be sent fails at once. -/
theorem feed_openStream (b : Backoff) (r : Request) (l : Link) {most : Nat}
    (streaming : r.stream.truthy = true) (attempts : b.attempts = .ok most) (positive : 1 ≤ most)
    (delays : ∀ i : Nat, i + 1 < most → ∃ d, b.delay (.int i) = .ok d) :
    (∃ f, l.body? r = .error f ∧ (b.feed (openStream r)).run l = (Feed.failed f, l)) ∨
    ∃ body xs feed m, l.body? r = .ok body ∧ (b.feed (openStream r)).run l = (feed, m) ∧
      Reopened b most body l xs feed m := by
  obtain ⟨left, rfl⟩ := Nat.exists_eq_add_of_le' positive
  have run : b.feed (openStream r) = Backoff.openAgain b (left + 1) (openStream r) left 0 := by
    rw [Backoff.feed, attempts]
  rw [run]
  cases hBody : l.body? r with
  | error f =>
    refine .inl ⟨f, rfl, Backoff.run_openAgain_of_settled ?_ ?_ left 0⟩
    · rw [run_openStream streaming, hBody]
    · simp [Backoff.restart?, Feed.failed, (lasting_of_body? hBody).1]
  | ok body =>
    obtain ⟨xs, feed, m, openings, ran⟩ :=
      Backoff.exists_openings b (left + 1) (openStream r) left 0 l
    exact .inr ⟨body, xs, feed, m, rfl, ran, reopened_of_openings streaming hBody openings delays⟩

def brief : Backoff := { maxAttempts := .int 2, base := .int 1, factor := .int 2, cap := .int 30 }

def streamedRequest : Request := { messages := [], stream := .bool true }

def asciiOctets (text : String) : List UInt8 :=
  text.toList.map fun c => UInt8.ofNat c.toNat

def friendlyLine : String :=
  "data: \x7b\"choices\":[\x7b\"delta\":\x7b\"content\":\"Hi\"\x7d\x7d]\x7d"

def friendlyOctets : List UInt8 := asciiOctets (friendlyLine ++ "\n")

def friendlyDelta : Members :=
  [("choices", .list [.object [("delta", .object [("content", .str "Hi")])]])]

def friendlyChunk : Chunk where
  id := .str ""
  choices := [{ index := .int 0, delta := some { content := .str "Hi", role := none } }]

theorem bodyLines_friendlyOctets : bodyLines friendlyOctets true = [friendlyLine] := by
  decide +kernel

theorem stops_friendlyLine : stops friendlyLine = false := by
  decide +kernel

theorem said_friendlyLine : said [friendlyLine] = [.object friendlyDelta] := by
  have payload : payload? friendlyLine = some (friendlyLine.toList.drop 6) := by decide +kernel
  have value : Json.readChars (friendlyLine.toList.drop 6) = .ok (.object friendlyDelta) :=
    Value.eq_ok_of_agrees (by decide +kernel)
  simp [said, stops_friendlyLine, value?, payload, value, Except.toOption]

theorem fragments_friendlyOctets :
    fragments (bodyLines friendlyOctets true) = { events := [.item friendlyChunk] } := by
  have unended := closing?_of_open (List.forall_mem_singleton.mpr stops_friendlyLine) none
  rw [bodyLines_friendlyOctets, fragments, chunksOf, said_friendlyLine, unended]
  rfl

def busyLink : Link := { replies := [.answer 503 [], .answer 200 [.octets friendlyOctets]] }

theorem feed_openStream_busy :
    ∃ body xs feed m, busyLink.body? streamedRequest = .ok body ∧
      (brief.feed (openStream streamedRequest)).run busyLink = (feed, m) ∧
      Reopened brief 2 body busyLink xs feed m ∧ xs.length = 2 ∧ feed.items = [friendlyChunk] := by
  have delays (i : Nat) (hi : i + 1 < 2) : ∃ d, brief.delay (.int i) = .ok d := by
    obtain rfl : i = 0 := by omega
    exact ⟨.int 1, rfl⟩
  obtain ⟨f, hBody, -⟩ | ⟨body, xs, feed, m, hBody, ran, reopened⟩ :=
    feed_openStream brief streamedRequest busyLink rfl rfl (Nat.le_succ 1) delays
  · have sendable : ∃ body, busyLink.body? streamedRequest = .ok body := ⟨_, rfl⟩
    obtain ⟨body, hSendable⟩ := sendable
    cases hBody.symm.trans hSendable
  · obtain ⟨x, hLast, hItems, -, hEnd⟩ := reopened.last
    rw [List.getLast?_eq_getElem?] at hLast
    obtain ⟨items, fault⟩ := (reopened.exchange _ x hLast).eq_given
    have count : xs.length = 2 := by
      by_contra more
      have positive := reopened.length_pos
      have atMost := reopened.length_le
      have one : xs.length = 1 := by omega
      rw [one] at items fault
      exact hEnd.resolve_left more ⟨items, _, fault, rfl⟩
    refine ⟨body, xs, feed, m, hBody, ran, reopened, count, ?_⟩
    have whole : wholeBody [.octets friendlyOctets] = .ok friendlyOctets := by simp [wholeBody]
    have delivered : (given none (some (.answer 200 [.octets friendlyOctets]))).items =
        (fragments (bodyLines friendlyOctets true)).items :=
      (given_of_whole rfl (by decide) whole).1
    rw [fragments_friendlyOctets] at delivered
    rw [hItems, items, count]
    exact delivered

end Exchange

end Colloquy

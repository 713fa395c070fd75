import Colloquy.Proofs.Exchange.Answers
import Colloquy.Proofs.Exchange.Streams

/-! # Failures that pass, and refusals that stay

A timeout, a break of the line and a status from a short list are worth another attempt; every other
status of 400 or more is a refusal for good. A call and a stream tell them apart alike.
-/
set_option autoImplicit false

namespace Colloquy

namespace Exchange

open Backoff (Restarts)

inductive PassingFault : Fault → Prop where
  | timeout {cause : NetworkFault} {text : String} (slow : cause.isTimeout = true) :
      PassingFault (.network cause text)
  | transport {cause : NetworkFault} {text : String} (broken : cause.isTransport = true) :
      PassingFault (.network cause text)

/-- A reply after which another attempt may do better. -/
inductive Passing : Reply → Prop where
  | lost {f : Fault} (passes : PassingFault f) : Passing (.fault f)
  | busy {status : Int} {body : List Piece} {octets : List UInt8}
      (listed : status ∈ transientStatuses) (whole : wholeBody body = .ok octets) :
      Passing (.answer status body)
  | interrupted {status : Int} {body : List Piece} {f : Fault} (broken : wholeBody body = .error f)
      (passes : PassingFault f) : Passing (.answer status body)

structure Barring (status : Int) (body : List Piece) (octets : List UInt8) : Prop where
  refusing : 400 ≤ status
  unlisted : status ∉ transientStatuses
  whole : wholeBody body = .ok octets

/-- A stream broke off, if it ever began, before it had delivered a fragment or come to its end. -/
def Early : Reply → Prop
  | .fault _ => True
  | .answer status body => status < 400 →
    chunksOf (bodyLines (arrived body).1 false) = [] ∧
      ∀ line ∈ bodyLines (arrived body).1 false, stops line = false

theorem refusing_of_listed {status : Int} (listed : status ∈ transientStatuses) : 400 ≤ status := by
  simp only [transientStatuses, List.mem_cons, List.not_mem_nil, or_false] at listed
  omega

theorem refusal_of_listed {status : Int} (listed : status ∈ transientStatuses) (text : List Char) :
    (refusal status text).isTransient = true := by
  obtain ⟨message, hRefusal⟩ := refusal_eq status text
  rw [hRefusal, if_pos (List.contains_iff_mem.mpr listed)]
  rfl

theorem refusal_of_unlisted {status : Int} (unlisted : status ∉ transientStatuses)
    (text : List Char) : ∃ message, refusal status text = .api message (.int status) := by
  obtain ⟨message, hRefusal⟩ := refusal_eq status text
  rw [hRefusal, if_neg (by simpa using unlisted)]
  exact ⟨message, rfl⟩

theorem PassingFault.ofNetwork_eq {f : Fault} (h : PassingFault f) (what : String) :
    ∃ message, ofNetwork what f = .transient message .null := by
  cases h with
  | timeout slow => simp [ofNetwork, slow]
  | @transport cause text broken =>
    cases slow : cause.isTimeout <;> simp [ofNetwork, slow, broken]

theorem PassingFault.transient {f : Fault} (h : PassingFault f) (what : String) :
    (ofNetwork what f).isTransient = true := by
  obtain ⟨message, hFault⟩ := h.ofNetwork_eq what
  rw [hFault]
  rfl

theorem arrived_of_broken {body : List Piece} {f : Fault} (broken : wholeBody body = .error f) :
    (arrived body).2 = some f := by
  induction body with
  | nil => cases broken
  | cons piece rest ih =>
    cases piece with
    | octets bytes =>
      rw [wholeBody] at broken
      cases hRest : wholeBody rest with
      | ok more =>
        rw [hRest, ok_bind] at broken
        cases broken
      | error g =>
        rw [hRest, error_bind] at broken
        cases broken
        exact ih hRest
    | broken g =>
      cases broken
      rfl

variable {endpoint : Option Endpoint}

theorem completed_of_passing {reply : Reply} (h : Passing reply)
    (origin : Link.finds endpoint Endpoint.checkOrigin = .ok ()) :
    ∃ f, completed endpoint (some reply) = .error f ∧ f.isTransient = true := by
  cases h with
  | lost passes => exact ⟨_, rfl, passes.transient "API"⟩
  | @busy status body octets listed whole =>
    refine ⟨_, ?_, refusal_of_listed listed (Text.utf8Lossy octets)⟩
    simp only [completed, Link.answer, origin, Except.map, Except.bind, whole]
    exact interpret_of_refusing (refusing_of_listed listed) octets
  | interrupted broken passes =>
    refine ⟨_, ?_, passes.transient "API"⟩
    simp only [completed, Link.answer, origin, Except.map, Except.bind, broken]

theorem completed_of_barring {status : Int} {body : List Piece} {octets : List UInt8}
    (h : Barring status body octets)
    (origin : Link.finds endpoint Endpoint.checkOrigin = .ok ()) :
    ∃ message, completed endpoint (some (.answer status body)) =
      .error (.api message (.int status)) := by
  obtain ⟨message, hRefusal⟩ := refusal_of_unlisted h.unlisted (Text.utf8Lossy octets)
  refine ⟨message, ?_⟩
  simp only [completed, Link.answer, origin, Except.map, Except.bind, h.whole]
  rw [interpret_of_refusing h.refusing, hRefusal]

theorem restarts_failed {f : Fault} (transient : f.isTransient = true) :
    Restarts (Feed.failed f : Feed Chunk) :=
  ⟨rfl, f, rfl, transient⟩

theorem restarts_given {reply : Reply} (h : Passing reply) (early : Early reply)
    (origin : Link.finds endpoint Endpoint.checkOrigin = .ok ()) :
    Restarts (given endpoint (some reply)) := by
  cases h with
  | lost passes => exact restarts_failed (passes.transient "stream")
  | @busy status body octets listed whole =>
    rw [given_answer origin, streamFeed, if_pos (refusing_of_listed listed), whole]
    exact restarts_failed (refusal_of_listed listed (Text.utf8Lossy octets))
  | @interrupted status body f broken passes =>
    rw [given_answer origin, streamFeed]
    by_cases refusing : 400 ≤ status
    · rw [if_pos refusing, broken]
      exact restarts_failed (passes.transient "stream")
    · rw [if_neg refusing]
      obtain ⟨silent, open_⟩ := early (Int.not_le.mp refusing)
      have hFault := arrived_of_broken broken
      rcases came : arrived body with ⟨octets, fault⟩
      rw [came] at silent open_ hFault
      obtain rfl : fault = some f := hFault
      refine ⟨?_, _, ?_, passes.transient "stream"⟩
      · rw [items_chunkFeed]
        exact silent
      · rw [fault_chunkFeed]
        exact closing?_of_open open_ _

theorem given_of_barring (origin : Link.finds endpoint Endpoint.checkOrigin = .ok ()) {status : Int}
    {body : List Piece} {octets : List UInt8} (h : Barring status body octets) :
    ∃ message, given endpoint (some (.answer status body)) =
      Feed.failed (.api message (.int status)) := by
  obtain ⟨message, hRefusal⟩ := refusal_of_unlisted h.unlisted (Text.utf8Lossy octets)
  refine ⟨message, ?_⟩
  simp only [given_answer origin, streamFeed, if_pos h.refusing, h.whole, hRefusal]

end Exchange

end Colloquy

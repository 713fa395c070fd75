import Colloquy.Proofs.Conversation.Course

/-! # The law of conversations

Whatever a transport answers, a conversation sends its first request as it is given, and every later
one carries on the one before: the message that asked for tools comes behind the messages so far,
then one tool message for each call, and nothing else changes but the stream flag. Tool calls are
looked up and run once each, in order, between the two requests.
-/
set_option autoImplicit false

namespace Colloquy.Conversation

variable {τ : Type}

def linkAfter (send : Transport τ) (link : τ) (requests : List Request) : τ :=
  requests.foldl (fun l r => ((send r).exec l).2) link

def answerAfter (send : Transport τ) (link : τ) (earlier : List Request) (r : Request) :
    Except Fault (Option Completion) :=
  ((send r).exec (linkAfter send link earlier)).1

theorem answerAfter_cons (send : Transport τ) (link : τ) (first : Request) (earlier : List Request)
    (r : Request) :
    answerAfter send link (first :: earlier) r =
      answerAfter send ((send first).exec link).2 earlier r := rfl

/-- How a conversation with so many rounds ends, when `answer` comes to its last request and the
tool calls that were answered left a registry with `before` called. -/
inductive Ends (limit : RoundLimit) (fuel rounds : Nat)
    (answer : Except Fault (Option Completion)) (middle : Registry) (before : List Call) :
    Ending → Registry → Prop where
  | final {c : Option Completion} (answered : answer = .ok c) (ends : asksForTools c = false) :
      Ends limit fuel rounds answer middle before (.final c) middle
  | refused {fault : Fault} (answered : answer = .error fault) :
      Ends limit fuel rounds answer middle before (.refused fault) middle
  | limited {c : Option Completion} {m : Message} (answered : answer = .ok c) (asks : Asks c m)
      (passed : limit.reached rounds = true) :
      Ends limit fuel rounds answer middle before .limited middle
  | failed {c : Option Completion} {m : Message} {as : List Answered} {x : Failure}
      {rest : List ToolCall} {left : Registry} (answered : answer = .ok c) (asks : Asks c m)
      (within : limit.reached rounds = false)
      (calls : m.calls = as.map (fun a => a.call) ++ x.call :: rest)
      (failing : Failing middle before x left) :
      Ends limit fuel rounds answer middle before (.failed as x) left
  | unfinished {c : Option Completion} {m : Message} (answered : answer = .ok c) (asks : Asks c m)
      (within : limit.reached rounds = false) (watched : rounds = fuel) :
      Ends limit fuel rounds answer middle before .unfinished middle

section

variable {send : Transport τ} {limit : RoundLimit} {fuel rounds : Nat} {r : Request}
  {s u : Session τ} {t : Transcript}

theorem Course.requests_zero (h : Course send limit fuel rounds r s t u) :
    t.requests[0]? = some r := by
  cases h <;> rfl

theorem Course.requests_succ (h : Course send limit fuel rounds r s t u) :
    ∀ j x, t.rounds[j]? = some x → t.requests[j]? = some x.request ∧
      t.requests[j + 1]? = some { r with
        messages := x.request.messages ++ x.message :: x.answered.map Answered.message
        stream := .bool false } := by
  induction h with
  | @round fuel rounds r s u c m as left t replied asks within calls answering later ih =>
    intro j x hx
    cases j with
    | zero =>
      obtain rfl : ⟨r, m, as⟩ = x := by simpa using hx
      refine ⟨rfl, ?_⟩
      have first := later.requests_zero
      simp only [Transcript.requests, List.map_cons, List.cons_append,
        List.getElem?_cons_succ] at first ⊢
      rw [first]
      simp [Round.next, continuing]
    | succ j => exact ih j x (by simpa using hx)
  | _ => simp

theorem Course.asks (h : Course send limit fuel rounds r s t u) :
    ∀ j x, t.rounds[j]? = some x →
      ∃ c, answerAfter send s.link (t.requests.take j) x.request = .ok c ∧ Asks c x.message := by
  induction h with
  | @round fuel rounds r s u c m as left t replied asks within calls answering later ih =>
    intro j x hx
    cases j with
    | zero =>
      obtain rfl : ⟨r, m, as⟩ = x := by simpa using hx
      exact ⟨c, replied, asks⟩
    | succ j => exact ih j x (by simpa using hx)
  | _ => simp

theorem Course.calls_eq (h : Course send limit fuel rounds r s t u) :
    ∀ x ∈ t.rounds, x.message.calls = x.answered.map fun a => a.call := by
  induction h with
  | round replied asks within calls answering later ih =>
    intro x hx
    obtain rfl | hx := List.mem_cons.mp hx
    · exact calls
    · exact ih x hx
  | _ => simp

theorem Course.within (h : Course send limit fuel rounds r s t u) :
    ∀ j < t.rounds.length, limit.reached (rounds + j) = false := by
  induction h with
  | @round fuel rounds r s u c m as left t replied asks within calls answering later ih =>
    intro j hj
    cases j with
    | zero => exact within
    | succ j =>
      have hLater := ih j (Nat.lt_of_succ_lt_succ hj)
      rwa [show rounds + (j + 1) = rounds + 1 + j by omega]
  | _ => simp

theorem Course.events_eq (h : Course send limit fuel rounds r s t u) :
    u.journal.events = s.journal.events ++ t.events := by
  induction h with
  | round replied asks within calls answering later ih =>
    rw [ih]
    simp [answeredSession, sentSession, Transcript.events, Round.events]
  | _ => simp [sentSession, answeredSession, failedSession, Transcript.events, Ending.events]

theorem Course.link_eq (h : Course send limit fuel rounds r s t u) :
    u.link = linkAfter send s.link t.requests := by
  induction h with
  | round replied asks within calls answering later ih => exact ih
  | _ => rfl

theorem Course.answering (h : Course send limit fuel rounds r s t u) :
    ∃ middle, Answering s.registry s.journal.calls t.answered middle ∧
      Ends limit (rounds + fuel) (rounds + t.rounds.length)
        (answerAfter send s.link (t.rounds.map Round.request) t.last) middle
        (s.journal.calls ++ t.answered.flatMap fun a => a.calls) t.ending u.registry := by
  induction h with
  | final replied ends => exact ⟨_, .nil _ _, .final replied ends⟩
  | refused replied => exact ⟨_, .nil _ _, .refused replied⟩
  | limited replied asks passed => exact ⟨_, .nil _ _, .limited replied asks passed⟩
  | unfinished replied asks within => exact ⟨_, .nil _ _, .unfinished replied asks within rfl⟩
  | failed replied asks within calls answering failing =>
    exact ⟨_, answering, .failed replied asks within calls failing⟩
  | @round fuel rounds r s u c m as left t replied asks within calls answering later ih =>
    obtain ⟨middle, after, ends⟩ := ih
    rw [Transcript.answered_cons]
    refine ⟨middle, answering.append ?_, ?_⟩
    · simpa [answeredSession, List.filterMap_flatMap] using after
    · simpa [answeredSession, List.filterMap_flatMap, Nat.add_assoc, Nat.add_comm 1,
        answerAfter_cons] using ends

/-- What holds of the transcript of a conversation that begins with the request `first` in a session
`s` and leaves a session `u`. -/
structure Transcript.Lawful (t : Transcript) (send : Transport τ) (limit : RoundLimit) (fuel : Nat)
    (first : Request) (s u : Session τ) : Prop where
  requests_zero : t.requests[0]? = some first
  /-- A request carries on the one before: the message that asks for tools comes behind its messages,
  then one tool message for each answered call, in order. -/
  requests_succ : ∀ j x, t.rounds[j]? = some x → t.requests[j]? = some x.request ∧
    t.requests[j + 1]? = some { first with
      messages := x.request.messages ++ x.message :: x.answered.map Answered.message
      stream := .bool false }
  asks : ∀ j x, t.rounds[j]? = some x →
    ∃ c, answerAfter send s.link (t.requests.take j) x.request = .ok c ∧ Asks c x.message
  calls_eq : ∀ x ∈ t.rounds, x.message.calls = x.answered.map fun a => a.call
  within : ∀ j < t.rounds.length, limit.reached j = false
  /-- A call is looked up in the registry that the look-ups before it left, and its text is what the
  callback gives on the raw arguments; the last request ends the conversation as what is answered to
  it says. -/
  answering : ∃ middle, Answering s.registry s.journal.calls t.answered middle ∧
    Ends limit fuel t.rounds.length
      (answerAfter send s.link (t.rounds.map Round.request) t.last) middle
      (s.journal.calls ++ t.answered.flatMap fun a => a.calls) t.ending u.registry
  /-- A request, then the look-ups and runs for its tool calls, then the next request; behind the
  last request only what a failing series of tool calls did. -/
  events_eq : u.journal.events = s.journal.events ++ t.events
  link_eq : u.link = linkAfter send s.link t.requests

theorem Course.lawful (h : Course send limit fuel 0 r s t u) :
    t.Lawful send limit fuel r s u where
  requests_zero := h.requests_zero
  requests_succ := h.requests_succ
  asks := h.asks
  calls_eq := h.calls_eq
  within := by simpa using h.within
  answering := by simpa using h.answering
  events_eq := h.events_eq
  link_eq := h.link_eq

theorem Transcript.Lawful.finished (h : t.Lawful send limit fuel r s u) {most : Nat}
    (hMost : limit.most = some most) (hFuel : most ≤ fuel) : t.ending ≠ .unfinished := by
  intro hEnding
  obtain ⟨middle, -, ends⟩ := h.answering
  rw [hEnding] at ends
  obtain - | - | - | - | ⟨-, -, within, watched⟩ := ends
  simp only [RoundLimit.reached, hMost, decide_eq_false_iff_not] at within
  omega

theorem Transcript.Lawful.messages_eq (h : t.Lawful send limit fuel r s u) {j : Nat} {x : Request}
    (hx : t.requests[j]? = some x) :
    x.messages = r.messages ++ (t.rounds.take j).flatMap Round.messages := by
  induction j generalizing x with
  | zero =>
    obtain rfl : r = x := Option.some.inj (h.requests_zero.symm.trans hx)
    simp
  | succ j ih =>
    have hLength : j < t.rounds.length := by
      have hRequests := (List.getElem?_eq_some_iff.mp hx).choose
      simp only [requests, List.length_append, List.length_map, List.length_singleton] at hRequests
      omega
    have hRound : t.rounds[j]? = some t.rounds[j] := List.getElem?_eq_getElem hLength
    obtain ⟨hBefore, hNext⟩ := h.requests_succ j _ hRound
    obtain rfl := Option.some.inj (hNext.symm.trans hx)
    simp only [ih hBefore]
    rw [List.take_add_one, hRound, List.flatMap_append]
    simp [Round.messages]

end

end Colloquy.Conversation

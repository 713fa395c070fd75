import Colloquy.Proofs.Conversation.Answering

/-! # The course of a conversation

A conversation is a series of rounds, each a request whose completion asks for tools and the answers
to its tool calls, and a last request with the way in which it ends. `Course` builds such transcripts
round by round; every conversation has one, and it determines the outcome, the session that is left
and every event on the way.
-/
set_option autoImplicit false

namespace Colloquy.Conversation

/-- The first choice of a completion asks for tools, and `m` is its message. -/
inductive Asks : Option Completion → Message → Prop where
  | intro {c : Completion} {choice : Choice} {others : List Choice}
      (choices : c.choices = choice :: others) (calls : choice.message.hasToolCalls = true)
      (finish : choice.finishReason = some .toolCalls) : Asks (some c) choice.message

theorem asksForTools_iff (c : Option Completion) : asksForTools c = true ↔ ∃ m, Asks c m := by
  constructor
  · intro h
    cases c with
    | none => cases h
    | some c =>
      cases hChoices : c.choices with
      | nil => simp [asksForTools, hChoices] at h
      | cons choice others =>
        simp only [asksForTools, hChoices, Bool.and_eq_true, beq_iff_eq] at h
        exact ⟨choice.message, .intro hChoices h.1 h.2⟩
  · rintro ⟨m, choices, calls, finish⟩
    simp [asksForTools, choices, calls, finish]

theorem Asks.asksForTools {c : Option Completion} {m : Message} (h : Asks c m) :
    Conversation.asksForTools c = true :=
  (asksForTools_iff c).mpr ⟨m, h⟩

theorem Asks.toolMessage {c : Option Completion} {m : Message} (h : Asks c m) :
    Conversation.toolMessage c = .ok m := by
  obtain ⟨choices, -, -⟩ := h
  simp [Conversation.toolMessage, choices]

structure Round where
  request : Request
  message : Message
  answered : List Answered

namespace Round

def messages (x : Round) : List Message :=
  x.message :: x.answered.map Answered.message

def next (x : Round) : Request :=
  continuing x.request (x.request.messages ++ [x.message] ++ x.answered.map Answered.message)

def events (x : Round) : List Journal.Event :=
  .request x.request :: x.answered.flatMap fun a => a.events

end Round

inductive Ending where
  | final (completion : Option Completion)
  | refused (fault : Fault)
  | limited
  | failed (answered : List Answered) (failure : Failure)
  /-- One more round is asked for than the conversation is watched for. -/
  | unfinished

namespace Ending

def answered : Ending → List Answered
  | failed answered _ => answered
  | _ => []

def events : Ending → List Journal.Event
  | failed answered failure => (answered.flatMap fun a => a.events) ++ failure.events
  | _ => []

def outcome (limit : RoundLimit) : Ending → Except Fault (Option Completion)
  | final completion => .ok completion
  | refused fault => .error fault
  | limited => .error (.roundLimit limit.shown)
  | failed _ failure => .error failure.fault
  | unfinished => .error .unfinished

end Ending

structure Transcript where
  rounds : List Round
  last : Request
  ending : Ending

namespace Transcript

def requests (t : Transcript) : List Request :=
  t.rounds.map Round.request ++ [t.last]

def answered (t : Transcript) : List Answered :=
  t.rounds.flatMap Round.answered ++ t.ending.answered

def events (t : Transcript) : List Journal.Event :=
  t.rounds.flatMap Round.events ++ .request t.last :: t.ending.events

theorem filterMap_events {β : Type} {see : Journal.Event → Option β}
    (noCall : ∀ c, see (.call c) = none) (noNote : ∀ e, see (.note e) = none) (t : Transcript) :
    t.events.filterMap see = t.requests.filterMap fun r => see (.request r) := by
  have quiet (as : List Answered) : (as.flatMap fun a => a.events).filterMap see = [] := by
    simp [List.filterMap_flatMap, Found.filterMap_events noCall noNote]
  have rounds : (t.rounds.flatMap Round.events).filterMap see =
      (t.rounds.map Round.request).filterMap fun r => see (.request r) := by
    induction t.rounds with
    | nil => rfl
    | cons x rest ih => simp [Round.events, List.filterMap_cons, quiet, ih]
  have ending : t.ending.events.filterMap see = [] := by
    cases t.ending with
    | failed as x => simp [Ending.events, quiet, x.filterMap_events noCall noNote]
    | _ => rfl
  simp [events, requests, List.filterMap_cons, rounds, ending]

theorem filterMap_events_request (t : Transcript) :
    t.events.filterMap Journal.Event.request? = t.requests := by
  rw [t.filterMap_events (fun _ => rfl) fun _ => rfl]
  exact List.filterMap_some

theorem filterMap_events_sleep (t : Transcript) :
    t.events.filterMap Journal.Event.sleep? = [] := by
  rw [t.filterMap_events (fun _ => rfl) fun _ => rfl]
  simp [Journal.Event.sleep?]

theorem answered_cons (x : Round) (t : Transcript) :
    (Transcript.mk (x :: t.rounds) t.last t.ending).answered = x.answered ++ t.answered := by
  simp [answered]

end Transcript

variable {τ : Type}

def reply (send : Transport τ) (r : Request) (s : Session τ) : Except Fault (Option Completion) :=
  ((send r).exec s.link).1

def sentSession (send : Transport τ) (r : Request) (s : Session τ) : Session τ :=
  { s with journal := s.journal.add [.request r], link := ((send r).exec s.link).2 }

@[simp] theorem sentSession_registry (send : Transport τ) (r : Request) (s : Session τ) :
    (sentSession send r s).registry = s.registry := rfl

@[simp] theorem sentSession_link (send : Transport τ) (r : Request) (s : Session τ) :
    (sentSession send r s).link = ((send r).exec s.link).2 := rfl

@[simp] theorem sentSession_calls (send : Transport τ) (r : Request) (s : Session τ) :
    (sentSession send r s).journal.calls = s.journal.calls := by
  simp [sentSession, Journal.Event.call?, List.filterMap_cons]

/-- From a session with a request to send and so many rounds behind, a conversation takes the course
of a transcript and leaves a session. -/
inductive Course (send : Transport τ) (limit : RoundLimit) :
    Nat → Nat → Request → Session τ → Transcript → Session τ → Prop where
  | final {fuel rounds : Nat} {r : Request} {s : Session τ} {c : Option Completion}
      (replied : reply send r s = .ok c) (ends : asksForTools c = false) :
      Course send limit fuel rounds r s ⟨[], r, .final c⟩ (sentSession send r s)
  | refused {fuel rounds : Nat} {r : Request} {s : Session τ} {fault : Fault}
      (replied : reply send r s = .error fault) :
      Course send limit fuel rounds r s ⟨[], r, .refused fault⟩ (sentSession send r s)
  | limited {fuel rounds : Nat} {r : Request} {s : Session τ} {c : Option Completion} {m : Message}
      (replied : reply send r s = .ok c) (asks : Asks c m) (passed : limit.reached rounds = true) :
      Course send limit fuel rounds r s ⟨[], r, .limited⟩ (sentSession send r s)
  | unfinished {rounds : Nat} {r : Request} {s : Session τ} {c : Option Completion} {m : Message}
      (replied : reply send r s = .ok c) (asks : Asks c m) (within : limit.reached rounds = false) :
      Course send limit 0 rounds r s ⟨[], r, .unfinished⟩ (sentSession send r s)
  | failed {fuel rounds : Nat} {r : Request} {s : Session τ} {c : Option Completion} {m : Message}
      {as : List Answered} {x : Failure} {rest : List ToolCall} {middle left : Registry}
      (replied : reply send r s = .ok c) (asks : Asks c m) (within : limit.reached rounds = false)
      (calls : m.calls = as.map (fun a => a.call) ++ x.call :: rest)
      (answering : Answering s.registry s.journal.calls as middle)
      (failing : Failing middle (s.journal.calls ++ as.flatMap fun a => a.calls) x left) :
      Course send limit (fuel + 1) rounds r s ⟨[], r, .failed as x⟩
        (failedSession (answeredSession (sentSession send r s) as middle) x left)
  | round {fuel rounds : Nat} {r : Request} {s u : Session τ} {c : Option Completion} {m : Message}
      {as : List Answered} {left : Registry} {t : Transcript}
      (replied : reply send r s = .ok c) (asks : Asks c m) (within : limit.reached rounds = false)
      (calls : m.calls = as.map fun a => a.call)
      (answering : Answering s.registry s.journal.calls as left)
      (later : Course send limit fuel (rounds + 1) (Round.next ⟨r, m, as⟩)
        (answeredSession (sentSession send r s) as left) t u) :
      Course send limit (fuel + 1) rounds r s ⟨⟨r, m, as⟩ :: t.rounds, t.last, t.ending⟩ u

theorem reply_cases (send : Transport τ) (r : Request) (s : Session τ) :
    (∃ fault, reply send r s = .error fault) ∨
      (∃ c, reply send r s = .ok c ∧ asksForTools c = false) ∨
      ∃ c m, reply send r s = .ok c ∧ Asks c m := by
  cases replied : reply send r s with
  | error fault => exact .inl ⟨fault, rfl⟩
  | ok c =>
    cases asking : asksForTools c with
    | false => exact .inr (.inl ⟨c, rfl, asking⟩)
    | true =>
      obtain ⟨m, asks⟩ := (asksForTools_iff c).mp asking
      exact .inr (.inr ⟨c, m, rfl, asks⟩)

/-- An answer that ends the conversation, and the limit, count before the fuel does. -/
theorem exists_course (send : Transport τ) (limit : RoundLimit) (fuel rounds : Nat) (r : Request)
    (s : Session τ) : ∃ t u, Course send limit fuel rounds r s t u := by
  induction fuel generalizing rounds r s with
  | zero =>
    obtain ⟨fault, replied⟩ | ⟨c, replied, ends⟩ | ⟨c, m, replied, asks⟩ := reply_cases send r s
    · exact ⟨_, _, .refused replied⟩
    · exact ⟨_, _, .final replied ends⟩
    · cases within : limit.reached rounds with
      | true => exact ⟨_, _, .limited replied asks within⟩
      | false => exact ⟨_, _, .unfinished replied asks within⟩
  | succ fuel ih =>
    obtain ⟨fault, replied⟩ | ⟨c, replied, ends⟩ | ⟨c, m, replied, asks⟩ := reply_cases send r s
    · exact ⟨_, _, .refused replied⟩
    · exact ⟨_, _, .final replied ends⟩
    · cases within : limit.reached rounds with
      | true => exact ⟨_, _, .limited replied asks within⟩
      | false =>
        obtain ⟨as, left, calls, answering⟩ | ⟨as, x, rest, middle, left, calls, answering, failing⟩ :=
          answering_or_failing m.calls s.registry s.journal.calls
        · obtain ⟨t, u, later⟩ := ih (rounds + 1) (Round.next ⟨r, m, as⟩)
            (answeredSession (sentSession send r s) as left)
          exact ⟨_, _, .round replied asks within calls.symm answering later⟩
        · exact ⟨_, _, .failed replied asks within calls answering failing⟩

theorem run_respond (request : Request) (message : Message) (history : List Message)
    (s : Session τ) :
    (respond request message history).run s = match (answers message.calls).run s with
      | ((ms, some f), t) => ((.error f, history ++ ms), t)
      | ((ms, none), t) => ((.ok (continuing request (history ++ ms)), history ++ ms), t) := by
  rw [respond]
  change StateT.run (StateT.bind (answers message.calls) _) s = _
  simp only [StateT.run, StateT.bind]
  cases answers message.calls s with
  | mk given t =>
    obtain ⟨ms, fault⟩ := given
    cases fault <;> rfl

theorem exec_followUp_of_asks {c : Option Completion} {m : Message} (asks : Asks c m) (r : Request)
    (s : Session τ) :
    (followUp r c).exec s = match (answers m.calls).run s with
      | ((_, some f), t) => (.error f, t)
      | ((ms, none), t) => (.ok (some (continuing r (r.messages ++ [m] ++ ms))), t) := by
  simp only [followUp, if_pos asks.asksForTools, Run.exec_bind, Run.exec_ofExcept,
    asks.toolMessage, Run.exec_liftM, run_respond]
  cases (answers m.calls).run s with
  | mk given t =>
    obtain ⟨ms, fault⟩ := given
    cases fault <;> rfl

theorem exec_transmit (send : Transport τ) (r : Request) (s : Session τ) :
    (transmit send r).exec s = (reply send r s, sentSession send r s) := by
  simp [transmit, Run.exec_bind, Session.exec_onLink, reply, sentSession]

def pursue (send : Transport τ) (limit : RoundLimit) (fuel rounds : Nat) (r : Request) :
    Run (Session τ) (Option Completion) := do
  follow send limit fuel rounds r (← transmit send r)

theorem exec_pursue (send : Transport τ) (limit : RoundLimit) (fuel rounds : Nat) (r : Request)
    (s : Session τ) :
    (pursue send limit fuel rounds r).exec s = match reply send r s with
      | .ok c => (follow send limit fuel rounds r c).exec (sentSession send r s)
      | .error f => (.error f, sentSession send r s) := by
  rw [pursue, Run.exec_bind, exec_transmit]
  cases reply send r s <;> rfl

theorem follow_of_final {c : Option Completion} (ends : asksForTools c = false)
    (send : Transport τ) (limit : RoundLimit) (fuel rounds : Nat) (r : Request) :
    follow send limit fuel rounds r c = pure c := by
  cases fuel <;> simp [follow, ends]

theorem follow_of_limited {c : Option Completion} {m : Message} (asks : Asks c m)
    {limit : RoundLimit} {rounds : Nat} (passed : limit.reached rounds = true) (send : Transport τ)
    (fuel : Nat) (r : Request) (s : Session τ) :
    (follow send limit fuel rounds r c).exec s = (.error (.roundLimit limit.shown), s) := by
  cases fuel <;> simp [follow, asks.asksForTools, passed]

theorem follow_zero {c : Option Completion} {m : Message} (asks : Asks c m)
    {limit : RoundLimit} {rounds : Nat} (within : limit.reached rounds = false)
    (send : Transport τ) (r : Request) (s : Session τ) :
    (follow send limit 0 rounds r c).exec s = (.error .unfinished, s) := by
  simp [follow, asks.asksForTools, within]

theorem follow_succ {c : Option Completion} {m : Message} (asks : Asks c m)
    {limit : RoundLimit} {rounds : Nat} (within : limit.reached rounds = false)
    (send : Transport τ) (fuel : Nat) (r : Request) (s : Session τ) :
    (follow send limit (fuel + 1) rounds r c).exec s = match (answers m.calls).run s with
      | ((_, some f), t) => (.error f, t)
      | ((ms, none), t) =>
        (pursue send limit fuel (rounds + 1) (continuing r (r.messages ++ [m] ++ ms))).exec t := by
  rw [follow]
  simp only [if_pos asks.asksForTools, within, Bool.false_eq_true, if_false, Run.exec_bind,
    exec_followUp_of_asks asks]
  cases (answers m.calls).run s with
  | mk given t =>
    obtain ⟨ms, fault⟩ := given
    cases fault <;> rfl

variable {send : Transport τ} {limit : RoundLimit} {fuel rounds : Nat} {r : Request}
  {s u : Session τ} {t : Transcript}

/-- The course of a conversation determines its outcome and the session it leaves. -/
theorem Course.exec (h : Course send limit fuel rounds r s t u) :
    (pursue send limit fuel rounds r).exec s = (t.ending.outcome limit, u) := by
  induction h with
  | final replied ends =>
    simp [exec_pursue, replied, follow_of_final ends, Ending.outcome]
  | refused replied =>
    simp [exec_pursue, replied, Ending.outcome]
  | limited replied asks passed =>
    simp [exec_pursue, replied, follow_of_limited asks passed, Ending.outcome]
  | unfinished replied asks within =>
    simp [exec_pursue, replied, follow_zero asks within, Ending.outcome]
  | @failed fuel rounds r s c m as x rest middle left replied asks within calls answering failing =>
    have ran := run_answers_of_failing (s := sentSession send r s) (by simpa using answering)
      (by simpa using failing) rest
    simp [exec_pursue, replied, follow_succ asks within, calls, ran, Ending.outcome]
  | @round fuel rounds r s u c m as left t replied asks within calls answering later ih =>
    have ran := run_answers (s := sentSession send r s) (by simpa using answering)
    rw [exec_pursue, replied]
    simp only [follow_succ asks within, calls, ran]
    exact ih

/-- A conversation that came to its end takes the same course however much longer it is watched. -/
theorem Course.of_le (h : Course send limit fuel rounds r s t u) (hEnd : t.ending ≠ .unfinished)
    {more : Nat} (hMore : fuel ≤ more) : Course send limit more rounds r s t u := by
  induction h generalizing more with
  | final replied ends => exact .final replied ends
  | refused replied => exact .refused replied
  | limited replied asks passed => exact .limited replied asks passed
  | unfinished replied asks within => exact absurd rfl hEnd
  | failed replied asks within calls answering failing =>
    obtain ⟨more, rfl⟩ := Nat.exists_eq_add_one_of_ne_zero (Nat.ne_zero_of_lt hMore)
    exact .failed replied asks within calls answering failing
  | round replied asks within calls answering later ih =>
    obtain ⟨more, rfl⟩ := Nat.exists_eq_add_one_of_ne_zero (Nat.ne_zero_of_lt hMore)
    exact .round replied asks within calls answering (ih hEnd (Nat.le_of_succ_le_succ hMore))

end Colloquy.Conversation

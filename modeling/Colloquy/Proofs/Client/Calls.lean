import Colloquy.Proofs.Client.Requests
import Colloquy.Proofs.Conversation.Supply
import Colloquy.Proofs.Exchange.Sending
import Colloquy.Proofs.Retry.Attempts

/-! # Calls

A call makes one request and attempts it, at most so many times. Each attempt is a whole conversation
that begins with this request; of a conversation that is given up, nothing but what its handlers may
remember and what resolvers provided is left for the next.
-/
set_option autoImplicit false

namespace Colloquy.Client

open Backoff (Attempt Transient pausedSession)
open Conversation (Transcript Round drive)

variable {τ : Type}

def responseTo (completion : Option Completion) : Response :=
  completion.elim {} responseOf

/-- `g` conveys a choice of the completion with this id. Content that is missing is an empty text. -/
structure Conveys (id : Value) (choice : Choice) (g : Generation) : Prop where
  content : g.content =
    if choice.message.content.truthy then choice.message.content else .str ""
  finish : g.finishReason = FinishReason.toValue choice.finishReason
  metadata : g.metadata = .object [
    ("id", id),
    ("role", Message.roleValue choice.message.role),
    ("finish_reason", .str (choice.finishReason.elim "" FinishReason.name))]

theorem conveys_generationOf (id : Value) (choice : Choice) :
    Conveys id choice (generationOf id choice) where
  content := rfl
  finish := rfl
  metadata := by
    rcases h : choice.finishReason with - | (- | - | - | - | -) <;> simp [generationOf, h] <;> rfl

theorem responseOf_conveys (c : Completion) :
    List.Forall₂ (Conveys c.id) c.choices (responseOf c).generations ∧
      (responseOf c).usage = c.usage.elim [] Usage.toMembers := by
  refine ⟨?_, rfl⟩
  rw [responseOf, List.forall₂_map_right_iff, List.forall₂_same]
  intro choice _
  exact conveys_generationOf c.id choice

/-- An attempt is a conversation that begins with `request`, and nothing else. Each of its requests
has the messages of `request` and those of its own rounds. -/
def Converses (send : Transport τ) (limit : RoundLimit) (fuel : Nat) (request : Request)
    (a : Attempt τ (Option Completion)) : Prop :=
  (drive send limit fuel request).exec a.before = (a.outcome, a.after) ∧
  ∃ t : Transcript, t.Lawful send limit fuel request a.before a.after ∧
    a.outcome = t.ending.outcome limit ∧
    a.events = t.events ∧
    (∀ j r, t.requests[j]? = some r →
      r.messages = request.messages ++ (t.rounds.take j).flatMap Round.messages) ∧
    (∀ most, limit.most = some most → most ≤ fuel → t.ending ≠ .unfinished)

/-- A call, begun in a session `s`, that has its request in a session `s₀`, attempts it at most `most`
times, and has the outcome `o` in a session `u`. -/
structure Attempted (c : Client) (send : Transport τ) (limit : RoundLimit) (fuel most : Nat)
    (request : Request) (s s₀ : Session τ) (tries : List (Attempt τ (Option Completion)))
    (o : Except Fault Response) (u : Session τ) : Prop where
  length_pos : 0 < tries.length
  length_le : tries.length ≤ most
  first : ∃ a, tries[0]? = some a ∧ a.before = s₀
  converses : ∀ a ∈ tries, Converses send limit fuel request a
  next : ∀ (j : Nat) a a', tries[j]? = some a → tries[j + 1]? = some a' →
    ∃ f d, a.outcome = .error f ∧ f.isTransient = true ∧ c.backoff.delay (.int j) = .ok d ∧
      a'.before = pausedSession most j f d a.after
  last : ∃ a, tries.getLast? = some a ∧ o = a.outcome.map responseTo ∧
    (tries.length = most ∨ ¬ Transient a.outcome)
  requests : u.journal.requests =
    s.journal.requests ++ tries.flatMap fun a => a.events.filterMap Journal.Event.request?
  calls : u.journal.calls =
    s₀.journal.calls ++ tries.flatMap fun a => a.events.filterMap Journal.Event.call?
  sleeps : ∃ ds, u.journal.sleeps = s.journal.sleeps ++ ds ∧ ds.length + 1 = tries.length ∧
    ∀ (j : Nat) d, ds[j]? = some d → c.backoff.delay (.int j) = .ok d

theorem converses_of_exec {send : Transport τ} {limit : RoundLimit} {fuel : Nat} {request : Request}
    {a : Attempt τ (Option Completion)}
    (ran : (drive send limit fuel request).exec a.before = (a.outcome, a.after)) :
    Converses send limit fuel request a := by
  obtain ⟨t, u, course⟩ := Conversation.exists_course send limit fuel 0 request a.before
  have run : (drive send limit fuel request).exec a.before = (t.ending.outcome limit, u) :=
    course.exec
  obtain ⟨hOutcome, hAfter⟩ := Prod.mk.inj (ran.symm.trans run)
  have lawful := course.lawful
  rw [← hAfter] at lawful
  refine ⟨ran, t, lawful, hOutcome, ?_, fun j r hr => lawful.messages_eq hr,
    fun most hMost hFuel => lawful.finished hMost hFuel⟩
  rw [Attempt.events, lawful.events_eq, List.drop_left]

theorem Converses.extends {send : Transport τ} {limit : RoundLimit} {fuel : Nat} {request : Request}
    {a : Attempt τ (Option Completion)} (h : Converses send limit fuel request a) : a.Extends := by
  obtain ⟨-, t, lawful, -⟩ := h
  exact ⟨t.events, lawful.events_eq.symm⟩

theorem Converses.sleeps_eq {send : Transport τ} {limit : RoundLimit} {fuel : Nat}
    {request : Request} {a : Attempt τ (Option Completion)}
    (h : Converses send limit fuel request a) : a.after.journal.sleeps = a.before.journal.sleeps := by
  obtain ⟨-, t, lawful, -⟩ := h
  simp [Journal.sleeps, lawful.events_eq, t.filterMap_events_sleep]

theorem exec_respond (completion : Option Completion) (s : Session τ) :
    ∃ notes : List LogEntry, (respond completion).exec s =
      (.ok (responseTo completion), { s with journal := s.journal.add (notes.map .note) }) := by
  cases completion with
  | none => exact ⟨[noCompletionNote], rfl⟩
  | some completion => exact ⟨[], by simp [respond, responseTo]⟩

theorem exec_callOver_eq {c : Client} {send : Transport τ} {fuel : Nat} {p : Prompt}
    {s s₀ v : Session τ} {request : Request} {overlay : Option Level} {limit : RoundLimit}
    {o : Except Fault (Option Completion)}
    (prepared : (c.prepare p false).exec s = (.ok (request, overlay), s₀))
    (limited : RoundLimit.ofValue c.rounds = .ok limit)
    (ran : (c.backoff.execute (drive send limit (limit.most.getD fuel) request)).exec
      (Session.under overlay s₀) = (o, v)) :
    ∃ notes : List LogEntry, (c.callOver send fuel p).exec s = (o.map responseTo,
      { Session.uncovered overlay v with journal := v.journal.add (notes.map .note) }) := by
  rw [callOver, Run.exec_bind_of_ok prepared]
  simp only [Run.exec_bind, Run.exec_ofExcept, limited, Session.exec_overlaid, ran]
  cases o with
  | error f => exact ⟨[], by simp [Except.map, Session.uncovered]⟩
  | ok completion => exact exec_respond completion (Session.uncovered overlay v)

theorem exec_callOver {c : Client} {send : Transport τ} {fuel : Nat} {p : Prompt}
    {s s₀ v : Session τ} {request : Request} {overlay : Option Level} {limit : RoundLimit}
    {o : Except Fault (Option Completion)}
    (prepared : (c.prepare p false).exec s = (.ok (request, overlay), s₀))
    (limited : RoundLimit.ofValue c.rounds = .ok limit)
    (ran : (c.backoff.execute (drive send limit (limit.most.getD fuel) request)).exec
      (Session.under overlay s₀) = (o, v)) :
    ∃ (u : Session τ) (notes : List LogEntry),
      (c.callOver send fuel p).exec s = (o.map responseTo, u) ∧
        u.journal = v.journal.add (notes.map .note) := by
  obtain ⟨notes, called⟩ := exec_callOver_eq prepared limited ran
  exact ⟨_, notes, called, rfl⟩

theorem attempted_of_attempts {c : Client} {send : Transport τ} {limit : RoundLimit}
    {fuel left : Nat} {request : Request} {s s₀ u v : Session τ}
    {tries : List (Attempt τ (Option Completion))} {o : Except Fault (Option Completion)}
    {asked : List Call} {notes : List LogEntry}
    (tried : Backoff.Attempts c.backoff (left + 1) (drive send limit fuel request) left 0 s₀ tries o v)
    (delays : ∀ i : Nat, i + 1 < left + 1 → ∃ d, c.backoff.delay (.int i) = .ok d)
    (hBefore : s₀.journal = s.journal.add (asked.map .call))
    (hBehind : u.journal = v.journal.add (notes.map .note)) :
    c.Attempted send limit fuel (left + 1) request s s₀ tries (o.map responseTo) u := by
  have converses : ∀ a ∈ tries, Converses send limit fuel request a :=
    fun a ha => converses_of_exec (tried.ran a ha)
  have extend : ∀ a ∈ tries, a.Extends := fun a ha => (converses a ha).extends
  exact
    { length_pos := tried.length_pos
      length_le := tried.length_le
      first := tried.first
      converses := converses
      next := fun j a a' ha ha' => by simpa using tried.next j a a' ha ha'
      last := by
        obtain ⟨a, hLast, hOutcome, hEnd⟩ := tried.last fun j hj => by
          simpa using delays j (Nat.succ_lt_succ hj)
        exact ⟨a, hLast, congrArg _ hOutcome, hEnd⟩
      requests := by
        have seen := tried.filterMap_events Journal.Event.request? (fun _ => rfl) (fun _ => rfl)
          extend
        rw [hBefore, Journal.events_add, List.filterMap_append, Journal.filterMap_calls_request,
          List.append_nil] at seen
        rw [hBehind, Journal.requests_add, Journal.filterMap_notes_request, List.append_nil]
        exact seen
      calls := by
        have seen := tried.filterMap_events Journal.Event.call? (fun _ => rfl) (fun _ => rfl)
          extend
        rw [hBehind, Journal.calls_add, Journal.filterMap_notes_call, List.append_nil]
        exact seen
      sleeps := by
        obtain ⟨ds, hSleeps, hLength, hDelay⟩ := tried.sleeps fun a ha => (converses a ha).sleeps_eq
        refine ⟨ds, ?_, hLength, fun j d hd => by simpa using hDelay j d hd⟩
        rw [hBefore, Journal.sleeps_add, Journal.filterMap_calls_sleep, List.append_nil] at hSleeps
        rw [hBehind, Journal.sleeps_add, Journal.filterMap_notes_sleep, List.append_nil]
        exact hSleeps }

/-- A call whose request can be made attempts it, unless the limit on its follow-ups is none. -/
theorem callOver_attempted (c : Client) (send : Transport τ) (fuel : Nat) (p : Prompt)
    {s s₀ : Session τ} {request : Request} {most : Nat}
    (created : (c.createRequest p false).exec s = (.ok request, s₀))
    (attempts : c.backoff.attempts = .ok most) (positive : 1 ≤ most)
    (delays : ∀ i : Nat, i + 1 < most → ∃ d, c.backoff.delay (.int i) = .ok d) :
    (∃ f, RoundLimit.ofValue c.rounds = .error f ∧
      (c.callOver send fuel p).exec s = (.error f, s₀)) ∨
    ∃ limit overlay tries o u, RoundLimit.ofValue c.rounds = .ok limit ∧
      (c.prepare p false).exec s = (.ok (request, overlay), s₀) ∧
      (c.callOver send fuel p).exec s = (o, u) ∧
      c.Attempted send limit (limit.most.getD fuel) most request s (Session.under overlay s₀) tries o
        u := by
  obtain ⟨overlay, prepared⟩ := prepare_of_createRequest created
  cases hLimit : RoundLimit.ofValue c.rounds with
  | error f =>
    refine .inl ⟨f, rfl, ?_⟩
    rw [callOver, Run.exec_bind_of_ok prepared]
    simp [Run.exec_bind, hLimit]
  | ok limit =>
    obtain ⟨registry, asked, hQuiet⟩ := onlyAsks_prepare c p false s
    have quiet : (Session.under overlay s₀).journal = s.journal.add (asked.map .call) := by
      rw [prepared] at hQuiet
      exact congrArg Session.journal hQuiet
    obtain ⟨left, rfl⟩ := Nat.exists_eq_add_of_le' positive
    obtain ⟨tries, o, v, tried, ran⟩ := Backoff.exists_attempts c.backoff (left + 1)
      (drive send limit (limit.most.getD fuel) request) left 0 (Session.under overlay s₀)
    rw [← Backoff.exec_execute attempts] at ran
    obtain ⟨u, notes, called, hBehind⟩ := exec_callOver prepared hLimit ran
    exact .inr ⟨limit, overlay, tries, o.map responseTo, u, rfl, prepared, called,
      attempted_of_attempts tried delays quiet hBehind⟩

/-- A call that succeeds conveys the completion of its last attempt. -/
theorem Attempted.conveys {c : Client} {send : Transport τ} {limit : RoundLimit} {fuel most : Nat}
    {request : Request} {s s₀ u : Session τ} {tries : List (Attempt τ (Option Completion))}
    {r : Response} (h : c.Attempted send limit fuel most request s s₀ tries (.ok r) u) :
    ∃ a, tries.getLast? = some a ∧ ((a.outcome = .ok none ∧ r = {}) ∨
      ∃ completion, a.outcome = .ok (some completion) ∧
        List.Forall₂ (Conveys completion.id) completion.choices r.generations ∧
        r.usage = completion.usage.elim [] Usage.toMembers) := by
  obtain ⟨a, hLast, hOutcome, -⟩ := h.last
  obtain ⟨completion, hGiven, rfl⟩ := ok_of_map hOutcome.symm
  refine ⟨a, hLast, ?_⟩
  cases completion with
  | none => exact .inl ⟨hGiven, rfl⟩
  | some completion => exact .inr ⟨completion, hGiven, responseOf_conveys completion⟩

/-- Over a link whose supply is no more than the fuel, every attempt comes to its end. -/
theorem Attempted.finishes {c : Client} {send : Transport τ} {limit : RoundLimit} {fuel most : Nat}
    {request : Request} {s s₀ u : Session τ} {tries : List (Attempt τ (Option Completion))}
    {o : Except Fault Response}
    (h : c.Attempted send limit fuel most request s s₀ tries o u) {size : τ → Nat}
    (spends : Conversation.Spends send size) (hSize : size s₀.link ≤ fuel) :
    ∀ a ∈ tries, ∃ t : Transcript, t.Lawful send limit fuel request a.before a.after ∧
      a.outcome = t.ending.outcome limit ∧ t.ending ≠ .unfinished := by
  have supply {j : Nat} {a : Attempt τ (Option Completion)} (ha : tries[j]? = some a) :
      size a.before.link ≤ fuel := by
    refine of_getElem?_of_next (P := fun _ a => size a.before.link ≤ fuel) ?_ ?_ ha
    · intro a ha
      obtain ⟨b, hb, hBefore⟩ := h.first
      obtain rfl := Option.some.inj (hb.symm.trans ha)
      rw [hBefore]
      exact hSize
    · intro j b a hb ha hSupply
      obtain ⟨f, d, -, -, -, hBefore⟩ := h.next j b a hb ha
      obtain ⟨-, t, lawful, -⟩ := h.converses b (List.mem_of_getElem? hb)
      calc
        size a.before.link = size b.after.link := by rw [hBefore]; rfl
        _ ≤ size b.before.link := by
          rw [lawful.link_eq]
          exact spends.linkAfter_le _ _
        _ ≤ fuel := hSupply
  intro a ha
  obtain ⟨j, hj⟩ := List.mem_iff_getElem?.mp ha
  obtain ⟨t, v, course⟩ := Conversation.exists_course send limit fuel 0 request a.before
  have ran := (h.converses a ha).1.symm.trans course.exec
  obtain ⟨hOutcome, hAfter⟩ := Prod.mk.inj ran
  refine ⟨t, ?_, hOutcome, course.finished_of_spends spends (supply hj)⟩
  rw [hAfter]
  exact course.lawful

theorem complete_spends : Conversation.Spends Exchange.complete fun l => l.replies.length := by
  have cases (r : Request) (l : Link) :
      (∃ f, ((Exchange.complete r).exec l) = (.error f, l)) ∨
        ∃ body, (Exchange.complete r).exec l =
          (Exchange.completed l.endpoint l.replies.head?, l.sending body) := by
    cases streaming : r.stream.truthy with
    | true => exact .inl ⟨.streamFlag false, by simp [Exchange.complete, streaming]⟩
    | false =>
      rw [Exchange.exec_complete streaming]
      cases l.body? r with
      | error f => exact .inl ⟨_, rfl⟩
      | ok body => exact .inr ⟨body, rfl⟩
  constructor
  · intro r l
    obtain ⟨f, ran⟩ | ⟨body, ran⟩ := cases r l
    · simp [ran]
    · simp [ran, Link.sending]
  · intro r l c hc
    obtain ⟨f, ran⟩ | ⟨body, ran⟩ := cases r l
    · rw [ran] at hc
      cases hc
    · rw [ran] at hc ⊢
      cases hReplies : l.replies with
      | nil =>
        simp only [hReplies] at hc
        cases hc
      | cons reply rest => simp [Link.sending, hReplies]

theorem exec_call (c : Client) (p : Prompt) (s : Session Link) :
    (c.call p).exec s =
      (c.callOver Exchange.complete (s.link.replies.length + 1) p).exec s := by
  simp [call, Run.exec_bind]

/-- No attempt of a call to the service is cut off. -/
theorem Attempted.finishes_call {c : Client} {limit : RoundLimit} {most : Nat} {request : Request}
    {s s₀ u : Session Link} {tries : List (Attempt Link (Option Completion))}
    {o : Except Fault Response}
    (h : c.Attempted Exchange.complete limit (limit.most.getD (s.link.replies.length + 1)) most
      request s s₀ tries o u) (hLink : s₀.link = s.link) :
    ∀ a ∈ tries, ∃ t : Transcript,
      t.Lawful Exchange.complete limit (limit.most.getD (s.link.replies.length + 1)) request a.before
        a.after ∧ a.outcome = t.ending.outcome limit ∧ t.ending ≠ .unfinished := by
  cases hMost : limit.most with
  | some rounds =>
    intro a ha
    obtain ⟨-, t, lawful, hOutcome, -, -, hEnd⟩ := h.converses a ha
    rw [hMost] at lawful hEnd
    exact ⟨t, lawful, hOutcome, hEnd rounds rfl (Nat.le_refl _)⟩
  | none =>
    have attempted := h
    rw [hMost] at attempted
    exact attempted.finishes complete_spends (by simp [hLink])

def patient : Client where
  backoff := { maxAttempts := .int 2, base := .int 1, factor := .int 2, cap := .int 30 }

def greeting : Prompt := .ofText (.str "Hello") none

def echo : Callback where
  name := .ofText "echo"
  handler := some (.raw fun arguments => .ok (.now (.str arguments)))

def asking : Completion where
  id := .str "c1"
  choices := [{
    index := .int 0
    message := {
      content := .null
      role := some .assistant
      toolCalls := some [{ id := .str "t1", function := { name := .str "echo", arguments := "[]" } }] }
    finishReason := some .toolCalls }]

def friendly : Completion where
  id := .str "c2"
  choices := [{ index := .int 0, message := { content := .str "Hi", role := some .assistant } }]

def patientSession : Session Script where
  registry := [.ofCallbacks [echo] none]
  link := { items := [.error (.transient "busy" .null), .ok (some asking), .ok (some friendly)] }

theorem prepare_patient : ∃ request,
    (patient.prepare greeting false).exec patientSession = (.ok (request, none), patientSession) := by
  have defaults : patient.defaults.enabled false = .ok [] := Options.enabled_of_none rfl
  simp only [prepare, Run.exec_bind, Run.exec_ofExcept, defaults]
  exact ⟨_, rfl⟩

theorem delay_patient (i : Nat) (hi : i + 1 < 2) : patient.backoff.delay (.int i) = .ok (.int 1) := by
  obtain rfl : i = 0 := by omega
  rfl

theorem callOver_attempted_patient :
    ∃ request limit tries r u,
      (patient.createRequest greeting false).exec patientSession = (.ok request, patientSession) ∧
      (patient.callOver .scripted 0 greeting).exec patientSession = (.ok r, u) ∧
      patient.Attempted .scripted limit (limit.most.getD 0) 2 request patientSession patientSession
        tries (.ok r) u ∧
      u.journal.calls = [.handler echo.name "[]"] ∧
      ∃ g, r.generations = [g] ∧ g.content = .str "Hi" := by
  obtain ⟨request, prepared⟩ := prepare_patient
  have created : (patient.createRequest greeting false).exec patientSession =
      (.ok request, patientSession) := by
    rw [createRequest, Run.exec_map, prepared]
    rfl
  obtain ⟨f, limited, -⟩ | ⟨limit, overlay, tries, o, u, limited, again, called, attempted⟩ :=
    callOver_attempted patient .scripted 0 greeting created rfl (Nat.le_succ 1)
      fun i hi => ⟨_, delay_patient i hi⟩
  · cases limited
  · obtain rfl := Except.ok.inj limited
    obtain ⟨same, -⟩ := Prod.mk.inj (prepared.symm.trans again)
    obtain ⟨-, rfl⟩ := Prod.mk.inj (Except.ok.inj same)
    let conversation : Run (Session Script) (Option Completion) :=
      drive .scripted ⟨.int 10, some 10⟩ 10 request
    let refused := (conversation.exec patientSession).2
    have first : conversation.exec patientSession = (.error (.transient "busy" .null), refused) := rfl
    let paused := pausedSession 2 0 (.transient "busy" .null) (.int 1) refused
    have second : conversation.exec paused = (.ok (some friendly), (conversation.exec paused).2) := rfl
    have tried : (patient.backoff.execute conversation).exec patientSession =
        (.ok (some friendly), (conversation.exec paused).2) := by
      rw [Backoff.exec_execute rfl, Backoff.tryAgain_of_transient first rfl (delay_patient 0 (by decide))]
      exact Backoff.tryAgain_of_ok second 0 1
    obtain ⟨notes, answered⟩ := exec_callOver_eq prepared rfl tried
    obtain ⟨rfl, rfl⟩ := Prod.mk.inj (called.symm.trans answered)
    refine ⟨request, _, tries, _, _, created, called, attempted, ?_, ?_⟩
    · rw [Journal.calls_add, Journal.filterMap_notes_call, List.append_nil]
      rfl
    · exact ⟨_, rfl, (conveys_generationOf _ _).content⟩

end Colloquy.Client

import Colloquy.Conversation
import Colloquy.Proofs.Callbacks

/-! # Answering tool calls

A tool call is looked up in the registry that the look-ups before it left, and its callback is run
on the text of its arguments as it came. `Answering` says so for a series of calls that all succeed
and `Failing` for one that does not; between them they cover every list of calls, and both give the
exact outcome and the exact events of `answers`.
-/
set_option autoImplicit false

namespace Colloquy.Conversation

/-- A tool call whose callback was found, after so many questions to resolvers. -/
structure Found where
  call : ToolCall
  name : Name
  callback : Callback
  asked : Nat

structure Answered extends Found where
  text : String

inductive Failure where
  | unnamed (call : ToolCall) (fault : Fault)
  | missing (call : ToolCall) (name : Name) (asked : Nat) (fault : Fault)
  | broken (found : Found) (fault : Fault)

def questions (name : Name) (asked : Nat) : List Call :=
  List.replicate asked (.resolver name)

namespace Found

def calls (x : Found) : List Call :=
  questions x.name x.asked ++ Session.callsOf x.callback x.call.function.arguments

def events (x : Found) : List Journal.Event :=
  (questions x.name x.asked).map .call ++ .note (callNote x.call) ::
    (Session.callsOf x.callback x.call.function.arguments).map .call

@[simp] theorem filterMap_events_call (x : Found) :
    x.events.filterMap Journal.Event.call? = x.calls := by
  have kept : Journal.Event.call? ∘ Journal.Event.call = some := rfl
  simp [events, calls, kept, Journal.Event.call?, List.filterMap_map, List.filterMap_cons]

theorem filterMap_events {β : Type} {see : Journal.Event → Option β}
    (noCall : ∀ c, see (.call c) = none) (noNote : ∀ e, see (.note e) = none) (x : Found) :
    x.events.filterMap see = [] := by
  simp [events, noCall, noNote]

/-- `r` gives the callback for the name that the tool call says, when `before` was called already. -/
structure In (x : Found) (r : Registry) (before : List Call) : Prop where
  named : Name.ofValue x.call.function.name = .ok x.name
  outcome_eq : (r.get before x.name).outcome x.name = .ok x.callback
  asked_eq : (r.get before x.name).asked = x.asked

def run (x : Found) (before : List Call) : Except Fault String :=
  x.callback.invoke (before ++ questions x.name x.asked) x.call.function.arguments

end Found

def Answered.message (a : Answered) : Message := answerTo a.call a.text

namespace Failure

def call : Failure → ToolCall
  | unnamed call _ => call
  | missing call .. => call
  | broken found _ => found.call

def fault : Failure → Fault
  | unnamed _ fault => fault
  | missing _ _ _ fault => fault
  | broken _ fault => fault

def events : Failure → List Journal.Event
  | unnamed .. => []
  | missing _ name asked _ => (questions name asked).map .call
  | broken found _ => found.events

theorem filterMap_events {β : Type} {see : Journal.Event → Option β}
    (noCall : ∀ c, see (.call c) = none) (noNote : ∀ e, see (.note e) = none) (x : Failure) :
    x.events.filterMap see = [] := by
  cases x with
  | unnamed => rfl
  | missing => simp [events, noCall]
  | broken found => exact found.filterMap_events noCall noNote

end Failure

/-- From a registry, with `before` called already, the tool calls are answered one after the other,
and a registry is left. -/
inductive Answering : Registry → List Call → List Answered → Registry → Prop where
  | nil (r : Registry) (before : List Call) : Answering r before [] r
  | cons {r left : Registry} {before : List Call} {a : Answered} {rest : List Answered}
      (found : a.In r before) (text : a.run before = .ok a.text)
      (later : Answering (r.get before a.name).registry (before ++ a.calls) rest left) :
      Answering r before (a :: rest) left

inductive Failing : Registry → List Call → Failure → Registry → Prop where
  | unnamed {r : Registry} {before : List Call} {call : ToolCall} {fault : Fault}
      (named : Name.ofValue call.function.name = .error fault) :
      Failing r before (.unnamed call fault) r
  | missing {r : Registry} {before : List Call} {call : ToolCall} {name : Name} {fault : Fault}
      (named : Name.ofValue call.function.name = .ok name)
      (lost : (r.get before name).outcome name = .error fault) :
      Failing r before (.missing call name (r.get before name).asked fault)
        (r.get before name).registry
  | broken {r : Registry} {before : List Call} {found : Found} {fault : Fault}
      (isIn : found.In r before) (ran : found.run before = .error fault) :
      Failing r before (.broken found fault) (r.get before found.name).registry

theorem Answering.append {r middle left : Registry} {before : List Call} {as bs : List Answered}
    (first : Answering r before as middle)
    (second : Answering middle (before ++ as.flatMap fun a => a.calls) bs left) :
    Answering r before (as ++ bs) left := by
  induction first with
  | nil r before => simpa using second
  | cons found text later ih =>
    refine .cons found text (ih ?_)
    simpa [List.append_assoc] using second

/-- Each answer is the text of what the handler of its callback came to. -/
theorem Answering.exists_handler {r left : Registry} {before : List Call} {as : List Answered}
    (h : Answering r before as left) {a : Answered} (mem : a ∈ as) :
    ∃ handler earlier answer v, a.callback.handler = some handler ∧
      handler.run earlier a.call.function.arguments = .ok answer ∧ answer.settled = .ok v ∧
      Callback.answerText v = .ok a.text := by
  induction h with
  | nil => cases mem
  | cons found text later ih =>
    obtain rfl | mem := List.mem_cons.mp mem
    · obtain ⟨handler, answer, v, held⟩ := Callback.handler_of_invoke text
      exact ⟨handler, _, answer, v, held⟩
    · exact ih mem

theorem answered_or_failing (r : Registry) (before : List Call) (call : ToolCall) :
    (∃ a : Answered, a.call = call ∧ a.In r before ∧ a.run before = .ok a.text) ∨
      ∃ x left, x.call = call ∧ Failing r before x left := by
  cases named : Name.ofValue call.function.name with
  | error fault => exact .inr ⟨_, _, rfl, .unnamed named⟩
  | ok name =>
    cases held : (r.get before name).outcome name with
    | error fault => exact .inr ⟨_, _, rfl, .missing named held⟩
    | ok callback =>
      let found : Found := ⟨call, name, callback, (r.get before name).asked⟩
      have isIn : found.In r before := ⟨named, held, rfl⟩
      cases ran : found.run before with
      | error fault => exact .inr ⟨_, _, rfl, .broken isIn ran⟩
      | ok text => exact .inl ⟨{ found with text }, rfl, isIn, ran⟩

/-- Every list of tool calls is answered to its end or up to a call that fails. -/
theorem answering_or_failing (calls : List ToolCall) (r : Registry) (before : List Call) :
    (∃ as left, as.map (fun a => a.call) = calls ∧ Answering r before as left) ∨
      ∃ as x rest middle left, calls = as.map (fun a => a.call) ++ x.call :: rest ∧
        Answering r before as middle ∧
        Failing middle (before ++ as.flatMap fun a => a.calls) x left := by
  induction calls generalizing r before with
  | nil => exact .inl ⟨[], r, rfl, .nil r before⟩
  | cons call calls ih =>
    obtain ⟨a, rfl, found, text⟩ | ⟨x, left, rfl, failing⟩ := answered_or_failing r before call
    · obtain ⟨as, left, rfl, later⟩ | ⟨as, x, rest, middle, left, rfl, later, failing⟩ :=
        ih (r.get before a.name).registry (before ++ a.calls)
      · exact .inl ⟨a :: as, left, rfl, .cons found text later⟩
      · refine .inr ⟨a :: as, x, rest, middle, left, rfl, .cons found text later, ?_⟩
        simpa [List.append_assoc] using failing
    · exact .inr ⟨[], x, calls, r, left, rfl, .nil r before, by simpa using failing⟩

variable {τ : Type}

def answeredSession (s : Session τ) (as : List Answered) (left : Registry) : Session τ :=
  { s with registry := left, journal := s.journal.add (as.flatMap fun a => a.events) }

def failedSession (s : Session τ) (x : Failure) (left : Registry) : Session τ :=
  { s with registry := left, journal := s.journal.add x.events }

@[simp] theorem answeredSession_nil (s : Session τ) : answeredSession s [] s.registry = s := by
  simp [answeredSession]

theorem exec_callbackOf {v : Value} {name : Name} (named : Name.ofValue v = .ok name)
    (s : Session τ) : (Session.callbackOf v).exec s = (Session.callback name).exec s := by
  simp [Session.callbackOf, Run.exec_bind, named]

theorem exec_answer_of_in {x : Found} {s : Session τ} (found : x.In s.registry s.journal.calls) :
    (answer x.call).exec s = ((x.run s.journal.calls).map (answerTo x.call),
      { s with
        registry := (s.registry.get s.journal.calls x.name).registry
        journal := s.journal.add x.events }) := by
  have kept : Journal.Event.call? ∘ Journal.Event.call = some := rfl
  have asked (n : Nat) : (List.replicate n (Journal.Event.call (.resolver x.name))) =
      (questions x.name n).map .call := by
    simp [questions]
  simp only [answer, Run.exec_bind, exec_callbackOf found.named, Session.exec_callback,
    found.outcome_eq, found.asked_eq, Session.exec_note, Session.exec_invoke, asked,
    Journal.add_add, Journal.calls_add]
  simp only [List.filterMap_append, List.filterMap_map, kept, List.filterMap_some]
  simp only [Found.run, Found.events, List.append_assoc, List.singleton_append,
    List.filterMap_cons, List.filterMap_nil, Journal.Event.call?, List.append_nil]
  cases x.callback.invoke (s.journal.calls ++ questions x.name x.asked) x.call.function.arguments
    <;> rfl

theorem exec_answer_of_failing {s : Session τ} {x : Failure} {left : Registry}
    (failing : Failing s.registry s.journal.calls x left) :
    (answer x.call).exec s = (.error x.fault, failedSession s x left) := by
  cases failing with
  | unnamed named =>
    simp [answer, Run.exec_bind, Session.callbackOf, named, Failure.call, Failure.fault,
      failedSession, Failure.events]
  | @missing call name fault named lost =>
    simp [answer, Run.exec_bind, exec_callbackOf named, Session.exec_callback, lost,
      Failure.call, Failure.fault, failedSession, Failure.events, questions]
  | @broken found fault isIn ran =>
    change (answer found.call).exec s = _
    rw [exec_answer_of_in isIn, ran]
    rfl

theorem run_answers_cons (call : ToolCall) (calls : List ToolCall) (s : Session τ) :
    (answers (call :: calls)).run s = match (answer call).exec s with
      | (.error f, t) => (([], some f), t)
      | (.ok m, t) => ((m :: ((answers calls).run t).1.1, ((answers calls).run t).1.2),
          ((answers calls).run t).2) := by
  rw [answers]
  change StateT.run (StateT.bind (answer call).outcome _) s = _
  simp only [StateT.run, StateT.bind, Run.exec, Run.outcome]
  cases ExceptT.run (answer call) s with
  | mk o t => cases o <;> rfl

theorem run_answers_append {s : Session τ} {as : List Answered} {left : Registry}
    (answering : Answering s.registry s.journal.calls as left) (rest : List ToolCall) :
    (answers (as.map (fun a => a.call) ++ rest)).run s =
      ((as.map Answered.message ++ ((answers rest).run (answeredSession s as left)).1.1,
          ((answers rest).run (answeredSession s as left)).1.2),
        ((answers rest).run (answeredSession s as left)).2) := by
  generalize hr : s.registry = r at answering
  generalize hb : s.journal.calls = before at answering
  induction answering generalizing s with
  | nil r before =>
    subst hr
    rw [answeredSession_nil]
    rfl
  | @cons r left before a as found text later ih =>
    subst hr hb
    have step := exec_answer_of_in found
    rw [text] at step
    simp only [List.map_cons, List.cons_append, run_answers_cons, step, Except.map]
    rw [ih rfl (by simp)]
    simp [answeredSession, Answered.message]

theorem run_answers {s : Session τ} {as : List Answered} {left : Registry}
    (answering : Answering s.registry s.journal.calls as left) :
    (answers (as.map fun a => a.call)).run s =
      ((as.map Answered.message, none), answeredSession s as left) := by
  have h := run_answers_append answering []
  simp only [List.append_nil] at h
  rw [h]
  exact congrArg (fun ms => ((ms, none), answeredSession s as left)) (List.append_nil _)

theorem run_answers_of_failing {s : Session τ} {as : List Answered} {x : Failure}
    {middle left : Registry} (answering : Answering s.registry s.journal.calls as middle)
    (failing : Failing middle (s.journal.calls ++ as.flatMap fun a => a.calls) x left)
    (rest : List ToolCall) :
    (answers (as.map (fun a => a.call) ++ x.call :: rest)).run s =
      ((as.map Answered.message, some x.fault), failedSession (answeredSession s as middle) x left) := by
  have fails : Failing (answeredSession s as middle).registry
      (answeredSession s as middle).journal.calls x left := by
    simpa [answeredSession, List.filterMap_flatMap] using failing
  rw [run_answers_append answering, run_answers_cons, exec_answer_of_failing fails]
  simp

end Colloquy.Conversation

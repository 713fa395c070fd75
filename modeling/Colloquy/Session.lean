import Colloquy.Registry
import Colloquy.Request
import Colloquy.Value.Shape

/-! # Sessions

A session is what operations read and change: the registry, a journal of everything observable, and
a link to whatever answers requests. Operations are computations that may fail; on failure the
session keeps what happened before.
-/
set_option autoImplicit false

namespace Colloquy

inductive Severity where
  | info
  | warning
  | error
deriving DecidableEq, Repr

def Severity.name : Severity → String
  | info => "INFO"
  | warning => "WARNING"
  | error => "ERROR"

structure LogEntry where
  severity : Severity
  text : String
deriving DecidableEq, Repr

namespace Journal

inductive Event where
  | call (c : Call)
  | request (r : Request)
  | sleep (seconds : Value)
  | note (entry : LogEntry)

namespace Event

def call? : Event → Option Call
  | call c => some c
  | _ => none

def request? : Event → Option Request
  | request r => some r
  | _ => none

def sleep? : Event → Option Value
  | sleep v => some v
  | _ => none

def note? : Event → Option LogEntry
  | note e => some e
  | _ => none

end Event
end Journal

structure Journal where
  events : List Journal.Event := []

namespace Journal

def ofLog (log : List LogEntry) : Journal := ⟨log.map .note⟩

def calls (j : Journal) : List Call :=
  j.events.filterMap Event.call?

def requests (j : Journal) : List Request :=
  j.events.filterMap Event.request?

def sleeps (j : Journal) : List Value :=
  j.events.filterMap Event.sleep?

def log (j : Journal) : List LogEntry :=
  j.events.filterMap Event.note?

def add (j : Journal) (events : List Event) : Journal :=
  ⟨j.events ++ events⟩

@[simp] theorem events_add (j : Journal) (es : List Event) : (j.add es).events = j.events ++ es := rfl

@[simp] theorem add_nil (j : Journal) : j.add [] = j := by
  simp [add]

@[simp] theorem add_add (j : Journal) (es fs : List Event) : (j.add es).add fs = j.add (es ++ fs) := by
  simp [add]

@[simp] theorem filterMap_calls_request (cs : List Call) :
    (cs.map Event.call).filterMap Event.request? = [] := by
  simp [Event.request?]

@[simp] theorem filterMap_calls_sleep (cs : List Call) :
    (cs.map Event.call).filterMap Event.sleep? = [] := by
  simp [Event.sleep?]

@[simp] theorem filterMap_notes_call (es : List LogEntry) :
    (es.map Event.note).filterMap Event.call? = [] := by
  simp [Event.call?]

@[simp] theorem filterMap_notes_request (es : List LogEntry) :
    (es.map Event.note).filterMap Event.request? = [] := by
  simp [Event.request?]

@[simp] theorem filterMap_notes_sleep (es : List LogEntry) :
    (es.map Event.note).filterMap Event.sleep? = [] := by
  simp [Event.sleep?]

@[simp] theorem calls_add (j : Journal) (es : List Event) :
    (j.add es).calls = j.calls ++ es.filterMap Event.call? := by
  simp [add, calls]

@[simp] theorem requests_add (j : Journal) (es : List Event) :
    (j.add es).requests = j.requests ++ es.filterMap Event.request? := by
  simp [add, requests]

@[simp] theorem sleeps_add (j : Journal) (es : List Event) :
    (j.add es).sleeps = j.sleeps ++ es.filterMap Event.sleep? := by
  simp [add, sleeps]

end Journal

structure Session (τ : Type) where
  registry : Registry := []
  journal : Journal := {}
  link : τ

/-- A computation over a state `σ` that may fail. -/
abbrev Run (σ : Type) := ExceptT Fault (StateM σ)

namespace Run

variable {σ α : Type}

def exec (r : Run σ α) (s : σ) : Except Fault α × σ :=
  StateT.run (ExceptT.run r) s

def outcome (r : Run σ α) : StateM σ (Except Fault α) :=
  ExceptT.run r

def ofExcept : Except Fault α → Run σ α
  | .ok a => pure a
  | .error f => throw f

variable {β : Type}

@[simp] theorem exec_pure (a : α) (s : σ) : (pure a : Run σ α).exec s = (.ok a, s) := rfl

@[simp] theorem exec_throw (f : Fault) (s : σ) : (throw f : Run σ α).exec s = (.error f, s) := rfl

@[simp] theorem exec_get (s : σ) : (get : Run σ σ).exec s = (.ok s, s) := rfl

@[simp] theorem exec_set (t s : σ) : (set t : Run σ PUnit).exec s = (.ok ⟨⟩, t) := rfl

@[simp] theorem exec_modify (g : σ → σ) (s : σ) : (modify g : Run σ PUnit).exec s = (.ok ⟨⟩, g s) :=
  rfl

@[simp] theorem exec_ofExcept (o : Except Fault α) (s : σ) : (ofExcept o).exec s = (o, s) := by
  cases o <;> rfl

@[simp] theorem exec_liftM (m : StateM σ α) (s : σ) :
    (liftM m : Run σ α).exec s = (.ok (m.run s).1, (m.run s).2) := rfl

@[simp] theorem run_outcome (r : Run σ α) (s : σ) : r.outcome.run s = r.exec s := rfl

theorem exec_bind (r : Run σ α) (k : α → Run σ β) (s : σ) :
    (r >>= k).exec s = match r.exec s with
      | (.ok a, t) => (k a).exec t
      | (.error f, t) => (.error f, t) := by
  change StateT.run (StateT.bind r (ExceptT.bindCont k)) s = _
  simp only [StateT.run, StateT.bind, exec, ExceptT.run]
  cases h : r s with
  | mk o t => cases o <;> rfl

theorem exec_bind_of_ok {r : Run σ α} {s t : σ} {a : α} (h : r.exec s = (.ok a, t))
    (k : α → Run σ β) : (r >>= k).exec s = (k a).exec t := by
  rw [exec_bind, h]

theorem ok_of_exec_bind {r : Run σ α} {k : α → Run σ β} {s u : σ} {b : β}
    (h : (r >>= k).exec s = (.ok b, u)) :
    ∃ a t, r.exec s = (.ok a, t) ∧ (k a).exec t = (.ok b, u) := by
  rw [exec_bind] at h
  rcases hRan : r.exec s with ⟨f | a, t⟩
  · rw [hRan] at h
    cases h
  · rw [hRan] at h
    exact ⟨a, t, rfl, h⟩

theorem ok_of_exec_ofExcept_bind {o : Except Fault α} {k : α → Run σ β} {s u : σ} {b : β}
    (h : (ofExcept o >>= k).exec s = (.ok b, u)) :
    ∃ a, o = .ok a ∧ (k a).exec s = (.ok b, u) := by
  cases o with
  | error f => cases h
  | ok a => exact ⟨a, rfl, h⟩

theorem outcome_ofExcept_bind (o : Except Fault α) (k : α → Run σ β) (s : σ) :
    ((ofExcept o >>= k).exec s).1 = o >>= fun a => ((k a).exec s).1 := by
  cases o <;> rfl

theorem outcome_bind_pure (r : Run σ α) (g : α → β) (s : σ) :
    ((r >>= fun a => pure (g a)).exec s).1 = (r.exec s).1.map g := by
  rw [exec_bind]
  rcases r.exec s with ⟨_ | a, t⟩ <;> rfl

theorem exec_map (g : α → β) (r : Run σ α) (s : σ) :
    (g <$> r).exec s = ((r.exec s).1.map g, (r.exec s).2) := by
  rw [map_eq_pure_bind, exec_bind]
  rcases r.exec s with ⟨_ | a, t⟩ <;> rfl

theorem exec_tryCatch (r : Run σ α) (handle : Fault → Run σ α) (s : σ) :
    (tryCatch r handle).exec s = match r.exec s with
      | (.ok a, t) => (.ok a, t)
      | (.error f, t) => (handle f).exec t := by
  change StateT.run (ExceptT.run (ExceptT.tryCatch r handle)) s = _
  simp only [ExceptT.tryCatch, ExceptT.run, ExceptT.mk, StateT.run, bind, StateT.bind, exec]
  cases h : r s with
  | mk o t => cases o <;> rfl

theorem exec_discard (r : Run σ α) (s : σ) :
    (discard r).exec s = ((r.exec s).1.map fun _ => (), (r.exec s).2) :=
  exec_map (fun _ => ()) r s

end Run

namespace Session

variable {τ α : Type}

def record (events : List Journal.Event) : Run (Session τ) Unit :=
  modify fun s => { s with journal := s.journal.add events }

def note (entry : LogEntry) : Run (Session τ) Unit :=
  record [.note entry]

def sleep (seconds : Value) : Run (Session τ) Unit :=
  record [.sleep seconds]

def onLink (r : Run τ α) : Run (Session τ) α := do
  let s ← get
  let (outcome, link) := r.exec s.link
  set { s with link := link }
  Run.ofExcept outcome

@[simp] theorem exec_record (es : List Journal.Event) (s : Session τ) :
    (record es).exec s = (.ok (), { s with journal := s.journal.add es }) := rfl

@[simp] theorem exec_note (e : LogEntry) (s : Session τ) :
    (note e).exec s = (.ok (), { s with journal := s.journal.add [.note e] }) := rfl

@[simp] theorem exec_sleep (v : Value) (s : Session τ) :
    (sleep v).exec s = (.ok (), { s with journal := s.journal.add [.sleep v] }) := rfl

theorem exec_onLink (r : Run τ α) (s : Session τ) :
    (onLink r).exec s = ((r.exec s.link).1, { s with link := (r.exec s.link).2 }) := by
  simp [onLink, Run.exec_bind]

def callback (name : Name) : Run (Session τ) Callback := do
  let s ← get
  let answered := s.registry.get s.journal.calls name
  set { s with registry := answered.registry }
  record (List.replicate answered.asked (.call (.resolver name)))
  Run.ofExcept (answered.outcome name)

theorem exec_callback (name : Name) (s : Session τ) :
    (callback name).exec s =
      ((s.registry.get s.journal.calls name).outcome name,
        { s with
          registry := (s.registry.get s.journal.calls name).registry
          journal := s.journal.add
            (List.replicate (s.registry.get s.journal.calls name).asked
              (.call (.resolver name))) }) := by
  simp [callback, Run.exec_bind]

def callbackOf (v : Value) : Run (Session τ) Callback := do
  callback (← Run.ofExcept (Name.ofValue v))

def callbacks (names : List Name) : Run (Session τ) (List Callback) :=
  names.mapM callback

/-- The tools of the named callbacks, one for each distinct name. -/
def tools (names : List Name) : Run (Session τ) (List Tool) := do
  return (← callbacks (Name.distinct names)).map Callback.tool

def callsOf (c : Callback) (arguments : String) : List Call :=
  match c.handler with
  | none => []
  | some (.stateful _) => [.handler c.name arguments]
  | some (.wrapped ..) => [.wrapped c.name arguments]

def invoke (c : Callback) (arguments : String) : Run (Session τ) String := do
  let before := (← get).journal.calls
  record ((callsOf c arguments).map .call)
  Run.ofExcept (c.invoke before arguments)

theorem exec_invoke (c : Callback) (arguments : String) (s : Session τ) :
    (invoke c arguments).exec s =
      (c.invoke s.journal.calls arguments,
        { s with journal := s.journal.add ((callsOf c arguments).map .call) }) := by
  simp [invoke, Run.exec_bind]

def invokeNow (c : Callback) (arguments : String) : Run (Session τ) String := do
  let before := (← get).journal.calls
  record ((callsOf c arguments).map .call)
  Run.ofExcept (c.invokeNow before arguments)

/-- Runs with one more level on top of the registry, which is taken off again afterwards. -/
def overlaid (overlay : Option Level) (r : Run (Session τ) α) : Run (Session τ) α := do
  match overlay with
  | none => r
  | some level =>
    let s ← get
    let (outcome, s) := r.exec { s with registry := level :: s.registry }
    set { s with registry := s.registry.tail }
    Run.ofExcept outcome

end Session
end Colloquy

import Colloquy.Feed

/-! # Retrying with backoff

An operation that fails for a transient reason is tried again after a pause that grows
exponentially up to a cap. A stream is opened again only as long as it has delivered nothing, so
its reader never sees a fragment twice.
-/
set_option autoImplicit false

namespace Colloquy

/-- The pause after attempt `i` is `base * factor ^ i`, at most `cap`, in seconds. -/
structure Backoff where
  maxAttempts : Value := .int 3
  base : Value := .float 1.0
  factor : Value := .float 2.0
  cap : Value := .float 30.0

namespace Backoff

def check (b : Backoff) : Except Fault Backoff := do
  if ← NumberError.lift (b.maxAttempts.less (.int 1)) then throw .tooFewAttempts
  return b

def attempts (b : Backoff) : Except Fault Nat :=
  match b.maxAttempts with
  | .int n => .ok n.toNat
  | .bool t => .ok (if t then 1 else 0)
  | v => .error (.notWhole v.kind)

/-- The pause after attempt number `attempt`, counted from zero. Off the real line nothing is less
than the cap. -/
def delay (b : Backoff) (attempt : Value) : Except Fault Value :=
  NumberError.lift do
    match b.factor.power attempt with
    | .error .notReal =>
      b.base.timesUnreal
      throw (.unordered b.cap.kind "complex")
    | growth => (← b.base.times (← growth)).least b.cap

def failedNote (attempts : Nat) (fault : Fault) : LogEntry :=
  ⟨.warning, "MiniMax API failed after " ++ toString attempts ++ " attempts: " ++ fault.message⟩

def retryNote (what : String) (attempt attempts : Nat) (fault : Fault) : LogEntry :=
  ⟨.warning, "MiniMax " ++ what ++ " transient error (attempt " ++ toString (attempt + 1) ++ "/" ++
    toString attempts ++ "): " ++ fault.message ++ ", retrying..."⟩

variable {τ α : Type}

/-- Runs `act`, with `left` attempts to go after it and `attempt` behind. -/
def tryAgain (b : Backoff) (attempts : Nat) (act : Run (Session τ) α) :
    (left attempt : Nat) → Run (Session τ) α
  | left, attempt => do
    match ← liftM act.outcome with
    | .ok a => return a
    | .error f =>
      if f.isTransient then
        match left with
        | 0 =>
          Session.note (failedNote attempts f)
          throw f
        | left + 1 =>
          Session.note (retryNote "API" attempt attempts f)
          Session.sleep (← Run.ofExcept (b.delay (.int attempt)))
          tryAgain b attempts act left (attempt + 1)
      else throw f

def execute (b : Backoff) (act : Run (Session τ) α) : Run (Session τ) α := do
  let n ← Run.ofExcept b.attempts
  match n with
  | 0 => throw (.raised .runtime "unreachable")
  | left + 1 => tryAgain b n act left 0

/-- The transient fault of a feed that has delivered nothing. -/
def restart? (f : Feed α) : Option Fault :=
  match f.fault with
  | some fault => if fault.isTransient && f.items.isEmpty then some fault else none
  | none => none

def openAgain (b : Backoff) (attempts : Nat) (source : StateM τ (Feed α)) :
    (left attempt : Nat) → StateM τ (Feed α)
  | left, attempt => do
    let feed ← source
    match restart? feed with
    | none => pure feed
    | some fault =>
      match left with
      | 0 => pure feed
      | left + 1 =>
        let note := Feed.Event.note (retryNote "stream" attempt attempts fault)
        match b.delay (.int attempt) with
        | .error f => pure ⟨feed.events ++ [note], some f⟩
        | .ok d =>
          let rest ← openAgain b attempts source left (attempt + 1)
          pure (Feed.after (feed.events ++ [note, .sleep d]) rest)

def feed (b : Backoff) (source : StateM τ (Feed α)) : StateM τ (Feed α) :=
  match b.attempts with
  | .error f => pure (Feed.failed f)
  | .ok 0 => pure {}
  | .ok (left + 1) => openAgain b (left + 1) source left 0

end Backoff
end Colloquy

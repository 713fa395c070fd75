import Colloquy.Session

/-! # Feeds

A feed is what a stream does when it is read to its end: the items it delivers and, between them,
what it leaves in the journal, with the fault that ends it if one does. A reader that stops early
sees the feed cut behind the last item it took.
-/
set_option autoImplicit false

namespace Colloquy

namespace Feed

inductive Event (α : Type) where
  | item (a : α)
  | note (entry : LogEntry)
  | sleep (seconds : Value)

end Feed

structure Feed (α : Type) where
  events : List (Feed.Event α) := []
  fault : Option Fault := none

namespace Feed

variable {α : Type}

def Event.item? : Event α → Option α
  | .item a => some a
  | _ => none

def items (f : Feed α) : List α :=
  f.events.filterMap Event.item?

def failed (fault : Fault) : Feed α := ⟨[], some fault⟩

def after (events : List (Event α)) (f : Feed α) : Feed α :=
  { f with events := events ++ f.events }

def takeEvents : Nat → List (Event α) → Option (List (Event α))
  | 0, _ => some []
  | _ + 1, [] => none
  | n + 1, .item a :: rest => (takeEvents n rest).map (.item a :: ·)
  | n + 1, e :: rest => (takeEvents (n + 1) rest).map (e :: ·)

def take (n : Nat) (f : Feed α) : Feed α :=
  match takeEvents n f.events with
  | some events => ⟨events, none⟩
  | none => f

def Event.recorded? : Event α → Option Journal.Event
  | .item _ => none
  | .note e => some (.note e)
  | .sleep v => some (.sleep v)

def journal (f : Feed α) : Journal where
  events := f.events.filterMap Event.recorded?

theorem items_after (events : List (Event α)) (f : Feed α) :
    (after events f).items = events.filterMap Event.item? ++ f.items :=
  List.filterMap_append

theorem filterMap_journal {β : Type} {see : Journal.Event → Option β} (f : Feed α)
    (noNote : ∀ e, see (.note e) = none) (noSleep : ∀ v, see (.sleep v) = none) :
    f.journal.events.filterMap see = [] := by
  rw [List.filterMap_eq_nil_iff]
  intro e he
  obtain ⟨own, -, hOwn⟩ := List.mem_filterMap.mp he
  cases own with
  | item a => cases hOwn
  | note entry =>
    obtain rfl := Option.some.inj hOwn
    exact noNote entry
  | sleep v =>
    obtain rfl := Option.some.inj hOwn
    exact noSleep v

end Feed
end Colloquy

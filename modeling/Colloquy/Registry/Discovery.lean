import Colloquy.Session

/-! # Discovered callbacks

Installed packages offer callbacks through entry points. Every entry point is tried in order and
leaves one note; one that fails, or offers something else, changes nothing else. What this comes to
for a registry is `Registry.discover`.
-/
set_option autoImplicit false

namespace Colloquy

inductive Offer where
  | callback (c : Callback)
  | value (v : Value)
  | fault (f : Fault)

inductive Loaded where
  | offer (o : Offer)
  | factory (o : Offer)

structure EntryPoint where
  name : String
  group : String
  loaded : Loaded

namespace EntryPoint

def callbackGroup : String := "minimax_chat.functions"

def offer (e : EntryPoint) : Offer :=
  match e.loaded with
  | .offer o => o
  | .factory o => o

def callback? (e : EntryPoint) : Option Callback :=
  match e.offer with
  | .callback c => some c
  | _ => none

def foundNote (c : Callback) : LogEntry :=
  ⟨.info, "Discovered function callback: " ++ c.name.text⟩

def strangeNote (e : EntryPoint) (v : Value) : LogEntry :=
  ⟨.warning, "Entry point " ++ e.name ++ " did not return a FunctionCallback: <class '" ++
    v.kind ++ "'>"⟩

def failedNote (e : EntryPoint) : LogEntry :=
  ⟨.error, "Failed to load function plugin: " ++ e.name⟩

def note (e : EntryPoint) : LogEntry :=
  match e.offer with
  | .callback c => foundNote c
  | .value v => e.strangeNote v
  | .fault _ => e.failedNote

end EntryPoint

namespace Registry

def discoverOne (r : Registry) (e : EntryPoint) : Registry × LogEntry :=
  match e.callback? with
  | some c => (r.register c, e.note)
  | none => (r, e.note)

def discoverAll : Registry → List EntryPoint → Registry × List LogEntry
  | r, [] => (r, [])
  | r, e :: rest =>
    let (r, note) := r.discoverOne e
    let (r, notes) := discoverAll r rest
    (r, note :: notes)

def discover (r : Registry) (group : String) (entries : List EntryPoint) :
    Registry × List LogEntry :=
  r.discoverAll (entries.filter fun e => e.group = group)

end Registry

namespace Session

variable {τ : Type}

def register (c : Callback) : Run (Session τ) Unit :=
  modify fun s => { s with registry := s.registry.register c }

def accept (e : EntryPoint) : Offer → Run (Session τ) Unit
  | .callback c => do
    register c
    note (EntryPoint.foundNote c)
  | .value v => note (e.strangeNote v)
  | .fault f => throw f

/-- Whatever fails, on loading or in a factory, is caught here and ends nothing else. -/
def discoverOne (e : EntryPoint) : Run (Session τ) Unit :=
  tryCatch (accept e e.offer) fun _ => note e.failedNote

def discover (group : String) (entries : List EntryPoint) : Run (Session τ) Unit :=
  (entries.filter fun e => e.group = group).forM discoverOne

end Session

end Colloquy

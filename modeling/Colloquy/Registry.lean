import Colloquy.Callback

/-! # Registries

A registry is a chain of levels, the nearest first. Each level holds callbacks by name and may have
a resolver that provides callbacks it does not hold. A name is looked up on the levels; only when
none holds it are the resolvers asked, nearest first, and what one provides is kept at its level.
-/
set_option autoImplicit false

namespace Colloquy

abbrev Resolver := Name → Option Callback

/-- A resolver that may remember all calls made before, and may fail. -/
abbrev Provider := List Call → Name → Except Fault (Option Callback)

def Resolver.provider (ask : Resolver) : Provider := fun _ name => .ok (ask name)

structure Held where
  name : Name
  callback : Callback

structure Level where
  callbacks : Keyed Key Held := []
  resolver : Option Provider := none

namespace Level

def get? (l : Level) (key : Key) : Option Callback :=
  (l.callbacks.get? key).map Held.callback

/-- Holds a callback under a name. A name that is one key with another is shown as the other. -/
def store (l : Level) (name : Name) (c : Callback) : Level :=
  let shown := (l.callbacks.get? name.key).elim name Held.name
  { l with callbacks := l.callbacks.insert name.key ⟨shown, c⟩ }

def ofCallbacks (cs : List Callback) (resolver : Option Resolver) : Level :=
  cs.foldl (fun l c => l.store c.name c) { resolver := resolver.map Resolver.provider }

def names (l : Level) : List Name :=
  l.callbacks.map fun entry => entry.2.name

end Level

abbrev Registry := List Level

namespace Registry

def find? (key : Key) : Registry → Option Callback
  | [] => none
  | l :: above => (l.get? key).or (find? key above)

structure Answered where
  callback : Except Fault (Option Callback)
  asked : Nat
  registry : Registry

/-- A callback that nothing provides is a fault too. -/
def Answered.outcome (a : Answered) (name : Name) : Except Fault Callback :=
  a.callback.bind fun c => c.elim (.error (.functionNotFound name.shown)) .ok

/-- Asks the resolvers, nearest first, up to the first that provides a callback or fails. -/
def provide (before : List Call) (name : Name) : Registry → Answered
  | [] => ⟨.ok none, 0, []⟩
  | l :: above =>
    match l.resolver with
    | none =>
      let r := provide before name above
      ⟨r.callback, r.asked, l :: r.registry⟩
    | some ask =>
      match ask before name with
      | .error f => ⟨.error f, 1, l :: above⟩
      | .ok (some c) => ⟨.ok (some c), 1, l.store name c :: above⟩
      | .ok none =>
        let r := provide (before ++ [.resolver name]) name above
        ⟨r.callback, r.asked + 1, l :: r.registry⟩

def get (before : List Call) (name : Name) (r : Registry) : Answered :=
  match r.find? name.key with
  | some c => ⟨.ok (some c), 0, r⟩
  | none => r.provide before name

def register (c : Callback) : Registry → Registry
  | [] => []
  | l :: above => l.store c.name c :: above

/-- Whether a callback is held under a name. Only texts are ever taken to be. -/
def holds (name : Name) (r : Registry) : Bool :=
  name.isText && (r.find? name.key).isSome

/-- Registers unless some level holds the name, and tells whether it did. -/
def registerIfAbsent (c : Callback) (r : Registry) : Bool × Registry :=
  if r.holds c.name then (false, r) else (true, r.register c)

/-- All names held, those of nearer levels first, each once. -/
def names (r : Registry) : List Name :=
  Name.distinct (r.flatMap Level.names)

def contains (v : Value) (r : Registry) : Bool :=
  (Name.ofValue? v).any fun name => r.holds name

end Registry

/-- Many registries that share levels: every level knows its ancestors, nearest first. -/
structure Forest where
  levels : List (Level × List Nat) := []

namespace Forest

def path (f : Forest) (i : Nat) : List Nat :=
  match f.levels[i]? with
  | some (_, ancestors) => i :: ancestors
  | none => []

def grow (f : Forest) (l : Level) (parent : Option Nat) : Nat × Forest :=
  (f.levels.length, ⟨f.levels ++ [(l, parent.elim [] f.path)]⟩)

def level? (f : Forest) (i : Nat) : Option Level :=
  (f.levels[i]?).map Prod.fst

def registry (f : Forest) (i : Nat) : Registry :=
  (f.path i).filterMap f.level?

def setLevel (f : Forest) (j : Nat) (l : Level) : Forest :=
  ⟨f.levels.modify j fun p => (l, p.2)⟩

def write (f : Forest) (i : Nat) (r : Registry) : Forest :=
  ((f.path i).zip r).foldl (fun f p => f.setLevel p.1 p.2) f

inductive Operation where
  | create (callbacks : List Callback) (resolver : Option Resolver) (parent : Option Nat)
  | register (i : Nat) (c : Callback)
  | registerIfAbsent (i : Nat) (c : Callback)
  | get (i : Nat) (name : Name)

/-- A level without a resolver on top of the registry at `i`. -/
def Operation.scoped (i : Nat) (callbacks : List Callback) : Operation :=
  .create callbacks none (some i)

def answer (f : Forest) (i : Nat) (name : Name) : Registry.Answered :=
  (f.registry i).get [] name

def step (f : Forest) : Operation → Forest
  | .create callbacks resolver parent => (f.grow (Level.ofCallbacks callbacks resolver) parent).2
  | .register i c => f.write i ((f.registry i).register c)
  | .registerIfAbsent i c => f.write i ((f.registry i).registerIfAbsent c).2
  | .get i name => f.write i (f.answer i name).registry

def run (f : Forest) (history : List Operation) : Forest :=
  history.foldl step f

end Forest
end Colloquy

import Colloquy.Proofs.Outcome
import Colloquy.Session

/-! # Look-ups

A look-up changes at most what one level holds under the name it is for, and it changes no resolver.
Where resolvers answer by the name alone, what a name stands for is therefore fixed by the registry,
and looking other names up before makes no difference.
-/
set_option autoImplicit false

namespace Colloquy

namespace Level

theorem get?_store (l : Level) (name : Name) (c : Callback) (key : Key) :
    (l.store name c).get? key = if name.key = key then some c else l.get? key := by
  simp only [get?, store, Keyed.get?_insert]
  split <;> rfl

@[simp] theorem resolver_store (l : Level) (name : Name) (c : Callback) :
    (l.store name c).resolver = l.resolver := rfl

theorem get?_foldl_store (cs : List Callback) (l : Level) (key : Key) :
    (cs.foldl (fun l c => l.store c.name c) l).get? key =
      (cs.reverse.find? fun c => c.name.key = key).or (l.get? key) := by
  induction cs generalizing l with
  | nil => rfl
  | cons c rest ih =>
    rw [List.foldl_cons, ih, get?_store, List.reverse_cons, List.find?_append, Option.or_assoc]
    by_cases h : c.name.key = key <;> simp [h]

theorem get?_ofCallbacks (cs : List Callback) (resolver : Option Resolver) (key : Key) :
    (ofCallbacks cs resolver).get? key = cs.reverse.find? fun c => c.name.key = key := by
  rw [ofCallbacks, get?_foldl_store]
  exact Option.or_none

theorem resolver_foldl_store (cs : List Callback) (l : Level) :
    (cs.foldl (fun l c => l.store c.name c) l).resolver = l.resolver := by
  induction cs generalizing l with
  | nil => rfl
  | cons c rest ih => exact ih (l.store c.name c)

@[simp] theorem resolver_ofCallbacks (cs : List Callback) (resolver : Option Resolver) :
    (ofCallbacks cs resolver).resolver = resolver.map Resolver.provider :=
  resolver_foldl_store cs _

end Level

namespace Registry

/-- Every resolver answers by the name alone. -/
def Steady (r : Registry) : Prop :=
  ∀ ask, some ask ∈ r.map Level.resolver → ∀ before other name, ask before name = ask other name

def lookup (r : Registry) (name : Name) : Except Fault Callback :=
  (r.get [] name).outcome name

@[simp] theorem resolvers_provide (before : List Call) (name : Name) (r : Registry) :
    (r.provide before name).registry.map Level.resolver = r.map Level.resolver := by
  induction r generalizing before with
  | nil => rfl
  | cons l above ih =>
    cases hAsk : l.resolver with
    | none => simp [provide, hAsk, ih]
    | some ask =>
      rcases hGiven : ask before name with f | _ | c
      · simp [provide, hAsk, hGiven]
      · simp [provide, hAsk, hGiven, ih]
      · simp [provide, hAsk, hGiven]

@[simp] theorem resolvers_get (before : List Call) (name : Name) (r : Registry) :
    (r.get before name).registry.map Level.resolver = r.map Level.resolver := by
  unfold get
  split
  · rfl
  · exact resolvers_provide before name r

theorem Steady.get {r : Registry} (steady : r.Steady) (before : List Call) (name : Name) :
    (r.get before name).registry.Steady := by
  unfold Steady
  rw [resolvers_get]
  exact steady

theorem find?_provide_of_ne {name : Name} {key : Key} (h : name.key ≠ key) (before : List Call)
    (r : Registry) : (r.provide before name).registry.find? key = r.find? key := by
  induction r generalizing before with
  | nil => rfl
  | cons l above ih =>
    cases hAsk : l.resolver with
    | none => simp [provide, hAsk, find?, ih]
    | some ask =>
      rcases hGiven : ask before name with f | _ | c
      · simp [provide, hAsk, hGiven]
      · simp [provide, hAsk, hGiven, find?, ih]
      · simp [provide, hAsk, hGiven, find?, Level.get?_store, h]

theorem find?_get_of_ne {name : Name} {key : Key} (h : name.key ≠ key) (before : List Call)
    (r : Registry) : (r.get before name).registry.find? key = r.find? key := by
  unfold get
  split
  · rfl
  · exact find?_provide_of_ne h before r

theorem Steady.provide_congr {r t : Registry} (steady : r.Steady)
    (same : r.map Level.resolver = t.map Level.resolver) (before other : List Call) (name : Name) :
    (r.provide before name).callback = (t.provide other name).callback := by
  induction r generalizing t before other with
  | nil =>
    obtain rfl : t = [] := by simpa using same.symm
    rfl
  | cons l above ih =>
    obtain ⟨m, under, rfl⟩ : ∃ m under, t = m :: under := by
      cases t with
      | nil => simp at same
      | cons m under => exact ⟨m, under, rfl⟩
    simp only [List.map_cons, List.cons.injEq] at same
    have steadyAbove : Steady above := fun ask hAsk => steady ask (List.mem_cons_of_mem _ hAsk)
    cases hAsk : l.resolver with
    | none => simp [provide, hAsk, ← same.1, ih steadyAbove same.2 before other]
    | some ask =>
      have hSame : ask before name = ask other name := steady ask (by simp [hAsk]) before other name
      rcases hGiven : ask before name with f | _ | c
      · simp [provide, hAsk, ← same.1, ← hSame, hGiven]
      · simp [provide, hAsk, ← same.1, ← hSame, hGiven,
          ih steadyAbove same.2 (before ++ [.resolver name]) (other ++ [.resolver name])]
      · simp [provide, hAsk, ← same.1, ← hSame, hGiven]

/-- A look-up depends on what is held under the name and on the resolvers. -/
theorem Steady.get_congr {r t : Registry} (steady : r.Steady)
    (same : r.map Level.resolver = t.map Level.resolver) {name : Name}
    (held : r.find? name.key = t.find? name.key) (before other : List Call) :
    (r.get before name).outcome name = (t.get other name).outcome name := by
  unfold Registry.get
  rw [← held]
  cases r.find? name.key with
  | some c => rfl
  | none => simp only [Answered.outcome, steady.provide_congr same before other]

theorem Steady.outcome_get {r : Registry} (steady : r.Steady) (before : List Call) (name : Name) :
    (r.get before name).outcome name = r.lookup name :=
  steady.get_congr rfl rfl before []

theorem Steady.lookup_get_of_ne {r : Registry} (steady : r.Steady) {name other : Name}
    (h : name.key ≠ other.key) (before : List Call) :
    (r.get before name).registry.lookup other = r.lookup other :=
  (steady.get before name).get_congr (resolvers_get before name r) (find?_get_of_ne h before r) [] []

theorem find?_append (key : Key) (r t : Registry) :
    find? key (r ++ t) = (r.find? key).or (t.find? key) := by
  induction r with
  | nil => rfl
  | cons l above ih => rw [List.cons_append, find?, find?, ih, Option.or_assoc]

theorem lookup_of_find? {r : Registry} {name : Name} {c : Callback} (h : r.find? name.key = some c) :
    r.lookup name = .ok c := by
  simp [lookup, get, h, Answered.outcome, Except.bind]

def Silent (r : Registry) : Prop := ∀ l ∈ r, l.resolver = none

theorem Silent.mem_resolvers {own r : Registry} (silent : own.Silent) {ask : Provider}
    (h : some ask ∈ (own ++ r).map Level.resolver) : some ask ∈ r.map Level.resolver := by
  rw [List.map_append, List.mem_append] at h
  obtain hOwn | h := h
  · obtain ⟨l, hl, hResolver⟩ := List.mem_map.mp hOwn
    rw [silent l hl] at hResolver
    cases hResolver
  · exact h

theorem Steady.append {own r : Registry} (silent : own.Silent) (steady : r.Steady) :
    Steady (own ++ r) := by
  intro ask hAsk
  exact steady ask (silent.mem_resolvers hAsk)

theorem provide_append {own : Registry} (silent : own.Silent) (before : List Call) (name : Name)
    (r : Registry) : provide before name (own ++ r) =
      { r.provide before name with registry := own ++ (r.provide before name).registry } := by
  induction own with
  | nil => rfl
  | cons l above ih =>
    obtain ⟨hFirst, hRest⟩ := List.forall_mem_cons.mp silent
    simp [provide, hFirst, ih hRest]

theorem lookup_append {own : Registry} (silent : own.Silent) (r : Registry) (name : Name) :
    Registry.lookup (own ++ r) name = match own.find? name.key with
      | some c => .ok c
      | none => r.lookup name := by
  cases hOwn : own.find? name.key with
  | some c =>
    refine lookup_of_find? ?_
    rw [find?_append, hOwn, Option.some_or]
  | none =>
    unfold lookup get
    rw [find?_append, hOwn, Option.none_or, provide_append silent]
    cases r.find? name.key <;> rfl

theorem silent_ofCallbacks (cs : List Callback) : Silent [Level.ofCallbacks cs none] := by
  simp [Silent]

/-- Callbacks on top of a registry shadow its own, the last of them first. -/
theorem lookup_overlay (cs : List Callback) (r : Registry) (name : Name) :
    Registry.lookup (Level.ofCallbacks cs none :: r) name =
      match cs.reverse.find? fun c => c.name.key = name.key with
      | some c => .ok c
      | none => r.lookup name := by
  have held : find? name.key [Level.ofCallbacks cs none] =
      cs.reverse.find? fun c => c.name.key = name.key := by
    rw [find?, Level.get?_ofCallbacks]
    exact Option.or_none
  rw [← held]
  exact lookup_append (silent_ofCallbacks cs) r name

theorem Steady.overlay {r : Registry} (steady : r.Steady) (cs : List Callback) :
    Registry.Steady (Level.ofCallbacks cs none :: r) :=
  steady.append (silent_ofCallbacks cs)

end Registry

namespace Session

variable {τ α : Type}

def under (overlay : Option Level) (s : Session τ) : Session τ :=
  { s with registry := overlay.toList ++ s.registry }

def uncovered (overlay : Option Level) (s : Session τ) : Session τ :=
  { s with registry := s.registry.drop overlay.toList.length }

theorem exec_overlaid (overlay : Option Level) (run : Run (Session τ) α) (s : Session τ) :
    (overlaid overlay run).exec s =
      ((run.exec (under overlay s)).1, uncovered overlay (run.exec (under overlay s)).2) := by
  cases overlay with
  | none => rfl
  | some level => simp [overlaid, Run.exec_bind, under, uncovered]

def lookedUp (name : Name) (s : Session τ) : Session τ :=
  { s with
    registry := (s.registry.get s.journal.calls name).registry
    journal := s.journal.add (List.replicate (s.registry.get s.journal.calls name).asked
      (.call (.resolver name))) }

theorem callbacks_cons (name : Name) (names : List Name) :
    (callbacks (name :: names) : Run (Session τ) (List Callback)) =
      callback name >>= fun c => callbacks names >>= fun cs => pure (c :: cs) := by
  simp [callbacks]

theorem exec_callbacks_cons (name : Name) (names : List Name) (s : Session τ) :
    (callbacks (name :: names)).exec s =
      match (s.registry.get s.journal.calls name).outcome name with
      | .error f => (.error f, lookedUp name s)
      | .ok c => (((callbacks names).exec (lookedUp name s)).1.map (c :: ·),
          ((callbacks names).exec (lookedUp name s)).2) := by
  have first : (callback name).exec s =
      ((s.registry.get s.journal.calls name).outcome name, lookedUp name s) := exec_callback name s
  rw [callbacks_cons, Run.exec_bind, first]
  cases (s.registry.get s.journal.calls name).outcome name with
  | error f => rfl
  | ok c =>
    simp only [Run.exec_bind]
    rcases (callbacks names).exec (lookedUp name s) with ⟨_ | cs, u⟩ <;> rfl

/-- Names that are no two the same are each looked up as if they were alone. -/
theorem exec_callbacks {names : List Name} (apart : names.Pairwise fun m n => m.key ≠ n.key)
    {s : Session τ} (steady : s.registry.Steady) :
    ((callbacks names).exec s).1 = names.mapM s.registry.lookup := by
  induction names generalizing s with
  | nil => rfl
  | cons name names ih =>
    obtain ⟨hName, hNames⟩ := List.pairwise_cons.mp apart
    have later : ((callbacks names).exec (lookedUp name s)).1 = names.mapM s.registry.lookup := by
      rw [ih hNames (s := lookedUp name s) (steady.get s.journal.calls name)]
      refine mapM_congr_of_mem ?_
      intro other hOther
      exact steady.lookup_get_of_ne (hName other hOther) s.journal.calls
    rw [exec_callbacks_cons, steady.outcome_get, List.mapM_cons]
    cases s.registry.lookup name with
    | error f => rfl
    | ok c =>
      simp only [later]
      cases names.mapM s.registry.lookup <;> rfl

theorem exec_callbacks_of_held {names : List Name} {s : Session τ} {found : Name → Callback}
    (held : ∀ n ∈ names, s.registry.find? n.key = some (found n)) :
    (callbacks names).exec s = (.ok (names.map found), s) := by
  induction names with
  | nil => rfl
  | cons n rest ih =>
    obtain ⟨hFirst, hRest⟩ := List.forall_mem_cons.mp held
    have answered : s.registry.get s.journal.calls n = ⟨.ok (some (found n)), 0, s.registry⟩ := by
      rw [Registry.get, hFirst]
    have same : lookedUp n s = s := by
      simp [lookedUp, answered]
    rw [exec_callbacks_cons, answered, same, ih hRest]
    rfl

theorem exec_tools (names : List Name) (s : Session τ) :
    (tools names).exec s =
      (((callbacks (Name.distinct names)).exec s).1.map (List.map Callback.tool),
        ((callbacks (Name.distinct names)).exec s).2) := by
  rw [tools, Run.exec_bind]
  rcases (callbacks (Name.distinct names)).exec s with ⟨_ | cs, t⟩ <;> rfl

/-- Whatever its outcome, `run` leaves nothing behind but questions to resolvers and what they
provide. -/
def OnlyAsks (run : Run (Session τ) α) : Prop :=
  ∀ s, ∃ (left : Registry) (asked : List Call),
    (run.exec s).2 = { s with registry := left, journal := s.journal.add (asked.map .call) }

end Session

end Colloquy

import Colloquy.Proofs.Registry.Lookup
import Mathlib.Logic.Relation

/-! # Where look-ups lead

A look-up asks resolvers, nearest first, up to the first that does not refuse, and keeps what that one
provides at its own level. So what was found once is found again, whatever else is looked up, and
levels without a resolver stay as they are.
-/
set_option autoImplicit false

namespace Colloquy

namespace Level

def asks (l : Level) : Bool := l.resolver.isSome

def Refuses (l : Level) (name : Name) : Prop :=
  ∀ ask, l.resolver = some ask → ∃ before, ask before name = .ok none

end Level

namespace Registry

theorem find?_eq_none_iff (key : Key) (r : Registry) :
    r.find? key = none ↔ ∀ l ∈ r, l.get? key = none := by
  induction r with
  | nil => simp [find?]
  | cons l above ih => simp [find?, ih]

inductive Asked (name : Name) (r : Registry) : Answered → Prop where
  | provided {nearer above : Registry} {l : Level} {ask : Provider} {before : List Call} {c : Callback}
      (parts : r = nearer ++ l :: above) (refused : ∀ m ∈ nearer, m.Refuses name)
      (hAsk : l.resolver = some ask) (given : ask before name = .ok (some c)) :
      Asked name r ⟨.ok (some c), nearer.countP Level.asks + 1, nearer ++ l.store name c :: above⟩
  | failed {nearer above : Registry} {l : Level} {ask : Provider} {before : List Call} {f : Fault}
      (parts : r = nearer ++ l :: above) (refused : ∀ m ∈ nearer, m.Refuses name)
      (hAsk : l.resolver = some ask) (given : ask before name = .error f) :
      Asked name r ⟨.error f, nearer.countP Level.asks + 1, r⟩
  | missing (refused : ∀ m ∈ r, m.Refuses name) : Asked name r ⟨.ok none, r.countP Level.asks, r⟩

/-- One more level below, whose resolver refuses if there is one, adds at most a question. -/
theorem Asked.below {name : Name} {r : Registry} {a : Answered} (h : Asked name r a) {l : Level}
    (refuses : l.Refuses name) :
    Asked name (l :: r) ⟨a.callback, a.asked + (if l.asks then 1 else 0), l :: a.registry⟩ := by
  cases h with
  | @provided nearer above m ask before c parts refused hAsk given =>
    have shifted : Asked name (l :: r) ⟨.ok (some c), (l :: nearer).countP Level.asks + 1,
        (l :: nearer) ++ m.store name c :: above⟩ :=
      .provided (congrArg (l :: ·) parts) (List.forall_mem_cons.mpr ⟨refuses, refused⟩) hAsk given
    rwa [List.countP_cons, Nat.add_right_comm] at shifted
  | @failed nearer above m ask before f parts refused hAsk given =>
    have shifted : Asked name (l :: r) ⟨.error f, (l :: nearer).countP Level.asks + 1, l :: r⟩ :=
      .failed (congrArg (l :: ·) parts) (List.forall_mem_cons.mpr ⟨refuses, refused⟩) hAsk given
    rwa [List.countP_cons, Nat.add_right_comm] at shifted
  | missing refused =>
    have shifted : Asked name (l :: r) ⟨.ok none, (l :: r).countP Level.asks, l :: r⟩ :=
      .missing (List.forall_mem_cons.mpr ⟨refuses, refused⟩)
    rwa [List.countP_cons] at shifted

theorem asked_provide (before : List Call) (name : Name) (r : Registry) :
    Asked name r (r.provide before name) := by
  induction r generalizing before with
  | nil => exact .missing (by simp)
  | cons l above ih =>
    cases hAsk : l.resolver with
    | none =>
      have refuses : l.Refuses name := by simp [Level.Refuses, hAsk]
      simpa [provide, hAsk, Level.asks] using (ih before).below refuses
    | some ask =>
      rcases hGiven : ask before name with f | _ | c
      · have failed : Asked name (l :: above)
            ⟨.error f, ([] : Registry).countP Level.asks + 1, l :: above⟩ :=
          .failed rfl (by simp) hAsk hGiven
        simpa [provide, hAsk, hGiven] using failed
      · have refuses : l.Refuses name := by
          simpa [Level.Refuses, hAsk] using ⟨before, hGiven⟩
        simpa [provide, hAsk, hGiven, Level.asks] using
          (ih (before ++ [.resolver name])).below refuses
      · have provided : Asked name (l :: above)
            ⟨.ok (some c), ([] : Registry).countP Level.asks + 1, [] ++ l.store name c :: above⟩ :=
          .provided rfl (by simp) hAsk hGiven
        simpa [provide, hAsk, hGiven] using provided

theorem get_cases (before : List Call) (name : Name) (r : Registry) :
    (∃ c, r.find? name.key = some c ∧ r.get before name = ⟨.ok (some c), 0, r⟩) ∨
      r.find? name.key = none ∧ Asked name r (r.get before name) := by
  unfold get
  cases hFind : r.find? name.key with
  | some c => exact .inl ⟨c, rfl, rfl⟩
  | none => exact .inr ⟨rfl, asked_provide before name r⟩

theorem get_of_find? {name : Name} {r : Registry} {c : Callback} (found : r.find? name.key = some c)
    (before : List Call) : r.get before name = ⟨.ok (some c), 0, r⟩ := by
  rw [get, found]

theorem find?_store {nearer above : Registry} {l : Level} {name : Name} (c : Callback)
    (free : nearer.find? name.key = none) :
    Registry.find? name.key (nearer ++ l.store name c :: above) = some c := by
  rw [find?_append, free, Option.none_or, find?, Level.get?_store, if_pos rfl, Option.some_or]

theorem find?_get_of_outcome {before : List Call} {name : Name} {r : Registry} {c : Callback}
    (h : (r.get before name).outcome name = .ok c) :
    (r.get before name).registry.find? name.key = some c := by
  obtain ⟨d, found, held⟩ | ⟨free, asked⟩ := get_cases before name r
  · rw [held] at h ⊢
    obtain rfl : d = c := Except.ok.inj h
    exact found
  · generalize r.get before name = answered at asked h
    cases asked with
    | @provided nearer above l ask before d parts refused hAsk given =>
      obtain rfl : d = c := Except.ok.inj h
      rw [parts, find?_append, Option.or_eq_none_iff] at free
      exact find?_store d free.1
    | failed => cases h
    | missing => cases h

theorem find?_get {key : Key} {r : Registry} {c : Callback} (found : r.find? key = some c)
    (before : List Call) (name : Name) : (r.get before name).registry.find? key = some c := by
  by_cases hKey : name.key = key
  · subst hKey
    rw [get_of_find? found before]
    exact found
  · rw [find?_get_of_ne hKey]
    exact found

theorem registry_get_append {own : Registry} (silent : own.Silent) (before : List Call) (name : Name)
    (r : Registry) : (get before name (own ++ r)).registry = own ++ r ∨
      (get before name (own ++ r)).registry = own ++ (r.get before name).registry := by
  unfold get
  rw [find?_append]
  cases own.find? name.key with
  | some c => exact .inl rfl
  | none =>
    refine .inr ?_
    rw [Option.none_or]
    cases r.find? name.key with
    | some c => rfl
    | none => simp only [provide_append silent]

inductive LooksUp : Registry → Registry → Prop where
  | get (r : Registry) (before : List Call) (name : Name) : LooksUp r (r.get before name).registry

/-- Look-ups in the one, however many, leave the other. -/
abbrev Leads : Registry → Registry → Prop := Relation.ReflTransGen LooksUp

theorem leads_get (r : Registry) (before : List Call) (name : Name) :
    r.Leads (r.get before name).registry :=
  .single (.get r before name)

theorem leads_get_append {own : Registry} (silent : own.Silent) (before : List Call) (name : Name)
    (r : Registry) : ∃ t, (get before name (own ++ r)).registry = own ++ t ∧ r.Leads t := by
  obtain kept | below := registry_get_append silent before name r
  · exact ⟨r, kept, .refl⟩
  · exact ⟨_, below, r.leads_get before name⟩

theorem Leads.find? {r t : Registry} (h : r.Leads t) {key : Key} {c : Callback}
    (found : r.find? key = some c) : t.find? key = some c := by
  induction h with
  | refl => exact found
  | tail led last ih =>
    obtain ⟨before, name⟩ := last
    exact find?_get ih before name

theorem Leads.resolvers {r t : Registry} (h : r.Leads t) :
    t.map Level.resolver = r.map Level.resolver := by
  induction h with
  | refl => rfl
  | tail led last ih =>
    obtain ⟨before, name⟩ := last
    rw [resolvers_get, ih]

theorem Leads.append {own r t : Registry} (silent : own.Silent) (h : Leads (own ++ r) t) :
    ∃ u, t = own ++ u ∧ r.Leads u := by
  induction h with
  | refl => exact ⟨r, rfl, .refl⟩
  | tail led last ih =>
    obtain ⟨u, rfl, toU⟩ := ih
    obtain ⟨before, name⟩ := last
    obtain ⟨v, hLeft, toV⟩ := leads_get_append silent before name u
    exact ⟨v, hLeft, toU.trans toV⟩

end Registry

namespace Session

variable {τ α β : Type} {run : Run (Session τ) α} {k : α → Run (Session τ) β}
  {overlay : Option Level}

/-- Whatever its outcome, `run` does nothing to the registry but look names up. -/
def Leads (run : Run (Session τ) α) : Prop :=
  ∀ s : Session τ, s.registry.Leads (run.exec s).2.registry

theorem leads_of_registry (same : ∀ s, (run.exec s).2.registry = s.registry) : Leads run := by
  intro s
  rw [same s]

theorem Leads.bind (first : Leads run) (later : ∀ s a u, run.exec s = (.ok a, u) → Leads (k a)) :
    Leads (run >>= k) := by
  intro s
  have toFirst := first s
  rw [Run.exec_bind]
  rcases hRan : run.exec s with ⟨_ | a, u⟩
  · rwa [hRan] at toFirst
  · rw [hRan] at toFirst
    exact toFirst.trans (later s a u hRan u)

theorem Leads.overlaid (silent : Registry.Silent overlay.toList) (h : Leads run) :
    Leads (Session.overlaid overlay run) := by
  intro s
  obtain ⟨t, hLeft, led⟩ := (h (under overlay s)).append silent
  rw [exec_overlaid, uncovered, hLeft, List.drop_left]
  exact led

/-- `run` does nothing but to ask resolvers, and to keep what they provide. -/
structure Settles (run : Run (Session τ) α) : Prop where
  asks : ∀ s, ∃ (left : Registry) (asked : List Name), (run.exec s).2 = { s with
    registry := left
    journal := s.journal.add ((asked.map Call.resolver).map .call) }
  leads : Leads run

theorem settles_ofExcept (o : Except Fault α) : Settles (Run.ofExcept o : Run (Session τ) α) := by
  refine ⟨?_, leads_of_registry fun s => by rw [Run.exec_ofExcept]⟩
  intro s
  exact ⟨s.registry, [], by simp⟩

theorem settles_pure (a : α) : Settles (pure a : Run (Session τ) α) :=
  settles_ofExcept (.ok a)

theorem Settles.bind (first : Settles run) (later : ∀ a, Settles (k a)) : Settles (run >>= k) := by
  refine ⟨?_, first.leads.bind fun _ a _ _ => (later a).leads⟩
  intro s
  obtain ⟨left, asked, hFirst⟩ := first.asks s
  rw [Run.exec_bind]
  rcases hRan : run.exec s with ⟨_ | a, t⟩
  · rw [hRan] at hFirst
    exact ⟨left, asked, hFirst⟩
  · rw [hRan] at hFirst
    obtain rfl : t = _ := hFirst
    obtain ⟨last, more, hLater⟩ := (later a).asks _
    exact ⟨last, asked ++ more, hLater.trans (by simp)⟩

theorem Settles.overlaid (silent : Registry.Silent overlay.toList) (h : Settles run) :
    Settles (Session.overlaid overlay run) := by
  refine ⟨?_, h.leads.overlaid silent⟩
  intro s
  obtain ⟨left, asked, hLeft⟩ := h.asks (under overlay s)
  refine ⟨left.drop overlay.toList.length, asked, ?_⟩
  rw [exec_overlaid, hLeft]
  rfl

theorem settles_callback (name : Name) : Settles (callback name : Run (Session τ) Callback) := by
  constructor
  · intro s
    refine ⟨(s.registry.get s.journal.calls name).registry,
      List.replicate (s.registry.get s.journal.calls name).asked name, ?_⟩
    rw [exec_callback, List.map_replicate, List.map_replicate]
  · intro s
    rw [exec_callback]
    exact s.registry.leads_get s.journal.calls name

theorem settles_callbacks (names : List Name) :
    Settles (callbacks names : Run (Session τ) (List Callback)) := by
  induction names with
  | nil => exact settles_pure []
  | cons name names ih =>
    rw [callbacks_cons]
    exact (settles_callback name).bind fun c => ih.bind fun cs => settles_pure (c :: cs)

theorem settles_tools (names : List Name) : Settles (tools names : Run (Session τ) (List Tool)) :=
  (settles_callbacks _).bind fun cs => settles_pure (cs.map Callback.tool)

theorem Settles.onlyAsks (h : Settles run) : OnlyAsks run := by
  intro s
  obtain ⟨left, asked, hLeft⟩ := h.asks s
  exact ⟨left, asked.map Call.resolver, hLeft⟩

theorem find?_of_callbacks {names : List Name} {s u : Session τ} {cs : List Callback}
    (ran : (callbacks names).exec s = (.ok cs, u)) :
    List.Forall₂ (fun name c => u.registry.find? name.key = some c) names cs := by
  induction names generalizing s cs with
  | nil =>
    obtain rfl : [] = cs := Except.ok.inj (Prod.mk.inj ran).1
    exact .nil
  | cons name names ih =>
    rw [callbacks_cons] at ran
    obtain ⟨c, t, hFirst, ran⟩ := Run.ok_of_exec_bind ran
    obtain ⟨rest, v, hRest, ran⟩ := Run.ok_of_exec_bind ran
    obtain ⟨hOutcome, rfl⟩ := Prod.mk.inj ran
    obtain rfl : c :: rest = cs := Except.ok.inj hOutcome
    rw [exec_callback] at hFirst
    obtain ⟨found, hAfter⟩ := Prod.mk.inj hFirst
    have held : t.registry.find? name.key = some c := by
      rw [← hAfter]
      exact Registry.find?_get_of_outcome found
    have led := (settles_callbacks names).leads t
    rw [hRest] at led
    exact .cons (led.find? held) (ih hRest)

end Session
end Colloquy

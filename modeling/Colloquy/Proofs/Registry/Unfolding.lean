import Colloquy.Proofs.Registry.Leading

/-! # What look-ups leave behind

Where names that are one key get one answer, a registry only unfolds by look-ups: every name stands for
what it stood for before, and nothing is held but what was held or provided.
-/
set_option autoImplicit false

namespace Colloquy

namespace Level

def Provides (l : Level) (key : Key) (c : Callback) : Prop :=
  ∃ ask before name, l.resolver = some ask ∧ Name.key name = key ∧ ask before name = .ok (some c)

/-- `m` is `l` with callbacks that the resolver of `l` provided. -/
structure Kept (l m : Level) : Prop where
  resolver_eq : m.resolver = l.resolver
  held : ∀ key c, l.get? key = some c → m.get? key = some c
  provided : ∀ key c, m.get? key = some c → l.get? key = some c ∨ l.Provides key c

theorem Kept.refl (l : Level) : l.Kept l :=
  ⟨rfl, fun _ _ h => h, fun _ _ h => .inl h⟩

theorem Kept.trans {l m n : Level} (first : l.Kept m) (second : m.Kept n) : l.Kept n := by
  refine ⟨second.resolver_eq.trans first.resolver_eq, ?_, ?_⟩
  · intro key c h
    exact second.held key c (first.held key c h)
  · intro key c h
    obtain hm | ⟨ask, before, name, hAsk, hKey, given⟩ := second.provided key c h
    · exact first.provided key c hm
    · rw [first.resolver_eq] at hAsk
      exact .inr ⟨ask, before, name, hAsk, hKey, given⟩

theorem kept_store {l : Level} {ask : Provider} {before : List Call} {name : Name} {c : Callback}
    (hAsk : l.resolver = some ask) (given : ask before name = .ok (some c))
    (free : l.get? name.key = none) : l.Kept (l.store name c) := by
  refine ⟨rfl, ?_, ?_⟩
  · intro key d h
    have apart : name.key ≠ key := by
      rintro rfl
      simp [free] at h
    rw [get?_store, if_neg apart]
    exact h
  · intro key d h
    rw [get?_store] at h
    split at h
    · next hKey =>
      obtain rfl := Option.some.inj h
      exact .inr ⟨ask, before, name, hAsk, hKey, given⟩
    · exact .inl h

end Level

namespace Registry

/-- Names that are one key get one answer from every resolver, whatever was called before. -/
def ByName (r : Registry) : Prop :=
  ∀ ask, some ask ∈ r.map Level.resolver → ∀ before other (name same : Name), name.key = same.key →
    ask before name = ask other same

theorem ByName.steady {r : Registry} (byName : r.ByName) : r.Steady :=
  fun ask hAsk before other name => byName ask hAsk before other name name rfl

theorem ByName.congr {r t : Registry} (byName : r.ByName)
    (same : t.map Level.resolver = r.map Level.resolver) : t.ByName := by
  intro ask hAsk
  rw [same] at hAsk
  exact byName ask hAsk

theorem ByName.append {own r : Registry} (silent : own.Silent) (byName : r.ByName) :
    Registry.ByName (own ++ r) := by
  intro ask hAsk
  exact byName ask (silent.mem_resolvers hAsk)

theorem ByName.provide_callback {r : Registry} (byName : r.ByName) {name same : Name}
    (hKey : name.key = same.key) (before other : List Call) :
    (r.provide before name).callback = (r.provide other same).callback := by
  induction r generalizing before other with
  | nil => rfl
  | cons l above ih =>
    have byNameAbove : ByName above := fun ask hAsk => byName ask (List.mem_cons_of_mem _ hAsk)
    cases hAsk : l.resolver with
    | none => simp [provide, hAsk, ih byNameAbove before other]
    | some ask =>
      have hSame : ask before name = ask other same :=
        byName ask (by simp [hAsk]) before other name same hKey
      rcases hGiven : ask before name with f | _ | c
      · simp [provide, hAsk, ← hSame, hGiven]
      · simp [provide, hAsk, ← hSame, hGiven,
          ih byNameAbove (before ++ [.resolver name]) (other ++ [.resolver same])]
      · simp [provide, hAsk, ← hSame, hGiven]

/-- `t` is `r` with more of what its resolvers provide: every name stands for the same. -/
structure Unfolds (r t : Registry) : Prop where
  lookup : ∀ name, t.lookup name = r.lookup name
  levels : List.Forall₂ Level.Kept r t

theorem Unfolds.refl (r : Registry) : r.Unfolds r :=
  ⟨fun _ => rfl, List.forall₂_same.mpr fun l _ => Level.Kept.refl l⟩

theorem forall₂_kept_trans {r t u : Registry} (first : List.Forall₂ Level.Kept r t)
    (second : List.Forall₂ Level.Kept t u) : List.Forall₂ Level.Kept r u := by
  induction first generalizing u with
  | nil => exact second
  | cons head tail ih =>
    obtain ⟨n, v, hHead, hTail, rfl⟩ := List.forall₂_cons_left_iff.mp second
    exact .cons (head.trans hHead) (ih hTail)

theorem Unfolds.trans {r t u : Registry} (first : r.Unfolds t) (second : t.Unfolds u) : r.Unfolds u :=
  ⟨fun name => (second.lookup name).trans (first.lookup name),
    forall₂_kept_trans first.levels second.levels⟩

theorem Unfolds.resolvers {r t : Registry} (h : r.Unfolds t) :
    t.map Level.resolver = r.map Level.resolver := by
  obtain ⟨-, levels⟩ := h
  induction levels with
  | nil => rfl
  | cons head tail ih => rw [List.map_cons, List.map_cons, head.resolver_eq, ih]

/-- Once a callback is provided, it is what every name of that key stands for, as it was before. -/
theorem ByName.lookup_provided {nearer above : Registry} {l : Level} {name : Name} {c : Callback}
    (byName : ByName (nearer ++ l :: above)) (before : List Call)
    (free : (nearer ++ l :: above).find? name.key = none)
    (given : (provide before name (nearer ++ l :: above)).callback = .ok (some c)) {same : Name}
    (hKey : name.key = same.key) :
    Registry.lookup (nearer ++ l.store name c :: above) same =
      Registry.lookup (nearer ++ l :: above) same := by
  have nearest : nearer.find? name.key = none := by
    rw [find?_append, Option.or_eq_none_iff] at free
    exact free.1
  have now : Registry.find? same.key (nearer ++ l.store name c :: above) = some c := by
    rw [← hKey]
    exact find?_store c nearest
  have asked : (provide [] same (nearer ++ l :: above)).callback = .ok (some c) :=
    (byName.provide_callback hKey before []).symm.trans given
  rw [lookup_of_find? now, lookup, get, ← hKey, free]
  simp [Answered.outcome, asked, Except.bind]

theorem ByName.unfolds_get {r : Registry} (byName : r.ByName) (before : List Call) (name : Name) :
    r.Unfolds (r.get before name).registry := by
  obtain ⟨c, -, held⟩ | ⟨free, asked⟩ := get_cases before name r
  · rw [held]
    exact .refl r
  · have given : r.get before name = r.provide before name := by
      rw [get, free]
    generalize hAnswer : r.get before name = answered at asked
    cases asked with
    | failed | missing => exact .refl r
    | @provided nearer above l ask asked c parts refused hAsk hGiven =>
      subst parts
      have level : l.get? name.key = none :=
        (find?_eq_none_iff _ _).mp free l (by simp)
      refine ⟨?_, ?_⟩
      · intro other
        by_cases hKey : name.key = other.key
        · refine byName.lookup_provided before free ?_ hKey
          rw [← given, hAnswer]
        · have apart := byName.steady.lookup_get_of_ne hKey before
          rwa [hAnswer] at apart
      · refine List.rel_append (List.forall₂_same.mpr fun m _ => Level.Kept.refl m) (.cons ?_ ?_)
        · exact Level.kept_store hAsk hGiven level
        · exact List.forall₂_same.mpr fun m _ => Level.Kept.refl m

theorem Leads.unfolds {r t : Registry} (h : r.Leads t) (byName : r.ByName) : r.Unfolds t := by
  induction h with
  | refl => exact .refl r
  | tail led last ih =>
    obtain ⟨before, name⟩ := last
    exact ih.trans ((byName.congr (Leads.resolvers led)).unfolds_get before name)

theorem Unfolds.lookup_append {r t : Registry} (h : r.Unfolds t) {own : Registry} (silent : own.Silent)
    (name : Name) : Registry.lookup (own ++ t) name = Registry.lookup (own ++ r) name := by
  rw [Registry.lookup_append silent, Registry.lookup_append silent, h.lookup]

end Registry
end Colloquy

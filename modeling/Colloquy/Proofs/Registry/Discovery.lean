import Mathlib.Data.List.Forall2
import Colloquy.Proofs.Registry.Lookup
import Colloquy.Registry.Discovery

/-! # Discovery

A discovery goes through the entry points one after the other. One that gives a callback registers it,
and any other leaves the registry as it is; every one leaves one note, and none ends the discovery. So
what is held afterwards depends on the good ones alone.
-/
set_option autoImplicit false

namespace Colloquy

namespace EntryPoint

def Gives (e : EntryPoint) (o : Offer) : Prop :=
  e.loaded = .offer o ∨ e.loaded = .factory o

/-- The one note that an entry point leaves: information on a callback, a warning on anything else, and
an error where there is nothing. -/
inductive Noted (e : EntryPoint) : LogEntry → Prop where
  | found {c : Callback} (gives : e.Gives (.callback c)) :
      Noted e ⟨.info, "Discovered function callback: " ++ c.name.text⟩
  | strange {v : Value} (gives : e.Gives (.value v)) :
      Noted e ⟨.warning, "Entry point " ++ e.name ++ " did not return a FunctionCallback: <class '" ++
        v.kind ++ "'>"⟩
  | failed {f : Fault} (gives : e.Gives (.fault f)) :
      Noted e ⟨.error, "Failed to load function plugin: " ++ e.name⟩

variable {e : EntryPoint} {o : Offer} {c : Callback}

theorem gives_iff_offer : e.Gives o ↔ e.offer = o := by
  unfold Gives offer
  cases e.loaded <;> simp

theorem callback?_eq_some_iff : e.callback? = some c ↔ e.Gives (.callback c) := by
  rw [gives_iff_offer, callback?]
  cases e.offer <;> simp

theorem mem_callbacks_iff {es : List EntryPoint} :
    c ∈ es.filterMap callback? ↔ ∃ e ∈ es, e.Gives (.callback c) := by
  simp only [List.mem_filterMap, callback?_eq_some_iff]

theorem noted_note (e : EntryPoint) : e.Noted e.note := by
  unfold note
  cases h : e.offer with
  | callback c => exact .found (gives_iff_offer.mpr h)
  | value v => exact .strange (gives_iff_offer.mpr h)
  | fault f => exact .failed (gives_iff_offer.mpr h)

end EntryPoint

namespace Level

theorem callbacks_foldl_store_of_ne {cs : List Callback} {key : Key} (others : ∀ c ∈ cs, c.name.key ≠ key)
    (l : Level) : (cs.foldl (fun l c => l.store c.name c) l).callbacks.get? key = l.callbacks.get? key := by
  induction cs generalizing l with
  | nil => rfl
  | cons c rest ih =>
    obtain ⟨first, later⟩ := List.forall_mem_cons.mp others
    rw [List.foldl_cons, ih later, store, Keyed.get?_insert_of_ne first]

end Level

namespace Registry

def registerAll (cs : List Callback) (r : Registry) : Registry :=
  cs.foldl (fun r c => register c r) r

theorem registerAll_cons (cs : List Callback) (l : Level) (above : Registry) :
    registerAll cs (l :: above) = cs.foldl (fun l c => l.store c.name c) l :: above := by
  induction cs generalizing l with
  | nil => rfl
  | cons c rest ih => exact ih (l.store c.name c)

theorem discoverAll_cons (r : Registry) (e : EntryPoint) (rest : List EntryPoint) :
    r.discoverAll (e :: rest) = (((r.discoverOne e).1.discoverAll rest).1,
      e.note :: ((r.discoverOne e).1.discoverAll rest).2) := by
  rw [discoverAll, discoverOne]
  cases e.callback? <;> rfl

theorem discoverAll_eq (r : Registry) (es : List EntryPoint) : r.discoverAll es =
    (registerAll (es.filterMap EntryPoint.callback?) r, es.map EntryPoint.note) := by
  induction es generalizing r with
  | nil => rfl
  | cons e rest ih =>
    rw [discoverAll_cons, ih, discoverOne]
    cases given : e.callback? with
    | none => rw [List.filterMap_cons_none given, List.map_cons]
    | some c => rw [List.filterMap_cons_some given, List.map_cons, registerAll, registerAll, List.foldl_cons]

end Registry

namespace Session

variable {τ : Type}

theorem exec_discoverOne (e : EntryPoint) (s : Session τ) : (discoverOne e).exec s =
    (.ok (), { s with
      registry := (s.registry.discoverOne e).1
      journal := s.journal.add [.note e.note] }) := by
  rw [discoverOne, Run.exec_tryCatch]
  unfold Registry.discoverOne EntryPoint.callback? EntryPoint.note
  cases e.offer with
  | callback c => simp [accept, register, Run.exec_bind]
  | value v => simp [accept]
  | fault f => simp [accept]

theorem exec_discover (group : String) (es : List EntryPoint) (s : Session τ) :
    (discover group es).exec s =
      (.ok (), { s with
        registry := (s.registry.discover group es).1
        journal := s.journal.add ((s.registry.discover group es).2.map .note) }) := by
  unfold discover Registry.discover
  induction es.filter (fun e => e.group = group) generalizing s with
  | nil => simp [Registry.discoverAll]
  | cons e rest ih =>
    have step : ((e :: rest).forM discoverOne : Run (Session τ) PUnit) =
        discoverOne e >>= fun _ => rest.forM discoverOne := rfl
    rw [step, Run.exec_bind_of_ok (exec_discoverOne e s), ih, Registry.discoverAll_cons]
    simp

def offered (group : String) (es : List EntryPoint) : List Callback :=
  (es.filter fun e => e.group = group).filterMap EntryPoint.callback?

theorem exec_discover_offered (group : String) (es : List EntryPoint) (l : Level) (above : Registry)
    (j : Journal) (link : τ) : (discover group es).exec ⟨l :: above, j, link⟩ =
      (.ok (), ⟨(offered group es).foldl (fun l c => l.store c.name c) l :: above,
        j.add (((es.filter fun e => e.group = group).map EntryPoint.note).map .note), link⟩) := by
  rw [exec_discover, Registry.discover, Registry.discoverAll_eq]
  simp only [Registry.registerAll_cons]
  rfl

theorem offered_filter {keep : EntryPoint → Bool} {group : String} {es : List EntryPoint}
    (kept : ∀ e ∈ es, ∀ c, e.Gives (.callback c) → keep e = true) :
    offered group (es.filter keep) = offered group es := by
  simp only [offered, List.filterMap_filter]
  refine List.filterMap_congr ?_
  intro e he
  cases hKeep : keep e with
  | true => simp
  | false =>
    have bad : e.callback? = none := by
      rw [Option.eq_none_iff_forall_ne_some]
      intro c given
      rw [kept e he c (EntryPoint.callback?_eq_some_iff.mp given)] at hKeep
      cases hKeep
    simp [bad]

/-- What entry points do to the nearest level of a registry, and what they leave in the journal. -/
structure Discovered (es : List EntryPoint) (l own : Level) (above : Registry)
    (notes : List LogEntry) : Prop where
  registered : own :: above = Registry.registerAll (es.filterMap EntryPoint.callback?) (l :: above)
  last_wins : ∀ {before after e c}, es = before ++ e :: after → e.Gives (.callback c) →
    (∀ d ∈ after, ∀ c', d.Gives (.callback c') → c'.name.key ≠ c.name.key) →
    own.get? c.name.key = some c
  untouched : ∀ {key}, (∀ e ∈ es, ∀ c, e.Gives (.callback c) → c.name.key ≠ key) →
    own.callbacks.get? key = l.callbacks.get? key
  resolver : own.resolver = l.resolver
  noted : List.Forall₂ EntryPoint.Noted es notes

/-- What comes later in the list is stored later, and under other names than the last of a name. -/
theorem discovered (es : List EntryPoint) (l : Level) (above : Registry) :
    Discovered es l ((es.filterMap EntryPoint.callback?).foldl (fun l c => l.store c.name c) l) above
      (es.map EntryPoint.note) where
  registered := (Registry.registerAll_cons _ l above).symm
  last_wins := by
    intro before after e c parts gives others
    have here := EntryPoint.callback?_eq_some_iff.mpr gives
    have later : ∀ d ∈ after.filterMap EntryPoint.callback?, d.name.key ≠ c.name.key := by
      intro d hd
      obtain ⟨e', he', gives'⟩ := EntryPoint.mem_callbacks_iff.mp hd
      exact others e' he' d gives'
    rw [parts, List.filterMap_append, List.filterMap_cons_some here, List.foldl_append, List.foldl_cons,
      Level.get?, Level.callbacks_foldl_store_of_ne later]
    exact (Level.get?_store _ c.name c c.name.key).trans (if_pos rfl)
  untouched := by
    intro key others
    refine Level.callbacks_foldl_store_of_ne ?_ l
    intro c hc
    obtain ⟨e, he, gives⟩ := EntryPoint.mem_callbacks_iff.mp hc
    exact others e he c gives
  resolver := Level.resolver_foldl_store _ l
  noted := by
    rw [List.forall₂_map_right_iff]
    exact List.forall₂_same.mpr fun e _ => e.noted_note

/-- Discovery never fails, and bad entry points might as well not have been there. -/
theorem discover_isolates (group : String) (es : List EntryPoint) (l : Level) (above : Registry)
    (j : Journal) (link : τ) : ∃ own notes,
      (discover group es).exec ⟨l :: above, j, link⟩ =
        (.ok (), ⟨own :: above, j.add (notes.map .note), link⟩) ∧
      Discovered (es.filter fun e => e.group = group) l own above notes ∧
      ∀ keep : EntryPoint → Bool, (∀ e ∈ es, ∀ c, e.Gives (.callback c) → keep e = true) →
        ((discover group (es.filter keep)).exec ⟨l :: above, j, link⟩).2.registry = own :: above := by
  refine ⟨_, _, exec_discover_offered group es l above j link, discovered _ l above, ?_⟩
  intro keep kept
  rw [exec_discover_offered, offered_filter kept]

end Session
end Colloquy

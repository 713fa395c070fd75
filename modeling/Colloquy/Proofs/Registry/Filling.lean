import Colloquy.Proofs.Registry.Leading
import Colloquy.Registry.Discovery

/-! # Filled registries

A level is made from callbacks, and later gets others by registration, by discovery, or from its
resolver by a look-up. But for what resolvers provide, a callback is held under its own name, and so it
is with what a resolver provides if it has the name that was asked for.
-/
set_option autoImplicit false

namespace Colloquy

/-- What is provided for a name has this name. -/
def Provider.Truthful (ask : Provider) : Prop :=
  ∀ before name c, ask before name = .ok (some c) → c.name.key = name.key

namespace Level

def Truthful (l : Level) : Prop :=
  ∀ ask, l.resolver = some ask → Provider.Truthful ask

def Faithful (l : Level) : Prop :=
  ∀ key c, l.get? key = some c → c.name.key = key

variable {l : Level}

theorem Faithful.store (faithful : l.Faithful) {name : Name} {c : Callback}
    (hKey : c.name.key = name.key) : (l.store name c).Faithful := by
  intro key d held
  rw [get?_store] at held
  split at held
  · next hName =>
    obtain rfl := Option.some.inj held
    exact hKey.trans hName
  · exact faithful key d held

theorem Faithful.foldl_store (faithful : l.Faithful) (cs : List Callback) :
    (cs.foldl (fun l c => l.store c.name c) l).Faithful := by
  induction cs generalizing l with
  | nil => exact faithful
  | cons c rest ih => exact ih (faithful.store rfl)

end Level

namespace Registry

def Truthful (r : Registry) : Prop := ∀ l ∈ r, l.Truthful

/-- Of the levels, those with a truthful resolver or none hold every callback under its own name. -/
def Faithful (r : Registry) : Prop := ∀ l ∈ r, l.Truthful → l.Faithful

/-- The one is filled in one of the ways there are, at its nearest level or further up, and is the
other then. -/
inductive Fills : Registry → Registry → Prop where
  | register (r : Registry) (c : Callback) : Fills r (r.register c)
  | registerIfAbsent (r : Registry) (c : Callback) : Fills r (r.registerIfAbsent c).2
  | discover (r : Registry) (group : String) (entries : List EntryPoint) :
      Fills r (r.discover group entries).1
  | get (r : Registry) (before : List Call) (name : Name) : Fills r (r.get before name).registry
  | above (l : Level) {r t : Registry} (fills : Fills r t) : Fills (l :: r) (l :: t)

/-- Registries that are made and filled, and the registries they are made upon. -/
inductive Filled : Registry → Prop where
  | nil : Filled []
  | grow (cs : List Callback) (resolver : Option Provider) {r : Registry} (filled : Filled r) :
      Filled (cs.foldl (fun l c => l.store c.name c) { resolver := resolver } :: r)
  | fill {r t : Registry} (filled : Filled r) (fills : Fills r t) : Filled t
  | parent {l : Level} {r : Registry} (filled : Filled (l :: r)) : Filled r

variable {r t : Registry}

theorem Faithful.register (faithful : r.Faithful) (c : Callback) : (r.register c).Faithful := by
  cases r with
  | nil => exact faithful
  | cons l above =>
    obtain ⟨here, others⟩ := List.forall_mem_cons.mp faithful
    exact List.forall_mem_cons.mpr ⟨fun truthful => (here truthful).store rfl, others⟩

theorem Faithful.discoverAll (faithful : r.Faithful) (entries : List EntryPoint) :
    (r.discoverAll entries).1.Faithful := by
  induction entries generalizing r with
  | nil => exact faithful
  | cons e rest ih =>
    have first : (r.discoverOne e).1.Faithful := by
      unfold discoverOne
      split
      · exact faithful.register _
      · exact faithful
    exact ih first

theorem Faithful.get (faithful : r.Faithful) (before : List Call) (name : Name) :
    (r.get before name).registry.Faithful := by
  obtain ⟨c, -, held⟩ | ⟨-, asked⟩ := get_cases before name r
  · rw [held]
    exact faithful
  · generalize r.get before name = answered at asked
    cases asked with
    | failed | missing => exact faithful
    | @provided nearer above l ask before c parts refused hAsk given =>
      subst parts
      intro m hm truthful
      obtain hm | hm := List.mem_append.mp hm
      · exact faithful m (List.mem_append_left _ hm) truthful
      · obtain rfl | hm := List.mem_cons.mp hm
        · have here : l.Faithful := faithful l (by simp) truthful
          exact here.store (truthful ask hAsk before name c given)
        · exact faithful m (List.mem_append_right _ (List.mem_cons_of_mem _ hm)) truthful

theorem Fills.faithful (fills : Fills r t) (faithful : r.Faithful) : t.Faithful := by
  induction fills with
  | register r c => exact faithful.register c
  | registerIfAbsent r c =>
    unfold Registry.registerIfAbsent
    split
    · exact faithful
    · exact faithful.register c
  | discover r group entries => exact faithful.discoverAll _
  | get r before name => exact faithful.get before name
  | above l fills ih =>
    obtain ⟨here, others⟩ := List.forall_mem_cons.mp faithful
    exact List.forall_mem_cons.mpr ⟨here, ih others⟩

theorem Filled.faithful (filled : r.Filled) : r.Faithful := by
  induction filled with
  | nil => simp [Faithful]
  | grow cs resolver filled ih =>
    have empty : Level.Faithful { resolver := resolver } := by
      intro key c held
      cases held
    exact List.forall_mem_cons.mpr ⟨fun _ => empty.foldl_store cs, ih⟩
  | fill filled fills ih => exact fills.faithful ih
  | parent filled ih => exact (List.forall_mem_cons.mp ih).2

theorem exists_of_find? {key : Key} {c : Callback} (found : r.find? key = some c) :
    ∃ l ∈ r, l.get? key = some c := by
  induction r with
  | nil => cases found
  | cons l above ih =>
    rw [find?, Option.or_eq_some_iff] at found
    obtain here | ⟨-, further⟩ := found
    · exact ⟨l, List.mem_cons_self, here⟩
    · obtain ⟨m, hm, held⟩ := ih further
      exact ⟨m, List.mem_cons_of_mem _ hm, held⟩

theorem Filled.key_eq (filled : r.Filled) (truthful : r.Truthful) {key : Key} {c : Callback}
    (found : r.find? key = some c) : c.name.key = key := by
  obtain ⟨l, hl, held⟩ := exists_of_find? found
  exact filled.faithful l hl (truthful l hl) key c held

theorem Filled.leads (filled : r.Filled) (led : r.Leads t) : t.Filled := by
  induction led with
  | refl => exact filled
  | tail led last ih =>
    obtain ⟨before, name⟩ := last
    exact ih.fill (.get ..)

theorem truthful_iff (r : Registry) :
    r.Truthful ↔ ∀ ask, some ask ∈ r.map Level.resolver → Provider.Truthful ask := by
  simp only [Truthful, Level.Truthful, List.mem_map]
  constructor
  · rintro truthful ask ⟨l, hl, hAsk⟩
    exact truthful l hl ask hAsk
  · intro truthful l hl ask hAsk
    exact truthful ask ⟨l, hl, hAsk⟩

theorem Truthful.leads (truthful : r.Truthful) (led : r.Leads t) : t.Truthful := by
  rw [truthful_iff, led.resolvers, ← truthful_iff]
  exact truthful

theorem Truthful.append {own : Registry} (silent : own.Silent) (truthful : r.Truthful) :
    Truthful (own ++ r) := by
  rw [truthful_iff] at truthful ⊢
  intro ask hAsk
  exact truthful ask (silent.mem_resolvers hAsk)

end Registry
end Colloquy

import Colloquy.Proofs.Registry.Places

/-! # Runs of registries that share levels

Whatever is done, at whatever places, changes one level at most: a new one is put on top, or one gets
an entry. Unless a callback is registered under it, the name of the new entry was free all the way up
from its level, so nothing that was found before is found otherwise after.
-/
set_option autoImplicit false

namespace Colloquy.Forest

/-- No level from `i` up holds the key. -/
def Free (f : Forest) (i : Nat) (key : Key) : Prop :=
  ∀ k ∈ f.path i, (f.level k).get? key = none

/-- Only a name that is no text is registered where it is held already. -/
def Operation.Replaces (op : Operation) (key : Key) : Prop :=
  match op with
  | .register _ c => c.name.key = key
  | .registerIfAbsent _ c => c.name.isText = false ∧ c.name.key = key
  | _ => False

theorem find?_map (f : Forest) (key : Key) (places : List Nat) :
    Registry.find? key (places.map f.level) = places.findSome? fun k => (f.level k).get? key := by
  induction places with
  | nil => rfl
  | cons k rest ih =>
    rw [List.map_cons, Registry.find?, List.findSome?_cons, ih]
    cases (f.level k).get? key <;> rfl

/-- What looking a name up from `i` comes to: the outcome, the places whose resolvers are asked, in
order, and what is left. -/
inductive Finds (f : Forest) (i : Nat) (name : Name) :
    Except Fault Callback → List Nat → Forest → Prop where
  | held {nearer above : List Nat} {j : Nat} {c : Callback} (path : f.path i = nearer ++ j :: above)
      (free : ∀ k ∈ nearer, (f.level k).get? name.key = none)
      (held : (f.level j).get? name.key = some c) : Finds f i name (.ok c) [] f
  | provided {nearer above : List Nat} {j : Nat} {r : Resolver} {c : Callback}
      (free : f.Free i name.key) (path : f.path i = nearer ++ j :: above)
      (refused : ∀ k ∈ nearer, (f.level k).Refuses name)
      (resolver : (f.level j).resolver = some r.provider) (provided : r name = some c) :
      Finds f i name (.ok c) (nearer.filter (fun k => (f.level k).asks) ++ [j])
        (f.setLevel j ((f.level j).store name c))
  | missing (free : f.Free i name.key) (refused : ∀ k ∈ f.path i, (f.level k).Refuses name) :
      Finds f i name (.error (.functionNotFound name.shown))
        ((f.path i).filter fun k => (f.level k).asks) f

inductive Change (f : Forest) (op : Operation) : Forest → Prop where
  | grown {l : Level} {parent : Option Nat} (named : l.Named)
      (resolver : ∀ ask, l.resolver = some ask → ∃ r : Resolver, ask = r.provider) :
      Change f op (f.grow l parent).2
  | kept : Change f op f
  | stored {j : Nat} {name : Name} (c : Callback) (bound : j < f.levels.length)
      (free : f.Free j name.key ∨ op.Replaces name.key) :
      Change f op (f.setLevel j ((f.level j).store name c))

namespace Sound

variable {f : Forest}

theorem find?_eq_some_iff (sound : f.Sound) {i : Nat} {key : Key} {c : Callback} :
    (f.registry i).find? key = some c ↔ ∃ nearer j above, f.path i = nearer ++ j :: above ∧
      (f.level j).get? key = some c ∧ ∀ k ∈ nearer, (f.level k).get? key = none := by
  rw [sound.registry_eq, find?_map, List.findSome?_eq_some_iff]

theorem find?_eq_none_iff (sound : f.Sound) {i : Nat} {key : Key} :
    (f.registry i).find? key = none ↔ f.Free i key := by
  rw [sound.registry_eq, find?_map, List.findSome?_eq_none_iff, Free]

theorem countP_asks (f : Forest) (places : List Nat) :
    (places.map f.level).countP Level.asks = (places.filter fun k => (f.level k).asks).length := by
  rw [List.countP_map, List.countP_eq_length_filter]
  rfl

theorem finds (sound : f.Sound) (i : Nat) (name : Name) :
    ∃ asked, f.Finds i name ((f.answer i name).outcome name) asked (f.step (.get i name)) ∧
      (f.answer i name).asked = asked.length := by
  have put : f.step (.get i name) = f.write i (f.answer i name).registry := rfl
  have path := sound.registry_eq i
  rw [put]
  unfold answer
  obtain ⟨c, hFind, held⟩ | ⟨hFree, asked⟩ := Registry.get_cases [] name (f.registry i)
  · obtain ⟨nearer, j, above, hPath, here, free⟩ := sound.find?_eq_some_iff.mp hFind
    rw [held, sound.write_registry]
    exact ⟨[], .held hPath free here, rfl⟩
  · have free := sound.find?_eq_none_iff.mp hFree
    generalize hAnswer : (f.registry i).get [] name = answered at asked
    cases asked with
    | @provided near up l ask before c parts refused hAsk given =>
      rw [path] at parts
      obtain ⟨nearer, rest, hPath, rfl, hRest⟩ := List.map_eq_append_iff.mp parts
      obtain ⟨j, above, rfl, rfl, rfl⟩ := List.map_eq_cons_iff.mp hRest
      obtain ⟨r, rfl⟩ := sound.resolver j ask hAsk
      rw [sound.write_eq _ hPath, countP_asks]
      refine ⟨_, .provided free hPath (fun k hk => refused _ (List.mem_map_of_mem hk)) hAsk
        (Except.ok.inj given), ?_⟩
      simp
    | @failed near up l ask before fault parts refused hAsk given =>
      rw [path] at parts
      obtain ⟨nearer, rest, -, -, hRest⟩ := List.map_eq_append_iff.mp parts
      obtain ⟨j, above, -, rfl, -⟩ := List.map_eq_cons_iff.mp hRest
      obtain ⟨r, rfl⟩ := sound.resolver j ask hAsk
      cases given
    | missing refused =>
      rw [sound.write_registry]
      rw [path] at refused ⊢
      rw [countP_asks]
      exact ⟨_, .missing free fun k hk => refused _ (List.mem_map_of_mem hk), rfl⟩

theorem write_register (sound : f.Sound) (i : Nat) (c : Callback) :
    f.write i ((f.registry i).register c) = f ∨ i < f.levels.length ∧
      f.write i ((f.registry i).register c) = f.setLevel i ((f.level i).store c.name c) := by
  rw [sound.registry_eq]
  obtain hPath | ⟨bound, above, hPath⟩ := sound.path_eq_cons i
  · refine .inl ?_
    rw [write, hPath]
    rfl
  · refine .inr ⟨bound, ?_⟩
    have whole : f.path i = [] ++ i :: above := hPath
    rw [hPath]
    exact sound.write_eq ((f.level i).store c.name c) whole

theorem change_step (sound : f.Sound) (op : Operation) : f.Change op (f.step op) := by
  cases op with
  | create callbacks resolver parent =>
    refine .grown (Level.named_ofCallbacks callbacks resolver) ?_
    intro ask hAsk
    rw [Level.resolver_ofCallbacks] at hAsk
    obtain ⟨r, -, rfl⟩ := Option.map_eq_some_iff.mp hAsk
    exact ⟨r, rfl⟩
  | register i c =>
    obtain kept | ⟨bound, stored⟩ := sound.write_register i c
    · rw [step, kept]
      exact .kept
    · rw [step, stored]
      exact .stored c bound (.inr rfl)
  | registerIfAbsent i c =>
    rw [step, Registry.registerIfAbsent]
    by_cases holds : (f.registry i).holds c.name = true
    · rw [if_pos holds, sound.write_registry]
      exact .kept
    · rw [if_neg holds]
      obtain kept | ⟨bound, stored⟩ := sound.write_register i c
      · rw [kept]
        exact .kept
      · rw [stored]
        refine .stored c bound ?_
        rw [Registry.holds, Bool.and_eq_true, not_and_or] at holds
        obtain noText | absent := holds
        · exact .inr ⟨by simpa using noText, rfl⟩
        · rw [Option.isSome_iff_ne_none, not_not] at absent
          exact .inl (sound.find?_eq_none_iff.mp absent)
  | get i name =>
    obtain ⟨asked, finds, -⟩ := sound.finds i name
    generalize f.step (.get i name) = g, (f.answer i name).outcome name = outcome at finds
    cases finds with
    | held | missing => exact .kept
    | @provided nearer above j r c free path refused resolver provided =>
      have bound : j < f.levels.length := (sound.of_mem_path (i := i) (by simp [path])).2
      refine .stored c bound (.inl ?_)
      intro k hk
      rw [sound.path_of_path_eq path] at hk
      exact free k (by rw [path]; exact List.mem_append_right _ hk)

theorem step (sound : f.Sound) (op : Operation) : (f.step op).Sound := by
  have change := sound.change_step op
  generalize f.step op = g at change
  cases change with
  | grown named resolver => exact sound.grow _ named resolver
  | kept => exact sound
  | stored c => exact sound.store _ _ c

end Sound

theorem sound_run (history : List Operation) {f : Forest} (sound : f.Sound) : (f.run history).Sound := by
  induction history generalizing f with
  | nil => exact sound
  | cons op rest ih => exact ih (sound.step op)

section

variable {f : Forest} {op : Operation} {i j : Nat} {key : Key} {name : Name} {c : Callback}

theorem get?_level_store (f : Forest) (j k : Nat) (name : Name) (c : Callback) (key : Key) :
    ((f.setLevel j ((f.level j).store name c)).level k).get? key = (f.level k).get? key ∨
      j = k ∧ name.key = key := by
  obtain ⟨rfl, hLevel⟩ | hLevel := level_setLevel_cases f j ((f.level j).store name c) k
  · rw [hLevel, Level.get?_store]
    by_cases hKey : name.key = key
    · exact .inr ⟨rfl, hKey⟩
    · exact .inl (if_neg hKey)
  · rw [hLevel]
    exact .inl rfl

theorem Sound.find?_grow (sound : f.Sound) {l : Level} {parent : Option Nat}
    (later : (f.grow l parent).2.Sound) (found : (f.registry i).find? key = some c) :
    ((f.grow l parent).2.registry i).find? key = some c := by
  obtain ⟨nearer, k, above, path, here, free⟩ := sound.find?_eq_some_iff.mp found
  have bound : i < f.levels.length := by
    by_contra beyond
    rw [path_of_ge (Nat.le_of_not_lt beyond)] at path
    cases nearer <;> cases path
  have same : ∀ m ∈ f.path i, (f.grow l parent).2.level m = f.level m := by
    intro m hm
    exact level_grow_of_lt (sound.of_mem_path hm).2 l parent
  rw [path] at same
  refine later.find?_eq_some_iff.mpr
    ⟨nearer, k, above, (path_grow_of_lt bound l parent).trans path, ?_, ?_⟩
  · rw [same k (by simp)]
    exact here
  · intro m hm
    rw [same m (List.mem_append_left _ hm)]
    exact free m hm

/-- A new entry does not hide what is found, if its name was free from its level up. -/
theorem Sound.find?_store (sound : f.Sound) (bound : j < f.levels.length)
    (free : name.key = key → f.Free j key) (d : Callback)
    (found : (f.registry i).find? key = some c) :
    ((f.setLevel j ((f.level j).store name d)).registry i).find? key = some c := by
  obtain ⟨nearer, k, above, path, here, none⟩ := sound.find?_eq_some_iff.mp found
  refine (sound.store j name d).find?_eq_some_iff.mpr
    ⟨nearer, k, above, (path_setLevel ..).trans path, ?_, ?_⟩
  · obtain same | ⟨rfl, hKey⟩ := get?_level_store f j k name d key
    · rw [same]
      exact here
    · rw [free hKey j (mem_path_self bound)] at here
      cases here
  · intro m hm
    obtain same | ⟨rfl, hKey⟩ := get?_level_store f j m name d key
    · rw [same]
      exact none m hm
    · obtain ⟨before, between, rfl⟩ := List.append_of_mem hm
      rw [List.append_assoc] at path
      have up : f.path j = j :: (between ++ k :: above) := sound.path_of_path_eq path
      rw [free hKey k (by simp [up])] at here
      cases here

/-- What is found from a place stays, unless another callback is registered under the name. -/
theorem Sound.find?_step (sound : f.Sound) (kept : ¬ op.Replaces key)
    (found : (f.registry i).find? key = some c) :
    ((f.step op).registry i).find? key = some c := by
  have later := sound.step op
  have change := sound.change_step op
  generalize f.step op = g at later change
  cases change with
  | kept => exact found
  | grown named resolver => exact sound.find?_grow later found
  | stored d bound unheld =>
    refine sound.find?_store bound ?_ d found
    rintro rfl
    exact unheld.resolve_right kept

theorem Sound.find?_run (sound : f.Sound) {later : List Operation}
    (kept : ∀ op ∈ later, ¬ op.Replaces key) (found : (f.registry i).find? key = some c) :
    ((f.run later).registry i).find? key = some c := by
  induction later generalizing f with
  | nil => exact found
  | cons op rest ih =>
    obtain ⟨hFirst, hRest⟩ := List.forall_mem_cons.mp kept
    exact ih (sound.step op) hRest (sound.find?_step hFirst found)

theorem Sound.find?_of_finds (sound : f.Sound) {asked : List Nat} {g : Forest} (after : g.Sound)
    (finds : f.Finds i name (.ok c) asked g) : (g.registry i).find? name.key = some c := by
  cases finds with
  | held path free held => exact sound.find?_eq_some_iff.mpr ⟨_, _, _, path, held, free⟩
  | @provided nearer above j r c free path refused resolver provided =>
    have bound : j < f.levels.length := (sound.of_mem_path (i := i) (by simp [path])).2
    refine after.find?_eq_some_iff.mpr ⟨nearer, j, above, (path_setLevel ..).trans path, ?_, ?_⟩
    · rw [level_setLevel_self bound, Level.get?_store, if_pos rfl]
    · intro k hk
      have apart : j ≠ k := by
        rintro rfl
        exact (sound.not_mem_of_path_eq path).1 hk
      rw [level_setLevel_of_ne apart]
      exact free k (by rw [path]; exact List.mem_append_left _ hk)

theorem Sound.answer_of_find? (sound : f.Sound) (found : (f.registry i).find? name.key = some c) :
    (f.answer i name).outcome name = .ok c ∧ (f.answer i name).asked = 0 ∧
      f.step (.get i name) = f := by
  have held : f.answer i name = ⟨.ok (some c), 0, f.registry i⟩ := by
    rw [answer, Registry.get, found]
  refine ⟨?_, ?_, ?_⟩
  · rw [held]
    rfl
  · rw [held]
  · rw [Forest.step, held]
    exact sound.write_registry i

end

end Colloquy.Forest

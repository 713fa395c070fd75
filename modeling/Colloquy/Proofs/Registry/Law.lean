import Colloquy.Proofs.Names
import Colloquy.Proofs.Registry.Runs

/-! # The law of registries that share levels

After any history, looking a name up finds the nearest callback, or else asks the resolvers, nearest
first, up to the one that provides one. What was looked up once is found again without asking, and
nothing but registering takes away or hides what is held.
-/
set_option autoImplicit false

namespace Colloquy

namespace Level

theorem callbacks_store_of_free {l : Level} {name : Name} (free : l.get? name.key = none)
    (c : Callback) : (l.store name c).callbacks = l.callbacks ++ [(name.key, ⟨name, c⟩)] := by
  have absent : l.callbacks.get? name.key = none := Option.map_eq_none_iff.mp free
  rw [store, Keyed.insert_of_get?_eq_none absent, absent]
  rfl

theorem names_store_of_free {l : Level} {name : Name} (free : l.get? name.key = none) (c : Callback) :
    (l.store name c).names = l.names ++ [name] := by
  rw [names, callbacks_store_of_free free, List.map_append]
  rfl

theorem Named.key_not_mem {l : Level} (named : l.Named) {key : Key} (free : l.get? key = none) :
    key ∉ l.names.map Name.key := by
  have absent := Keyed.ne_of_get?_eq_none (Option.map_eq_none_iff.mp free)
  rw [names, List.map_map]
  intro hKey
  obtain ⟨e, he, hSame⟩ := List.mem_map.mp hKey
  exact absent e he ((named e he).symm.trans hSame)

end Level

namespace Forest

/-- Everything that `f` holds and shows, `g` holds and shows in the same order. -/
structure Keeps (f g : Forest) : Prop where
  length : f.levels.length ≤ g.levels.length
  path : ∀ i < f.levels.length, g.path i = f.path i
  resolver : ∀ i < f.levels.length, (g.level i).resolver = (f.level i).resolver
  entries : ∀ i < f.levels.length, (f.level i).callbacks <+: (g.level i).callbacks
  found : ∀ i key c, (f.registry i).find? key = some c → (g.registry i).find? key = some c
  names : ∀ i < f.levels.length, (f.registry i).names.Sublist (g.registry i).names

namespace Keeps

variable {f g h : Forest}

theorem refl (f : Forest) : f.Keeps f where
  length := Nat.le_refl _
  path _ _ := rfl
  resolver _ _ := rfl
  entries _ _ := List.prefix_rfl
  found _ _ _ hFound := hFound
  names _ _ := .refl _

theorem trans (first : f.Keeps g) (second : g.Keeps h) : f.Keeps h := by
  have old {i : Nat} (hi : i < f.levels.length) : i < g.levels.length :=
    Nat.lt_of_lt_of_le hi first.length
  constructor
  · exact Nat.le_trans first.length second.length
  · intro i hi
    rw [second.path i (old hi), first.path i hi]
  · intro i hi
    rw [second.resolver i (old hi), first.resolver i hi]
  · intro i hi
    exact (first.entries i hi).trans (second.entries i (old hi))
  · intro i key c hFound
    exact second.found i key c (first.found i key c hFound)
  · intro i hi
    exact (first.names i hi).trans (second.names i (old hi))

end Keeps

namespace Sound

variable {f : Forest} {op : Operation}

theorem names_registry (sound : f.Sound) (i : Nat) :
    (f.registry i).names = Name.distinct ((f.path i).flatMap fun k => (f.level k).names) := by
  rw [sound.registry_eq, Registry.names, List.flatMap_map]

theorem key_not_mem_names (sound : f.Sound) {key : Key} {places : List Nat}
    (free : ∀ k ∈ places, (f.level k).get? key = none) :
    key ∉ (places.flatMap fun k => (f.level k).names).map Name.key := by
  intro hKey
  obtain ⟨n, hn, rfl⟩ := List.mem_map.mp hKey
  obtain ⟨k, hk, hn⟩ := List.mem_flatMap.mp hn
  exact (sound.named k).key_not_mem (free k hk) (List.mem_map_of_mem hn)

theorem names_store (sound : f.Sound) {j : Nat} {name : Name} (free : f.Free j name.key)
    (bound : j < f.levels.length) (c : Callback) (i : Nat) :
    (f.registry i).names.Sublist
      ((f.setLevel j ((f.level j).store name c)).registry i).names := by
  have here : ((f.setLevel j ((f.level j).store name c)).level j).names =
      (f.level j).names ++ [name] := by
    rw [level_setLevel_self bound, Level.names_store_of_free (free j (mem_path_self bound))]
  have others {places : List Nat} (apart : j ∉ places) :
      (places.flatMap fun k => ((f.setLevel j ((f.level j).store name c)).level k).names) =
        places.flatMap fun k => (f.level k).names := by
    refine List.flatMap_congr fun k hk => ?_
    rw [level_setLevel_of_ne]
    rintro rfl
    exact apart hk
  rw [sound.names_registry, (sound.store j name c).names_registry, path_setLevel]
  by_cases hj : j ∈ f.path i
  · obtain ⟨nearer, above, path⟩ := List.append_of_mem hj
    obtain ⟨notNearer, notAbove⟩ := sound.not_mem_of_path_eq path
    have freeAbove : ∀ k ∈ above, (f.level k).get? name.key = none := by
      intro k hk
      refine free k ?_
      rw [sound.path_of_path_eq path]
      exact List.mem_cons_of_mem _ hk
    have shown := Name.distinct_sublist (sound.key_not_mem_names freeAbove)
      ((nearer.flatMap fun k => (f.level k).names) ++ (f.level j).names)
    rw [path, List.flatMap_append, List.flatMap_append, List.flatMap_cons, List.flatMap_cons,
      others notNearer, others notAbove, here]
    simpa [List.append_assoc] using shown
  · rw [others hj]

theorem keeps_step (sound : f.Sound) (kept : ∀ key, ¬ op.Replaces key) : f.Keeps (f.step op) := by
  have found (i : Nat) (key : Key) (c : Callback) :
      (f.registry i).find? key = some c → ((f.step op).registry i).find? key = some c :=
    sound.find?_step (kept key)
  have later := sound.step op
  have change := sound.change_step op
  generalize f.step op = g at found later change
  cases change with
  | kept => exact .refl f
  | @grown l parent named resolver =>
    have same {i : Nat} (hi : i < f.levels.length) : (f.grow l parent).2.level i = f.level i :=
      level_grow_of_lt hi l parent
    refine ⟨?_, ?_, ?_, ?_, found, ?_⟩
    · simp [Forest.grow]
    · intro i hi
      exact path_grow_of_lt hi l parent
    · intro i hi
      rw [same hi]
    · intro i hi
      exact ⟨[], (List.append_nil _).trans (congrArg Level.callbacks (same hi).symm)⟩
    · intro i hi
      rw [later.names_registry, sound.names_registry, path_grow_of_lt hi,
        List.flatMap_congr fun k hk => congrArg Level.names (same (sound.of_mem_path hk).2)]
  | @stored j name c bound unheld =>
    have free : f.Free j name.key := unheld.resolve_right (kept name.key)
    refine ⟨Nat.le_of_eq (length_setLevel ..).symm, ?_, ?_, ?_, found, ?_⟩
    · intro i _
      exact path_setLevel ..
    · intro i _
      obtain ⟨rfl, hLevel⟩ | hLevel := level_setLevel_cases f j ((f.level j).store name c) i
      · rw [hLevel, Level.resolver_store]
      · rw [hLevel]
    · intro i _
      obtain ⟨rfl, hLevel⟩ | hLevel := level_setLevel_cases f j ((f.level j).store name c) i
      · rw [hLevel, Level.callbacks_store_of_free (free j (mem_path_self bound))]
        exact List.prefix_append ..
      · exact ⟨[], (List.append_nil _).trans (congrArg Level.callbacks hLevel.symm)⟩
    · intro i _
      exact sound.names_store free bound c i

theorem keeps_run (sound : f.Sound) {later : List Operation}
    (kept : ∀ op ∈ later, ∀ key, ¬ op.Replaces key) : f.Keeps (f.run later) := by
  induction later generalizing f with
  | nil => exact .refl f
  | cons op rest ih =>
    obtain ⟨hFirst, hRest⟩ := List.forall_mem_cons.mp kept
    exact (sound.keeps_step hFirst).trans (ih (sound.step op) hRest)

end Sound

/-- What holds of looking up from the places of `f`, whatever happens afterwards. -/
structure Lawful (f : Forest) : Prop where
  path_nodup : ∀ i, (f.path i).Nodup
  finds : ∀ i name, ∃ asked,
    f.Finds i name ((f.answer i name).outcome name) asked (f.step (.get i name)) ∧
      (f.answer i name).asked = asked.length
  settled : ∀ i name c later g, (f.answer i name).outcome name = .ok c →
    (∀ op ∈ later, ¬ Operation.Replaces op name.key) → g = (f.step (.get i name)).run later →
      (g.answer i name).outcome name = .ok c ∧ (g.answer i name).asked = 0 ∧ g.step (.get i name) = g
  keeps : ∀ later, (∀ op ∈ later, ∀ key, ¬ Operation.Replaces op key) → f.Keeps (f.run later)

theorem Sound.lawful {f : Forest} (sound : f.Sound) : f.Lawful := by
  refine ⟨sound.path_nodup, sound.finds, ?_, fun later kept => sound.keeps_run kept⟩
  intro i name c later g hOk kept hRun
  obtain ⟨asked, finds, -⟩ := sound.finds i name
  rw [hOk] at finds
  have after := sound.step (.get i name)
  have found := after.find?_run kept (sound.find?_of_finds after finds)
  subst hRun
  exact (sound_run later after).answer_of_find? found

/-- The law holds after every history, whoever did what at which place. -/
theorem run_lawful (history : List Operation) : (run {} history).Lawful :=
  (sound_run history sound_empty).lawful

end Forest
end Colloquy

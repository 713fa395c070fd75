import Colloquy.Proofs.Registry.Unfolding

/-! # The places of registries that share levels

Every level has a place, and a registry is the levels along the path from one place up. Paths only
lead back, so no level is on a path twice, and the rest of a path is the path of its first place. A
registry that was changed at one level is put back by changing the level at one place.
-/
set_option autoImplicit false

namespace Colloquy

namespace Level

def Named (l : Level) : Prop := ∀ e ∈ l.callbacks, e.2.name.key = e.1

theorem Named.store {l : Level} (named : l.Named) (name : Name) (c : Callback) :
    (l.store name c).Named := by
  intro e he
  obtain he | rfl := Keyed.mem_of_mem_insert he
  · exact named e he
  · rcases hShown : l.callbacks.get? name.key with _ | held
    · rfl
    · exact named (name.key, held) (Keyed.mem_of_get? hShown)

theorem Named.foldl_store {l : Level} (named : l.Named) (cs : List Callback) :
    (cs.foldl (fun l c => l.store c.name c) l).Named := by
  induction cs generalizing l with
  | nil => exact named
  | cons c rest ih => exact ih (named.store c.name c)

theorem named_ofCallbacks (cs : List Callback) (resolver : Option Resolver) :
    (ofCallbacks cs resolver).Named := by
  have none : Named { resolver := resolver.map Resolver.provider } := by
    intro e he
    cases he
  exact none.foldl_store cs

end Level

namespace Forest

def level (f : Forest) (i : Nat) : Level := (f.level? i).getD {}

section

variable {f : Forest}

theorem getElem?_setLevel (f : Forest) (j : Nat) (l : Level) (k : Nat) :
    (f.setLevel j l).levels[k]? =
      if j = k then (f.levels[k]?).map fun p => (l, p.2) else f.levels[k]? := by
  unfold setLevel
  rw [List.getElem?_modify]
  by_cases h : j = k
  · simp [h]
  · simp [h]

theorem path_setLevel (f : Forest) (j : Nat) (l : Level) (i : Nat) :
    (f.setLevel j l).path i = f.path i := by
  unfold path
  rw [getElem?_setLevel]
  by_cases h : j = i
  · rw [if_pos h]
    cases f.levels[i]? <;> rfl
  · rw [if_neg h]

theorem level?_setLevel (f : Forest) (j : Nat) (l : Level) (k : Nat) :
    (f.setLevel j l).level? k = if j = k then (f.level? k).map fun _ => l else f.level? k := by
  unfold level?
  rw [getElem?_setLevel]
  split
  · cases f.levels[k]? <;> rfl
  · rfl

theorem level_setLevel_of_ne {j k : Nat} (h : j ≠ k) (l : Level) :
    (f.setLevel j l).level k = f.level k := by
  rw [level, level?_setLevel, if_neg h, level]

theorem level_setLevel_self {j : Nat} (h : j < f.levels.length) (l : Level) :
    (f.setLevel j l).level j = l := by
  rw [level, level?_setLevel, if_pos rfl, level?, List.getElem?_eq_getElem h]
  rfl

theorem level_setLevel_cases (f : Forest) (j : Nat) (l : Level) (k : Nat) :
    j = k ∧ (f.setLevel j l).level k = l ∨ (f.setLevel j l).level k = f.level k := by
  by_cases h : j = k
  · subst h
    rw [level, level?_setLevel, if_pos rfl]
    cases hLevel : f.level? j with
    | none => exact .inr (by simp [level, hLevel])
    | some m => exact .inl ⟨rfl, rfl⟩
  · exact .inr (level_setLevel_of_ne h l)

theorem getElem?_grow_of_lt {i : Nat} (h : i < f.levels.length) (l : Level) (parent : Option Nat) :
    (f.grow l parent).2.levels[i]? = f.levels[i]? :=
  List.getElem?_append_left h

theorem getElem?_grow_self (f : Forest) (l : Level) (parent : Option Nat) :
    (f.grow l parent).2.levels[f.levels.length]? = some (l, parent.elim [] f.path) :=
  List.getElem?_concat_length

theorem path_grow_of_lt {i : Nat} (h : i < f.levels.length) (l : Level) (parent : Option Nat) :
    (f.grow l parent).2.path i = f.path i := by
  unfold path
  rw [getElem?_grow_of_lt h]

theorem level_grow_of_lt {i : Nat} (h : i < f.levels.length) (l : Level) (parent : Option Nat) :
    (f.grow l parent).2.level i = f.level i := by
  unfold level level?
  rw [getElem?_grow_of_lt h]

theorem level_grow_cases (f : Forest) (l : Level) (parent : Option Nat) (i : Nat) :
    (f.grow l parent).2.level i = f.level i ∨
      i = f.levels.length ∧ (f.grow l parent).2.level i = l := by
  obtain h | h | h := Nat.lt_trichotomy i f.levels.length
  · exact .inl (level_grow_of_lt h l parent)
  · subst h
    refine .inr ⟨rfl, ?_⟩
    rw [level, level?, getElem?_grow_self]
    rfl
  · refine .inl ?_
    have beyond : (f.grow l parent).2.levels[i]? = none :=
      List.getElem?_eq_none (by simp [Forest.grow]; omega)
    rw [level, level, level?, level?, beyond, List.getElem?_eq_none (Nat.le_of_lt h)]

theorem path_of_getElem? {i : Nat} {l : Level} {above : List Nat} (h : f.levels[i]? = some (l, above)) :
    f.path i = i :: above := by
  rw [path, h]

theorem path_of_ge {i : Nat} (h : f.levels.length ≤ i) : f.path i = [] := by
  unfold path
  rw [List.getElem?_eq_none h]

theorem mem_path_self {i : Nat} (bound : i < f.levels.length) : i ∈ f.path i := by
  rw [path_of_getElem? (List.getElem?_eq_getElem bound)]
  exact List.mem_cons_self

theorem length_setLevel (f : Forest) (j : Nat) (l : Level) :
    (f.setLevel j l).levels.length = f.levels.length :=
  List.length_modify ..

theorem setLevel_level (f : Forest) (j : Nat) : f.setLevel j (f.level j) = f := by
  have levels : (f.setLevel j (f.level j)).levels = f.levels := by
    refine List.ext_getElem? fun k => ?_
    rw [getElem?_setLevel]
    split
    · next h =>
      subst h
      cases hLevel : f.levels[j]? with
      | none => rfl
      | some entry => simp [level, level?, hLevel]
    · rfl
  exact congrArg Forest.mk levels

theorem foldl_setLevel_level (places : List Nat) :
    (places.zip (places.map f.level)).foldl (fun f p => f.setLevel p.1 p.2) f = f := by
  induction places with
  | nil => rfl
  | cons j rest ih =>
    rw [List.map_cons, List.zip_cons_cons, List.foldl_cons, setLevel_level, ih]

end

/-- Ancestors are the path of an earlier place, resolvers answer by the name alone, and entries are
where their names say. -/
structure Sound (f : Forest) : Prop where
  ancestors : ∀ i l above, f.levels[i]? = some (l, above) → above = [] ∨ ∃ p < i, above = f.path p
  resolver : ∀ i ask, (f.level i).resolver = some ask → ∃ r : Resolver, ask = r.provider
  named : ∀ i, (f.level i).Named

namespace Sound

variable {f : Forest}

theorem path_cases (sound : f.Sound) (i : Nat) :
    f.path i = [] ∨ i < f.levels.length ∧ (f.path i = [i] ∨ ∃ p < i, f.path i = i :: f.path p) := by
  by_cases bound : i < f.levels.length
  · have here : f.levels[i]? = some f.levels[i] := List.getElem?_eq_getElem bound
    have path := path_of_getElem? here
    obtain hNone | ⟨p, hp, hSome⟩ := sound.ancestors i _ _ here
    · exact .inr ⟨bound, .inl (by rw [path, hNone])⟩
    · exact .inr ⟨bound, .inr ⟨p, hp, by rw [path, hSome]⟩⟩
  · exact .inl (path_of_ge (Nat.le_of_not_lt bound))

theorem of_mem_path (sound : f.Sound) {i k : Nat} (h : k ∈ f.path i) :
    k ≤ i ∧ k < f.levels.length := by
  induction i using Nat.strongRecOn with
  | ind i ih =>
    obtain hPath | ⟨bound, hPath | ⟨p, hp, hPath⟩⟩ := sound.path_cases i
    · rw [hPath] at h
      cases h
    · rw [hPath, List.mem_singleton] at h
      omega
    · rw [hPath] at h
      obtain rfl | h := List.mem_cons.mp h
      · omega
      · have := ih p hp h
        omega

theorem path_nodup (sound : f.Sound) (i : Nat) : (f.path i).Nodup := by
  induction i using Nat.strongRecOn with
  | ind i ih =>
    obtain hPath | ⟨-, hPath | ⟨p, hp, hPath⟩⟩ := sound.path_cases i
    · simp [hPath]
    · simp [hPath]
    · rw [hPath]
      refine List.nodup_cons.mpr ⟨?_, ih p hp⟩
      intro h
      have := sound.of_mem_path h
      omega

theorem path_of_path_eq (sound : f.Sound) {i j : Nat} {nearer above : List Nat}
    (h : f.path i = nearer ++ j :: above) : f.path j = j :: above := by
  induction i using Nat.strongRecOn generalizing nearer with
  | ind i ih =>
    cases nearer with
    | nil =>
      have first : i = j := by
        obtain hPath | ⟨-, hPath | ⟨p, hp, hPath⟩⟩ := sound.path_cases i
        · rw [hPath] at h
          cases h
        · exact (List.cons.inj (hPath.symm.trans h)).1
        · exact (List.cons.inj (hPath.symm.trans h)).1
      exact first ▸ h
    | cons k nearer =>
      obtain hPath | ⟨-, hPath | ⟨p, hp, hPath⟩⟩ := sound.path_cases i
      · rw [hPath] at h
        cases h
      · have rest := (List.cons.inj (hPath.symm.trans h)).2
        simp at rest
      · exact ih p hp (List.cons.inj (hPath.symm.trans h)).2

theorem not_mem_of_path_eq (sound : f.Sound) {i j : Nat} {nearer above : List Nat}
    (h : f.path i = nearer ++ j :: above) : j ∉ nearer ∧ j ∉ above := by
  have nodup := sound.path_nodup i
  rw [h] at nodup
  obtain ⟨-, hAbove, apart⟩ := List.nodup_append.mp nodup
  constructor
  · intro hNearer
    exact apart j hNearer j List.mem_cons_self rfl
  · exact (List.nodup_cons.mp hAbove).1

theorem registry_eq (sound : f.Sound) (i : Nat) : f.registry i = (f.path i).map f.level := by
  have present : ∀ k ∈ f.path i, f.level? k = some (f.level k) := by
    intro k hk
    rw [level, level?, List.getElem?_eq_getElem (sound.of_mem_path hk).2]
    rfl
  rw [registry, List.filterMap_congr present, List.filterMap_eq_map']

theorem write_eq (sound : f.Sound) {i j : Nat} {nearer above : List Nat} (l : Level)
    (h : f.path i = nearer ++ j :: above) :
    f.write i (nearer.map f.level ++ l :: above.map f.level) = f.setLevel j l := by
  have above_eq : above.map f.level = above.map (f.setLevel j l).level := by
    refine List.map_congr_left fun k hk => (level_setLevel_of_ne ?_ l).symm
    rintro rfl
    exact (sound.not_mem_of_path_eq h).2 hk
  unfold write
  rw [h, List.zip_append (List.length_map _).symm, List.foldl_append, foldl_setLevel_level,
    List.zip_cons_cons, List.foldl_cons, above_eq, foldl_setLevel_level]

theorem write_registry (sound : f.Sound) (i : Nat) : f.write i (f.registry i) = f := by
  rw [sound.registry_eq]
  exact foldl_setLevel_level _

theorem path_eq_cons (sound : f.Sound) (i : Nat) :
    f.path i = [] ∨ i < f.levels.length ∧ ∃ above, f.path i = i :: above := by
  obtain hPath | ⟨bound, hPath | ⟨p, -, hPath⟩⟩ := sound.path_cases i
  · exact .inl hPath
  · exact .inr ⟨bound, [], hPath⟩
  · exact .inr ⟨bound, f.path p, hPath⟩

theorem store (sound : f.Sound) (j : Nat) (name : Name) (c : Callback) :
    (f.setLevel j ((f.level j).store name c)).Sound := by
  refine ⟨?_, ?_, ?_⟩
  · intro i l above hLevel
    have before : ∃ m, f.levels[i]? = some (m, above) := by
      rw [getElem?_setLevel] at hLevel
      split at hLevel
      · obtain ⟨entry, hEntry, hSame⟩ := Option.map_eq_some_iff.mp hLevel
        exact ⟨entry.1, hEntry.trans (congrArg some (Prod.ext rfl (Prod.mk.inj hSame).2))⟩
      · exact ⟨l, hLevel⟩
    obtain ⟨m, hBefore⟩ := before
    obtain rfl | ⟨p, hp, rfl⟩ := sound.ancestors i m above hBefore
    · exact .inl rfl
    · exact .inr ⟨p, hp, (path_setLevel ..).symm⟩
  · intro i ask hAsk
    refine sound.resolver i ask ?_
    obtain ⟨rfl, hLevel⟩ | hLevel := level_setLevel_cases f j ((f.level j).store name c) i
    · rwa [hLevel] at hAsk
    · rwa [hLevel] at hAsk
  · intro i
    obtain ⟨rfl, hLevel⟩ | hLevel := level_setLevel_cases f j ((f.level j).store name c) i
    · rw [hLevel]
      exact (sound.named j).store name c
    · rw [hLevel]
      exact sound.named i

theorem grow (sound : f.Sound) (parent : Option Nat) {l : Level} (named : l.Named)
    (resolver : ∀ ask, l.resolver = some ask → ∃ r : Resolver, ask = r.provider) :
    (f.grow l parent).2.Sound := by
  refine ⟨?_, ?_, ?_⟩
  · intro i m above hLevel
    by_cases old : i < f.levels.length
    · rw [getElem?_grow_of_lt old] at hLevel
      obtain rfl | ⟨p, hp, rfl⟩ := sound.ancestors i m above hLevel
      · exact .inl rfl
      · exact .inr ⟨p, hp, (path_grow_of_lt (Nat.lt_trans hp old) l parent).symm⟩
    · have bound : i < (f.grow l parent).2.levels.length := (List.getElem?_eq_some_iff.mp hLevel).1
      obtain rfl : i = f.levels.length := by
        simp only [Forest.grow, List.length_append, List.length_singleton] at bound
        omega
      rw [getElem?_grow_self] at hLevel
      obtain ⟨rfl, rfl⟩ := Prod.mk.inj (Option.some.inj hLevel)
      cases parent with
      | none => exact .inl rfl
      | some p =>
        by_cases known : p < f.levels.length
        · exact .inr ⟨p, known, (path_grow_of_lt known l (some p)).symm⟩
        · exact .inl (path_of_ge (Nat.le_of_not_lt known))
  · intro i ask hAsk
    obtain hLevel | ⟨-, hLevel⟩ := level_grow_cases f l parent i
    · rw [hLevel] at hAsk
      exact sound.resolver i ask hAsk
    · rw [hLevel] at hAsk
      exact resolver ask hAsk
  · intro i
    obtain hLevel | ⟨-, hLevel⟩ := level_grow_cases f l parent i
    · rw [hLevel]
      exact sound.named i
    · rw [hLevel]
      exact named

end Sound

theorem sound_empty : Sound {} := by
  refine ⟨?_, ?_, ?_⟩
  · intro i l above hLevel
    cases hLevel
  · intro i ask hAsk
    cases hAsk
  · intro i e he
    cases he

end Forest
end Colloquy

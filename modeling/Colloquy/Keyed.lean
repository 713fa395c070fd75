/-! # Keyed entries in order

Entries under distinct keys, in the order in which the keys were first used. Writing to a key that
is present changes its entry where it stands.
-/
set_option autoImplicit false

namespace Colloquy

abbrev Keyed (κ α : Type) := List (κ × α)

namespace Keyed

variable {κ α : Type} [DecidableEq κ]

def get? (key : κ) : Keyed κ α → Option α
  | [] => none
  | (k, a) :: rest => if k = key then some a else get? key rest

def insert (key : κ) (a : α) : Keyed κ α → Keyed κ α
  | [] => [(key, a)]
  | (k, b) :: rest => if k = key then (k, a) :: rest else (k, b) :: insert key a rest

/-- Of several entries under one key the last counts, at the place of the first. -/
def ofList (entries : List (κ × α)) : Keyed κ α :=
  entries.foldl (fun ks p => insert p.1 p.2 ks) []

def keys (ks : Keyed κ α) : List κ :=
  ks.map Prod.fst

@[simp] theorem get?_insert_self (key : κ) (a : α) (ks : Keyed κ α) :
    get? key (insert key a ks) = some a := by
  induction ks with
  | nil => simp [insert, get?]
  | cons p rest ih =>
    obtain ⟨k, b⟩ := p
    by_cases h : k = key <;> simp [insert, get?, h, ih]

theorem get?_insert_of_ne {key other : κ} (h : key ≠ other) (a : α) (ks : Keyed κ α) :
    get? other (insert key a ks) = get? other ks := by
  induction ks with
  | nil => simp [insert, get?, h]
  | cons p rest ih =>
    obtain ⟨k, b⟩ := p
    by_cases hk : k = key
    · subst hk
      simp [insert, get?, h]
    · simp [insert, get?, hk, ih]

theorem get?_insert (key other : κ) (a : α) (ks : Keyed κ α) :
    get? other (insert key a ks) = if key = other then some a else get? other ks := by
  by_cases h : key = other
  · subst h
    simp
  · simp [h, get?_insert_of_ne h]

theorem insert_of_get?_eq_none {key : κ} {ks : Keyed κ α} (h : get? key ks = none) (a : α) :
    insert key a ks = ks ++ [(key, a)] := by
  induction ks with
  | nil => rfl
  | cons p rest ih =>
    obtain ⟨k, b⟩ := p
    by_cases hk : k = key
    · simp [get?, hk] at h
    · rw [get?, if_neg hk] at h
      rw [insert, if_neg hk, ih h]
      rfl

theorem mem_of_mem_insert {key : κ} {a : α} {ks : Keyed κ α} {e : κ × α} (h : e ∈ insert key a ks) :
    e ∈ ks ∨ e = (key, a) := by
  induction ks with
  | nil => exact .inr (List.mem_singleton.mp h)
  | cons p rest ih =>
    obtain ⟨k, b⟩ := p
    by_cases hk : k = key
    · rw [insert, if_pos hk] at h
      obtain rfl | h := List.mem_cons.mp h
      · exact .inr (by rw [hk])
      · exact .inl (List.mem_cons_of_mem _ h)
    · rw [insert, if_neg hk] at h
      obtain rfl | h := List.mem_cons.mp h
      · exact .inl List.mem_cons_self
      · exact (ih h).imp_left (List.mem_cons_of_mem _)

theorem mem_of_get? {key : κ} {a : α} {ks : Keyed κ α} (h : get? key ks = some a) : (key, a) ∈ ks := by
  induction ks with
  | nil => cases h
  | cons p rest ih =>
    obtain ⟨k, b⟩ := p
    by_cases hk : k = key
    · rw [get?, if_pos hk] at h
      obtain rfl := Option.some.inj h
      exact hk ▸ List.mem_cons_self
    · rw [get?, if_neg hk] at h
      exact List.mem_cons_of_mem _ (ih h)

theorem ne_of_get?_eq_none {key : κ} {ks : Keyed κ α} (h : get? key ks = none) :
    ∀ e ∈ ks, e.1 ≠ key := by
  induction ks with
  | nil => simp
  | cons p rest ih =>
    obtain ⟨k, b⟩ := p
    by_cases hk : k = key
    · simp [get?, hk] at h
    · rw [get?, if_neg hk] at h
      exact List.forall_mem_cons.mpr ⟨hk, ih h⟩

theorem get?_eq_none_of_not_mem {key : κ} {ks : Keyed κ α} (h : key ∉ keys ks) : get? key ks = none := by
  cases found : get? key ks with
  | none => rfl
  | some a => exact absurd (List.mem_map_of_mem (f := Prod.fst) (mem_of_get? found)) h

theorem get?_map_values {β : Type} (change : κ → α → β) (key : κ) (ks : Keyed κ α) :
    get? key (ks.map fun e => (e.1, change e.1 e.2)) = (get? key ks).map (change key) := by
  induction ks with
  | nil => rfl
  | cons e rest ih =>
    obtain ⟨k, a⟩ := e
    by_cases h : k = key
    · subst h
      simp [get?]
    · simpa [get?, h] using ih

theorem foldl_insert_of_nodup {before entries : List (κ × α)}
    (distinct : (keys (before ++ entries)).Nodup) :
    entries.foldl (fun ks p => insert p.1 p.2 ks) before = before ++ entries := by
  induction entries generalizing before with
  | nil => simp
  | cons p rest ih =>
    have fresh : p.1 ∉ keys before := by
      intro present
      simp only [keys, List.map_append, List.map_cons] at distinct present
      exact (List.nodup_append.mp distinct).2.2 _ present _ List.mem_cons_self rfl
    have added : insert p.1 p.2 before = before ++ [p] :=
      insert_of_get?_eq_none (get?_eq_none_of_not_mem fresh) p.2
    rw [List.foldl_cons, added, ih (by simpa using distinct), List.append_assoc, List.singleton_append]

theorem ofList_of_nodup {entries : List (κ × α)} (distinct : (keys entries).Nodup) :
    ofList entries = entries :=
  foldl_insert_of_nodup distinct

end Keyed
end Colloquy

import Colloquy.Options
import Colloquy.Proofs.Outcome

/-! # Lists of names

What becomes of values that serve as names, and of names that are gathered from several places: each is
kept where it comes first, and names that are put in order are the same names.
-/
set_option autoImplicit false

namespace Colloquy.Name

theorem shown_of_ofValue {v : Value} {name : Name} (named : ofValue v = .ok name) : name.shown = v := by
  unfold ofValue ofValue? at named
  split at named
  · next found hFound =>
    obtain rfl := Except.ok.inj named
    split at hFound
    · obtain rfl := Option.some.inj hFound
      rfl
    · cases hFound
  · cases named

theorem key_of_ofValue {v : Value} {name : Name} (named : ofValue v = .ok name) :
    v.key? = some name.key :=
  shown_of_ofValue named ▸ name.isKey

theorem ofValue_of_key {v : Value} {key : Key} (h : v.key? = some key) :
    ∃ name, ofValue v = .ok name := by
  unfold ofValue ofValue?
  split
  · exact ⟨_, rfl⟩
  · next hNone =>
    split at hNone
    · cases hNone
    · next hKey => rw [h] at hKey; cases hKey

theorem pairwise_distinct (names : List Name) :
    (distinct names).Pairwise fun m n => m.key ≠ n.key := by
  induction names with
  | nil => exact .nil
  | cons n rest ih =>
    refine .cons ?_ (ih.sublist List.filter_sublist)
    intro m hm
    have hKey := (List.mem_filter.mp hm).2
    simp only [ne_eq, decide_eq_true_eq] at hKey
    exact fun h => hKey h.symm

theorem distinct_of_pairwise {names : List Name}
    (apart : names.Pairwise fun m n => m.key ≠ n.key) : distinct names = names := by
  induction names with
  | nil => rfl
  | cons n rest ih =>
    obtain ⟨hName, hRest⟩ := List.pairwise_cons.mp apart
    rw [distinct, ih hRest, List.filter_eq_self.mpr]
    intro m hm
    simpa using fun h : m.key = n.key => hName m hm h.symm

theorem mem_keys_distinct (names : List Name) (key : Key) :
    key ∈ (distinct names).map Name.key ↔ key ∈ names.map Name.key := by
  induction names with
  | nil => rfl
  | cons n rest ih =>
    by_cases h : key = n.key
    · simp [distinct, h]
    · have others : key ∈ ((distinct rest).filter fun m => m.key ≠ n.key).map Name.key ↔
          key ∈ (distinct rest).map Name.key := by
        simp only [List.mem_map, List.mem_filter, ne_eq, decide_eq_true_eq]
        constructor
        · rintro ⟨m, ⟨hm, -⟩, hKey⟩
          exact ⟨m, hm, hKey⟩
        · rintro ⟨m, hm, rfl⟩
          exact ⟨m, ⟨hm, h⟩, rfl⟩
      rw [distinct, List.map_cons, List.mem_cons, others, ih, List.map_cons, List.mem_cons]

theorem distinct_append (as bs : List Name) :
    distinct (as ++ bs) =
      distinct as ++ (distinct bs).filter fun n => n.key ∉ as.map Name.key := by
  induction as with
  | nil =>
    have all : (distinct bs).filter (fun n => n.key ∉ ([] : List Name).map Name.key) = distinct bs :=
      List.filter_eq_self.mpr fun n _ => by simp
    exact all.symm
  | cons a rest ih =>
    simp only [List.cons_append, distinct, ih, List.filter_append, List.filter_filter]
    congr 2
    apply List.filter_congr
    intro n _
    simp [not_or]

theorem distinct_append_distinct (as bs : List Name) :
    distinct (distinct as ++ distinct bs) = distinct (as ++ bs) := by
  rw [distinct_append, distinct_append, distinct_of_pairwise (pairwise_distinct as),
    distinct_of_pairwise (pairwise_distinct bs)]
  congr 1
  apply List.filter_congr
  intro n _
  simp only [mem_keys_distinct]

theorem distinct_sublist {n : Name} {behind : List Name} (new : n.key ∉ behind.map Name.key)
    (before : List Name) : (distinct (before ++ behind)).Sublist (distinct (before ++ n :: behind)) := by
  have others : (distinct behind).filter (fun m => m.key ≠ n.key) = distinct behind := by
    rw [List.filter_eq_self]
    intro m hm
    have hKey : m.key ∈ behind.map Name.key :=
      (mem_keys_distinct behind m.key).mp (List.mem_map_of_mem hm)
    rw [decide_eq_true_eq]
    intro hSame
    exact new (hSame ▸ hKey)
  rw [distinct_append, distinct_append, distinct, others]
  exact ((List.sublist_cons_self n _).filter _).append_left _

theorem perm_of_insertOrdered {n : Name} {names sorted : List Name}
    (h : insertOrdered n names = .ok sorted) : sorted.Perm (n :: names) := by
  induction names generalizing sorted with
  | nil =>
    obtain rfl : [n] = sorted := Except.ok.inj h
    exact .refl _
  | cons m rest ih =>
    rw [insertOrdered] at h
    obtain ⟨less, -, h⟩ := ok_of_bind h
    cases less with
    | true =>
      obtain rfl : n :: m :: rest = sorted := Except.ok.inj h
      exact .refl _
    | false =>
      obtain ⟨below, hRest, h⟩ := ok_of_bind h
      obtain rfl : m :: below = sorted := Except.ok.inj h
      exact ((ih hRest).cons m).trans (.swap n m rest)

theorem perm_of_foldlM_insertOrdered {names before sorted : List Name}
    (h : names.foldlM (fun sorted n => insertOrdered n sorted) before = .ok sorted) :
    sorted.Perm (before ++ names) := by
  induction names generalizing before with
  | nil =>
    obtain rfl : before = sorted := Except.ok.inj h
    simp
  | cons n rest ih =>
    rw [List.foldlM_cons] at h
    obtain ⟨middle, hFirst, hRest⟩ := ok_of_bind h
    have moved : (middle ++ rest).Perm (n :: before ++ rest) :=
      (perm_of_insertOrdered hFirst).append_right rest
    exact ((ih hRest).trans moved).trans List.perm_middle.symm

/-- `sorted` are the names in order, as far as they have one. -/
structure Sorted (names sorted : List Name) : Prop where
  ordered : Name.ordered names = .ok sorted
  perm : sorted.Perm names
  increasing : (∀ n ∈ names, n.isText = true) → sorted.Pairwise fun m n => m.text ≤ n.text

theorem sorted_of_ordered {names sorted : List Name} (h : Name.ordered names = .ok sorted) :
    Sorted names sorted := by
  refine ⟨h, ?_, ?_⟩
  · unfold Name.ordered at h
    split at h
    · obtain rfl := Except.ok.inj h
      exact List.mergeSort_perm _ _
    · simpa using perm_of_foldlM_insertOrdered h
  · intro hText
    rw [Name.ordered, if_pos (List.all_eq_true.mpr hText)] at h
    obtain rfl := Except.ok.inj h
    have increasing : (names.mergeSort fun m n => decide (m.text ≤ n.text)).Pairwise
        fun m n => decide (m.text ≤ n.text) = true := by
      apply List.pairwise_mergeSort
      · intro a b c hab hbc
        exact decide_eq_true (String.le_trans (of_decide_eq_true hab) (of_decide_eq_true hbc))
      · intro a b
        simpa using String.le_total a.text b.text
    simpa using increasing

/-! ## Names that are texts -/

theorem ofText_injective {s t : String} (h : ofText s = ofText t) : s = t :=
  Key.text.inj (congrArg key h)

theorem eq_ofText {n : Name} (text : n.isText = true) : ∃ t, n = ofText t := by
  obtain ⟨shown, key, isKey⟩ := n
  cases shown with
  | str t =>
    obtain rfl := Option.some.inj isKey
    exact ⟨t, rfl⟩
  | _ => cases text

theorem eq_map_ofText {names : List Name} (texts : ∀ n ∈ names, n.isText = true) :
    ∃ ts : List String, names = ts.map ofText := by
  induction names with
  | nil => exact ⟨[], rfl⟩
  | cons n rest ih =>
    obtain ⟨hFirst, hRest⟩ := List.forall_mem_cons.mp texts
    obtain ⟨t, rfl⟩ := eq_ofText hFirst
    obtain ⟨ts, rfl⟩ := ih hRest
    exact ⟨t :: ts, rfl⟩

theorem mem_of_mem_distinct {n : Name} {names : List Name} (h : n ∈ distinct names) : n ∈ names := by
  induction names with
  | nil => exact h
  | cons m rest ih =>
    obtain rfl | h := List.mem_cons.mp h
    · exact List.mem_cons_self
    · exact List.mem_cons_of_mem _ (ih (List.mem_filter.mp h).1)

theorem mem_distinct_texts (t : String) (ts : List String) :
    ofText t ∈ distinct (ts.map ofText) ↔ t ∈ ts := by
  constructor
  · intro h
    obtain ⟨s, hs, same⟩ := List.mem_map.mp (mem_of_mem_distinct h)
    exact ofText_injective same ▸ hs
  · intro h
    have hKey : (ofText t).key ∈ (distinct (ts.map ofText)).map key :=
      (mem_keys_distinct _ _).mpr (List.mem_map_of_mem (List.mem_map_of_mem h))
    obtain ⟨n, hn, same⟩ := List.mem_map.mp hKey
    obtain ⟨s, -, rfl⟩ := List.mem_map.mp (mem_of_mem_distinct hn)
    exact Key.text.inj same ▸ hn

theorem ordered_texts {names : List Name} (texts : ∀ n ∈ names, n.isText = true)
    (apart : names.Pairwise fun m n => m.key ≠ n.key) :
    ∃ sorted : List String, ordered names = .ok (sorted.map ofText) ∧
      sorted.Pairwise (· < ·) ∧ ∀ t, t ∈ sorted ↔ ofText t ∈ names := by
  obtain ⟨there, hOrdered⟩ : ∃ there, ordered names = .ok there :=
    ⟨_, if_pos (List.all_eq_true.mpr texts)⟩
  have sorted := sorted_of_ordered hOrdered
  obtain ⟨ts, rfl⟩ := eq_map_ofText fun n hn => texts n (sorted.perm.mem_iff.mp hn)
  refine ⟨ts, hOrdered, ?_, ?_⟩
  · have le : (ts.map ofText).Pairwise fun m n => m.text ≤ n.text := sorted.increasing texts
    have ne : (ts.map ofText).Pairwise fun m n => m.key ≠ n.key :=
      (sorted.perm.pairwise_iff fun h => h.symm).mpr apart
    rw [List.pairwise_map] at le ne
    refine (le.and ne).imp ?_
    rintro s t ⟨hLe, hNe⟩
    exact Std.lt_of_le_of_ne hLe fun same => hNe (congrArg Key.text same)
  · intro t
    rw [← sorted.perm.mem_iff]
    exact (List.mem_map_of_injective fun _ _ => ofText_injective).symm

end Colloquy.Name

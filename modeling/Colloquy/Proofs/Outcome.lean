import Mathlib.Data.List.Forall2

/-! # Series of steps

A series of steps gives a result only where every step does; these lemmas take such a result apart.
What each member of a series hands on to the next holds of all of them.
-/
set_option autoImplicit false

namespace Colloquy

variable {ε α β : Type}

theorem ok_bind (a : α) (k : α → Except ε β) : (.ok a : Except ε α) >>= k = k a := rfl

theorem error_bind (e : ε) (k : α → Except ε β) : (.error e : Except ε α) >>= k = .error e := rfl

theorem ok_of_bind {x : Except ε α} {k : α → Except ε β} {b : β} (h : x >>= k = .ok b) :
    ∃ a, x = .ok a ∧ k a = .ok b := by
  cases x with
  | error e => cases h
  | ok a => exact ⟨a, rfl, h⟩

theorem error_of_bind {x : Except ε α} {k : α → Except ε β} {e : ε} (h : x >>= k = .error e) :
    x = .error e ∨ ∃ a, x = .ok a ∧ k a = .error e := by
  cases x with
  | error d => exact .inl (congrArg Except.error (Except.error.inj h))
  | ok a => exact .inr ⟨a, rfl, h⟩

theorem ok_of_map {x : Except ε α} {g : α → β} {b : β} (h : x.map g = .ok b) :
    ∃ a, x = .ok a ∧ b = g a := by
  cases x with
  | error e => cases h
  | ok a => exact ⟨a, rfl, (Except.ok.inj h).symm⟩

theorem error_of_map {x : Except ε α} {g : α → β} {e : ε} (h : x.map g = .error e) :
    x = .error e := by
  cases x with
  | error d => exact congrArg Except.error (Except.error.inj h)
  | ok a => cases h

theorem bind_congr_of_ok {x : Except ε α} {f g : α → Except ε β} (h : ∀ a, x = .ok a → f a = g a) :
    x >>= f = x >>= g := by
  cases x with
  | error e => rfl
  | ok a => exact h a rfl

theorem mapM_congr_of_mem {f g : α → Except ε β} {xs : List α} (h : ∀ x ∈ xs, f x = g x) :
    xs.mapM f = xs.mapM g := by
  induction xs with
  | nil => rfl
  | cons x xs ih =>
    rw [List.mapM_cons, List.mapM_cons, h x List.mem_cons_self,
      ih fun y hy => h y (List.mem_cons_of_mem _ hy)]

theorem forall₂_of_mapM {f : α → Except ε β} {xs : List α} {ys : List β}
    (h : xs.mapM f = .ok ys) : List.Forall₂ (fun x y => f x = .ok y) xs ys := by
  induction xs generalizing ys with
  | nil =>
    obtain rfl : [] = ys := Except.ok.inj h
    exact .nil
  | cons x xs ih =>
    rw [List.mapM_cons] at h
    obtain ⟨y, hFirst, h⟩ := ok_of_bind h
    obtain ⟨rest, hRest, h⟩ := ok_of_bind h
    obtain rfl : y :: rest = ys := Except.ok.inj h
    exact .cons hFirst (ih hRest)

theorem error_of_mapM {f : α → Except ε β} {xs : List α} {e : ε} (h : xs.mapM f = .error e) :
    ∃ x ∈ xs, f x = .error e := by
  induction xs with
  | nil => cases h
  | cons x xs ih =>
    rw [List.mapM_cons] at h
    obtain hFirst | ⟨y, -, h⟩ := error_of_bind h
    · exact ⟨x, List.mem_cons_self, hFirst⟩
    · obtain hRest | ⟨ys, -, h⟩ := error_of_bind h
      · obtain ⟨w, hw, failed⟩ := ih hRest
        exact ⟨w, List.mem_cons_of_mem _ hw, failed⟩
      · cases h

theorem exists_of_mem_mapM {f : α → Except ε β} {xs : List α} {ys : List β} (h : xs.mapM f = .ok ys)
    {y : β} (mem : y ∈ ys) : ∃ x ∈ xs, f x = .ok y := by
  have pairs := forall₂_of_mapM h
  clear h
  induction pairs with
  | nil => cases mem
  | @cons x z xs ys hFirst later ih =>
    obtain rfl | mem := List.mem_cons.mp mem
    · exact ⟨x, List.mem_cons_self, hFirst⟩
    · obtain ⟨w, hw, hGives⟩ := ih mem
      exact ⟨w, List.mem_cons_of_mem _ hw, hGives⟩

theorem mapM_map_eq {γ δ : Type} {f : α → Except ε β} {g : γ → Except ε δ} {rename : α → γ} {k : β → δ}
    {xs : List α} (each : ∀ x ∈ xs, g (rename x) = (f x).map k) :
    (xs.map rename).mapM g = (xs.mapM f).map (List.map k) := by
  induction xs with
  | nil => rfl
  | cons x rest ih =>
    have later := ih fun y hy => each y (List.mem_cons_of_mem _ hy)
    rw [List.map_cons, List.mapM_cons, List.mapM_cons, each x List.mem_cons_self, later]
    cases f x with
    | error e => rfl
    | ok b => cases rest.mapM f <;> rfl

theorem mapM_map_of_each {encode : α → β} {decode : β → Except ε α} {items : List α}
    (each : ∀ a ∈ items, decode (encode a) = .ok a) : (items.map encode).mapM decode = .ok items := by
  have kept : items.mapM Except.ok = (.ok items : Except ε (List α)) := by
    refine (List.mapM_pure (f := id)).trans ?_
    rw [List.map_id]
    rfl
  rw [mapM_map_eq (f := Except.ok) (k := id) each, kept, Except.map, List.map_id]

theorem of_getElem?_of_next {xs : List α} {P : Nat → α → Prop}
    (first : ∀ x, xs[0]? = some x → P 0 x)
    (next : ∀ j x y, xs[j]? = some x → xs[j + 1]? = some y → P j x → P (j + 1) y) {j : Nat} {x : α}
    (hx : xs[j]? = some x) : P j x := by
  induction j generalizing x with
  | zero => exact first x hx
  | succ j ih =>
    obtain ⟨hLength, -⟩ := List.getElem?_eq_some_iff.mp hx
    have hBefore : xs[j]? = some xs[j] := List.getElem?_eq_getElem (Nat.lt_of_succ_lt hLength)
    exact next j _ x hBefore hx (ih hBefore)

end Colloquy

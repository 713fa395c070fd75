import Colloquy.Proofs.Decoding.Json

/-! # Texts that keep to the limits

A text goes beyond a limit only where too many digits stand in a row or too many brackets are opened. In
what a reader leaves there are never more of either, for it is an end of what the reader was given.
-/
set_option autoImplicit false

namespace Colloquy.Json

def opensBracket (c : Char) : Bool :=
  c = '[' || c = '\x7b'

/-- No more digits stand in a row than an integer may have, and no more brackets are opened than there is
room for. -/
structure Modest (room : Nat) (cs : List Char) : Prop where
  digits : ∀ run, run <:+: cs → (∀ c ∈ run, c.isDigit = true) → run.length ≤ Whole.maxDigits
  brackets : cs.countP opensBracket ≤ room

namespace Modest

variable {room : Nat} {cs rest : List Char} {c : Char}

theorem suffix (h : Modest room cs) (left : rest <:+ cs) : Modest room rest where
  digits run isInfix := h.digits run (isInfix.trans left.isInfix)
  brackets := Nat.le_trans left.sublist.countP_le h.brackets

theorem not_zero (h : Modest 0 (c :: cs)) (opens : opensBracket c = true) : False := by
  have none := h.brackets
  rw [List.countP_cons_of_pos opens] at none
  exact Nat.not_succ_le_zero _ none

theorem behind (h : Modest (room + 1) (c :: cs)) (opens : opensBracket c = true) : Modest room cs where
  digits := (h.suffix (List.suffix_cons c cs)).digits
  brackets := by
    have most := h.brackets
    rw [List.countP_cons_of_pos opens] at most
    exact Nat.le_of_succ_le_succ most

end Modest

/-- What is left is an end of what was given, and a fault shows no excess where there is none. -/
def Keeps {α : Type} (room : Nat) (cs : List Char) : Except Flaw (α × List Char) → Prop
  | .ok (_, rest) => rest <:+ cs
  | .error flaw => Modest room cs → flaw = .malformed

namespace Keeps

variable {α β : Type} {room : Nat} {cs rest : List Char} {o : Except Flaw (α × List Char)}

theorem malformed : Keeps room cs (.error .malformed : Except Flaw (α × List Char)) :=
  fun _ => rfl

theorem map (h : Keeps room cs o) (f : α → β) :
    Keeps room cs (o.map fun (a, rest) => (f a, rest)) := by
  cases o with
  | error flaw => exact h
  | ok read => exact h

theorem of_suffix (h : Keeps room rest o) (left : rest <:+ cs) : Keeps room cs o := by
  cases o with
  | error flaw => exact fun modest => h (modest.suffix left)
  | ok read => exact h.trans left

theorem behind {c : Char} (h : Keeps room cs o) (opens : opensBracket c = true) :
    Keeps (room + 1) (c :: cs) o := by
  cases o with
  | error flaw => exact fun modest => h (modest.behind opens)
  | ok read => exact h.trans (List.suffix_cons c cs)

end Keeps

theorem skipSpace_suffix (cs : List Char) : skipSpace cs <:+ cs :=
  List.dropWhile_suffix _

theorem suffix_of_skipSpace {cs rest : List Char} {c : Char} (h : skipSpace cs = c :: rest) :
    rest <:+ cs :=
  (List.suffix_cons c rest).trans (h ▸ skipSpace_suffix cs)

theorem tail_of_map {c : Char} {o : Option (List Char × List Char)} {s rest : List Char}
    (h : o.map (fun (s, r) => (c :: s, r)) = some (s, rest)) : ∃ t, o = some (t, rest) := by
  obtain ⟨⟨t, r⟩, hTail, same⟩ := Option.map_eq_some_iff.mp h
  cases same
  exact ⟨t, hTail⟩

theorem suffix_of_stringTail? {cs s rest : List Char} (h : stringTail? cs = some (s, rest)) :
    rest <:+ cs := by
  fun_induction stringTail? cs generalizing s rest with
  | case1 | case5 | case7 | case9 | case10 => cases h
  | case2 =>
    cases h
    exact List.suffix_cons _ _
  | case3 a b c d a' b' c' d' more u v _ _ _ ih =>
    obtain ⟨t, hTail⟩ := tail_of_map h
    exact (ih hTail).trans ⟨['\\', 'u', a, b, c, d, '\\', 'u', a', b', c', d'], rfl⟩
  | case4 a b c d a' b' c' d' more u v _ _ _ ih =>
    obtain ⟨t, hTail⟩ := tail_of_map h
    exact (ih hTail).trans ⟨['\\', 'u', a, b, c, d], rfl⟩
  | case6 a b c d more _ u _ ih =>
    obtain ⟨t, hTail⟩ := tail_of_map h
    exact (ih hTail).trans ⟨['\\', 'u', a, b, c, d], rfl⟩
  | case8 c more _ _ e _ ih =>
    obtain ⟨t, hTail⟩ := tail_of_map h
    exact (ih hTail).trans ⟨['\\', c], rfl⟩
  | case11 c more _ _ _ _ _ ih =>
    obtain ⟨t, hTail⟩ := tail_of_map h
    exact (ih hTail).trans (List.suffix_cons c more)

theorem wholePart_suffix (cs : List Char) : (wholePart cs).2 <:+ cs := by
  unfold wholePart
  split
  · exact List.suffix_cons _ _
  · exact List.dropWhile_suffix _

theorem wholePart_begins (cs : List Char) : (wholePart cs).1 <+: cs := by
  unfold wholePart
  split
  · exact ⟨_, rfl⟩
  · exact List.takeWhile_prefix _

theorem fractionPart_suffix (cs : List Char) : (fractionPart cs).2 <:+ cs := by
  unfold fractionPart
  split
  · next rest =>
    split
    · exact List.suffix_refl _
    · exact (List.dropWhile_suffix _).trans (List.suffix_cons _ _)
  · exact List.suffix_refl _

theorem suffix_of_spanDigits {cs digits rest : List Char} (h : spanDigits cs = (digits, rest)) :
    rest <:+ cs := by
  obtain ⟨-, rfl⟩ := Prod.mk.inj h
  exact List.dropWhile_suffix _

theorem exponentPart_suffix (cs : List Char) : (exponentPart cs).2 <:+ cs := by
  unfold exponentPart
  split
  · next e rest =>
    split
    · simp only
      split
      · exact List.suffix_refl _
      · next ds r _ hSpan =>
        have left := suffix_of_spanDigits hSpan
        split at left
        · exact (left.trans (List.suffix_cons _ _)).trans (List.suffix_cons _ _)
        · exact (left.trans (List.suffix_cons _ _)).trans (List.suffix_cons _ _)
        · exact left.trans (List.suffix_cons _ _)
    · exact List.suffix_refl _
  · exact List.suffix_refl _

theorem keeps_integer {room : Nat} {cs : List Char} (negative : Bool) {digits rest : List Char}
    (all : ∀ c ∈ digits, c.isDigit = true) (run : digits <:+: cs) (left : rest <:+ cs) :
    Keeps room cs ((integer negative digits).map fun v => (v, rest)) := by
  unfold integer
  split
  · next long => exact fun modest => absurd (modest.digits digits run all) (Nat.not_le.mpr long)
  · exact left

theorem keeps_magnitude (negative : Bool) (room : Nat) (cs : List Char) :
    Keeps room cs (magnitude negative cs) := by
  have left : (exponentPart (fractionPart (wholePart cs).2).2).2 <:+ cs :=
    ((exponentPart_suffix _).trans (fractionPart_suffix _)).trans (wholePart_suffix cs)
  simp only [magnitude]
  split
  · exact .malformed
  · split
    · exact keeps_integer negative (fun c => isDigit_of_mem_wholePart) (wholePart_begins cs).isInfix left
    · exact left

theorem keeps_number (room : Nat) (cs : List Char) : Keeps room cs (number cs) := by
  unfold number
  split
  · exact ⟨['N', 'a', 'N'], rfl⟩
  · exact ⟨['I', 'n', 'f', 'i', 'n', 'i', 't', 'y'], rfl⟩
  · exact ⟨['-', 'I', 'n', 'f', 'i', 'n', 'i', 't', 'y'], rfl⟩
  · exact (keeps_magnitude true room _).of_suffix (List.suffix_cons _ _)
  · exact keeps_magnitude false room cs

structure AllKeep (fuel : Nat) : Prop where
  value : ∀ room cs, Keeps room cs (value fuel room cs)
  items : ∀ room cs, Keeps room cs (items fuel room cs)
  members : ∀ room cs, Keeps room cs (members fuel room cs)

theorem AllKeep.value_succ {fuel : Nat} (ih : AllKeep fuel) (room : Nat) (cs : List Char) :
    Keeps room cs (Json.value (fuel + 1) room cs) := by
  unfold Json.value
  split
  · split
    · exact .malformed
    · next hTail => exact (suffix_of_stringTail? hTail).trans (List.suffix_cons _ _)
  · split
    · exact fun modest => (modest.not_zero rfl).elim
    · split
      · next hSpace => exact (suffix_of_skipSpace hSpace).trans (List.suffix_cons _ _)
      · have bracket : opensBracket '[' = true := rfl
        refine Keeps.map (Keeps.behind ?_ bracket) Value.list
        exact (ih.items _ _).of_suffix (skipSpace_suffix _)
  · split
    · exact fun modest => (modest.not_zero rfl).elim
    · split
      · next hSpace => exact (suffix_of_skipSpace hSpace).trans (List.suffix_cons _ _)
      · have brace : opensBracket '\x7b' = true := rfl
        refine Keeps.map (Keeps.behind ?_ brace) fun ms => Value.object (Keyed.ofList ms)
        exact (ih.members _ _).of_suffix (skipSpace_suffix _)
  · exact ⟨['n', 'u', 'l', 'l'], rfl⟩
  · exact ⟨['t', 'r', 'u', 'e'], rfl⟩
  · exact ⟨['f', 'a', 'l', 's', 'e'], rfl⟩
  · exact keeps_number room cs

theorem AllKeep.items_succ {fuel : Nat} (ih : AllKeep fuel) (room : Nat) (cs : List Char) :
    Keeps room cs (Json.items (fuel + 1) room cs) := by
  have first := ih.value room cs
  unfold Json.items
  split
  · next flaw hValue =>
    rw [hValue] at first
    exact first
  · next v rest hValue =>
    rw [hValue] at first
    split
    · next hSpace => exact (suffix_of_skipSpace hSpace).trans first
    · next hSpace =>
      exact ((ih.items room _).of_suffix
        (((skipSpace_suffix _).trans (suffix_of_skipSpace hSpace)).trans first)).map _
    · exact .malformed

theorem AllKeep.members_succ {fuel : Nat} (ih : AllKeep fuel) (room : Nat) (cs : List Char) :
    Keeps room cs (Json.members (fuel + 1) room cs) := by
  unfold Json.members
  split
  · split
    · exact .malformed
    · next quoted _ name rest hTail =>
      have named : rest <:+ '"' :: quoted :=
        (suffix_of_stringTail? hTail).trans (List.suffix_cons _ _)
      split
      · next r hColon =>
        have reached : skipSpace r <:+ '"' :: quoted :=
          ((skipSpace_suffix r).trans (suffix_of_skipSpace hColon)).trans named
        have first := (ih.value room (skipSpace r)).of_suffix reached
        split
        · next flaw hValue =>
          rw [hValue] at first
          exact first
        · next v rest hValue =>
          rw [hValue] at first
          split
          · next hSpace => exact (suffix_of_skipSpace hSpace).trans first
          · next hSpace =>
            exact ((ih.members room _).of_suffix
              (((skipSpace_suffix _).trans (suffix_of_skipSpace hSpace)).trans first)).map _
          · exact .malformed
      · exact .malformed
  · exact .malformed

theorem allKeep (fuel : Nat) : AllKeep fuel := by
  induction fuel with
  | zero => exact ⟨fun _ _ => .malformed, fun _ _ => .malformed, fun _ _ => .malformed⟩
  | succ fuel ih => exact ⟨ih.value_succ, ih.items_succ, ih.members_succ⟩

/-- Only too many digits or too many brackets take a text beyond the limits. -/
theorem excess?_of_modest {text : List Char} (modest : Modest room text) : excess? text = none := by
  have keeps := ((allKeep (2 * text.length + 2)).value room _).of_suffix (skipSpace_suffix text)
  unfold excess? readChars
  split
  · rfl
  · next flaw other hRead =>
    split at hRead
    · next found hValue =>
      obtain rfl := Except.error.inj hRead
      rw [hValue] at keeps
      exact absurd (keeps modest) other
    · next hValue =>
      split at hRead
      · cases hRead
      · obtain rfl := Except.error.inj hRead
        exact absurd rfl other
  · rfl

end Colloquy.Json

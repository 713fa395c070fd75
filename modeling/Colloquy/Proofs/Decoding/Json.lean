import Colloquy.Json.Reader
import Colloquy.Proofs.Outcome

/-! # Values read from JSON

JSON has no form for mappings with other keys than texts, for sets, pairs and atoms. What is read from
it is free of them at every depth, its integers have no more digits than a text may give them, and it
goes no deeper than there is room. So whatever is said of such values holds of all that a body or a
stream can carry, and all of it can be written again.
-/
set_option autoImplicit false

namespace Colloquy

/-- JSON as a text can hold it, where lists and objects have so much room inside each other. -/
inductive Value.IsJson : Nat → Value → Prop where
  | null {room : Nat} : IsJson room .null
  | bool {room : Nat} (b : Bool) : IsJson room (.bool b)
  | int {room : Nat} {n : Int} (fits : Whole.fits n = true) : IsJson room (.int n)
  | float {room : Nat} (x : Float) : IsJson room (.float x)
  | str {room : Nat} (s : String) : IsJson room (.str s)
  | list {room : Nat} {items : List Value} (each : ∀ v ∈ items, IsJson room v) :
      IsJson (room + 1) (.list items)
  | object {room : Nat} {members : List (String × Value)} (each : ∀ m ∈ members, IsJson room m.2) :
      IsJson (room + 1) (.object members)

theorem Value.IsJson.mono {room more : Nat} {v : Value} (json : v.IsJson room) (le : room ≤ more) :
    v.IsJson more := by
  induction json generalizing more with
  | null => exact .null
  | bool b => exact .bool b
  | int fits => exact .int fits
  | float x => exact .float x
  | str s => exact .str s
  | list each ih =>
    obtain ⟨more, rfl⟩ := Nat.exists_eq_add_of_le' (Nat.le_of_add_left_le le)
    exact .list fun v hv => ih v hv (Nat.le_of_succ_le_succ le)
  | object each ih =>
    obtain ⟨more, rfl⟩ := Nat.exists_eq_add_of_le' (Nat.le_of_add_left_le le)
    exact .object fun m hm => ih m hm (Nat.le_of_succ_le_succ le)

theorem Keyed.mem_of_mem_ofList {κ α : Type} [DecidableEq κ] {entries : List (κ × α)} {e : κ × α}
    (h : e ∈ Keyed.ofList entries) : e ∈ entries := by
  have step : ∀ (entries : List (κ × α)) (before : Keyed κ α),
      e ∈ entries.foldl (fun ks p => Keyed.insert p.1 p.2 ks) before → e ∈ before ∨ e ∈ entries := by
    intro entries
    induction entries with
    | nil =>
      intro before h
      exact .inl h
    | cons p rest ih =>
      intro before h
      obtain h | h := ih _ h
      · obtain h | h := Keyed.mem_of_mem_insert h
        · exact .inl h
        · exact .inr (h ▸ List.mem_cons_self)
      · exact .inr (List.mem_cons_of_mem _ h)
  obtain h | h := step entries [] h
  · cases h
  · exact h

namespace Whole

theorem ofDigitChars_lt {digits : List Char} (all : ∀ c ∈ digits, c.isDigit = true) (n : Nat) :
    Nat.ofDigitChars 10 digits n < (n + 1) * (10 : Nat).pow digits.length := by
  induction digits generalizing n with
  | nil => simp
  | cons c rest ih =>
    have digit : c.toNat - '0'.toNat ≤ 9 := by
      have small := all c List.mem_cons_self
      simp only [Char.isDigit, Bool.and_eq_true, decide_eq_true_eq] at small
      have upper : c.toNat ≤ 57 := small.2
      exact Nat.sub_le_of_le_add upper
    rw [Nat.ofDigitChars_cons]
    calc
      Nat.ofDigitChars 10 rest (10 * n + (c.toNat - '0'.toNat)) <
          (10 * n + (c.toNat - '0'.toNat) + 1) * (10 : Nat).pow rest.length :=
        ih (fun d hd => all d (List.mem_cons_of_mem _ hd)) _
      _ ≤ (n + 1) * 10 * (10 : Nat).pow rest.length := Nat.mul_le_mul_right _ (by omega)
      _ = (n + 1) * (10 : Nat).pow (c :: rest).length := by
        rw [Nat.mul_assoc, Nat.mul_comm 10]
        rfl

theorem fits_iff (n : Int) : fits n = true ↔ (Nat.toDigits 10 n.natAbs).length ≤ maxDigits := by
  rw [fits, decide_eq_true_iff, bound_eq, Nat.pow_eq,
    Nat.length_toDigits_le_iff (by decide) (by decide)]

theorem fits_of_digits {digits : List Char} (all : ∀ c ∈ digits, c.isDigit = true)
    (short : digits.length ≤ maxDigits) (negative : Bool) :
    fits (if negative then -(Nat.ofDigitChars 10 digits 0 : Int) else Nat.ofDigitChars 10 digits 0) =
      true := by
  have size : (if negative then -(Nat.ofDigitChars 10 digits 0 : Int)
      else Nat.ofDigitChars 10 digits 0).natAbs = Nat.ofDigitChars 10 digits 0 := by
    cases negative <;> simp
  have small := ofDigitChars_lt all 0
  rw [Nat.zero_add, Nat.one_mul, Nat.pow_eq] at small
  rw [fits, decide_eq_true_iff, size, bound_eq, Nat.pow_eq]
  exact Nat.lt_of_lt_of_le small (Nat.pow_le_pow_right (by decide) short)

end Whole

namespace Json

theorem isDigit_of_mem_wholePart {cs : List Char} {c : Char} (mem : c ∈ (wholePart cs).1) :
    c.isDigit = true := by
  unfold wholePart at mem
  split at mem
  · exact List.mem_singleton.mp mem ▸ rfl
  · exact List.all_eq_true.mp List.all_takeWhile c mem

theorem isJson_of_integer {room : Nat} {negative : Bool} {digits : List Char} {v : Value}
    (all : ∀ c ∈ digits, c.isDigit = true) (h : integer negative digits = .ok v) : v.IsJson room := by
  unfold integer at h
  split at h
  · cases h
  · next short =>
    cases h
    exact .int (Whole.fits_of_digits all (Nat.not_lt.mp short) negative)

theorem isJson_of_magnitude {room : Nat} {negative : Bool} {cs rest : List Char} {v : Value}
    (h : magnitude negative cs = .ok (v, rest)) : v.IsJson room := by
  simp only [magnitude] at h
  split at h
  · cases h
  · split at h
    · obtain ⟨w, hInteger, hRead⟩ := ok_of_map h
      cases hRead
      exact isJson_of_integer (fun c => isDigit_of_mem_wholePart) hInteger
    · cases h
      exact .float _

theorem isJson_of_number {room : Nat} {cs rest : List Char} {v : Value}
    (h : number cs = .ok (v, rest)) : v.IsJson room := by
  unfold number at h
  split at h
  · cases h
    exact .float _
  · cases h
    exact .float _
  · cases h
    exact .float _
  · exact isJson_of_magnitude h
  · exact isJson_of_magnitude h

structure ReadsJson (fuel : Nat) : Prop where
  value : ∀ {room cs rest v}, value fuel room cs = .ok (v, rest) → v.IsJson room
  items : ∀ {room cs rest vs}, items fuel room cs = .ok (vs, rest) → ∀ v ∈ vs, v.IsJson room
  members : ∀ {room cs rest ms}, members fuel room cs = .ok (ms, rest) → ∀ m ∈ ms, m.2.IsJson room

theorem ReadsJson.value_succ {fuel room : Nat} (ih : ReadsJson fuel) {cs rest : List Char} {v : Value}
    (h : Json.value (fuel + 1) room cs = .ok (v, rest)) : v.IsJson room := by
  unfold Json.value at h
  split at h
  · split at h
    · cases h
    · cases h
      exact .str _
  · cases room with
    | zero => cases h
    | succ room =>
      simp only at h
      split at h
      · cases h
        exact .list (by simp)
      · obtain ⟨⟨vs, r⟩, hItems, hRead⟩ := ok_of_map h
        cases hRead
        exact .list (ih.items hItems)
  · cases room with
    | zero => cases h
    | succ room =>
      simp only at h
      split at h
      · cases h
        exact .object (by simp)
      · obtain ⟨⟨ms, r⟩, hMembers, hRead⟩ := ok_of_map h
        cases hRead
        exact .object fun m hm => ih.members hMembers m (Keyed.mem_of_mem_ofList hm)
  · cases h
    exact .null
  · cases h
    exact .bool true
  · cases h
    exact .bool false
  · exact isJson_of_number h

theorem ReadsJson.items_succ {fuel room : Nat} (ih : ReadsJson fuel) {cs rest : List Char}
    {vs : List Value} (h : Json.items (fuel + 1) room cs = .ok (vs, rest)) :
    ∀ v ∈ vs, v.IsJson room := by
  unfold Json.items at h
  split at h
  · cases h
  · next v rest hValue =>
    split at h
    · cases h
      exact List.forall_mem_singleton.mpr (ih.value hValue)
    · obtain ⟨⟨more, r⟩, hItems, hRead⟩ := ok_of_map h
      cases hRead
      exact List.forall_mem_cons.mpr ⟨ih.value hValue, ih.items hItems⟩
    · cases h

theorem ReadsJson.members_succ {fuel room : Nat} (ih : ReadsJson fuel) {cs rest : List Char}
    {ms : List (String × Value)} (h : Json.members (fuel + 1) room cs = .ok (ms, rest)) :
    ∀ m ∈ ms, m.2.IsJson room := by
  unfold Json.members at h
  split at h
  · split at h
    · cases h
    · split at h
      · split at h
        · cases h
        · next v rest hValue =>
          split at h
          · cases h
            exact List.forall_mem_singleton.mpr (ih.value hValue)
          · obtain ⟨⟨more, r⟩, hMembers, hRead⟩ := ok_of_map h
            cases hRead
            exact List.forall_mem_cons.mpr ⟨ih.value hValue, ih.members hMembers⟩
          · cases h
      · cases h
  · cases h

theorem readsJson (fuel : Nat) : ReadsJson fuel := by
  induction fuel with
  | zero =>
    constructor
    · intro room cs rest v h
      cases h
    · intro room cs rest vs h
      cases h
    · intro room cs rest ms h
      cases h
  | succ fuel ih => exact ⟨ih.value_succ, ih.items_succ, ih.members_succ⟩

theorem isJson_of_readChars {cs : List Char} {v : Value} (h : readChars cs = .ok v) :
    v.IsJson room := by
  unfold readChars at h
  split at h
  · cases h
  · next found rest hValue =>
    split at h
    · cases h
      exact (readsJson _).value hValue
    · cases h

/-- The limit that reading the text goes beyond. -/
def excess? (text : List Char) : Option Flaw :=
  match readChars text with
  | .error .malformed => none
  | .error flaw => some flaw
  | .ok _ => none

theorem readChars_of_excess? {text : List Char} {flaw : Flaw} (h : excess? text = some flaw) :
    readChars text = .error flaw ∧ flaw ≠ .malformed := by
  unfold excess? at h
  split at h
  · cases h
  · next other hRead =>
    obtain rfl := Option.some.inj h
    exact ⟨hRead, fun malformed => other malformed⟩
  · cases h

theorem malformed_of_error {text : List Char} {flaw : Flaw} (read : readChars text = .error flaw)
    (within : excess? text = none) : flaw = .malformed := by
  cases flaw with
  | malformed => rfl
  | _ => simp [excess?, read] at within

section

variable {style : Style} {room : Nat}

theorem itemsObstacle?_eq_none {items : List Value}
    (each : ∀ v ∈ items, obstacle? style room v = none) : itemsObstacle? style room items = none := by
  induction items with
  | nil => rfl
  | cons v rest ih =>
    rw [itemsObstacle?, each v List.mem_cons_self,
      ih fun w hw => each w (List.mem_cons_of_mem _ hw)]
    rfl

theorem membersObstacle?_eq_none {members : List (String × Value)}
    (each : ∀ m ∈ members, obstacle? style room m.2 = none) :
    membersObstacle? style room members = none := by
  induction members with
  | nil => rfl
  | cons m rest ih =>
    rw [membersObstacle?, each m List.mem_cons_self,
      ih fun n hn => each n (List.mem_cons_of_mem _ hn)]
    rfl

theorem obstacle?_eq_none_of_isJson (lenient : style.strict = false) {v : Value}
    (json : v.IsJson room) : obstacle? style room v = none := by
  induction json with
  | null => rfl
  | bool b => rfl
  | int fits => simp [obstacle?, intObstacle?, fits]
  | float x => simp [obstacle?, floatObstacle?, lenient]
  | str s => rfl
  | list each ih => exact itemsObstacle?_eq_none ih
  | object each ih => exact membersObstacle?_eq_none ih

end

/-- Whatever can be read can be written again, in every style that takes all numbers. -/
theorem dump_of_isJson {style : Style} (lenient : style.strict = false) {v : Value}
    (json : v.IsJson room) : dump style v = .ok (write style v) := by
  rw [dump, obstacle?_eq_none_of_isJson lenient json]

end Json
end Colloquy

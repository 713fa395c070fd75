import Colloquy.Proofs.Json.Escapes
import Colloquy.Proofs.Json.Layout

/-! # Values that survive writing

A JSON value without floating-point numbers, written in any of the styles and read again, is what it
was, with its members in order, as long as the reader has room for it. The induction is on the value
and says of each part what the reader leaves behind it.
-/
set_option autoImplicit false

namespace Colloquy

namespace Value

/-- JSON without floating-point numbers, in which no object has two members of one name. -/
inductive IsExact : Value → Prop where
  | null : IsExact .null
  | bool (b : Bool) : IsExact (.bool b)
  | int (n : Int) : IsExact (.int n)
  | str (s : String) : IsExact (.str s)
  | list {items : List Value} (each : ∀ v ∈ items, IsExact v) : IsExact (.list items)
  | object {members : Members} (distinct : (Keyed.keys members).Nodup)
      (each : ∀ m ∈ members, IsExact m.2) : IsExact (.object members)

end Value

namespace Json

theorem opens_chars (style : Style) {v : Value} (hExact : v.IsExact) : Opens (chars style v) := by
  cases hExact with
  | null => exact ⟨'n', _, rfl, rfl, by decide⟩
  | bool b =>
    cases b
    · exact ⟨'f', _, rfl, rfl, by decide⟩
    · exact ⟨'t', _, rfl, rfl, by decide⟩
  | int n => exact opens_intChars n
  | str s => exact ⟨'"', _, rfl, rfl, by decide⟩
  | list each => exact ⟨'[', _, rfl, rfl, by decide⟩
  | object distinct each => exact ⟨'\x7b', _, rfl, rfl, by decide⟩

theorem value_stringChars (ascii : Bool) (s : String) (fuel room : Nat) (rest : List Char) :
    value (fuel + 1) room (stringChars ascii s ++ rest) = .ok (.str s, rest) := by
  rw [stringChars, List.cons_append, List.append_assoc, List.singleton_append, value,
    stringTail?_written]
  simp

theorem value_bracket {fuel room : Nat} {rest : List Char} (opens : Opens rest) :
    value (fuel + 1) (room + 1) ('[' :: rest) =
      (items fuel room rest).map fun (vs, r) => (.list vs, r) := by
  obtain ⟨c, more, rfl, visible, inside⟩ := opens
  simp only [value, skipSpace_cons visible]
  split
  · next h => exact absurd (List.cons.inj h).1 inside
  · rfl

theorem value_brace (fuel room : Nat) (rest : List Char) :
    value (fuel + 1) (room + 1) ('\x7b' :: '"' :: rest) =
      (members fuel room ('"' :: rest)).map fun (ms, r) => (.object (Keyed.ofList ms), r) :=
  rfl

theorem value_number {c : Char} (numeric : c.isDigit = true ∨ c = '-') (fuel room : Nat)
    (rest : List Char) : value (fuel + 1) room (c :: rest) = number (c :: rest) := by
  have other {d : Char} (noDigit : d.isDigit = false) (noMinus : '-' ≠ d) : c ≠ d := by
    obtain digit | rfl := numeric
    · exact ne_of_isDigit digit noDigit
    · exact noMinus
  rw [value]
  · exact fun _ h => other rfl (by decide) (List.cons.inj h).1
  · exact fun _ h => other rfl (by decide) (List.cons.inj h).1
  · exact fun _ h => other rfl (by decide) (List.cons.inj h).1
  · exact fun _ h => other rfl (by decide) (List.cons.inj h).1
  · exact fun _ h => other rfl (by decide) (List.cons.inj h).1
  · exact fun _ h => other rfl (by decide) (List.cons.inj h).1

theorem value_intChars {n : Int} (fits : Whole.fits n = true) (fuel room : Nat) {rest : List Char}
    (ends : EndsNumber rest) :
    value (fuel + 1) room (intChars n ++ rest) = .ok (.int n, rest) := by
  obtain ⟨c, more, hChars, numeric⟩ := intChars_eq_cons n
  rw [← number_intChars fits ends, hChars, List.cons_append, value_number numeric]

/-- With this room the reader gives the value back, as soon as its fuel is enough for the length of the
text. -/
def ReadsBack (style : Style) (room : Nat) (v : Value) : Prop :=
  ∀ (fuel : Nat) (rest : List Char), 2 * (chars style v).length ≤ fuel → EndsNumber rest →
    value fuel room (chars style v ++ rest) = .ok (v, rest)

section

variable {style : Style} {room : Nat}

theorem joined_items (separator : List Char) (v w : Value) (more : List Value) :
    joined separator (itemParts style (v :: w :: more)) =
      chars style v ++ (separator ++ joined separator (itemParts style (w :: more))) :=
  joined_cons separator _ _ _

theorem opens_items (style : Style) {v : Value} (hExact : v.IsExact) (more : List Value)
    (rest : List Char) :
    Opens (joined style.itemSeparator (itemParts style (v :: more)) ++ rest) :=
  (opens_joined (opens_chars style hExact) style.itemSeparator (itemParts style more)).append rest

theorem items_last {fuel : Nat} {v : Value} {cs rest : List Char}
    (read : value fuel room cs = .ok (v, ']' :: rest)) :
    items (fuel + 1) room cs = .ok ([v], rest) := by
  rw [items, read]
  rfl

theorem items_next {fuel : Nat} {v : Value} {cs rest : List Char}
    (read : value fuel room cs = .ok (v, ',' :: rest)) :
    items (fuel + 1) room cs =
      (items fuel room (skipSpace rest)).map fun (vs, r) => (v :: vs, r) := by
  rw [items, read]
  rfl

theorem endsNumber_mark {c : Char} (mark : c = ',' ∨ c = ']' ∨ c = '\x7d') (rest : List Char) :
    EndsNumber (c :: rest) := by
  refine endsNumber_cons ?_ rest
  obtain rfl | rfl | rfl := mark <;> decide

theorem items_joined (regular : style.Regular) {vs : List Value} (present : vs ≠ [])
    (each : ∀ v ∈ vs, v.IsExact ∧ ReadsBack style room v) (fuel : Nat) (rest : List Char)
    (enough : 2 * (joined style.itemSeparator (itemParts style vs)).length + 1 ≤ fuel) :
    items fuel room (joined style.itemSeparator (itemParts style vs) ++ ']' :: rest) =
      .ok (vs, rest) := by
  induction vs generalizing fuel with
  | nil => exact absurd rfl present
  | cons v more ih =>
    obtain ⟨fuel, rfl⟩ := Nat.exists_eq_add_of_le' (Nat.le_of_add_left_le enough)
    have first := (each v List.mem_cons_self).2
    cases more with
    | nil =>
      refine items_last (first fuel (']' :: rest) ?_ (endsNumber_mark (by simp) rest))
      simpa [itemParts, joined] using enough
    | cons w more =>
      obtain ⟨gap, comma, blank⟩ := regular.comma
      have later := each w (List.mem_cons_of_mem _ List.mem_cons_self)
      have opens := opens_items style later.1 more (']' :: rest)
      have rested := ih (List.cons_ne_nil w more)
        (fun u hu => each u (List.mem_cons_of_mem _ hu)) fuel
      rw [joined_items, comma, List.length_append, List.length_cons, List.length_append] at enough
      rw [joined_items, comma, List.append_assoc, List.cons_append, List.append_assoc,
        items_next (first fuel _ (by omega) (endsNumber_mark (by simp) _)),
        skipSpace_append blank, opens.skipSpace_eq, rested (by omega)]
      rfl

def memberChars (style : Style) (k : String) (v : Value) : List Char :=
  stringChars style.ascii k ++ style.nameSeparator ++ chars style v

theorem joined_members (separator : List Char) (k : String) (v : Value) (m : String × Value)
    (more : Members) :
    joined separator (memberParts style ((k, v) :: m :: more)) =
      memberChars style k v ++ (separator ++ joined separator (memberParts style (m :: more))) :=
  joined_cons separator _ _ _

def afterValue (fuel room : Nat) (k : String) :
    Except Flaw (Value × List Char) → Except Flaw (Members × List Char)
  | .error flaw => .error flaw
  | .ok (v, rest) =>
    match skipSpace rest with
    | '\x7d' :: r => .ok ([(k, v)], r)
    | ',' :: r => (members fuel room (skipSpace r)).map fun (ms, r) => ((k, v) :: ms, r)
    | _ => .error .malformed

theorem members_memberChars (regular : style.Regular) {k : String} {v : Value} (hExact : v.IsExact)
    (fuel : Nat) (rest : List Char) :
    members (fuel + 1) room (memberChars style k v ++ rest) =
      afterValue fuel room k (value fuel room (chars style v ++ rest)) := by
  obtain ⟨gap, hGap, blank⟩ := regular.names
  have text : memberChars style k v ++ rest =
      '"' :: (k.toList.flatMap (escapedChar style.ascii) ++
        '"' :: ':' :: (gap ++ (chars style v ++ rest))) := by
    simp [memberChars, stringChars, hGap]
  have reached : skipSpace (gap ++ (chars style v ++ rest)) = chars style v ++ rest := by
    rw [skipSpace_append blank, ((opens_chars style hExact).append rest).skipSpace_eq]
  have colon (cs : List Char) : skipSpace (':' :: cs) = ':' :: cs := skipSpace_cons rfl cs
  rw [text, members]
  simp only [stringTail?_written, colon, reached, String.ofList_toList]
  rfl

theorem members_last (regular : style.Regular) (k : String) {v : Value} (hExact : v.IsExact)
    {fuel : Nat} {rest : List Char}
    (read : value fuel room (chars style v ++ '\x7d' :: rest) = .ok (v, '\x7d' :: rest)) :
    members (fuel + 1) room (memberChars style k v ++ '\x7d' :: rest) = .ok ([(k, v)], rest) := by
  rw [members_memberChars regular hExact, read]
  rfl

theorem members_next (regular : style.Regular) (k : String) {v : Value} (hExact : v.IsExact)
    {fuel : Nat} {rest : List Char}
    (read : value fuel room (chars style v ++ ',' :: rest) = .ok (v, ',' :: rest)) :
    members (fuel + 1) room (memberChars style k v ++ ',' :: rest) =
      (members fuel room (skipSpace rest)).map fun (ms, r) => ((k, v) :: ms, r) := by
  rw [members_memberChars regular hExact, read]
  rfl

theorem length_memberChars (style : Style) (k : String) (v : Value) :
    (chars style v).length + 2 ≤ (memberChars style k v).length := by
  simp only [memberChars, stringChars, List.length_append, List.length_cons]
  omega

theorem quote_members (style : Style) (m : String × Value) (more : Members) :
    ∃ text, joined style.itemSeparator (memberParts style (m :: more)) = '"' :: text := by
  cases more <;> exact ⟨_, rfl⟩

theorem members_joined (regular : style.Regular) {ms : Members} (present : ms ≠ [])
    (each : ∀ m ∈ ms, m.2.IsExact ∧ ReadsBack style room m.2) (fuel : Nat) (rest : List Char)
    (enough : 2 * (joined style.itemSeparator (memberParts style ms)).length + 1 ≤ fuel) :
    members fuel room (joined style.itemSeparator (memberParts style ms) ++ '\x7d' :: rest) =
      .ok (ms, rest) := by
  induction ms generalizing fuel with
  | nil => exact absurd rfl present
  | cons m more ih =>
    obtain ⟨k, v⟩ := m
    obtain ⟨fuel, rfl⟩ := Nat.exists_eq_add_of_le' (Nat.le_of_add_left_le enough)
    obtain ⟨hExact, first⟩ : v.IsExact ∧ ReadsBack style room v := each (k, v) List.mem_cons_self
    have shorter := length_memberChars style k v
    cases more with
    | nil =>
      change 2 * (memberChars style k v).length + 1 ≤ fuel + 1 at enough
      exact members_last regular k hExact
        (first fuel _ (by omega) (endsNumber_mark (by simp) rest))
    | cons m more =>
      obtain ⟨gap, comma, blank⟩ := regular.comma
      obtain ⟨text, hText⟩ := quote_members style m more
      have rested := ih (List.cons_ne_nil m more)
        (fun n hn => each n (List.mem_cons_of_mem _ hn)) fuel
      rw [joined_members, comma, List.length_append, List.length_cons, List.length_append] at enough
      rw [joined_members, comma, List.append_assoc, List.cons_append, List.append_assoc,
        members_next regular k hExact (first fuel _ (by omega) (endsNumber_mark (by simp) _)),
        skipSpace_append blank]
      rw [hText] at enough rested ⊢
      rw [List.cons_append, skipSpace_cons rfl, ← List.cons_append, rested (by omega)]
      rfl

theorem value_list (regular : style.Regular) {vs : List Value} {fuel : Nat} (rest : List Char)
    (each : ∀ v ∈ vs, v.IsExact ∧ ReadsBack style room v)
    (enough : 2 * (chars style (.list vs)).length ≤ fuel + 1) :
    value (fuel + 1) (room + 1) (chars style (.list vs) ++ rest) = .ok (.list vs, rest) := by
  simp only [chars, List.cons_append, List.append_assoc, List.nil_append, List.length_cons,
    List.length_append] at enough ⊢
  cases vs with
  | nil => rfl
  | cons v more =>
    have opens := opens_items style (each v List.mem_cons_self).1 more (']' :: rest)
    rw [value_bracket opens, items_joined regular (List.cons_ne_nil v more) each fuel rest (by omega)]
    rfl

theorem value_object (regular : style.Regular) {ms : Members} {fuel : Nat} (rest : List Char)
    (distinct : (Keyed.keys ms).Nodup) (each : ∀ m ∈ ms, m.2.IsExact ∧ ReadsBack style room m.2)
    (enough : 2 * (chars style (.object ms)).length ≤ fuel + 1) :
    value (fuel + 1) (room + 1) (chars style (.object ms) ++ rest) = .ok (.object ms, rest) := by
  simp only [chars, List.cons_append, List.append_assoc, List.nil_append, List.length_cons,
    List.length_append] at enough ⊢
  cases ms with
  | nil => rfl
  | cons m more =>
    have read := members_joined regular (List.cons_ne_nil m more) each fuel rest (by omega)
    obtain ⟨text, hText⟩ := quote_members style m more
    rw [hText, List.cons_append] at read ⊢
    rw [value_brace, read]
    simp [Except.map, Keyed.ofList_of_nodup distinct]

theorem ReadsBack.of_succ {v : Value} (hExact : v.IsExact)
    (read : ∀ (fuel : Nat) (rest : List Char), 2 * (chars style v).length ≤ fuel + 1 →
      EndsNumber rest → value (fuel + 1) room (chars style v ++ rest) = .ok (v, rest)) :
    ReadsBack style room v := by
  intro fuel rest enough ends
  obtain ⟨c, more, hChars, -⟩ := opens_chars style hExact
  have positive : 0 < (chars style v).length := by simp [hChars]
  obtain ⟨fuel, rfl⟩ := Nat.exists_eq_add_of_le' (show 1 ≤ fuel by omega)
  exact read fuel rest enough ends

theorem readsBack (regular : style.Regular) {v : Value} (hExact : v.IsExact)
    (json : v.IsJson room) : ReadsBack style room v := by
  induction json with
  | null => exact .of_succ .null fun fuel rest _ _ => rfl
  | bool b =>
    refine .of_succ (.bool b) fun fuel rest _ _ => ?_
    cases b <;> rfl
  | int fits => exact .of_succ hExact fun fuel rest _ ends => value_intChars fits fuel _ ends
  | float x => cases hExact
  | str s => exact .of_succ (.str s) fun fuel rest _ _ => value_stringChars style.ascii s fuel _ rest
  | list each ih =>
    cases hExact with
    | list exacts =>
      exact .of_succ (.list exacts) fun fuel rest enough _ =>
        value_list regular rest (fun v hv => ⟨exacts v hv, ih v hv (exacts v hv)⟩) enough
  | object each ih =>
    cases hExact with
    | object distinct exacts =>
      exact .of_succ (.object distinct exacts) fun fuel rest enough _ =>
        value_object regular rest distinct (fun m hm => ⟨exacts m hm, ih m hm (exacts m hm)⟩) enough

end

/-- What is written in one of the styles is read as the value it was written for. -/
theorem read_write {style : Style} (regular : style.Regular) {v : Value} (hExact : v.IsExact)
    (json : v.IsJson room) : read (write style v) = .ok v := by
  have back := readsBack regular hExact json (2 * (chars style v).length + 2) [] (by omega)
    endsNumber_nil
  rw [List.append_nil] at back
  rw [read, write, String.toList_ofList, readChars, (opens_chars style hExact).skipSpace_eq, back]
  rfl

end Json
end Colloquy

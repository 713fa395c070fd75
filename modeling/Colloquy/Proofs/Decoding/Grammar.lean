import Colloquy.Completion
import Colloquy.Proofs.Decoding.Json
import Colloquy.Proofs.Outcome

/-! # The grammar of answers

What a completion or a chunk may look like, said of the data alone. Members that count as absent fit
everywhere; of the others only those are looked at that a decoder takes apart. The decoders accept
exactly what fits, and whatever else they are given they fail for its shape.
-/
set_option autoImplicit false

namespace Colloquy

namespace Grammar

def isObject : Value → Bool
  | .object _ => true
  | _ => false

def field (name : String) : Value → Value
  | .object ms => (Keyed.get? name ms).getD .null
  | _ => .null

def absentOr (fits : Value → Bool) (v : Value) : Bool :=
  !v.truthy || fits v

def listOf (fits : Value → Bool) : Value → Bool
  | .list items => items.all fits
  | _ => false

def toolCall (v : Value) : Bool :=
  isObject v && absentOr isObject (field "function" v)

def role : Value → Bool
  | .str s => Role.all.any fun r => r.name = s
  | _ => false

def message (v : Value) : Bool :=
  isObject v && (absentOr role (field "role" v) &&
    absentOr (listOf toolCall) (field "tool_calls" v))

def choice (part : String) (v : Value) : Bool :=
  isObject v && absentOr message (field part v)

def answer (part : String) (v : Value) : Bool :=
  isObject v && (absentOr (listOf (choice part)) (field "choices" v) &&
    absentOr isObject (field "base_resp" v))

def completion (v : Value) : Bool :=
  answer "message" v && absentOr isObject (field "usage" v)

def chunk (v : Value) : Bool :=
  answer "delta" v

end Grammar

/-- The three families of faults that reading data of the wrong shape can end in. -/
def Fault.IsShape (f : Fault) : Prop :=
  f.family = .missingAttribute ∨ f.family = .type ∨ f.family = .value

theorem Fault.IsShape.isDataFault {f : Fault} (h : f.IsShape) : f.isDataFault = true := by
  obtain h | h | h := h <;> simp [Fault.isDataFault, h]

/-- An outcome that is a success where the data fits, and else a fault about its shape. -/
inductive Judged {α : Type} : Bool → Except Fault α → Prop where
  | accepted (a : α) : Judged true (.ok a)
  | rejected {f : Fault} (shape : f.IsShape) : Judged false (.error f)

namespace Judged

variable {α β : Type} {x : Except Fault α} {k : α → Except Fault β} {fits more : Bool}

theorem shape_of_error {f : Fault} (h : Judged fits x) (failed : x = .error f) : f.IsShape := by
  cases h with
  | accepted a => cases failed
  | rejected shape =>
    cases failed
    exact shape

theorem fits_iff (h : Judged fits x) : fits = true ↔ ∃ a, x = .ok a := by
  cases h with
  | accepted a => simp
  | rejected shape => simp

theorem bind (h : Judged fits x) (next : ∀ a, x = .ok a → Judged more (k a)) :
    Judged (fits && more) (x >>= k) := by
  cases h with
  | accepted a =>
    rw [Bool.true_and]
    exact next a rfl
  | rejected shape => exact .rejected shape

theorem map (h : Judged fits x) (g : α → β) : Judged fits (g <$> x) := by
  cases h with
  | accepted a => exact .accepted (g a)
  | rejected shape => exact .rejected shape

theorem mapM {γ : Type} {suits : γ → Bool} {decode : γ → Except Fault α} {items : List γ}
    (each : ∀ v ∈ items, Judged (suits v) (decode v)) :
    Judged (items.all suits) (items.mapM decode) := by
  induction items with
  | nil => exact .accepted []
  | cons v rest ih =>
    rw [List.all_cons, List.mapM_cons]
    refine (each v List.mem_cons_self).bind fun a _ => ?_
    rw [bind_pure_comp]
    exact (ih fun w hw => each w (List.mem_cons_of_mem _ hw)).map (a :: ·)

end Judged

namespace Grammar

variable {α : Type} {fits : Value → Bool} {v : Value}

theorem absentOr_eq {other : Value} (h : fits other = true) (v : Value) :
    absentOr fits v = fits (v.orElse other) := by
  cases present : v.truthy with
  | false => simp [absentOr, Value.orElse, present, h]
  | true => simp [absentOr, Value.orElse, present]

theorem judged_absentOr {x : Except Fault α} {absent : α}
    (judged : v.truthy = true → Judged (fits v) x) :
    Judged (absentOr fits v) (if v.truthy then x else .ok absent) := by
  cases present : v.truthy with
  | false =>
    simp only [absentOr, present]
    exact .accepted absent
  | true =>
    simp only [absentOr, present]
    exact judged present

end Grammar

namespace Value

@[simp] theorem memberD_object (name : String) (default : Value) (ms : Members) :
    (object ms).memberD name default = .ok ((Keyed.get? name ms).getD default) := rfl

@[simp] theorem member_object (name : String) (ms : Members) :
    (object ms).member name = .ok (Grammar.field name (object ms)) := rfl

section

variable {room : Nat}

theorem IsJson.field {v : Value} (json : v.IsJson room) (name : String) :
    (Grammar.field name v).IsJson room := by
  cases json with
  | object each =>
    simp only [Grammar.field]
    cases h : Keyed.get? name _ with
    | none => exact .null
    | some w =>
      have member := each _ (Keyed.mem_of_get? h)
      exact member.mono (Nat.le_succ _)
  | _ => exact .null

theorem IsJson.orElse {v other : Value} (json : v.IsJson room) (otherwise : other.IsJson room) :
    (v.orElse other).IsJson room := by
  unfold Value.orElse
  split
  · exact json
  · exact otherwise

theorem IsJson.judged_memberD {α : Type} {v : Value} (json : v.IsJson room) {name : String}
    {default : Value} {k : Value → Except Fault α} {more : Bool}
    (next : ∀ ms, v = .object ms → Judged more (k ((Keyed.get? name ms).getD default))) :
    Judged (Grammar.isObject v && more) (v.memberD name default >>= k) := by
  cases json with
  | object each => exact next _ rfl
  | _ => exact .rejected (.inl rfl)

/-- Texts and objects have items too, but all of them are texts, and the first of those is refused. -/
theorem IsJson.judged_elements {α : Type} {v : Value} (json : v.IsJson room)
    (present : v.truthy = true) {fits : Value → Bool} {decode : Value → Except Fault α}
    (each : ∀ w : Value, w.IsJson room → Judged (fits w) (decode w)) (noText : ∀ s, fits (.str s) = false) :
    Judged (Grammar.listOf fits v) (v.elements >>= fun ws => ws.mapM decode) := by
  have texts (t : String) (ts : List String) :
      Judged false (((t :: ts).map Value.str).mapM decode) := by
    have all : (((t :: ts).map Value.str).all fits) = false := by simp [noText]
    rw [← all]
    refine Judged.mapM fun w hw => each w ?_
    obtain ⟨s, -, rfl⟩ := List.mem_map.mp hw
    exact .str s
  cases json with
  | list items => exact Judged.mapM fun w hw => each w ((items w hw).mono (Nat.le_succ _))
  | str s =>
    cases hs : s.toList with
    | nil =>
      have empty : s = "" := String.toList_inj.mp hs
      simp [empty, truthy] at present
    | cons c cs =>
      have chars : (Value.str s).elements =
          .ok (((String.ofList [c]) :: cs.map fun d => String.ofList [d]).map Value.str) := by
        simp [elements, hs]
      rw [chars]
      exact texts _ _
  | @object _ ms members =>
    cases ms with
    | nil => simp [truthy] at present
    | cons m ms =>
      have keys : (Value.object (m :: ms)).elements =
          .ok ((m.1 :: ms.map Prod.fst).map Value.str) := by
        simp [elements]
      rw [keys]
      exact texts _ _
  | null | bool | int | float => exact .rejected (.inr (.inl rfl))

theorem IsJson.judged_optionalElements {α : Type} {v : Value} (json : v.IsJson room)
    {fits : Value → Bool} {decode : Value → Except Fault α}
    (each : ∀ w : Value, w.IsJson room → Judged (fits w) (decode w)) (noText : ∀ s, fits (.str s) = false) :
    Judged (Grammar.absentOr (Grammar.listOf fits) v)
      (optionalElements v >>= fun ws => ws.mapM decode) := by
  have split : (optionalElements v >>= fun ws => ws.mapM decode) =
      if v.truthy then v.elements >>= fun ws => ws.mapM decode else .ok [] := by
    unfold optionalElements Value.orElse
    split <;> rfl
  rw [split]
  exact Grammar.judged_absentOr fun present => json.judged_elements present each noText

end

theorem isJson_empty : (object []).IsJson Json.room :=
  .object (by simp)

end Value

section

open Value Grammar

variable {v : Value}

theorem judged_object {α : Type} (json : v.IsJson Json.room) {absent : α} {name : String} {default : Value}
    {k : Value → Except Fault α} (next : ∀ ms, v = .object ms →
      ∃ a, k ((Keyed.get? name ms).getD default) = .ok a) :
    Judged (absentOr isObject v)
      (if v.truthy then v.memberD name default >>= k else .ok absent) := by
  refine judged_absentOr fun _ => ?_
  rw [← Bool.and_true (isObject v)]
  refine json.judged_memberD ?_
  intro ms hObject
  obtain ⟨a, ha⟩ := next ms hObject
  rw [ha]
  exact .accepted a

theorem ServiceStatus.judged_decode (json : v.IsJson Json.room) :
    Judged (absentOr isObject v) (ServiceStatus.decode v) := by
  refine judged_object json ?_
  rintro ms rfl
  exact ⟨_, rfl⟩

theorem Usage.judged_decode (json : v.IsJson Json.room) :
    Judged (absentOr isObject v) (Usage.decode v) := by
  refine judged_object json ?_
  rintro ms rfl
  exact ⟨_, rfl⟩

theorem ToolCall.argumentsText_of_isJson (json : v.IsJson Json.room) :
    ∃ text, ToolCall.argumentsText v = .ok text := by
  unfold ToolCall.argumentsText
  split
  · exact ⟨_, rfl⟩
  · rw [Json.dump_of_isJson rfl json]
    exact ⟨_, rfl⟩

theorem ToolCall.judged_decode (json : v.IsJson Json.room) : Judged (toolCall v) (ToolCall.decode v) := by
  refine json.judged_memberD ?_
  rintro ms rfl
  have function := (json.field "function").orElse isJson_empty
  have noFunction : isObject (.object []) = true := rfl
  rw [absentOr_eq noFunction, ← Bool.and_true (isObject _)]
  refine function.judged_memberD ?_
  intro inner hInner
  have arguments : ((Keyed.get? "arguments" inner).getD (.str "\x7b\x7d")).IsJson Json.room := by
    rw [hInner] at function
    cases given : Keyed.get? "arguments" inner with
    | none => exact .str _
    | some w => simpa [field, given] using function.field "arguments"
  obtain ⟨text, hText⟩ := argumentsText_of_isJson arguments
  simp only [field] at hInner
  simp only [memberD_object, hInner, hText, ok_bind]
  exact .accepted _

theorem role_str (s : String) : role (.str s) = (Role.ofName? s).isSome := by
  rw [Bool.eq_iff_iff]
  simp [role, Role.ofName?, List.find?_isSome]

theorem Role.judged_decode (json : v.IsJson Json.room) : Judged (absentOr role v) (Role.decode v) := by
  refine judged_absentOr fun _ => ?_
  cases json with
  | str s =>
    rw [role_str]
    simp only
    cases Role.ofName? s with
    | none => exact .rejected (.inr (.inr rfl))
    | some r => exact .accepted (some r)
  | _ => exact .rejected (.inr (.inr rfl))

theorem Message.judged_decodeCalls (json : v.IsJson Json.room) :
    Judged (absentOr (listOf toolCall) v) (Message.decodeCalls v) := by
  refine judged_absentOr fun present => ?_
  have calls := json.judged_elements present (fun w hw => ToolCall.judged_decode hw) fun _ => rfl
  rw [← bind_assoc, bind_pure_comp]
  exact calls.map some

theorem Message.judged_decode (json : v.IsJson Json.room) : Judged (message v) (Message.decode v) := by
  refine json.judged_memberD ?_
  rintro ms rfl
  simp only [member_object, ok_bind]
  refine (Role.judged_decode (json.field "role")).bind fun _ _ => ?_
  rw [bind_pure_comp]
  exact (Message.judged_decodeCalls (json.field "tool_calls")).map _

theorem Choice.judged_decode (json : v.IsJson Json.room) : Judged (choice "message" v) (Choice.decode v) := by
  refine json.judged_memberD ?_
  rintro ms rfl
  have part := (json.field "message").orElse isJson_empty
  have noMessage : Grammar.message (.object []) = true := rfl
  rw [absentOr_eq noMessage]
  simp only [member_object, ok_bind]
  rw [bind_pure_comp]
  exact (Message.judged_decode part).map _

theorem ChunkChoice.judged_decode (json : v.IsJson Json.room) :
    Judged (choice "delta" v) (ChunkChoice.decode v) := by
  refine json.judged_memberD ?_
  rintro ms rfl
  simp only [member_object, memberD_object, ok_bind]
  refine judged_absentOr fun _ => ?_
  rw [bind_pure_comp]
  exact ((Message.judged_decode (json.field "delta")).map some).map _

theorem Completion.judged_decode (json : v.IsJson Json.room) : Judged (completion v) (Completion.decode v) := by
  rw [completion, answer, Bool.and_assoc]
  refine json.judged_memberD ?_
  rintro ms rfl
  rw [Bool.and_assoc]
  simp only [member_object, memberD_object, ok_bind]
  have choices := (json.field "choices").judged_optionalElements
    (fun w hw => Choice.judged_decode hw) fun _ => rfl
  rw [← bind_assoc]
  refine choices.bind fun _ _ => ?_
  refine (ServiceStatus.judged_decode (json.field "base_resp")).bind fun _ _ => ?_
  rw [bind_pure_comp]
  exact (Usage.judged_decode (json.field "usage")).map _

theorem Chunk.judged_decode (json : v.IsJson Json.room) : Judged (chunk v) (Chunk.decode v) := by
  refine json.judged_memberD ?_
  rintro ms rfl
  simp only [member_object, memberD_object, ok_bind]
  have choices := (json.field "choices").judged_optionalElements
    (fun w hw => ChunkChoice.judged_decode hw) fun _ => rfl
  rw [← bind_assoc]
  refine choices.bind fun _ _ => ?_
  rw [bind_pure_comp]
  exact (ServiceStatus.judged_decode (json.field "base_resp")).map _

theorem Chunk.judged_ofValue (json : v.IsJson Json.room) : Judged (chunk v) (Chunk.ofValue v) := by
  cases v with
  | object ms => exact Chunk.judged_decode json
  | _ => exact .rejected (.inr (.inl rfl))

end

end Colloquy

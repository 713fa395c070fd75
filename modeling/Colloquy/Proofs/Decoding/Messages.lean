import Colloquy.Proofs.Conversation.Course
import Colloquy.Proofs.Decoding.Grammar

/-! # Messages sent back

Decoding undoes encoding on every message but those with an empty list of tool calls, and no decoder
gives one of those. So whatever the form in which a message came, it can be sent back without loss.
-/
set_option autoImplicit false

namespace Colloquy

theorem Value.elements_ne_nil {v : Value} {items : List Value} (present : v.truthy = true)
    (h : v.elements = .ok items) : items ≠ [] := by
  rintro rfl
  cases v with
  | null | bool | int | float => cases h
  | str s =>
    simp only [elements, Except.ok.injEq, List.map_eq_nil_iff] at h
    simp [truthy, String.toList_inj.mp (h.trans String.toList_empty.symm)] at present
  | list items =>
    obtain rfl := Except.ok.inj h
    cases present
  | object ms =>
    obtain rfl := List.map_eq_nil_iff.mp (Except.ok.inj h)
    cases present
  | table es =>
    obtain rfl := List.map_eq_nil_iff.mp (Except.ok.inj h)
    cases present
  | set items =>
    obtain rfl := Except.ok.inj h
    cases present
  | pair a b => cases h
  | atom a =>
    cases a with
    | octets bytes =>
      obtain rfl := List.map_eq_nil_iff.mp (Except.ok.inj h)
      cases present
    | _ => cases h

section

open Grammar (field isObject)

theorem Grammar.field_cons (name k : String) (v : Value) (rest : Members) :
    field name (.object ((k, v) :: rest)) = if k = name then v else field name (.object rest) := by
  simp only [field, Keyed.get?]
  split <;> rfl

theorem Members.present_cons {v : Value} (k : String) (holds : v.isNull = false) (rest : Members) :
    present ((k, v) :: rest) = (k, v) :: present rest := by
  cases v with
  | null => cases holds
  | _ => rfl

theorem Members.field_present {ms : Members} (distinct : (Keyed.keys ms).Nodup) (name : String) :
    field name (.object ms.present) = field name (.object ms) := by
  induction ms with
  | nil => rfl
  | cons m rest ih =>
    obtain ⟨k, v⟩ := m
    obtain ⟨fresh, distinct⟩ := List.nodup_cons.mp distinct
    have later := ih distinct
    rw [Grammar.field_cons]
    cases holds : v.isNull with
    | false => rw [present_cons k holds, Grammar.field_cons, later]
    | true =>
      obtain rfl : v = .null := Value.eq_null_of_isNull holds
      have dropped : present ((k, .null) :: rest) = present rest := rfl
      rw [dropped, later]
      split
      · next h =>
        have absent : Keyed.get? name rest = none := Keyed.get?_eq_none_of_not_mem (h ▸ fresh)
        simp [field, absent]
      · rfl

namespace ToolCall

theorem decode_object {ms inner : Members}
    (function : (field "function" (.object ms)).orElse (.object []) = .object inner) :
    decode (.object ms) =
      (argumentsText ((Keyed.get? "arguments" inner).getD (.str "\x7b\x7d"))).map fun arguments => {
        id := (Keyed.get? "id" ms).getD (.str "")
        type := (Keyed.get? "type" ms).getD (.str "function")
        function := { name := (Keyed.get? "name" inner).getD (.str ""), arguments } } := by
  simp only [decode, Value.member_object, ok_bind, function, Value.memberD_object]
  rfl

theorem decode_toValue (c : ToolCall) : decode c.toValue = .ok c :=
  rfl

end ToolCall

theorem Role.decode_roleValue (role : Option Role) :
    Role.decode (Message.roleValue role) = .ok role := by
  cases role with
  | none => rfl
  | some r => cases r <;> rfl

namespace Message

theorem decode_of_isObject {v : Value} (object : isObject v = true) :
    decode v = do
      let role ← Role.decode (field "role" v)
      let calls ← decodeCalls (field "tool_calls" v)
      return {
        content := field "content" v
        role
        name := field "name" v
        toolCallId := field "tool_call_id" v
        toolCalls := calls } := by
  cases v with
  | object ms => rfl
  | _ => cases object

theorem decodeCalls_calls {m : Message} (kept : m.toolCalls ≠ some []) :
    decodeCalls (if m.hasToolCalls then .list (m.calls.map ToolCall.toValue) else .null) =
      .ok m.toolCalls := by
  cases hCalls : m.toolCalls with
  | none =>
    have noCalls : m.hasToolCalls = false := by simp [hasToolCalls, calls, hCalls]
    rw [noCalls]
    rfl
  | some calls =>
    cases calls with
    | nil => exact absurd hCalls kept
    | cons c rest =>
      have someCalls : m.hasToolCalls = true := by simp [hasToolCalls, Message.calls, hCalls]
      have each : ((c :: rest).map ToolCall.toValue).mapM ToolCall.decode = .ok (c :: rest) :=
        mapM_map_of_each fun c _ => c.decode_toValue
      have read : decodeCalls (.list ((c :: rest).map ToolCall.toValue)) =
          some <$> ((c :: rest).map ToolCall.toValue).mapM ToolCall.decode :=
        rfl
      rw [if_pos someCalls, show m.calls = c :: rest by simp [Message.calls, hCalls], read, each]
      rfl

theorem decode_toValue {m : Message} (kept : m.toolCalls ≠ some []) : decode m.toValue = .ok m := by
  have written (name : String) : field name m.toValue = field name (.object [
      ("content", m.content), ("role", roleValue m.role), ("name", m.name),
      ("tool_call_id", m.toolCallId),
      ("tool_calls", if m.hasToolCalls then .list (m.calls.map ToolCall.toValue) else .null)]) :=
    Members.field_present (by simp [Keyed.keys]) name
  have role : Role.decode (field "role" m.toValue) = .ok m.role := by
    rw [written]
    exact Role.decode_roleValue m.role
  have calls : decodeCalls (field "tool_calls" m.toValue) = .ok m.toolCalls := by
    rw [written]
    exact decodeCalls_calls kept
  rw [decode_of_isObject rfl, role, calls, ok_bind, ok_bind, written, written, written]
  rfl

theorem toolCalls_ne_of_decode {v : Value} {m : Message} (h : decode v = .ok m) :
    m.toolCalls ≠ some [] := by
  obtain ⟨role, -, h⟩ := ok_of_bind h
  obtain ⟨given, -, h⟩ := ok_of_bind h
  obtain ⟨content, -, h⟩ := ok_of_bind h
  obtain ⟨role, -, h⟩ := ok_of_bind h
  obtain ⟨name, -, h⟩ := ok_of_bind h
  obtain ⟨toolCallId, -, h⟩ := ok_of_bind h
  obtain ⟨calls, hCalls, h⟩ := ok_of_bind h
  obtain rfl := Except.ok.inj h
  rintro rfl
  unfold decodeCalls at hCalls
  split at hCalls
  · next present =>
    obtain ⟨items, hItems, hCalls⟩ := ok_of_bind hCalls
    obtain ⟨calls, hRead, hCalls⟩ := ok_of_bind hCalls
    obtain rfl := Option.some.inj (Except.ok.inj hCalls)
    have none : items = [] := List.forall₂_nil_right_iff.mp (forall₂_of_mapM hRead)
    exact Value.elements_ne_nil present hItems none
  · cases hCalls

end Message

theorem Choice.message_of_decode {v : Value} {choice : Choice} (h : decode v = .ok choice) :
    ∃ w, Message.decode w = .ok choice.message := by
  obtain ⟨index, -, h⟩ := ok_of_bind h
  obtain ⟨given, -, h⟩ := ok_of_bind h
  obtain ⟨message, hMessage, h⟩ := ok_of_bind h
  obtain ⟨finish, -, h⟩ := ok_of_bind h
  obtain ⟨logprobs, -, h⟩ := ok_of_bind h
  obtain rfl := Except.ok.inj h
  exact ⟨_, hMessage⟩

theorem Completion.choices_of_decode {v : Value} {c : Completion} (h : decode v = .ok c) :
    ∃ items : List Value, items.mapM Choice.decode = .ok c.choices := by
  obtain ⟨id, -, h⟩ := ok_of_bind h
  obtain ⟨given, -, h⟩ := ok_of_bind h
  obtain ⟨items, -, h⟩ := ok_of_bind h
  obtain ⟨choices, hChoices, h⟩ := ok_of_bind h
  obtain ⟨created, -, h⟩ := ok_of_bind h
  obtain ⟨model, -, h⟩ := ok_of_bind h
  obtain ⟨systemFingerprint, -, h⟩ := ok_of_bind h
  obtain ⟨object, -, h⟩ := ok_of_bind h
  obtain ⟨said, -, h⟩ := ok_of_bind h
  obtain ⟨status, -, h⟩ := ok_of_bind h
  obtain ⟨used, -, h⟩ := ok_of_bind h
  obtain ⟨usage, -, h⟩ := ok_of_bind h
  obtain rfl := Except.ok.inj h
  exact ⟨items, hChoices⟩

theorem Completion.message_of_decode {v : Value} {c : Completion} (h : decode v = .ok c)
    {choice : Choice} (mem : choice ∈ c.choices) : ∃ w, Message.decode w = .ok choice.message := by
  obtain ⟨items, hItems⟩ := choices_of_decode h
  obtain ⟨w, -, hChoice⟩ := exists_of_mem_mapM hItems mem
  exact Choice.message_of_decode hChoice

theorem Request.messages_toValue {r : Request} {encoded : Value} (h : r.toValue = .ok encoded) :
    field "messages" encoded = .list (r.messages.map Message.toValue) := by
  obtain ⟨tools, -, h⟩ := ok_of_bind h
  obtain rfl := Except.ok.inj h
  exact Members.field_present (by simp [Request.members, Keyed.keys]) "messages"

theorem Request.exists_toValue_iff (r : Request) :
    (∃ encoded, r.toValue = .ok encoded) ↔ ∃ tools, toolsValue r.layer.tools = .ok tools := by
  constructor
  · rintro ⟨encoded, h⟩
    obtain ⟨tools, hTools, -⟩ := ok_of_bind h
    exact ⟨tools, hTools⟩
  · rintro ⟨tools, hTools⟩
    exact ⟨_, by rw [toValue, hTools, ok_bind]; rfl⟩

/-- A follow-up has the message that asks for tools right behind all that was said before. -/
theorem Conversation.messages_of_followUp {τ : Type} {request next : Request}
    {c : Option Completion} {s t : Session τ}
    (h : (followUp request c).exec s = (.ok (some next), t)) :
    ∃ m answers, Asks c m ∧ next = continuing request (request.messages ++ m :: answers) := by
  cases hAsks : asksForTools c with
  | false =>
    simp [followUp, hAsks] at h
  | true =>
    obtain ⟨m, asks⟩ := (asksForTools_iff c).mp hAsks
    rw [exec_followUp_of_asks asks] at h
    split at h
    · cases h
    · next answers _ _ =>
      cases h
      exact ⟨m, answers, asks, by simp⟩

/-- Decoding undoes encoding on all that a decoder gives and on every message without an empty list of
tool calls; so a follow-up says again what was received. -/
theorem Message.echo_faithful :
    (∀ d m, decode d = .ok m → decode m.toValue = .ok m) ∧
    (∀ m : Message, m.toolCalls ≠ some [] → decode m.toValue = .ok m) ∧
    (∀ m n : Message, m.toolCalls ≠ some [] → n.toolCalls ≠ some [] → m.toValue = n.toValue → m = n) ∧
    (∀ (τ : Type) (d : Value) (c : Completion) (request next : Request) (s t : Session τ),
      Completion.decode d = .ok c →
      (Conversation.followUp request (some c)).exec s = (.ok (some next), t) →
      ∃ choice others messages w, c.choices = choice :: others ∧
        (∀ sent, request.toValue = .ok sent → ∃ encoded, next.toValue = .ok encoded) ∧
        (∀ encoded, next.toValue = .ok encoded → field "messages" encoded = .list messages) ∧
        messages[request.messages.length]? = some w ∧ decode w = .ok choice.message) := by
  refine ⟨?_, ?_, ?_, ?_⟩
  · intro d m h
    exact decode_toValue (toolCalls_ne_of_decode h)
  · intro m kept
    exact decode_toValue kept
  · intro m n kept keptToo same
    have read := decode_toValue kept
    rw [same, decode_toValue keptToo] at read
    exact (Except.ok.inj read).symm
  · intro τ d c request next s t hDecode h
    obtain ⟨m, answers, asks, rfl⟩ := Conversation.messages_of_followUp h
    obtain ⟨hChoices, -, -⟩ := asks
    next choice others =>
    obtain ⟨w, hMessage⟩ := Completion.message_of_decode hDecode (hChoices ▸ List.mem_cons_self)
    refine ⟨choice, others, _, choice.message.toValue, hChoices, ?_,
      fun encoded => Request.messages_toValue, ?_, decode_toValue (toolCalls_ne_of_decode hMessage)⟩
    · intro sent hSent
      exact (Request.exists_toValue_iff _).mpr ((Request.exists_toValue_iff request).mp ⟨sent, hSent⟩)
    · simp [Conversation.continuing]

def Sample.forecastCall : Value :=
  .object [("role", .str "assistant"), ("content", .null), ("mood", .int 3),
    ("tool_calls", .list [.object [("function", .object [("name", .str "get_weather"),
      ("arguments", .object [("days", .list [.int 1, .int 2])])])]])]

def Sample.forecastAnswer : Value :=
  .object [("choices", .list [.object [
    ("message", forecastCall), ("finish_reason", .str "tool_calls")]])]

def Sample.forecastRequest : Request where
  messages := [{ content := .str "Rain?", role := some .user }]

def Sample.forecastSession : Session Unit where
  registry := [.ofCallbacks [{
    name := .ofText "get_weather", handler := some (.raw fun _ => .ok (.now (.str "rain"))) }] none]
  link := ()

theorem Message.echo_faithful_forecast :
    (∃ m, decode Sample.forecastCall = .ok m ∧ decode m.toValue = .ok m) ∧
    ∃ c next t, Completion.decode Sample.forecastAnswer = .ok c ∧
      (Conversation.followUp Sample.forecastRequest (some c)).exec Sample.forecastSession =
        (.ok (some next), t) ∧
      ∃ choice others messages w encoded, c.choices = choice :: others ∧
        next.toValue = .ok encoded ∧ field "messages" encoded = .list messages ∧
        messages[Sample.forecastRequest.messages.length]? = some w ∧
        decode w = .ok choice.message := by
  obtain ⟨again, -, -, echoed⟩ := echo_faithful
  obtain ⟨choice, others, messages, w, hChoices, sendable, hMessages, place, hDecode⟩ :=
    echoed Unit Sample.forecastAnswer _ Sample.forecastRequest _ Sample.forecastSession _ rfl rfl
  obtain ⟨encoded, hEncoded⟩ := sendable _ rfl
  exact ⟨⟨_, rfl, again Sample.forecastCall _ rfl⟩, _, _, _, rfl, rfl, choice, others, messages, w,
    encoded, hChoices, hEncoded, hMessages encoded hEncoded, place, hDecode⟩

end

end Colloquy

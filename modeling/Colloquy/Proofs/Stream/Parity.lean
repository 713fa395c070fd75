import Colloquy.Client
import Colloquy.Proofs.Decoding.Messages
import Colloquy.Proofs.Exchange.Answers
import Colloquy.Proofs.Stream.Fragments

/-! # Answers in one piece and in a stream

The same data can come as a completion, or as the first fragment of a stream, where the messages of
its choices go by another name. Both ways it is decoded to the same choices or fails for the same
reason, and filling in roles changes nothing where every message says its own.
-/
set_option autoImplicit false

namespace Colloquy

open Grammar (field isObject)

namespace Members

def renamed (old new : String) (ms : Members) : Members :=
  ms.map fun m => if m.1 = old then (new, m.2) else m

variable {old new name : String} {ms : Members}

theorem get?_renamed_of_ne (otherOld : old ≠ name) (otherNew : new ≠ name) :
    Keyed.get? name (renamed old new ms) = Keyed.get? name ms := by
  induction ms with
  | nil => rfl
  | cons m rest ih =>
    obtain ⟨k, v⟩ := m
    rw [renamed] at ih
    by_cases h : k = old
    · subst h
      simpa [renamed, Keyed.get?, otherOld, otherNew] using ih
    · simp [renamed, Keyed.get?, h, ih]

theorem get?_renamed (fresh : Keyed.get? new ms = none) :
    Keyed.get? new (renamed old new ms) = Keyed.get? old ms := by
  induction ms with
  | nil => rfl
  | cons m rest ih =>
    obtain ⟨k, v⟩ := m
    have other : k ≠ new := Keyed.ne_of_get?_eq_none fresh (k, v) List.mem_cons_self
    rw [Keyed.get?, if_neg other] at fresh
    have later := ih fresh
    rw [renamed] at later
    by_cases h : k = old
    · simp [renamed, Keyed.get?, h]
    · simp [renamed, Keyed.get?, h, other, later]

end Members

def fragmentOf : Value → Value
  | .object ms => .object (Members.renamed "message" "delta" ms)
  | v => v

def fragmentsOf : Value → Value
  | .list items => .list (items.map fragmentOf)
  | v => v

def streamed (d : Members) : Members :=
  d.map fun m => (m.1, if m.1 = "choices" then fragmentsOf m.2 else m.2)

def Speaks (v : Value) : Prop :=
  ∃ ms said : Members, v = .object ms ∧ Keyed.get? "delta" ms = none ∧
    Keyed.get? "message" ms = some (.object said) ∧ (field "role" (.object said)).truthy = true

/-- Data that can come in one piece as well as in a stream. -/
structure Tellable (d : Members) : Prop where
  json : (Value.object d).IsJson Json.room
  id_text : ∀ v, Keyed.get? "id" d = some v → ∃ s, v = .str s
  noUsage : Keyed.get? "usage" d = none
  choices : (field "choices" (.object d)).truthy = false ∨
    ∃ items, field "choices" (.object d) = .list items ∧ ∀ v ∈ items, Speaks v

theorem Choice.decode_object (ms : Members) :
    decode (.object ms) =
      (Message.decode ((field "message" (.object ms)).orElse (.object []))).map fun message => {
        index := (Keyed.get? "index" ms).getD (.int 0)
        message
        finishReason := FinishReason.ofValue (field "finish_reason" (.object ms))
        logprobs := field "logprobs" (.object ms) } := by
  simp only [decode, Value.memberD_object, Value.member_object, ok_bind]
  cases Message.decode ((field "message" (.object ms)).orElse (.object [])) <;> rfl

theorem ChunkChoice.decode_object {ms : Members}
    (present : (field "delta" (.object ms)).truthy = true) :
    decode (.object ms) = (Message.decode (field "delta" (.object ms))).map fun message => {
      index := (Keyed.get? "index" ms).getD (.int 0)
      delta := some message
      finishReason := FinishReason.ofValue (field "finish_reason" (.object ms))
      logprobs := field "logprobs" (.object ms) } := by
  simp only [decode, Value.memberD_object, Value.member_object, ok_bind, if_pos present]
  cases Message.decode (field "delta" (.object ms)) <;> rfl

def ChunkChoice.ofChoice (c : Choice) : ChunkChoice where
  index := c.index
  delta := some c.message
  finishReason := c.finishReason
  logprobs := c.logprobs

theorem truthy_of_field {v : Value} {name : String} (h : (field name v).truthy = true) :
    v.truthy = true := by
  cases v with
  | object ms =>
    cases ms with
    | nil => cases h
    | cons m rest => rfl
  | _ => cases h

theorem orElse_message {ms said : Members} (message : Keyed.get? "message" ms = some (.object said))
    (role : (field "role" (.object said)).truthy = true) :
    (field "message" (.object ms)).orElse (.object []) = .object said := by
  simp [field, message, Value.orElse, truthy_of_field role]

theorem ChunkChoice.decode_fragmentOf {v : Value} (speaks : Speaks v) :
    decode (fragmentOf v) = (Choice.decode v).map ofChoice := by
  obtain ⟨ms, said, rfl, noDelta, message, role⟩ := speaks
  have delta : field "delta" (.object (Members.renamed "message" "delta" ms)) = .object said := by
    simp [field, Members.get?_renamed noDelta, message]
  have index : Keyed.get? "index" (Members.renamed "message" "delta" ms) = Keyed.get? "index" ms :=
    Members.get?_renamed_of_ne (by decide) (by decide)
  have finish : Keyed.get? "finish_reason" (Members.renamed "message" "delta" ms) =
      Keyed.get? "finish_reason" ms := Members.get?_renamed_of_ne (by decide) (by decide)
  have logprobs : Keyed.get? "logprobs" (Members.renamed "message" "delta" ms) =
      Keyed.get? "logprobs" ms := Members.get?_renamed_of_ne (by decide) (by decide)
  rw [fragmentOf, decode_object (by rw [delta, truthy_of_field role]), Choice.decode_object, delta,
    orElse_message message role]
  simp only [field, index, finish, logprobs]
  cases Message.decode (.object said) <;> rfl

theorem Completion.decode_object (d : Members) :
    decode (.object d) = do
      let items ← optionalElements (field "choices" (.object d))
      let choices ← items.mapM Choice.decode
      let status ← ServiceStatus.decode (field "base_resp" (.object d))
      let usage ← Usage.decode (field "usage" (.object d))
      return {
        id := (Keyed.get? "id" d).getD (.str "")
        choices
        created := ((Keyed.get? "created" d).getD (.int 0)).orElse (.int 0)
        model := ((Keyed.get? "model" d).getD (.str "")).orElse (.str "")
        systemFingerprint := field "system_fingerprint" (.object d)
        object := (field "object" (.object d)).orElse (.str "chat.completion")
        status
        usage } :=
  rfl

theorem Chunk.decode_object (d : Members) :
    decode (.object d) = do
      let items ← optionalElements (field "choices" (.object d))
      let choices ← items.mapM ChunkChoice.decode
      let status ← ServiceStatus.decode (field "base_resp" (.object d))
      return {
        id := (Keyed.get? "id" d).getD (.str "")
        choices
        created := ((Keyed.get? "created" d).getD (.int 0)).orElse (.int 0)
        model := ((Keyed.get? "model" d).getD (.str "")).orElse (.str "")
        systemFingerprint := field "system_fingerprint" (.object d)
        object := (field "object" (.object d)).orElse (.str "chat.completion.chunk")
        status } :=
  rfl

def Chunk.ofCompletion (object : Value) (c : Completion) : Chunk where
  id := c.id
  choices := c.choices.map ChunkChoice.ofChoice
  created := c.created
  model := c.model
  systemFingerprint := c.systemFingerprint
  object := object
  status := c.status

def fragmentKind (d : Members) : Value :=
  (field "object" (.object d)).orElse (.str "chat.completion.chunk")

theorem get?_streamed_of_ne {name : String} (other : name ≠ "choices") (d : Members) :
    Keyed.get? name (streamed d) = Keyed.get? name d := by
  rw [streamed, Keyed.get?_map_values (fun k v => if k = "choices" then fragmentsOf v else v)]
  simp [other]

theorem field_choices_streamed (d : Members) :
    field "choices" (.object (streamed d)) = fragmentsOf (field "choices" (.object d)) := by
  simp only [field, streamed,
    Keyed.get?_map_values (fun k v => if k = "choices" then fragmentsOf v else v)]
  cases Keyed.get? "choices" d <;> rfl

theorem optionalElements_list (items : List Value) : optionalElements (.list items) = .ok items := by
  cases items <;> rfl

theorem optionalElements_of_absent {v : Value} (absent : v.truthy = false) :
    optionalElements v = .ok [] := by
  simp [optionalElements, Value.orElse, absent, Value.elements]

theorem truthy_fragmentsOf (v : Value) : (fragmentsOf v).truthy = v.truthy := by
  cases v with
  | list items => cases items <;> rfl
  | _ => rfl

namespace Tellable

variable {d : Members}

theorem elements (h : Tellable d) :
    ∃ items, optionalElements (field "choices" (.object d)) = .ok items ∧
      optionalElements (field "choices" (.object (streamed d))) = .ok (items.map fragmentOf) ∧
      ∀ v ∈ items, Speaks v := by
  rw [field_choices_streamed]
  obtain absent | ⟨items, hItems, speaks⟩ := h.choices
  · have absentToo := (truthy_fragmentsOf (field "choices" (.object d))).trans absent
    exact ⟨[], optionalElements_of_absent absent, optionalElements_of_absent absentToo, by simp⟩
  · rw [hItems]
    exact ⟨items, optionalElements_list items, optionalElements_list _, speaks⟩

theorem usage_eq (h : Tellable d) : field "usage" (.object d) = .null := by
  simp [field, h.noUsage]

/-- Decoding gives the same choices in both forms, or fails with the same fault. -/
theorem decode_streamed (h : Tellable d) :
    Chunk.decode (.object (streamed d)) =
      (Completion.decode (.object d)).map (Chunk.ofCompletion (fragmentKind d)) := by
  obtain ⟨items, whole, fragments, speaks⟩ := h.elements
  have choices : (items.map fragmentOf).mapM ChunkChoice.decode =
      (items.mapM Choice.decode).map (List.map ChunkChoice.ofChoice) :=
    mapM_map_eq fun v hv => ChunkChoice.decode_fragmentOf (speaks v hv)
  have kept {name : String} (other : name ≠ "choices") :
      field name (.object (streamed d)) = field name (.object d) := by
    simp only [field, get?_streamed_of_ne other]
  have status := kept (show "base_resp" ≠ "choices" by decide)
  rw [Chunk.decode_object, Completion.decode_object, whole, fragments, ok_bind, ok_bind, choices,
    status, h.usage_eq]
  cases items.mapM Choice.decode with
  | error f => rfl
  | ok cs =>
    cases ServiceStatus.decode (field "base_resp" (.object d)) with
    | error f => rfl
    | ok s =>
      have id := get?_streamed_of_ne (show "id" ≠ "choices" by decide) d
      have created := get?_streamed_of_ne (show "created" ≠ "choices" by decide) d
      have model := get?_streamed_of_ne (show "model" ≠ "choices" by decide) d
      have fingerprint := kept (show "system_fingerprint" ≠ "choices" by decide)
      have object := kept (show "object" ≠ "choices" by decide)
      rw [id, created, model, fingerprint, object]
      rfl

end Tellable

theorem Role.decode_ne_none {v : Value} (present : v.truthy = true) : decode v ≠ .ok none := by
  intro h
  unfold decode at h
  rw [if_pos present] at h
  cases v with
  | str s => cases hName : ofName? s <;> simp [hName] at h
  | _ => cases h

theorem Message.role_of_decode {said : Members} {m : Message} (h : decode (.object said) = .ok m)
    (present : (field "role" (.object said)).truthy = true) : ∃ r, m.role = some r := by
  rw [decode_of_isObject rfl] at h
  obtain ⟨role, hRole, h⟩ := ok_of_bind h
  obtain ⟨calls, -, h⟩ := ok_of_bind h
  obtain rfl := Except.ok.inj h
  cases role with
  | none => exact absurd hRole (Role.decode_ne_none present)
  | some r => exact ⟨r, rfl⟩

theorem Choice.role_of_decode {v : Value} {choice : Choice} (speaks : Speaks v)
    (h : decode v = .ok choice) : ∃ r, choice.message.role = some r := by
  obtain ⟨ms, said, rfl, -, message, role⟩ := speaks
  rw [decode_object, orElse_message message role] at h
  obtain ⟨m, hMessage, rfl⟩ := ok_of_map h
  exact Message.role_of_decode hMessage role

structure Completion.Spoken (c : Completion) : Prop where
  named : ∃ name, Name.ofValue c.id = .ok name
  roles : ∀ choice ∈ c.choices, ∃ r, choice.message.role = some r
  noUsage : c.usage = none

theorem Tellable.spoken_of_decode {d : Members} {c : Completion} (h : Tellable d)
    (decoded : Completion.decode (.object d) = .ok c) : c.Spoken := by
  obtain ⟨items, whole, -, speaks⟩ := h.elements
  rw [Completion.decode_object, whole, h.usage_eq, ok_bind] at decoded
  obtain ⟨choices, hChoices, decoded⟩ := ok_of_bind decoded
  obtain ⟨status, -, decoded⟩ := ok_of_bind decoded
  obtain rfl := Except.ok.inj decoded
  constructor
  · cases hId : Keyed.get? "id" d with
    | none => exact ⟨_, rfl⟩
    | some v =>
      obtain ⟨s, rfl⟩ := h.id_text v hId
      exact ⟨_, rfl⟩
  · intro choice mem
    obtain ⟨v, hv, hChoice⟩ := exists_of_mem_mapM hChoices mem
    exact Choice.role_of_decode (speaks v hv) hChoice
  · rfl

namespace RoleMemory

theorem fillChoices_ofChoice {id : Value} {name : Name} (named : Name.ofValue id = .ok name)
    {cs : List Choice} (spoken : ∀ c ∈ cs, ∃ r, c.message.role = some r) (m : RoleMemory) :
    ∃ t, (fillChoices id (cs.map ChunkChoice.ofChoice)).exec m = (.ok cs, t) := by
  induction cs generalizing m with
  | nil => exact ⟨m, rfl⟩
  | cons c rest ih =>
    obtain ⟨r, role⟩ := spoken c List.mem_cons_self
    have first : (fillChoice id (ChunkChoice.ofChoice c)).exec m = (.ok c, m.remember name.key r) := by
      simp [fillChoice, fill, messageOf, ChunkChoice.ofChoice, Run.exec_bind, Run.exec_map, named,
        role, Except.map]
    obtain ⟨t, later⟩ := ih (fun c hc => spoken c (List.mem_cons_of_mem _ hc)) (m.remember name.key r)
    refine ⟨t, ?_⟩
    rw [List.map_cons, fillChoices, Run.exec_bind_of_ok first, Run.exec_bind_of_ok later]
    rfl

theorem normalize_ofCompletion {c : Completion} (spoken : c.Spoken) (object : Value)
    (m : RoleMemory) :
    ∃ t, normalize m (Chunk.ofCompletion object c) = (ServiceStatus.check c.status).map fun _ =>
      ({ id := c.id, choices := c.choices, created := c.created, model := c.model,
         systemFingerprint := c.systemFingerprint }, t) := by
  obtain ⟨name, named⟩ := spoken.named
  obtain ⟨t, filled⟩ := fillChoices_ofChoice named spoken.roles m
  refine ⟨t, ?_⟩
  simp only [normalize, normalizing, Chunk.ofCompletion, Run.exec_bind, Run.exec_pure,
    Run.exec_ofExcept]
  cases ServiceStatus.check c.status with
  | error f => rfl
  | ok u =>
    simp only [filled]
    rfl

theorem normalize_malformed (v : Value) (text : String) (m : RoleMemory) :
    normalize m (Chunk.malformed v text) = .error (.api
      ("Malformed stream fragment " ++ (Chunk.malformedId v).display ++ ": " ++ text) .null) :=
  rfl

/-- How the outcomes for the data `d` agree, of a completion and of a fragment. -/
inductive Alike (d : Members) : Except Fault (Option Completion) →
    Except Fault (Completion × RoleMemory) → Prop where
  | malformed {f : Fault} (shown : String) (broken : Completion.decode (.object d) = .error f) :
      Alike d (.error (.api ("MiniMax API returned a malformed completion: " ++ f.message) .null))
        (.error (.api ("Malformed stream fragment " ++ shown ++ ": " ++ f.message) .null))
  | refused {c : Completion} {s : ServiceStatus} (decoded : Completion.decode (.object d) = .ok c)
      (status : c.status = some s) (refuses : s.isOk = false) :
      Alike d (.error (.api s.refusal s.code)) (.error (.api s.refusal s.code))
  | told {c c' : Completion} {m : RoleMemory} (decoded : Completion.decode (.object d) = .ok c)
      (choices : c.choices = c'.choices)
      (asks : Conversation.asksForTools (some c) = Conversation.asksForTools (some c'))
      (response : Client.responseOf c = Client.responseOf c') :
      Alike d (.ok (some c)) (.ok (c', m))

def rainTold : Members := [
  ("id", .str "r1"),
  ("choices", .list [.object [
    ("message", .object [("role", .str "assistant"), ("content", .str "Rain.")]),
    ("finish_reason", .str "stop")]])]

theorem tellable_rainTold : Tellable rainTold where
  json := by
    have message : (Value.object [("role", .str "assistant"), ("content", .str "Rain.")]).IsJson 1 :=
      .object (by simpa using ⟨.str _, .str _⟩)
    have choice : (Value.object [("message", .object [("role", .str "assistant"),
        ("content", .str "Rain.")]), ("finish_reason", .str "stop")]).IsJson 2 :=
      .object (by simpa using ⟨message, .str _⟩)
    have shallow : (Value.object rainTold).IsJson 4 :=
      .object (by simpa [rainTold] using ⟨.str _, .list (by simpa using choice)⟩)
    exact shallow.mono (by decide)
  id_text := by
    intro v h
    exact ⟨"r1", (Option.some.inj h).symm⟩
  noUsage := rfl
  choices := by
    refine .inr ⟨_, rfl, ?_⟩
    intro v hv
    obtain rfl := List.mem_singleton.mp hv
    exact ⟨_, _, rfl, rfl, rfl, rfl⟩

end RoleMemory

end Colloquy

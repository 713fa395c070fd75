import Colloquy.RoleMemory

/-! # Fragments that fail

A fragment fails for one of three reasons, and each of them shows before anything is remembered. So
whether it fails does not depend on the memory, and the memory is as it was.
-/
set_option autoImplicit false

namespace Colloquy.RoleMemory

/-- The fragment says that it is malformed, it carries a refusal, or it has choices under an identifier
that cannot be a key. -/
def flawed (chunk : Chunk) : Bool :=
  chunk.error.isSome || chunk.status.any (fun s => !s.isOk) ||
    ((Name.ofValue? chunk.id).isNone && !chunk.choices.isEmpty)

theorem exec_fillChoice_of_error {id : Value} {f : Fault} (unnamed : Name.ofValue id = .error f)
    (c : ChunkChoice) (m : RoleMemory) : (fillChoice id c).exec m = (.error f, m) := by
  simp [fillChoice, fill, Run.exec_bind, unnamed]

theorem exec_fillChoice_of_ok {id : Value} {name : Name} (named : Name.ofValue id = .ok name)
    (c : ChunkChoice) (m : RoleMemory) :
    ∃ choice t, (fillChoice id c).exec m = (.ok choice, t) := by
  cases hRole : (messageOf c).role with
  | some r => simp [fillChoice, fill, Run.exec_bind, Run.exec_map, named, hRole, Except.map]
  | none => simp [fillChoice, fill, Run.exec_bind, Run.exec_map, named, hRole, Except.map]

theorem exec_fillChoices_of_ok {id : Value} {name : Name} (named : Name.ofValue id = .ok name)
    (cs : List ChunkChoice) (m : RoleMemory) :
    ∃ choices t, (fillChoices id cs).exec m = (.ok choices, t) := by
  induction cs generalizing m with
  | nil => exact ⟨[], m, rfl⟩
  | cons c rest ih =>
    obtain ⟨choice, t, first⟩ := exec_fillChoice_of_ok named c m
    obtain ⟨choices, u, later⟩ := ih t
    refine ⟨choice :: choices, u, ?_⟩
    rw [fillChoices, Run.exec_bind_of_ok first, Run.exec_bind_of_ok later]
    rfl

/-- An identifier that cannot be a key is met at the first choice already. -/
theorem exec_fillChoices_of_error {id : Value} {f : Fault} (unnamed : Name.ofValue id = .error f)
    (c : ChunkChoice) (rest : List ChunkChoice) (m : RoleMemory) :
    (fillChoices id (c :: rest)).exec m = (.error f, m) := by
  rw [fillChoices, Run.exec_bind, exec_fillChoice_of_error unnamed]

theorem ofValue_eq_ok {v : Value} {name : Name} (h : Name.ofValue? v = some name) :
    Name.ofValue v = .ok name := by
  rw [Name.ofValue, h]

theorem ofValue_eq_error {v : Value} (h : Name.ofValue? v = none) :
    Name.ofValue v = .error (.notKey v.notKeyKind) := by
  rw [Name.ofValue, h]

theorem fillChoices_cases (id : Value) (cs : List ChunkChoice) (m : RoleMemory) :
    (((Name.ofValue? id).isNone && !cs.isEmpty) = false ∧
      ∃ choices t, (fillChoices id cs).exec m = (.ok choices, t)) ∨
    (((Name.ofValue? id).isNone && !cs.isEmpty) = true ∧
      (fillChoices id cs).exec m = (.error (.notKey id.notKeyKind), m)) := by
  cases hName : Name.ofValue? id with
  | some name => exact .inl ⟨rfl, exec_fillChoices_of_ok (ofValue_eq_ok hName) cs m⟩
  | none =>
    cases cs with
    | nil => exact .inl ⟨rfl, [], m, rfl⟩
    | cons c rest =>
      exact .inr ⟨rfl, exec_fillChoices_of_error (ofValue_eq_error hName) c rest m⟩

theorem check_cases (status : Option ServiceStatus) :
    (status.any (fun s => !s.isOk) = false ∧ ServiceStatus.check status = .ok ()) ∨
    (status.any (fun s => !s.isOk) = true ∧
      ∃ message code, ServiceStatus.check status = .error (.api message code)) := by
  cases status with
  | none => exact .inl ⟨rfl, rfl⟩
  | some s =>
    cases hOk : s.isOk with
    | true => exact .inl ⟨by simp [hOk], by simp [ServiceStatus.check, hOk]⟩
    | false =>
      exact .inr ⟨by simp [hOk], s.refusal, s.code, by simp [ServiceStatus.check, hOk]⟩

/-- A fragment becomes a completion unless it is flawed; one that is leaves the memory alone. -/
theorem normalizing_cases (chunk : Chunk) (m : RoleMemory) :
    (flawed chunk = false ∧ ∃ completion t, (normalizing chunk).exec m = (.ok completion, t)) ∨
    (flawed chunk = true ∧
      ∃ f, f ≠ .streamedToolCall ∧ (normalizing chunk).exec m = (.error f, m)) := by
  unfold flawed normalizing
  cases hError : chunk.error with
  | some e =>
    refine .inr ⟨rfl, _, ?_, rfl⟩
    simp
  | none =>
    obtain ⟨hStatus, check⟩ | ⟨hStatus, message, code, check⟩ := check_cases chunk.status
    · obtain ⟨hId, choices, t, filled⟩ | ⟨hId, unfilled⟩ :=
        fillChoices_cases chunk.id chunk.choices m
      · refine .inl ⟨by simp [hStatus, hId], ?_⟩
        simp [Run.exec_bind, Run.exec_map, check, filled, Except.map]
      · refine .inr ⟨by simp [hId], .notKey chunk.id.notKeyKind, by simp, ?_⟩
        simp [Run.exec_bind, Run.exec_map, check, unfilled, Except.map]
    · refine .inr ⟨by simp [hStatus], .api message code, by simp, ?_⟩
      simp [Run.exec_bind, check]

theorem kept_of_normalizing {chunk : Chunk} {m t : RoleMemory} {f : Fault}
    (h : (normalizing chunk).exec m = (.error f, t)) : t = m ∧ f ≠ .streamedToolCall := by
  obtain ⟨-, completion, u, ran⟩ | ⟨-, g, hg, ran⟩ := normalizing_cases chunk m
  · rw [ran] at h
    cases h
  · rw [ran] at h
    obtain ⟨hFault, hMemory⟩ := Prod.mk.inj h
    exact ⟨hMemory.symm, Except.error.inj hFault ▸ hg⟩

theorem fails_iff_flawed (chunk : Chunk) (m : RoleMemory) :
    (∃ f, ((normalizing chunk).exec m).1 = .error f) ↔ flawed chunk = true := by
  obtain ⟨sound, completion, t, ran⟩ | ⟨broken, f, -, ran⟩ := normalizing_cases chunk m
  · simp [ran, sound]
  · simp [ran, broken]

end Colloquy.RoleMemory

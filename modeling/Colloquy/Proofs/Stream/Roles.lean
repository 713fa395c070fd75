import Colloquy.Proofs.Names
import Colloquy.Proofs.Stream.Fragments

/-!
# Roles through a whole stream

What the memory holds under an identifier is the first role that a choice under it carried, in any
fragment that does not fail. So the role that a choice is given can be read off the fragments before
it, and fragments under other identifiers, and failing ones, make no difference.
-/
set_option autoImplicit false

namespace Colloquy.RoleMemory

/-- The role that a choice carries. One without a message speaks for the assistant. -/
def carried (c : ChunkChoice) : Option Role :=
  match c.delta with
  | none => some .assistant
  | some m => m.role

def told (first : Option Role) (c : ChunkChoice) : Choice where
  index := c.index
  message := match c.delta with
    | none => { content := .str "", role := some .assistant }
    | some m => { m with role := m.role.or first }
  finishReason := c.finishReason
  logprobs := c.logprobs

def toldAll (first : Option Role) (cs : List ChunkChoice) : List Choice :=
  cs.mapIdx fun i c => told (first.or ((cs.take i).findSome? carried)) c

def toldChunk (first : Option Role) (chunk : Chunk) : Completion where
  id := chunk.id
  choices := toldAll first chunk.choices
  created := chunk.created
  model := chunk.model
  systemFingerprint := chunk.systemFingerprint

def isUnder (key : Key) (chunk : Chunk) : Bool := chunk.id.key? = some key

def carriedUnder (key : Key) (chunk : Chunk) : Option Role :=
  if isUnder key chunk && !flawed chunk then chunk.choices.findSome? carried else none

def firstSaid (key : Key) (chunks : List Chunk) : Option Role :=
  chunks.findSome? (carriedUnder key)

/-! ## Choices -/

theorem toldAll_cons (first : Option Role) (c : ChunkChoice) (rest : List ChunkChoice) :
    toldAll first (c :: rest) = told first c :: toldAll (first.or (carried c)) rest := by
  simp only [toldAll, List.mapIdx_cons, List.take_zero, List.findSome?_nil, Option.or_none,
    List.take_succ_cons, List.findSome?_cons]
  cases carried c <;> simp

def hear (key : Key) (c : ChunkChoice) (m : RoleMemory) : RoleMemory :=
  (carried c).elim m fun r => m.remember key r

theorem get?_hear (key other : Key) (c : ChunkChoice) (m : RoleMemory) :
    (hear key c m).get? other =
      if key = other then (m.get? other).or (carried c) else m.get? other := by
  unfold hear remember
  cases carried c with
  | none => simp
  | some r =>
    by_cases same : key = other
    · subst same
      cases held : m.get? key <;> simp [held]
    · cases m.get? key <;> simp [same, Keyed.get?_insert]

theorem exec_fillChoice {id : Value} {name : Name} (named : Name.ofValue id = .ok name)
    (c : ChunkChoice) (m : RoleMemory) :
    (fillChoice id c).exec m = (.ok (told (m.get? name.key) c), hear name.key c m) := by
  cases hDelta : c.delta with
  | none =>
    simp [fillChoice, fill, Run.exec_bind, Run.exec_map, Except.map, named, messageOf, told, hear,
      carried, hDelta]
  | some message =>
    obtain ⟨content, role, speaker, callId, calls⟩ := message
    cases role <;>
      simp [fillChoice, fill, Run.exec_bind, Run.exec_map, Except.map, named, messageOf, told, hear,
        carried, hDelta]

theorem exec_fillChoices {id : Value} {name : Name} (named : Name.ofValue id = .ok name)
    (cs : List ChunkChoice) (m : RoleMemory) :
    ∃ t, (fillChoices id cs).exec m = (.ok (toldAll (m.get? name.key) cs), t) ∧
      ∀ other, t.get? other =
        (m.get? other).or (if name.key = other then cs.findSome? carried else none) := by
  induction cs generalizing m with
  | nil => exact ⟨m, rfl, by simp⟩
  | cons c rest ih =>
    obtain ⟨t, ran, held⟩ := ih (hear name.key c m)
    refine ⟨t, ?_, ?_⟩
    · rw [fillChoices, Run.exec_bind_of_ok (exec_fillChoice named c m), Run.exec_bind_of_ok ran,
        toldAll_cons, get?_hear, if_pos rfl]
      rfl
    · intro other
      rw [held, get?_hear]
      by_cases same : name.key = other
      · simp only [if_pos same, List.findSome?_cons, Option.or_assoc]
        cases carried c <;> rfl
      · simp only [if_neg same]

/-! ## Fragments -/

/-- Why a fragment fails, where that does not depend on its choices. -/
def clearance (chunk : Chunk) : Except Fault Unit :=
  match chunk.error with
  | some e => .error (.api ("Malformed stream fragment " ++ chunk.id.display ++ ": " ++ e) .null)
  | none => ServiceStatus.check chunk.status

theorem exec_normalizing (chunk : Chunk) (m : RoleMemory) :
    (normalizing chunk).exec m = match clearance chunk, (fillChoices chunk.id chunk.choices).exec m with
      | .error f, _ => (.error f, m)
      | .ok _, (.error f, t) => (.error f, t)
      | .ok _, (.ok choices, t) => (.ok { toldChunk none chunk with choices }, t) := by
  unfold normalizing clearance
  cases chunk.error with
  | some e => rfl
  | none =>
    simp only [Run.exec_bind, Run.exec_ofExcept]
    cases ServiceStatus.check chunk.status with
    | error f => rfl
    | ok _ =>
      simp only []
      rcases (fillChoices chunk.id chunk.choices).exec m with ⟨_ | choices, t⟩ <;> rfl

theorem clearance_cases {chunk : Chunk} {name : Name} (named : Name.ofValue chunk.id = .ok name) :
    (clearance chunk = .ok () ∧ flawed chunk = false) ∨
      ∃ f, clearance chunk = .error f ∧ flawed chunk = true := by
  have isKey : (Name.ofValue? chunk.id).isNone = false := by
    cases hName : Name.ofValue? chunk.id with
    | some n => rfl
    | none => cases named.symm.trans (ofValue_eq_error hName)
  unfold clearance flawed
  cases chunk.error with
  | some e => exact .inr ⟨_, rfl, rfl⟩
  | none =>
    obtain ⟨hStatus, check⟩ | ⟨hStatus, message, code, check⟩ := check_cases chunk.status
    · exact .inl ⟨check, by simp [hStatus, isKey]⟩
    · exact .inr ⟨_, check, by simp [hStatus]⟩

theorem exec_normalizing_of_named {chunk : Chunk} {name : Name}
    (named : Name.ofValue chunk.id = .ok name) (m : RoleMemory) :
    ∃ t, (normalizing chunk).exec m =
        ((clearance chunk).map fun _ => toldChunk (m.get? name.key) chunk, t) ∧
      ∀ other, t.get? other = (m.get? other).or (carriedUnder other chunk) := by
  have under (other : Key) : isUnder other chunk = decide (name.key = other) := by
    simp [isUnder, Name.key_of_ofValue named]
  rw [exec_normalizing]
  obtain ⟨passed, sound⟩ | ⟨f, refused, broken⟩ := clearance_cases named
  · obtain ⟨t, filled, held⟩ := exec_fillChoices named chunk.choices m
    refine ⟨t, ?_, ?_⟩
    · rw [passed, filled]
      rfl
    · intro other
      rw [held, carriedUnder, under, sound]
      simp
  · refine ⟨m, ?_, ?_⟩
    · rw [refused]
      rfl
    · intro other
      simp [carriedUnder, broken]

theorem normalizing_of_sound {chunk : Chunk} {id : String} (hId : chunk.id = .str id)
    (sound : flawed chunk = false) (m : RoleMemory) :
    ((normalizing chunk).exec m).1 = .ok (toldChunk (m.get? (.text id)) chunk) := by
  have named : Name.ofValue chunk.id = .ok (Name.ofText id) := by
    rw [hId]
    rfl
  obtain ⟨t, ran, -⟩ := exec_normalizing_of_named named m
  obtain ⟨passed, -⟩ | ⟨f, -, broken⟩ := clearance_cases named
  · rw [ran, passed]
    rfl
  · cases broken.symm.trans sound

theorem normalizing_memory (chunk : Chunk) (m : RoleMemory) (key : Key) :
    ((normalizing chunk).exec m).2.get? key = (m.get? key).or (carriedUnder key chunk) := by
  cases named : Name.ofValue chunk.id with
  | ok name =>
    obtain ⟨t, ran, held⟩ := exec_normalizing_of_named named m
    rw [ran]
    exact held key
  | error f =>
    have nothing : carriedUnder key chunk = none := by
      have notUnder : isUnder key chunk = false := by
        apply decide_eq_false
        intro hKey
        obtain ⟨name, hName⟩ := Name.ofValue_of_key hKey
        cases hName.symm.trans named
      simp [carriedUnder, notUnder]
    have filled : ∃ outcome, (fillChoices chunk.id chunk.choices).exec m = (outcome, m) := by
      cases chunk.choices with
      | nil => exact ⟨_, rfl⟩
      | cons c rest => exact ⟨_, exec_fillChoices_of_error named c rest m⟩
    obtain ⟨outcome, ran⟩ := filled
    rw [nothing, Option.or_none, exec_normalizing, ran]
    cases clearance chunk with
    | error f => rfl
    | ok _ => cases outcome <;> rfl

/-! ## Streams -/

def normalizeAll : RoleMemory → List Chunk → List (Except Fault Completion) × RoleMemory
  | m, [] => ([], m)
  | m, chunk :: rest =>
    let ran := (normalizing chunk).exec m
    let later := normalizeAll ran.2 rest
    (ran.1 :: later.1, later.2)

theorem normalizeAll_memory (m : RoleMemory) (chunks : List Chunk) (key : Key) :
    (normalizeAll m chunks).2.get? key = (m.get? key).or (firstSaid key chunks) := by
  induction chunks generalizing m with
  | nil => simp [normalizeAll, firstSaid]
  | cons chunk rest ih =>
    rw [normalizeAll, ih, normalizing_memory, Option.or_assoc, firstSaid, firstSaid,
      List.findSome?_cons]
    cases carriedUnder key chunk <;> rfl

theorem length_normalizeAll (m : RoleMemory) (chunks : List Chunk) :
    (normalizeAll m chunks).1.length = chunks.length := by
  induction chunks generalizing m with
  | nil => rfl
  | cons chunk rest ih => exact congrArg (· + 1) (ih _)

theorem getElem?_normalizeAll (m : RoleMemory) (chunks : List Chunk) (j : Nat) :
    (normalizeAll m chunks).1[j]? = chunks[j]?.map fun chunk =>
      ((normalizing chunk).exec (normalizeAll m (chunks.take j)).2).1 := by
  induction chunks generalizing m j with
  | nil => rfl
  | cons chunk rest ih =>
    cases j with
    | zero => rfl
    | succ j => exact ih _ j

/-- Fragments under one key come out the same without those under others. -/
theorem normalizeAll_filter {key : Key} {m n : RoleMemory} (same : m.get? key = n.get? key)
    (chunks : List Chunk) :
    ((chunks.zip (normalizeAll m chunks).1).filter fun p => isUnder key p.1).map Prod.snd =
      (normalizeAll n (chunks.filter (isUnder key))).1 := by
  induction chunks generalizing m n with
  | nil => rfl
  | cons chunk rest ih =>
    rw [normalizeAll, List.zip_cons_cons]
    cases under : isUnder key chunk with
    | true =>
      obtain ⟨name, named⟩ := Name.ofValue_of_key (of_decide_eq_true under)
      have hKey : name.key = key :=
        Option.some.inj ((Name.key_of_ofValue named).symm.trans (of_decide_eq_true under))
      have outcome : ((normalizing chunk).exec m).1 = ((normalizing chunk).exec n).1 := by
        obtain ⟨t, first, -⟩ := exec_normalizing_of_named named m
        obtain ⟨u, second, -⟩ := exec_normalizing_of_named named n
        rw [first, second, hKey, same]
      have held : ((normalizing chunk).exec m).2.get? key =
          ((normalizing chunk).exec n).2.get? key := by
        rw [normalizing_memory, normalizing_memory, same]
      rw [List.filter_cons_of_pos (by exact under), List.filter_cons_of_pos under, List.map_cons,
        ih held, outcome, normalizeAll]
    | false =>
      have held : ((normalizing chunk).exec m).2.get? key = n.get? key := by
        rw [normalizing_memory, carriedUnder, under, ← same]
        exact Option.or_none
      rw [List.filter_cons_of_neg (by simp [under]), List.filter_cons_of_neg (by simp [under]),
        ih held]

/-- What has to hold of the outcomes for the fragments of a stream, and of the memory they leave. -/
structure Propagated (chunks : List Chunk) (outcomes : List (Except Fault Completion))
    (memory : RoleMemory) : Prop where
  length_eq : outcomes.length = chunks.length
  fails : ∀ (j : Nat) chunk, chunks[j]? = some chunk → flawed chunk = true →
    ∃ f, outcomes[j]? = some (Except.error f)
  passes : ∀ (j : Nat) chunk id, chunks[j]? = some chunk → chunk.id = .str id →
    flawed chunk = false →
      outcomes[j]? = some (Except.ok (toldChunk (firstSaid (.text id) (chunks.take j)) chunk))
  remembered : ∀ id, roleFor (.str id) memory = .ok (firstSaid (.text id) chunks)
  /-- What else is in the stream, and where, makes no difference to one identifier. -/
  alone : ∀ id, ((chunks.zip outcomes).filter fun p => isUnder (.text id) p.1).map Prod.snd =
    (normalizeAll [] (chunks.filter (isUnder (.text id)))).1

/-- A role is told with every later fragment of its identifier, and nothing else of a fragment changes. -/
theorem roles_propagated (chunks : List Chunk) :
    Propagated chunks (normalizeAll [] chunks).1 (normalizeAll [] chunks).2 := by
  have at? {j : Nat} {chunk : Chunk} (hChunk : chunks[j]? = some chunk) :
      (normalizeAll [] chunks).1[j]? =
        some ((normalizing chunk).exec (normalizeAll [] (chunks.take j)).2).1 := by
    rw [getElem?_normalizeAll, hChunk]
    rfl
  have held (id : String) (before : List Chunk) :
      (normalizeAll [] before).2.get? (.text id) = firstSaid (.text id) before := by
    rw [normalizeAll_memory]
    rfl
  refine ⟨length_normalizeAll [] chunks, ?_, ?_, ?_, ?_⟩
  · intro j chunk hChunk broken
    obtain ⟨f, failed⟩ :=
      (fails_iff_flawed chunk (normalizeAll [] (chunks.take j)).2).mpr broken
    exact ⟨f, by rw [at? hChunk, failed]⟩
  · intro j chunk id hChunk hId sound
    rw [at? hChunk, normalizing_of_sound hId sound, held]
  · intro id
    exact congrArg Except.ok (held id chunks)
  · intro id
    exact normalizeAll_filter rfl chunks

example :
    let later : ChunkChoice :=
      { index := .int 1, delta := some { content := .str "so", role := none } }
    let chunk : Chunk := { id := .str "a", choices := [{ index := .int 0, delta := none }, later] }
    (normalizeAll [] [{ chunk with error := some "cut off" }, { chunk with id := .str "b" },
      { chunk with choices := [later] }, chunk]).1.map (·.toOption.map
        fun completion => completion.choices.map fun choice => choice.message.role) =
      [none, some [some .assistant, some .assistant], some [none],
        some [some .assistant, some .assistant]] := by
  rfl

end Colloquy.RoleMemory

import Colloquy.Proofs.Config.Wire

/-! # Keys that a section does not know

A section takes what stands under the keys it knows, in whatever mapping they stand. The other keys
are put in order and joined into a note, and this is where a mapping may be lost: keys of different
kinds have no order, and only texts can be joined. So other keys are harmless exactly where they are
texts.
-/
set_option autoImplicit false

namespace Colloquy

/-! ## Names that have no order -/

theorem Moment.family_of_less {s t : Moment} {e : NumberError} (h : s.less t = .error e) :
    (Fault.number e).family = .type := by
  unfold Moment.less at h
  split at h <;> cases h <;> rfl

namespace Value

mutual

theorem family_of_less {a b : Value} {e : NumberError} (h : less a b = .error e) :
    (Fault.number e).family = .type := by
  match a with
  | list xs =>
    cases b with
    | list ys => exact family_of_lessItems (by simpa [less] using h)
    | _ =>
      obtain rfl := Except.error.inj h
      rfl
  | pair x y =>
    cases b with
    | pair z w =>
      simp only [less] at h
      split at h
      · exact family_of_less h
      · split at h
        · exact family_of_less h
        · cases h
    | _ =>
      obtain rfl := Except.error.inj h
      rfl
  | null | bool p | int p | float p | object p | table p =>
    simp only [less] at h
    split at h <;> cases h
    rfl
  | str p | set p | atom p =>
    simp only [less] at h
    split at h
    · cases h
    · split at h
      case h_4 => exact Moment.family_of_less h
      case h_5 =>
        cases h
        rfl
      all_goals cases h
termination_by structural a

theorem family_of_lessItems {xs ys : List Value} {e : NumberError} (h : lessItems xs ys = .error e) :
    (Fault.number e).family = .type := by
  match xs, ys with
  | [], ys => cases h
  | x :: xs, [] => cases h
  | x :: xs, y :: ys =>
    simp only [lessItems] at h
    split at h
    · exact family_of_lessItems h
    · exact family_of_less h
termination_by structural xs

end

def IsText (v : Value) : Prop := ∃ t, v = .str t

theorem texts_of_stray {vs : List Value} (stray : ∃ v ∈ vs, ¬ v.IsText) (position : Nat) :
    ∃ f, texts position vs = .error f ∧ f.family = .type := by
  induction vs generalizing position with
  | nil => simp at stray
  | cons v rest ih =>
    cases v with
    | str t =>
      obtain ⟨w, hw, hStray⟩ := stray
      obtain rfl | hw := List.mem_cons.mp hw
      · exact absurd ⟨t, rfl⟩ hStray
      · obtain ⟨f, hRest, hFamily⟩ := ih ⟨w, hw, hStray⟩ (position + 1)
        refine ⟨f, ?_, hFamily⟩
        rw [texts, hRest, error_bind]
    | _ => exact ⟨_, rfl, rfl⟩

end Value

theorem Key.ofScaled_ne_text (negative : Bool) (m : Nat) (q : Int) (t : String) :
    ofScaled negative m q ≠ .text t := by
  unfold ofScaled
  dsimp only
  split <;> intro h <;> cases h

theorem Key.ofFloat_ne_text (x : Float) (t : String) : ofFloat x ≠ .text t := by
  unfold ofFloat
  split
  · simp
  · simp
  · exact ofScaled_ne_text _ _ _ t

namespace Name

theorem isText_iff_shown (n : Name) : n.isText = true ↔ n.shown.IsText := by
  constructor
  · intro text
    obtain ⟨t, rfl⟩ := eq_ofText text
    exact ⟨t, rfl⟩
  · rintro ⟨t, hShown⟩
    simp [isText, hShown]

theorem isText_iff_key (n : Name) : n.isText = true ↔ ∃ t, n.key = .text t := by
  constructor
  · intro text
    obtain ⟨t, rfl⟩ := eq_ofText text
    exact ⟨t, rfl⟩
  · rintro ⟨t, hKey⟩
    have isKey := n.isKey
    rw [hKey] at isKey
    rw [isText_iff_shown]
    cases hShown : n.shown with
    | str s => exact ⟨s, rfl⟩
    | float x =>
      simp only [hShown, Value.key?, Option.some.injEq] at isKey
      exact absurd isKey (Key.ofFloat_ne_text x t)
    | pair a b =>
      simp only [hShown, Value.key?] at isKey
      obtain ⟨first, -, isKey⟩ := Option.bind_eq_some_iff.mp isKey
      obtain ⟨second, -, isKey⟩ := Option.bind_eq_some_iff.mp isKey
      cases isKey
    | atom a => cases a <;> simp [hShown, Value.key?, Atom.key?] at isKey
    | _ => simp [hShown, Value.key?] at isKey

theorem family_of_insertOrdered {n : Name} {names : List Name} {e : NumberError}
    (h : insertOrdered n names = .error e) : (Fault.number e).family = .type := by
  induction names with
  | nil => cases h
  | cons m rest ih =>
    rw [insertOrdered] at h
    obtain compared | ⟨less, -, h⟩ := error_of_bind h
    · exact Value.family_of_less compared
    · cases less with
      | true => cases h
      | false =>
        obtain inserted | ⟨below, -, h⟩ := error_of_bind h
        · exact ih inserted
        · cases h

theorem family_of_foldlM_insertOrdered {names before : List Name} {e : NumberError}
    (h : names.foldlM (fun sorted n => insertOrdered n sorted) before = .error e) :
    (Fault.number e).family = .type := by
  induction names generalizing before with
  | nil => cases h
  | cons n rest ih =>
    rw [List.foldlM_cons] at h
    obtain first | ⟨middle, -, later⟩ := error_of_bind h
    · exact family_of_insertOrdered first
    · exact ih later

theorem family_of_ordered {names : List Name} {e : NumberError} (h : ordered names = .error e) :
    (Fault.number e).family = .type := by
  unfold ordered at h
  split at h
  · cases h
  · exact family_of_foldlM_insertOrdered h

theorem mapM_ofValue_of_keys {vs : List Value} (keys : ∀ v ∈ vs, ∃ key, v.key? = some key) :
    ∃ names, vs.mapM ofValue = .ok names ∧ names.map shown = vs := by
  induction vs with
  | nil => exact ⟨[], rfl, rfl⟩
  | cons v rest ih =>
    obtain ⟨⟨key, hKey⟩, others⟩ := List.forall_mem_cons.mp keys
    obtain ⟨name, named⟩ := ofValue_of_key hKey
    obtain ⟨names, hRest, hShown⟩ := ih others
    refine ⟨name :: names, ?_, ?_⟩
    · rw [List.mapM_cons, named, hRest]
      rfl
    · rw [List.map_cons, hShown, shown_of_ofValue named]

theorem ordered_of_stray {names : List Name} (stray : ∃ n ∈ names, ¬ n.isText = true) :
    (∃ e, ordered names = .error e ∧ (Fault.number e).family = .type) ∨
      ∃ sorted f, ordered names = .ok sorted ∧ sorted ≠ [] ∧
        Value.texts 0 (sorted.map shown) = .error f ∧ f.family = .type := by
  cases hOrdered : ordered names with
  | error e => exact .inl ⟨e, rfl, family_of_ordered hOrdered⟩
  | ok sorted =>
    obtain ⟨n, hn, notText⟩ := stray
    have there : n ∈ sorted := (sorted_of_ordered hOrdered).perm.mem_iff.mpr hn
    rw [isText_iff_shown] at notText
    obtain ⟨f, hTexts, hFamily⟩ :=
      Value.texts_of_stray ⟨n.shown, List.mem_map_of_mem there, notText⟩ 0
    exact .inr ⟨sorted, f, rfl, List.ne_nil_of_mem there, hTexts, hFamily⟩

end Name

/-! ## Mappings -/

namespace Value

/-- A mapping with its entries in order. Whatever can be a key may be one in it. -/
inductive Maps : Value → List (Value × Value) → Prop where
  | object (ms : Members) : Maps (.object ms) (ms.map fun m => (.str m.1, m.2))
  | table {es : List (Value × Value)} (keyed : ∀ e ∈ es, ∃ key, e.1.key? = some key) :
      Maps (.table es) es

namespace Maps

variable {raw : Value} {es : List (Value × Value)}

theorem elements (maps : raw.Maps es) : raw.elements = .ok (es.map Prod.fst) := by
  cases maps with
  | object ms => simp [Value.elements]
  | table keyed => rfl

theorem truthy (maps : raw.Maps es) : raw.truthy = !es.isEmpty := by
  cases maps with
  | object ms => cases ms <;> rfl
  | table keyed => rfl

theorem keys (maps : raw.Maps es) : ∀ v ∈ es.map Prod.fst, ∃ key, v.key? = some key := by
  intro v hv
  obtain ⟨e, he, rfl⟩ := List.mem_map.mp hv
  cases maps with
  | object ms =>
    obtain ⟨m, -, rfl⟩ := List.mem_map.mp he
    exact ⟨_, rfl⟩
  | table keyed => exact keyed e he

theorem member? (maps : raw.Maps es) (name : String) : raw.member? name = .ok (underText? name es) := by
  cases maps with
  | object ms =>
    refine congrArg Except.ok ?_
    induction ms with
    | nil => rfl
    | cons m rest ih =>
      by_cases h : m.1 = name
      · simp [Keyed.get?, underText?, h]
      · simpa [Keyed.get?, underText?, h] using ih
  | table keyed => rfl

theorem setOf (maps : raw.Maps es) : ∃ names, Name.setOf raw = .ok (Name.distinct names) ∧
    names.map Name.shown = es.map Prod.fst := by
  obtain ⟨names, named, hShown⟩ := Name.mapM_ofValue_of_keys maps.keys
  refine ⟨names, ?_, hShown⟩
  rw [Name.setOf, maps.elements, ok_bind, named]
  rfl

end Maps
end Value

namespace Section

variable {raw : Value} {es : List (Value × Value)}

def heeded (s : Section) (es : List (Value × Value)) : Members :=
  es.filterMap fun
    | (.str k, v) => if s.keys.contains k then some (k, v) else none
    | _ => none

def unheeded (s : Section) (es : List (Value × Value)) : List String :=
  es.filterMap fun
    | (.str k, _) => if s.keys.contains k then none else some k
    | _ => none

theorem known_of_maps (s : Section) (maps : raw.Maps es) : s.known raw = .ok (s.heeded es) := by
  cases maps with
  | object ms =>
    refine congrArg Except.ok ?_
    rw [heeded, List.filterMap_map, ← List.filterMap_eq_filter]
    rfl
  | table keyed => rfl

theorem read_congr (s : Section) {other : Value} (maps : raw.Maps es) (maps' : other.Maps es) :
    s.read raw = s.read other := by
  simp only [read, unknown, Name.setOf, maps.elements, maps'.elements, maps.truthy, maps'.truthy,
    s.known_of_maps maps, s.known_of_maps maps']

theorem get?_heeded (s : Section) (es : List (Value × Value)) (name : String) :
    Keyed.get? name (s.heeded es) = if name ∈ s.keys then Value.underText? name es else none := by
  induction es with
  | nil => simp [heeded, Keyed.get?, Value.underText?]
  | cons e rest ih =>
    obtain ⟨k, v⟩ := e
    rw [heeded] at ih
    cases k with
    | str k =>
      by_cases hName : k = name <;> by_cases hKey : k ∈ s.keys <;>
        simp_all [heeded, Keyed.get?, Value.underText?]
    | _ => simpa [heeded, Value.underText?] using ih

theorem members_of_texts (texts : ∀ e ∈ es, e.1.IsText) :
    ∃ ms : Members, es = ms.map fun m => (.str m.1, m.2) := by
  induction es with
  | nil => exact ⟨[], rfl⟩
  | cons e rest ih =>
    obtain ⟨⟨t, hText⟩, others⟩ := List.forall_mem_cons.mp texts
    obtain ⟨ms, hRest⟩ := ih others
    refine ⟨(t, e.2) :: ms, ?_⟩
    rw [List.map_cons, ← hRest, ← hText]

theorem unheeded_members (s : Section) (ms : Members) :
    s.unheeded (ms.map fun m => (.str m.1, m.2)) = s.strange ms := by
  induction ms with
  | nil => rfl
  | cons m rest ih =>
    rw [unheeded] at ih
    rw [strange, Keyed.keys] at ih ⊢
    by_cases hKey : m.1 ∈ s.keys <;> simp_all [unheeded]

theorem exec_read_of_texts (s : Section) (maps : raw.Maps es) (texts : ∀ e ∈ es, e.1.IsText)
    (log : List LogEntry) : ∃ unknown, Alphabetical (s.unheeded es) unknown ∧
      (s.read raw).exec log = (.ok (s.heeded es), log ++ s.notes unknown) := by
  obtain ⟨ms, rfl⟩ := members_of_texts texts
  have hRaw : (Value.object ms).orElse (.object []) = .object ms := by
    cases ms <;> rfl
  obtain ⟨unknown, alphabetical, ran⟩ := s.exec_read hRaw log
  refine ⟨unknown, ?_, ?_⟩
  · rw [unheeded_members]
    exact alphabetical
  · have heeds : ms.filter (fun p => s.keys.contains p.1) = s.heeded _ :=
      Except.ok.inj (s.known_of_maps (.object ms))
    rw [s.read_congr maps (.object ms), ran, heeds]

/-- A key that is no text is never known, and nothing can be noted on it. -/
theorem exec_read_of_stray (s : Section) (maps : raw.Maps es) (stray : ∃ e ∈ es, ¬ e.1.IsText) :
    ∃ f, f.family = .type ∧ ∀ log, (s.read raw).exec log = (.error f, log) := by
  obtain ⟨e, he, notText⟩ := stray
  obtain ⟨names, hSet, hShown⟩ := maps.setOf
  have hNames : e.1 ∈ names.map Name.shown := hShown ▸ List.mem_map_of_mem he
  obtain ⟨n, hn, hSame⟩ := List.mem_map.mp hNames
  rw [← hSame, ← Name.isText_iff_shown, Name.isText_iff_key] at notText
  obtain ⟨m, hm, hKey⟩ := List.mem_map.mp
    ((Name.mem_keys_distinct names n.key).mpr (List.mem_map_of_mem hn))
  rw [← hKey, ← Name.isText_iff_key] at notText
  have unknown : m ∈ (Name.distinct names).filter fun n => !s.knows n := by
    refine List.mem_filter.mpr ⟨hm, ?_⟩
    rw [Name.isText_iff_shown] at notText
    cases hStray : m.shown with
    | str t => exact absurd ⟨t, hStray⟩ notText
    | _ => simp [knows, hStray]
  have present : raw.truthy = true := by
    rw [maps.truthy]
    cases es with
    | nil => simp at he
    | cons e rest => rfl
  obtain ⟨d, hOrdered, hFamily⟩ | ⟨sorted, f, hOrdered, some, hTexts, hFamily⟩ :=
    Name.ordered_of_stray ⟨m, unknown, notText⟩
  · have refused : s.unknown raw = .error (.number d) := by
      rw [Section.unknown, hSet, ok_bind, hOrdered]
      rfl
    exact ⟨.number d, hFamily, fun log => by simp [read, present, Run.exec_bind, refused]⟩
  · have gathered : s.unknown raw = .ok (sorted.map Name.shown) := by
      rw [Section.unknown, hSet, ok_bind, hOrdered]
      rfl
    exact ⟨f, hFamily, fun log => by simp [read, present, Run.exec_bind, gathered, some, hTexts]⟩

theorem mem_keys_of_heeded {s : Section} {m : String × Value} (h : m ∈ s.heeded es) : m.1 ∈ s.keys := by
  obtain ⟨e, -, hEntry⟩ := List.mem_filterMap.mp h
  split at hEntry
  · next k v =>
    split at hEntry
    · next known =>
      obtain rfl := Option.some.inj hEntry
      simpa using known
    · cases hEntry
  · cases hEntry

theorem exec_read_heeded (s : Section) (es : List (Value × Value)) (log : List LogEntry) :
    (s.read (.object (s.heeded es))).exec log = (.ok (s.heeded es), log) := by
  have hRaw : (Value.object (s.heeded es)).orElse (.object []) = .object (s.heeded es) := by
    cases s.heeded es <;> rfl
  have all : (s.heeded es).filter (fun p => s.keys.contains p.1) = s.heeded es :=
    List.filter_eq_self.mpr fun m hm => by simpa using mem_keys_of_heeded hm
  have none : s.strange (s.heeded es) = [] := by
    rw [strange, List.filter_eq_nil_iff]
    intro k hk
    obtain ⟨m, hm, rfl⟩ := List.mem_map.mp hk
    simpa using mem_keys_of_heeded hm
  obtain ⟨unknown, alphabetical, ran⟩ := s.exec_read hRaw log
  rw [ran, all, notes, if_pos (alphabetical.eq_nil_iff.mpr none), List.append_nil]

/-- What a section type builds from a mapping. Of the keys that it does not know, texts leave a note,
and any other makes the mapping one that it builds nothing from. -/
theorem known_keys_heeded (s : Section) {α : Type} (build : Members → α) (maps : raw.Maps es)
    (log : List LogEntry) :
    (∀ name ∈ s.keys, raw.member? name = .ok (Keyed.get? name (s.heeded es))) ∧
    (∀ name, name ∉ s.keys → Keyed.get? name (s.heeded es) = none) ∧
    (build <$> s.read (.object (s.heeded es))).exec log = (.ok (build (s.heeded es)), log) ∧
    ((∀ e ∈ es, e.1.IsText) → ∃ unknown, Alphabetical (s.unheeded es) unknown ∧
      (build <$> s.read raw).exec log = (.ok (build (s.heeded es)), log ++ s.notes unknown)) ∧
    ((∃ e ∈ es, ¬ e.1.IsText) → ∃ f, f.family = .type ∧
      (build <$> s.read raw).exec log = (.error f, log)) := by
  refine ⟨?_, ?_, ?_, ?_, ?_⟩
  · intro name known
    rw [maps.member?, get?_heeded, if_pos known]
  · intro name unknown
    rw [get?_heeded, if_neg unknown]
  · rw [Run.exec_map, exec_read_heeded]
    rfl
  · intro texts
    obtain ⟨unknown, alphabetical, ran⟩ := s.exec_read_of_texts maps texts log
    refine ⟨unknown, alphabetical, ?_⟩
    rw [Run.exec_map, ran]
    rfl
  · intro stray
    obtain ⟨f, hFamily, ran⟩ := s.exec_read_of_stray maps stray
    refine ⟨f, hFamily, ?_⟩
    rw [Run.exec_map, ran]
    rfl

def colouredMembers : Members := [("model", .str "m"), ("colour", .str "blue")]

def mixedEntries : List (Value × Value) :=
  [(.str "model", .str "m"), (.null, .int 1), (.str "colour", .str "blue"), (.bool true, .null)]

theorem known_keys_heeded_mixed :
    (∃ unknown, Alphabetical ["colour"] unknown ∧
      (OptionDefaults.ofMembers <$> OptionDefaults.fileSection.read (.object colouredMembers)).exec [] =
        (.ok (OptionDefaults.ofMembers [("model", .str "m")]),
          OptionDefaults.fileSection.notes unknown)) ∧
    Value.Maps (.table mixedEntries) mixedEntries ∧
    ∃ f, f.family = .type ∧
      (OptionDefaults.ofMembers <$> OptionDefaults.fileSection.read (.table mixedEntries)).exec [] =
        (.error f, []) := by
  have keyed : ∀ e ∈ mixedEntries, ∃ key, e.1.key? = some key := by
    simp [mixedEntries, Value.key?]
  obtain ⟨-, -, -, heeded, -⟩ := known_keys_heeded OptionDefaults.fileSection
    OptionDefaults.ofMembers (.object colouredMembers) []
  obtain ⟨-, -, -, -, refused⟩ := known_keys_heeded OptionDefaults.fileSection
    OptionDefaults.ofMembers (.table keyed) []
  refine ⟨heeded ?_, .table keyed, refused ?_⟩
  · simp [colouredMembers, Value.IsText]
  · exact ⟨(.null, .int 1), by simp [mixedEntries], by simp [Value.IsText]⟩

end Section

namespace Config

def numberedFile : DiskEntry :=
  .file (Text.octets "options:\n  model: m\n  1: x\n")

def numberedOptions : List (Value × Value) := [(.str "model", .str "m"), (.int 1, .str "x")]

theorem readMapping_numberedFile : readMapping "minimax_chat.yaml" numberedFile =
    .ok (.object [("options", .table numberedOptions)]) :=
  Value.eq_ok_of_agrees (by decide +kernel)

/-- A number among the keys of the options keeps the whole file from being loaded, although what is
known of them could be read. -/
theorem not_harmless_numbered : ∃ raw options f,
    readMapping "minimax_chat.yaml" numberedFile = .ok raw ∧ raw.member "options" = .ok options ∧
    options.Maps numberedOptions ∧
    ((OptionDefaults.fileSection.read options).exec []).1 = .error f ∧
    ((OptionDefaults.fileSection.read
      (.object (OptionDefaults.fileSection.heeded numberedOptions))).exec []).1 =
        .ok [("model", .str "m")] ∧
    ((load (diskWith numberedFile) none none).exec []).1 = .error f := by
  have keyed : ∀ e ∈ numberedOptions, ∃ key, e.1.key? = some key := by
    simp [numberedOptions, Value.key?]
  have stray : ∃ e ∈ numberedOptions, ¬ e.1.IsText :=
    ⟨(.int 1, .str "x"), by simp [numberedOptions], by simp [Value.IsText]⟩
  obtain ⟨f, -, refused⟩ := OptionDefaults.fileSection.exec_read_of_stray (.table keyed) stray
  refine ⟨_, .table numberedOptions, f, readMapping_numberedFile, rfl, .table keyed, ?_, ?_, ?_⟩
  · rw [refused]
  · rw [Section.exec_read_heeded]
    rfl
  · have policy : FragmentPolicy.ofValue (.str FragmentPolicy.proceed.name) = .ok .proceed :=
      FragmentPolicy.ofValue_name .proceed
    rw [load, Run.exec_map, loadFile_of_found (fileAt_diskWith numberedFile), ofEntry]
    simp [Run.exec_bind, Loading.note, readMapping_numberedFile, ofMapping, Value.memberD_object,
      Keyed.get?, policy, refused, Except.map]

end Config

end Colloquy

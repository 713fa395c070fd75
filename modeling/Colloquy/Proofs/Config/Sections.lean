import Mathlib.Data.List.Sort
import Colloquy.Config
import Colloquy.Proofs.Decoding.Grammar
import Colloquy.Proofs.Names

/-!
# What a configuration file plain

Every section is read by its own list of keys, and keys that are not on it only leave a note. So the
configuration that a mapping stands for can be written down: for every field what the mapping has
under its name, and what is built in where it has nothing.
-/
set_option autoImplicit false

namespace Colloquy

/-- The texts of a list, each once and in the order of their characters. -/
structure Alphabetical (texts sorted : List String) : Prop where
  increasing : sorted.Pairwise (· < ·)
  mem_iff : ∀ t, t ∈ sorted ↔ t ∈ texts
  alone : ∀ other : List String, other.Pairwise (· < ·) → (∀ t, t ∈ other ↔ t ∈ texts) →
    other = sorted

theorem Alphabetical.of_increasing {texts sorted : List String}
    (increasing : sorted.Pairwise (· < ·)) (mem_iff : ∀ t, t ∈ sorted ↔ t ∈ texts) :
    Alphabetical texts sorted where
  increasing
  mem_iff
  alone := fun _ hOther hMem =>
    hOther.eq_of_mem_iff increasing fun t => (hMem t).trans (mem_iff t).symm

theorem Alphabetical.eq_nil_iff {texts sorted : List String} (h : Alphabetical texts sorted) :
    sorted = [] ↔ texts = [] := by
  simp only [List.eq_nil_iff_forall_not_mem, h.mem_iff]

theorem Alphabetical.apart {texts sorted : List String} (h : Alphabetical texts sorted) :
    (sorted.map Name.ofText).Pairwise fun m n => m.key ≠ n.key := by
  rw [List.pairwise_map]
  refine h.increasing.imp ?_
  intro s t less same
  exact Std.lt_irrefl (Key.text.inj same ▸ less)

theorem Keyed.get?_filter_keys (keys : List String) (name : String) (ms : Members) :
    Keyed.get? name (ms.filter fun p => keys.contains p.1) =
      if name ∈ keys then Keyed.get? name ms else none := by
  induction ms with
  | nil => simp [Keyed.get?]
  | cons m rest ih =>
    obtain ⟨k, v⟩ := m
    by_cases hName : k = name <;> by_cases hKey : k ∈ keys <;>
      simp_all [Keyed.get?]

namespace Name

theorem mapM_ofValue_texts (ts : List String) :
    (ts.map Value.str).mapM ofValue = .ok (ts.map ofText) := by
  induction ts with
  | nil => rfl
  | cons t rest ih =>
    rw [List.map_cons, List.mapM_cons, ih]
    rfl

theorem setOf_texts (ts : List String) :
    setOf (.list (ts.map Value.str)) = .ok (distinct (ts.map ofText)) := by
  rw [setOf, Value.elements, ok_bind, mapM_ofValue_texts]
  rfl

theorem setOf_object (ms : Members) :
    setOf (.object ms) = .ok (distinct ((Keyed.keys ms).map ofText)) := by
  have shown : ms.map (fun p => Value.str p.1) = (Keyed.keys ms).map Value.str := by
    simp [Keyed.keys]
  rw [setOf, Value.elements, ok_bind, shown, mapM_ofValue_texts]
  rfl

theorem texts_distinct {ts : List String} : ∀ n ∈ distinct (ts.map ofText), n.isText = true := by
  intro n hn
  obtain ⟨t, -, rfl⟩ := List.mem_map.mp (mem_of_mem_distinct hn)
  rfl

theorem ordered_distinct_texts (ts : List String) : ∃ sorted, Alphabetical ts sorted ∧
    ordered (distinct (ts.map ofText)) = .ok (sorted.map ofText) := by
  obtain ⟨sorted, hOrdered, increasing, mem⟩ := ordered_texts texts_distinct (pairwise_distinct _)
  exact ⟨sorted, .of_increasing increasing fun t => (mem t).trans (mem_distinct_texts t ts), hOrdered⟩

end Name

theorem Value.texts_map_str (ts : List String) (position : Nat) :
    Value.texts position (ts.map Value.str) = .ok ts := by
  induction ts generalizing position with
  | nil => rfl
  | cons t rest ih =>
    rw [List.map_cons, Value.texts, ih]
    rfl

/-! ## Sections -/

namespace Section

def notes (s : Section) (unknown : List String) : List LogEntry :=
  if unknown = [] then [] else [s.unknownNote unknown]

def strange (s : Section) (ms : Members) : List String :=
  (Keyed.keys ms).filter fun k => k ∉ s.keys

theorem unknown_object (s : Section) (ms : Members) : ∃ sorted, Alphabetical (s.strange ms) sorted ∧
    s.unknown (.object ms) = .ok (sorted.map Value.str) := by
  have texts : ∀ n ∈ (Name.distinct ((Keyed.keys ms).map Name.ofText)).filter fun n => !s.knows n,
      n.isText = true := fun n hn => Name.texts_distinct n (List.mem_filter.mp hn).1
  obtain ⟨sorted, hOrdered, increasing, mem⟩ :=
    Name.ordered_texts texts ((Name.pairwise_distinct _).sublist List.filter_sublist)
  refine ⟨sorted, .of_increasing increasing fun t => ?_, ?_⟩
  · rw [mem, List.mem_filter, Name.mem_distinct_texts, strange, List.mem_filter]
    simp [knows, Name.ofText]
  · rw [unknown, Name.setOf_object, ok_bind, hOrdered]
    simp [NumberError.lift, Name.ofText, Function.comp_def]

theorem exec_read_of_falsy (s : Section) {raw : Value} (falsy : raw.truthy = false)
    (log : List LogEntry) : (s.read raw).exec log = (.ok [], log) := by
  rw [read, falsy]
  rfl

theorem exec_read (s : Section) {raw : Value} {ms : Members}
    (hRaw : raw.orElse (.object []) = .object ms) (log : List LogEntry) :
    ∃ unknown, Alphabetical (s.strange ms) unknown ∧ (s.read raw).exec log =
      (.ok (ms.filter fun p => s.keys.contains p.1), log ++ s.notes unknown) := by
  obtain ⟨unknown, alphabetical, hUnknown⟩ := s.unknown_object ms
  refine ⟨unknown, alphabetical, ?_⟩
  cases present : raw.truthy with
  | false =>
    rw [Value.orElse, present] at hRaw
    obtain rfl : [] = ms := Value.object.inj hRaw
    have none : unknown = [] := alphabetical.eq_nil_iff.mpr rfl
    rw [exec_read_of_falsy s present, notes, if_pos none, List.append_nil]
    rfl
  | true =>
    rw [Value.orElse, present] at hRaw
    obtain rfl : raw = .object ms := hRaw
    rw [read, present, hUnknown]
    cases unknown with
    | nil => simp [Run.exec_bind, notes, known]
    | cons t ts =>
      have spelled : Value.texts 0 (.str t :: ts.map Value.str) = .ok (t :: ts) :=
        Value.texts_map_str (t :: ts) 0
      simp [Run.exec_bind, notes, known, Loading.note, spelled]

end Section

namespace OptionDefaults

def builtIn : Setting → Value
  | .model => .str Options.defaultModel
  | .temperature => .float 0.7
  | _ => .null

/-- The settings of the options section `os`. Two of them it cannot say anything about. -/
def configured (os : Members) : Settings
  | .n | .responseFormat => .null
  | key => (Keyed.get? key.name os).getD (builtIn key)

theorem ofMembers_known (os : Members) :
    ofMembers (os.filter fun p => fileSection.keys.contains p.1) =
      ⟨configured os, (Keyed.get? "functions" os).getD (.list [])⟩ := by
  have settings : (ofMembers (os.filter fun p => fileSection.keys.contains p.1)).settings =
      configured os := by
    funext key
    simp only [ofMembers, Keyed.get?_filter_keys]
    cases key <;> rfl
  rw [← settings]
  simp only [ofMembers, Keyed.get?_filter_keys]
  rfl

end OptionDefaults

/-! ## Whole files -/

theorem FragmentPolicy.ofValue_name (policy : FragmentPolicy) :
    ofValue (.str policy.name) = .ok policy := by
  cases policy <;> rfl

namespace Config

/-- What a mapping says that configures requests: the options `os`, with the functions `names` among
them, the policy and the base address. There is nothing about retries in it. -/
structure Plain (ms os : Members) (policy : FragmentPolicy) (base : String) (names : List String) :
    Prop where
  options : ((Keyed.get? "options" ms).getD .null).orElse (.object []) = .object os
  functions : (Keyed.get? "functions" os).getD (.list []) = .list (names.map Value.str)
  policy : (Keyed.get? "stream_error_policy" ms).getD (.str "continue") = .str policy.name
  base : (Keyed.get? "base_url" ms).getD (.str "https://api.minimax.chat") = .str base
  retry : ((Keyed.get? "retry" ms).getD .null).truthy = false

def keyOf (key : Option String) (ms : Members) : Value :=
  match key with
  | some k => if k = "" then fileKey else .str k
  | none => fileKey
where
  fileKey : Value := ((Keyed.get? "api_key" ms).getD (.str "")).orElse (.str "")

def said (key : Option String) (ms os : Members) (policy : FragmentPolicy) (base : String)
    (names : List String) : Config where
  apiKey := keyOf key ms
  baseUrl := .str base
  timeout := (Keyed.get? "timeout" ms).getD (.int 120)
  options := ⟨OptionDefaults.configured os, .list (names.map Value.str)⟩
  retry := {}
  rounds := (Keyed.get? "max_tool_rounds" ms).getD (.int 10)
  policy

def fileAt (disk : Disk) : Option String → Option (String × DiskEntry)
  | some text => match disk.find? (.ofText text) with
    | .ok entry => entry.map fun e => ((Path.ofText text).text, e)
    | .error _ => none
  | none => discover? disk

variable {ms os : Members} {policy : FragmentPolicy} {base : String} {names : List String}

theorem loadFile_of_found {disk : Disk} {path : Option String} {shown : String} {entry : DiskEntry}
    (found : fileAt disk path = some (shown, entry)) (log : List LogEntry) :
    (loadFile disk path).exec log = (ofEntry shown entry).exec log := by
  cases path with
  | none =>
    simp only [fileAt] at found
    simp only [loadFile, found]
  | some text =>
    simp only [fileAt] at found
    split at found
    · next entry? hEntry =>
      obtain ⟨e, rfl, hSame⟩ := Option.map_eq_some_iff.mp found
      obtain ⟨rfl, rfl⟩ := Prod.mk.inj hSame
      simp only [loadFile, hEntry, Run.exec_bind, Run.exec_ofExcept]
    · cases found

theorem exec_ofMapping (plain : Plain ms os policy base names) (path : String) (log : List LogEntry) :
    ∃ unknown, Alphabetical (OptionDefaults.fileSection.strange os) unknown ∧
      (ofMapping path (.object ms)).exec log =
        (.ok (said none ms os policy base names), log ++ OptionDefaults.fileSection.notes unknown) := by
  obtain ⟨unknown, alphabetical, hOptions⟩ := OptionDefaults.fileSection.exec_read plain.options log
  refine ⟨unknown, alphabetical, ?_⟩
  have hRetry := Backoff.fileSection.exec_read_of_falsy plain.retry
  have hPolicy : FragmentPolicy.ofValue ((Keyed.get? "stream_error_policy" ms).getD
      (.str FragmentPolicy.proceed.name)) = .ok policy := by
    rw [← FragmentPolicy.ofValue_name, ← plain.policy]
    rfl
  simp only [ofMapping, Value.memberD_object, Run.exec_bind, Run.exec_ofExcept, hPolicy, hOptions,
    hRetry, Run.exec_pure]
  have hBase : (Keyed.get? "base_url" ms).getD (.str Endpoint.defaultBase) = .str base := plain.base
  rw [OptionDefaults.ofMembers_known, plain.functions, hBase]
  rfl

theorem withKey_said (key : Option String) (ms os : Members) (policy : FragmentPolicy) (base : String)
    (names : List String) :
    withKey key (said none ms os policy base names) = said key ms os policy base names := by
  cases key with
  | none => rfl
  | some k =>
    by_cases empty : k = ""
    · simp [withKey, said, keyOf, empty]
    · simp [withKey, said, keyOf, empty]

/-- The file is noted, and so are the options in it that are not known; it is read as it says. -/
theorem exec_load {disk : Disk} (key : Option String) {path : Option String} {shown : String}
    {entry : DiskEntry} (found : fileAt disk path = some (shown, entry))
    (read : readMapping shown entry = .ok (.object ms)) (plain : Plain ms os policy base names) (log : List LogEntry) :
    ∃ unknown, Alphabetical (OptionDefaults.fileSection.strange os) unknown ∧
      (load disk key path).exec log = (.ok (said key ms os policy base names),
        log ++ loadingNote shown :: OptionDefaults.fileSection.notes unknown) := by
  obtain ⟨unknown, alphabetical, ran⟩ := exec_ofMapping plain shown (log ++ [loadingNote shown])
  refine ⟨unknown, alphabetical, ?_⟩
  have loaded : (loadFile disk path).exec log = (.ok (said none ms os policy base names),
      log ++ loadingNote shown :: OptionDefaults.fileSection.notes unknown) := by
    rw [loadFile_of_found found, ofEntry, read]
    simpa [Run.exec_bind, Loading.note] using ran
  rw [load, Run.exec_map, loaded, ← withKey_said key]
  rfl

end Config
end Colloquy

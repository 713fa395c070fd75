import Colloquy.Exchange
import Colloquy.Proofs.Decoding.Json

/-! # What the lines of a stream say

A line says what stands behind `data:`, without the blanks around it: a JSON value, or the mark of the
end. Nothing is read behind that mark, nor behind a line that goes beyond a limit of what can be read.
The chunks of a stream are those of the values said before, and how it ends is read off its lines too.
-/
set_option autoImplicit false

namespace Colloquy

namespace Exchange

def payload? (line : String) : Option (List Char) :=
  if "data:".toList.isPrefixOf line.toList then some (Text.trimBlanks (line.toList.drop 5)) else none

def ends (line : String) : Bool :=
  payload? line = some "[DONE]".toList

/-- The limit that the payload of a line goes beyond. -/
def excess? (line : String) : Option Json.Flaw :=
  payload? line >>= Json.excess?

def value? (line : String) : Option Value :=
  payload? line >>= fun data => (Json.readChars data).toOption

def stops (line : String) : Bool :=
  ends line || (excess? line).isSome

/-- The values said on the lines before the first that stops the reading. -/
def said (lines : List String) : List Value :=
  (lines.takeWhile fun line => !stops line).filterMap value?

/-- One chunk for each value said but `null`. -/
def chunksOf (lines : List String) : List Chunk :=
  ((said lines).filter fun v => !v.isNull).map fun v => (readChunk v).1

/-- The fault that ends a stream of these lines, if `fault` stands behind the last of them. -/
def closing? (fault : Option Fault) (lines : List String) : Option Fault :=
  match lines.find? stops with
  | none => fault
  | some line => (excess? line).map .unreadable

theorem read_eq (line : String) :
    Line.read line = match payload? line with
      | none => .skip
      | some data =>
        if data.isEmpty then .skip
        else if data = "[DONE]".toList then .done
        else match Json.readChars data with
          | .error .malformed => .undecodable data
          | .error flaw => .unreadable flaw
          | .ok .null => .skip
          | .ok v => .data v := by
  unfold Line.read payload?
  split
  · next rest hLine =>
    rw [hLine]
    rfl
  · next other =>
    have unmarked : "data:".toList.isPrefixOf line.toList = false := by
      by_contra marked
      rw [Bool.not_eq_false, List.isPrefixOf_iff_prefix] at marked
      obtain ⟨rest, hLine⟩ := marked
      exact other rest hLine.symm
    rw [unmarked]
    rfl

theorem excess?_of_ends {line : String} (ended : ends line = true) : excess? line = none := by
  have hPayload : payload? line = some "[DONE]".toList := of_decide_eq_true ended
  rw [excess?, hPayload]
  rfl

theorem read_of_ends {line : String} (ended : ends line = true) : Line.read line = .done := by
  have hPayload : payload? line = some "[DONE]".toList := of_decide_eq_true ended
  rw [read_eq, hPayload]
  rfl

theorem read_of_excess {line : String} {flaw : Json.Flaw} (h : excess? line = some flaw) :
    Line.read line = .unreadable flaw := by
  obtain ⟨data, hPayload, hExcess⟩ := Option.bind_eq_some_iff.mp h
  obtain ⟨hRead, other⟩ := Json.readChars_of_excess? hExcess
  have present : data.isEmpty = false := by
    cases data with
    | nil => cases hExcess
    | cons c cs => rfl
  have open_ : data ≠ "[DONE]".toList := by
    rintro rfl
    cases hExcess
  rw [read_eq, hPayload]
  simp only [present, Bool.false_eq_true, if_false, if_neg open_, hRead]

theorem items_chunkEvents (v : Value) :
    (chunkEvents v).filterMap Feed.Event.item? = [(readChunk v).1] := by
  simp only [chunkEvents, readChunk]
  cases Chunk.ofValue v <;> rfl

theorem chunkFeed_of_open {line : String} (open_ : stops line = false) (fault : Option Fault)
    (rest : List String) : ∃ events, chunkFeed fault (line :: rest) =
        Feed.after events (chunkFeed fault rest) ∧
      events.filterMap Feed.Event.item? =
        ((value? line).toList.filter fun v => !v.isNull).map fun v => (readChunk v).1 := by
  obtain ⟨unended, within⟩ := Bool.or_eq_false_iff.mp open_
  rw [chunkFeed, read_eq]
  unfold ends excess? value? at *
  cases hPayload : payload? line with
  | none => exact ⟨[], rfl, rfl⟩
  | some data =>
    rw [hPayload] at unended within
    have mark : data ≠ "[DONE]".toList := by simpa using unended
    cases data with
    | nil => exact ⟨[], rfl, rfl⟩
    | cons c cs =>
      simp only [List.isEmpty_cons, Bool.false_eq_true, if_false, if_neg mark, Option.bind_eq_bind,
        Option.bind_some] at within ⊢
      cases hRead : Json.readChars (c :: cs) with
      | error flaw =>
        obtain rfl := Json.malformed_of_error hRead
          (Option.isNone_iff_eq_none.mp (Option.isSome_eq_false_iff.mp within))
        exact ⟨_, rfl, rfl⟩
      | ok v =>
        cases holds : v.isNull with
        | true =>
          obtain rfl := Value.eq_null_of_isNull holds
          exact ⟨[], rfl, rfl⟩
        | false =>
          have kept : ((some v).toList.filter fun v => !v.isNull) = [v] := by simp [holds]
          refine ⟨chunkEvents v, ?_, ?_⟩
          · cases v with
            | null => cases holds
            | _ => rfl
          · rw [items_chunkEvents]
            exact (congrArg (List.map fun v => (readChunk v).1) kept).symm

theorem chunkFeed_of_stops {line : String} (stop : stops line = true) (fault : Option Fault)
    (rest : List String) :
    chunkFeed fault (line :: rest) = ⟨[], (excess? line).map .unreadable⟩ := by
  rw [chunkFeed]
  obtain ended | beyond := Bool.or_eq_true_iff.mp stop
  · rw [read_of_ends ended, excess?_of_ends ended]
    rfl
  · obtain ⟨flaw, hExcess⟩ := Option.isSome_iff_exists.mp beyond
    rw [read_of_excess hExcess, hExcess]
    rfl

theorem items_chunkFeed (fault : Option Fault) (lines : List String) :
    (chunkFeed fault lines).items = chunksOf lines := by
  induction lines with
  | nil => rfl
  | cons line rest ih =>
    simp only [chunksOf, said] at ih ⊢
    cases stop : stops line with
    | true =>
      rw [chunkFeed_of_stops stop, List.takeWhile_cons_of_neg (by simp [stop])]
      rfl
    | false =>
      obtain ⟨events, hFeed, hItems⟩ := chunkFeed_of_open stop fault rest
      rw [hFeed, Feed.items_after, hItems, ih, List.takeWhile_cons_of_pos (by simp [stop])]
      cases hValue : value? line with
      | none =>
        rw [List.filterMap_cons_none hValue]
        rfl
      | some v =>
        rw [List.filterMap_cons_some hValue, ← List.singleton_append, List.filter_append,
          List.map_append]
        rfl

theorem fault_chunkFeed (fault : Option Fault) (lines : List String) :
    (chunkFeed fault lines).fault = closing? fault lines := by
  induction lines with
  | nil => rfl
  | cons line rest ih =>
    unfold closing? at ih ⊢
    cases stop : stops line with
    | true => rw [chunkFeed_of_stops stop, List.find?_cons_of_pos stop]
    | false =>
      obtain ⟨events, hFeed, -⟩ := chunkFeed_of_open stop fault rest
      rw [hFeed, List.find?_cons_of_neg (by simp [stop])]
      exact ih

theorem sleeps_chunkFeed (fault : Option Fault) (lines : List String) :
    (chunkFeed fault lines).journal.sleeps = [] := by
  induction lines with
  | nil => rfl
  | cons line rest ih =>
    rw [chunkFeed]
    cases hLine : Line.read line with
    | skip => exact ih
    | undecodable data => exact ih
    | unreadable flaw => rfl
    | done => rfl
    | data v =>
      have notes : ((chunkEvents v).filterMap Feed.Event.recorded?).filterMap
          Journal.Event.sleep? = [] := by
        simp only [chunkEvents, readChunk]
        cases Chunk.ofValue v <;> simp [Feed.Event.recorded?, Journal.Event.sleep?]
      simp only [Feed.after, Feed.journal, Journal.sleeps, List.filterMap_append] at ih ⊢
      rw [notes, ih]
      rfl

theorem closing?_of_open {lines : List String} (open_ : ∀ line ∈ lines, stops line = false)
    (fault : Option Fault) : closing? fault lines = fault := by
  have none : lines.find? stops = none := List.find?_eq_none.mpr (by simpa using open_)
  rw [closing?, none]

theorem closing?_of_last {lines : List String} {line : String}
    (last : lines.find? stops = some line) (fault : Option Fault) :
    closing? fault lines = (excess? line).map .unreadable := by
  rw [closing?, last]

theorem lasting_of_closing? {lines : List String} {f : Fault} (h : closing? none lines = some f) :
    f.isTransient = false := by
  unfold closing? at h
  split at h
  · cases h
  · obtain ⟨flaw, -, rfl⟩ := Option.map_eq_some_iff.mp h
    rfl

/-- All that a stream of these lines delivers, and how it ends. -/
def fragments (lines : List String) : Feed Chunk where
  events := (chunksOf lines).map .item
  fault := closing? none lines

theorem items_fragments (lines : List String) : (fragments lines).items = chunksOf lines := by
  rw [Feed.items, fragments, List.filterMap_map]
  exact List.filterMap_some

theorem isJson_of_mem_said {lines : List String} {v : Value} (h : v ∈ said lines) :
    v.IsJson Json.room := by
  obtain ⟨line, -, hSaid⟩ := List.mem_filterMap.mp h
  obtain ⟨data, -, hValue⟩ := Option.bind_eq_some_iff.mp hSaid
  cases hRead : Json.readChars data with
  | error flaw =>
    rw [hRead] at hValue
    cases hValue
  | ok w =>
    rw [hRead] at hValue
    obtain rfl := Option.some.inj hValue
    exact Json.isJson_of_readChars hRead

end Exchange

end Colloquy

import Colloquy.Proofs.Callbacks
import Colloquy.Proofs.Decoding.Messages
import Colloquy.Proofs.Json.Exact
import Colloquy.Sample
import Mathlib.Data.List.TakeWhile

/-! # Data carried as text

Arguments of tool calls, schemas of functions and the choice of a tool travel as JSON text inside other
data. Whoever reads such a text gets the data it was made of: a wrapped function is called with the
members that the model sent, and the service sees the schema that was given.
-/
set_option autoImplicit false

namespace Colloquy

theorem Text.trimBlanks_ne_nil {c : Char} (visible : isBlank c = false) (cs : List Char) :
    trimBlanks (c :: cs) ≠ [] := by
  intro empty
  have kept : (c :: cs).dropWhile isBlank = c :: cs := by simp [visible]
  rw [trimBlanks, kept, List.reverse_eq_nil_iff, List.dropWhile_eq_nil_iff] at empty
  have blank := empty c (List.mem_reverse.mpr List.mem_cons_self)
  rw [visible] at blank
  cases blank

section

open Grammar (field)

variable {a : Members}

theorem argumentsText_object (json : (Value.object a).IsJson Json.room) :
    ToolCall.argumentsText (.object a) = .ok (Json.write .spacedAscii (.object a)) := by
  rw [ToolCall.argumentsText, Json.dump_of_isJson rfl json]
  · rfl
  · simp

theorem decodeArguments_write (hExact : (Value.object a).IsExact)
    (json : (Value.object a).IsJson Json.room) (label : String) :
    Handler.decodeArguments label (Json.write .spacedAscii (.object a)) = .ok a := by
  have brace : ∃ more, (Json.write .spacedAscii (.object a)).toList = '\x7b' :: more := by
    simp [Json.write, Json.chars]
  obtain ⟨more, hText⟩ := brace
  have present : (Text.trimBlanks (Json.write .spacedAscii (.object a)).toList).isEmpty = false := by
    rw [hText, List.isEmpty_eq_false_iff]
    exact Text.trimBlanks_ne_nil rfl more
  have back := Json.read_write Json.regular_spacedAscii hExact json
  simp [Handler.decodeArguments, present, back]

theorem ToolCall.decode_of_arguments {ms inner : Members} {v : Value}
    (function : Keyed.get? "function" ms = some (.object inner))
    (arguments : Keyed.get? "arguments" inner = some v) :
    decode (.object ms) = (argumentsText v).map fun arguments => {
      id := (Keyed.get? "id" ms).getD (.str "")
      type := (Keyed.get? "type" ms).getD (.str "function")
      function := { name := (Keyed.get? "name" inner).getD (.str ""), arguments } } := by
  have present : (Value.object inner).truthy = true := by
    cases inner with
    | nil => cases arguments
    | cons m more => rfl
  have reached : (field "function" (.object ms)).orElse (.object []) = .object inner := by
    simp [field, function, Value.orElse, present]
  rw [decode_object reached, arguments, Option.getD_some]

/-- A wrapped function is called with the members that were sent, in order, and the service is given the
schema and the choice that were meant, as long as these keep to the limits of what a text can hold. -/
theorem ToolCall.arguments_intact {a : Members} (hExact : (Value.object a).IsExact)
    (within : (Value.object a).IsJson Json.room) :
    (∀ ms inner : Members, Keyed.get? "function" ms = some (.object inner) →
      Keyed.get? "arguments" inner = some (.object a) →
      ∃ call, decode (.object ms) = .ok call ∧
        ∀ (f : KeywordFunction) (name description : String) (schema : Option Value)
          (parameters : List Parameter) (convert : Option (Value → Except Fault Value))
          (before : List Call),
          ∃ h, (Callback.wrap f name description schema parameters convert).handler = some h ∧
            h.run before call.function.arguments =
              f.answer (convert.getD fun v => .str <$> Callback.answerText v) a ∧
            (Callback.wrap f name description schema parameters convert).invoke before
                call.function.arguments =
              f.apply a >>= convert.getD (fun v => .str <$> Callback.answerText v) >>=
                Callback.answerText ∧
            (f.arguments = [] → f.collects = true → f.bind a = .ok a)) ∧
    (∀ t : Tool, t.parameters = .object a → ∃ encoded text, t.toValue = .ok encoded ∧
      field "parameters" (field "function" encoded) = .str text ∧
        Json.read text = .ok (.object a)) ∧
    (∀ name : String, Json.read (Tool.choice name) =
      .ok (.object [("type", .str "function"), ("function", .object [("name", .str name)])])) := by
  refine ⟨?_, ?_, ?_⟩
  · intro ms inner function arguments
    have decoded := decode_of_arguments function arguments
    rw [argumentsText_object within] at decoded
    refine ⟨_, decoded, fun f name description schema parameters convert before =>
      ⟨_, rfl, ?_, ?_, ?_⟩⟩
    · rw [Handler.run_wrapped, decodeArguments_write hExact within, ok_bind]
    · rw [Callback.invoke_wrap, decodeArguments_write hExact within, ok_bind]
    · intro noneDeclared collects
      exact KeywordFunction.bind_of_collects noneDeclared collects a
  · intro t parameters
    have encoded := t.toValue_eq
    rw [parameters, Json.dump_of_isJson rfl within] at encoded
    exact ⟨_, _, encoded, rfl, Json.read_write Json.regular_spacedAscii hExact within⟩
  · intro name
    have named : (Value.object [("name", .str name)]).IsExact :=
      .object (by simp [Keyed.keys]) (by simpa using .str name)
    have shallow : (Value.object [("name", .str name)]).IsJson (Json.room - 1) :=
      .object (by simpa using .str name)
    refine Json.read_write Json.regular_spacedAscii (.object (by simp [Keyed.keys]) ?_) (.object ?_)
    · simpa using ⟨.str "function", named⟩
    · simpa using ⟨.str "function", shallow⟩

def Sample.forecastArguments : Members := [
  ("place", .str "Z\u00fcrich \u2602 \\ \"Nord\""),
  ("mood", .str "😀\n\u0001"),
  ("offset", .int (-36893488147419103232)),
  ("days", .list [.int 0, .null, .bool true, .list []]),
  ("where", .object [("lat", .null), ("lon", .object [])])]

theorem Sample.isExact_forecastArguments : (Value.object forecastArguments).IsExact := by
  have days : (Value.list [.int 0, .null, .bool true, .list []]).IsExact :=
    .list (by simpa using ⟨.int 0, .null, .bool true, .list (by simp)⟩)
  have position : (Value.object [("lat", .null), ("lon", .object [])]).IsExact :=
    .object (by decide) (by simpa using ⟨.null, .object .nil (by simp)⟩)
  refine .object (by decide) ?_
  simpa [forecastArguments] using ⟨.str _, .str _, .int _, days, position⟩

theorem Sample.isJson_forecastArguments : (Value.object forecastArguments).IsJson Json.room := by
  have days : (Value.list [.int 0, .null, .bool true, .list []]).IsJson 2 :=
    .list (by simpa using ⟨.int rfl, .null, .bool true, .list (by simp)⟩)
  have position : (Value.object [("lat", .null), ("lon", .object [])]).IsJson 2 :=
    .object (by simpa using ⟨.null, .object (by simp)⟩)
  have shallow : (Value.object forecastArguments).IsJson 3 := by
    refine .object ?_
    simpa [forecastArguments] using ⟨.str _, .str _, .int rfl, days, position⟩
  exact shallow.mono (by decide)

theorem ToolCall.arguments_intact_forecast :
    (Value.object Sample.forecastArguments).IsExact ∧
    (Value.object Sample.forecastArguments).IsJson Json.room ∧
    (∃ call, decode (.object [("id", .str "call_1"), ("function", .object [
          ("name", .str "collect"), ("arguments", .object Sample.forecastArguments)])]) = .ok call ∧
      (Callback.wrap Sample.collect "" "" none [] none).invoke [] call.function.arguments =
        .ok (Json.write .spaced (.object Sample.forecastArguments))) ∧
    ∃ encoded text, Tool.toValue { name := .str "collect", parameters := .object Sample.forecastArguments }
        = .ok encoded ∧
      field "parameters" (field "function" encoded) = .str text ∧
      Json.read text = .ok (.object Sample.forecastArguments) := by
  have hExact := Sample.isExact_forecastArguments
  have within := Sample.isJson_forecastArguments
  obtain ⟨delivered, advertised, -⟩ := arguments_intact hExact within
  refine ⟨hExact, within, ?_, advertised _ rfl⟩
  let inner : Members :=
    [("name", .str "collect"), ("arguments", .object Sample.forecastArguments)]
  obtain ⟨call, hCall, handled⟩ :=
    delivered [("id", .str "call_1"), ("function", .object inner)] inner rfl rfl
  obtain ⟨h, -, -, invoked, bound⟩ := handled Sample.collect "" "" none [] none []
  have applied : Sample.collect.apply Sample.forecastArguments =
      .ok (.object Sample.forecastArguments) := by
    rw [KeywordFunction.apply, bound rfl rfl]
    rfl
  have answered : Callback.answerText (.object Sample.forecastArguments) =
      .ok (Json.write .spaced (.object Sample.forecastArguments)) := by
    rw [Callback.answerText, Json.dump_of_isJson rfl within]
    · rfl
    · simp
  refine ⟨call, hCall, ?_⟩
  rw [invoked, applied, ok_bind, Option.getD_none, answered]
  rfl

/-! ## Beyond the limits -/

/-- Neither arguments that are sent nor a schema can be written, though they are exact JSON. -/
structure ToolCall.Lost (a : Members) (o : Json.Obstacle) : Prop where
  isExact : (Value.object a).IsExact
  arguments : decode (.object [("function", .object [("arguments", .object a)])]) =
    .error (.unwritable o)
  schema : Tool.toValue { name := .str "collect", parameters := .object a } = .error (.unwritable o)

theorem ToolCall.lost_of_obstacle {o : Json.Obstacle} (hExact : (Value.object a).IsExact)
    (blocked : Json.obstacle? .spacedAscii Json.room (.object a) = some o) : Lost a o := by
  have undumped : Json.dump .spacedAscii (.object a) = .error o := by
    rw [Json.dump, blocked]
  refine ⟨hExact, ?_, ?_⟩
  · have sent : Keyed.get? "arguments" [("arguments", Value.object a)] = some (.object a) := rfl
    rw [decode_of_arguments rfl sent, argumentsText, undumped]
    · rfl
    · simp
  · rw [Tool.toValue_eq, undumped]
    rfl

/-- The least integer of one digit more than a text may give it. -/
def Sample.longCount : Members := [("count", .int Whole.bound)]

def Sample.nesting : Nat → Members
  | 0 => []
  | depth + 1 => [("in", .object (nesting depth))]

theorem Sample.isExact_nesting (depth : Nat) : (Value.object (nesting depth)).IsExact := by
  induction depth with
  | zero => exact .object .nil (by simp [nesting])
  | succ depth ih => exact .object (by simp [nesting, Keyed.keys]) (by simpa [nesting] using ih)

theorem Sample.obstacle?_nesting (style : Json.Style) (room : Nat) :
    Json.obstacle? style room (.object (nesting room)) = some .tooDeep := by
  induction room with
  | zero => rfl
  | succ room ih =>
    change (Json.obstacle? style room (.object (nesting room))).or none = some .tooDeep
    rw [ih]
    rfl

theorem ToolCall.lost_long_deep :
    Lost Sample.longCount .tooLong ∧ Lost (Sample.nesting Json.room) .tooDeep := by
  constructor
  · exact lost_of_obstacle (.object (by decide) (by simpa [Sample.longCount] using .int _)) rfl
  · exact lost_of_obstacle (Sample.isExact_nesting _) (Sample.obstacle?_nesting _ _)

end

end Colloquy

import Colloquy.Callback
import Colloquy.Proofs.Outcome

/-! # What callbacks give, and how they are offered

The model never learns whether an answer came at once or had to be waited for: it gets the text of the
value that is there in the end. It is offered a tool under the name by which the callback is found.
-/
set_option autoImplicit false

namespace Colloquy

def Answer.settled : Answer → Except Fault Value
  | now v => .ok v
  | later outcome => outcome

namespace KeywordFunction

def answer (f : KeywordFunction) (convert : Value → Except Fault Value) (given : Members) :
    Except Fault Answer := do
  if f.deferred then
    let bound ← f.bind given
    return .later ((f.body bound).bind convert)
  else
    return .now (← convert (← f.apply given))

theorem settled_answer (f : KeywordFunction) (convert : Value → Except Fault Value)
    (given : Members) : f.answer convert given >>= Answer.settled = f.apply given >>= convert := by
  rw [answer, apply]
  cases f.bind given with
  | error e => cases f.deferred <;> rfl
  | ok bound =>
    simp only [ok_bind]
    cases f.deferred with
    | true => rfl
    | false =>
      cases f.body bound with
      | error e => rfl
      | ok v =>
        simp only [ok_bind]
        cases convert v <;> rfl

theorem bind_of_collects {f : KeywordFunction} (noneDeclared : f.arguments = [])
    (collects : f.collects = true) (given : Members) : f.bind given = .ok given := by
  have others : given.filter (fun p => !f.declares p.1) = given := by
    simp [declares, noneDeclared]
  simp only [bind, others, collects, noneDeclared]
  cases given <;> rfl

end KeywordFunction

theorem Handler.run_wrapped (label : String) (f : KeywordFunction)
    (convert : Value → Except Fault Value) (before : List Call) (arguments : String) :
    (wrapped label f convert).run before arguments =
      decodeArguments label arguments >>= f.answer convert :=
  rfl

namespace Callback

variable {c : Callback} {h : Handler}

theorem invoke_of_unhandled (unhandled : c.handler = none) (before : List Call)
    (arguments : String) : c.invoke before arguments = .error (.noHandler c.name.text) := by
  rw [invoke, unhandled]

/-- The text of the value that the handler comes to, which is run once on the arguments as they are. -/
theorem invoke_of_handler (handler : c.handler = some h) (before : List Call) (arguments : String) :
    c.invoke before arguments = h.run before arguments >>= Answer.settled >>= answerText := by
  rw [invoke, handler]
  simp only
  cases h.run before arguments with
  | error f => rfl
  | ok a => cases a <;> rfl

theorem handler_of_invoke {before : List Call} {arguments text : String}
    (ran : c.invoke before arguments = .ok text) : ∃ h answer v, c.handler = some h ∧
      h.run before arguments = .ok answer ∧ answer.settled = .ok v ∧ answerText v = .ok text := by
  cases handler : c.handler with
  | none =>
    rw [invoke_of_unhandled handler] at ran
    cases ran
  | some h =>
    rw [invoke_of_handler handler] at ran
    obtain ⟨v, settled, hText⟩ := ok_of_bind ran
    obtain ⟨answer, hAnswer, hSettled⟩ := ok_of_bind settled
    exact ⟨h, answer, v, rfl, hAnswer, hSettled, hText⟩

/-- Whether a wrapped function is waited for or not, what it gives on the decoded arguments is converted
and sent as text. -/
theorem invoke_wrap (f : KeywordFunction) (name description : String) (schema : Option Value)
    (parameters : List Parameter) (convert : Option (Value → Except Fault Value))
    (before : List Call) (arguments : String) :
    (wrap f name description schema parameters convert).invoke before arguments =
      Handler.decodeArguments (if name = "" then f.name else name) arguments >>= f.apply >>=
        convert.getD (fun v => .str <$> answerText v) >>= answerText := by
  rw [invoke_of_handler rfl, Handler.run_wrapped]
  cases Handler.decodeArguments (if name = "" then f.name else name) arguments with
  | error e => rfl
  | ok given =>
    rw [ok_bind, ok_bind, f.settled_answer]

theorem key_tool (c : Callback) : c.tool.name.key? = some c.name.key :=
  c.name.isKey

end Callback

theorem Tool.toValue_eq (t : Tool) :
    t.toValue = (Json.Obstacle.lift (Json.dump .spacedAscii t.parameters)).map fun text =>
      .object [("type", .str "function"), ("function", .object [
        ("name", t.name), ("description", .str t.description), ("parameters", .str text)])] := by
  rw [Tool.toValue]
  cases Json.Obstacle.lift (Json.dump .spacedAscii t.parameters) <;> rfl

theorem Callback.toValue_tool {c : Callback} {text : String}
    (written : Json.dump .spacedAscii c.schema = .ok text) :
    c.tool.toValue = .ok (.object [("type", .str "function"), ("function", .object [
      ("name", c.name.shown), ("description", .str c.description), ("parameters", .str text)])]) := by
  have parameters : c.tool.parameters = c.schema := rfl
  rw [Tool.toValue_eq, parameters, written]
  rfl

end Colloquy

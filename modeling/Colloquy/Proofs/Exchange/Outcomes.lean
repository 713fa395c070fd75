import Colloquy.Proofs.Exchange.Answers
import Colloquy.Proofs.Json.Limits

/-! # Outcomes of one exchange

Whatever comes back for a request is nothing, a completion that the service stands by, or a refusal,
as long as the octets of the answer can be read as text and the text keeps to the limits of what can be
read as JSON. Octets that no encoding explains leave by a fault of their own, and so does a text that
goes beyond a limit.
-/
set_option autoImplicit false

namespace Colloquy

namespace Exchange

/-- The outcomes that callers are prepared for. -/
inductive Settled (status : Int) (octets : List UInt8) : Except Fault (Option Completion) → Prop where
  | blank (taking : status < 400) (blank : octets.all Text.isBlankOctet = true) :
      Settled status octets (.ok none)
  | null (taking : status < 400) (held : Holds octets .null) : Settled status octets (.ok none)
  | completion {c : Completion} (approved : ∀ s, c.status = some s → s.isOk = true) :
      Settled status octets (.ok (some c))
  | refused (message : String) (shown : Value) :
      Settled status octets (.error (.api message shown))
  | transient (message : String) (shown : Value) :
      Settled status octets (.error (.transient message shown))

/-- The octets are not decoded, or some encoding explains them by a text that keeps to the limits. -/
def Legible (status : Int) (octets : List UInt8) : Prop :=
  400 ≤ status ∨ octets.all Text.isBlankOctet = true ∨
    ∃ text, Text.jsonText? octets = some text ∧ Json.excess? text = none

section

variable {l : Link} {r : Request} {body : String} {status : Int} {octets : List UInt8} {v : Value}

theorem settled_refusal (text : List Char) :
    Settled status octets (.error (refusal status text)) := by
  obtain ⟨message, hRefusal⟩ := refusal_eq status text
  rw [hRefusal]
  split
  · exact .transient _ _
  · exact .refused _ _

theorem settled_check (c : Completion) :
    Settled status octets ((ServiceStatus.check c.status).map fun _ => some c) := by
  cases hStatus : c.status with
  | none => exact .completion (by simp [hStatus])
  | some s =>
    simp only [ServiceStatus.check]
    cases verdict : s.isOk with
    | true => exact .completion (by simp [hStatus, verdict])
    | false => exact .refused _ _

theorem settled_accept (taking : status < 400) (held : Holds octets v) :
    Settled status octets (accept v) := by
  have judged := Completion.judged_decode held.isJson
  cases v with
  | null => exact .null taking held
  | object ms =>
    cases decoded : Completion.decode (.object ms) with
    | ok c =>
      rw [accept_of_decode decoded]
      exact settled_check c
    | error f =>
      rw [accept_of_decode_error decoded (judged.shape_of_error decoded)]
      exact .refused _ _
  | _ => exact .refused _ _

theorem settled_interpret (legible : Legible status octets) :
    Settled status octets (interpret status octets) := by
  by_cases refusing : 400 ≤ status
  · rw [interpret_of_refusing refusing]
    exact settled_refusal _
  · have taking : status < 400 := Int.not_le.mp refusing
    cases blank : octets.all Text.isBlankOctet with
    | true =>
      rw [interpret_of_blank refusing blank]
      exact .blank taking blank
    | false =>
      obtain legible | legible | ⟨text, legible, within⟩ := legible
      · exact absurd legible refusing
      · cases blank.symm.trans legible
      · rw [interpret_of_text refusing blank legible]
        cases hRead : Json.readChars text with
        | error flaw =>
          obtain rfl := Json.malformed_of_error hRead within
          exact .refused _ _
        | ok v => exact settled_accept taking ⟨blank, text, legible, hRead⟩

theorem interpret_of_excess {text : List Char} {flaw : Json.Flaw} (taking : ¬ 400 ≤ status)
    (present : octets.all Text.isBlankOctet = false) (decoded : Text.jsonText? octets = some text)
    (beyond : Json.excess? text = some flaw) : interpret status octets = .error (.unreadable flaw) := by
  obtain ⟨hRead, other⟩ := Json.readChars_of_excess? beyond
  rw [interpret_of_text taking present decoded, hRead]
  cases flaw with
  | malformed => exact absurd rfl other
  | _ => rfl

def Foreign (octets : List UInt8) (o : Except Fault (Option Completion)) : Prop :=
  (Text.jsonText? octets = none ∧ o = .error .malformedText) ∨
    ∃ text flaw, Text.jsonText? octets = some text ∧ Json.excess? text = some flaw ∧
      o = .error (.unreadable flaw)

theorem foreign_interpret (illegible : ¬ Legible status octets) :
    Foreign octets (interpret status octets) := by
  obtain ⟨taking, rest⟩ := not_or.mp illegible
  obtain ⟨present, noText⟩ := not_or.mp rest
  cases decoded : Text.jsonText? octets with
  | none =>
    refine .inl ⟨decoded, ?_⟩
    simp only [interpret, if_neg taking, if_neg present, decoded]
    rfl
  | some text =>
    cases beyond : Json.excess? text with
    | none => exact absurd ⟨text, decoded, beyond⟩ noText
    | some flaw =>
      have visible : octets.all Text.isBlankOctet = false := Bool.eq_false_iff.mpr present
      exact .inr ⟨text, flaw, decoded, beyond, interpret_of_excess taking visible decoded beyond⟩

theorem Foreign.not_settled {o : Except Fault (Option Completion)} (foreign : Foreign octets o) :
    ¬ Settled status octets o := by
  intro settled
  obtain ⟨-, rfl⟩ | ⟨text, flaw, -, -, rfl⟩ := foreign <;> cases settled

/-- An answer that arrives ends in one of the settled outcomes exactly where it is legible, as all text is
that is modest in its digits and brackets; else the fault of decoding it, or of reading what it was
decoded to, comes out as it is. -/
theorem complete_settles (received : Receives l r body status octets) :
    ∃ o, (complete r).exec l = (o, l.sending body) ∧
      (Settled status octets o ↔ Legible status octets) ∧
      (∀ text, Text.jsonText? octets = some text → Json.Modest Json.room text →
        Settled status octets o) ∧
      (¬ Legible status octets → Foreign octets o) := by
  refine ⟨interpret status octets, received.exec, ⟨?_, settled_interpret⟩, ?_, foreign_interpret⟩
  · intro settled
    by_contra illegible
    exact (foreign_interpret illegible).not_settled settled
  · intro text decoded modest
    exact settled_interpret (.inr (.inr ⟨text, decoded, Json.excess?_of_modest modest⟩))

end

theorem complete_settles_counted :
    ∃ body o, (complete plainRequest).exec countedLink = (o, countedLink.sending body) ∧
      Settled 200 countedOctets o := by
  obtain ⟨body, sendable⟩ : ∃ body, countedLink.body? plainRequest = .ok body := ⟨_, rfl⟩
  have received : Receives countedLink plainRequest body 200 countedOctets :=
    { whole := rfl
      sendable
      origin := rfl
      reply := ⟨_, rfl, rfl⟩ }
  obtain ⟨o, ran, settled, -⟩ := complete_settles received
  exact ⟨body, o, ran, settled.mpr (.inr (.inr ⟨_, rfl, rfl⟩))⟩

def strayLink : Link := { replies := [.answer 200 [.octets [0xFF]]] }

/-- The octet `0xFF` is in no text of UTF-8, and the fault that says so is none of the package's. -/
theorem not_settled_stray :
    ((complete plainRequest).exec strayLink).1 = .error .malformedText ∧
      Fault.malformedText.ownName? = none ∧
      ¬ Settled 200 [0xFF] ((complete plainRequest).exec strayLink).1 := by
  have ended : ((complete plainRequest).exec strayLink).1 = .error .malformedText := rfl
  refine ⟨ended, rfl, ?_⟩
  rw [ended]
  intro settled
  cases settled

end Exchange

end Colloquy

import Colloquy.Proofs.Conversation.Law

/-! # Supplies of answers

Where every answer uses up some of what a link has to give, no conversation goes on for ever, and as
much fuel as there is supply lets each come to its end.
-/
set_option autoImplicit false

namespace Colloquy.Conversation

variable {τ : Type}

/-- Every answer lowers `size`, and nothing raises it. -/
structure Spends (send : Transport τ) (size : τ → Nat) : Prop where
  kept : ∀ r l, size ((send r).exec l).2 ≤ size l
  spent : ∀ r l c, ((send r).exec l).1 = .ok c → size ((send r).exec l).2 < size l

variable {send : Transport τ} {size : τ → Nat} {limit : RoundLimit} {fuel rounds : Nat}
  {r : Request} {s u : Session τ} {t : Transcript}

theorem Spends.linkAfter_le (spends : Spends send size) (l : τ) (requests : List Request) :
    size (linkAfter send l requests) ≤ size l := by
  induction requests generalizing l with
  | nil => exact Nat.le_refl _
  | cons r rest ih =>
    calc
      size (linkAfter send l (r :: rest)) ≤ size ((send r).exec l).2 := ih _
      _ ≤ size l := spends.kept r l

theorem Course.finished_of_spends (h : Course send limit fuel rounds r s t u)
    (spends : Spends send size) (hFuel : size s.link ≤ fuel) : t.ending ≠ .unfinished := by
  induction h with
  | @unfinished rounds r s c m replied asks within =>
    have hSpent := spends.spent r s.link c replied
    omega
  | @round fuel rounds r s u c m as left t replied asks within calls answering later ih =>
    have hSpent := spends.spent r s.link c replied
    refine ih ?_
    change size ((send r).exec s.link).2 ≤ fuel
    omega
  | _ => simp

end Colloquy.Conversation

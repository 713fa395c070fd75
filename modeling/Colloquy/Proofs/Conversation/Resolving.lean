import Colloquy.Proofs.Conversation.Law
import Colloquy.Proofs.Registry.Unfolding

/-! # Look-ups in a conversation

A conversation looks a name up for every tool call that has one. Where names that are one key get one
answer, each look-up comes to what the name stands for when the conversation begins, whatever was looked
up before it; what is left is the same registry with more of what its resolvers provide.
-/
set_option autoImplicit false

namespace Colloquy.Conversation

structure LookUp where
  name : Name
  outcome : Except Fault Callback

def Found.lookUp (x : Found) : LookUp := ⟨x.name, .ok x.callback⟩

def Failure.lookUps : Failure → List LookUp
  | unnamed .. => []
  | missing _ name _ fault => [⟨name, .error fault⟩]
  | broken found _ => [found.lookUp]

def Transcript.lookUps (t : Transcript) : List LookUp :=
  t.answered.map (fun a => a.lookUp) ++ match t.ending with
    | .failed _ failure => failure.lookUps
    | _ => []

/-- Every look-up comes to what its name stands for in `r`. -/
def ResolvedBy (r : Registry) (xs : List LookUp) : Prop := ∀ x ∈ xs, r.lookup x.name = x.outcome

section

variable {r left : Registry} {before : List Call}

theorem Answering.leads {as : List Answered} (h : Answering r before as left) :
    r.Leads left ∧ ∀ a ∈ as, ∃ t earlier, r.Leads t ∧ a.In t earlier := by
  induction h with
  | nil => exact ⟨.refl, by simp⟩
  | @cons r left before a rest found text later ih =>
    have led := r.leads_get before a.name
    obtain ⟨toLeft, others⟩ := ih
    refine ⟨led.trans toLeft, List.forall_mem_cons.mpr ⟨⟨r, before, .refl, found⟩, ?_⟩⟩
    intro b hb
    obtain ⟨t, earlier, toT, isIn⟩ := others b hb
    exact ⟨t, earlier, led.trans toT, isIn⟩

theorem Failing.leads {x : Failure} (h : Failing r before x left) : r.Leads left := by
  cases h with
  | unnamed => exact .refl
  | missing => exact r.leads_get ..
  | broken => exact r.leads_get ..

theorem Failing.resolved {x : Failure} (h : Failing r before x left) (steady : r.Steady) :
    ResolvedBy r x.lookUps := by
  cases h with
  | unnamed => simp [ResolvedBy, Failure.lookUps]
  | @missing call name fault named lost =>
    intro y hy
    obtain rfl := List.mem_singleton.mp hy
    exact (steady.outcome_get before name).symm.trans lost
  | @broken found fault isIn ran =>
    intro y hy
    obtain rfl := List.mem_singleton.mp hy
    exact (steady.outcome_get before found.name).symm.trans isIn.outcome_eq

variable {τ : Type} {send : Transport τ} {limit : RoundLimit} {fuel : Nat} {first : Request}
  {s u : Session τ} {t : Transcript}

/-- What a conversation does to the registry is to look names up for its tool calls. -/
structure Transcript.Leads (t : Transcript) (r left : Registry) : Prop where
  led : r.Leads left
  found : ∀ a ∈ t.answered, ∃ v earlier, r.Leads v ∧ a.In v earlier
  failing : ∀ as x, t.ending = .failed as x → ∃ v earlier, r.Leads v ∧ Failing v earlier x left

theorem Transcript.Lawful.leads (h : t.Lawful send limit fuel first s u) :
    t.Leads s.registry u.registry := by
  obtain ⟨middle, answering, ends⟩ := h.answering
  obtain ⟨toMiddle, found⟩ := answering.leads
  generalize hEnding : t.ending = ending, u.registry = left at ends
  cases ends with
  | @failed c m as x rest left replied asks within calls failing =>
    refine ⟨toMiddle.trans failing.leads, found, ?_⟩
    intro bs y hFailed
    obtain ⟨rfl, rfl⟩ := Ending.failed.inj (hEnding.symm.trans hFailed)
    exact ⟨middle, _, toMiddle, failing⟩
  | final | refused | limited | unfinished => exact ⟨toMiddle, found, by simp [hEnding]⟩

theorem Transcript.Leads.resolved (h : t.Leads r left) (byName : r.ByName) : ResolvedBy r t.lookUps := by
  have same {v : Registry} (led : r.Leads v) : v.Steady ∧ ∀ name, v.lookup name = r.lookup name :=
    ⟨(byName.congr led.resolvers).steady, (led.unfolds byName).lookup⟩
  intro x hx
  obtain hx | hx := List.mem_append.mp hx
  · obtain ⟨a, ha, rfl⟩ := List.mem_map.mp hx
    obtain ⟨v, earlier, led, isIn⟩ := h.found a ha
    obtain ⟨steady, hLookup⟩ := same led
    rw [← hLookup]
    exact (steady.outcome_get earlier a.name).symm.trans isIn.outcome_eq
  · cases hEnding : t.ending with
    | failed as failure =>
      rw [hEnding] at hx
      obtain ⟨v, earlier, led, failing⟩ := h.failing as failure hEnding
      obtain ⟨steady, hLookup⟩ := same led
      rw [← hLookup]
      exact failing.resolved steady x hx
    | final | refused | limited | unfinished => simp [hEnding] at hx

theorem leads_drive (send : Transport τ) (limit : RoundLimit) (fuel : Nat) (first : Request) :
    Session.Leads (drive send limit fuel first) := by
  intro s
  obtain ⟨t, u, course⟩ := exists_course send limit fuel 0 first s
  have ran : (drive send limit fuel first).exec s = (t.ending.outcome limit, u) := course.exec
  rw [ran]
  exact course.lawful.leads.led

end

end Colloquy.Conversation

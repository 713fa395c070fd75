import Colloquy.Proofs.Exchange.Failures

/-! # Where a link is halted

A link gives its replies in order, one for each body that goes out. A refusal for good is the last of
them that anything asks for: what took it comes to this refusal and sends nothing more.
-/
set_option autoImplicit false

namespace Colloquy

namespace Exchange

open Backoff (Restarts)

/-- From a link `l` to a link `m` so many bodies were sent, and as many replies taken. -/
structure Takes (l : Link) (n : Nat) (m : Link) : Prop where
  endpoint : m.endpoint = l.endpoint
  replies : m.replies = l.replies.drop n
  sent : ∃ bodies, bodies.length = n ∧ m.sent = l.sent ++ bodies

namespace Takes

variable {l m k : Link} {n more : Nat}

theorem refl (l : Link) : Takes l 0 l :=
  ⟨rfl, rfl, [], rfl, (List.append_nil _).symm⟩

theorem trans (first : Takes l n m) (second : Takes m more k) : Takes l (n + more) k where
  endpoint := second.endpoint.trans first.endpoint
  replies := by rw [second.replies, first.replies, List.drop_drop]
  sent := by
    obtain ⟨bodies, hLength, hSent⟩ := first.sent
    obtain ⟨others, hOthers, hMore⟩ := second.sent
    exact ⟨bodies ++ others, by simp [hLength, hOthers], by rw [hMore, hSent, List.append_assoc]⟩

theorem sending (l : Link) (body : String) : Takes l 1 (l.sending body) :=
  ⟨rfl, List.drop_one.symm, [body], rfl, rfl⟩

end Takes

/-- A refusal for good is the last reply that is taken from `l` on the way to `m`, and it shows. -/
def Halts (l m : Link) (shows : Int → Prop) : Prop :=
  ∃ n, Takes l n m ∧ ∀ j status body octets, j < n →
    l.replies[j]? = some (.answer status body) → Barring status body octets →
    j + 1 = n ∧ shows status

namespace Halts

variable {l m k : Link} {shows later : Int → Prop}

theorem refl (l : Link) (shows : Int → Prop) : Halts l l shows :=
  ⟨0, .refl l, fun _ _ _ _ hj => absurd hj (Nat.not_lt_zero _)⟩

theorem imp (h : Halts l m shows) (implies : ∀ status, shows status → later status) :
    Halts l m later := by
  obtain ⟨n, taken, halted⟩ := h
  refine ⟨n, taken, ?_⟩
  intro j status body octets hj hReply barring
  obtain ⟨hLast, shown⟩ := halted j status body octets hj hReply barring
  exact ⟨hLast, implies status shown⟩

theorem trans (first : Halts l m shows) (goes : ∀ status, ¬ shows status)
    (second : Halts m k later) : Halts l k later := by
  obtain ⟨n, taken, halted⟩ := first
  obtain ⟨more, takenLater, haltedLater⟩ := second
  refine ⟨n + more, taken.trans takenLater, ?_⟩
  intro j status body octets hj hReply barring
  by_cases hBefore : j < n
  · obtain ⟨-, shown⟩ := halted j status body octets hBefore hReply barring
    exact absurd shown (goes status)
  · have hAfter : n ≤ j := Nat.not_lt.mp hBefore
    have reply : m.replies[j - n]? = some (.answer status body) := by
      rw [taken.replies, List.getElem?_drop, Nat.add_sub_cancel' hAfter]
      exact hReply
    obtain ⟨hLast, shown⟩ := haltedLater (j - n) status body octets (by omega) reply barring
    exact ⟨by omega, shown⟩

theorem sending (body : String) (shown : ∀ status pieces octets,
    l.replies.head? = some (.answer status pieces) → Barring status pieces octets → shows status) :
    Halts l (l.sending body) shows := by
  refine ⟨1, .sending l body, ?_⟩
  intro j status pieces octets hj hReply barring
  obtain rfl : j = 0 := by omega
  rw [← List.head?_eq_getElem?] at hReply
  exact ⟨rfl, shown status pieces octets hReply barring⟩

theorem endpoint_eq (h : Halts l m shows) : m.endpoint = l.endpoint := by
  obtain ⟨n, taken, -⟩ := h
  exact taken.endpoint

end Halts

def Refuses {α : Type} (o : Except Fault α) (status : Int) : Prop :=
  ∃ message, o = .error (.api message (.int status))

theorem not_refuses_ok {α : Type} (a : α) (status : Int) : ¬ Refuses (.ok a) status := by
  rintro ⟨message, h⟩
  cases h

theorem not_refuses_of_transient {α : Type} {f : Fault} (transient : f.isTransient = true)
    (status : Int) : ¬ Refuses (.error f : Except Fault α) status := by
  rintro ⟨message, h⟩
  cases h
  cases transient

theorem Refuses.map {α β : Type} {o : Except Fault α} {status : Int} (h : Refuses o status)
    (g : α → β) : Refuses (o.map g) status := by
  obtain ⟨message, rfl⟩ := h
  exact ⟨message, rfl⟩

def RefusesFeed {α : Type} (feed : Feed α) (status : Int) : Prop :=
  feed.items = [] ∧ ∃ message, feed.fault = some (.api message (.int status))

theorem not_refusesFeed_of_restarts {α : Type} {feed : Feed α} (restarts : Restarts feed)
    (status : Int) : ¬ RefusesFeed feed status := by
  obtain ⟨-, f, hFault, transient⟩ := restarts
  rintro ⟨-, message, hRefusal⟩
  rw [hRefusal] at hFault
  cases hFault
  cases transient

theorem halts_complete (r : Request) {l : Link}
    (origin : Link.finds l.endpoint Endpoint.checkOrigin = .ok ()) :
    Halts l ((complete r).exec l).2 (Refuses ((complete r).exec l).1) := by
  cases streaming : r.stream.truthy with
  | true =>
    have ran : (complete r).exec l = (.error (.streamFlag false), l) := by
      simp [complete, streaming]
    rw [ran]
    exact .refl l _
  | false =>
    rw [exec_complete streaming]
    cases l.body? r with
    | error f => exact .refl l _
    | ok body =>
      refine .sending body ?_
      intro status pieces octets hReply barring
      rw [hReply]
      exact completed_of_barring barring origin

theorem halts_openStream {r : Request} (streaming : r.stream.truthy = true) {l : Link}
    (origin : Link.finds l.endpoint Endpoint.checkOrigin = .ok ()) :
    Halts l ((openStream r).run l).2 (RefusesFeed ((openStream r).run l).1) := by
  rw [run_openStream streaming]
  cases l.body? r with
  | error f => exact .refl l _
  | ok body =>
    refine .sending body ?_
    intro status pieces octets hReply barring
    obtain ⟨message, hGiven⟩ := given_of_barring origin barring
    rw [hReply, hGiven]
    exact ⟨rfl, message, rfl⟩

end Exchange

end Colloquy

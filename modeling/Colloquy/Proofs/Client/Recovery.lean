import Colloquy.Proofs.Client.Calls
import Colloquy.Proofs.Client.Streams
import Colloquy.Proofs.Exchange.Failures

/-! # Recovery

As long as there are attempts left, failures that pass cost a request and a pause each, and nothing
else: the first reply that is none of them decides what a call or a stream comes to.
-/
set_option autoImplicit false

namespace Colloquy.Client

open Backoff (Transient Restarts tryAgain pausedSession)
open Conversation (drive reply sentSession asksForTools)
open Exchange (completed given resent Passing Early Barring)

section

variable {τ : Type} {send : Transport τ} {request : Request} {s : Session τ}

theorem exec_drive_of_settling
    (settling : ∀ c, reply send request s = .ok c → asksForTools c = false) (limit : RoundLimit)
    (fuel : Nat) :
    (drive send limit fuel request).exec s = (reply send request s, sentSession send request s) := by
  cases replied : reply send request s with
  | ok c =>
    have course : Conversation.Course send limit fuel 0 request s ⟨[], request, .final c⟩ _ :=
      .final replied (settling c replied)
    exact course.exec
  | error f =>
    have course : Conversation.Course send limit fuel 0 request s ⟨[], request, .refused f⟩ _ :=
      .refused replied
    exact course.exec

theorem link_of_prepare {c : Client} {p : Prompt} {stream : Bool} {u : Session τ}
    {made : Except Fault (Request × Option Level)} (ran : (c.prepare p stream).exec s = (made, u)) :
    u.link = s.link := by
  obtain ⟨registry, asked, quiet⟩ := onlyAsks_prepare c p stream s
  rw [ran] at quiet
  have same := congrArg Session.link quiet
  exact same

end

/-- At a link that takes a request, failures that pass come first, and then this reply. -/
structure Awaits (l : Link) (request : Request) (body : String) (failures : List Reply)
    (next : Reply) : Prop where
  sendable : l.body? request = .ok body
  origin : Link.finds l.endpoint Endpoint.checkOrigin = .ok ()
  replies : ∃ later, l.replies = failures ++ next :: later
  passing : ∀ reply ∈ failures, Passing reply

namespace Awaits

variable {l : Link} {request : Request} {body : String} {failure next : Reply}
  {failures : List Reply}

theorem head_nil (h : Awaits l request body [] next) : l.replies.head? = some next := by
  obtain ⟨later, hReplies⟩ := h.replies
  rw [hReplies]
  rfl

theorem head_cons (h : Awaits l request body (failure :: failures) next) :
    l.replies.head? = some failure := by
  obtain ⟨later, hReplies⟩ := h.replies
  rw [hReplies]
  rfl

theorem sending (h : Awaits l request body (failure :: failures) next) :
    Awaits (l.sending body) request body failures next where
  sendable := h.sendable
  origin := h.origin
  replies := by
    obtain ⟨later, hReplies⟩ := h.replies
    exact ⟨later, by simp [Link.sending, hReplies]⟩
  passing := fun reply hReply => h.passing reply (List.mem_cons_of_mem _ hReply)

theorem getElem?_failures (h : Awaits l request body failures next) {j : Nat}
    (hj : j < failures.length) : l.replies[j]? = some failures[j] := by
  obtain ⟨later, hReplies⟩ := h.replies
  rw [hReplies, List.getElem?_append_left hj, List.getElem?_eq_getElem hj]

theorem getElem?_next (h : Awaits l request body failures next) :
    l.replies[failures.length]? = some next := by
  obtain ⟨later, hReplies⟩ := h.replies
  rw [hReplies, List.getElem?_append_right (Nat.le_refl _), Nat.sub_self]
  rfl

end Awaits

theorem resent_sending (l : Link) (body : String) (k : Nat) :
    resent (l.sending body) body k = resent l body (k + 1) := by
  simp [resent, Link.sending, List.replicate_succ]

section

variable {request : Request} {body : String} {limit : RoundLimit} {fuel : Nat}

theorem reply_complete (whole : request.stream.truthy = false) {s : Session Link}
    (sendable : s.link.body? request = .ok body) :
    reply Exchange.complete request s = completed s.link.endpoint s.link.replies.head? ∧
      (sentSession Exchange.complete request s).link = s.link.sending body := by
  have ran := Exchange.exec_complete whole s.link
  rw [sendable] at ran
  exact ⟨congrArg Prod.fst ran, congrArg Prod.snd ran⟩

/-- Each failure takes one attempt, one reply and one pause, and leaves the link as it is else. -/
theorem tryAgain_of_awaits (whole : request.stream.truthy = false) {b : Backoff} {attempts : Nat}
    {next : Reply} {failures : List Reply} {left i : Nat} {s : Session Link}
    (awaits : Awaits s.link request body failures next) (enough : failures.length ≤ left)
    (delays : ∀ j, j < failures.length → ∃ d, b.delay (.int (i + j : Nat)) = .ok d)
    (settled : ¬ Transient (completed s.link.endpoint (some next)))
    (settling : ∀ c, completed s.link.endpoint (some next) = .ok c → asksForTools c = false) :
    ∃ u, (tryAgain b attempts (drive Exchange.complete limit fuel request) left i).exec s =
        (completed s.link.endpoint (some next), u) ∧
      u.link = resent s.link body (failures.length + 1) := by
  induction failures generalizing left i s with
  | nil =>
    obtain ⟨hReply, hLink⟩ := reply_complete whole awaits.sendable
    rw [awaits.head_nil] at hReply
    rw [← hReply] at settled settling ⊢
    have ran := exec_drive_of_settling settling limit fuel
    refine ⟨_, Backoff.tryAgain_of_settled ran settled left i, ?_⟩
    rw [hLink, List.length_nil, ← Exchange.sending_resent, Exchange.resent_zero]
  | cons failure failures ih =>
    obtain ⟨left, rfl⟩ := Nat.exists_eq_add_one_of_ne_zero (Nat.ne_zero_of_lt enough)
    obtain ⟨hReply, hLink⟩ := reply_complete whole awaits.sendable
    obtain ⟨f, hFailed, transient⟩ :=
      Exchange.completed_of_passing (awaits.passing failure List.mem_cons_self) awaits.origin
    rw [awaits.head_cons, hFailed] at hReply
    have fails : ∀ c, reply Exchange.complete request s = .ok c → asksForTools c = false := by
      simp [hReply]
    have ran := exec_drive_of_settling fails limit fuel
    rw [hReply] at ran
    obtain ⟨d, pause⟩ := delays 0 (Nat.succ_pos _)
    rw [Nat.add_zero] at pause
    rw [Backoff.tryAgain_of_transient ran transient pause]
    generalize hPaused : pausedSession attempts i f d (sentSession Exchange.complete request s) = t
    have link : t.link = s.link.sending body := by
      rw [← hPaused, ← hLink]
      rfl
    have endpoint : t.link.endpoint = s.link.endpoint := by
      rw [link]
      rfl
    rw [← endpoint] at settled settling ⊢
    have later : Awaits t.link request body failures next := by
      rw [link]
      exact awaits.sending
    have laterDelays (j : Nat) (hj : j < failures.length) :
        ∃ d, b.delay (.int (i + 1 + j : Nat)) = .ok d := by
      rw [show i + 1 + j = i + (j + 1) by omega]
      exact delays (j + 1) (Nat.succ_lt_succ hj)
    obtain ⟨u, tried, hAfter⟩ :=
      ih later (Nat.le_of_succ_le_succ enough) laterDelays settled settling
    refine ⟨u, tried, ?_⟩
    rw [hAfter, link, resent_sending, List.length_cons]

end

section

variable {c : Client} {p : Prompt} {s s₀ : Session Link} {request : Request} {limit : RoundLimit}
  {body : String} {failures : List Reply} {next : Reply} {most : Nat}

theorem call_of_awaits (created : (c.createRequest p false).exec s = (.ok request, s₀))
    (limited : RoundLimit.ofValue c.rounds = .ok limit) (attempts : c.backoff.attempts = .ok most)
    (delays : ∀ i : Nat, i + 1 < most → ∃ d, c.backoff.delay (.int i) = .ok d)
    (awaits : Awaits s.link request body failures next) (fewer : failures.length < most)
    (settled : ¬ Transient (completed s.link.endpoint (some next)))
    (settling : ∀ completion, completed s.link.endpoint (some next) = .ok completion →
      asksForTools completion = false) :
    ∃ u, (c.call p).exec s = ((completed s.link.endpoint (some next)).map responseTo, u) ∧
      u.link = resent s.link body (failures.length + 1) := by
  obtain ⟨overlay, prepared⟩ := prepare_of_createRequest created
  have whole : request.stream.truthy = false := by
    rw [(parts_of_prepare prepared).1]
    rfl
  have link : (Session.under overlay s₀).link = s.link := by
    have same := link_of_prepare prepared
    exact same
  obtain ⟨left, rfl⟩ := Nat.exists_eq_add_one_of_ne_zero (Nat.ne_zero_of_lt fewer)
  rw [← link] at awaits settled settling ⊢
  have enough : failures.length ≤ left := Nat.le_of_lt_succ fewer
  obtain ⟨v, tried, hAfter⟩ := tryAgain_of_awaits whole awaits enough
    (fun j hj => by
      rw [Nat.zero_add]
      exact delays j (Nat.succ_lt_succ (Nat.lt_of_lt_of_le hj enough)))
    settled settling
  rw [← Backoff.exec_execute attempts] at tried
  obtain ⟨notes, called⟩ := exec_callOver_eq prepared limited tried
  rw [exec_call]
  exact ⟨_, called, hAfter⟩

/-- The openings stop neither at a failure nor behind the reply that is none. -/
theorem arriving_of_awaits (streaming : request.stream.truthy = true)
    (attempts : c.backoff.attempts = .ok most)
    (delays : ∀ i : Nat, i + 1 < most → ∃ d, c.backoff.delay (.int i) = .ok d) {l : Link}
    (awaits : Awaits l request body failures next) (fewer : failures.length < most)
    (early : ∀ reply ∈ failures, Early reply)
    (settled : ¬ Restarts (given l.endpoint (some next))) :
    ∃ chunks, c.arriving Exchange.openStream request l =
        (chunks, resent l body (failures.length + 1)) ∧
      chunks.items = (given l.endpoint (some next)).items ∧
      chunks.fault = (given l.endpoint (some next)).fault := by
  obtain ⟨left, rfl⟩ := Nat.exists_eq_add_one_of_ne_zero (Nat.ne_zero_of_lt fewer)
  obtain ⟨xs, chunks, m, openings, ran⟩ := Backoff.exists_openings c.backoff (left + 1)
    (Exchange.openStream request) left 0 l
  have place := Exchange.opening_eq streaming awaits.sendable openings
  obtain ⟨x, hLast, hItems, hFault, hAfter, hEnd⟩ := openings.last fun j hj => by
    rw [Nat.zero_add]
    exact delays j (Nat.succ_lt_succ hj)
  have positive := openings.length_pos
  have lastPlace : xs[xs.length - 1]? = some x := by rw [← hLast, List.getLast?_eq_getElem?]
  have length : xs.length = failures.length + 1 := by
    rcases Nat.lt_trichotomy xs.length (failures.length + 1) with fewerOpened | same | moreOpened
    · have hFailure : xs.length - 1 < failures.length := by omega
      have hPassing := awaits.passing _ (List.getElem_mem hFailure)
      have restarts := Exchange.restarts_given hPassing (early _ (List.getElem_mem hFailure))
        awaits.origin
      rw [place _ x lastPlace, awaits.getElem?_failures hFailure] at hEnd
      obtain full | stops := hEnd
      · omega
      · exact absurd restarts stops
    · exact same
    · have hNext : failures.length < xs.length := by omega
      obtain ⟨restarts, -⟩ := openings.next failures.length _ _ (List.getElem?_eq_getElem hNext)
        (List.getElem?_eq_getElem moreOpened)
      rw [place _ _ (List.getElem?_eq_getElem hNext), awaits.getElem?_next] at restarts
      exact absurd restarts settled
  have exchange : x = ⟨resent l body failures.length, given l.endpoint (some next),
      resent l body (failures.length + 1)⟩ := by
    rw [length, Nat.add_sub_cancel] at lastPlace
    rw [place _ x lastPlace, awaits.getElem?_next]
  rw [arriving, Backoff.feed, attempts]
  refine ⟨chunks, ?_, ?_, ?_⟩
  · simp only [ran, hAfter, exchange]
  · rw [hItems, exchange]
  · rw [hFault, exchange]

theorem responding_congr (policy : FragmentPolicy) {f g : Feed Chunk} (items : f.items = g.items)
    (fault : f.fault = g.fault) :
    (responding policy f).items = (responding policy g).items ∧
      (responding policy f).fault = (responding policy g).fault := by
  have first := agree_responses g.fault [] f.events
  have second := agree_responses g.fault [] g.events
  change Agree (judged [] f.items) _ _ _ at first
  change Agree (judged [] g.items) _ _ _ at second
  rw [items] at first
  rw [responding, responding, fault]
  cases policy with
  | proceed =>
    exact ⟨first.goes_items.trans second.goes_items.symm, first.goes_fault.trans second.goes_fault.symm⟩
  | abort =>
    refine ⟨?_, first.stops_fault.trans second.stops_fault.symm⟩
    rw [first.stops_items, second.stops_items, first.goes_items, second.goes_items]

end

end Colloquy.Client

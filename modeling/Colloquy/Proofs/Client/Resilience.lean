import Colloquy.Proofs.Client.Recovery
import Colloquy.Proofs.Exchange.Halting

/-! # Resilience

A call or a stream outlasts failures that pass, as many as the policy has attempts to spare. A refusal
for good ends it wherever it comes: in any round of any attempt nothing is sent behind it.
-/
set_option autoImplicit false

namespace Colloquy.Client

open Backoff (Restarts)
open Conversation (drive reply sentSession asksForTools)
open Exchange (completed resent fragments bodyLines Early Halts Refuses RefusesFeed)

section

variable {limit : RoundLimit} {fuel rounds : Nat} {request : Request} {s u v : Session Link}
  {b : Backoff} {o : Except Fault (Option Completion)}

theorem halts_sent (replied : reply Exchange.complete request s = o)
    (origin : Link.finds s.link.endpoint Endpoint.checkOrigin = .ok ()) :
    Halts s.link (sentSession Exchange.complete request s).link (Refuses o) := by
  rw [← replied]
  exact Exchange.halts_complete request origin

/-- An answer that asks for tools is no refusal, whatever becomes of the conversation. -/
theorem halts_course {t : Conversation.Transcript}
    (course : Conversation.Course Exchange.complete limit fuel rounds request s t u)
    (origin : Link.finds s.link.endpoint Endpoint.checkOrigin = .ok ()) :
    Halts s.link u.link (Refuses (t.ending.outcome limit)) := by
  induction course with
  | final replied => exact halts_sent replied origin
  | refused replied => exact halts_sent replied origin
  | limited replied | unfinished replied | failed replied =>
    have sent := halts_sent replied origin
    exact sent.trans (Exchange.not_refuses_ok _) (.refl _ _)
  | @round fuel rounds r s u c m as left t replied asks within calls answering later ih =>
    have sent := halts_sent replied origin
    refine sent.trans (Exchange.not_refuses_ok c) (ih ?_)
    change Link.finds (sentSession Exchange.complete r s).link.endpoint _ = _
    rw [sent.endpoint_eq]
    exact origin

theorem halts_drive (origin : Link.finds s.link.endpoint Endpoint.checkOrigin = .ok ())
    (ran : (drive Exchange.complete limit fuel request).exec s = (o, u)) :
    Halts s.link u.link (Refuses o) := by
  obtain ⟨t, v, course⟩ := Conversation.exists_course Exchange.complete limit fuel 0 request s
  have exec : (drive Exchange.complete limit fuel request).exec s = (t.ending.outcome limit, v) :=
    course.exec
  rw [ran] at exec
  obtain ⟨rfl, rfl⟩ := Prod.mk.inj exec
  exact halts_course course origin

/-- What is tried again failed for a reason that passes, so no refusal was among its replies. -/
theorem halts_attempts {attempts left i : Nat}
    {tries : List (Backoff.Attempt Link (Option Completion))}
    (tried : Backoff.Attempts b attempts (drive Exchange.complete limit fuel request) left i s tries
      o v)
    (origin : Link.finds s.link.endpoint Endpoint.checkOrigin = .ok ()) :
    Halts s.link v.link (Refuses o) := by
  induction tried with
  | success ran => exact halts_drive origin ran
  | hopeless ran => exact halts_drive origin ran
  | @exhausted i s u f ran =>
    have tried := halts_drive origin ran
    exact tried
  | unpaused ran transient =>
    have tried := halts_drive origin ran
    exact tried.trans (Exchange.not_refuses_of_transient transient) (.refl _ _)
  | @again left i s u v f d o later ran transient pause rest ih =>
    have tried := halts_drive origin ran
    refine tried.trans (Exchange.not_refuses_of_transient transient) (ih ?_)
    change Link.finds u.link.endpoint _ = _
    rw [tried.endpoint_eq]
    exact origin

theorem halts_execute (origin : Link.finds s.link.endpoint Endpoint.checkOrigin = .ok ())
    (ran : (b.execute (drive Exchange.complete limit fuel request)).exec s = (o, v)) :
    Halts s.link v.link (Refuses o) := by
  cases attempts : b.attempts with
  | error f =>
    simp only [Backoff.execute, Run.exec_bind, Run.exec_ofExcept, attempts] at ran
    obtain ⟨-, rfl⟩ := Prod.mk.inj ran
    exact .refl _ _
  | ok most =>
    cases most with
    | zero =>
      simp only [Backoff.execute, Run.exec_bind, Run.exec_ofExcept, attempts] at ran
      obtain ⟨-, rfl⟩ := Prod.mk.inj ran
      exact .refl _ _
    | succ left =>
      rw [Backoff.exec_execute attempts] at ran
      obtain ⟨tries, o', v', tried, exec⟩ := Backoff.exists_attempts b (left + 1)
        (drive Exchange.complete limit fuel request) left 0 s
      rw [ran] at exec
      obtain ⟨rfl, rfl⟩ := Prod.mk.inj exec
      exact halts_attempts tried origin

theorem halts_call {c : Client} {p : Prompt} {o : Except Fault Response}
    (origin : Link.finds s.link.endpoint Endpoint.checkOrigin = .ok ())
    (ran : (c.call p).exec s = (o, u)) : Halts s.link u.link (Refuses o) := by
  rw [exec_call] at ran
  rcases prepared : (c.prepare p false).exec s with ⟨f | ⟨request, overlay⟩, s₀⟩
  · rw [callOver, Run.exec_bind, prepared] at ran
    obtain ⟨-, rfl⟩ := Prod.mk.inj ran
    rw [link_of_prepare prepared]
    exact .refl _ _
  · have link : (Session.under overlay s₀).link = s.link := by
      have same := link_of_prepare prepared
      exact same
    cases limited : RoundLimit.ofValue c.rounds with
    | error f =>
      rw [callOver, Run.exec_bind_of_ok prepared] at ran
      simp only [Run.exec_bind, Run.exec_ofExcept, limited] at ran
      obtain ⟨-, rfl⟩ := Prod.mk.inj ran
      rw [link_of_prepare prepared]
      exact .refl _ _
    | ok limit =>
      rcases executed : (c.backoff.execute (drive Exchange.complete limit
        (limit.most.getD (s.link.replies.length + 1)) request)).exec (Session.under overlay s₀)
        with ⟨outcome, v⟩
      obtain ⟨notes, called⟩ := exec_callOver_eq prepared limited executed
      rw [ran] at called
      obtain ⟨rfl, rfl⟩ := Prod.mk.inj called
      rw [← link] at origin ⊢
      exact (halts_execute origin executed).imp fun status refuses => refuses.map responseTo

theorem halts_openings {attempts left i : Nat} {l m : Link}
    {xs : List (Backoff.Opening Link Chunk)} {feed : Feed Chunk}
    (opened : Backoff.Openings b attempts (Exchange.openStream request) left i l xs feed m)
    (streaming : request.stream.truthy = true)
    (origin : Link.finds l.endpoint Endpoint.checkOrigin = .ok ()) :
    Halts l m (RefusesFeed feed) := by
  have first {l m : Link} {feed : Feed Chunk}
      (origin : Link.finds l.endpoint Endpoint.checkOrigin = .ok ())
      (ran : (Exchange.openStream request).run l = (feed, m)) : Halts l m (RefusesFeed feed) := by
    have halts := Exchange.halts_openStream streaming origin
    rw [ran] at halts
    exact halts
  induction opened with
  | settled ran => exact first origin ran
  | exhausted ran => exact first origin ran
  | unpaused ran restarts =>
    have restarting := Backoff.restarts_of_restart? restarts
    exact (first origin ran).trans (Exchange.not_refusesFeed_of_restarts restarting) (.refl _ _)
  | @again left i l m n feed rest f d later ran restarts pause reopened ih =>
    have restarting := Backoff.restarts_of_restart? restarts
    have begun := first origin ran
    have reached : Link.finds m.endpoint Endpoint.checkOrigin = .ok () := by
      rw [begun.endpoint_eq]
      exact origin
    refine begun.trans (Exchange.not_refusesFeed_of_restarts restarting) ((ih reached).imp ?_)
    rintro status ⟨hItems, hFault⟩
    refine ⟨?_, hFault⟩
    rw [Feed.items_after, List.filterMap_append, hItems, List.append_nil]
    have nothing : feed.items = [] := restarting.1
    rw [show feed.events.filterMap Feed.Event.item? = [] from nothing]
    rfl

theorem halts_arriving {c : Client} {l : Link} (streaming : request.stream.truthy = true)
    (origin : Link.finds l.endpoint Endpoint.checkOrigin = .ok ()) :
    Halts l (c.arriving Exchange.openStream request l).2
      (RefusesFeed (c.arriving Exchange.openStream request l).1) := by
  unfold arriving Backoff.feed
  split
  · exact .refl _ _
  · exact .refl _ _
  · next left _ =>
    obtain ⟨xs, feed, m, opened, ran⟩ := Backoff.exists_openings c.backoff (left + 1)
      (Exchange.openStream request) left 0 l
    rw [ran]
    exact halts_openings opened streaming origin

theorem refusesFeed_responding {policy : FragmentPolicy} {chunks : Feed Chunk} {status : Int}
    (h : RefusesFeed chunks status) : RefusesFeed (responding policy chunks) status := by
  obtain ⟨hItems, message, hFault⟩ := h
  have bare : chunks.items = (Feed.failed (.api message (.int status)) : Feed Chunk).items := hItems
  obtain ⟨items, fault⟩ := responding_congr policy bare hFault
  exact ⟨items, message, fault⟩

def RefusesStream (o : Except Fault (Feed Response)) (status : Int) : Prop :=
  ∃ feed, o = .ok feed ∧ RefusesFeed feed status

theorem halts_stream {c : Client} {p : Prompt} {o : Except Fault (Feed Response)}
    (origin : Link.finds s.link.endpoint Endpoint.checkOrigin = .ok ())
    (ran : (c.stream p none).exec s = (o, u)) : Halts s.link u.link (RefusesStream o) := by
  rw [stream] at ran
  rcases created : (c.createRequest p true).exec s with ⟨f | request, s₀⟩
  · rw [exec_streamOver_of_uncreated created] at ran
    obtain ⟨-, rfl⟩ := Prod.mk.inj ran
    obtain ⟨left, asked, rfl⟩ := asked_of_createRequest created
    exact .refl _ _
  · obtain ⟨left, asked, rfl⟩ := asked_of_createRequest created
    have streaming : request.stream.truthy = true := by
      rw [stream_of_createRequest created]
      rfl
    cases limited : RoundLimit.ofValue c.rounds with
    | error f =>
      rw [exec_streamOver_of_unlimited created limited] at ran
      obtain ⟨-, rfl⟩ := Prod.mk.inj ran
      exact .refl _ _
    | ok limit =>
      rw [exec_streamOver created limited] at ran
      obtain ⟨rfl, rfl⟩ := Prod.mk.inj ran
      exact (halts_arriving streaming origin).imp fun status refuses =>
        ⟨_, rfl, refusesFeed_responding refuses⟩

end

/-- Failures that pass, fewer than there are attempts, cost a request each: behind them a call has the
response to the completion it gets, and a stream the responses to all fragments of its exchange. A
refusal for good is raised as it is, and nothing is sent behind it. -/
theorem outlasts_failures (c : Client) (p : Prompt) {s : Session Link} {limit : RoundLimit}
    {most : Nat} (limited : RoundLimit.ofValue c.rounds = .ok limit)
    (attempts : c.backoff.attempts = .ok most)
    (delays : ∀ i : Nat, i + 1 < most → ∃ d, c.backoff.delay (.int i) = .ok d)
    (origin : Link.finds s.link.endpoint Endpoint.checkOrigin = .ok ()) :
    (∀ request s₀ body failures good completion,
      (c.createRequest p false).exec s = (.ok request, s₀) →
      Awaits s.link request body failures good → failures.length < most →
      completed s.link.endpoint (some good) = .ok (some completion) →
      asksForTools (some completion) = false →
      ∃ u, (c.call p).exec s = (.ok (responseOf completion), u) ∧
        u.link = resent s.link body (failures.length + 1)) ∧
    (∀ request s₀ body failures status pieces octets,
      (c.createRequest p true).exec s = (.ok request, s₀) →
      Awaits s.link request body failures (.answer status pieces) → failures.length < most →
      (∀ reply ∈ failures, Early reply) → status < 400 → Exchange.wholeBody pieces = .ok octets →
      ∃ chunks feed u, chunks = fragments (bodyLines octets true) ∧
        (c.stream p none).exec s = (.ok feed, u) ∧
        feed.items = (responding c.policy chunks).items ∧
        feed.fault = (responding c.policy chunks).fault ∧
        u.link = resent s.link body (failures.length + 1)) ∧
    (∀ o u, (c.call p).exec s = (o, u) → Halts s.link u.link (Refuses o)) ∧
    (∀ o u, (c.stream p none).exec s = (o, u) → Halts s.link u.link (RefusesStream o)) := by
  refine ⟨?_, ?_, fun o u => halts_call origin, fun o u => halts_stream origin⟩
  · intro request s₀ body failures good completion created awaits fewer completes final
    have settled : ¬ Backoff.Transient (completed s.link.endpoint (some good)) := by
      rw [completes]
      exact Backoff.not_transient_ok _
    have settling : ∀ other, completed s.link.endpoint (some good) = .ok other →
        asksForTools other = false := by
      intro other hOther
      cases completes.symm.trans hOther
      exact final
    obtain ⟨u, called, hLink⟩ :=
      call_of_awaits created limited attempts delays awaits fewer settled settling
    rw [completes] at called
    exact ⟨u, called, hLink⟩
  · intro request s₀ body failures status pieces octets created awaits fewer early taking whole
    obtain ⟨items, fault⟩ := Exchange.given_of_whole origin taking whole
    have settled : ¬ Restarts (Exchange.given s.link.endpoint (some (.answer status pieces))) := by
      rintro ⟨-, f, hFault, transient⟩
      rw [Exchange.lasting_of_closing? (fault.symm.trans hFault)] at transient
      cases transient
    have streaming : request.stream.truthy = true := by
      rw [stream_of_createRequest created]
      rfl
    obtain ⟨chunks, arrived, hItems, hFault⟩ :=
      arriving_of_awaits streaming attempts delays awaits fewer early settled
    obtain ⟨left, asked, rfl⟩ := asked_of_createRequest created
    obtain ⟨sameItems, sameFault⟩ := responding_congr c.policy (hItems.trans items)
      (hFault.trans fault)
    refine ⟨_, _, _, rfl, exec_streamOver created limited Exchange.openStream, ?_, ?_, ?_⟩
    · rw [arrived]
      exact sameItems
    · rw [arrived]
      exact sameFault
    · rw [arrived]

def bare : Client where
  defaults := {}
  backoff := { maxAttempts := .int 2, base := .int 1, factor := .int 2, cap := .int 30 }

def helloText : String :=
  "\x7b\"choices\":[\x7b\"message\":\x7b\"content\":\"Hi\"\x7d\x7d]\x7d"

def helloMembers : Members :=
  [("choices", .list [.object [("message", .object [("content", .str "Hi")])]])]

def helloAnswer : Reply := .answer 200 [.octets (Exchange.asciiOctets helloText)]

def helloStream : Reply := .answer 200 [.octets Exchange.friendlyOctets]

def helloCompletion : Completion where
  id := .str ""
  choices := [{ index := .int 0, message := { content := .str "Hi", role := none } }]

theorem holds_helloText : Exchange.Holds (Exchange.asciiOctets helloText) (.object helloMembers) :=
  ⟨by decide +kernel, helloText.toList, by decide +kernel, Value.eq_ok_of_agrees (by decide +kernel)⟩

theorem completed_helloAnswer : completed none (some helloAnswer) = .ok (some helloCompletion) := by
  have decoded : Completion.decode (.object helloMembers) = .ok helloCompletion := rfl
  have taking : ¬ (400 ≤ (200 : Int)) := by decide
  exact (Exchange.interpret_of_holds taking holds_helloText).trans (Exchange.accept_of_decode decoded)

def answeringSession (failure : Int) (good : Reply) : Session Link where
  link := { replies := [.answer failure [], good] }

theorem created_bare (stream : Bool) (failure : Int) (good : Reply) :
    ∃ request, ((bare.createRequest greeting stream).exec (answeringSession failure good)).1 =
        .ok request ∧
      ∃ body, (answeringSession failure good).link.body? request = .ok body := by
  have defaults : bare.defaults.enabled false = .ok [] := Options.enabled_of_none rfl
  have steady : (answeringSession failure good).registry.Steady := by
    intro ask hAsk
    cases hAsk
  rw [createRequest, Run.exec_map, outcome_prepare _ _ _ steady]
  simp only [Except.bind, bind, defaults]
  cases stream <;> exact ⟨_, rfl, _, rfl⟩

theorem bare_delays (i : Nat) (hi : i + 1 < 2) : ∃ d, bare.backoff.delay (.int i) = .ok d := by
  obtain rfl : i = 0 := by omega
  exact ⟨.int 1, rfl⟩

theorem outlasts_failures_busy :
    (∃ body r u g, (bare.call greeting).exec (answeringSession 503 helloAnswer) = (.ok r, u) ∧
      u.link = resent (answeringSession 503 helloAnswer).link body 2 ∧
      r.generations = [g] ∧ g.content = .str "Hi") ∧
    (∃ body feed u r g, (bare.stream greeting none).exec (answeringSession 503 helloStream) =
        (.ok feed, u) ∧
      feed.items = [r] ∧ feed.fault = none ∧
      u.link = resent (answeringSession 503 helloStream).link body 2 ∧
      r.generations = [g] ∧ g.content = .str "Hi") := by
  have passing : ∀ reply ∈ [Reply.answer 503 []], Exchange.Passing reply :=
    List.forall_mem_singleton.mpr (.busy (by decide) rfl)
  constructor
  · obtain ⟨calls, -⟩ := outlasts_failures bare greeting (s := answeringSession 503 helloAnswer) rfl
      rfl bare_delays rfl
    obtain ⟨request, created, body, sendable⟩ := created_bare false 503 helloAnswer
    have awaits : Awaits (answeringSession 503 helloAnswer).link request body [.answer 503 []]
        helloAnswer :=
      ⟨sendable, rfl, ⟨[], rfl⟩, passing⟩
    obtain ⟨u, called, hLink⟩ := calls _ _ _ _ _ _ (Prod.ext created rfl) awaits (by decide)
      completed_helloAnswer rfl
    exact ⟨body, _, u, _, called, hLink, rfl, (conveys_generationOf _ _).content⟩
  · obtain ⟨-, streams, -⟩ := outlasts_failures bare greeting (s := answeringSession 503 helloStream)
      rfl rfl bare_delays rfl
    obtain ⟨request, created, body, sendable⟩ := created_bare true 503 helloStream
    have awaits : Awaits (answeringSession 503 helloStream).link request body [.answer 503 []]
        helloStream :=
      ⟨sendable, rfl, ⟨[], rfl⟩, passing⟩
    have early : ∀ reply ∈ [Reply.answer 503 []], Early reply := by
      refine List.forall_mem_singleton.mpr fun taking => ?_
      omega
    have whole : Exchange.wholeBody [.octets Exchange.friendlyOctets] =
        .ok Exchange.friendlyOctets := by
      simp [Exchange.wholeBody]
    obtain ⟨chunks, feed, u, hChunks, streamed, hItems, hFault, hLink⟩ :=
      streams _ _ _ _ _ _ _ (Prod.ext created rfl) awaits (by decide) early (by decide) whole
    rw [Exchange.fragments_friendlyOctets] at hChunks
    subst hChunks
    exact ⟨body, feed, u, _, _, streamed, hItems, hFault, hLink, rfl,
      (conveys_generationOf _ _).content⟩

/-- A server that fails with a status off the list is asked once, although it would answer next. -/
theorem not_outlasted_unlisted :
    (500 ≤ (501 : Int) ∧ (501 : Int) < 600) ∧
      completed none (some helloAnswer) = .ok (some helloCompletion) ∧
      asksForTools (some helloCompletion) = false ∧
      ∃ message body u, (bare.call greeting).exec (answeringSession 501 helloAnswer) =
          (.error (.api message (.int 501)), u) ∧
        u.link = resent (answeringSession 501 helloAnswer).link body 1 := by
  refine ⟨by decide, completed_helloAnswer, rfl, ?_⟩
  obtain ⟨request, created, body, sendable⟩ := created_bare false 501 helloAnswer
  have awaits : Awaits (answeringSession 501 helloAnswer).link request body [] (.answer 501 []) :=
    ⟨sendable, rfl, ⟨[helloAnswer], rfl⟩, by simp⟩
  have barring : Exchange.Barring 501 [] [] := ⟨by decide, by decide, rfl⟩
  obtain ⟨message, refused⟩ : ∃ message,
      completed (answeringSession 501 helloAnswer).link.endpoint (some (.answer 501 [])) =
        .error (.api message (.int 501)) :=
    Exchange.completed_of_barring barring rfl
  have settled : ¬ Backoff.Transient
      (completed (answeringSession 501 helloAnswer).link.endpoint (some (.answer 501 []))) := by
    rw [refused, Backoff.transient_error_iff]
    simp [Fault.isTransient]
  have settling : ∀ completion,
      completed (answeringSession 501 helloAnswer).link.endpoint (some (.answer 501 [])) =
        .ok completion → asksForTools completion = false := by
    simp [refused]
  obtain ⟨u, called, hLink⟩ := call_of_awaits (Prod.ext created rfl) rfl rfl bare_delays awaits
    (by decide) settled settling
  rw [refused] at called
  exact ⟨message, body, u, called, hLink⟩

end Colloquy.Client

import Colloquy.Proofs.Client.Requests
import Colloquy.Proofs.Retry.Reopening
import Colloquy.Proofs.Stream.Verdicts

/-! # Streams

A stream is the request for its prompt, the fragments that arrive for this request, and what the policy
makes of them. The two policies are compared on the fragments of one source, and one policy on the
fragments of two.
-/
set_option autoImplicit false

namespace Colloquy.Client

variable {τ : Type}

def arriving (c : Client) (source : Source τ) (request : Request) (l : τ) : Feed Chunk × τ :=
  (c.backoff.feed (source request)).run l

def responding (policy : FragmentPolicy) (chunks : Feed Chunk) : Feed Response :=
  responses policy chunks.fault [] chunks.events

/-- A stream that is read to its end: resolvers were asked and the stream of `request` was opened so
many times, and nothing else was done. -/
structure OnlyStreams (source : Source τ) (request : Request) (s u : Session τ) : Prop where
  calls : ∃ asked : List Name, u.journal.calls = s.journal.calls ++ asked.map Call.resolver
  requests : u.journal.requests = s.journal.requests
  link : ∃ k, u.link = (fun l => ((source request).run l).2)^[k] s.link

section

variable {c : Client} {p : Prompt} {s s₀ : Session τ} {request : Request} {limit : RoundLimit}

theorem exec_streamOver (created : (c.createRequest p true).exec s = (.ok request, s₀))
    (limited : RoundLimit.ofValue c.rounds = .ok limit) (source : Source τ) :
    (c.streamOver source p none).exec s =
      (.ok (responding c.policy (c.arriving source request s₀.link).1),
        { s₀ with
          link := (c.arriving source request s₀.link).2
          journal := s₀.journal.add
            (responding c.policy (c.arriving source request s₀.link).1).journal.events }) := by
  obtain ⟨overlay, prepared⟩ := prepare_of_createRequest created
  unfold streamOver
  rw [if_neg (by simp), Run.exec_bind_of_ok prepared, limited]
  rfl

theorem exec_streamOver_of_unlimited {f : Fault}
    (created : (c.createRequest p true).exec s = (.ok request, s₀))
    (unlimited : RoundLimit.ofValue c.rounds = .error f) (source : Source τ) :
    (c.streamOver source p none).exec s = (.error f, s₀) := by
  obtain ⟨overlay, prepared⟩ := prepare_of_createRequest created
  unfold streamOver
  rw [if_neg (by simp), Run.exec_bind_of_ok prepared, unlimited]
  rfl

theorem exec_streamOver_of_uncreated {f : Fault}
    (failed : (c.createRequest p true).exec s = (.error f, s₀)) (source : Source τ) :
    (c.streamOver source p none).exec s = (.error f, s₀) := by
  rw [createRequest, Run.exec_map] at failed
  obtain ⟨outcome, rfl⟩ := Prod.mk.inj failed
  unfold streamOver
  rw [if_neg (by simp), Run.exec_bind]
  rcases hPrepared : (c.prepare p true).exec s with ⟨g | a, t⟩
  · rw [hPrepared] at outcome
    obtain rfl : g = f := Except.error.inj outcome
    rfl
  · rw [hPrepared] at outcome
    cases outcome

theorem asked_of_createRequest {o : Except Fault Request}
    (h : (c.createRequest p true).exec s = (o, s₀)) :
    ∃ (left : Registry) (asked : List Name), s₀ = { s with
      registry := left
      journal := s.journal.add ((asked.map Call.resolver).map .call) } := by
  rw [createRequest, Run.exec_map] at h
  obtain ⟨left, asked, hLeft⟩ := (c.settles_prepare p true).asks s
  exact ⟨left, asked, (congrArg Prod.snd h).symm.trans hLeft⟩

theorem stream_of_createRequest (created : (c.createRequest p true).exec s = (.ok request, s₀)) :
    request.stream = .bool true := by
  obtain ⟨overlay, prepared⟩ := prepare_of_createRequest created
  exact (parts_of_prepare prepared).1

theorem onlyStreams_of_created (created : (c.createRequest p true).exec s = (.ok request, s₀))
    (source : Source τ) (f : Feed Response) :
    OnlyStreams source request s { s₀ with
      link := (c.arriving source request s₀.link).2
      journal := s₀.journal.add f.journal.events } := by
  obtain ⟨left, asked, rfl⟩ := asked_of_createRequest created
  have noCalls : f.journal.events.filterMap Journal.Event.call? = [] :=
    f.filterMap_journal (fun _ => rfl) fun _ => rfl
  have noRequests : f.journal.events.filterMap Journal.Event.request? = [] :=
    f.filterMap_journal (fun _ => rfl) fun _ => rfl
  refine ⟨⟨asked, ?_⟩, ?_, ?_⟩
  · simp [noCalls, Journal.Event.call?, Function.comp_def]
  · simp [noRequests, Journal.Event.request?]
  · exact Backoff.link_feed c.backoff (source request) s.link

end

/-- A stream fails before it begins, the same under every policy, or else fragments arrive, on which
the policies agree up to the first that fails. Under neither is anything done but to open the stream. -/
theorem streamOver_policies (c : Client) (source : Source τ) (p : Prompt) (s : Session τ) :
    (∃ (f : Fault) (left : Registry) (asked : List Name),
      (((c.createRequest p true).exec s).1.bind fun _ => RoundLimit.ofValue c.rounds) = .error f ∧
      ∀ policy, ({ c with policy }.streamOver source p none).exec s = (.error f, { s with
        registry := left
        journal := s.journal.add ((asked.map Call.resolver).map .call) })) ∨
    (∃ request s₀ limit chunks goes u stops v,
      (c.createRequest p true).exec s = (.ok request, s₀) ∧
      request.stream = .bool true ∧
      RoundLimit.ofValue c.rounds = .ok limit ∧
      chunks = (c.arriving source request s.link).1 ∧
      ({ c with policy := .proceed }.streamOver source p none).exec s = (.ok goes, u) ∧
      ({ c with policy := .abort }.streamOver source p none).exec s = (.ok stops, v) ∧
      Agree (judged [] chunks.items) chunks.fault goes stops ∧
      OnlyStreams source request s u ∧ OnlyStreams source request s v) := by
  rcases created : (c.createRequest p true).exec s with ⟨f | request, s₀⟩
  · obtain ⟨left, asked, rfl⟩ := asked_of_createRequest created
    refine .inl ⟨f, left, asked, rfl, ?_⟩
    intro policy
    exact exec_streamOver_of_uncreated (c := { c with policy }) created source
  · obtain ⟨left, asked, rfl⟩ := asked_of_createRequest created
    cases limited : RoundLimit.ofValue c.rounds with
    | error f =>
      refine .inl ⟨f, left, asked, rfl, ?_⟩
      intro policy
      exact exec_streamOver_of_unlimited (c := { c with policy }) created limited source
    | ok limit =>
      have proceeding := exec_streamOver (c := { c with policy := .proceed }) created limited source
      have aborting := exec_streamOver (c := { c with policy := .abort }) created limited source
      exact .inr ⟨request, _, limit, _, _, _, _, _, rfl, stream_of_createRequest created, rfl, rfl,
        proceeding, aborting, agree_responses _ [] _, onlyStreams_of_created created source _,
        onlyStreams_of_created created source _⟩

theorem items_responding {chunks : Feed Chunk} (noAsks : .asks ∉ judged [] chunks.items) :
    (responding .proceed chunks).items = (judged [] chunks.items).map Verdict.response :=
  (agree_responses chunks.fault [] chunks.events).goes_items_of_noAsks noAsks

/-- A fragment fails by what it says itself, and the memory stays as it was. So without those that fail
a stream that goes on behind them has the same response to every other fragment. -/
theorem flawed_isolated :
    (∀ (chunk : Chunk) (m : RoleMemory),
      (∃ f, ((RoleMemory.normalizing chunk).exec m).1 = .error f) ↔
        RoleMemory.flawed chunk = true) ∧
    (∀ (chunk : Chunk) (m t : RoleMemory) (f : Fault),
      (RoleMemory.normalizing chunk).exec m = (.error f, t) → t = m) ∧
    (∀ (c : Client) (p : Prompt) (s s₀ : Session τ) (request : Request) (limit : RoundLimit)
      (whole short : Source τ) (chunks : List Chunk),
      c.policy = .proceed →
      (c.createRequest p true).exec s = (.ok request, s₀) →
      RoundLimit.ofValue c.rounds = .ok limit →
      (c.arriving whole request s.link).1.items = chunks →
      (c.arriving short request s.link).1.items =
        (chunks.filter fun chunk => !RoleMemory.flawed chunk) →
      .asks ∉ judged [] chunks →
      ∃ all left u v,
        (c.streamOver whole p none).exec s = (.ok all, u) ∧
        (c.streamOver short p none).exec s = (.ok left, v) ∧
        all.items.length = chunks.length ∧
        left.items = ((chunks.zip all.items).filter fun x =>
          !RoleMemory.flawed x.1).map Prod.snd) := by
  refine ⟨RoleMemory.fails_iff_flawed, fun _ _ _ _ h => (RoleMemory.kept_of_normalizing h).1, ?_⟩
  intro c p s s₀ request limit whole short chunks proceeds created limited arrived shortened noAsks
  have link : s₀.link = s.link := by
    obtain ⟨left, asked, rfl⟩ := asked_of_createRequest created
    rfl
  subst arrived
  have noAsksLeft : .asks ∉ judged [] (c.arriving short request s.link).1.items := by
    rw [shortened]
    exact fun hAsks => noAsks (mem_of_mem_judged_filter hAsks)
  have all := items_responding noAsks
  have left := items_responding noAsksLeft
  rw [shortened, responses_filter, ← all] at left
  refine ⟨_, _, _, _, exec_streamOver created limited whole, exec_streamOver created limited short,
    ?_, ?_⟩
  · rw [proceeds, link, all, List.length_map, length_judged]
  · rw [proceeds, link, left]

def delivering (chunks : List Chunk) : Source Unit := fun _ => pure ⟨chunks.map .item, none⟩

theorem items_arriving_delivering (chunks : List Chunk) (request : Request) (l : Unit) :
    (({} : Client).arriving (delivering chunks) request l).1.items = chunks := by
  have opened : (delivering chunks request).run l = (⟨chunks.map .item, none⟩, l) := rfl
  have arrived : ({} : Client).arriving (delivering chunks) request l =
      (⟨chunks.map .item, none⟩, l) := Backoff.run_openAgain_of_settled opened rfl 2 0
  rw [arrived, Feed.items, List.filterMap_map]
  exact List.filterMap_some

def question : Prompt := .ofText (.str "Hello?") none

def refusedParts : List Chunk := [
  { id := .str "a"
    choices := [{ index := .int 0, delta := some { content := .str "Hi", role := some .user } }]
    status := some { code := .int 1000 } },
  { id := .str "a"
    choices := [{ index := .int 0, delta := some { content := .str "there", role := none } }] }]

theorem flawed_isolated_refused :
    ∃ all left u v,
      (({} : Client).streamOver (delivering refusedParts) question none).exec { link := () } =
        (.ok all, u) ∧
      (({} : Client).streamOver (delivering (refusedParts.drop 1)) question none).exec { link := () } =
        (.ok left, v) ∧
      all.items.length = 2 ∧ left.items = all.items.drop 1 := by
  have defaults : ({} : Client).defaults.enabled false = .ok [] := by
    have ordered : ({} : Client).defaults.orderedFunctions = .ok [] := by
      simp [Options.orderedFunctions, Options.standard, Options.set, Name.ordered, NumberError.lift]
    rw [Options.enabled, ordered]
    rfl
  obtain ⟨request, created⟩ : ∃ request,
      ((({} : Client).createRequest question true).exec ({ link := () } : Session Unit)).1 =
        .ok request := by
    rw [createRequest, Run.exec_map, outcome_prepare _ _ _ (by simp [Registry.Steady])]
    simp only [Except.bind, bind, defaults]
    exact ⟨_, rfl⟩
  have shortened : refusedParts.drop 1 =
      refusedParts.filter fun chunk => !RoleMemory.flawed chunk := by
    rw [refusedParts, List.filter_cons_of_neg, List.filter_cons_of_pos rfl]
    · rfl
    · simp [RoleMemory.flawed, ServiceStatus.isOk, Value.isZero]
  have noAsks : .asks ∉ judged [] refusedParts := by
    intro h
    cases h with
    | tail _ h => cases h with
      | tail _ h => cases h
  obtain ⟨all, left, u, v, whole, short, length, items⟩ :=
    flawed_isolated.2.2 {} question _ _ request _ (delivering refusedParts)
      (delivering (refusedParts.drop 1)) refusedParts rfl (Prod.ext created rfl) rfl
      (items_arriving_delivering _ request ())
      ((items_arriving_delivering _ request ()).trans shortened) noAsks
  refine ⟨all, left, u, v, whole, short, length, ?_⟩
  obtain ⟨x, y, hItems⟩ := List.length_eq_two.mp length
  rw [items, hItems]
  rfl

end Colloquy.Client

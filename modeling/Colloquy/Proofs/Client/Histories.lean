import Colloquy.Proofs.Client.Calls
import Colloquy.Proofs.Conversation.Resolving

/-! # Histories of a client

Whatever is done with a client, its registry only unfolds: the callbacks of a prompt are gone with its
level, and what resolvers provided is what they would provide again. So a prompt gets the request that it
would get if nothing had been done before, and the tool calls of its conversations the same callbacks.
-/
set_option autoImplicit false

namespace Colloquy

open Conversation (Transcript ResolvedBy drive)

namespace Backoff

variable {τ α : Type} {b : Backoff} {act : Run (Session τ) α}

theorem Attempts.leads {attempts left i : Nat} {s v : Session τ} {tries : List (Attempt τ α)}
    {o : Except Fault α} (tried : Attempts b attempts act left i s tries o v)
    (h : Session.Leads act) :
    (∀ a ∈ tries, s.registry.Leads a.before.registry) ∧ s.registry.Leads v.registry := by
  refine tried.invariant (I := fun u => s.registry.Leads u.registry) ?_ ?_ .refl
  · intro u o w ran led
    have more := h u
    rw [ran] at more
    exact led.trans more
  · intro u es led
    exact led

theorem leads_execute (b : Backoff) (h : Session.Leads act) : Session.Leads (b.execute act) := by
  cases attempts : b.attempts with
  | error f =>
    refine Session.leads_of_registry fun s => ?_
    simp [execute, Run.exec_bind, attempts]
  | ok n =>
    cases n with
    | zero =>
      refine Session.leads_of_registry fun s => ?_
      simp [execute, Run.exec_bind, attempts]
    | succ left =>
      intro s
      obtain ⟨tries, o, v, tried, ran⟩ := exists_attempts b (left + 1) act left 0 s
      rw [exec_execute attempts, ran]
      exact (tried.leads h).2

end Backoff

namespace Client

variable {τ : Type}

theorem leads_createRequest (c : Client) (p : Prompt) (stream : Bool) :
    Session.Leads (c.createRequest p stream : Run (Session τ) Request) := by
  intro s
  rw [createRequest, Run.exec_map]
  exact (c.settles_prepare p stream).leads s

theorem leads_callOver (c : Client) (send : Transport τ) (fuel : Nat) (p : Prompt) :
    Session.Leads (c.callOver send fuel p) := by
  refine (c.settles_prepare p false).leads.bind ?_
  rintro s ⟨request, overlay⟩ u ran
  obtain ⟨-, rfl⟩ := parts_of_prepare ran
  refine (Session.settles_ofExcept _).leads.bind fun _ limit _ _ => ?_
  have conversations := c.backoff.leads_execute
    (Conversation.leads_drive send limit (limit.most.getD fuel) request)
  refine (conversations.overlaid (silent_overlay _)).bind fun _ completion _ _ => ?_
  refine Session.leads_of_registry fun s => ?_
  obtain ⟨notes, hRespond⟩ := exec_respond completion s
  rw [hRespond]

theorem leads_streamOver (c : Client) (source : Source τ) (p : Prompt) (limit : Option Nat) :
    Session.Leads (c.streamOver source p limit) := by
  unfold streamOver
  split
  · exact (Session.settles_pure _).leads
  · refine (c.settles_prepare p true).leads.bind fun _ prepared _ _ => ?_
    refine Session.leads_of_registry fun s => ?_
    obtain ⟨request, overlay⟩ := prepared
    cases RoundLimit.ofValue c.rounds <;> rfl

inductive Use (τ : Type) where
  | request (p : Prompt) (streaming : Bool)
  | call (send : Transport τ) (fuel : Nat) (p : Prompt)
  | stream (source : Source τ) (p : Prompt) (limit : Option Nat)

def Use.after (c : Client) (s : Session τ) : Use τ → Session τ
  | request p streaming => ((c.createRequest p streaming).exec s).2
  | call send fuel p => ((c.callOver send fuel p).exec s).2
  | stream source p limit => ((c.streamOver source p limit).exec s).2

def afterAll (c : Client) (s : Session τ) (uses : List (Use τ)) : Session τ :=
  uses.foldl (Use.after c) s

theorem leads_after (c : Client) (s : Session τ) (use : Use τ) :
    s.registry.Leads (use.after c s).registry := by
  cases use with
  | request p streaming => exact c.leads_createRequest p streaming s
  | call send fuel p => exact c.leads_callOver send fuel p s
  | stream source p limit => exact c.leads_streamOver source p limit s

theorem leads_afterAll (c : Client) (s : Session τ) (uses : List (Use τ)) :
    s.registry.Leads (c.afterAll s uses).registry := by
  induction uses generalizing s with
  | nil => exact .refl
  | cons use rest ih => exact (c.leads_after s use).trans (ih _)

theorem unfolds_afterAll (c : Client) {s : Session τ} (byName : s.registry.ByName)
    (uses : List (Use τ)) : s.registry.Unfolds (c.afterAll s uses).registry :=
  (c.leads_afterAll s uses).unfolds byName

/-- Every conversation of a call looks its names up as in `r` under the callbacks of the prompt. -/
def CallResolvedBy (c : Client) (send : Transport τ) (fuel : Nat) (p : Prompt) (r : Registry)
    (u : Session τ) : Prop :=
  ∀ request overlay u₀ limit left, (c.prepare p false).exec u = (.ok (request, overlay), u₀) →
    RoundLimit.ofValue c.rounds = .ok limit → c.backoff.attempts = .ok (left + 1) →
    ∃ tries o v,
      Backoff.Attempts c.backoff (left + 1) (drive send limit (limit.most.getD fuel) request) left 0
        (Session.under overlay u₀) tries o v ∧
      ((c.callOver send fuel p).exec u).1 = o.map responseTo ∧
      ∀ a ∈ tries, ∃ t : Transcript,
        t.Lawful send limit (limit.most.getD fuel) request a.before a.after ∧
        a.outcome = t.ending.outcome limit ∧ ResolvedBy (overlay.toList ++ r) t.lookUps

/-- In the session `u` prompts get what they get in `s`, and nothing is held but what was held in `s` or
what its resolvers provide. -/
structure Undisturbed (c : Client) (s u : Session τ) : Prop where
  request : ∀ p stream,
    ((c.createRequest p stream).exec u).1 = ((c.createRequest p stream).exec s).1
  call : ∀ send fuel p, c.CallResolvedBy send fuel p s.registry u
  lookup : ∀ own : Registry, own.Silent → ∀ name,
    Registry.lookup (own ++ u.registry) name = Registry.lookup (own ++ s.registry) name
  held : List.Forall₂ Level.Kept s.registry u.registry

theorem outcome_createRequest_of_unfolds (c : Client) (p : Prompt) (stream : Bool) {s u : Session τ}
    (byName : s.registry.ByName) (unfolds : s.registry.Unfolds u.registry) :
    ((c.createRequest p stream).exec u).1 = ((c.createRequest p stream).exec s).1 := by
  have same (name : Name) : Registry.lookup (overlayOf p.own :: u.registry) name =
      Registry.lookup (overlayOf p.own :: s.registry) name := by
    rw [lookup_own, lookup_own, unfolds.lookup]
  have steady := (byName.congr unfolds.resolvers).steady
  rw [createRequest, Run.exec_map, Run.exec_map, outcome_prepare c p stream steady,
    outcome_prepare c p stream byName.steady, funext same]

theorem exists_conversations {c : Client} {p : Prompt} {u u₀ : Session τ} {request : Request}
    {overlay : Option Level} {limit : RoundLimit} {left : Nat} (send : Transport τ) (fuel : Nat)
    (prepared : (c.prepare p false).exec u = (.ok (request, overlay), u₀))
    (limited : RoundLimit.ofValue c.rounds = .ok limit)
    (attempts : c.backoff.attempts = .ok (left + 1)) :
    ∃ tries o v,
      Backoff.Attempts c.backoff (left + 1) (drive send limit (limit.most.getD fuel) request) left 0
        (Session.under overlay u₀) tries o v ∧
      ((c.callOver send fuel p).exec u).1 = o.map responseTo ∧
      ∀ a ∈ tries, (Session.under overlay u₀).registry.Leads a.before.registry ∧
        ∃ t : Transcript, t.Lawful send limit (limit.most.getD fuel) request a.before a.after ∧
          a.outcome = t.ending.outcome limit := by
  obtain ⟨tries, o, v, tried, ran⟩ := Backoff.exists_attempts c.backoff (left + 1)
    (drive send limit (limit.most.getD fuel) request) left 0 (Session.under overlay u₀)
  have executed := ran
  rw [← Backoff.exec_execute attempts] at executed
  obtain ⟨w, notes, called, -⟩ := exec_callOver prepared limited executed
  refine ⟨tries, o, v, tried, by rw [called], ?_⟩
  intro a ha
  have conversations := Conversation.leads_drive send limit (limit.most.getD fuel) request
  obtain ⟨-, t, lawful, hOutcome, -⟩ := converses_of_exec (tried.ran a ha)
  exact ⟨(tried.leads conversations).1 a ha, t, lawful, hOutcome⟩

theorem callResolvedBy_of_unfolds (c : Client) (send : Transport τ) (fuel : Nat) (p : Prompt)
    {r : Registry} {u : Session τ} (byName : r.ByName) (unfolds : r.Unfolds u.registry) :
    c.CallResolvedBy send fuel p r u := by
  intro request overlay u₀ limit left prepared limited attempts
  have silent : Registry.Silent overlay.toList := by
    rw [(parts_of_prepare prepared).2]
    exact silent_overlay _
  have begins := (c.settles_prepare p false).leads u
  rw [prepared] at begins
  obtain ⟨tries, o, v, tried, called, conversations⟩ :=
    exists_conversations send fuel prepared limited attempts
  refine ⟨tries, o, v, tried, called, ?_⟩
  intro a ha
  obtain ⟨led, t, lawful, hOutcome⟩ := conversations a ha
  obtain ⟨t₁, hBefore, later⟩ := led.append silent
  have more : u.registry.Leads t₁ := begins.trans later
  have whole := unfolds.trans (more.unfolds (byName.congr unfolds.resolvers))
  have byNameBefore : a.before.registry.ByName := by
    rw [hBefore]
    exact .append silent (byName.congr whole.resolvers)
  refine ⟨t, lawful, hOutcome, ?_⟩
  intro x hx
  rw [← whole.lookup_append silent, ← hBefore]
  exact lawful.leads.resolved byNameBefore x hx

theorem resolvers_begin (c : Client) (r : Registry) :
    (c.begin r).map Level.resolver = r.map Level.resolver := by
  have absent (callback : Callback) (r : Registry) :
      (r.registerIfAbsent callback).2.map Level.resolver = r.map Level.resolver := by
    unfold Registry.registerIfAbsent
    split
    · rfl
    · cases r <;> rfl
  unfold begin
  induction c.defaults.callbacks generalizing r with
  | nil => rfl
  | cons callback rest ih => exact (ih _).trans (absent callback r)

/-- Resolvers that answer by the name alone are all that a history could speak through, and they say
what they would have said without it. -/
theorem undisturbed (c : Client) {r : Registry} (byName : r.ByName) {s : Session τ}
    (fresh : s.registry = c.begin r) (uses : List (Use τ)) :
    c.Undisturbed s (c.afterAll s uses) := by
  have freshByName : s.registry.ByName := by
    rw [fresh]
    exact byName.congr (c.resolvers_begin r)
  have unfolds := c.unfolds_afterAll freshByName uses
  constructor
  · intro p stream
    exact c.outcome_createRequest_of_unfolds p stream freshByName unfolds
  · intro send fuel p
    exact c.callResolvedBy_of_unfolds send fuel p freshByName unfolds
  · intro own silent name
    exact unfolds.lookup_append silent name
  · exact unfolds.levels

def clockResolver : Resolver := fun name =>
  if name.key = (Name.ofText "clock").key then some { name := .ofText "clock" } else none

def clockSession : Session Unit where
  registry := ({} : Client).begin [.ofCallbacks [] (some clockResolver)]
  link := ()

def rainyUses : List (Use Unit) := [
  .request rainPrompt false,
  .call (fun _ => pure none) 0 rainPrompt,
  .stream (fun _ => pure {}) rainPrompt none]

theorem undisturbed_rainy :
    Registry.ByName [.ofCallbacks [] (some clockResolver)] ∧
      ({} : Client).Undisturbed clockSession (({} : Client).afterAll clockSession rainyUses) := by
  have byName : Registry.ByName [.ofCallbacks [] (some clockResolver)] := by
    intro ask hAsk before other name same hKey
    obtain rfl : ask = clockResolver.provider := by simpa using hAsk
    simp [Resolver.provider, clockResolver, hKey]
  exact ⟨byName, undisturbed {} byName rfl rainyUses⟩

end Client
end Colloquy

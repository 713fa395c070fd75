import Colloquy.Proofs.Client.Histories
import Colloquy.Proofs.Registry.Filling

/-! # Tools that are advertised

A tool has the name of the callback it was made from, and this name is what the model calls it by. Where
callbacks are held under their own names, no two tools of a request have one name, and whatever calls a
tool is taken to the callback it was made from.
-/
set_option autoImplicit false

namespace Colloquy

namespace Conversation

/-- Every tool call that names the tool of the callback is taken to the callback. -/
structure Transcript.Dispatches (t : Transcript) (c : Callback) : Prop where
  answered : ∀ a ∈ t.answered, a.call.function.name.key? = c.tool.name.key? → a.callback = c
  failed : ∀ as x, t.ending = .failed as x → x.call.function.name.key? = c.tool.name.key? →
    ∃ found fault, x = .broken found fault ∧ found.callback = c

theorem Found.In.callback_eq {x : Found} {r : Registry} {before : List Call} {c : Callback}
    (isIn : x.In r before) (held : r.find? c.name.key = some c)
    (named : x.call.function.name.key? = c.tool.name.key?) : x.callback = c := by
  have hKey : x.name.key = c.name.key := by
    rw [Name.key_of_ofValue isIn.named, c.key_tool] at named
    exact Option.some.inj named
  have outcome := isIn.outcome_eq
  rw [Registry.get_of_find? (hKey ▸ held)] at outcome
  exact (Except.ok.inj outcome).symm

theorem Failing.broken_of_held {x : Failure} {r left : Registry} {before : List Call} {c : Callback}
    (failing : Failing r before x left) (held : r.find? c.name.key = some c)
    (named : x.call.function.name.key? = c.tool.name.key?) :
    ∃ found fault, x = .broken found fault ∧ found.callback = c := by
  rw [c.key_tool] at named
  cases failing with
  | @unnamed call fault unnamed =>
    obtain ⟨name, hName⟩ := Name.ofValue_of_key named
    cases hName.symm.trans unnamed
  | @missing call name fault hName lost =>
    have hKey : name.key = c.name.key :=
      Option.some.inj ((Name.key_of_ofValue hName).symm.trans named)
    rw [Registry.get_of_find? (hKey ▸ held)] at lost
    cases lost
  | @broken found fault isIn ran =>
    exact ⟨found, fault, rfl, isIn.callback_eq held (named.trans c.key_tool.symm)⟩

theorem Transcript.Leads.dispatches {t : Transcript} {r left : Registry} (h : t.Leads r left)
    {c : Callback} (held : r.find? c.name.key = some c) : t.Dispatches c := by
  constructor
  · intro a ha named
    obtain ⟨v, earlier, led, isIn⟩ := h.found a ha
    exact isIn.callback_eq (led.find? held) named
  · intro as x hEnding named
    obtain ⟨v, earlier, led, failing⟩ := h.failing as x hEnding
    exact failing.broken_of_held (led.find? held) named

end Conversation

open Conversation (Transcript drive)

namespace Client

variable {τ : Type} {c : Client} {p : Prompt} {stream : Bool} {s u : Session τ} {r : Request}
  {overlay : Option Level}

def Enables (c : Client) (p : Prompt) : Prop :=
  p.own.callbacks ≠ [] ∨ p.own.functions ≠ [] ∨ c.defaults.functions ≠ []

theorem enabledNames_ne_nil (enables : c.Enables p) {own defaults : List Name}
    (ownSorted : Name.Sorted p.own.functions own)
    (defaultsSorted : Name.Sorted c.defaults.functions defaults) :
    enabledNames p.own.callbacks own defaults ≠ [] := by
  intro hNone
  have all : p.own.callbacks.map Callback.name ++ own ++ defaults = [] := by
    cases hNames : p.own.callbacks.map Callback.name ++ own ++ defaults with
    | nil => rfl
    | cons n rest =>
      rw [enabledNames, hNames] at hNone
      cases hNone
  simp only [List.append_eq_nil_iff, List.map_eq_nil_iff] at all
  obtain ⟨⟨noCallback, rfl⟩, rfl⟩ := all
  obtain callbacks | functions | functions := enables
  · exact callbacks noCallback
  · exact functions ownSorted.perm.nil_eq.symm
  · exact functions defaultsSorted.perm.nil_eq.symm

/-- The level of the prompt is taken off behind the look-ups and comes back for the call. -/
theorem held_of_prepare (prepared : (c.prepare p stream).exec s = (.ok (r, overlay), u)) :
    ∃ own defaults callbacks, Name.Sorted p.own.functions own ∧
      Name.Sorted c.defaults.functions defaults ∧
      (Session.under overlay s).registry.Leads (Session.under overlay u).registry ∧
      List.Forall₂
        (fun (name : Name) cb => (Session.under overlay u).registry.find? name.key = some cb)
        (enabledNames p.own.callbacks own defaults) callbacks ∧
      (callbacks ≠ [] → r.layer.tools = some (callbacks.map Callback.tool)) := by
  obtain ⟨messages, own, defaults, callbacks, hOverlay, ownSorted, defaultsSorted, ran, rfl⟩ :=
    steps_of_prepare prepared
  have silent : Registry.Silent overlay.toList := by
    rw [hOverlay]
    exact silent_overlay _
  have led := (Session.settles_callbacks (enabledNames p.own.callbacks own defaults)).leads
    (Session.under overlay s)
  rw [Session.exec_overlaid] at ran
  rcases hRan : (Session.callbacks (enabledNames p.own.callbacks own defaults)).exec
    (Session.under overlay s) with ⟨o, w⟩
  rw [hRan] at ran led
  obtain ⟨rfl, rfl⟩ := Prod.mk.inj ran
  have whole : (Session.under overlay (Session.uncovered overlay w)).registry = w.registry := by
    obtain ⟨t, hLeft, -⟩ := led.append silent
    rw [Session.under, Session.uncovered, hLeft, List.drop_left]
  rw [whole]
  refine ⟨own, defaults, callbacks, ownSorted, defaultsSorted, led,
    Session.find?_of_callbacks hRan, ?_⟩
  intro present
  rw [Request.merge_tools rfl, if_neg (by simpa using present)]

theorem filled_begin (c : Client) {r : Registry} (filled : r.Filled) : (c.begin r).Filled := by
  unfold begin
  induction c.defaults.callbacks generalizing r with
  | nil => exact filled
  | cons callback rest ih => exact ih (filled.fill (.registerIfAbsent r callback))

theorem filled_under {call : Option Options} (filled : s.registry.Filled) :
    (Session.under (call.map overlayOf) s).registry.Filled := by
  cases call with
  | none => exact filled
  | some o => exact filled.grow o.callbacks none

/-- What a request advertises, and what becomes of it in the call the request is made for. -/
structure Advertises (c : Client) (p : Prompt) (stream : Bool) (s u : Session τ) (r : Request)
    (overlay : Option Level) (callbacks : List Callback) : Prop where
  tools : r.layer.tools = some (callbacks.map Callback.tool)
  apart : (callbacks.map Callback.tool).Pairwise fun t t' => t.name.key? ≠ t'.name.key?
  /-- Whatever was looked up before, the registry of the call has the callback under the tool's name. -/
  held : ∀ cb ∈ callbacks, ∀ v, (Session.under overlay u).registry.Leads v → ∀ before name,
    Name.ofValue cb.tool.name = .ok name → v.get before name = ⟨.ok (some cb), 0, v⟩
  called : stream = false → ∀ send fuel limit left, RoundLimit.ofValue c.rounds = .ok limit →
    c.backoff.attempts = .ok (left + 1) → ∃ tries o v,
      Backoff.Attempts c.backoff (left + 1) (drive send limit (limit.most.getD fuel) r) left 0
        (Session.under overlay u) tries o v ∧
      ((c.callOver send fuel p).exec s).1 = o.map responseTo ∧
      ∀ a ∈ tries, ∃ t : Transcript,
        t.Lawful send limit (limit.most.getD fuel) r a.before a.after ∧
        a.outcome = t.ending.outcome limit ∧ ∀ cb ∈ callbacks, t.Dispatches cb

theorem advertises_of_held {callbacks : List Callback}
    (prepared : (c.prepare p stream).exec s = (.ok (r, overlay), u))
    (tools : r.layer.tools = some (callbacks.map Callback.tool))
    (apart : callbacks.Pairwise fun a b => a.name.key ≠ b.name.key)
    (held : ∀ cb ∈ callbacks, (Session.under overlay u).registry.find? cb.name.key = some cb) :
    c.Advertises p stream s u r overlay callbacks := by
  refine ⟨tools, ?_, ?_, ?_⟩
  · rw [List.pairwise_map]
    refine apart.imp fun {a b} hKey same => hKey ?_
    rw [a.key_tool, b.key_tool] at same
    exact Option.some.inj same
  · intro cb hcb v led before name named
    have hKey : cb.name.key = name.key :=
      Option.some.inj (cb.key_tool.symm.trans (Name.key_of_ofValue named))
    refine Registry.get_of_find? ?_ before
    rw [← hKey]
    exact led.find? (held cb hcb)
  · rintro rfl send fuel limit left limited attempts
    obtain ⟨tries, o, v, tried, called, conversations⟩ :=
      exists_conversations send fuel prepared limited attempts
    refine ⟨tries, o, v, tried, called, ?_⟩
    intro a ha
    obtain ⟨led, t, lawful, hOutcome⟩ := conversations a ha
    refine ⟨t, lawful, hOutcome, ?_⟩
    intro cb hcb
    exact lawful.leads.dispatches (led.find? (held cb hcb))

/-- If resolvers provide what has the name they are asked for, then every tool that is advertised can
be called. -/
theorem advertised_callable (c : Client) (p : Prompt) {stream : Bool} {s u : Session τ} {r : Request}
    (filled : s.registry.Filled) (truthful : s.registry.Truthful) (enables : c.Enables p)
    (created : (c.createRequest p stream).exec s = (.ok r, u)) :
    ∃ overlay callbacks, (c.prepare p stream).exec s = (.ok (r, overlay), u) ∧ callbacks ≠ [] ∧
      c.Advertises p stream s u r overlay callbacks := by
  obtain ⟨overlay, prepared⟩ := prepare_of_createRequest created
  obtain ⟨own, defaults, callbacks, ownSorted, defaultsSorted, led, found, tools⟩ :=
    held_of_prepare prepared
  have present : callbacks ≠ [] := by
    rintro rfl
    exact enabledNames_ne_nil enables ownSorted defaultsSorted (List.forall₂_nil_right_iff.mp found)
  have hOverlay := (parts_of_prepare prepared).2
  have filledThen : (Session.under overlay u).registry.Filled := by
    refine Registry.Filled.leads ?_ led
    rw [hOverlay]
    exact filled_under filled
  have truthfulThen : (Session.under overlay u).registry.Truthful := by
    refine Registry.Truthful.leads (.append ?_ truthful) led
    rw [hOverlay]
    exact silent_overlay _
  have kept : List.Forall₂
      (fun (cb : Callback) (name : Name) =>
        (Session.under overlay u).registry.find? cb.name.key = some cb ∧ cb.name.key = name.key)
      callbacks (enabledNames p.own.callbacks own defaults) := by
    refine found.flip.imp fun cb name hFound => ?_
    have hKey : cb.name.key = name.key := filledThen.key_eq truthfulThen hFound
    exact ⟨hKey ▸ hFound, hKey⟩
  obtain ⟨held, sameKey⟩ := (List.forall₂_and_left _ _).mp kept
  have named : callbacks.map (fun cb => cb.name.key) =
      (enabledNames p.own.callbacks own defaults).map Name.key := by
    rw [← List.forall₂_eq_eq_eq, List.forall₂_map_left_iff, List.forall₂_map_right_iff]
    exact sameKey
  have apart : callbacks.Pairwise fun a b => a.name.key ≠ b.name.key := by
    rw [← List.pairwise_map (f := fun cb : Callback => cb.name.key) (R := (· ≠ ·)), named,
      List.pairwise_map]
    exact Name.pairwise_distinct _
  exact ⟨overlay, callbacks, prepared, present,
    advertises_of_held prepared (tools present) apart held⟩

theorem clock_resolvers {ask : Provider}
    (h : some ask ∈ clockSession.registry.map Level.resolver) : ask = clockResolver.provider :=
  Option.some.inj (List.mem_singleton.mp h)

theorem advertised_callable_clock :
    ∃ r u, (({} : Client).createRequest rainPrompt false).exec
        (({} : Client).afterAll clockSession rainyUses) = (.ok r, u) ∧
      ∃ overlay callbacks, callbacks ≠ [] ∧ ({} : Client).Advertises rainPrompt false
        (({} : Client).afterAll clockSession rainyUses) u r overlay callbacks := by
  have truthful : clockSession.registry.Truthful := by
    rw [Registry.truthful_iff]
    intro ask hAsk before name c given
    rw [clock_resolvers hAsk] at given
    simp only [Resolver.provider, clockResolver] at given
    split at given
    · next hKey =>
      obtain rfl := Option.some.inj (Except.ok.inj given)
      exact hKey.symm
    · cases given
  have byName : clockSession.registry.ByName := by
    intro ask hAsk before other name same hKey
    rw [clock_resolvers hAsk]
    simp [Resolver.provider, clockResolver, hKey]
  have filled : clockSession.registry.Filled := filled_begin {} (Registry.Filled.nil.grow [] _)
  have led := ({} : Client).leads_afterAll clockSession rainyUses
  have own : rainOptions.enabled true = .ok [.ofText "weather", .ofText "clock"] := by
    rw [Options.enabled_of_one (n := .ofText "clock") rfl rfl]
    rfl
  have defaults : ({} : Client).defaults.enabled false = .ok [] := Options.enabled_of_none rfl
  have call : rainPrompt.options.mapM Options.ofCall = .ok (some rainOptions) := rfl
  obtain ⟨r, created⟩ : ∃ r,
      ((({} : Client).createRequest rainPrompt false).exec clockSession).1 = .ok r := by
    rw [createRequest, Run.exec_map, outcome_prepare _ _ _ byName.steady, call]
    simp only [Except.bind, bind, Option.elim_some, own, defaults]
    exact ⟨_, rfl⟩
  rw [← outcome_createRequest_of_unfolds _ _ _ byName (led.unfolds byName)] at created
  obtain ⟨overlay, callbacks, -, present, advertises⟩ := advertised_callable {} rainPrompt
    (filled.leads led) (truthful.leads led) (.inl (List.cons_ne_nil _ _)) (Prod.ext created rfl)
  exact ⟨r, _, Prod.ext created rfl, overlay, callbacks, present, advertises⟩

def station : Callback where
  name := .ofText "get_weather"

def aliasResolver : Resolver := fun name =>
  if name.key = (Name.ofText "weather").key then some station else none

def aliasSession : Session Unit where
  registry := [.ofCallbacks [] (some aliasResolver)]
  link := ()

def aliasOptions : Options where
  functions := [.ofText "weather"]

def aliasPrompt : Prompt := .ofText (.str "Will it rain?") (some (.full aliasOptions))

def aliasAsked : Completion where
  id := .str "r1"
  choices := [{
    index := .int 0
    message := {
      content := .null
      role := some .assistant
      toolCalls := some [{ id := .str "t1", function := { name := station.tool.name } }] }
    finishReason := some .toolCalls }]

def aliasLooked : Session Unit where
  registry := [(Level.ofCallbacks [] (some aliasResolver)).store (.ofText "weather") station]
  journal := ⟨[.call (.resolver (.ofText "weather"))]⟩
  link := ()

/-- A resolver that provides a callback of another name than it was asked for. -/
theorem not_callable_alias : ({} : Client).Enables aliasPrompt ∧ ∃ r : Request,
    ((({} : Client).createRequest aliasPrompt false).exec aliasSession).1 = .ok r ∧
      r.layer.tools = some [station.tool] ∧
      ((({} : Client).callOver (fun _ => pure (some aliasAsked)) 0 aliasPrompt).exec aliasSession).1 =
        .error (.functionNotFound station.tool.name) := by
  have own : aliasOptions.enabled true = .ok [.ofText "weather"] := by
    rw [Options.enabled_of_one (n := .ofText "weather") rfl rfl]
    rfl
  have defaults : ({} : Client).defaults.enabled false = .ok [] := Options.enabled_of_none rfl
  have call : aliasPrompt.options.mapM Options.ofCall = .ok (some aliasOptions) := rfl
  obtain ⟨r, prepared, tools⟩ : ∃ r : Request,
      (({} : Client).prepare aliasPrompt false).exec aliasSession =
        (.ok (r, some (overlayOf aliasOptions)), aliasLooked) ∧ r.layer.tools = some [station.tool] := by
    simp only [prepare, Run.exec_bind, Run.exec_ofExcept, call, own, defaults, Option.map_some,
      Option.elim_some]
    exact ⟨_, rfl, rfl⟩
  have created : ((({} : Client).createRequest aliasPrompt false).exec aliasSession).1 = .ok r := by
    rw [createRequest, Run.exec_map, prepared]
    rfl
  refine ⟨.inr (.inl (List.cons_ne_nil _ _)), r, created, tools, ?_⟩
  have limited : RoundLimit.ofValue ({} : Client).rounds = .ok (.ofNat 10) := rfl
  have attempts : ({} : Client).backoff.attempts = .ok (2 + 1) := rfl
  obtain ⟨v, ran⟩ : ∃ v,
      (drive (fun _ => pure (some aliasAsked)) (.ofNat 10) ((RoundLimit.ofNat 10).most.getD 0) r).exec
        (Session.under (some (overlayOf aliasOptions)) aliasLooked) =
          (.error (.functionNotFound station.tool.name), v) := ⟨_, rfl⟩
  have executed := Backoff.execute_of_lasting attempts ran rfl
  obtain ⟨notes, called⟩ := exec_callOver_eq prepared limited executed
  rw [called]
  rfl

end Client
end Colloquy

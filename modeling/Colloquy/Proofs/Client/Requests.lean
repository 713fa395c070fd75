import Colloquy.Client
import Colloquy.Proofs.Client.Layers
import Colloquy.Proofs.Names
import Colloquy.Proofs.Registry.Unfolding

/-! # The request for a prompt

The turns of a prompt become messages one for one. Every setting is the prompt's own where the prompt
sets it, else that of the defaults. The names that are switched on are gathered from three places, and
each gets the tool of the callback that it stands for under the callbacks of the prompt.
-/
set_option autoImplicit false

namespace Colloquy

theorem Request.merge_messages (r : Request) (call defaults : Option Layer) (tools : List Tool) :
    (r.merge call defaults tools).messages = r.messages :=
  (r.layered_merge call defaults tools).messages

theorem Request.merge_stream (r : Request) (call defaults : Option Layer) (tools : List Tool) :
    (r.merge call defaults tools).stream = r.stream :=
  (r.layered_merge call defaults tools).stream

theorem Request.merge_settings {r : Request} (bare : r.layer = {}) (call : Option Layer)
    (defaults : Layer) (tools : List Tool) (key : Setting) :
    (r.merge call (some defaults) tools).layer.settings key =
      firstSet ((call.getD {}).settings key) (defaults.settings key) := by
  rw [(r.layered_merge call (some defaults) tools).settings key]
  cases call <;> simp [voices, bare, firstOf_cons, firstOf_nil, firstSet_null, Settings.empty, null_firstSet]

theorem Request.merge_tools {r : Request} (bare : r.layer = {}) (call : Option Layer)
    (defaults : Layer) (tools : List Tool) :
    (r.merge call (some defaults) tools).layer.tools =
      if tools = [] then (call.getD {}).tools.or defaults.tools else some tools := by
  rw [(r.layered_merge call (some defaults) tools).tools]
  cases call with
  | none => simp [voices, bare]
  | some layer => cases hTools : layer.tools <;> simp [voices, bare, hTools]

structure PromptMessage.Becomes (m : PromptMessage) (sent : Message) : Prop where
  role : ∃ role : Role, m.type = .str role.name ∧ sent.role = some role
  content : sent.content = m.content
  name : sent.name = m.name
  toolCallId : sent.toolCallId = m.toolCallId
  toolCalls : sent.toolCalls = none

theorem PromptMessage.type_of_role {m : PromptMessage} {role : Role} (h : m.role = .ok role) :
    m.type = .str role.name := by
  unfold PromptMessage.role at h
  split at h
  · next s hType =>
    split at h
    · next found hFound =>
      obtain rfl : found = role := Except.ok.inj h
      have hName := List.find?_some hFound
      rw [hType, of_decide_eq_true hName]
    · cases h
  · cases h

theorem PromptMessage.becomes_of_toMessage {m : PromptMessage} {sent : Message}
    (h : m.toMessage = .ok sent) : m.Becomes sent := by
  obtain ⟨role, hRole, h⟩ := ok_of_bind h
  obtain rfl := Except.ok.inj h
  exact ⟨⟨role, type_of_role hRole, rfl⟩, rfl, rfl, rfl, rfl⟩

def Prompt.own (p : Prompt) : Options :=
  match p.options with
  | some (.full o) => o
  | some (.portable o) => ⟨o.layer, o.callbacks, o.functions⟩
  | _ => {}

theorem Prompt.own_of_mapM {p : Prompt} {call : Option Options}
    (h : p.options.mapM Options.ofCall = .ok call) : call = p.options.map fun _ => p.own := by
  cases hOptions : p.options with
  | none =>
    rw [hOptions] at h
    exact (Except.ok.inj h).symm
  | some brought =>
    rw [hOptions] at h
    obtain ⟨o, hCall, h⟩ := ok_of_bind h
    obtain rfl := Except.ok.inj h
    cases brought with
    | portable _ | full _ =>
      obtain rfl := Except.ok.inj hCall
      simp [own, hOptions]
    | other _ => cases hCall

theorem NumberError.eq_ok_of_lift {α : Type} {x : Except NumberError α} {a : α}
    (h : NumberError.lift x = .ok a) : x = .ok a := by
  cases x with
  | error e => cases h
  | ok b =>
    obtain rfl := Except.ok.inj h
    rfl

theorem Options.enabled_ok {o : Options} {perCall : Bool} {names : List Name}
    (h : o.enabled perCall = .ok names) : ∃ sorted, Name.Sorted o.functions sorted ∧
      names = Name.distinct ((if perCall then o.callbacks.map Callback.name else []) ++ sorted) := by
  obtain ⟨sorted, hSorted, h⟩ := ok_of_bind h
  obtain rfl := Except.ok.inj h
  exact ⟨sorted, Name.sorted_of_ordered (NumberError.eq_ok_of_lift hSorted), rfl⟩

theorem Options.enabled_of_none {o : Options} (none : o.functions = []) :
    o.enabled false = .ok [] := by
  have ordered : o.orderedFunctions = .ok [] := by
    simp [orderedFunctions, none, Name.ordered, NumberError.lift]
  rw [enabled, ordered]
  rfl

theorem Options.enabled_of_one {o : Options} {n : Name} (one : o.functions = [n])
    (text : n.isText = true) :
    o.enabled true = .ok (Name.distinct (o.callbacks.map Callback.name ++ [n])) := by
  have ordered : o.orderedFunctions = .ok [n] := by
    simp [orderedFunctions, one, Name.ordered, text, NumberError.lift]
  rw [enabled, ordered]
  rfl

theorem Prompt.own_enabled_ok {p : Prompt} {names : List Name}
    (h : ((p.options.map fun _ => p.own).elim (.ok []) fun o => o.enabled true) = .ok names) :
    ∃ sorted, Name.Sorted p.own.functions sorted ∧
      names = Name.distinct (p.own.callbacks.map Callback.name ++ sorted) := by
  cases hOptions : p.options with
  | none =>
    rw [hOptions] at h
    obtain rfl := Except.ok.inj h
    have hOwn : p.own = {} := by simp [own, hOptions]
    rw [hOwn]
    exact ⟨[], Name.sorted_of_ordered (by simp [Name.ordered]), rfl⟩
  | some brought =>
    rw [hOptions] at h
    exact Options.enabled_ok h

namespace Client

variable {τ : Type}

/-- The names that are switched on: those of the prompt's callbacks, then the functions of the prompt
and of the defaults in order; each where it comes first. -/
def enabledNames (callbacks : List Callback) (own defaults : List Name) : List Name :=
  Name.distinct (callbacks.map Callback.name ++ own ++ defaults)

theorem lookup_own (p : Prompt) (r : Registry) (name : Name) :
    Registry.lookup (overlayOf p.own :: r) name =
      match p.own.callbacks.reverse.find? fun c => c.name.key = name.key with
      | some c => .ok c
      | none => r.lookup name :=
  Registry.lookup_overlay p.own.callbacks r name

theorem outcome_overlaid_tools (p : Prompt) {s : Session τ} (steady : s.registry.Steady)
    (names : List Name) :
    ((Session.overlaid (p.options.map fun _ => overlayOf p.own) (Session.tools names)).exec s).1 =
      ((Name.distinct names).mapM (Registry.lookup (overlayOf p.own :: s.registry))).map
        (List.map Callback.tool) := by
  have apart := Name.pairwise_distinct names
  rw [Session.exec_overlaid]
  cases hOptions : p.options with
  | none =>
    have bare (name : Name) : Registry.lookup (overlayOf p.own :: s.registry) name =
        s.registry.lookup name := by
      rw [lookup_own]
      simp [Prompt.own, hOptions]
    rw [mapM_congr_of_mem fun name _ => bare name, Session.exec_tools]
    exact congrArg (Except.map _) (Session.exec_callbacks apart steady)
  | some brought =>
    rw [Session.exec_tools]
    exact congrArg (Except.map _) (Session.exec_callbacks apart (steady.overlay p.own.callbacks))

theorem outcome_prepare (c : Client) (p : Prompt) (stream : Bool) {s : Session τ}
    (steady : s.registry.Steady) :
    ((c.prepare p stream).exec s).1 = (do
      let messages ← p.messages.mapM PromptMessage.toMessage
      let call ← p.options.mapM Options.ofCall
      let own ← call.elim (.ok []) fun o => o.enabled true
      let defaults ← c.defaults.enabled false
      let callbacks ← (Name.distinct (own ++ defaults)).mapM
        (Registry.lookup (overlayOf p.own :: s.registry))
      return (Request.merge ⟨messages, .bool stream, {}⟩ (call.map Options.layer)
        (some c.defaults.layer) (callbacks.map Callback.tool), call.map overlayOf)) := by
  simp only [prepare, Run.outcome_ofExcept_bind, Run.outcome_bind_pure]
  refine bind_congr fun messages => ?_
  refine bind_congr_of_ok fun call hCall => ?_
  obtain rfl := Prompt.own_of_mapM hCall
  refine bind_congr fun own => bind_congr fun defaults => ?_
  have overlay : (p.options.map fun _ => p.own).map overlayOf =
      p.options.map fun _ => overlayOf p.own := by
    simp [Function.comp_def]
  rw [overlay, outcome_overlaid_tools p steady (own ++ defaults)]
  cases (Name.distinct (own ++ defaults)).mapM (Registry.lookup (overlayOf p.own :: s.registry))
    <;> rfl

theorem silent_overlay (call : Option Options) :
    Registry.Silent (call.map overlayOf).toList := by
  cases call with
  | none => simp [Registry.Silent]
  | some o => simp [Registry.Silent, overlayOf]

theorem settles_prepare (c : Client) (p : Prompt) (stream : Bool) :
    Session.Settles (c.prepare p stream : Run (Session τ) (Request × Option Level)) := by
  refine (Session.settles_ofExcept _).bind fun messages => ?_
  refine (Session.settles_ofExcept _).bind fun call => ?_
  refine (Session.settles_ofExcept _).bind fun own => ?_
  refine (Session.settles_ofExcept _).bind fun defaults => ?_
  have tools : Session.Settles (Session.tools (own ++ defaults) : Run (Session τ) (List Tool)) :=
    Session.settles_tools _
  exact (tools.overlaid (silent_overlay call)).bind fun tools => Session.settles_pure _

theorem onlyAsks_prepare (c : Client) (p : Prompt) (stream : Bool) :
    Session.OnlyAsks (c.prepare p stream : Run (Session τ) (Request × Option Level)) :=
  (c.settles_prepare p stream).onlyAsks

/-- The steps by which a request came about. The look-ups are of the two lists joined, of which each was
rid of repetitions before. -/
theorem steps_of_prepare {c : Client} {p : Prompt} {stream : Bool} {s u : Session τ} {r : Request}
    {overlay : Option Level} (prepared : (c.prepare p stream).exec s = (.ok (r, overlay), u)) :
    ∃ messages own defaults callbacks,
      overlay = (p.options.map fun _ => p.own).map overlayOf ∧
      Name.Sorted p.own.functions own ∧ Name.Sorted c.defaults.functions defaults ∧
      (Session.overlaid overlay
        (Session.callbacks (enabledNames p.own.callbacks own defaults))).exec s = (.ok callbacks, u) ∧
      r = Request.merge ⟨messages, .bool stream, {}⟩ ((p.options.map fun _ => p.own).map Options.layer)
        (some c.defaults.layer) (callbacks.map Callback.tool) := by
  obtain ⟨messages, -, prepared⟩ := Run.ok_of_exec_ofExcept_bind prepared
  obtain ⟨call, hCall, prepared⟩ := Run.ok_of_exec_ofExcept_bind prepared
  obtain ⟨own, hOwn, prepared⟩ := Run.ok_of_exec_ofExcept_bind prepared
  obtain ⟨defaults, hDefaults, prepared⟩ := Run.ok_of_exec_ofExcept_bind prepared
  obtain ⟨tools, s₁, hTools, prepared⟩ := Run.ok_of_exec_bind prepared
  obtain ⟨made, rfl⟩ := Prod.mk.inj prepared
  obtain ⟨rfl, rfl⟩ := Prod.mk.inj (Except.ok.inj made)
  obtain rfl := Prompt.own_of_mapM hCall
  obtain ⟨own, ownSorted, rfl⟩ := Prompt.own_enabled_ok hOwn
  obtain ⟨defaults, defaultsSorted, rfl⟩ := Options.enabled_ok hDefaults
  rw [Session.exec_overlaid, Session.exec_tools] at hTools
  obtain ⟨hTools, hAfter⟩ := Prod.mk.inj hTools
  obtain ⟨callbacks, hCallbacks, rfl⟩ := ok_of_map hTools
  refine ⟨messages, own, defaults, callbacks, rfl, ownSorted, defaultsSorted, ?_, rfl⟩
  rw [enabledNames, ← Name.distinct_append_distinct, Session.exec_overlaid]
  exact Prod.ext hCallbacks hAfter

theorem parts_of_prepare {c : Client} {p : Prompt} {stream : Bool} {s u : Session τ} {r : Request}
    {overlay : Option Level} (prepared : (c.prepare p stream).exec s = (.ok (r, overlay), u)) :
    r.stream = .bool stream ∧ overlay = (p.options.map fun _ => p.own).map overlayOf := by
  obtain ⟨messages, own, defaults, callbacks, hOverlay, -, -, -, rfl⟩ := steps_of_prepare prepared
  exact ⟨Request.merge_stream .., hOverlay⟩

theorem prepare_of_createRequest {c : Client} {p : Prompt} {stream : Bool} {s u : Session τ}
    {r : Request} (h : (c.createRequest p stream).exec s = (.ok r, u)) :
    ∃ overlay, (c.prepare p stream).exec s = (.ok (r, overlay), u) := by
  rw [createRequest, Run.exec_map] at h
  obtain ⟨outcome, rfl⟩ := Prod.mk.inj h
  obtain ⟨⟨_, overlay⟩, hRan, rfl⟩ := ok_of_map outcome
  exact ⟨overlay, Prod.ext hRan rfl⟩

theorem parts_of_createRequest {c : Client} {p : Prompt} {stream : Bool} {s u : Session τ} {r : Request}
    (steady : s.registry.Steady) (h : (c.createRequest p stream).exec s = (.ok r, u)) :
    ∃ messages own defaults callbacks,
      p.messages.mapM PromptMessage.toMessage = .ok messages ∧
      Name.Sorted p.own.functions own ∧ Name.Sorted c.defaults.functions defaults ∧
      List.Forall₂
        (fun name callback => Registry.lookup (overlayOf p.own :: s.registry) name = .ok callback)
        (enabledNames p.own.callbacks own defaults) callbacks ∧
      r = Request.merge ⟨messages, .bool stream, {}⟩ ((p.options.map fun _ => p.own).map Options.layer)
        (some c.defaults.layer) (callbacks.map Callback.tool) := by
  have outcome : ((c.createRequest p stream).exec s).1 = .ok r := by rw [h]
  rw [createRequest, Run.exec_map, outcome_prepare c p stream steady] at outcome
  obtain ⟨⟨_, overlay⟩, outcome, rfl⟩ := ok_of_map outcome
  obtain ⟨messages, hMessages, outcome⟩ := ok_of_bind outcome
  obtain ⟨call, hCall, outcome⟩ := ok_of_bind outcome
  obtain ⟨ownNames, hOwn, outcome⟩ := ok_of_bind outcome
  obtain ⟨defaultNames, hDefaults, outcome⟩ := ok_of_bind outcome
  obtain ⟨callbacks, hFound, outcome⟩ := ok_of_bind outcome
  obtain ⟨rfl, -⟩ := Prod.mk.inj (Except.ok.inj outcome)
  obtain rfl := Prompt.own_of_mapM hCall
  obtain ⟨own, ownSorted, rfl⟩ := Prompt.own_enabled_ok hOwn
  obtain ⟨defaults, defaultsSorted, rfl⟩ := Options.enabled_ok hDefaults
  refine ⟨messages, own, defaults, callbacks, hMessages, ownSorted, defaultsSorted, ?_, rfl⟩
  rw [enabledNames, ← Name.distinct_append_distinct]
  exact forall₂_of_mapM hFound

/-- `r` is the request for the prompt, where the registry has what is not the prompt's own. -/
structure Builds (c : Client) (p : Prompt) (stream : Bool) (registry : Registry) (r : Request) :
    Prop where
  messages : List.Forall₂ PromptMessage.Becomes p.messages r.messages
  stream_eq : r.stream = .bool stream
  /-- `null` alone counts as not set. -/
  settings : ∀ key, r.layer.settings key =
    if (p.own.get key).isNull then c.defaults.get key else p.own.get key
  tools : ∃ own defaults names, Name.Sorted p.own.functions own ∧
    Name.Sorted c.defaults.functions defaults ∧
    names = enabledNames p.own.callbacks own defaults ∧
    (names = [] → r.layer.tools = p.own.layer.tools.or c.defaults.layer.tools) ∧
    (names ≠ [] → ∃ tools, r.layer.tools = some tools ∧
      List.Forall₂ (fun name tool => ∃ callback,
        Registry.lookup (overlayOf p.own :: registry) name = .ok callback ∧ tool = callback.tool)
        names tools)
  /-- A callback of the prompt shadows all others of its name, those before it among its own too. -/
  shadowing : ∀ name, Registry.lookup (overlayOf p.own :: registry) name =
    match p.own.callbacks.reverse.find? fun c => c.name.key = name.key with
    | some c => .ok c
    | none => registry.lookup name

/-- A request is built from its prompt, the defaults and the registry in this way alone. -/
theorem createRequest_builds (c : Client) (p : Prompt) (stream : Bool) {s u : Session τ} {r : Request}
    (steady : s.registry.Steady) (h : (c.createRequest p stream).exec s = (.ok r, u)) :
    c.Builds p stream s.registry r := by
  obtain ⟨messages, own, defaults, callbacks, hMessages, ownSorted, defaultsSorted, found, rfl⟩ :=
    parts_of_createRequest steady h
  have layer : ((p.options.map fun _ => p.own).map Options.layer).getD {} = p.own.layer := by
    cases hOptions : p.options <;> simp [Prompt.own, hOptions]
  refine ⟨?_, Request.merge_stream .., ?_, ⟨own, defaults, _, ownSorted, defaultsSorted, rfl, ?_, ?_⟩,
    lookup_own p s.registry⟩
  · rw [Request.merge_messages]
    exact (forall₂_of_mapM hMessages).imp fun _ _ hMessage => PromptMessage.becomes_of_toMessage hMessage
  · intro key
    rw [Request.merge_settings rfl, layer, firstSet]
    rfl
  · intro hNone
    rw [hNone] at found
    obtain rfl := List.forall₂_nil_left_iff.mp found
    rw [Request.merge_tools rfl, layer]
    rfl
  · intro hSome
    have hTools : callbacks.map Callback.tool ≠ [] := by
      intro hNone
      rw [List.map_eq_nil_iff.mp hNone] at found
      exact hSome (List.forall₂_nil_right_iff.mp found)
    refine ⟨callbacks.map Callback.tool, ?_, ?_⟩
    · rw [Request.merge_tools rfl, if_neg hTools]
    · rw [List.forall₂_map_right_iff]
      exact found.imp fun name callback hLookup => ⟨callback, hLookup, rfl⟩

def rainOptions : Options where
  callbacks := [{ name := .ofText "weather", description := "own" }]
  functions := [.ofText "clock"]

def rainPrompt : Prompt := .ofText (.str "Will it rain?") (some (.full rainOptions))

def rainSession : Session Unit where
  registry := [.ofCallbacks [{ name := .ofText "weather", description := "shared" }]
    (some fun name => some { name })]
  link := ()

theorem createRequest_builds_rain :
    rainSession.registry.Steady ∧ ∃ r u,
      (({} : Client).createRequest rainPrompt false).exec rainSession = (.ok r, u) ∧
        ({} : Client).Builds rainPrompt false rainSession.registry r := by
  have steady : rainSession.registry.Steady := by
    intro ask hAsk before other name
    obtain rfl : ask = Resolver.provider fun name => some { name } := by
      simpa [rainSession] using hAsk
    rfl
  have own : rainOptions.enabled true = .ok [.ofText "weather", .ofText "clock"] := by
    have ordered : rainOptions.orderedFunctions = .ok [.ofText "clock"] := by
      simp [Options.orderedFunctions, rainOptions, Name.ordered, Name.isText, Name.ofText,
        NumberError.lift]
    rw [Options.enabled, ordered]
    rfl
  have defaults : ({} : Client).defaults.enabled false = .ok [] := by
    have ordered : ({} : Client).defaults.orderedFunctions = .ok [] := by
      simp [Options.orderedFunctions, Options.standard, Options.set, Name.ordered, NumberError.lift]
    rw [Options.enabled, ordered]
    rfl
  have call : rainPrompt.options.mapM Options.ofCall = .ok (some rainOptions) := rfl
  obtain ⟨r, ran⟩ : ∃ r,
      ((({} : Client).createRequest rainPrompt false).exec rainSession).1 = .ok r := by
    rw [createRequest, Run.exec_map, outcome_prepare _ _ _ steady, call]
    simp only [Except.bind, bind, Option.elim_some, own, defaults]
    exact ⟨_, rfl⟩
  exact ⟨steady, r, _, Prod.ext ran rfl, createRequest_builds _ _ _ steady (Prod.ext ran rfl)⟩

end Client
end Colloquy

import Colloquy.Proofs.Callbacks
import Colloquy.Proofs.Client.Requests
import Colloquy.Proofs.Config.Sections
import Colloquy.Proofs.Decoding.Agreement

/-!
# From the configuration to the wire

A setting of a configuration file goes through a section, the defaults of a client and a layer under
a request before it is sent. On the whole way nothing is lost and nothing comes in between: what is
sent can be read off the mapping that the file holds.
-/
set_option autoImplicit false

namespace Colloquy

/-! ## Endpoints -/

namespace Endpoint

theorem isAscii_append (s t : String) : isAscii (s ++ t) = (isAscii s && isAscii t) := by
  simp [isAscii, String.toList_append, List.all_append]

/-- Why there is no endpoint for a key that is not empty. -/
def refusal? (key : Value) (base : String) : Option Fault :=
  match (Url.ofText (withoutSlashes base)).bind Url.asDirectory with
  | .error flaw => some (.badAddress flaw)
  | .ok _ => if isAscii key.text then none else some .headerNotAscii

section

variable {key : Value} {base : String} (keyed : key.truthy = true)
include keyed

theorem make_eq : make key (.str base) =
    match (Url.ofText (withoutSlashes base)).bind Url.asDirectory with
    | .error flaw => .error (.badAddress flaw)
    | .ok u => if isAscii key.text then .ok ⟨targetUnder u, "Bearer " ++ key.text⟩
      else .error .headerNotAscii := by
  have signed : isAscii ("Bearer " ++ key.text) = isAscii key.text := by
    rw [isAscii_append]
    rfl
  unfold make
  simp only [keyed, signed]
  cases (Url.ofText (withoutSlashes base)).bind Url.asDirectory with
  | error flaw => rfl
  | ok u => cases isAscii key.text <;> rfl

theorem make_of_refused {f : Fault} (refused : refusal? key base = some f) :
    make key (.str base) = .error f := by
  unfold refusal? at refused
  rw [make_eq keyed]
  split at refused
  · exact congrArg Except.error (Option.some.inj refused)
  · split at refused
    · cases refused
    · next hAscii =>
      rw [if_neg hAscii]
      exact congrArg Except.error (Option.some.inj refused)

theorem make_of_accepted (accepted : refusal? key base = none) :
    ∃ e, make key (.str base) = .ok e := by
  unfold refusal? at accepted
  rw [make_eq keyed]
  split at accepted
  · cases accepted
  · split at accepted
    · next hAscii => exact ⟨_, if_pos hAscii⟩
    · cases accepted

end

end Endpoint

/-! ## Requests -/

def CallOptions.OnlySettings : CallOptions → Prop
  | .full o => o.layer.tools = none ∧ o.callbacks = [] ∧ o.functions = []
  | .portable o => o.tools = none ∧ o.callbacks = [] ∧ o.functions = []
  | .other _ => False

/-- What is sent for a text: every setting that is not `null`, and the tools if there are any. -/
def wire (text : String) (stream : Bool) (settings : Settings) (tools : List Value) : Members :=
  Members.present [
    ("messages", .list [.object [("content", .str text), ("role", .str "user")]]),
    ("model", settings .model),
    ("frequency_penalty", settings .frequencyPenalty),
    ("max_tokens", settings .maxTokens),
    ("n", settings .n),
    ("presence_penalty", settings .presencePenalty),
    ("response_format", settings .responseFormat),
    ("seed", settings .seed),
    ("stop", settings .stop),
    ("stream", .bool stream),
    ("temperature", settings .temperature),
    ("top_p", settings .topP),
    ("tools", if tools.isEmpty then .null else .list tools),
    ("tool_choice", settings .toolChoice)]

def Registry.advertised (r : Registry) (name : String) : Except Fault Value :=
  match r.find? (.text name) with
  | some c => c.tool.toValue
  | none => .ok .null

namespace Request

/-- What keeps a tool from being written keeps the request from being sent, and nothing else does. -/
theorem toValue_eq_wire {r : Request} {text : String} {stream : Bool} {settings : Settings}
    {tools : List Tool} (messages : r.messages = [{ content := .str text, role := some .user }])
    (streamed : r.stream = .bool stream) (said : ∀ key, r.layer.settings key = settings key)
    (advertised : r.layer.tools = if tools = [] then none else some tools) :
    r.toValue = (tools.mapM Tool.toValue).map fun tools =>
      .object (wire text stream settings tools) := by
  cases tools with
  | nil =>
    simp only [toValue, members, messages, streamed, said, advertised]
    rfl
  | cons t rest =>
    rw [if_neg (List.cons_ne_nil t rest)] at advertised
    simp only [toValue, toolsValue, members, messages, streamed, said, advertised]
    cases encoded : (t :: rest).mapM Tool.toValue with
    | error f => rfl
    | ok values =>
      cases forall₂_of_mapM encoded with
      | cons first later => rfl

theorem toValue_merge (text : String) (stream : Bool) {call : Option Layer} (settings : Settings)
    (tools : List Tool) (none : (call.getD {}).tools = none) :
    (merge ⟨[{ content := .str text, role := some .user }], .bool stream, {}⟩ call
      (some { settings }) tools).toValue =
    (tools.mapM Tool.toValue).map fun tools => .object
      (wire text stream (fun key => firstSet ((call.getD {}).settings key) (settings key)) tools) := by
  apply toValue_eq_wire
  · exact merge_messages ..
  · exact merge_stream ..
  · intro key
    rw [merge_settings rfl]
  · rw [merge_tools rfl, none]
    rfl

end Request

theorem Session.exec_overlaid_tools_of_held {τ : Type} {names : List Name} {found : Name → Callback}
    {s : Session τ} {overlay : Option Level} (empty : ∀ l ∈ overlay, ∀ key, l.get? key = none)
    (held : ∀ n ∈ Name.distinct names, s.registry.find? n.key = some (found n)) :
    (overlaid overlay (tools names)).exec s =
      (.ok ((Name.distinct names).map fun n => (found n).tool), s) := by
  have held' : ∀ n ∈ Name.distinct names,
      (under overlay s).registry.find? n.key = some (found n) := by
    intro n hn
    cases overlay with
    | none => exact held n hn
    | some l => simp [under, Registry.find?, empty l rfl, held n hn]
  have same : uncovered overlay (under overlay s) = s := by
    simp [uncovered, under]
  rw [exec_overlaid, exec_tools, exec_callbacks_of_held held']
  simp [Except.map, same]

namespace CallOptions

theorem OnlySettings.ofCall {o : CallOptions} (only : o.OnlySettings) :
    ∃ call, Options.ofCall o = .ok call ∧ call.layer = o.layer ∧ call.callbacks = [] ∧
      call.functions = [] := by
  cases o with
  | full o => exact ⟨o, rfl, rfl, only.2⟩
  | portable o => exact ⟨_, rfl, rfl, only.2⟩
  | other v => cases only

theorem mapM_ofCall {options : Option CallOptions} (only : ∀ o ∈ options, o.OnlySettings) :
    ∃ call, options.mapM Options.ofCall = .ok call ∧
      call.map Options.layer = options.map CallOptions.layer ∧
      ∀ o ∈ call, o.callbacks = [] ∧ o.functions = [] := by
  cases options with
  | none => exact ⟨none, rfl, rfl, by simp⟩
  | some o =>
    obtain ⟨call, hCall, hLayer, nothing⟩ := (only o rfl).ofCall
    refine ⟨some call, ?_, congrArg some hLayer, ?_⟩
    · rw [Option.mapM_some, hCall]
      rfl
    · intro o ho
      exact Option.some.inj ho ▸ nothing

theorem OnlySettings.tools {options : Option CallOptions} (only : ∀ o ∈ options, o.OnlySettings) :
    ((options.map CallOptions.layer).getD {}).tools = none := by
  cases options with
  | none => rfl
  | some o => cases o with
    | full o => exact (only _ rfl).1
    | portable o => exact (only _ rfl).1
    | other v => cases only _ rfl

end CallOptions

theorem Options.enabled_of_nothing {o : Options} (nothing : o.callbacks = [] ∧ o.functions = []) :
    o.enabled true = .ok [] := by
  have ordered : o.orderedFunctions = .ok [] := by
    simp [orderedFunctions, nothing.2, Name.ordered, NumberError.lift]
  rw [enabled, ordered, nothing.1]
  rfl

theorem Options.enabled_of_texts {o : Options} {names : List String}
    (functions : o.functions = Name.distinct (names.map Name.ofText)) :
    ∃ sorted, Alphabetical names sorted ∧ o.enabled false = .ok (sorted.map Name.ofText) := by
  obtain ⟨sorted, alphabetical, hOrdered⟩ := Name.ordered_distinct_texts names
  refine ⟨sorted, alphabetical, ?_⟩
  have ordered : o.orderedFunctions = .ok (sorted.map Name.ofText) := by
    rw [orderedFunctions, functions, hOrdered]
    rfl
  rw [enabled, ordered]
  exact congrArg Except.ok (Name.distinct_of_pairwise alphabetical.apart)

namespace Client

variable {τ : Type}

theorem exec_createRequest_of_held {c : Client} {names : List Name} {found : Name → Callback}
    {options : Option CallOptions} {s : Session τ} (enabled : c.defaults.enabled false = .ok names)
    (held : ∀ n ∈ Name.distinct names, s.registry.find? n.key = some (found n))
    (only : ∀ o ∈ options, o.OnlySettings) (text : Value) (stream : Bool) :
    (c.createRequest (.ofText text options) stream).exec s =
      (.ok (Request.merge ⟨[{ content := text, role := some .user }], .bool stream, {}⟩
        (options.map CallOptions.layer) (some c.defaults.layer)
        ((Name.distinct names).map fun n => (found n).tool)), s) := by
  obtain ⟨call, hCall, hLayer, nothing⟩ := CallOptions.mapM_ofCall only
  have own : (call.elim (.ok []) fun o => o.enabled true) = .ok [] := by
    cases call with
    | none => rfl
    | some o => exact Options.enabled_of_nothing (nothing o rfl)
  have empty : ∀ l ∈ call.map overlayOf, ∀ key, l.get? key = none := by
    intro l hl key
    obtain ⟨o, ho, rfl⟩ := Option.map_eq_some_iff.mp hl
    rw [overlayOf, (nothing o ho).1]
    rfl
  have messages : (Prompt.ofText text options).messages.mapM PromptMessage.toMessage =
      .ok [{ content := text, role := some .user }] := rfl
  have brought : (Prompt.ofText text options).options.mapM Options.ofCall = .ok call := hCall
  have ran := Session.exec_overlaid_tools_of_held empty held
  rw [createRequest, Run.exec_map]
  simp only [prepare, Run.exec_bind, messages, brought, own, enabled, Run.exec_ofExcept,
    List.nil_append, ran, Run.exec_pure, Except.map, hLayer]

/-- What is sent for a text, with the settings and the functions of a configuration. Settings of the
call come first, and tools are those of the names in order. -/
def Sends (c : Client) (registry : Registry) (settings : Settings) (names : List String) : Prop :=
  ∃ sorted, Alphabetical names sorted ∧
    ∀ (τ : Type) (s : Session τ) (text : String) (stream : Bool) (options : Option CallOptions),
      s.registry = c.begin registry → (∀ o ∈ options, o.OnlySettings) →
      ∃ r, (c.createRequest (.ofText (.str text) options) stream).exec s = (.ok r, s) ∧
        r.toValue = (sorted.mapM registry.advertised).map fun tools => .object (wire text stream
          (fun key => firstSet (((options.map CallOptions.layer).getD {}).settings key) (settings key))
          tools)

theorem sends_of_held {c : Client} {registry : Registry} {settings : Settings} {names : List String}
    (defaults : c.defaults =
      { layer := { settings }, functions := Name.distinct (names.map Name.ofText) })
    (held : ∀ n ∈ names, (registry.find? (.text n)).isSome = true) :
    c.Sends registry settings names := by
  obtain ⟨sorted, alphabetical, enabled⟩ : ∃ sorted, Alphabetical names sorted ∧
      c.defaults.enabled false = .ok (sorted.map Name.ofText) :=
    Options.enabled_of_texts (by rw [defaults])
  refine ⟨sorted, alphabetical, ?_⟩
  intro τ s text stream options shared only
  have distinct : Name.distinct (sorted.map Name.ofText) = sorted.map Name.ofText :=
    Name.distinct_of_pairwise alphabetical.apart
  have begun : s.registry = registry := by
    rw [shared, begin, defaults]
    rfl
  let found (n : Name) : Callback := (registry.find? n.key).getD { name := n }
  have isFound (t : String) (ht : t ∈ sorted) :
      registry.find? (Name.ofText t).key = some (found (Name.ofText t)) := by
    obtain ⟨callback, hCallback⟩ :=
      Option.isSome_iff_exists.mp (held t ((alphabetical.mem_iff t).mp ht))
    have hKey : registry.find? (Name.ofText t).key = some callback := hCallback
    simp only [found, hKey, Option.getD_some]
  have allFound : ∀ n ∈ Name.distinct (sorted.map Name.ofText),
      s.registry.find? n.key = some (found n) := by
    intro n hn
    obtain ⟨t, ht, rfl⟩ := List.mem_map.mp (distinct ▸ hn)
    rw [begun]
    exact isFound t ht
  have shown : ((sorted.map Name.ofText).map fun n => (found n).tool).mapM Tool.toValue =
      sorted.mapM registry.advertised := by
    rw [List.map_map, List.mapM_map]
    apply mapM_congr_of_mem
    intro t ht
    have held : registry.find? (.text t) = some (found (Name.ofText t)) := isFound t ht
    rw [Registry.advertised, held]
    rfl
  refine ⟨_, exec_createRequest_of_held enabled allFound only (.str text) stream, ?_⟩
  rw [defaults, Request.toValue_merge _ _ _ _ (CallOptions.OnlySettings.tools only), distinct, shown]

end Client

namespace Config

variable {ms os : Members} {policy : FragmentPolicy} {base : String} {names : List String}

section

variable {key : Option String} (keyed : (keyOf key ms).truthy = true)
include keyed

theorem setup_of_refused {f : Fault} (refused : Endpoint.refusal? (keyOf key ms) base = some f) :
    setup (said key ms os policy base names) = .error f := by
  have made : Endpoint.make (keyOf key ms) (.str base) = .error f :=
    Endpoint.make_of_refused keyed refused
  rw [setup, said, made, error_bind]

theorem setup_of_accepted (accepted : Endpoint.refusal? (keyOf key ms) base = none) :
    ∃ made, setup (said key ms os policy base names) = .ok made ∧ made.client.defaults =
      { layer := { settings := OptionDefaults.configured os }
        functions := Name.distinct (names.map Name.ofText) } := by
  obtain ⟨endpoint, made⟩ := Endpoint.make_of_accepted keyed accepted
  have backoff : ({} : Backoff).check = .ok {} := rfl
  simp only [setup, said, made, ok_bind, Name.setOf_texts, backoff]
  exact ⟨_, rfl, rfl⟩

end

def weatherFile : DiskEntry :=
  .file (Text.octets
    "api_key: k\noptions:\n  seed: 0\n  shade: red\n  functions: [rain, clock, rain]\n")

def weatherOptions : Members :=
  [("seed", .int 0), ("shade", .str "red"),
    ("functions", .list [.str "rain", .str "clock", .str "rain"])]

def weatherMembers : Members := [("api_key", .str "k"), ("options", .object weatherOptions)]

def weatherRegistry : Registry :=
  [.ofCallbacks [{ name := .ofText "rain" }, { name := .ofText "clock" }] none]

def diskWith (file : DiskEntry) : Disk := { here := [(localFile, file)] }

theorem fileAt_diskWith (file : DiskEntry) :
    fileAt (diskWith file) none = some ("minimax_chat.yaml", file) := rfl

theorem readMapping_weatherFile :
    readMapping "minimax_chat.yaml" weatherFile = .ok (.object weatherMembers) :=
  Value.eq_ok_of_agrees (by decide +kernel)

theorem plain_weatherMembers : Plain weatherMembers weatherOptions .proceed
    "https://api.minimax.chat" ["rain", "clock", "rain"] :=
  ⟨rfl, rfl, rfl, rfl, rfl⟩

theorem accepted_weatherMembers :
    Endpoint.refusal? (keyOf none weatherMembers) "https://api.minimax.chat" = none :=
  Option.isNone_iff_eq_none.mp (by decide +kernel)

theorem sent_weather {c : Client} {registry : Registry} {settings : Settings}
    (sends : c.Sends registry settings ["rain", "clock", "rain"]) :
    ∃ (s : Session Unit) (r : Request),
      (c.createRequest (.ofText (.str "Hi") none) false).exec s = (.ok r, s) ∧
      r.toValue = (["clock", "rain"].mapM registry.advertised).map fun tools =>
        .object (wire "Hi" false settings tools) := by
  obtain ⟨sorted, alphabetical, sends⟩ := sends
  have order : ["clock", "rain"] = sorted :=
    alphabetical.alone _ (by decide) (by simp [or_comm])
  obtain ⟨r, built, sent⟩ := sends Unit ⟨c.begin registry, {}, ()⟩ "Hi" false none rfl (by simp)
  refine ⟨_, r, built, ?_⟩
  rw [sent, ← order]
  rfl

def bareTool (name : String) : Value :=
  .object [("type", .str "function"), ("function", .object [
    ("name", .str name), ("description", .str ""), ("parameters", .str "\x7b\x7d")])]

theorem advertised_weatherRegistry : ["clock", "rain"].mapM weatherRegistry.advertised =
    .ok [bareTool "clock", bareTool "rain"] := by
  have bare (name : String) : (Callback.tool { name := .ofText name }).toValue = .ok (bareTool name) :=
    Callback.toValue_tool rfl
  have clock : weatherRegistry.advertised "clock" = .ok (bareTool "clock") := bare "clock"
  have rain : weatherRegistry.advertised "rain" = .ok (bareTool "rain") := bare "rain"
  simp only [List.mapM_cons, List.mapM_nil, clock, rain]
  rfl

/-- All that a file says is plain, yet no client can be made from it, for a reason of some kind. -/
def Refuses (file : DiskEntry) (base : String) (kind : Fault → Bool) : Prop :=
  ∃ ms c f, readMapping "minimax_chat.yaml" file = .ok (.object ms) ∧ Plain ms [] .proceed base [] ∧
    (keyOf none ms).truthy = true ∧ ((load (diskWith file) none none).exec []).1 = .ok c ∧
    setup c = .error f ∧ kind f = true

theorem refuses_of_read {file : DiskEntry} {kind : Fault → Bool}
    (read : readMapping "minimax_chat.yaml" file = .ok (.object ms))
    (plain : Plain ms [] .proceed base []) (keyed : (keyOf none ms).truthy = true)
    (refused : (Endpoint.refusal? (keyOf none ms) base).any kind = true) :
    Refuses file base kind := by
  obtain ⟨f, hFault, hKind⟩ := (Option.any_eq_true ..).mp refused
  obtain ⟨unknown, -, loaded⟩ := exec_load none (fileAt_diskWith file) read plain []
  exact ⟨ms, _, f, read, plain, keyed, congrArg Prod.fst loaded, setup_of_refused keyed hFault, hKind⟩

def strayPortFile : DiskEntry :=
  .file (Text.octets "api_key: k\nbase_url: http://h.test:abc\n")

theorem readMapping_strayPortFile : readMapping "minimax_chat.yaml" strayPortFile =
    .ok (.object [("api_key", .str "k"), ("base_url", .str "http://h.test:abc")]) :=
  Value.eq_ok_of_agrees (by decide +kernel)

def umlautFile : DiskEntry :=
  .file (Text.octets "api_key: \u00fc\n")

theorem readMapping_umlautFile : readMapping "minimax_chat.yaml" umlautFile =
    .ok (.object [("api_key", .str "\u00fc")]) :=
  Value.eq_ok_of_agrees (by decide +kernel)

def looseRegistry : Registry :=
  [.ofCallbacks [
    { name := .ofText "rain", schema := .object [("sky", .atom (.sealed "Opaque" "grey"))] },
    { name := .ofText "clock" }] none]

/-- A client is made from a plain file whose functions are all held, but not every request of it can be
sent. -/
def Withholds (registry : Registry) (o : Json.Obstacle) : Prop :=
  (∀ n ∈ ["rain", "clock", "rain"], (registry.find? (.text n)).isSome = true) ∧
    ∃ (made : Setup) (s : Session Unit) (r : Request),
      ((load (diskWith weatherFile) none none).exec []).1.bind setup = .ok made ∧
      (made.client.createRequest (.ofText (.str "Hi") none) false).exec s = (.ok r, s) ∧
      r.toValue = .error (.unwritable o)

theorem withholds_of_unwritable {registry : Registry} {o : Json.Obstacle}
    (held : ∀ n ∈ ["rain", "clock", "rain"], (registry.find? (.text n)).isSome = true)
    (unwritable : ["clock", "rain"].mapM registry.advertised = .error (.unwritable o)) :
    Withholds registry o := by
  obtain ⟨unknown, -, loaded⟩ := exec_load none (fileAt_diskWith weatherFile) readMapping_weatherFile
    plain_weatherMembers []
  obtain ⟨made, hMade, defaults⟩ : ∃ made, setup (said none weatherMembers weatherOptions .proceed
      "https://api.minimax.chat" ["rain", "clock", "rain"]) = .ok made ∧ made.client.defaults = _ :=
    setup_of_accepted rfl accepted_weatherMembers
  obtain ⟨s, r, built, sent⟩ := sent_weather (Client.sends_of_held defaults held)
  refine ⟨held, made, s, r, ?_, built, ?_⟩
  · rw [loaded]
    exact hMade
  · rw [sent, unwritable]
    rfl

end Config
end Colloquy

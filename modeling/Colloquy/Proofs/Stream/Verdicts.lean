import Mathlib.Data.List.TakeWhile
import Colloquy.Client
import Colloquy.Proofs.Stream.Fragments

/-! # Fragments under a policy

What becomes of a fragment is settled before any policy is asked: it passes, it fails, or it asks for
tools. A policy decides only whether a stream goes on behind a fragment that fails. Such a fragment
leaves no trace in the memory, so the verdicts on the others are the same without it.
-/
set_option autoImplicit false

namespace Colloquy.Client

inductive Verdict where
  | passes (response : Response)
  | fails (fault : Fault)
  | asks

namespace Verdict

def response : Verdict → Response
  | passes r => r
  | _ => {}

def fault? : Verdict → Option Fault
  | passes _ => none
  | fails f => some f
  | asks => some .streamedToolCall

def isPass (v : Verdict) : Bool := v.fault?.isNone

def isAsk : Verdict → Bool
  | asks => true
  | _ => false

end Verdict

/-- A fragment that cannot be a completion fails, even where it asks for tools as well. -/
def judge (chunk : Chunk) (m : RoleMemory) : Verdict × RoleMemory :=
  match (RoleMemory.normalizing chunk).exec m with
  | (.error f, t) => (.fails f, t)
  | (.ok completion, t) =>
    if Conversation.asksForTools (some completion) then (.asks, t)
    else (.passes (responseOf completion), t)

def judged : RoleMemory → List Chunk → List Verdict
  | _, [] => []
  | m, chunk :: rest => (judge chunk m).1 :: judged (judge chunk m).2 rest

theorem length_judged (m : RoleMemory) (chunks : List Chunk) :
    (judged m chunks).length = chunks.length := by
  induction chunks generalizing m with
  | nil => rfl
  | cons chunk rest ih => exact congrArg (· + 1) (ih _)

theorem judge_of_flawed {chunk : Chunk} (flawed : RoleMemory.flawed chunk = true) (m : RoleMemory) :
    (judge chunk m).2 = m := by
  obtain ⟨sound, -⟩ | ⟨-, f, -, ran⟩ := RoleMemory.normalizing_cases chunk m
  · rw [flawed] at sound
    cases sound
  · rw [judge, ran]

/-- Without the fragments that fail, the verdicts on the others are what they were. -/
theorem judged_filter (m : RoleMemory) (chunks : List Chunk) :
    judged m (chunks.filter fun chunk => !RoleMemory.flawed chunk) =
      ((chunks.zip (judged m chunks)).filter fun p => !RoleMemory.flawed p.1).map Prod.snd := by
  induction chunks generalizing m with
  | nil => rfl
  | cons chunk rest ih =>
    rw [judged, List.zip_cons_cons]
    cases hFlawed : RoleMemory.flawed chunk with
    | true =>
      rw [List.filter_cons_of_neg (by simp [hFlawed]), List.filter_cons_of_neg (by simp [hFlawed]),
        judge_of_flawed hFlawed, ih]
    | false =>
      rw [List.filter_cons_of_pos (by simp [hFlawed]), List.filter_cons_of_pos (by simp [hFlawed]),
        List.map_cons, judged, ih]

theorem mem_of_mem_judged_filter {m : RoleMemory} {chunks : List Chunk} {v : Verdict}
    (h : v ∈ judged m (chunks.filter fun chunk => !RoleMemory.flawed chunk)) : v ∈ judged m chunks := by
  rw [judged_filter] at h
  obtain ⟨x, hx, rfl⟩ := List.mem_map.mp h
  exact (List.of_mem_zip (List.mem_filter.mp hx).1).2

theorem responses_filter (m : RoleMemory) (chunks : List Chunk) :
    (judged m (chunks.filter fun chunk => !RoleMemory.flawed chunk)).map Verdict.response =
      ((chunks.zip ((judged m chunks).map Verdict.response)).filter fun p =>
        !RoleMemory.flawed p.1).map Prod.snd := by
  rw [judged_filter, List.zip_map_right, List.filter_map, List.map_map, List.map_map]
  rfl

section

variable {policy : FragmentPolicy} {fault : Option Fault} {m t : RoleMemory} {chunk : Chunk}
  {rest : List (Feed.Event Chunk)}

theorem exec_processFragment (chunk : Chunk) (m : RoleMemory) :
    (processFragment chunk).exec m = match judge chunk m with
      | (.passes response, t) => (.ok response, t)
      | (.fails f, t) => (.error f, t)
      | (.asks, t) => (.error .streamedToolCall, t) := by
  unfold processFragment judge
  rw [Run.exec_bind]
  rcases (RoleMemory.normalizing chunk).exec m with ⟨f | completion, t⟩
  · rfl
  · simp only [Run.exec_bind, Run.exec_discard, Run.exec_ofExcept, Conversation.passFragment]
    by_cases asks : Conversation.asksForTools (some completion) = true
    · rw [if_pos asks, if_pos asks]
      rfl
    · rw [if_neg asks, if_neg asks]
      rfl

theorem responses_of_passes {response : Response} (h : judge chunk m = (.passes response, t)) :
    responses policy fault m (.item chunk :: rest) =
      Feed.after [.item response] (responses policy fault t rest) := by
  rw [responses, exec_processFragment, h]

theorem responses_of_asks (h : judge chunk m = (.asks, t)) :
    responses policy fault m (.item chunk :: rest) = Feed.failed .streamedToolCall := by
  rw [responses, exec_processFragment, h]

theorem ne_of_fails {f : Fault} (h : judge chunk m = (.fails f, t)) : f ≠ .streamedToolCall := by
  unfold judge at h
  split at h
  · next g u ran =>
    obtain ⟨rfl, -⟩ : g = f ∧ u = t := by simpa using h
    exact (RoleMemory.kept_of_normalizing ran).2
  · split at h <;> cases h

theorem responses_abort_of_fails {f : Fault} (h : judge chunk m = (.fails f, t)) :
    responses .abort fault m (.item chunk :: rest) = Feed.failed f := by
  rw [responses, exec_processFragment, h]
  simp [ne_of_fails h]

theorem responses_proceed_of_fails {f : Fault} (h : judge chunk m = (.fails f, t)) :
    responses .proceed fault m (.item chunk :: rest) =
      Feed.after [.note (fragmentNote chunk), .item {}] (responses .proceed fault t rest) := by
  rw [responses, exec_processFragment, h]
  simp [ne_of_fails h]

end

/-- How what a reader sees under the one policy and under the other comes from the verdicts on the
fragments, which end with `fault`. -/
structure Agree (vs : List Verdict) (fault : Option Fault) (goes stops : Feed Response) : Prop where
  goes_items : goes.items = (vs.takeWhile fun v => !v.isAsk).map Verdict.response
  goes_fault : goes.fault = if vs.any Verdict.isAsk then some .streamedToolCall else fault
  stops_items : stops.items = goes.items.take (vs.takeWhile Verdict.isPass).length
  stops_fault : stops.fault = (vs.findSome? Verdict.fault?).or fault
  same : (∀ f, .fails f ∉ vs) → stops = goes

namespace Agree

variable {vs : List Verdict} {fault : Option Fault} {goes stops : Feed Response}

theorem nil (fault : Option Fault) : Agree [] fault ⟨[], fault⟩ ⟨[], fault⟩ := by
  exact ⟨rfl, rfl, rfl, rfl, fun _ => rfl⟩

theorem silently (h : Agree vs fault goes stops) {e : Feed.Event Response} (silent : e.item? = none) :
    Agree vs fault (Feed.after [e] goes) (Feed.after [e] stops) := by
  have items (f : Feed Response) : (Feed.after [e] f).items = f.items := by
    simp [Feed.items_after, silent]
  constructor
  · rw [items]
    exact h.goes_items
  · exact h.goes_fault
  · rw [items, items]
    exact h.stops_items
  · exact h.stops_fault
  · intro noFails
    rw [h.same noFails]

theorem passing (h : Agree vs fault goes stops) (r : Response) :
    Agree (.passes r :: vs) fault (Feed.after [.item r] goes) (Feed.after [.item r] stops) := by
  have items (f : Feed Response) : (Feed.after [.item r] f).items = r :: f.items :=
    Feed.items_after _ f
  constructor
  · rw [items, h.goes_items]
    rfl
  · exact h.goes_fault
  · rw [items, items, h.stops_items]
    rfl
  · exact h.stops_fault
  · intro noFails
    rw [h.same fun f hf => noFails f (List.mem_cons_of_mem _ hf)]

theorem failing (h : Agree vs fault goes stops) (f : Fault) (entry : LogEntry) :
    Agree (.fails f :: vs) fault (Feed.after [.note entry, .item {}] goes) (Feed.failed f) := by
  constructor
  · rw [Feed.items_after, h.goes_items]
    rfl
  · exact h.goes_fault
  · rfl
  · rfl
  · intro noFails
    exact absurd List.mem_cons_self (noFails f)

theorem asking (vs : List Verdict) (fault : Option Fault) :
    Agree (.asks :: vs) fault (Feed.failed .streamedToolCall) (Feed.failed .streamedToolCall) := by
  exact ⟨rfl, rfl, rfl, rfl, fun _ => rfl⟩

theorem goes_items_of_noAsks (h : Agree vs fault goes stops) (noAsks : .asks ∉ vs) :
    goes.items = vs.map Verdict.response := by
  have passed : ∀ v ∈ vs, (!v.isAsk) = true := by
    intro v hv
    cases v with
    | asks => exact absurd hv noAsks
    | passes r | fails f => rfl
  rw [h.goes_items, List.takeWhile_eq_self_iff.mpr passed]

end Agree

theorem agree_responses (fault : Option Fault) (m : RoleMemory) (events : List (Feed.Event Chunk)) :
    Agree (judged m (events.filterMap Feed.Event.item?)) fault (responses .proceed fault m events)
      (responses .abort fault m events) := by
  induction events generalizing m with
  | nil => exact .nil fault
  | cons e rest ih =>
    cases e with
    | note entry => exact (ih m).silently rfl
    | sleep v => exact (ih m).silently rfl
    | item chunk =>
      change Agree ((judge chunk m).1 :: judged (judge chunk m).2 _) fault _ _
      rcases hJudge : judge chunk m with ⟨r | f | -, t⟩
      · rw [responses_of_passes hJudge, responses_of_passes hJudge]
        exact (ih t).passing r
      · rw [responses_proceed_of_fails hJudge, responses_abort_of_fails hJudge]
        exact (ih t).failing f (fragmentNote chunk)
      · rw [responses_of_asks hJudge, responses_of_asks hJudge]
        exact .asking _ fault

end Colloquy.Client

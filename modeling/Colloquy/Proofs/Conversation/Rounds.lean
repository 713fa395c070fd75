import Colloquy.Proofs.Conversation.Law

/-!
# Limits on follow-ups

A limit of so many rounds lets a conversation send one request more than that. It shows only where the
last of these is answered with one more wish for tools, and then before any of them is run. A conversation
that does not get there takes the same course within every wider limit, and without any.
-/
set_option autoImplicit false

namespace Colloquy.Conversation

variable {τ : Type}

def repliesTo (send : Transport τ) (link : τ) :
    List Request → List (Except Fault (Option Completion))
  | [] => []
  | r :: rest => ((send r).exec link).1 :: repliesTo send ((send r).exec link).2 rest

theorem repliesTo_concat (send : Transport τ) (link : τ) (requests : List Request) (r : Request) :
    repliesTo send link (requests ++ [r]) =
      repliesTo send link requests ++ [answerAfter send link requests r] := by
  induction requests generalizing link with
  | nil => rfl
  | cons first rest ih =>
    rw [List.cons_append, repliesTo, ih, answerAfter_cons]
    rfl

def Ending.fails : Ending → Bool
  | refused _ | failed .. => true
  | _ => false

namespace Transcript

def worked (t : Transcript) : Nat :=
  t.rounds.length + match t.ending with
    | .failed .. => 1
    | _ => 0

/-- The requests were answered by so many completions, all of which ask for tools. -/
def AllAsk (t : Transcript) (send : Transport τ) (link : τ) (count : Nat) : Prop :=
  ∃ cs : List (Option Completion), repliesTo send link t.requests = cs.map .ok ∧
    cs.length = count ∧ ∀ c ∈ cs, asksForTools c = true

/-- All completions but the last ask for tools, and the last, which is `c`, does not. -/
def FirstFinal (t : Transcript) (send : Transport τ) (link : τ) (c : Option Completion) : Prop :=
  ∃ cs : List (Option Completion), repliesTo send link t.requests = (cs ++ [c]).map .ok ∧
    (∀ c ∈ cs, asksForTools c = true) ∧ asksForTools c = false

end Transcript

section

variable {send : Transport τ} {limit : RoundLimit} {fuel rounds n : Nat} {r first : Request}
  {s u : Session τ} {t : Transcript}

theorem Course.rounds_ask (h : Course send limit fuel rounds r s t u) :
    ∃ cs : List (Option Completion),
      repliesTo send s.link (t.rounds.map Round.request) = cs.map .ok ∧
        cs.length = t.rounds.length ∧ ∀ c ∈ cs, asksForTools c = true := by
  induction h with
  | @round fuel rounds r s u c m as left t replied asks within calls answering later ih =>
    obtain ⟨cs, replies, length, ask⟩ := ih
    refine ⟨c :: cs, ?_, congrArg (· + 1) length, ?_⟩
    · change reply send r s :: repliesTo send ((send r).exec s.link).2 _ = _
      rw [replied]
      exact congrArg (Except.ok c :: ·) replies
    · rintro d (_ | ⟨_, hd⟩)
      · exact asks.asksForTools
      · exact ask d hd
  | _ => exact ⟨[], rfl, rfl, by simp⟩

theorem Course.repliesTo_eq (h : Course send limit fuel rounds r s t u) :
    ∃ cs : List (Option Completion), repliesTo send s.link t.requests =
        cs.map .ok ++ [answerAfter send s.link (t.rounds.map Round.request) t.last] ∧
      cs.length = t.rounds.length ∧ ∀ c ∈ cs, asksForTools c = true := by
  obtain ⟨cs, replies, ask⟩ := h.rounds_ask
  refine ⟨cs, ?_, ask⟩
  rw [Transcript.requests, repliesTo_concat, replies]

theorem Course.allAsk_iff (h : Course send limit fuel rounds r s t u) (count : Nat) :
    t.AllAsk send s.link (count + 1) ↔ t.rounds.length = count ∧ ∃ c,
      answerAfter send s.link (t.rounds.map Round.request) t.last = .ok c ∧ asksForTools c = true := by
  obtain ⟨cs, replies, length, ask⟩ := h.repliesTo_eq
  constructor
  · rintro ⟨ds, same, many, allAsk⟩
    rw [replies] at same
    have lengths := congrArg List.length same
    simp only [List.length_append, List.length_map, List.length_singleton] at lengths
    have last : answerAfter send s.link (t.rounds.map Round.request) t.last ∈ ds.map .ok :=
      same ▸ List.mem_append_right _ List.mem_cons_self
    obtain ⟨c, hc, replied⟩ := List.mem_map.mp last
    exact ⟨by omega, c, replied.symm, allAsk c hc⟩
  · rintro ⟨rfl, c, replied, asks⟩
    refine ⟨cs ++ [c], ?_, by simp [length], ?_⟩
    · rw [replies, replied, List.map_append]
      rfl
    · intro d hd
      obtain hd | hd := List.mem_append.mp hd
      · exact ask d hd
      · exact List.mem_singleton.mp hd ▸ asks

theorem Course.firstFinal (h : Course send limit fuel rounds r s t u) {c : Option Completion}
    (replied : answerAfter send s.link (t.rounds.map Round.request) t.last = .ok c)
    (ends : asksForTools c = false) : t.FirstFinal send s.link c := by
  obtain ⟨cs, replies, -, ask⟩ := h.repliesTo_eq
  refine ⟨cs, ?_, ask, ends⟩
  rw [replies, replied, List.map_append]
  rfl

theorem Course.widen (h : Course send limit fuel rounds r s t u) (notLimited : t.ending ≠ .limited)
    {wide : RoundLimit} (wider : ∀ k, limit.reached k = false → wide.reached k = false) :
    Course send wide fuel rounds r s t u := by
  induction h with
  | final replied ends => exact .final replied ends
  | refused replied => exact .refused replied
  | limited => exact absurd rfl notLimited
  | unfinished replied asks within => exact .unfinished replied asks (wider _ within)
  | failed replied asks within calls answering failing =>
    exact .failed replied asks (wider _ within) calls answering failing
  | round replied asks within calls answering later ih =>
    exact .round replied asks (wider _ within) calls answering (ih notLimited)

theorem Ending.outcome_congr {e : Ending} (notLimited : e ≠ .limited) (limit wide : RoundLimit) :
    e.outcome wide = e.outcome limit := by
  cases e with
  | limited => exact absurd rfl notLimited
  | _ => rfl

theorem reached_ofNat (n k : Nat) : (RoundLimit.ofNat n).reached k = decide (n ≤ k) := rfl

section

variable (h : Course send (.ofNat n) n 0 first s t u)
include h

theorem Course.rounds_le : t.rounds.length ≤ n := by
  apply Nat.le_of_not_lt
  intro hMore
  have reached := h.lawful.within n hMore
  rw [reached_ofNat, decide_eq_false_iff_not] at reached
  exact reached (Nat.le_refl n)

/-- The limit is looked at before tool calls are begun, those that fail as well. -/
theorem Course.worked_le : t.worked ≤ n := by
  have within := h.rounds_le
  obtain ⟨middle, -, ends⟩ := h.lawful.answering
  generalize hEnding : t.ending = ending, u.registry = left at ends
  rw [Transcript.worked, hEnding]
  cases ends with
  | failed answered asks notReached calls failing =>
    rw [reached_ofNat, decide_eq_false_iff_not] at notReached
    exact Nat.lt_of_not_le notReached
  | final | refused | limited | unfinished => exact within

theorem Course.limited_iff : t.ending = .limited ↔ t.AllAsk send s.link (n + 1) := by
  have within := h.rounds_le
  have finished := h.lawful.finished rfl (Nat.le_refl n)
  rw [h.allAsk_iff]
  obtain ⟨middle, -, ends⟩ := h.lawful.answering
  generalize hEnding : t.ending = ending, u.registry = left at ends
  generalize answerAfter send s.link (t.rounds.map Round.request) t.last = answer at ends
  constructor
  · rintro rfl
    obtain - | - | ⟨answered, asks, passed⟩ := ends
    rw [reached_ofNat, decide_eq_true_iff] at passed
    exact ⟨Nat.le_antisymm within passed, _, answered, asks.asksForTools⟩
  · rintro ⟨many, c, replied, asks⟩
    cases ends with
    | limited => rfl
    | final answered ends =>
      obtain rfl := Except.ok.inj (answered.symm.trans replied)
      exact absurd asks (by rw [ends]; exact Bool.false_ne_true)
    | refused answered => cases answered.symm.trans replied
    | failed answered asks notReached calls failing =>
      rw [reached_ofNat, decide_eq_false_iff_not] at notReached
      exact absurd (Nat.le_of_eq many.symm) notReached
    | unfinished => exact absurd hEnding finished

theorem Course.final_of_not_fails (succeeds : t.ending.fails = false) (notLimited : t.ending ≠ .limited) :
    ∃ c, t.ending = .final c ∧ t.FirstFinal send s.link c := by
  have finished := h.lawful.finished rfl (Nat.le_refl n)
  obtain ⟨middle, -, ends⟩ := h.lawful.answering
  generalize hEnding : t.ending = ending, u.registry = left at ends succeeds notLimited finished ⊢
  cases ends with
  | final answered ends => exact ⟨_, rfl, h.firstFinal answered ends⟩
  | refused | failed => cases succeeds
  | limited => exact absurd rfl notLimited
  | unfinished => exact absurd rfl finished

end

/-- What a limit of `n` makes of a conversation that comes to an outcome. -/
structure Transcript.Bounded (t : Transcript) (send : Transport τ) (n : Nat) (s u : Session τ)
    (outcome : Except Fault (Option Completion)) : Prop where
  requests_eq : u.journal.requests = s.journal.requests ++ t.requests
  requests_le : t.requests.length ≤ n + 1
  worked_le : t.worked ≤ n
  limited_iff : t.ending = .limited ↔ t.AllAsk send s.link (n + 1)
  untouched : t.ending = .limited → t.requests.length = n + 1 ∧
    u.journal.events = s.journal.events ++ t.rounds.flatMap Round.events ++ [.request t.last]
  exceeded_iff : t.ending.fails = false →
    (outcome = .error (.roundLimit (.int n)) ↔ t.AllAsk send s.link (n + 1))
  returned : t.ending.fails = false → ¬ t.AllAsk send s.link (n + 1) →
    ∃ c, outcome = .ok c ∧ t.FirstFinal send s.link c

theorem Course.bounded (h : Course send (.ofNat n) n 0 first s t u) :
    t.Bounded send n s u (t.ending.outcome (.ofNat n)) := by
  have requests : t.requests.length = t.rounds.length + 1 := by simp [Transcript.requests]
  constructor
  · rw [Journal.requests, h.events_eq, List.filterMap_append, t.filterMap_events_request]
    rfl
  · rw [requests]
    exact Nat.succ_le_succ h.rounds_le
  · exact h.worked_le
  · exact h.limited_iff
  · intro limited
    obtain ⟨many, -⟩ := (h.allAsk_iff n).mp (h.limited_iff.mp limited)
    refine ⟨requests.trans (congrArg (· + 1) many), ?_⟩
    rw [h.events_eq, Transcript.events, limited, List.append_assoc]
    rfl
  · intro succeeds
    rw [← h.limited_iff]
    constructor
    · intro exceeded
      by_cases limited : t.ending = .limited
      · exact limited
      · obtain ⟨c, final, -⟩ := h.final_of_not_fails succeeds limited
        rw [final] at exceeded
        cases exceeded
    · intro limited
      rw [limited]
      rfl
  · intro succeeds notAll
    obtain ⟨c, final, firstFinal⟩ :=
      h.final_of_not_fails succeeds fun limited => notAll (h.limited_iff.mp limited)
    refine ⟨c, ?_, firstFinal⟩
    rw [final]
    rfl

end

/-- A limit of `n` lets `n + 1` requests be sent. Unless something fails, it shows exactly where all of
them are answered with tool calls, else the first completion without any is what the conversation comes
to. One that the limit does not stop is the same under every larger limit, and under none. -/
theorem drive_bounded (send : Transport τ) (n : Nat) (first : Request) (s : Session τ) :
    ∃ (t : Transcript) (u : Session τ),
      (drive send (.ofNat n) n first).exec s = (t.ending.outcome (.ofNat n), u) ∧
      t.Lawful send (.ofNat n) n first s u ∧
      t.Bounded send n s u (t.ending.outcome (.ofNat n)) ∧
      (t.ending ≠ .limited → ∀ fuel, n ≤ fuel →
        (∀ m, n ≤ m → (drive send (.ofNat m) fuel first).exec s =
          (drive send (.ofNat n) n first).exec s) ∧
        (drive send .unbounded fuel first).exec s = (drive send (.ofNat n) n first).exec s) := by
  obtain ⟨t, u, course⟩ := exists_course send (.ofNat n) n 0 first s
  have run : (drive send (.ofNat n) n first).exec s = (t.ending.outcome (.ofNat n), u) := course.exec
  have finished := course.lawful.finished rfl (Nat.le_refl n)
  refine ⟨t, u, run, course.lawful, course.bounded, ?_⟩
  intro notLimited fuel hFuel
  have same {wide : RoundLimit}
      (wider : ∀ k, (RoundLimit.ofNat n).reached k = false → wide.reached k = false) :
      (drive send wide fuel first).exec s = (drive send (.ofNat n) n first).exec s := by
    rw [run, ← Ending.outcome_congr notLimited (.ofNat n) wide]
    exact ((course.widen notLimited wider).of_le finished hFuel).exec
  constructor
  · intro m hMore
    apply same
    intro k within
    rw [reached_ofNat, decide_eq_false_iff_not] at within ⊢
    omega
  · apply same
    intro k _
    rfl

end Colloquy.Conversation

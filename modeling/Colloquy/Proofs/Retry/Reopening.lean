import Mathlib.Logic.Function.Iterate
import Colloquy.Backoff

/-! # Openings of a stream

A stream is opened again only behind an opening that delivered nothing and failed for a transient
reason. `Openings` is a series of such openings; reading a stream under a policy is always one, and
what its reader sees is what the last opening delivered.
-/
set_option autoImplicit false

namespace Colloquy.Backoff

variable {τ α : Type}

structure Opening (τ α : Type) where
  before : τ
  feed : Feed α
  after : τ

/-- Nothing was delivered before a failure that another opening may not meet. -/
def Restarts (f : Feed α) : Prop :=
  f.items = [] ∧ ∃ fault, f.fault = some fault ∧ fault.isTransient = true

theorem restarts_of_restart? {f : Feed α} {fault : Fault} (h : restart? f = some fault) :
    Restarts f := by
  unfold restart? at h
  split at h
  · next found hFault =>
    split at h
    · next hRestart =>
      obtain ⟨hTransient, hItems⟩ := (Bool.and_eq_true _ _).mp hRestart
      exact ⟨List.isEmpty_iff.mp hItems, found, hFault, hTransient⟩
    · cases h
  · cases h

theorem not_restarts_of_restart? {f : Feed α} (h : restart? f = none) : ¬ Restarts f := by
  rintro ⟨hItems, fault, hFault, hTransient⟩
  simp [restart?, hFault, hTransient, hItems] at h

def reopenNote (attempts attempt : Nat) (fault : Fault) : Feed.Event α :=
  .note (retryNote "stream" attempt attempts fault)

/-- Openings of `source`, with so many to go after the first of them and so many behind it. -/
inductive Openings (b : Backoff) (attempts : Nat) (source : StateM τ (Feed α)) :
    Nat → Nat → τ → List (Opening τ α) → Feed α → τ → Prop where
  | settled {left i : Nat} {l m : τ} {feed : Feed α} (ran : source.run l = (feed, m))
      (settles : restart? feed = none) :
      Openings b attempts source left i l [⟨l, feed, m⟩] feed m
  | exhausted {i : Nat} {l m : τ} {feed : Feed α} {f : Fault} (ran : source.run l = (feed, m))
      (restarts : restart? feed = some f) :
      Openings b attempts source 0 i l [⟨l, feed, m⟩] feed m
  | unpaused {left i : Nat} {l m : τ} {feed : Feed α} {f g : Fault} (ran : source.run l = (feed, m))
      (restarts : restart? feed = some f) (pause : b.delay (.int i) = .error g) :
      Openings b attempts source (left + 1) i l [⟨l, feed, m⟩]
        ⟨feed.events ++ [reopenNote attempts i f], some g⟩ m
  | again {left i : Nat} {l m n : τ} {feed rest : Feed α} {f : Fault} {d : Value}
      {later : List (Opening τ α)} (ran : source.run l = (feed, m))
      (restarts : restart? feed = some f) (pause : b.delay (.int i) = .ok d)
      (reopened : Openings b attempts source left (i + 1) m later rest n) :
      Openings b attempts source (left + 1) i l (⟨l, feed, m⟩ :: later)
        (Feed.after (feed.events ++ [reopenNote attempts i f, .sleep d]) rest) n

section

variable {b : Backoff} {attempts : Nat} {source : StateM τ (Feed α)}

theorem run_bind_of_run {β γ : Type} {m : StateM τ β} {l l' : τ} {a : β} (ran : m.run l = (a, l'))
    (k : β → StateM τ γ) : (m >>= k).run l = (k a).run l' := by
  rw [StateT.run_bind, ran]
  rfl

theorem run_openAgain_of_settled {l m : τ} {feed : Feed α} (ran : source.run l = (feed, m))
    (settles : restart? feed = none) (left i : Nat) :
    (openAgain b attempts source left i).run l = (feed, m) := by
  rw [openAgain, run_bind_of_run ran, settles]
  rfl

theorem exists_openings (b : Backoff) (attempts : Nat) (source : StateM τ (Feed α)) (left i : Nat)
    (l : τ) : ∃ xs feed n, Openings b attempts source left i l xs feed n ∧
      (openAgain b attempts source left i).run l = (feed, n) := by
  induction left generalizing i l with
  | zero =>
    rcases ran : source.run l with ⟨feed, m⟩
    cases hRestart : restart? feed with
    | none => exact ⟨_, _, _, .settled ran hRestart, run_openAgain_of_settled ran hRestart 0 i⟩
    | some f =>
      refine ⟨_, _, _, .exhausted ran hRestart, ?_⟩
      rw [openAgain, run_bind_of_run ran, hRestart]
      rfl
  | succ left ih =>
    rcases ran : source.run l with ⟨feed, m⟩
    cases hRestart : restart? feed with
    | none =>
      exact ⟨_, _, _, .settled ran hRestart, run_openAgain_of_settled ran hRestart (left + 1) i⟩
    | some f =>
      cases pause : b.delay (.int i) with
      | error g =>
        refine ⟨_, _, _, .unpaused ran hRestart pause, ?_⟩
        rw [openAgain, run_bind_of_run ran, hRestart]
        simp only [pause]
        rfl
      | ok d =>
        obtain ⟨later, rest, n, reopened, hRest⟩ := ih (i + 1) m
        refine ⟨_, _, _, .again ran hRestart pause reopened, ?_⟩
        rw [openAgain, run_bind_of_run ran, hRestart]
        simp only [pause]
        rw [run_bind_of_run hRest]
        rfl

variable {left i : Nat} {l n : τ} {xs : List (Opening τ α)} {feed : Feed α}

namespace Openings

theorem length_pos (h : Openings b attempts source left i l xs feed n) : 0 < xs.length := by
  cases h <;> simp

theorem length_le (h : Openings b attempts source left i l xs feed n) : xs.length ≤ left + 1 := by
  induction h with
  | again ran restarts pause reopened ih => exact Nat.succ_le_succ ih
  | _ => simp

theorem first (h : Openings b attempts source left i l xs feed n) :
    ∃ x, xs[0]? = some x ∧ x.before = l := by
  cases h <;> exact ⟨_, rfl, rfl⟩

theorem ran (h : Openings b attempts source left i l xs feed n) :
    ∀ x ∈ xs, source.run x.before = (x.feed, x.after) := by
  induction h with
  | again ran restarts pause reopened ih =>
    intro x hx
    obtain rfl | hx := List.mem_cons.mp hx
    · exact ran
    · exact ih x hx
  | settled ran | exhausted ran | unpaused ran =>
    intro x hx
    obtain rfl := List.mem_singleton.mp hx
    exact ran

theorem next (h : Openings b attempts source left i l xs feed n) :
    ∀ (j : Nat) x x', xs[j]? = some x → xs[j + 1]? = some x' →
      Restarts x.feed ∧ x'.before = x.after := by
  induction h with
  | @again left i l m n feed rest f d later ran restarts pause reopened ih =>
    intro j x x' hx hx'
    cases j with
    | zero =>
      obtain ⟨y, hy, hBefore⟩ := reopened.first
      obtain rfl : ⟨l, feed, m⟩ = x := by simpa using hx
      obtain rfl : y = x' := by simpa [hy] using hx'
      exact ⟨restarts_of_restart? restarts, hBefore⟩
    | succ j => exact ih j x x' (by simpa using hx) (by simpa using hx')
  | _ => simp

theorem last (h : Openings b attempts source left i l xs feed n)
    (hDelay : ∀ j, j < left → ∃ d, b.delay (.int (i + j : Nat)) = .ok d) :
    ∃ x, xs.getLast? = some x ∧ feed.items = x.feed.items ∧ feed.fault = x.feed.fault ∧
      n = x.after ∧ (xs.length = left + 1 ∨ ¬ Restarts x.feed) := by
  induction h with
  | settled ran settles =>
    exact ⟨_, rfl, rfl, rfl, rfl, .inr (not_restarts_of_restart? settles)⟩
  | exhausted ran restarts => exact ⟨_, rfl, rfl, rfl, rfl, .inl rfl⟩
  | unpaused ran restarts pause =>
    obtain ⟨d, hd⟩ := hDelay 0 (Nat.succ_pos _)
    rw [Nat.add_zero, pause] at hd
    cases hd
  | @again left i l m n feed rest f d later ran restarts pause reopened ih =>
    obtain ⟨x, hLast, hItems, hFault, hAfter, hEnd⟩ := ih fun j hj => by
      rw [show i + 1 + j = i + (j + 1) by omega]
      exact hDelay (j + 1) (Nat.succ_lt_succ hj)
    obtain ⟨nothing, -⟩ := restarts_of_restart? restarts
    refine ⟨x, ?_, ?_, hFault, hAfter, hEnd.imp_left (congrArg (· + 1))⟩
    · rw [List.getLast?_cons, hLast]
      rfl
    · rw [← hItems, Feed.items_after, List.filterMap_append]
      rw [show feed.events.filterMap Feed.Event.item? = [] from nothing]
      rfl

theorem sleeps (h : Openings b attempts source left i l xs feed n)
    (quiet : ∀ x ∈ xs, x.feed.journal.sleeps = []) :
    feed.journal.sleeps.length + 1 = xs.length ∧
      ∀ (j : Nat) d, feed.journal.sleeps[j]? = some d → b.delay (.int (i + j : Nat)) = .ok d := by
  induction h with
  | settled | exhausted => simp [show _ = _ from quiet _ List.mem_cons_self]
  | @unpaused left i l m feed f g ran restarts pause =>
    have before : feed.journal.sleeps = [] := quiet _ List.mem_cons_self
    have silent : (Feed.mk (feed.events ++ [reopenNote attempts i f]) (some g)).journal.sleeps =
        [] := by
      simp only [Feed.journal, Journal.sleeps, List.filterMap_append] at before ⊢
      rw [before]
      rfl
    simp [silent]
  | @again left i l m n feed rest f d later ran restarts pause reopened ih =>
    have before : feed.journal.sleeps = [] := quiet _ List.mem_cons_self
    obtain ⟨hLength, hDelay⟩ := ih fun x hx => quiet x (List.mem_cons_of_mem _ hx)
    have paused : (Feed.after (feed.events ++ [reopenNote attempts i f, .sleep d]) rest).journal.sleeps
        = d :: rest.journal.sleeps := by
      simp only [Feed.after, Feed.journal, Journal.sleeps, List.filterMap_append] at before ⊢
      rw [before]
      rfl
    rw [paused]
    refine ⟨congrArg (· + 1) hLength, ?_⟩
    intro j e he
    cases j with
    | zero =>
      obtain rfl : d = e := by simpa using he
      exact pause
    | succ j =>
      have hLater := hDelay j e (by simpa using he)
      rwa [show i + 1 + j = i + (j + 1) by omega] at hLater

theorem link_eq (h : Openings b attempts source left i l xs feed n) :
    n = (fun l => (source.run l).2)^[xs.length] l := by
  induction h with
  | @again left i l m n feed rest f d later ran restarts pause reopened ih =>
    rw [List.length_cons, Function.iterate_succ_apply, ran]
    exact ih
  | settled ran | exhausted ran | unpaused ran =>
    rw [List.length_singleton, Function.iterate_one, ran]

end Openings

end

theorem link_feed (b : Backoff) (source : StateM τ (Feed α)) (l : τ) :
    ∃ k, ((b.feed source).run l).2 = (fun l => (source.run l).2)^[k] l := by
  unfold feed
  split
  · exact ⟨0, rfl⟩
  · exact ⟨0, rfl⟩
  · next left _ =>
    obtain ⟨xs, feed, n, openings, ran⟩ := exists_openings b (left + 1) source left 0 l
    refine ⟨xs.length, ?_⟩
    rw [ran]
    exact openings.link_eq

end Colloquy.Backoff

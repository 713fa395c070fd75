import Colloquy.Backoff

/-! # Attempts

What is tried again runs from its beginning, in the session that the attempt before it and the pause
after that have left. `Attempts` is a series of such runs; every execution under a policy is one, and
its outcome is that of the last attempt wherever the pauses are defined.
-/
set_option autoImplicit false

namespace Colloquy.Backoff

variable {τ α : Type}

structure Attempt (τ α : Type) where
  before : Session τ
  outcome : Except Fault α
  after : Session τ

def Attempt.events (t : Attempt τ α) : List Journal.Event :=
  t.after.journal.events.drop t.before.journal.events.length

def Attempt.Extends (t : Attempt τ α) : Prop :=
  t.before.journal.events <+: t.after.journal.events

theorem Attempt.Extends.filterMap {β : Type} {s u : Session τ} {o : Except Fault α}
    (h : Attempt.Extends ⟨s, o, u⟩) (see : Journal.Event → Option β) :
    u.journal.events.filterMap see =
      s.journal.events.filterMap see ++ (Attempt.mk s o u).events.filterMap see := by
  have parts : u.journal.events = s.journal.events ++ (Attempt.mk s o u).events :=
    (List.prefix_iff_eq_append.mp h).symm
  rw [← List.filterMap_append, ← parts]

def Transient (o : Except Fault α) : Prop :=
  ∃ f, o = .error f ∧ f.isTransient = true

theorem not_transient_ok (a : α) : ¬ Transient (.ok a : Except Fault α) := by
  rintro ⟨f, h, -⟩
  cases h

theorem transient_error_iff (f : Fault) :
    Transient (.error f : Except Fault α) ↔ f.isTransient = true := by
  constructor
  · rintro ⟨g, h, hg⟩
    cases h
    exact hg
  · intro h
    exact ⟨f, rfl, h⟩

def pausedSession (attempts attempt : Nat) (f : Fault) (d : Value) (s : Session τ) : Session τ :=
  { s with journal := s.journal.add [.note (retryNote "API" attempt attempts f), .sleep d] }

/-- Runs of `act`, with so many attempts to go after the first of them and so many behind it. -/
inductive Attempts (b : Backoff) (attempts : Nat) (act : Run (Session τ) α) :
    Nat → Nat → Session τ → List (Attempt τ α) → Except Fault α → Session τ → Prop where
  | success {left i : Nat} {s u : Session τ} {a : α} (ran : act.exec s = (.ok a, u)) :
      Attempts b attempts act left i s [⟨s, .ok a, u⟩] (.ok a) u
  | hopeless {left i : Nat} {s u : Session τ} {f : Fault} (ran : act.exec s = (.error f, u))
      (lasting : f.isTransient = false) :
      Attempts b attempts act left i s [⟨s, .error f, u⟩] (.error f) u
  | exhausted {i : Nat} {s u : Session τ} {f : Fault} (ran : act.exec s = (.error f, u))
      (transient : f.isTransient = true) :
      Attempts b attempts act 0 i s [⟨s, .error f, u⟩] (.error f)
        { u with journal := u.journal.add [.note (failedNote attempts f)] }
  | unpaused {left i : Nat} {s u : Session τ} {f g : Fault} (ran : act.exec s = (.error f, u))
      (transient : f.isTransient = true) (pause : b.delay (.int i) = .error g) :
      Attempts b attempts act (left + 1) i s [⟨s, .error f, u⟩] (.error g)
        { u with journal := u.journal.add [.note (retryNote "API" i attempts f)] }
  | again {left i : Nat} {s u v : Session τ} {f : Fault} {d : Value} {o : Except Fault α}
      {later : List (Attempt τ α)} (ran : act.exec s = (.error f, u))
      (transient : f.isTransient = true) (pause : b.delay (.int i) = .ok d)
      (rest : Attempts b attempts act left (i + 1) (pausedSession attempts i f d u) later o v) :
      Attempts b attempts act (left + 1) i s (⟨s, .error f, u⟩ :: later) o v

section

variable {b : Backoff} {attempts : Nat} {act : Run (Session τ) α} {s u : Session τ}

theorem ran_cases (act : Run (Session τ) α) (s : Session τ) :
    (∃ a u, act.exec s = (.ok a, u)) ∨
      (∃ f u, act.exec s = (.error f, u) ∧ f.isTransient = false) ∨
      ∃ f u, act.exec s = (.error f, u) ∧ f.isTransient = true := by
  rcases ran : act.exec s with ⟨o, u⟩
  cases o with
  | ok a => exact .inl ⟨a, u, rfl⟩
  | error f =>
    cases hTransient : f.isTransient with
    | false => exact .inr (.inl ⟨f, u, rfl, hTransient⟩)
    | true => exact .inr (.inr ⟨f, u, rfl, hTransient⟩)

theorem tryAgain_of_ok {a : α} (ran : act.exec s = (.ok a, u)) (left i : Nat) :
    (tryAgain b attempts act left i).exec s = (.ok a, u) := by
  rw [tryAgain]
  simp [Run.exec_bind, ran]

theorem tryAgain_of_lasting {f : Fault} (ran : act.exec s = (.error f, u))
    (lasting : f.isTransient = false) (left i : Nat) :
    (tryAgain b attempts act left i).exec s = (.error f, u) := by
  rw [tryAgain]
  simp [Run.exec_bind, ran, lasting]

theorem tryAgain_of_settled {o : Except Fault α} (ran : act.exec s = (o, u)) (settled : ¬ Transient o)
    (left i : Nat) : (tryAgain b attempts act left i).exec s = (o, u) := by
  cases o with
  | ok a => exact tryAgain_of_ok ran left i
  | error f =>
    rw [transient_error_iff, Bool.not_eq_true] at settled
    exact tryAgain_of_lasting ran settled left i

theorem tryAgain_of_transient {f : Fault} {d : Value} {i : Nat} (ran : act.exec s = (.error f, u))
    (transient : f.isTransient = true) (pause : b.delay (.int i) = .ok d) (left : Nat) :
    (tryAgain b attempts act (left + 1) i).exec s =
      (tryAgain b attempts act left (i + 1)).exec (pausedSession attempts i f d u) := by
  rw [tryAgain]
  simp [Run.exec_bind, ran, transient, pause, pausedSession]

theorem exists_attempts (b : Backoff) (attempts : Nat) (act : Run (Session τ) α) (left i : Nat)
    (s : Session τ) : ∃ tries o u, Attempts b attempts act left i s tries o u ∧
      (tryAgain b attempts act left i).exec s = (o, u) := by
  induction left generalizing i s with
  | zero =>
    obtain ⟨a, u, ran⟩ | ⟨f, u, ran, lasting⟩ | ⟨f, u, ran, transient⟩ := ran_cases act s
    · exact ⟨_, _, _, .success ran, tryAgain_of_ok ran 0 i⟩
    · exact ⟨_, _, _, .hopeless ran lasting, tryAgain_of_lasting ran lasting 0 i⟩
    · refine ⟨_, _, _, .exhausted ran transient, ?_⟩
      rw [tryAgain]
      simp [Run.exec_bind, ran, transient]
  | succ left ih =>
    obtain ⟨a, u, ran⟩ | ⟨f, u, ran, lasting⟩ | ⟨f, u, ran, transient⟩ := ran_cases act s
    · exact ⟨_, _, _, .success ran, tryAgain_of_ok ran (left + 1) i⟩
    · exact ⟨_, _, _, .hopeless ran lasting, tryAgain_of_lasting ran lasting (left + 1) i⟩
    · cases pause : b.delay (.int i) with
      | error g =>
        refine ⟨_, _, _, .unpaused ran transient pause, ?_⟩
        rw [tryAgain]
        simp [Run.exec_bind, ran, transient, pause]
      | ok d =>
        obtain ⟨later, o, v, rest, hRest⟩ := ih (i + 1) (pausedSession attempts i f d u)
        refine ⟨_, _, _, .again ran transient pause rest, ?_⟩
        rw [tryAgain_of_transient ran transient pause, hRest]

theorem exec_execute {left : Nat} (h : b.attempts = .ok (left + 1)) (act : Run (Session τ) α)
    (s : Session τ) : (b.execute act).exec s = (tryAgain b (left + 1) act left 0).exec s := by
  simp [execute, Run.exec_bind, h]

theorem execute_of_lasting {left : Nat} (h : b.attempts = .ok (left + 1)) {f : Fault}
    (ran : act.exec s = (.error f, u)) (lasting : f.isTransient = false) :
    (b.execute act).exec s = (.error f, u) := by
  rw [exec_execute h, tryAgain_of_lasting ran lasting]

variable {left i : Nat} {v : Session τ} {tries : List (Attempt τ α)} {o : Except Fault α}

namespace Attempts

theorem length_pos (h : Attempts b attempts act left i s tries o v) : 0 < tries.length := by
  cases h <;> simp

theorem length_le (h : Attempts b attempts act left i s tries o v) : tries.length ≤ left + 1 := by
  induction h with
  | again ran transient pause rest ih => exact Nat.succ_le_succ ih
  | _ => simp

theorem first (h : Attempts b attempts act left i s tries o v) :
    ∃ t, tries[0]? = some t ∧ t.before = s := by
  cases h <;> exact ⟨_, rfl, rfl⟩

theorem ran (h : Attempts b attempts act left i s tries o v) :
    ∀ t ∈ tries, act.exec t.before = (t.outcome, t.after) := by
  induction h with
  | again ran transient pause rest ih =>
    intro t ht
    obtain rfl | ht := List.mem_cons.mp ht
    · exact ran
    · exact ih t ht
  | success ran | hopeless ran | exhausted ran | unpaused ran =>
    intro t ht
    obtain rfl := List.mem_singleton.mp ht
    exact ran

/-- An attempt with another one behind it failed for a transient reason, and the other one begins
where it and the pause left off. -/
theorem next (h : Attempts b attempts act left i s tries o v) :
    ∀ j t t', tries[j]? = some t → tries[j + 1]? = some t' →
      ∃ f d, t.outcome = .error f ∧ f.isTransient = true ∧ b.delay (.int (i + j : Nat)) = .ok d ∧
        t'.before = pausedSession attempts (i + j) f d t.after := by
  induction h with
  | @again left i s u v f d o later ran transient pause rest ih =>
    intro j t t' ht ht'
    cases j with
    | zero =>
      obtain ⟨t₁, ht₁, hBefore⟩ := rest.first
      obtain rfl : ⟨s, .error f, u⟩ = t := by simpa using ht
      obtain rfl : t₁ = t' := by simpa [ht₁] using ht'
      exact ⟨f, d, rfl, transient, pause, hBefore⟩
    | succ j =>
      have hLater := ih j t t' (by simpa using ht) (by simpa using ht')
      rwa [show i + 1 + j = i + (j + 1) by omega] at hLater
  | _ => simp

/-- Where every pause is defined, the last attempt decides. -/
theorem last (h : Attempts b attempts act left i s tries o v)
    (hDelay : ∀ j, j < left → ∃ d, b.delay (.int (i + j : Nat)) = .ok d) :
    ∃ t, tries.getLast? = some t ∧ o = t.outcome ∧
      (tries.length = left + 1 ∨ ¬ Transient t.outcome) := by
  induction h with
  | success ran => exact ⟨_, rfl, rfl, .inr (not_transient_ok _)⟩
  | hopeless ran lasting =>
    exact ⟨_, rfl, rfl, .inr fun h => by simp [(transient_error_iff _).mp h] at lasting⟩
  | exhausted ran transient => exact ⟨_, rfl, rfl, .inl rfl⟩
  | unpaused ran transient pause =>
    obtain ⟨d, hd⟩ := hDelay 0 (Nat.succ_pos _)
    rw [Nat.add_zero, pause] at hd
    cases hd
  | @again left i s u v f d o later ran transient pause rest ih =>
    obtain ⟨t, hLast, hOutcome, hEnd⟩ := ih fun j hj => by
      rw [show i + 1 + j = i + (j + 1) by omega]
      exact hDelay (j + 1) (Nat.succ_lt_succ hj)
    refine ⟨t, ?_, hOutcome, hEnd.imp_left (congrArg (· + 1))⟩
    rw [List.getLast?_cons, hLast]
    rfl

theorem filterMap_events {β : Type} (see : Journal.Event → Option β)
    (noNote : ∀ e, see (.note e) = none) (noSleep : ∀ d, see (.sleep d) = none)
    (h : Attempts b attempts act left i s tries o v) (extend : ∀ t ∈ tries, t.Extends) :
    v.journal.events.filterMap see =
      s.journal.events.filterMap see ++ tries.flatMap fun t => t.events.filterMap see := by
  induction h with
  | again ran transient pause rest ih =>
    have first := (extend _ List.mem_cons_self).filterMap see
    rw [ih fun t ht => extend t (List.mem_cons_of_mem _ ht)]
    simp [pausedSession, first, noNote, noSleep]
  | success | hopeless =>
    simpa using (extend _ List.mem_cons_self).filterMap see
  | exhausted | unpaused =>
    have first := (extend _ List.mem_cons_self).filterMap see
    simp [first, noNote]

/-- What every attempt keeps, and no entry in the journal disturbs, holds before every attempt and
behind the last. -/
theorem invariant {I : Session τ → Prop} (kept : ∀ s o u, act.exec s = (o, u) → I s → I u)
    (noted : ∀ (s : Session τ) es, I s → I { s with journal := s.journal.add es })
    (h : Attempts b attempts act left i s tries o v) (begins : I s) :
    (∀ t ∈ tries, I t.before) ∧ I v := by
  induction h with
  | again ran transient pause rest ih =>
    obtain ⟨later, last⟩ := ih (noted _ _ (kept _ _ _ ran begins))
    exact ⟨List.forall_mem_cons.mpr ⟨begins, later⟩, last⟩
  | success ran | hopeless ran =>
    exact ⟨List.forall_mem_singleton.mpr begins, kept _ _ _ ran begins⟩
  | exhausted ran | unpaused ran =>
    exact ⟨List.forall_mem_singleton.mpr begins, noted _ _ (kept _ _ _ ran begins)⟩

theorem sleeps (h : Attempts b attempts act left i s tries o v)
    (kept : ∀ t ∈ tries, t.after.journal.sleeps = t.before.journal.sleeps) :
    ∃ ds, v.journal.sleeps = s.journal.sleeps ++ ds ∧ ds.length + 1 = tries.length ∧
      ∀ j d, ds[j]? = some d → b.delay (.int (i + j : Nat)) = .ok d := by
  induction h with
  | @again left i s u v f d o later ran transient pause rest ih =>
    have first : u.journal.sleeps = s.journal.sleeps := kept _ List.mem_cons_self
    obtain ⟨ds, hSleeps, hLength, hDelay⟩ := ih fun t ht => kept t (List.mem_cons_of_mem _ ht)
    refine ⟨d :: ds, ?_, congrArg (· + 1) hLength, ?_⟩
    · rw [hSleeps]
      simp [pausedSession, first, Journal.Event.sleep?, List.filterMap_cons]
    · intro j e he
      cases j with
      | zero =>
        obtain rfl : d = e := by simpa using he
        exact pause
      | succ j =>
        have hLater := hDelay j e (by simpa using he)
        rwa [show i + 1 + j = i + (j + 1) by omega] at hLater
  | success | hopeless | exhausted | unpaused =>
    have first := kept _ List.mem_cons_self
    refine ⟨[], ?_, rfl, by simp⟩
    simpa [Journal.Event.sleep?, List.filterMap_cons] using first

end Attempts

end

end Colloquy.Backoff

import Colloquy.Proofs.Outcome
import Colloquy.Proofs.Retry.Attempts
import Colloquy.Proofs.Retry.Range

/-! # Exhausted attempts

Where every attempt fails for a transient reason, there are as many as the policy allows, and the last
fault is what is left. But a pause is computed in full before it is capped. Where the power of its
factor is past the range of floating-point numbers there is no pause, and the attempts end there with
a fault of arithmetic.
-/
set_option autoImplicit false

namespace Colloquy

/-! ## Pauses -/

namespace Value

def Quantity.IsAmount : Quantity → Prop
  | .whole n => 0 ≤ n
  | .real x => x.isFinite = true ∧ ¬ x < 0.0

def IsAmount (v : Value) : Prop := ∃ x, v.quantity? = some x ∧ x.IsAmount

theorem toFloat_natCast (n : Nat) : (Binary64.limit ≤ n ∧ toFloat n = .error .overflow) ∨
    n < Binary64.limit ∧ ∃ x, toFloat n = .ok x ∧ Quantity.IsAmount (.real x) := by
  obtain ⟨past, none⟩ | ⟨within, x, nearest, amount⟩ := Binary64.ofInt?_natCast n
  · exact .inl ⟨past, by rw [toFloat, none]⟩
  · exact .inr ⟨within, x, by rw [toFloat, nearest], amount⟩

theorem floatPower_of_amounts {x y : Float} (hx : Quantity.IsAmount (.real x))
    (hy : Quantity.IsAmount (.real y)) : floatPower x y =
      if (Float.pow x y).isInf = true then .error .overflow else .ok (Float.pow x y) := by
  obtain ⟨finite, notNegative⟩ := hx
  obtain ⟨finite', notNegative'⟩ := hy
  unfold floatPower
  rw [if_neg (by simp [notNegative']), if_neg (by simp [notNegative])]
  simp only [finite, finite', and_true]

theorem times_of_whole {a b : Value} {m n : Int} (ha : a.quantity? = some (.whole m))
    (hb : b.quantity? = some (.whole n)) : a.times b = .ok (.int (m * n)) := by
  simp only [times, ha, hb]

theorem times_of_real {a b : Value} {x y : Quantity} (ha : a.quantity? = some x)
    (hb : b.quantity? = some y) (real : (∃ r, x = .real r) ∨ ∃ r, y = .real r) : a.times b =
      (x.toFloat >>= fun p => y.toFloat >>= fun q => .ok (.float (p * q))) := by
  simp only [times, ha, hb]
  obtain ⟨r, rfl⟩ | ⟨r, rfl⟩ := real
  · rfl
  · cases x <;> rfl

theorem less_of_quantities {a b : Value} {x y : Quantity} (hx : a.quantity? = some x)
    (hy : b.quantity? = some y) : a.less b = .ok (x.compare? y == some .lt) := by
  cases a with
  | bool p | int p | float p =>
    simp only [less, hx, hy]
  | _ => cases hx

theorem least_of_quantities {a b : Value} {x y : Quantity} (hx : a.quantity? = some x)
    (hy : b.quantity? = some y) : ∃ d, a.least b = .ok d := by
  rw [least, less_of_quantities hy hx]
  exact ⟨_, rfl⟩

end Value

namespace Backoff

structure Measured (b : Backoff) : Prop where
  base : b.base.IsAmount
  factor : b.factor.IsAmount
  cap : b.cap.IsAmount

/-- The pause after attempt `i`, before it is capped, needs a floating-point number that there is not. -/
inductive Bursts (b : Backoff) (i : Nat) : Prop where
  | growth {x : Float} {n : Int} (base : b.base.quantity? = some (.real x))
      (factor : b.factor.quantity? = some (.whole n)) (past : Binary64.limit ≤ n.toNat ^ i)
  /-- The power of two floating-point numbers is the machine's, and not known further. -/
  | power {y e : Float} (factor : b.factor.quantity? = some (.real y))
      (exponent : Value.toFloat i = .ok e) (past : (Float.pow y e).isInf = true)
  | exponent {y : Float} (factor : b.factor.quantity? = some (.real y)) (past : Binary64.limit ≤ i)
  | base {n : Int} {y : Float} (base : b.base.quantity? = some (.whole n))
      (factor : b.factor.quantity? = some (.real y)) (past : Binary64.limit ≤ n.toNat)

variable {b : Backoff}

theorem not_bursts_of_whole {m n : Int} (base : b.base.quantity? = some (.whole m))
    (factor : b.factor.quantity? = some (.whole n)) (i : Nat) : ¬ b.Bursts i := by
  rintro (⟨h, -, -⟩ | ⟨h, -, -⟩ | ⟨h, -⟩ | ⟨-, h, -⟩) <;> simp_all

theorem bursts_iff_of_whole_factor {x : Float} {n : Nat} (base : b.base.quantity? = some (.real x))
    (factor : b.factor.quantity? = some (.whole n)) (i : Nat) :
    b.Bursts i ↔ Binary64.limit ≤ n ^ i := by
  constructor
  · rintro (⟨-, h, past⟩ | ⟨h, -, -⟩ | ⟨h, -⟩ | ⟨-, h, -⟩) <;> rw [factor] at h <;> cases h
    exact past
  · exact .growth base factor

theorem power_of_whole {k : Nat} (factor : b.factor.quantity? = some (.whole k)) (i : Nat) :
    b.factor.power (.int i) = .ok (.int (k ^ i : Nat)) := by
  have exponent : (Value.int i).quantity? = some (.whole i) := rfl
  simp only [Value.power, factor, exponent, Int.natCast_nonneg, if_true, Value.intPower_eq,
    Int.toNat_natCast, Int.natCast_pow]
  rfl

theorem power_of_real {y : Float} (factor : b.factor.quantity? = some (.real y)) (i : Nat) :
    b.factor.power (.int i) =
      (Value.toFloat i >>= fun e => Value.floatPower y e >>= fun p => .ok (.float p)) := by
  have exponent : (Value.int i).quantity? = some (.whole i) := rfl
  simp only [Value.power, factor, exponent]
  rfl

def uncapped (b : Backoff) (attempt : Value) : Except NumberError Value :=
  b.factor.power attempt >>= b.base.times

theorem delay_of_uncapped {attempt pause : Value} {q : Value.Quantity}
    (computed : b.uncapped attempt = .ok pause) (number : pause.quantity? = some q)
    (measured : b.Measured) : ∃ d, b.delay attempt = .ok d := by
  obtain ⟨growth, grown, times⟩ := ok_of_bind computed
  obtain ⟨cap, hCap, -⟩ := measured.cap
  obtain ⟨d, capped⟩ := Value.least_of_quantities number hCap
  refine ⟨d, ?_⟩
  simp only [delay, grown, ok_bind, times, capped]
  rfl

theorem delay_of_overflow {attempt : Value} (h : b.uncapped attempt = .error .overflow) :
    b.delay attempt = .error (.number .overflow) := by
  obtain refused | ⟨growth, grown, past⟩ := error_of_bind h
  · simp only [delay, refused]
    rfl
  · simp only [delay, grown, ok_bind, past]
    rfl

theorem uncapped_of_whole {k : Nat} (factor : b.factor.quantity? = some (.whole k))
    (base : b.base.IsAmount) (i : Nat) :
    (¬ b.Bursts i ∧ ∃ p q, b.uncapped (.int i) = .ok p ∧ p.quantity? = some q) ∨
      b.Bursts i ∧ b.uncapped (.int i) = .error .overflow := by
  obtain ⟨x, hBase, -⟩ := base
  have growth : (Value.int (k ^ i : Nat)).quantity? = some (.whole (k ^ i : Nat)) := rfl
  rw [uncapped, power_of_whole factor, ok_bind]
  cases x with
  | whole m =>
    exact .inl ⟨not_bursts_of_whole hBase factor i, _, _, Value.times_of_whole hBase growth, rfl⟩
  | real r =>
    rw [Value.times_of_real hBase growth (.inl ⟨r, rfl⟩)]
    obtain ⟨past, overflow⟩ | ⟨within, e, nearest, -⟩ := Value.toFloat_natCast (k ^ i)
    · refine .inr ⟨(bursts_iff_of_whole_factor hBase factor i).mpr past, ?_⟩
      rw [show (Value.Quantity.whole (k ^ i : Nat)).toFloat = _ from overflow]
      rfl
    · refine .inl ⟨?_, .float (r * e), .real (r * e), ?_, rfl⟩
      · rw [bursts_iff_of_whole_factor hBase factor i]
        omega
      · rw [show (Value.Quantity.whole (k ^ i : Nat)).toFloat = _ from nearest]
        rfl

theorem uncapped_of_real {y : Float} (factor : b.factor.quantity? = some (.real y))
    (amount : Value.Quantity.IsAmount (.real y)) (base : b.base.IsAmount) (i : Nat) :
    (¬ b.Bursts i ∧ ∃ p q, b.uncapped (.int i) = .ok p ∧ p.quantity? = some q) ∨
      b.Bursts i ∧ b.uncapped (.int i) = .error .overflow := by
  obtain ⟨x, hBase, baseAmount⟩ := base
  rw [uncapped, power_of_real factor]
  obtain ⟨past, overflow⟩ | ⟨within, e, nearest, exponent⟩ := Value.toFloat_natCast i
  · refine .inr ⟨.exponent factor past, ?_⟩
    rw [overflow]
    rfl
  rw [nearest, ok_bind, Value.floatPower_of_amounts amount exponent]
  by_cases infinite : (Float.pow y e).isInf = true
  · rw [if_pos infinite]
    exact .inr ⟨.power factor nearest infinite, rfl⟩
  rw [if_neg infinite, ok_bind, ok_bind,
    Value.times_of_real hBase (y := .real (Float.pow y e)) rfl (.inr ⟨_, rfl⟩)]
  cases x with
  | whole m =>
    obtain ⟨n, rfl⟩ := Int.eq_ofNat_of_zero_le baseAmount
    obtain ⟨past, overflow⟩ | ⟨small, p, rounded, -⟩ := Value.toFloat_natCast n
    · refine .inr ⟨.base hBase factor past, ?_⟩
      rw [show (Value.Quantity.whole n).toFloat = _ from overflow]
      rfl
    · refine .inl ⟨?_, .float (p * Float.pow y e), _, ?_, rfl⟩
      · rintro (⟨hx, hy, past⟩ | ⟨hy, he, past⟩ | ⟨hy, past⟩ | ⟨hx, hy, past⟩) <;> simp_all <;> omega
      · rw [show (Value.Quantity.whole n).toFloat = _ from rounded]
        rfl
  | real r =>
    refine .inl ⟨?_, .float (r * Float.pow y e), _, rfl, rfl⟩
    rintro (⟨hx, hy, past⟩ | ⟨hy, he, past⟩ | ⟨hy, past⟩ | ⟨hx, hy, past⟩) <;> simp_all
    omega

/-- Whole pauses have no bounds, and others only those of floating-point numbers. -/
theorem delay_cases (measured : b.Measured) (i : Nat) :
    (¬ b.Bursts i ∧ ∃ d, b.delay (.int i) = .ok d) ∨
      b.Bursts i ∧ b.delay (.int i) = .error (.number .overflow) := by
  have computed : (¬ b.Bursts i ∧ ∃ p q, b.uncapped (.int i) = .ok p ∧ p.quantity? = some q) ∨
      b.Bursts i ∧ b.uncapped (.int i) = .error .overflow := by
    obtain ⟨y, hFactor, factorAmount⟩ := measured.factor
    cases y with
    | whole n =>
      obtain ⟨k, rfl⟩ := Int.eq_ofNat_of_zero_le factorAmount
      exact uncapped_of_whole hFactor measured.base i
    | real y => exact uncapped_of_real hFactor factorAmount measured.base i
  obtain ⟨calm, p, q, pause, number⟩ | ⟨bursts, past⟩ := computed
  · exact .inl ⟨calm, delay_of_uncapped pause number measured⟩
  · exact .inr ⟨bursts, delay_of_overflow past⟩

/-! ## Attempts that all fail -/

section

variable {τ α : Type} {attempts left i : Nat} {act : Run (Session τ) α} {s v : Session τ}
  {tries : List (Attempt τ α)} {o : Except Fault α}

namespace Attempts

theorem exhausted_of_paused (h : Attempts b attempts act left i s tries o v)
    (fails : ∀ t ∈ tries, Transient t.outcome)
    (paused : ∀ j, j < left → ∃ d, b.delay (.int (i + j : Nat)) = .ok d) :
    tries.length = left + 1 ∧ ∃ t, tries.getLast? = some t ∧ o = t.outcome := by
  obtain ⟨t, last, outcome, all | settled⟩ := h.last paused
  · exact ⟨all, t, last, outcome⟩
  · exact absurd (fails t (List.mem_of_getLast? last)) settled

/-- The first pause that is not defined ends the attempts with its own fault. -/
theorem stopped_of_unpaused (h : Attempts b attempts act left i s tries o v)
    (fails : ∀ t ∈ tries, Transient t.outcome) {k : Nat} {g : Fault} (more : k < left)
    (paused : ∀ j, j < k → ∃ d, b.delay (.int (i + j : Nat)) = .ok d)
    (unpaused : b.delay (.int (i + k : Nat)) = .error g) : tries.length = k + 1 ∧ o = .error g := by
  induction h generalizing k with
  | success ran => exact absurd (fails _ List.mem_cons_self) (not_transient_ok _)
  | hopeless ran lasting =>
    have transient := (transient_error_iff _).mp (fails _ List.mem_cons_self)
    rw [lasting] at transient
    cases transient
  | exhausted ran transient => exact absurd more (Nat.not_lt_zero k)
  | unpaused ran transient pause =>
    cases k with
    | zero =>
      rw [Nat.add_zero, pause] at unpaused
      exact ⟨rfl, congrArg Except.error (Except.error.inj unpaused)⟩
    | succ k =>
      obtain ⟨d, hd⟩ := paused 0 (Nat.succ_pos k)
      rw [Nat.add_zero, pause] at hd
      cases hd
  | @again left i s u v f d o later ran transient pause rest ih =>
    cases k with
    | zero =>
      rw [Nat.add_zero, pause] at unpaused
      cases unpaused
    | succ k =>
      have shift (j : Nat) : i + 1 + j = i + (j + 1) := by omega
      obtain ⟨hLength, hOutcome⟩ := ih (fun t ht => fails t (List.mem_cons_of_mem _ ht))
        (Nat.lt_of_succ_lt_succ more) (fun j hj => shift j ▸ paused (j + 1) (Nat.succ_lt_succ hj))
        (shift k ▸ unpaused)
      exact ⟨congrArg (· + 1) hLength, hOutcome⟩

end Attempts

theorem check_of_positive {most : Nat} (counted : b.maxAttempts = .int most) (positive : 1 ≤ most) :
    b.check = .ok b := by
  have enough : b.maxAttempts.less (.int 1) = .ok false := by
    rw [counted]
    change Except.ok (compare (most : Int) 1 == .lt) = _
    rw [beq_eq_false_iff_ne.mpr]
    rw [Ne, compare_lt_iff_lt]
    omega
  rw [check, enough]
  rfl

theorem exec_execute_of_counted {most : Nat} (counted : b.maxAttempts = .int most)
    (positive : 1 ≤ most) (act : Run (Session τ) α) (s : Session τ) :
    (b.execute act).exec s = (tryAgain b most act (most - 1) 0).exec s := by
  obtain ⟨left, rfl⟩ : ∃ left, most = left + 1 := ⟨most - 1, by omega⟩
  refine exec_execute ?_ act s
  rw [Backoff.attempts, counted]
  rfl

theorem delay_of_calm (measured : b.Measured) (calm : ¬ b.Bursts i) : ∃ d, b.delay (.int i) = .ok d := by
  obtain ⟨-, paused⟩ | ⟨bursts, -⟩ := delay_cases measured i
  · exact paused
  · exact absurd bursts calm

theorem delay_of_bursts (measured : b.Measured) (bursts : b.Bursts i) :
    b.delay (.int i) = .error (.number .overflow) := by
  obtain ⟨calm, -⟩ | ⟨-, past⟩ := delay_cases measured i
  · exact absurd bursts calm
  · exact past

/-- Attempts that all fail for a transient reason are as many as there may be, and end with the fault
of the last, unless a pause between them bursts: the first that does ends them with a fault of its
own. -/
theorem execute_exhausted {most : Nat} (counted : b.maxAttempts = .int most) (positive : 1 ≤ most)
    (measured : b.Measured) (act : Run (Session τ) α) (s : Session τ) :
    b.check = .ok b ∧
    (∀ i : Nat, (¬ b.Bursts i ∧ ∃ d, b.delay (.int i) = .ok d) ∨
      b.Bursts i ∧ b.delay (.int i) = .error (.number .overflow)) ∧
    ∃ tries o u, Attempts b most act (most - 1) 0 s tries o u ∧
      (b.execute act).exec s = (o, u) ∧
      ((∀ t ∈ tries, Transient t.outcome) →
        ((∀ i, i + 1 < most → ¬ b.Bursts i) →
          tries.length = most ∧ ∃ t, tries.getLast? = some t ∧ o = t.outcome) ∧
        ∀ i, i + 1 < most → b.Bursts i → (∀ j, j < i → ¬ b.Bursts j) →
          tries.length = i + 1 ∧ o = .error (.number .overflow)) := by
  obtain ⟨tries, o, u, series, ran⟩ := exists_attempts b most act (most - 1) 0 s
  refine ⟨check_of_positive counted positive, delay_cases measured, tries, o, u, series, ?_, ?_⟩
  · rw [exec_execute_of_counted counted positive, ran]
  intro fails
  constructor
  · intro calm
    obtain ⟨hLength, last⟩ := series.exhausted_of_paused fails fun j hj => by
      rw [Nat.zero_add]
      exact delay_of_calm measured (calm j (by omega))
    exact ⟨by omega, last⟩
  · intro i more bursts calm
    refine series.stopped_of_unpaused fails (by omega) ?_ ?_
    · intro j hj
      rw [Nat.zero_add]
      exact delay_of_calm measured (calm j hj)
    · rw [Nat.zero_add]
      exact delay_of_bursts measured bursts

end

def tenfold (most : Nat) : Backoff where
  maxAttempts := .int most
  factor := .int 10

theorem counted_tenfold (most : Nat) : (tenfold most).maxAttempts = .int most := rfl

theorem measured_tenfold (most : Nat) : (tenfold most).Measured := by
  have one : Value.Quantity.IsAmount (.real 1.0) := by
    constructor <;> decide +kernel
  have thirty : Value.Quantity.IsAmount (.real 30.0) := by
    constructor <;> decide +kernel
  exact ⟨⟨_, rfl, one⟩, ⟨.whole 10, rfl, by simp [Value.Quantity.IsAmount]⟩, ⟨_, rfl, thirty⟩⟩

theorem bursts_tenfold_iff (most i : Nat) : (tenfold most).Bursts i ↔ Binary64.limit ≤ 10 ^ i :=
  bursts_iff_of_whole_factor (n := 10) rfl rfl i

theorem not_bursts_tenfold (most : Nat) {i : Nat} (small : i ≤ 308) : ¬ (tenfold most).Bursts i := by
  rw [bursts_tenfold_iff, Nat.not_le]
  calc
    10 ^ i ≤ 10 ^ 308 := Nat.pow_le_pow_right (by decide) small
    _ < Binary64.limit := by decide +kernel

theorem bursts_tenfold (most : Nat) : (tenfold most).Bursts 309 := by
  rw [bursts_tenfold_iff]
  decide +kernel

def busy : Run (Session Unit) Unit :=
  throw (.transient "busy" .null)

theorem Attempts.outcome_busy {most : Nat} {s v : Session Unit} {left i : Nat}
    {tries : List (Attempt Unit Unit)} {o : Except Fault Unit}
    (series : Attempts b most busy left i s tries o v) :
    ∀ t ∈ tries, t.outcome = .error (.transient "busy" .null) := by
  intro t ht
  have ran := series.ran t ht
  exact (congrArg Prod.fst ran).symm

theorem execute_exhausted_tenfold : ∃ tries o u,
    Attempts (tenfold 310) 310 busy 309 0 { link := () } tries o u ∧
    ((tenfold 310).execute busy).exec { link := () } = (o, u) ∧
    tries.length = 310 ∧ o = .error (.transient "busy" .null) := by
  obtain ⟨-, -, tries, o, u, series, ran, law⟩ :=
    execute_exhausted (counted_tenfold 310) (by decide) (measured_tenfold 310) busy { link := () }
  have fails := series.outcome_busy
  obtain ⟨exhausted, -⟩ := law fun t ht => ⟨_, fails t ht, rfl⟩
  obtain ⟨all, t, last, outcome⟩ := exhausted fun i hi => not_bursts_tenfold 310 (by omega)
  exact ⟨tries, o, u, series, ran, all, outcome.trans (fails t (List.mem_of_getLast? last))⟩

/-- With one attempt more, that one is never made, and the fault at the end is none of the service's. -/
theorem not_exhausted_tenfold : (tenfold 311).check = .ok (tenfold 311) ∧ (tenfold 311).Measured ∧
    ∃ tries o u, Attempts (tenfold 311) 311 busy 310 0 { link := () } tries o u ∧
      ((tenfold 311).execute busy).exec { link := () } = (o, u) ∧
      (∀ t ∈ tries, t.outcome = .error (.transient "busy" .null)) ∧
      tries.length = 310 ∧ o = .error (.number .overflow) := by
  have measured := measured_tenfold 311
  obtain ⟨tries, o, u, series, ran⟩ := exists_attempts (tenfold 311) 311 busy 310 0 { link := () }
  have fails := series.outcome_busy
  have bursts : (tenfold 311).delay (.int (0 + 309 : Nat)) = .error (.number .overflow) :=
    delay_of_bursts measured (bursts_tenfold 311)
  refine ⟨check_of_positive (counted_tenfold 311) (by decide), measured, tries, o, u, series, ?_, fails, ?_⟩
  · rw [exec_execute_of_counted (counted_tenfold 311) (by decide), ran]
  · refine series.stopped_of_unpaused (fun t ht => ⟨_, fails t ht, rfl⟩) (by decide) ?_ bursts
    intro j hj
    rw [Nat.zero_add]
    exact delay_of_calm measured (not_bursts_tenfold 311 (by omega))

end Backoff
end Colloquy

import Colloquy.Value

/-! # Values that agree

Floating-point numbers keep equality of values from being decidable. Values without them, and without
what JSON has no form for, can be compared all the same, so what a reader makes of a fixed text can be
found out by running it.
-/
set_option autoImplicit false

namespace Colloquy.Value

mutual

def agrees (a b : Value) : Bool :=
  match a with
  | null => b.isNull
  | bool p => match b with
    | bool q => decide (p = q)
    | _ => false
  | int m => match b with
    | int n => decide (m = n)
    | _ => false
  | str s => match b with
    | str t => decide (s = t)
    | _ => false
  | list xs => match b with
    | list ys => agreeItems xs ys
    | _ => false
  | object ms => match b with
    | object ns => agreeMembers ms ns
    | _ => false
  | table es => match b with
    | table fs => agreeEntries es fs
    | _ => false
  | _ => false
termination_by structural a

def agreeItems : List Value → List Value → Bool
  | [], ys => ys.isEmpty
  | x :: xs, ys => match ys with
    | [] => false
    | y :: ys => agrees x y && agreeItems xs ys
termination_by structural xs => xs

def agreeMembers : List (String × Value) → List (String × Value) → Bool
  | [], ns => ns.isEmpty
  | (k, v) :: rest, ns => match ns with
    | [] => false
    | (l, w) :: ns => decide (k = l) && agrees v w && agreeMembers rest ns
termination_by structural ms => ms

def agreeEntries : List (Value × Value) → List (Value × Value) → Bool
  | [], fs => fs.isEmpty
  | (k, v) :: rest, fs => match fs with
    | [] => false
    | (l, w) :: fs => agrees k l && agrees v w && agreeEntries rest fs
termination_by structural es => es

end

mutual

theorem eq_of_agrees {a b : Value} (h : agrees a b = true) : a = b := by
  match a with
  | null => exact (eq_null_of_isNull (by simpa [agrees] using h)).symm
  | bool p | int p | str p =>
    cases b <;> simp_all [agrees]
  | list xs =>
    cases b with
    | list ys => exact congrArg list (eq_of_agreeItems (by simpa [agrees] using h))
    | _ => simp [agrees] at h
  | object ms =>
    cases b with
    | object ns => exact congrArg object (eq_of_agreeMembers (by simpa [agrees] using h))
    | _ => simp [agrees] at h
  | table es =>
    cases b with
    | table fs => exact congrArg table (eq_of_agreeEntries (by simpa [agrees] using h))
    | _ => simp [agrees] at h
  | float x | set xs | pair x y | atom x => simp [agrees] at h
termination_by structural a

theorem eq_of_agreeItems {xs ys : List Value} (h : agreeItems xs ys = true) : xs = ys := by
  match xs, ys with
  | [], [] => rfl
  | [], y :: ys => simp [agreeItems] at h
  | x :: xs, [] => simp [agreeItems] at h
  | x :: xs, y :: ys =>
    simp only [agreeItems, Bool.and_eq_true] at h
    rw [eq_of_agrees h.1, eq_of_agreeItems h.2]
termination_by structural xs

theorem eq_of_agreeMembers {ms ns : List (String × Value)} (h : agreeMembers ms ns = true) :
    ms = ns := by
  match ms, ns with
  | [], [] => rfl
  | [], n :: ns => simp [agreeMembers] at h
  | m :: ms, [] => simp [agreeMembers] at h
  | (k, v) :: ms, (l, w) :: ns =>
    simp only [agreeMembers, Bool.and_eq_true, decide_eq_true_eq] at h
    rw [h.1.1, eq_of_agrees h.1.2, eq_of_agreeMembers h.2]
termination_by structural ms

theorem eq_of_agreeEntries {es fs : List (Value × Value)} (h : agreeEntries es fs = true) : es = fs := by
  match es, fs with
  | [], [] => rfl
  | [], f :: fs => simp [agreeEntries] at h
  | e :: es, [] => simp [agreeEntries] at h
  | (k, v) :: es, (l, w) :: fs =>
    simp only [agreeEntries, Bool.and_eq_true] at h
    rw [eq_of_agrees h.1.1, eq_of_agrees h.1.2, eq_of_agreeEntries h.2]
termination_by structural es

end

theorem eq_ok_of_agrees {ε : Type} {outcome : Except ε Value} {v : Value}
    (h : outcome.toOption.any (·.agrees v) = true) : outcome = .ok v := by
  cases outcome with
  | error e => cases h
  | ok w => exact congrArg Except.ok (eq_of_agrees h)

end Colloquy.Value

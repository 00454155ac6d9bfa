import Mathlib.Data.Nat.Notation
import Mathlib.Tactic.Common

/-!
# Tables of descriptors

A process refers to its open files by numbers.  What is opened gets the lowest number that is free,
and a number that has been closed is free again, so that a number kept for too long may come to
refer to another file.
-/

namespace Processes

/-- What the numbers of a process refer to.  All numbers behind the end of the list are free. -/
abbrev Descriptors (φ : Type) := List (Option φ)

namespace Descriptors

variable {φ : Type}

def lookup : Descriptors φ → ℕ → Option φ
  | [], _ => none
  | entry :: _, 0 => entry
  | _ :: t, n + 1 => lookup t n

/-- The lowest number that is free. -/
def lowest : Descriptors φ → ℕ
  | [] => 0
  | none :: _ => 0
  | some _ :: t => lowest t + 1

/-- The table after a file has been opened. -/
def opened : Descriptors φ → φ → Descriptors φ
  | [], f => [some f]
  | none :: t, f => some f :: t
  | some g :: t, f => some g :: opened t f

/-- The table after a number has been closed. -/
def closed : Descriptors φ → ℕ → Descriptors φ
  | [], _ => []
  | _ :: t, 0 => none :: t
  | entry :: t, n + 1 => entry :: closed t n

@[simp] theorem lookup_nil (n : ℕ) : lookup ([] : Descriptors φ) n = none := rfl

@[simp] theorem lookup_lowest (t : Descriptors φ) : lookup t (lowest t) = none := by
  induction t with
  | nil => rfl
  | cons entry t ih =>
    cases entry with
    | none => rfl
    | some g => exact ih

/-- Below the lowest free number all numbers are in use. -/
theorem lookup_ne_none {t : Descriptors φ} {n : ℕ} (h : n < lowest t) : lookup t n ≠ none := by
  induction t generalizing n with
  | nil => exact absurd h (Nat.not_lt_zero n)
  | cons entry t ih =>
    cases entry with
    | none => exact absurd h (Nat.not_lt_zero n)
    | some g =>
      cases n with
      | zero => exact Option.some_ne_none g
      | succ n => exact ih (Nat.lt_of_succ_lt_succ h)

@[simp] theorem lookup_opened (t : Descriptors φ) (f : φ) (n : ℕ) :
    lookup (opened t f) n = if n = lowest t then some f else lookup t n := by
  induction t generalizing n with
  | nil =>
    cases n with
    | zero => rfl
    | succ n => rw [if_neg (show n + 1 ≠ lowest ([] : Descriptors φ) from Nat.succ_ne_zero n)]; rfl
  | cons entry t ih =>
    cases entry with
    | none =>
      cases n with
      | zero => rfl
      | succ n => rw [if_neg (show n + 1 ≠ lowest (none :: t) from Nat.succ_ne_zero n)]; rfl
    | some g =>
      cases n with
      | zero => rw [if_neg (show 0 ≠ lowest (some g :: t) from (Nat.succ_ne_zero _).symm)]; rfl
      | succ n =>
        show lookup (opened t f) n = if n + 1 = lowest t + 1 then some f else lookup t n
        rw [ih n]
        simp only [Nat.add_right_cancel_iff]

@[simp] theorem lookup_closed (t : Descriptors φ) (n m : ℕ) :
    lookup (closed t n) m = if m = n then none else lookup t m := by
  induction t generalizing n m with
  | nil => simp only [closed, lookup_nil, ite_self]
  | cons entry t ih =>
    cases n with
    | zero =>
      cases m with
      | zero => rfl
      | succ m => rw [if_neg (Nat.succ_ne_zero m)]; rfl
    | succ n =>
      cases m with
      | zero => rw [if_neg (Nat.succ_ne_zero n).symm]; rfl
      | succ m =>
        show lookup (closed t n) m = if m + 1 = n + 1 then none else lookup t m
        rw [ih n m]
        simp only [Nat.add_right_cancel_iff]

end Descriptors

end Processes

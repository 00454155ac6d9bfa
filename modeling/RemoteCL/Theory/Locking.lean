import Mathlib.Data.Nat.Notation
import Mathlib.Logic.Function.Basic
import Mathlib.Logic.Relation

/-!
# Threads that lock mutexes

A thread is given by what it still has to do: a list of actions, which lock a mutex, unlock it, or
do something else.  The mutexes are not recursive.  A thread waits for another if its next action
locks a mutex that the other one holds, and threads that wait for each other in a circle are
deadlocked; a thread that waits for itself is the smallest circle.

`WellLocked` says of a list of actions that it locks only what is not held, unlocks only what is
held, and holds nothing at its end.  A thread with such a list never waits for itself.  With two
mutexes there is only one more kind of circle: two threads, each of which holds the mutex that the
other one wants (`State.not_deadlocked`).
-/

namespace Locking

variable {τ μ κ : Type}

/-- What a thread does next. -/
inductive Action (μ κ : Type) where
  | lock (m : μ)
  | unlock (m : μ)
  | other (k : κ)
  deriving DecidableEq

/-- What the threads have to do, and which thread holds a mutex. -/
structure State (τ μ κ : Type) where
  code : τ → List (Action μ κ)
  holder : μ → Option τ

/-! ## Well-locked lists -/

/-- The mutexes are used properly by a thread that holds those of `H`. -/
def WellLocked : List (Action μ κ) → (μ → Prop) → Prop
  | [], H => ∀ m, ¬ H m
  | .lock m :: s, H => ¬ H m ∧ WellLocked s fun m' => m' = m ∨ H m'
  | .unlock m :: s, H => H m ∧ WellLocked s fun m' => m' ≠ m ∧ H m'
  | .other _ :: s, H => WellLocked s H

theorem WellLocked.congr {s : List (Action μ κ)} {H H' : μ → Prop} (h : WellLocked s H)
    (hH : ∀ m, H m ↔ H' m) : WellLocked s H' :=
  (funext fun m => propext (hH m)) ▸ h

/-- A mutex that has been locked and unlocked again. -/
theorem WellLocked.released {s : List (Action μ κ)} {H : μ → Prop} {m : μ}
    (h : WellLocked s H) (hm : ¬ H m) : WellLocked s fun m' => m' ≠ m ∧ (m' = m ∨ H m') := by
  refine h.congr fun m' => ⟨fun hm' => ⟨?_, Or.inr hm'⟩, fun hm' => hm'.2.resolve_left hm'.1⟩
  rintro rfl
  exact hm hm'

namespace State

variable (x : State τ μ κ)

def Holds (t : τ) (m : μ) : Prop := x.holder m = some t

/-- The thread cannot go on without the mutex. -/
def Wants (t : τ) (m : μ) : Prop := (x.code t).head? = some (.lock m)

def WaitsFor (t t' : τ) : Prop := ∃ m, x.Wants t m ∧ x.Holds t' m

/-- There is a circle of threads that wait for each other. -/
def Deadlocked : Prop := ∃ t, Relation.TransGen x.WaitsFor t t

/-- All threads use the mutexes properly. -/
def Balanced : Prop := ∀ t, WellLocked (x.code t) (x.Holds t)

variable {x}

theorem Balanced.not_holds (h : x.Balanced) {t : τ} {m : μ} (hm : x.Wants t m) :
    ¬ x.Holds t m := by
  have ht := h t
  rw [Wants] at hm
  cases hcode : x.code t with
  | nil =>
    rw [hcode] at hm
    cases hm
  | cons a s =>
    rw [hcode, List.head?_cons, Option.some.injEq] at hm
    rw [hcode, hm] at ht
    exact ht.1

/-- A thread in a circle waits for the next one, which is in a circle too. -/
theorem exists_waitsFor {t : τ} (h : Relation.TransGen x.WaitsFor t t) :
    ∃ t', x.WaitsFor t t' ∧ Relation.TransGen x.WaitsFor t' t' := by
  obtain ⟨t', ht, hback⟩ := Relation.TransGen.head'_iff.mp h
  exact ⟨t', ht, Relation.TransGen.tail' hback ht⟩

/-- With two mutexes, threads are deadlocked only if there are two of them that hold what the other
one wants. -/
theorem not_deadlocked (h : x.Balanced) (htwo : ∀ m m' m'' : μ, m = m' ∨ m' = m'' ∨ m = m'')
    (hpair : ∀ t t' m m', x.Wants t m → x.Holds t' m → x.Wants t' m' → ¬ x.Holds t m') :
    ¬ x.Deadlocked := by
  rintro ⟨t₀, hcircle⟩
  obtain ⟨t₁, ⟨m₀, -, hholds₁⟩, hcircle⟩ := exists_waitsFor hcircle
  obtain ⟨t₂, ⟨m₁, hwants₁, hholds₂⟩, hcircle⟩ := exists_waitsFor hcircle
  obtain ⟨t₃, ⟨m₂, hwants₂, -⟩, -⟩ := exists_waitsFor hcircle
  -- `t₁` holds `m₀` and wants `m₁`, and `t₂` holds `m₁` and wants `m₂`
  rcases htwo m₀ m₁ m₂ with heq | heq | heq
  · exact h.not_holds hwants₁ (heq ▸ hholds₁)
  · exact h.not_holds hwants₂ (heq ▸ hholds₂)
  · exact hpair t₁ t₂ m₁ m₂ hwants₁ hholds₂ hwants₂ (heq ▸ hholds₁)

/-! ## Steps -/

variable [DecidableEq τ] {t t' : τ} {m m' : μ} {s : List (Action μ κ)}

/-- A thread goes on with other things. -/
def goesOn (x : State τ μ κ) (t : τ) (s : List (Action μ κ)) : State τ μ κ :=
  { x with code := Function.update x.code t s }

@[simp] theorem code_goesOn_self : (x.goesOn t s).code t = s := Function.update_self ..

theorem code_goesOn_of_ne (h : t' ≠ t) : (x.goesOn t s).code t' = x.code t' :=
  Function.update_of_ne h ..

@[simp] theorem holds_goesOn : (x.goesOn t s).Holds t' m ↔ x.Holds t' m := Iff.rfl

theorem Balanced.goesOn (h : x.Balanced) (hs : WellLocked s (x.Holds t)) :
    (x.goesOn t s).Balanced := by
  intro t'
  by_cases ht : t' = t
  · subst ht
    rw [code_goesOn_self]
    exact hs
  · rw [code_goesOn_of_ne ht]
    exact h t'

variable [DecidableEq μ]

/-- A thread locks a mutex. -/
def locks (x : State τ μ κ) (t : τ) (m : μ) (s : List (Action μ κ)) : State τ μ κ :=
  { code := Function.update x.code t s, holder := Function.update x.holder m (some t) }

@[simp] theorem code_locks_self : (x.locks t m s).code t = s := Function.update_self ..

theorem code_locks_of_ne (h : t' ≠ t) : (x.locks t m s).code t' = x.code t' :=
  Function.update_of_ne h ..

theorem holds_locks (hfree : x.holder m = none) :
    (x.locks t m s).Holds t' m' ↔ (m' = m ∧ t' = t) ∨ x.Holds t' m' := by
  show Function.update x.holder m (some t) m' = some t' ↔ _
  by_cases hm : m' = m
  · subst hm
    rw [Function.update_self, Option.some.injEq, Holds, hfree]
    simp [eq_comm]
  · rw [Function.update_of_ne hm]
    simp [hm, Holds]

theorem Balanced.locks (h : x.Balanced) (hcode : x.code t = .lock m :: s)
    (hfree : x.holder m = none) : (x.locks t m s).Balanced := by
  intro t'
  by_cases ht : t' = t
  · subst ht
    have hcode' := h t'
    rw [hcode] at hcode'
    rw [code_locks_self]
    exact hcode'.2.congr fun m' => by simp [holds_locks hfree]
  · rw [code_locks_of_ne ht]
    exact (h t').congr fun m' => by simp [holds_locks hfree, ht]

/-- A thread unlocks a mutex. -/
def unlocks (x : State τ μ κ) (t : τ) (m : μ) (s : List (Action μ κ)) : State τ μ κ :=
  { code := Function.update x.code t s, holder := Function.update x.holder m none }

@[simp] theorem code_unlocks_self : (x.unlocks t m s).code t = s := Function.update_self ..

theorem code_unlocks_of_ne (h : t' ≠ t) : (x.unlocks t m s).code t' = x.code t' :=
  Function.update_of_ne h ..

@[simp] theorem holder_unlocks_self : (x.unlocks t m s).holder m = none :=
  Function.update_self ..

theorem holds_unlocks : (x.unlocks t m s).Holds t' m' ↔ m' ≠ m ∧ x.Holds t' m' := by
  show Function.update x.holder m none m' = some t' ↔ _
  by_cases hm : m' = m
  · subst hm
    simp
  · rw [Function.update_of_ne hm]
    simp [hm, Holds]

theorem Balanced.unlocks (h : x.Balanced) (hcode : x.code t = .unlock m :: s) :
    (x.unlocks t m s).Balanced := by
  intro t'
  have hcode' := h t
  rw [hcode] at hcode'
  by_cases ht : t' = t
  · subst ht
    rw [code_unlocks_self]
    exact hcode'.2.congr fun m' => holds_unlocks.symm
  · rw [code_unlocks_of_ne ht]
    refine (h t').congr fun m' => ?_
    rw [holds_unlocks]
    refine ⟨fun hm => ⟨?_, hm⟩, fun hm => hm.2⟩
    rintro rfl
    exact ht (Option.some.inj (hm.symm.trans hcode'.1))

end State

end Locking

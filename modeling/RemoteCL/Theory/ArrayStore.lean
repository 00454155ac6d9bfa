import Mathlib.Data.List.Basic
import Mathlib.Logic.Function.Basic

/-!
# Commands on arrays

An array can be written, filled with a pattern, and read, in a part of it that is given by an
offset and a size.  A command applies to an array if that part lies in it.  Then what is read is as
long as was asked for.

An array can also be written through a pointer that is advanced from entry to entry.  Then the
entries are those that were written, in their order, and the others have not changed.
-/

namespace ArrayStore

variable {α : Type}

/-- The part of an array at an offset. -/
def slice (array : List α) (offset size : ℕ) : List α := (array.drop offset).take size

/-- An array with the part at an offset replaced. -/
def overwrite (array : List α) (offset : ℕ) (data : List α) : List α :=
  array.take offset ++ (data ++ array.drop (offset + data.length))

/-- A pattern, over and over. -/
def repeated (pattern : List α) (n : ℕ) : List α := (List.replicate n pattern).flatten

theorem length_slice {array : List α} {offset size : ℕ} (h : offset + size ≤ array.length) :
    (slice array offset size).length = size := by
  rw [slice, List.length_take, List.length_drop]
  omega

/-- Commands on an array. -/
inductive Command (α : Type) where
  | write (offset : ℕ) (data : List α)
  | fill (pattern : List α) (offset size : ℕ)
  | read (offset size : ℕ)
  deriving DecidableEq

namespace Command

/-- The part of the array that the command is about lies in the array.  A pattern fits into its part
a whole number of times. -/
def Applies (array : List α) : Command α → Prop
  | write offset data => offset + data.length ≤ array.length
  | fill pattern offset size =>
    0 < pattern.length ∧ pattern.length ∣ offset ∧ pattern.length ∣ size ∧
      offset + size ≤ array.length
  | read offset size => offset + size ≤ array.length

instance (array : List α) (c : Command α) : Decidable (c.Applies array) := by
  cases c <;> unfold Applies <;> infer_instance

/-- The array after the command. -/
def result (array : List α) : Command α → List α
  | write offset data => overwrite array offset data
  | fill pattern offset size => overwrite array offset (repeated pattern (size / pattern.length))
  | read _ _ => array

/-- What the command delivers. -/
def output (array : List α) : Command α → List α
  | read offset size => slice array offset size
  | _ => []

theorem length_output_read {array : List α} {offset size : ℕ}
    (h : (read offset size).Applies array) : (output array (read offset size)).length = size :=
  length_slice h

end Command

/-! ## Writing entry after entry -/

/-- An array, and how far a pointer into it has been advanced. -/
structure Cursor (α : Type) where
  entries : ℕ → α
  next : ℕ

namespace Cursor

/-- An entry is written, and the pointer is advanced. -/
def put (c : Cursor α) (a : α) : Cursor α where
  entries := Function.update c.entries c.next a
  next := c.next + 1

/-- Several entries. -/
def putAll (c : Cursor α) (as : List α) : Cursor α := as.foldl put c

@[simp] theorem putAll_cons (c : Cursor α) (a : α) (as : List α) :
    c.putAll (a :: as) = (c.put a).putAll as := rfl

/-- **The frame**: no other entries are written. -/
theorem entries_putAll_of_not {c : Cursor α} {as : List α} {i : ℕ}
    (h : i < c.next ∨ c.next + as.length ≤ i) : (c.putAll as).entries i = c.entries i := by
  induction as generalizing c with
  | nil => rfl
  | cons a as ih =>
    rw [List.length_cons] at h
    have hnext : (c.put a).next = c.next + 1 := rfl
    have hne : i ≠ c.next := by omega
    rw [putAll_cons, ih (by omega)]
    exact Function.update_of_ne hne a c.entries

/-- **The order**: each entry is at its place. -/
theorem entries_putAll_add {c : Cursor α} {as : List α} {i : ℕ} (hi : i < as.length) :
    (c.putAll as).entries (c.next + i) = as[i] := by
  induction as generalizing c i with
  | nil => exact absurd hi (Nat.not_lt_zero i)
  | cons a as ih =>
    rw [putAll_cons]
    cases i with
    | zero =>
      -- the pointer is past it
      have hpast : c.next < (c.put a).next := Nat.lt_succ_self _
      rw [Nat.add_zero, entries_putAll_of_not (Or.inl hpast)]
      exact Function.update_self c.next a c.entries
    | succ i =>
      have hnext : c.next + (i + 1) = (c.put a).next + i := (Nat.add_right_comm c.next 1 i).symm
      rw [hnext]
      exact ih (Nat.lt_of_succ_lt_succ hi)

end Cursor

end ArrayStore

import Mathlib.Data.List.Basic
import Mathlib.Tactic.Ring

/-!
# Readers of a byte stream

A reader is a program whose only effect is "block until `n` more bytes have arrived, and hand
them to me".  It is a tree: each node names a count, and the bytes delivered decide which node
comes next.  Everything a decoder built on a blocking socket can do is of this form.

Two things are wanted of readers, and both are proved here once.

* `Reader.run` executes a reader on a list of bytes and says what is left over.  A reader that
  wants more bytes than there are gives `none`: on a live connection it would still be waiting.
* `Reads r w a` says that the word `w` is exactly what `r` consumes on its way to `a`, whatever
  stands behind it.  It composes along `>>=` (`Reads.bind`), so that a decoder written field by
  field inherits the property from its fields.

Because a reader never looks at bytes it has not asked for, more input never changes its answer
(`Reader.run_append`).  That is the fact that makes a decoder insensitive to how much of the
next message has already arrived.
-/

namespace ByteStream

/-- Bytes in the order in which they cross the wire. -/
abbrev Bytes := List UInt8

/-- A program that consumes bytes in blocks of its own choosing. -/
inductive Reader (α : Type) where
  | done (a : α)
  | take (n : ℕ) (k : Bytes → Reader α)

namespace Reader

variable {α β γ : Type}

/-- Sequencing: run the first reader, then the one its result selects. -/
def bind : Reader α → (α → Reader β) → Reader β
  | done a, f => f a
  | take n k, f => take n fun b => (k b).bind f

instance : Monad Reader where
  pure := done
  bind := bind

@[simp] theorem pure_eq (a : α) : (pure a : Reader α) = done a := rfl

@[simp] theorem done_bind (a : α) (f : α → Reader β) : done a >>= f = f a := rfl

@[simp] theorem take_bind (n : ℕ) (k : Bytes → Reader α) (f : α → Reader β) :
    take n k >>= f = take n fun b => k b >>= f := rfl

instance : LawfulMonad Reader := LawfulMonad.mk' _
  (fun x => by
    induction x with
    | done a => rfl
    | take n k ih => exact congrArg (take n) (funext ih))
  (fun _ _ => rfl)
  (fun x f g => by
    induction x with
    | done a => rfl
    | take n k ih => exact congrArg (take n) (funext ih))

/-- Execute a reader on the bytes that have arrived; `none` when it still waits for more. -/
def run : Reader α → Bytes → Option (α × Bytes)
  | done a, s => some (a, s)
  | take n k, s => if n ≤ s.length then (k (s.take n)).run (s.drop n) else none

@[simp] theorem run_done (a : α) (s : Bytes) : (done a).run s = some (a, s) := rfl

theorem run_take (n : ℕ) (k : Bytes → Reader α) (s : Bytes) :
    (take n k).run s = if n ≤ s.length then (k (s.take n)).run (s.drop n) else none := rfl

/-- A block that has arrived is handed over, and the reader goes on behind it. -/
theorem run_take_append {n : ℕ} {w : Bytes} (hw : w.length = n) (k : Bytes → Reader α)
    (s : Bytes) : (take n k).run (w ++ s) = (k w).run s := by
  subst hw
  rw [run_take, if_pos (by rw [List.length_append]; omega), List.take_left, List.drop_left]

theorem run_bind (r : Reader α) (f : α → Reader β) (s : Bytes) :
    (r >>= f).run s = (r.run s).bind fun p => (f p.1).run p.2 := by
  induction r generalizing s with
  | done a => rfl
  | take n k ih =>
    rw [take_bind, run_take, run_take]
    split
    · exact ih _ _
    · rfl

/-- **More input does not change the answer**: what arrives behind the bytes a reader consumed
is left over untouched. -/
theorem run_append {r : Reader α} {s rest : Bytes} {a : α} (h : r.run s = some (a, rest))
    (more : Bytes) : r.run (s ++ more) = some (a, rest ++ more) := by
  induction r generalizing s with
  | done b =>
    rw [run_done, Option.some.injEq, Prod.mk.injEq] at h
    rw [run_done, h.1, h.2]
  | take n k ih =>
    rw [run_take] at h
    split at h
    · rename_i hn
      rw [run_take, if_pos (by rw [List.length_append]; omega),
        List.take_append_of_le_length hn, List.drop_append_of_le_length hn]
      exact ih _ h
    · exact absurd h (by simp)

/-- What is left over is a suffix of what was there. -/
theorem length_le_of_run {r : Reader α} {s rest : Bytes} {a : α}
    (h : r.run s = some (a, rest)) : rest.length ≤ s.length := by
  induction r generalizing s with
  | done b =>
    rw [run_done, Option.some.injEq, Prod.mk.injEq] at h
    exact Nat.le_of_eq (congrArg List.length h.2.symm)
  | take n k ih =>
    rw [run_take] at h
    split at h
    · have hlen := ih _ h
      rw [List.length_drop] at hlen
      omega
    · exact absurd h (by simp)

end Reader

/-! ## Words that a reader consumes exactly -/

section Reads

variable {α β : Type}

/-- `w` is exactly what `r` consumes to produce `a`, whatever follows it on the stream. -/
def Reads (r : Reader α) (w : Bytes) (a : α) : Prop :=
  ∀ rest : Bytes, r.run (w ++ rest) = some (a, rest)

theorem Reads.pure (a : α) : Reads (Reader.done a) [] a := fun _ => rfl

theorem Reads.take {n : ℕ} {w : Bytes} (hw : w.length = n) :
    Reads (Reader.take n Reader.done) w w := fun rest => by
  rw [Reader.run_take_append hw, Reader.run_done]

/-- A message of two parts is read part by part. -/
theorem Reads.bind {r : Reader α} {f : α → Reader β} {w v : Bytes} {a : α} {b : β}
    (hr : Reads r w a) (hf : Reads (f a) v b) : Reads (r >>= f) (w ++ v) b := fun rest => by
  rw [Reader.run_bind, List.append_assoc, hr, Option.bind_some, hf]

theorem Reads.map {r : Reader α} {w : Bytes} {a : α} (hr : Reads r w a) (f : α → β) :
    Reads (r >>= fun x => Reader.done (f x)) w (f a) := fun rest => by
  rw [Reader.run_bind, hr, Option.bind_some, Reader.run_done]

/-- The simplifier's form: a known word at the front of the stream is replaced by its value. -/
theorem Reads.run_bind {r : Reader α} {w : Bytes} {a : α} (hr : Reads r w a)
    (f : α → Reader β) (rest : Bytes) :
    (r >>= f).run (w ++ rest) = (f a).run rest := by
  rw [Reader.run_bind, hr, Option.bind_some]

end Reads

/-! ## Counted repetition -/

section Repeat

variable {α : Type}

/-- Read `n` items, one after the other. -/
def readN (r : Reader α) : ℕ → Reader (List α)
  | 0 => Reader.done []
  | n + 1 => do
    let a ← r
    let as ← readN r n
    pure (a :: as)

/-- Items written back to back are read back one by one. -/
theorem reads_readN {r : Reader α} {enc : α → Bytes} {as : List α}
    (h : ∀ a ∈ as, Reads r (enc a) a) : Reads (readN r as.length) (as.flatMap enc) as := by
  induction as with
  | nil => exact Reads.pure _
  | cons a as ih =>
    rw [List.flatMap_cons, List.length_cons, readN]
    exact (h a List.mem_cons_self).bind
      ((ih fun b hb => h b (List.mem_cons_of_mem _ hb)).map fun l => a :: l)

end Repeat

/-! ## Little-endian words -/

/-- The `n` low bytes of a number, least significant first. -/
def leBytes : ℕ → ℕ → Bytes
  | 0, _ => []
  | n + 1, v => UInt8.ofNat v :: leBytes n (v / 256)

/-- The number that little-endian bytes spell. -/
def leValue : Bytes → ℕ
  | [] => 0
  | b :: bs => b.toNat + 256 * leValue bs

@[simp] theorem length_leBytes (n v : ℕ) : (leBytes n v).length = n := by
  induction n generalizing v with
  | zero => rfl
  | succ n ih => rw [leBytes, List.length_cons, ih]

/-- Bytes spell the number they were taken from, up to the width they can hold. -/
theorem leValue_leBytes (n v : ℕ) : leValue (leBytes n v) = v % 256 ^ n := by
  induction n generalizing v with
  | zero => rw [leBytes, leValue, Nat.pow_zero, Nat.mod_one]
  | succ n ih =>
    have hbyte : (UInt8.ofNat v).toNat = v % 256 := by simp
    rw [leBytes, leValue, ih, hbyte, Nat.pow_succ, Nat.mul_comm (256 ^ n) 256, Nat.mod_mul]

theorem leValue_leBytes_of_lt {n v : ℕ} (h : v < 256 ^ n) : leValue (leBytes n v) = v := by
  rw [leValue_leBytes, Nat.mod_eq_of_lt h]

/-- Bytes are the ones of the number that they spell. -/
theorem leBytes_leValue (b : Bytes) : leBytes b.length (leValue b) = b := by
  induction b with
  | nil => rfl
  | cons x b ih =>
    have hx : x.toNat < 256 := x.toNat_lt
    have hlow : UInt8.ofNat (x.toNat + 256 * leValue b) = x := by
      rw [← UInt8.toNat_inj, UInt8.toNat_ofNat']
      omega
    have hhigh : (x.toNat + 256 * leValue b) / 256 = leValue b := by omega
    rw [List.length_cons, leBytes, leValue, hlow, hhigh, ih]

/-- The first bytes are the low ones. -/
theorem leValue_append (a b : Bytes) :
    leValue (a ++ b) = leValue a + 256 ^ a.length * leValue b := by
  induction a with
  | nil => rw [List.nil_append, leValue, List.length_nil, Nat.pow_zero, Nat.zero_add, Nat.one_mul]
  | cons x a ih =>
    rw [List.cons_append, leValue, leValue, ih, List.length_cons, Nat.pow_succ', Nat.mul_add,
      Nat.mul_assoc, Nat.add_assoc]

end ByteStream

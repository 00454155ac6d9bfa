import RemoteCL.Theory.Unreliable
import RemoteCL.Theory.Duplex

/-!
# A party by itself

A party that puts no questions to an environment, and has all the bytes that it will ever receive,
can be executed: `Prog.alone` is what it comes to on a connection that works.  There is no result if
the program waits for bytes that do not come, or never ends.

What is executed is one of the runs on a medium that may fail, namely one on which nothing fails
(`Prog.faulty_alone`).  So a reply that is written down and executed shows what can happen to a
program.
-/

namespace Conversation

open ByteStream

namespace Prog

variable {σ ε : Type} {α β : Type}

/-- What a program comes to by itself: its result or exception, its private state, and the bytes
that it has not read. -/
def alone : Prog σ ε Empty NoAnswer α → σ → Bytes → Option (Except ε α × σ × Bytes)
  | ret a, s, u => some (.ok a, s, u)
  | throw x, s, u => some (.error x, s, u)
  | get k, s, u => (k s).alone s u
  | put s' k, _, u => k.alone s' u
  | write _ k, s, u => (k (.ok ())).alone s u
  | flush k, s, u => (k (.ok ())).alone s u
  | read n k, s, u => if n ≤ u.length then (k (.ok (u.take n))).alone s (u.drop n) else none
  | peek k, s, u => if u = [] then none else (k u.head?).alone s u
  | check _ k, s, u => k.alone s u
  | call c _, _, _ => c.elim
  | spin, _, _ => none

section Rules

variable {s s' : σ} {u u' : Bytes}

/-- What comes after a result; an exception passes. -/
def aloneBind (f : α → Prog σ ε Empty NoAnswer β) :
    Except ε α × σ × Bytes → Option (Except ε β × σ × Bytes)
  | (.ok a, s, u) => (f a).alone s u
  | (.error x, s, u) => some (.error x, s, u)

/-- What comes after an exception; a result passes. -/
def aloneCatch (g : ε → Prog σ ε Empty NoAnswer α) :
    Except ε α × σ × Bytes → Option (Except ε α × σ × Bytes)
  | (.ok a, s, u) => some (.ok a, s, u)
  | (.error x, s, u) => (g x).alone s u

@[simp] theorem aloneBind_ok {f : α → Prog σ ε Empty NoAnswer β} {a : α} :
    aloneBind f (.ok a, s, u) = (f a).alone s u := rfl

@[simp] theorem aloneBind_error {f : α → Prog σ ε Empty NoAnswer β} {x : ε} :
    aloneBind f (.error x, s, u) = some (.error x, s, u) := rfl

@[simp] theorem aloneCatch_ok {g : ε → Prog σ ε Empty NoAnswer α} {a : α} :
    aloneCatch g (.ok a, s, u) = some (.ok a, s, u) := rfl

@[simp] theorem aloneCatch_error {g : ε → Prog σ ε Empty NoAnswer α} {x : ε} :
    aloneCatch g (.error x, s, u) = (g x).alone s u := rfl

@[simp] theorem alone_ret {a : α} :
    (ret a : Prog σ ε Empty NoAnswer α).alone s u = some (.ok a, s, u) := rfl

@[simp] theorem alone_throw {x : ε} :
    (throw x : Prog σ ε Empty NoAnswer α).alone s u = some (.error x, s, u) := rfl

/-- A program in a context: the context goes on with its result or exception. -/
theorem alone_context {K : Prog σ ε Empty NoAnswer α → Prog σ ε Empty NoAnswer β} (hK : Context K)
    {p : Prog σ ε Empty NoAnswer α} :
    (K p).alone s u = (p.alone s u).bind fun r => (K (liftExcept r.1)).alone r.2.1 r.2.2 := by
  induction p generalizing s u with
  | ret a => rfl
  | throw x => rfl
  | get k ih =>
    rw [hK.get]
    exact ih _
  | put s' k ih =>
    rw [hK.put]
    exact ih
  | write b k ih =>
    rw [hK.write]
    exact ih _
  | flush k ih =>
    rw [hK.flush]
    exact ih _
  | read n k ih =>
    rw [hK.read]
    by_cases hn : n ≤ u.length
    · simp only [alone, if_pos hn]
      exact ih _
    · simp only [alone, if_neg hn]
      rfl
  | peek k ih =>
    rw [hK.peek]
    by_cases hu : u = []
    · simp only [alone, if_pos hu]
      rfl
    · simp only [alone, if_neg hu]
      exact ih _
  | check b k ih =>
    rw [hK.check]
    exact ih
  | call c => exact c.elim
  | spin =>
    rw [hK.spin]
    rfl

/-- Sequencing. -/
@[simp] theorem alone_bind {p : Prog σ ε Empty NoAnswer α} {f : α → Prog σ ε Empty NoAnswer β} :
    (p >>= f).alone s u = (p.alone s u).bind (aloneBind f) := by
  rw [alone_context (Context.bind f)]
  congr 1
  funext r
  obtain ⟨r, s, u⟩ := r
  cases r <;> rfl

/-- A `try` block. -/
@[simp] theorem alone_tryCatch {p : Prog σ ε Empty NoAnswer α}
    {g : ε → Prog σ ε Empty NoAnswer α} :
    (p.tryCatch g).alone s u = (p.alone s u).bind (aloneCatch g) := by
  rw [alone_context (Context.tryCatch g)]
  congr 1
  funext r
  obtain ⟨r, s, u⟩ := r
  cases r <;> rfl

@[simp] theorem alone_send {b : Bytes} :
    (send b : Prog σ ε Empty NoAnswer Unit).alone s u = some (.ok (), s, u) := rfl

@[simp] theorem alone_flushOut :
    (flushOut : Prog σ ε Empty NoAnswer Unit).alone s u = some (.ok (), s, u) := rfl

@[simp] theorem alone_getState :
    (getState : Prog σ ε Empty NoAnswer σ).alone s u = some (.ok s, s, u) := rfl

@[simp] theorem alone_putState :
    (putState s' : Prog σ ε Empty NoAnswer Unit).alone s u = some (.ok (), s', u) := rfl

@[simp] theorem alone_modifyState {f : σ → σ} :
    (modifyState f : Prog σ ε Empty NoAnswer Unit).alone s u = some (.ok (), f s, u) := rfl

@[simp] theorem alone_expect {b : Bool} :
    (expect b : Prog σ ε Empty NoAnswer Unit).alone s u = some (.ok (), s, u) := rfl

/-- A reader that finds its word. -/
theorem alone_ofReader {r : Reader α} {a : α} (h : r.run u = some (a, u')) :
    (ofReader r : Prog σ ε Empty NoAnswer α).alone s u = some (.ok a, s, u') := by
  induction r generalizing u with
  | done b =>
    rw [Reader.run_done, Option.some.injEq, Prod.mk.injEq] at h
    obtain ⟨rfl, rfl⟩ := h
    rfl
  | take n k ih =>
    rw [Reader.run_take] at h
    split at h
    · rename_i hn
      rw [ofReader, alone, if_pos hn]
      exact ih _ h
    · cases h

end Rules

/-! ## A run on which nothing fails -/

/-- **What is executed can happen**, on every medium that has a cache, and nothing fails in it but
what the program raises itself. -/
theorem faulty_alone [DecidableEq ε] {M : Medium ε} (hM : 0 < M.cache) {x : Option ε}
    {p : Prog σ ε Empty NoAnswer α} {s s' : σ} {u u' : Bytes} {r : Except ε α}
    (h : p.alone s u = some (r, s', u')) (w : ℕ) :
    ∃ w' fs, Faulty M noEnv x p s u w () (.done r s' u' w' ()) fs ∧ (r.toBool → fs = []) := by
  induction p generalizing s u w x with
  | ret a =>
    cases h
    exact ⟨w, [], .ret, fun _ => rfl⟩
  | throw e =>
    cases h
    exact ⟨w, _, .throw, fun hr => absurd hr Bool.false_ne_true⟩
  | get k ih =>
    obtain ⟨w', fs, hrun, hfs⟩ := ih s h w
    exact ⟨w', fs, .get hrun, hfs⟩
  | put t k ih =>
    obtain ⟨w', fs, hrun, hfs⟩ := ih h w
    exact ⟨w', fs, .put hrun, hfs⟩
  | write b k ih =>
    rcases lt_or_ge (w + b.length) M.cache with hroom | hfull
    · obtain ⟨w', fs, hrun, hfs⟩ := ih _ h (w + b.length)
      exact ⟨w', fs, .write hroom hrun, hfs⟩
    · obtain ⟨w', fs, hrun, hfs⟩ := ih _ h 0
      exact ⟨w', fs, .writeSpills hfull hM hrun, hfs⟩
  | flush k ih =>
    obtain ⟨w', fs, hrun, hfs⟩ := ih _ h 0
    exact ⟨w', fs, .flush hrun, hfs⟩
  | read n k ih =>
    rw [alone] at h
    split at h
    · rename_i hn
      obtain ⟨w', fs, hrun, hfs⟩ := ih _ h w
      refine ⟨w', fs, ?_, hfs⟩
      rw [← List.take_append_drop n u]
      exact .read (List.length_take_of_le hn) hrun
    · cases h
  | peek k ih =>
    rw [alone] at h
    split at h
    · cases h
    · obtain ⟨w', fs, hrun, hfs⟩ := ih _ h w
      exact ⟨w', fs, .peek hrun, hfs⟩
  | check b k ih =>
    obtain ⟨w', fs, hrun, hfs⟩ := ih h w
    exact ⟨w', fs, .check hrun, hfs⟩
  | call c => exact c.elim
  | spin => cases h

end Prog

end Conversation

import RemoteCL.Theory.Prog

/-!
# Programs on a stream that ends

What a program comes to when certain bytes are all that it is ever going to receive: whoever waits
for more of them meets the exception of a lost connection.  Nothing else goes wrong, so there is
exactly one execution, and `Prog.deliver` computes it.
-/

namespace Conversation

open ByteStream

namespace Prog

variable {σ ε C : Type} {A : C → Type} {α β : Type}

/-- The result or the exception, the private state and the bytes that are left; `none` if the
program runs for ever.  `lost` is the exception of a lost connection, and `answer` what the
environment answers. -/
def deliver (lost : ε) (answer : (c : C) → A c) :
    Prog σ ε C A α → σ → Bytes → Option (Except ε α × σ × Bytes)
  | ret a, s, u => some (.ok a, s, u)
  | throw e, s, u => some (.error e, s, u)
  | get k, s, u => (k s).deliver lost answer s u
  | put s k, _, u => k.deliver lost answer s u
  | write _ k, s, u => (k (.ok ())).deliver lost answer s u
  | flush k, s, u => (k (.ok ())).deliver lost answer s u
  | read n k, s, u =>
    if n ≤ u.length then (k (.ok (u.take n))).deliver lost answer s (u.drop n)
    else (k (.error lost)).deliver lost answer s []
  | peek k, s, u => (k u.head?).deliver lost answer s u
  | check _ k, s, u => k.deliver lost answer s u
  | call c k, s, u => (k (answer c)).deliver lost answer s u
  | spin, _, _ => none

variable {lost : ε} {answer : (c : C) → A c} {s s' : σ} {u v : Bytes}

/-- A program in a context: the context goes on where the program ends. -/
theorem deliver_context {K : Prog σ ε C A α → Prog σ ε C A β} (hK : Context K)
    (p : Prog σ ε C A α) :
    (K p).deliver lost answer s u =
      (p.deliver lost answer s u).bind fun
        | (r, s', v) => (K (liftExcept r)).deliver lost answer s' v := by
  induction p generalizing s u with
  | ret a => rfl
  | throw e => rfl
  | get k ih =>
    rw [hK.get]
    exact ih _
  | put s k ih =>
    rw [hK.put]
    exact ih
  | write b k ih =>
    rw [hK.write]
    exact ih _
  | flush k ih =>
    rw [hK.flush]
    exact ih _
  | read n k ih =>
    rw [hK.read, deliver, deliver]
    split
    · exact ih _
    · exact ih _
  | peek k ih =>
    rw [hK.peek]
    exact ih _
  | check b k ih =>
    rw [hK.check]
    exact ih
  | call c k ih =>
    rw [hK.call]
    exact ih _
  | spin =>
    rw [hK.spin]
    rfl

theorem deliver_context_of_eq {K : Prog σ ε C A α → Prog σ ε C A β} (hK : Context K)
    {p : Prog σ ε C A α} {r : Except ε α}
    (h : p.deliver lost answer s u = some (r, s', v)) :
    (K p).deliver lost answer s u = (K (liftExcept r)).deliver lost answer s' v := by
  rw [deliver_context hK, h, Option.bind_some]

/-- A reader finds all its bytes. -/
theorem deliver_ofReader_of_some {r : Reader α} {a : α} (h : r.run u = some (a, v)) :
    (ofReader r : Prog σ ε C A α).deliver lost answer s u = some (.ok a, s, v) := by
  induction r generalizing u with
  | done b =>
    rw [Reader.run_done, Option.some.injEq, Prod.mk.injEq] at h
    rw [ofReader, deliver, h.1, h.2]
  | take n k ih =>
    rw [Reader.run_take] at h
    rw [ofReader, deliver]
    split
    · rw [if_pos ‹_›] at h
      exact ih _ h
    · rw [if_neg ‹_›] at h
      cases h

/-- A reader does not find all its bytes. -/
theorem deliver_ofReader_of_none {r : Reader α} (h : r.run u = none) :
    (ofReader r : Prog σ ε C A α).deliver lost answer s u = some (.error lost, s, []) := by
  induction r generalizing u with
  | done b => cases h
  | take n k ih =>
    rw [Reader.run_take] at h
    rw [ofReader, deliver]
    split
    · rw [if_pos ‹_›] at h
      exact ih _ h
    · rfl

end Prog

end Conversation

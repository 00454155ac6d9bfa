import RemoteCL.Theory.Unreliable

/-!
# What holds however a program ends

`Prog.wlp` is the weakest condition under which every run of a program that ends does so as the
postcondition says, whatever comes over the connection and whatever fails: every read may find the
bytes that are there or fail, and every write and every flush may fail.  The postcondition speaks
about the result or the exception, the private state, and the bytes that have not been read.  Of a
run that does not end nothing is said, except that one which ends in a loop of its own has to meet a
condition too: with `True` for it nothing is said there either, and with `False` there is no such
run.

`Prog.Faulty.wlp` connects it with the runs on an unreliable medium.
-/

namespace Conversation

open ByteStream

namespace Prog

variable {σ ε C : Type} {A : C → Type} {α β δ : Type}

/-- The weakest liberal precondition, where `S` is to hold in a loop that never ends. -/
def wlp (S : Prop) : Prog σ ε C A α → σ → Bytes → (Except ε α → σ → Bytes → Prop) → Prop
  | ret a, s, u, Q => Q (.ok a) s u
  | throw x, s, u, Q => Q (.error x) s u
  | get k, s, u, Q => (k s).wlp S s u Q
  | put s' k, _, u, Q => k.wlp S s' u Q
  | write _ k, s, u, Q => ∀ r, (k r).wlp S s u Q
  | flush k, s, u, Q => ∀ r, (k r).wlp S s u Q
  | read n k, s, u, Q =>
    (∀ b v, b ++ v = u → b.length = n → (k (.ok b)).wlp S s v Q) ∧
      ∀ x v, (k (.error x)).wlp S s v Q
  | peek k, s, u, Q => ∀ b, (k b).wlp S s u Q
  | check _ k, s, u, Q => k.wlp S s u Q
  | call _ k, s, u, Q => ∀ a, (k a).wlp S s u Q
  | spin, _, _, _ => S

section Rules

variable {S : Prop} {s : σ} {u v : Bytes}

/-- The postcondition may be weakened. -/
theorem wlp_mono {p : Prog σ ε C A α} {Q R : Except ε α → σ → Bytes → Prop}
    (hQR : ∀ r s u, Q r s u → R r s u) (h : p.wlp S s u Q) : p.wlp S s u R := by
  induction p generalizing s u with
  | ret a => exact hQR _ _ _ h
  | throw x => exact hQR _ _ _ h
  | get k ih => exact ih _ h
  | put s' k ih => exact ih h
  | write b k ih => exact fun r => ih r (h r)
  | flush k ih => exact fun r => ih r (h r)
  | read n k ih =>
    exact ⟨fun b v hu hn => ih _ (h.1 b v hu hn), fun x v => ih _ (h.2 x v)⟩
  | peek k ih => exact fun b => ih b (h b)
  | check b k ih => exact ih h
  | call c k ih => exact fun a => ih a (h a)
  | spin => exact h

/-- Two postconditions. -/
theorem wlp_and {p : Prog σ ε C A α} {Q R : Except ε α → σ → Bytes → Prop} (hQ : p.wlp S s u Q)
    (hR : p.wlp S s u R) : p.wlp S s u fun r s u => Q r s u ∧ R r s u := by
  induction p generalizing s u with
  | ret | throw => exact ⟨hQ, hR⟩
  | get k ih => exact ih _ hQ hR
  | put s' k ih => exact ih hQ hR
  | write b k ih => exact fun r => ih r (hQ r) (hR r)
  | flush k ih => exact fun r => ih r (hQ r) (hR r)
  | read n k ih =>
    exact ⟨fun b v hu hn => ih _ (hQ.1 b v hu hn) (hR.1 b v hu hn), fun x v => ih _ (hQ.2 x v)
      (hR.2 x v)⟩
  | peek k ih => exact fun b => ih b (hQ b) (hR b)
  | check b k ih => exact ih hQ hR
  | call c k ih => exact fun a => ih a (hQ a) (hR a)
  | spin => exact hQ

/-- What a program in a context has to meet: the context goes on with its result or exception. -/
theorem wlp_context {K : Prog σ ε C A α → Prog σ ε C A β} (hK : Context K) {p : Prog σ ε C A α}
    {Q : Except ε β → σ → Bytes → Prop}
    (h : p.wlp S s u fun r s u => (K (liftExcept r)).wlp S s u Q) : (K p).wlp S s u Q := by
  induction p generalizing s u with
  | ret a => exact h
  | throw x => exact h
  | get k ih =>
    rw [hK.get]
    exact ih _ h
  | put s' k ih =>
    rw [hK.put]
    exact ih h
  | write b k ih =>
    rw [hK.write]
    exact fun r => ih r (h r)
  | flush k ih =>
    rw [hK.flush]
    exact fun r => ih r (h r)
  | read n k ih =>
    rw [hK.read]
    exact ⟨fun b v hu hn => ih _ (h.1 b v hu hn), fun x v => ih _ (h.2 x v)⟩
  | peek k ih =>
    rw [hK.peek]
    exact fun b => ih b (h b)
  | check b k ih =>
    rw [hK.check]
    exact ih h
  | call c k ih =>
    rw [hK.call]
    exact fun a => ih a (h a)
  | spin =>
    rw [hK.spin]
    exact h

/-- Sequencing. -/
theorem wlp_bind {p : Prog σ ε C A α} {f : α → Prog σ ε C A β}
    {Q : Except ε β → σ → Bytes → Prop}
    (h : p.wlp S s u fun
      | .ok a, s, u => (f a).wlp S s u Q
      | .error x, s, u => Q (.error x) s u) : (p >>= f).wlp S s u Q := by
  refine wlp_context (Context.bind f) (wlp_mono ?_ h)
  rintro (x | a) s u hr <;> exact hr

/-- A `try` block. -/
theorem wlp_tryCatch {p : Prog σ ε C A α} {g : ε → Prog σ ε C A α}
    {Q : Except ε α → σ → Bytes → Prop}
    (h : p.wlp S s u fun
      | .ok a, s, u => Q (.ok a) s u
      | .error x, s, u => (g x).wlp S s u Q) : (p.tryCatch g).wlp S s u Q := by
  refine wlp_context (Context.tryCatch g) (wlp_mono ?_ h)
  rintro (x | a) s u hr <;> exact hr

theorem wlp_liftExcept {r : Except ε α} {Q : Except ε α → σ → Bytes → Prop} (h : Q r s u) :
    (liftExcept r : Prog σ ε C A α).wlp S s u Q := by
  cases r <;> exact h

theorem wlp_send {b : Bytes} {Q : Except ε Unit → σ → Bytes → Prop} (h : ∀ r, Q r s u) :
    (send b : Prog σ ε C A Unit).wlp S s u Q :=
  fun r => wlp_liftExcept (h r)

theorem wlp_flushOut {Q : Except ε Unit → σ → Bytes → Prop} (h : ∀ r, Q r s u) :
    (flushOut : Prog σ ε C A Unit).wlp S s u Q :=
  fun r => wlp_liftExcept (h r)

/-- A reader yields what it reads from the bytes that are there, or an exception. -/
theorem wlp_ofReader {r : Reader α} {Q : Except ε α → σ → Bytes → Prop}
    (hok : ∀ a v, r.run u = some (a, v) → Q (.ok a) s v) (herror : ∀ x v, Q (.error x) s v) :
    (ofReader r : Prog σ ε C A α).wlp S s u Q := by
  induction r generalizing u with
  | done a => exact hok a u rfl
  | take n k ih =>
    rw [ofReader]
    refine ⟨fun b v hu hn => ih b fun a w hrun => hok a w ?_, fun x v => herror x v⟩
    rw [← hu, Reader.run_take_append hn, hrun]

end Rules

/-- What a precondition says of the end of a run. -/
def Meets (S : Prop) (Q : Except ε α → σ → Bytes → Prop) : Stop σ ε α δ → Prop
  | .done r s u _ _ => Q r s u
  | .never .spin _ => S
  | .never .hang _ | .never .killed _ => True

/-- A run on an unreliable medium is one of those that the precondition speaks about. -/
theorem Faulty.wlp [DecidableEq ε] {M : Medium ε} {E : δ → (c : C) → A c → δ → Prop} {x : Option ε}
    {p : Prog σ ε C A α} {s : σ} {u : Bytes} {w : ℕ} {d : δ} {o : Stop σ ε α δ}
    {fs : List (Fault ε)} (h : Faulty M E x p s u w d o fs) {S : Prop}
    {Q : Except ε α → σ → Bytes → Prop} (hp : p.wlp S s u Q) : Meets S Q o := by
  induction h with
  | ret | throw | spin => exact hp
  | writeKills | flushKills | readForever | callForever => trivial
  | get _ ih => exact ih hp
  | put _ ih => exact ih hp
  | write _ _ ih => exact ih (hp _)
  | writeSpills _ _ _ ih => exact ih (hp _)
  | writeFails _ _ ih => exact ih (hp _)
  | flush _ ih => exact ih (hp _)
  | flushFails _ _ ih => exact ih (hp _)
  | read hb _ ih => exact ih (hp.1 _ _ rfl hb)
  | readFails _ _ ih => exact ih (hp.2 _ _)
  | readNoMemory _ _ ih => exact ih (hp.2 _ _)
  | peek _ ih => exact ih (hp _)
  | check _ ih => exact ih hp
  | call _ _ ih => exact ih (hp _)

end Prog

end Conversation

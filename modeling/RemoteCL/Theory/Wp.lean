import RemoteCL.Theory.Duplex

/-!
# What a party does with bytes that have arrived

A party that has all the bytes it asks for runs by itself: it never waits for the other one.
`Prog.wp` says of such a run that it goes well.  It is the weakest condition under which the
program finds enough bytes, meets every expectation it notes, and ends as the postcondition
says, whatever the environment answers.  The postcondition speaks about the result or the
exception, the private state, the bytes written and not yet sent, the bytes that were not
consumed and the state of the environment.

A flush is not part of such a run, since it is where the other party comes in.  A program that
flushes is followed with the rules of `Conversation`, and its pieces between two flushes are
followed with `wp`: that is `settles_client_wp` and `settles_server_wp`.

A run may also end in a loop without end; `H` says when that is accepted.
-/

namespace Conversation

open ByteStream

namespace Prog

variable {σ ε C : Type} {A : C → Type} {α β δ : Type}

/-- The weakest precondition of a run without a flush. -/
def wp (E : δ → (c : C) → A c → δ → Prop) (H : σ → Bytes → Bytes → Prop) :
    Prog σ ε C A α → σ → Bytes → Bytes → δ →
      (Except ε α → σ → Bytes → Bytes → δ → Prop) → Prop
  | ret a, s, o, u, e, Q => Q (.ok a) s o u e
  | throw x, s, o, u, e, Q => Q (.error x) s o u e
  | get k, s, o, u, e, Q => (k s).wp E H s o u e Q
  | put s' k, _, o, u, e, Q => k.wp E H s' o u e Q
  | write b k, s, o, u, e, Q => (k (.ok ())).wp E H s (o ++ b) u e Q
  | flush _, _, _, _, _, _ => False
  | read n k, s, o, u, e, Q => n ≤ u.length ∧ (k (.ok (u.take n))).wp E H s o (u.drop n) e Q
  | peek _, _, _, _, _, _ => False
  | check b k, s, o, u, e, Q => b = true ∧ k.wp E H s o u e Q
  | call c k, s, o, u, e, Q => ∀ a e', E e c a e' → (k a).wp E H s o u e' Q
  | spin, s, o, u, _, _ => H s o u

section Rules

variable {E : δ → (c : C) → A c → δ → Prop} {H : σ → Bytes → Bytes → Prop}
variable {s : σ} {o u v : Bytes} {e : δ}

/-- The postcondition may be weakened. -/
theorem wp_mono {p : Prog σ ε C A α} {Q R : Except ε α → σ → Bytes → Bytes → δ → Prop}
    (hQR : ∀ r s o u e, Q r s o u e → R r s o u e) (h : p.wp E H s o u e Q) :
    p.wp E H s o u e R := by
  induction p generalizing s o u e with
  | ret a => exact hQR _ _ _ _ _ h
  | throw x => exact hQR _ _ _ _ _ h
  | get k ih => exact ih _ h
  | put s' k ih => exact ih h
  | write b k ih => exact ih _ h
  | flush k => exact h
  | read n k ih => exact ⟨h.1, ih _ h.2⟩
  | peek k => exact h
  | check b k ih => exact ⟨h.1, ih h.2⟩
  | call c k ih => exact fun a e' ha => ih a (h a e' ha)
  | spin => exact h

theorem wp_congr {p : Prog σ ε C A α} {Q R : Except ε α → σ → Bytes → Bytes → δ → Prop}
    (hQR : ∀ r s o u e, Q r s o u e ↔ R r s o u e) :
    p.wp E H s o u e Q ↔ p.wp E H s o u e R :=
  ⟨wp_mono fun _ _ _ _ _ => (hQR _ _ _ _ _).mp, wp_mono fun _ _ _ _ _ => (hQR _ _ _ _ _).mpr⟩

@[simp] theorem wp_ret {a : α} {Q : Except ε α → σ → Bytes → Bytes → δ → Prop} :
    (ret a : Prog σ ε C A α).wp E H s o u e Q ↔ Q (.ok a) s o u e := Iff.rfl

@[simp] theorem wp_throw {x : ε} {Q : Except ε α → σ → Bytes → Bytes → δ → Prop} :
    (throw x : Prog σ ε C A α).wp E H s o u e Q ↔ Q (.error x) s o u e := Iff.rfl

@[simp] theorem wp_spin {Q : Except ε α → σ → Bytes → Bytes → δ → Prop} :
    (spin : Prog σ ε C A α).wp E H s o u e Q ↔ H s o u := Iff.rfl

/-- A program in a context: the context goes on with its result or exception. -/
theorem wp_context {K : Prog σ ε C A α → Prog σ ε C A β} (hK : Context K) {p : Prog σ ε C A α}
    {Q : Except ε β → σ → Bytes → Bytes → δ → Prop} :
    (K p).wp E H s o u e Q ↔
      p.wp E H s o u e fun r s o u e => (K (liftExcept r)).wp E H s o u e Q := by
  induction p generalizing s o u e with
  | ret a => rfl
  | throw x => rfl
  | get k ih =>
    rw [hK.get]
    exact ih _
  | put s' k ih =>
    rw [hK.put]
    exact ih
  | write b k ih =>
    rw [hK.write]
    exact ih _
  | flush k => rw [hK.flush, wp, wp]
  | read n k ih =>
    rw [hK.read]
    exact and_congr_right fun _ => ih _
  | peek k => rw [hK.peek, wp, wp]
  | check b k ih =>
    rw [hK.check]
    exact and_congr_right fun _ => ih
  | call c k ih =>
    rw [hK.call]
    exact forall_congr' fun a => forall_congr' fun e' => imp_congr_right fun _ => ih a
  | spin => rw [hK.spin, wp, wp]

/-- What comes after a result; an exception passes. -/
def afterBind (E : δ → (c : C) → A c → δ → Prop) (H : σ → Bytes → Bytes → Prop)
    (f : α → Prog σ ε C A β) (Q : Except ε β → σ → Bytes → Bytes → δ → Prop) :
    Except ε α → σ → Bytes → Bytes → δ → Prop
  | .ok a, s, o, u, e => (f a).wp E H s o u e Q
  | .error x, s, o, u, e => Q (.error x) s o u e

@[simp] theorem afterBind_ok {f : α → Prog σ ε C A β} {a : α}
    {Q : Except ε β → σ → Bytes → Bytes → δ → Prop} :
    afterBind E H f Q (.ok a) s o u e ↔ (f a).wp E H s o u e Q := Iff.rfl

@[simp] theorem afterBind_error {f : α → Prog σ ε C A β} {x : ε}
    {Q : Except ε β → σ → Bytes → Bytes → δ → Prop} :
    afterBind E H f Q (.error x) s o u e ↔ Q (.error x) s o u e := Iff.rfl

/-- Sequencing. -/
@[simp] theorem wp_bind {p : Prog σ ε C A α} {f : α → Prog σ ε C A β}
    {Q : Except ε β → σ → Bytes → Bytes → δ → Prop} :
    (p >>= f).wp E H s o u e Q ↔ p.wp E H s o u e (afterBind E H f Q) := by
  refine (wp_context (Context.bind f)).trans (wp_congr fun r s o u e => ?_)
  cases r <;> rfl

/-- What comes after a `try` block; a result passes. -/
def afterCatch (E : δ → (c : C) → A c → δ → Prop) (H : σ → Bytes → Bytes → Prop)
    (h : ε → Prog σ ε C A α) (Q : Except ε α → σ → Bytes → Bytes → δ → Prop) :
    Except ε α → σ → Bytes → Bytes → δ → Prop
  | .ok a, s, o, u, e => Q (.ok a) s o u e
  | .error x, s, o, u, e => (h x).wp E H s o u e Q

@[simp] theorem afterCatch_ok {h : ε → Prog σ ε C A α} {a : α}
    {Q : Except ε α → σ → Bytes → Bytes → δ → Prop} :
    afterCatch E H h Q (.ok a) s o u e ↔ Q (.ok a) s o u e := Iff.rfl

@[simp] theorem afterCatch_error {h : ε → Prog σ ε C A α} {x : ε}
    {Q : Except ε α → σ → Bytes → Bytes → δ → Prop} :
    afterCatch E H h Q (.error x) s o u e ↔ (h x).wp E H s o u e Q := Iff.rfl

@[simp] theorem wp_tryCatch {p : Prog σ ε C A α} {h : ε → Prog σ ε C A α}
    {Q : Except ε α → σ → Bytes → Bytes → δ → Prop} :
    (p.tryCatch h).wp E H s o u e Q ↔ p.wp E H s o u e (afterCatch E H h Q) := by
  refine (wp_context (Context.tryCatch h)).trans (wp_congr fun r s o u e => ?_)
  cases r <;> rfl

@[simp] theorem wp_send {b : Bytes} {Q : Except ε Unit → σ → Bytes → Bytes → δ → Prop} :
    (send b : Prog σ ε C A Unit).wp E H s o u e Q ↔ Q (.ok ()) s (o ++ b) u e := Iff.rfl

@[simp] theorem wp_getState {Q : Except ε σ → σ → Bytes → Bytes → δ → Prop} :
    (getState : Prog σ ε C A σ).wp E H s o u e Q ↔ Q (.ok s) s o u e := Iff.rfl

@[simp] theorem wp_putState {s' : σ} {Q : Except ε Unit → σ → Bytes → Bytes → δ → Prop} :
    (putState s' : Prog σ ε C A Unit).wp E H s o u e Q ↔ Q (.ok ()) s' o u e := Iff.rfl

@[simp] theorem wp_modifyState {f : σ → σ}
    {Q : Except ε Unit → σ → Bytes → Bytes → δ → Prop} :
    (modifyState f : Prog σ ε C A Unit).wp E H s o u e Q ↔ Q (.ok ()) (f s) o u e := Iff.rfl

@[simp] theorem wp_expect {b : Bool} {Q : Except ε Unit → σ → Bytes → Bytes → δ → Prop} :
    (expect b : Prog σ ε C A Unit).wp E H s o u e Q ↔ b = true ∧ Q (.ok ()) s o u e := Iff.rfl

@[simp] theorem wp_ask {c : C} {Q : Except ε (A c) → σ → Bytes → Bytes → δ → Prop} :
    (ask c : Prog σ ε C A (A c)).wp E H s o u e Q ↔ ∀ a e', E e c a e' → Q (.ok a) s o u e' :=
  Iff.rfl

/-- A reader that finds its word. -/
theorem wp_ofReader {r : Reader α} {a : α} (h : r.run u = some (a, v))
    {Q : Except ε α → σ → Bytes → Bytes → δ → Prop} :
    (ofReader r : Prog σ ε C A α).wp E H s o u e Q ↔ Q (.ok a) s o v e := by
  induction r generalizing u with
  | done b =>
    rw [Reader.run_done, Option.some.injEq, Prod.mk.injEq] at h
    obtain ⟨rfl, rfl⟩ := h
    rfl
  | take n k ih =>
    rw [Reader.run_take] at h
    split at h
    · rename_i hn
      rw [ofReader]
      exact (and_iff_right hn).trans (ih _ h)
    · exact absurd h (by simp)

end Rules

end Prog

/-! ## Runs of one party in a conversation -/

section Config

variable {σ τ ε C : Type} {A : C → Type} {ρ δ α : Type}
variable {E : δ → (c : C) → A c → δ → Prop} {serve : Prog τ ε C A Bool}
variable {F : Config σ τ ε C A ρ δ → Prop} (hF : Stable E serve F)
include hF

/-- The client runs by itself. -/
theorem settles_client_wp {K : Prog σ ε Empty NoAnswer α → Prog σ ε Empty NoAnswer ρ}
    (hK : Prog.Context K) {H : σ → Bytes → Bytes → Prop}
    {p : Prog σ ε Empty NoAnswer α} {s : Side τ ε C A Bool} {t : σ} {o u d : Bytes} {e : δ}
    (hspin : ∀ t o d, H t o d → Settles E serve F ⟨⟨.spin, t, o⟩, s, u, d, e⟩)
    (h : p.wp noEnv H t o d () fun r t' o' d' _ =>
      Settles E serve F ⟨⟨K (Prog.liftExcept r), t', o'⟩, s, u, d', e⟩) :
    Settles E serve F ⟨⟨K p, t, o⟩, s, u, d, e⟩ := by
  induction p generalizing t o d with
  | ret a => exact h
  | throw x => exact h
  | get k ih =>
    have hrule := settles_client_move (s := s) (u := u) (d := d) (e := e) hF
      (c := ⟨.get fun t => K (k t), t, o⟩) trivial Move.get
    rw [hK.get, hrule, List.append_nil]
    exact ih _ h
  | put t' k ih =>
    have hrule := settles_client_move (s := s) (u := u) (d := d) (e := e) hF
      (c := ⟨.put t' (K k), t, o⟩) trivial Move.put
    rw [hK.put, hrule, List.append_nil]
    exact ih h
  | write b k ih =>
    have hrule := settles_client_move (s := s) (u := u) (d := d) (e := e) hF
      (c := ⟨.write b fun r => K (k r), t, o⟩) trivial Move.write
    rw [hK.write, hrule, List.append_nil]
    exact ih _ h
  | flush k => exact h.elim
  | read n k ih =>
    rw [settles_client_read hF hK h.1]
    exact ih _ h.2
  | peek k => exact h.elim
  | check b k ih =>
    have hrule := settles_client_move (s := s) (u := u) (d := d) (e := e) hF
      (c := ⟨.check b (K k), t, o⟩) h.1 Move.check
    rw [hK.check, hrule, List.append_nil]
    exact ih h.2
  | call c => exact c.elim
  | spin =>
    rw [hK.spin]
    exact hspin _ _ _ h

/-- The server runs by itself. -/
theorem settles_server_wp {K : Prog τ ε C A α → Prog τ ε C A Bool} (hK : Prog.Context K)
    {H : τ → Bytes → Bytes → Prop} {p : Prog τ ε C A α} {c : Side σ ε Empty NoAnswer ρ} {t : τ}
    {o u d : Bytes} {e : δ}
    (hspin : ∀ t o u e, H t o u → Settles E serve F ⟨c, ⟨.spin, t, o⟩, u, d, e⟩)
    (h : p.wp E H t o u e fun r t' o' u' e' =>
      Settles E serve F ⟨c, ⟨K (Prog.liftExcept r), t', o'⟩, u', d, e'⟩) :
    Settles E serve F ⟨c, ⟨K p, t, o⟩, u, d, e⟩ := by
  induction p generalizing t o u e with
  | ret a => exact h
  | throw x => exact h
  | get k ih =>
    have hrule := settles_server_move (c := c) (u := u) (d := d) (e := e) hF
      (s := ⟨.get fun t => K (k t), t, o⟩) trivial trivial Move.get
    rw [hK.get, hrule, List.append_nil]
    exact ih _ h
  | put t' k ih =>
    have hrule := settles_server_move (c := c) (u := u) (d := d) (e := e) hF
      (s := ⟨.put t' (K k), t, o⟩) trivial trivial Move.put
    rw [hK.put, hrule, List.append_nil]
    exact ih h
  | write b k ih =>
    have hrule := settles_server_move (c := c) (u := u) (d := d) (e := e) hF
      (s := ⟨.write b fun r => K (k r), t, o⟩) trivial trivial Move.write
    rw [hK.write, hrule, List.append_nil]
    exact ih _ h
  | flush k => exact h.elim
  | read n k ih =>
    rw [settles_server_read hF hK h.1]
    exact ih _ h.2
  | peek k => exact h.elim
  | check b k ih =>
    have hrule := settles_server_move (c := c) (u := u) (d := d) (e := e) hF
      (s := ⟨.check b (K k), t, o⟩) trivial h.1 Move.check
    rw [hK.check, hrule, List.append_nil]
    exact ih h.2
  | call q k ih =>
    rw [hK.call]
    refine Settles.server trivial fun s' u' w e' m => ?_
    cases m with
    | call ha =>
      rw [List.append_nil]
      exact ih _ (h _ _ ha)
  | spin =>
    rw [hK.spin]
    exact hspin _ _ _ _ h

end Config

end Conversation

import RemoteCL.Theory.Wp

/-!
# Runs of a program by itself

`Prog.wp` says that every run of a program ends well.  `Prog.Ends` is one such run, of a program
that talks to the environment only: its private state and the environment before it and after it,
and what it returns or throws.  With it a sequence of calls can be described step by step.

A run ends as the weakest precondition says (`Ends.wp`), and there is one if the environment answers
everything (`exists_ends`).  `Throws` says that a program may let an exception out; a `try` block
lets out only what its handler does.
-/

namespace Conversation

open ByteStream

namespace Prog

variable {σ ε C : Type} {A : C → Type} {α β δ : Type}

/-- A run that does not touch the connection. -/
inductive Ends (E : δ → (c : C) → A c → δ → Prop) :
    Prog σ ε C A α → σ → δ → Except ε α → σ → δ → Prop
  | ret {a s e} : Ends E (.ret a) s e (.ok a) s e
  | throw {x s e} : Ends E (.throw x) s e (.error x) s e
  | get {k s e r s' e'} (h : Ends E (k s) s e r s' e') : Ends E (.get k) s e r s' e'
  | put {t k s e r s' e'} (h : Ends E k t e r s' e') : Ends E (.put t k) s e r s' e'
  | call {c k a s e e' r s' e''} (ha : E e c a e') (h : Ends E (k a) s e' r s' e'') :
      Ends E (.call c k) s e r s' e''

section Runs

variable {E : δ → (c : C) → A c → δ → Prop} {s s' : σ} {e e' : δ} {r : Except ε α}

/-- A run is one of those that the weakest precondition speaks about. -/
theorem Ends.wp {p : Prog σ ε C A α} (h : Ends E p s e r s' e') {H : σ → Bytes → Bytes → Prop}
    {o u : Bytes} {Q : Except ε α → σ → Bytes → Bytes → δ → Prop} (hp : p.wp E H s o u e Q) :
    Q r s' o u e' := by
  induction h with
  | ret => exact hp
  | throw => exact hp
  | get _ ih => exact ih hp
  | put _ ih => exact ih hp
  | call ha _ ih => exact ih (hp _ _ ha)

/-- Sequencing. -/
theorem Ends.bind {p : Prog σ ε C A α} {a : α} (h : Ends E p s e (.ok a) s' e')
    {f : α → Prog σ ε C A β} {r : Except ε β} {t : σ} {e'' : δ} (hf : Ends E (f a) s' e' r t e'') :
    Ends E (p >>= f) s e r t e'' := by
  generalize hq : Except.ok a = q at h
  induction h with
  | ret => cases hq; exact hf
  | throw => cases hq
  | get _ ih => exact .get (ih hf hq)
  | put _ ih => exact .put (ih hf hq)
  | call ha _ ih => exact .call ha (ih hf hq)

/-- A `try` block in which nothing is thrown. -/
theorem Ends.tryCatch {p : Prog σ ε C A α} {a : α} (h : Ends E p s e (.ok a) s' e')
    (x : ε → Prog σ ε C A α) : Ends E (p.tryCatch x) s e (.ok a) s' e' := by
  generalize hq : Except.ok a = q at h
  induction h with
  | ret => exact .ret
  | throw => cases hq
  | get _ ih => exact .get (ih hq)
  | put _ ih => exact .put (ih hq)
  | call ha _ ih => exact .call ha (ih hq)

end Runs

/-! ## There is a run -/

/-- A program that talks to the environment only, and does not loop. -/
def Silent : Prog σ ε C A α → Prop
  | .ret _ | .throw _ => True
  | .get k => ∀ s, Silent (k s)
  | .put _ k => Silent k
  | .call _ k => ∀ a, Silent (k a)
  | .write _ _ | .flush _ | .read _ _ | .peek _ | .check _ _ | .spin => False

theorem Silent.bind {p : Prog σ ε C A α} (hp : Silent p) {f : α → Prog σ ε C A β}
    (hf : ∀ a, Silent (f a)) : Silent (p >>= f) := by
  induction p with
  | ret a => exact hf a
  | throw x => exact hp
  | get k ih => exact fun s => ih s (hp s)
  | put t k ih => exact ih hp
  | call c k ih => exact fun a => ih a (hp a)
  | _ => exact hp

theorem Silent.tryCatch {p : Prog σ ε C A α} (hp : Silent p) {h : ε → Prog σ ε C A α}
    (hh : ∀ x, Silent (h x)) : Silent (p.tryCatch h) := by
  induction p with
  | ret a => exact hp
  | throw x => exact hh x
  | get k ih => exact fun s => ih s (hp s)
  | put t k ih => exact ih hp
  | call c k ih => exact fun a => ih a (hp a)
  | _ => exact hp

/-- An environment that answers everything lets such a program end. -/
theorem exists_ends {E : δ → (c : C) → A c → δ → Prop} (hE : ∀ e c, ∃ a e', E e c a e')
    {p : Prog σ ε C A α} (hp : Silent p) (s : σ) (e : δ) : ∃ r s' e', Ends E p s e r s' e' := by
  induction p generalizing s e with
  | ret a => exact ⟨_, _, _, .ret⟩
  | throw x => exact ⟨_, _, _, .throw⟩
  | get k ih =>
    obtain ⟨r, s', e', h⟩ := ih s (hp s) s e
    exact ⟨r, s', e', .get h⟩
  | put t k ih =>
    obtain ⟨r, s', e', h⟩ := ih hp t e
    exact ⟨r, s', e', .put h⟩
  | call c k ih =>
    obtain ⟨a, e₁, ha⟩ := hE e c
    obtain ⟨r, s', e', h⟩ := ih a (hp a) s e₁
    exact ⟨r, s', e', .call ha h⟩
  | _ => exact hp.elim

/-! ## Exceptions that are let out -/

/-- The program may throw this exception, whatever it is told. -/
inductive Throws (x : ε) : Prog σ ε C A α → Prop
  | throw : Throws x (.throw x)
  | get {k s} (h : Throws x (k s)) : Throws x (.get k)
  | put {t k} (h : Throws x k) : Throws x (.put t k)
  | write {b k r} (h : Throws x (k r)) : Throws x (.write b k)
  | flush {k r} (h : Throws x (k r)) : Throws x (.flush k)
  | read {n k r} (h : Throws x (k r)) : Throws x (.read n k)
  | peek {k b} (h : Throws x (k b)) : Throws x (.peek k)
  | check {b k} (h : Throws x k) : Throws x (.check b k)
  | call {c k a} (h : Throws x (k a)) : Throws x (.call c k)

/-- What a `try` block lets out has been thrown by its handler. -/
theorem Throws.of_tryCatch {x : ε} {p : Prog σ ε C A α} {h : ε → Prog σ ε C A α}
    (ht : Throws x (p.tryCatch h)) : ∃ y, Throws x (h y) := by
  induction p with
  | ret a => cases ht
  | throw y => exact ⟨y, ht⟩
  | get k ih => cases ht with | get ht => exact ih _ ht
  | put t k ih => cases ht with | put ht => exact ih ht
  | write b k ih => cases ht with | write ht => exact ih _ ht
  | flush k ih => cases ht with | flush ht => exact ih _ ht
  | read n k ih => cases ht with | read ht => exact ih _ ht
  | peek k ih => cases ht with | peek ht => exact ih _ ht
  | check b k ih => cases ht with | check ht => exact ih ht
  | call c k ih => cases ht with | call ht => exact ih _ ht
  | spin => cases ht

end Prog

end Conversation

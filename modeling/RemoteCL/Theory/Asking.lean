import RemoteCL.Theory.Duplex

/-!
# What a program may ask

`p.AsksOnly Q R` says that the program `p` asks its environment only questions in `Q`, and that its
results are in `R`.  This is so whatever it reads and whatever it is answered: nothing is known of
the other party.

It is a property of the program alone, and is found by going through it: sequencing and `try` blocks
keep it, and what a reader makes of the bytes is bounded by what it can make of any bytes
(`Reader.Yields`).  The moves of a party keep it as well (`Prog.AsksOnly.move`).  So a server of
which one iteration asks only questions in `Q` never asks anything else, wherever a conversation
leads (`asked_of_run`).

A run in which nothing is answered does not depend on the environment (`Quiet.run`), and a run ends
before the first question or comes by it (`quiet_or_asked`).
-/

namespace ByteStream

variable {α β : Type}

/-- Whatever arrives, the results of the reader are in `R`. -/
def Reader.Yields (R : α → Prop) : Reader α → Prop
  | done a => R a
  | take n k => ∀ b, b.length = n → (k b).Yields R

theorem Reader.Yields.bind {R : α → Prop} {S : β → Prop} {r : Reader α} {f : α → Reader β}
    (hr : r.Yields R) (hf : ∀ a, R a → (f a).Yields S) : (r >>= f).Yields S := by
  induction r with
  | done a => exact hf a hr
  | take n k ih => exact fun b hb => ih b (hr b hb)

theorem Reader.yields_true (r : Reader α) : r.Yields fun _ => True := by
  induction r with
  | done a => trivial
  | take n k ih => exact fun b _ => ih b

/-- What a reader makes of the bytes that are there is something that it can make of any bytes. -/
theorem Reader.Yields.of_run {R : α → Prop} {r : Reader α} (hr : r.Yields R) {u v : Bytes} {a : α}
    (h : r.run u = some (a, v)) : R a := by
  induction r generalizing u with
  | done b =>
    rw [run_done, Option.some.injEq, Prod.mk.injEq] at h
    exact h.1 ▸ hr
  | take n k ih =>
    rw [run_take] at h
    split at h
    · exact ih _ (hr _ (List.length_take_of_le ‹_›)) h
    · cases h

/-- As many items are read as are asked for. -/
theorem yields_readN (r : Reader α) (n : ℕ) : (readN r n).Yields fun as => as.length = n := by
  induction n with
  | zero => rfl
  | succ n ih =>
    exact r.yields_true.bind fun a _ => ih.bind fun as has => congrArg (· + 1) has

/-- Little-endian bytes spell a number that fits into as many bytes. -/
theorem leValue_lt (b : Bytes) : leValue b < 256 ^ b.length := by
  induction b with
  | nil => exact Nat.one_pos
  | cons x b ih =>
    have hx : x.toNat < 256 := x.toNat_lt
    rw [leValue, List.length_cons, Nat.pow_succ]
    omega

end ByteStream

namespace Conversation

open ByteStream

namespace Prog

variable {σ ε C : Type} {A : C → Type} {α β δ : Type}

/-- Whatever is read and answered, only questions in `Q` are asked, and the results are in `R`. -/
def AsksOnly (Q : C → Prop) : Prog σ ε C A α → (α → Prop) → Prop
  | ret a, R => R a
  | throw _, _ => True
  | get k, R => ∀ s, (k s).AsksOnly Q R
  | put _ k, R => k.AsksOnly Q R
  | write _ k, R => (k (.ok ())).AsksOnly Q R
  | flush k, R => (k (.ok ())).AsksOnly Q R
  | read n k, R => ∀ b, b.length = n → (k (.ok b)).AsksOnly Q R
  | peek k, R => ∀ b, (k b).AsksOnly Q R
  | check _ k, R => k.AsksOnly Q R
  | call c k, R => Q c ∧ ∀ a, (k a).AsksOnly Q R
  | spin, _ => True

variable {Q : C → Prop} {R : α → Prop} {S : β → Prop}

/-- A program in a context: the context goes on with its result or exception. -/
theorem AsksOnly.context {K : Prog σ ε C A α → Prog σ ε C A β} (hK : Context K)
    {p : Prog σ ε C A α} (hp : p.AsksOnly Q R) (hret : ∀ a, R a → (K (ret a)).AsksOnly Q S)
    (hthrow : ∀ x, (K (throw x)).AsksOnly Q S) : (K p).AsksOnly Q S := by
  induction p with
  | ret a => exact hret a hp
  | throw x => exact hthrow x
  | get k ih =>
    rw [hK.get]
    exact fun s => ih s (hp s)
  | put s k ih =>
    rw [hK.put]
    exact ih hp
  | write b k ih =>
    rw [hK.write]
    exact ih _ hp
  | flush k ih =>
    rw [hK.flush]
    exact ih _ hp
  | read n k ih =>
    rw [hK.read]
    exact fun b hb => ih _ (hp b hb)
  | peek k ih =>
    rw [hK.peek]
    exact fun b => ih b (hp b)
  | check b k ih =>
    rw [hK.check]
    exact ih hp
  | call c k ih =>
    rw [hK.call]
    exact ⟨hp.1, fun a => ih a (hp.2 a)⟩
  | spin =>
    rw [hK.spin]
    trivial

/-- Sequencing. -/
theorem AsksOnly.bind {p : Prog σ ε C A α} {f : α → Prog σ ε C A β} (hp : p.AsksOnly Q R)
    (hf : ∀ a, R a → (f a).AsksOnly Q S) : (p >>= f).AsksOnly Q S :=
  AsksOnly.context (Context.bind f) hp hf fun _ => trivial

/-- A `try` block. -/
theorem AsksOnly.tryCatch {p : Prog σ ε C A α} {h : ε → Prog σ ε C A α} (hp : p.AsksOnly Q R)
    (hh : ∀ x, (h x).AsksOnly Q R) : (p.tryCatch h).AsksOnly Q R :=
  AsksOnly.context (Context.tryCatch h) hp (fun _ ha => ha) hh

theorem asksOnly_ofReader {r : Reader α} (hr : r.Yields R) :
    (ofReader r : Prog σ ε C A α).AsksOnly Q R := by
  induction r with
  | done a => exact hr
  | take n k ih =>
    rw [ofReader]
    exact fun b hb => ih b (hr b hb)

/-- **A move** of a party that asks only questions in `Q`: the rest of its program does too, and the
question that has been asked, if there was one, is in `Q`. -/
theorem AsksOnly.move {E : δ → (c : C) → A c → δ → Prop} {I : δ → Prop}
    (hI : ∀ d c a d', Q c → E d c a d' → I d → I d') {s s' : Side σ ε C A α} {i i' w : Bytes}
    {d d' : δ} (h : Move E s i d s' i' w d') (hs : s.prog.AsksOnly Q R) (hd : I d) :
    s'.prog.AsksOnly Q R ∧ I d' := by
  cases h with
  | get => exact ⟨hs _, hd⟩
  | put => exact ⟨hs, hd⟩
  | write => exact ⟨hs, hd⟩
  | flush => exact ⟨hs, hd⟩
  | read hb => exact ⟨hs _ hb, hd⟩
  | peek => exact ⟨hs _, hd⟩
  | check => exact ⟨hs, hd⟩
  | call h => exact ⟨hs.2 _, hI _ _ _ _ hs.1 h hd⟩

end Prog

/-! ## Along a conversation -/

section Runs

variable {σ τ ε C : Type} {A : C → Type} {ρ δ : Type} {E : δ → (c : C) → A c → δ → Prop}
variable {serve : Prog τ ε C A Bool} {Q : C → Prop} {I : δ → Prop}
variable {x y : Config σ τ ε C A ρ δ}

/-- **Along every run** the server asks only questions in `Q`, and what such questions keep of the
environment is kept. -/
theorem asked_of_run (hI : ∀ d c a d', Q c → E d c a d' → I d → I d')
    (hserve : serve.AsksOnly Q fun _ => True) (hx : x.server.prog.AsksOnly Q fun _ => True)
    (henv : I x.env) (hxy : Relation.ReflTransGen (Step E serve) x y) : I y.env := by
  suffices h : (y.server.prog.AsksOnly Q fun _ => True) ∧ I y.env from h.2
  induction hxy with
  | refl => exact ⟨hx, henv⟩
  | tail _ hstep ih =>
    cases hstep with
    | client m => exact ih
    | server m => exact Prog.AsksOnly.move hI m ih.1 ih.2
    | again => exact ⟨hserve, ih.2⟩
    | clientSpill => exact ih
    | serverSpill => exact ih

end Runs

/-! ## Before the first question -/

section Quiet

variable {σ τ ε C : Type} {A : C → Type} {ρ δ δ' : Type}
variable {E : δ → (c : C) → A c → δ → Prop} {serve : Prog τ ε C A Bool}
variable {x y : Config σ τ ε C A ρ δ}

/-- The same configuration with another environment. -/
def Config.withEnv (x : Config σ τ ε C A ρ δ) (e : δ') : Config σ τ ε C A ρ δ' :=
  ⟨x.client, x.server, x.up, x.down, e⟩

/-- A run in which no question is answered. -/
def Quiet (serve : Prog τ ε C A Bool) (x y : Config σ τ ε C A ρ δ) : Prop :=
  Relation.ReflTransGen (Step (fun _ _ _ _ => False) serve) x y

/-- A step that answers no question can be made in all environments. -/
theorem step_withEnv (h : Step (fun _ _ _ _ => False) serve x y)
    (E : δ' → (c : C) → A c → δ' → Prop) (e : δ') :
    y.env = x.env ∧ Step E serve (x.withEnv e) (y.withEnv e) := by
  cases h with
  | client m => exact ⟨rfl, .client m⟩
  | server m =>
    cases m with
    | call h => exact h.elim
    | get => exact ⟨rfl, .server .get⟩
    | put => exact ⟨rfl, .server .put⟩
    | write => exact ⟨rfl, .server .write⟩
    | flush => exact ⟨rfl, .server .flush⟩
    | read hb => exact ⟨rfl, .server (.read hb)⟩
    | peek => exact ⟨rfl, .server .peek⟩
    | check => exact ⟨rfl, .server .check⟩
  | again => exact ⟨rfl, .again⟩
  | clientSpill hx => exact ⟨rfl, .clientSpill hx⟩
  | serverSpill hx => exact ⟨rfl, .serverSpill hx⟩

theorem Quiet.env_eq (h : Quiet serve x y) : y.env = x.env := by
  induction h with
  | refl => rfl
  | tail _ hstep ih => exact (step_withEnv hstep (fun _ _ _ _ => False) ()).1.trans ih

/-- **Before the first question** the environment does not matter. -/
theorem Quiet.run (h : Quiet serve x y) (E : δ' → (c : C) → A c → δ' → Prop) (e : δ') :
    Relation.ReflTransGen (Step E serve) (x.withEnv e) (y.withEnv e) := by
  induction h with
  | refl => exact .refl
  | tail _ hstep ih => exact ih.tail (step_withEnv hstep E e).2

/-- A step answers a question, or it can be made whatever is answered. -/
theorem quiet_or_answered (h : Step E serve x y) :
    Step (fun _ _ _ _ => False) serve x y ∨
      ∃ c k a, x.server.prog = .call c k ∧ E x.env c a y.env := by
  cases h with
  | client m => exact Or.inl (.client m)
  | server m =>
    cases m with
    | call h => exact Or.inr ⟨_, _, _, rfl, h⟩
    | get => exact Or.inl (.server .get)
    | put => exact Or.inl (.server .put)
    | write => exact Or.inl (.server .write)
    | flush => exact Or.inl (.server .flush)
    | read hb => exact Or.inl (.server (.read hb))
    | peek => exact Or.inl (.server .peek)
    | check => exact Or.inl (.server .check)
  | again => exact Or.inl .again
  | clientSpill hx => exact Or.inl (.clientSpill hx)
  | serverSpill hx => exact Or.inl (.serverSpill hx)

/-- A run is quiet, or comes to a question. -/
theorem quiet_or_asked (h : Relation.ReflTransGen (Step E serve) x y) :
    Quiet serve x y ∨ ∃ z c k, Quiet serve x z ∧ z.server.prog = .call c k := by
  induction h with
  | refl => exact Or.inl .refl
  | tail _ hstep ih =>
    rcases ih with hquiet | hasked
    · rcases quiet_or_answered hstep with hstep | ⟨c, k, a, hcall, -⟩
      · exact Or.inl (hquiet.tail hstep)
      · exact Or.inr ⟨_, c, k, hquiet, hcall⟩
    · exact Or.inr hasked

end Quiet

end Conversation

import RemoteCL.Theory.Reader

/-!
# Programs that talk over a connection

A party of a conversation is a sequential program with a private state, an outgoing byte stream
that is buffered until it is flushed, an incoming byte stream it blocks on, and an environment
it may put questions to.  `Prog` is the type of such programs, as trees: every node is one
interaction, and its continuation says what happens for each answer.

* `σ` is the private state, `ε` the exceptions, `C` the questions to the environment and `A c`
  the answers to question `c`.
* Reading, writing and flushing may fail, so their continuations receive an `Except`.
* `check b` marks a point at which the program's author expects `b` to hold.  It is not
  executed: a program goes on behind a `check false`.  It is there to be proved true.
* `spin` is a loop that never ends.

The trees are a monad; sequencing is substitution at the leaves, so two sides of a monad law
are the same tree.
-/

namespace Conversation

open ByteStream

/-- A program of one party. -/
inductive Prog (σ ε C : Type) (A : C → Type) (α : Type) where
  | ret (a : α)
  | throw (e : ε)
  | get (k : σ → Prog σ ε C A α)
  | put (s : σ) (k : Prog σ ε C A α)
  | write (b : Bytes) (k : Except ε Unit → Prog σ ε C A α)
  | flush (k : Except ε Unit → Prog σ ε C A α)
  | read (n : ℕ) (k : Except ε Bytes → Prog σ ε C A α)
  | peek (k : Option UInt8 → Prog σ ε C A α)
  | check (b : Bool) (k : Prog σ ε C A α)
  | call (c : C) (k : A c → Prog σ ε C A α)
  | spin

namespace Prog

variable {σ ε C : Type} {A : C → Type} {α β γ : Type}

/-- Sequencing. -/
def bind : Prog σ ε C A α → (α → Prog σ ε C A β) → Prog σ ε C A β
  | ret a, f => f a
  | throw e, _ => throw e
  | get k, f => get fun s => (k s).bind f
  | put s k, f => put s (k.bind f)
  | write b k, f => write b fun r => (k r).bind f
  | flush k, f => flush fun r => (k r).bind f
  | read n k, f => read n fun r => (k r).bind f
  | peek k, f => peek fun b => (k b).bind f
  | check b k, f => check b (k.bind f)
  | call c k, f => call c fun a => (k a).bind f
  | spin, _ => spin

instance : Monad (Prog σ ε C A) where
  pure := ret
  bind := bind

theorem bind_ret (p : Prog σ ε C A α) : p.bind ret = p := by
  induction p with
  | ret a => rfl
  | throw e => rfl
  | get k ih => exact congrArg get (funext ih)
  | put s k ih => exact congrArg (put s) ih
  | write b k ih => exact congrArg (write b) (funext ih)
  | flush k ih => exact congrArg flush (funext ih)
  | read n k ih => exact congrArg (read n) (funext ih)
  | peek k ih => exact congrArg peek (funext ih)
  | check b k ih => exact congrArg (check b) ih
  | call c k ih => exact congrArg (call c) (funext ih)
  | spin => rfl

theorem bind_bind (p : Prog σ ε C A α) (f : α → Prog σ ε C A β) (g : β → Prog σ ε C A γ) :
    (p.bind f).bind g = p.bind fun a => (f a).bind g := by
  induction p with
  | ret a => rfl
  | throw e => rfl
  | get k ih => exact congrArg get (funext ih)
  | put s k ih => exact congrArg (put s) ih
  | write b k ih => exact congrArg (write b) (funext ih)
  | flush k ih => exact congrArg flush (funext ih)
  | read n k ih => exact congrArg (read n) (funext ih)
  | peek k ih => exact congrArg peek (funext ih)
  | check b k ih => exact congrArg (check b) ih
  | call c k ih => exact congrArg (call c) (funext ih)
  | spin => rfl

instance : LawfulMonad (Prog σ ε C A) := LawfulMonad.mk' _ bind_ret (fun _ _ => rfl) bind_bind

@[simp] theorem pure_eq (a : α) : (pure a : Prog σ ε C A α) = ret a := rfl

@[simp] theorem ret_bind (a : α) (f : α → Prog σ ε C A β) : ret a >>= f = f a := rfl

/-- A `try` block: the handler takes over at a thrown exception, wherever it was thrown. -/
def tryCatch : Prog σ ε C A α → (ε → Prog σ ε C A α) → Prog σ ε C A α
  | ret a, _ => ret a
  | throw e, h => h e
  | get k, h => get fun s => (k s).tryCatch h
  | put s k, h => put s (k.tryCatch h)
  | write b k, h => write b fun r => (k r).tryCatch h
  | flush k, h => flush fun r => (k r).tryCatch h
  | read n k, h => read n fun r => (k r).tryCatch h
  | peek k, h => peek fun b => (k b).tryCatch h
  | check b k, h => check b (k.tryCatch h)
  | call c k, h => call c fun a => (k a).tryCatch h
  | spin, _ => spin

/-- A program with a hole, in which every interaction of the program that is put there is an
interaction of the whole.  What the context does to a result or to an exception is not
restricted: `>>= f` and `try … catch` are contexts. -/
structure Context {σ ε C : Type} {A : C → Type} {α β : Type}
    (K : Prog σ ε C A α → Prog σ ε C A β) : Prop where
  get : ∀ k, K (.get k) = .get fun s => K (k s)
  put : ∀ s k, K (.put s k) = .put s (K k)
  write : ∀ b k, K (.write b k) = .write b fun r => K (k r)
  flush : ∀ k, K (.flush k) = .flush fun r => K (k r)
  read : ∀ n k, K (.read n k) = .read n fun r => K (k r)
  peek : ∀ k, K (.peek k) = .peek fun b => K (k b)
  check : ∀ b k, K (.check b k) = .check b (K k)
  call : ∀ c k, K (.call c k) = .call c fun a => K (k a)
  spin : K .spin = .spin

theorem Context.hole : Context fun p : Prog σ ε C A α => p := by
  constructor <;> intros <;> rfl

theorem Context.bind (f : α → Prog σ ε C A β) : Context fun p => p >>= f := by
  constructor <;> intros <;> rfl

theorem Context.tryCatch (h : ε → Prog σ ε C A α) : Context fun p => p.tryCatch h := by
  constructor <;> intros <;> rfl

theorem Context.comp {K : Prog σ ε C A α → Prog σ ε C A β} {L : Prog σ ε C A β → Prog σ ε C A γ}
    (hK : Context K) (hL : Context L) : Context fun p => L (K p) where
  get k := by rw [hK.get, hL.get]
  put s k := by rw [hK.put, hL.put]
  write b k := by rw [hK.write, hL.write]
  flush k := by rw [hK.flush, hL.flush]
  read n k := by rw [hK.read, hL.read]
  peek k := by rw [hK.peek, hL.peek]
  check b k := by rw [hK.check, hL.check]
  call c k := by rw [hK.call, hL.call]
  spin := by rw [hK.spin, hL.spin]

/-! ## The interactions, as programs of their own -/

/-- A result, or the exception it stands for. -/
def liftExcept : Except ε α → Prog σ ε C A α
  | .ok a => ret a
  | .error e => throw e

/-- Put bytes into the outgoing stream. -/
def send (b : Bytes) : Prog σ ε C A Unit := write b liftExcept

/-- Push everything written so far onto the wire. -/
def flushOut : Prog σ ε C A Unit := flush liftExcept

/-- The next byte, left in place; `none` when the stream has ended. -/
def peekByte : Prog σ ε C A (Option UInt8) := peek ret

/-- The private state. -/
def getState : Prog σ ε C A σ := get ret

/-- Replace the private state. -/
def putState (s : σ) : Prog σ ε C A Unit := put s (ret ())

/-- Change the private state. -/
def modifyState (f : σ → σ) : Prog σ ε C A Unit := get fun s => put (f s) (ret ())

/-- Note an expectation. -/
def expect (b : Bool) : Prog σ ε C A Unit := check b (ret ())

/-- Put a question to the environment. -/
def ask (c : C) : Prog σ ε C A (A c) := call c ret

/-- A reader runs as a program that blocks on its connection. -/
def ofReader : Reader α → Prog σ ε C A α
  | .done a => ret a
  | .take n k => read n fun
    | .ok b => ofReader (k b)
    | .error e => throw e

@[simp] theorem ofReader_done (a : α) :
    (ofReader (Reader.done a) : Prog σ ε C A α) = ret a := rfl

theorem ofReader_take_bind (n : ℕ) (q : Bytes → Reader α) (f : α → Prog σ ε C A β) :
    ofReader (Reader.take n q) >>= f = read n fun
      | .ok b => ofReader (q b) >>= f
      | .error e => throw e := by
  show Prog.bind _ _ = _
  rw [ofReader, Prog.bind]
  congr 1
  funext r
  cases r <;> rfl

/-- The programs that read a byte before they do anything else. -/
def ReadsByte (p : Prog σ ε C A α) : Prop := ∃ k, p = read 1 k

theorem ReadsByte.bind {p : Prog σ ε C A α} (hp : ReadsByte p) (f : α → Prog σ ε C A β) :
    ReadsByte (p >>= f) := by
  obtain ⟨k, rfl⟩ := hp
  exact ⟨_, rfl⟩

theorem ReadsByte.tryCatch {p : Prog σ ε C A α} (hp : ReadsByte p)
    (h : ε → Prog σ ε C A α) : ReadsByte (p.tryCatch h) := by
  obtain ⟨k, rfl⟩ := hp
  exact ⟨_, rfl⟩

end Prog

end Conversation

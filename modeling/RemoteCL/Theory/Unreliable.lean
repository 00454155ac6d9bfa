import RemoteCL.Theory.Prog

/-!
# Programs on a connection that may fail

`Duplex` and `Wp` follow a program on a connection that works.  Here sends and receives may fail
at any time, memory may run out while something is received, and the other party may say
anything.  `Prog.Faulty` are the executions of a program under these conditions, and each of them
carries the list of the faults that it met.

## What is written and what is sent

What a program writes is collected in a cache, and only a write that fills the cache or a flush of
a cache that is not empty has anything to send.  So an execution keeps count of the bytes in the
cache, and a send can fail only where there is one.  A send that fails is answered with an
exception, or, if the other party has closed the connection, with a signal that kills the process:
a program that does not ask to be spared has no part in that.

## What is received

The bytes that arrive before the connection is lost are given.  A receive that finds too few of
them fails, and nothing arrives after that.  A block that is larger than the cache is received in
a loop of its own, which does not notice that the stream has ended: such a receive may also wait
for ever.  So may a question to the environment, which need not be answered.

A program is *strict* if it does nothing about a failing interaction but to pass the exception on.
-/

namespace Conversation

open ByteStream

/-- What can go wrong: a send fails, a receive fails or finds the stream ended, or the program
itself raises an exception. -/
inductive Fault (ε : Type) where
  | send
  | receive
  | raised (e : ε)
  deriving DecidableEq

/-- What programs have in common that talk over connections of one kind: the exception of a failing
send or receive, the exception of a failing allocation, the size of the caches, and whether a
receive may need new memory, by the number of bytes that are left. -/
structure Medium (ε : Type) where
  lost : ε
  noMemory : ε
  cache : ℕ
  allocates : ℕ → Prop
  lost_ne : lost ≠ noMemory

/-- The same connection, with as much memory as is needed. -/
def Medium.ample {ε : Type} (M : Medium ε) : Medium ε := { M with allocates := fun _ => False }

/-- How a program does not come back: it waits for ever, in a receive or for an answer; it is in a
loop of its own that never ends; or a signal has killed it. -/
inductive Never where
  | hang
  | spin
  | killed
  deriving DecidableEq

/-- How an execution stops: with a result or an exception, the private state, the bytes that were
not consumed, the number of bytes in the cache, and the environment; or never. -/
inductive Stop (σ ε α δ : Type) where
  | done (r : Except ε α) (s : σ) (u : Bytes) (w : ℕ) (d : δ)
  | never (how : Never) (d : δ)

namespace Stop

variable {σ ε α δ : Type}

/-- The environment at the end. -/
def env : Stop σ ε α δ → δ
  | done _ _ _ _ d | never _ d => d

/-- The program has come to a result. -/
def Returns : Stop σ ε α δ → Prop
  | done (.ok _) _ _ _ _ => True
  | _ => False

end Stop

namespace Prog

variable {σ ε C : Type} {A : C → Type} {α β δ : Type} [DecidableEq ε]

/-- The executions of a program, with the faults they meet.  The first argument of the relation is
the exception that is being passed on, if the last interaction has failed: it is not a fault of
its own when the program ends with it. -/
inductive Faulty (M : Medium ε) (E : δ → (c : C) → A c → δ → Prop) :
    Option ε → Prog σ ε C A α → σ → Bytes → ℕ → δ → Stop σ ε α δ → List (Fault ε) → Prop
  | ret {x a s u w d} : Faulty M E x (.ret a) s u w d (.done (.ok a) s u w d) []
  | throw {x e s u w d} :
      Faulty M E x (.throw e) s u w d (.done (.error e) s u w d)
        (if x = some e ∨ e = M.noMemory then [] else [.raised e])
  | get {x k s u w d o fs} (h : Faulty M E none (k s) s u w d o fs) :
      Faulty M E x (.get k) s u w d o fs
  | put {x k s s' u w d o fs} (h : Faulty M E none k s' u w d o fs) :
      Faulty M E x (.put s' k) s u w d o fs
  | write {x b k s u w d o fs} (hw : w + b.length < M.cache)
      (h : Faulty M E none (k (.ok ())) s u (w + b.length) d o fs) :
      Faulty M E x (.write b k) s u w d o fs
  | writeSpills {x b k s u w w' d o fs} (hw : M.cache ≤ w + b.length) (hw' : w' < M.cache)
      (h : Faulty M E none (k (.ok ())) s u w' d o fs) :
      Faulty M E x (.write b k) s u w d o fs
  | writeFails {x b k s u w w' d o fs} (hw : M.cache ≤ w + b.length)
      (h : Faulty M E (some M.lost) (k (.error M.lost)) s u w' d o fs) :
      Faulty M E x (.write b k) s u w d o (.send :: fs)
  | writeKills {x b k s u w d} (hw : M.cache ≤ w + b.length) :
      Faulty M E x (.write b k) s u w d (.never .killed d) [.send]
  | flush {x k s u w d o fs} (h : Faulty M E none (k (.ok ())) s u 0 d o fs) :
      Faulty M E x (.flush k) s u w d o fs
  | flushFails {x k s u w d o fs} (hw : 0 < w)
      (h : Faulty M E (some M.lost) (k (.error M.lost)) s u w d o fs) :
      Faulty M E x (.flush k) s u w d o (.send :: fs)
  | flushKills {x k s u w d} (hw : 0 < w) :
      Faulty M E x (.flush k) s u w d (.never .killed d) [.send]
  | read {x n b k s u w d o fs} (hb : b.length = n)
      (h : Faulty M E none (k (.ok b)) s u w d o fs) :
      Faulty M E x (.read n k) s (b ++ u) w d o fs
  | readFails {x n k s u w d o fs} (hn : u.length < n)
      (h : Faulty M E (some M.lost) (k (.error M.lost)) s [] w d o fs) :
      Faulty M E x (.read n k) s u w d o (.receive :: fs)
  | readForever {x n k s u w d} (hn : u.length + M.cache ≤ n) :
      Faulty M E x (.read n k) s u w d (.never .hang d) []
  | readNoMemory {x n k s u w d o fs} (hu : M.allocates u.length)
      (h : Faulty M E (some M.noMemory) (k (.error M.noMemory)) s u w d o fs) :
      Faulty M E x (.read n k) s u w d o fs
  | peek {x k s u w d o fs} (h : Faulty M E none (k u.head?) s u w d o fs) :
      Faulty M E x (.peek k) s u w d o fs
  | check {x b k s u w d o fs} (h : Faulty M E none k s u w d o fs) :
      Faulty M E x (.check b k) s u w d o fs
  | call {x c a k s u w d d' o fs} (ha : E d c a d')
      (h : Faulty M E none (k a) s u w d' o fs) : Faulty M E x (.call c k) s u w d o fs
  | callForever {x c k s u w d} : Faulty M E x (.call c k) s u w d (.never .hang d) []
  | spin {x s u w d} : Faulty M E x .spin s u w d (.never .spin d) []

section Readers

variable {M : Medium ε} {E : δ → (c : C) → A c → δ → Prop} {γ : Type}
variable {K : Prog σ ε C A β → Prog σ ε C A γ} {f : α → Prog σ ε C A β} {r : Reader α}
variable {s : σ} {u : Bytes} {w : ℕ} {d : δ} {o : Stop σ ε γ δ} {fs : List (Fault ε)}

/-- A reader finds all its bytes. -/
theorem Faulty.reads (hK : Context K) {a : α} {v : Bytes} (hr : r.run u = some (a, v))
    (h : Faulty M E none (K (f a)) s v w d o fs) :
    Faulty M E none (K (ofReader r >>= f)) s u w d o fs := by
  induction r generalizing u with
  | done b =>
    rw [Reader.run_done, Option.some.injEq, Prod.mk.injEq] at hr
    obtain ⟨rfl, rfl⟩ := hr
    exact h
  | take n k ih =>
    rw [Reader.run_take] at hr
    split at hr
    · rename_i hn
      rw [ofReader_take_bind, hK.read, ← List.take_append_drop n u]
      exact .read (List.length_take_of_le hn) (ih _ hr)
    · cases hr

/-- A reader does not find all its bytes. -/
theorem Faulty.ends (hK : Context K) (hr : r.run u = none)
    (h : Faulty M E (some M.lost) (K (Prog.throw M.lost)) s [] w d o fs) :
    Faulty M E none (K (ofReader r >>= f)) s u w d o (.receive :: fs) := by
  induction r generalizing u with
  | done b => cases hr
  | take n k ih =>
    rw [Reader.run_take] at hr
    rw [ofReader_take_bind, hK.read]
    split at hr
    · rename_i hn
      rw [← List.take_append_drop n u]
      exact .read (List.length_take_of_le hn) (ih _ hr)
    · rename_i hn
      exact .readFails (Nat.lt_of_not_le hn) h

end Readers

/-! ## Strict programs -/

/-- The programs that pass on every failure, except that they may do something of their own about a
failing allocation. -/
def Strict (M : Medium ε) : Prog σ ε C A α → Prop
  | ret _ => True
  | throw _ => True
  | get k => ∀ s, (k s).Strict M
  | put _ k => k.Strict M
  | write _ k => k (.error M.lost) = throw M.lost ∧ (k (.ok ())).Strict M
  | flush k => k (.error M.lost) = throw M.lost ∧ (k (.ok ())).Strict M
  | read _ k => k (.error M.lost) = throw M.lost ∧ (k (.error M.noMemory)).Strict M ∧
      ∀ b, (k (.ok b)).Strict M
  | peek k => ∀ b, (k b).Strict M
  | check _ k => k.Strict M
  | call _ k => ∀ a, (k a).Strict M
  | spin => True

section Strict

variable {M : Medium ε}

omit [DecidableEq ε] in
/-- A program in a context that passes on the loss of the connection. -/
theorem Strict.context {K : Prog σ ε C A α → Prog σ ε C A β} (hK : Context K)
    {p : Prog σ ε C A α} (hp : p.Strict M) (hlost : K (throw M.lost) = throw M.lost)
    (hret : ∀ a, (K (ret a)).Strict M) (hthrow : ∀ e, (K (throw e)).Strict M) :
    (K p).Strict M := by
  induction p with
  | ret a => exact hret a
  | throw e => exact hthrow e
  | get k ih =>
    rw [hK.get]
    exact fun s => ih s (hp s)
  | put s k ih =>
    rw [hK.put]
    exact ih hp
  | write b k ih =>
    rw [hK.write]
    exact ⟨(congrArg K hp.1).trans hlost, ih _ hp.2⟩
  | flush k ih =>
    rw [hK.flush]
    exact ⟨(congrArg K hp.1).trans hlost, ih _ hp.2⟩
  | read n k ih =>
    rw [hK.read]
    exact ⟨(congrArg K hp.1).trans hlost, ih _ hp.2.1, fun b => ih _ (hp.2.2 b)⟩
  | peek k ih =>
    rw [hK.peek]
    exact fun b => ih b (hp b)
  | check b k ih =>
    rw [hK.check]
    exact ih hp
  | call c k ih =>
    rw [hK.call]
    exact fun a => ih a (hp a)
  | spin =>
    rw [hK.spin]
    trivial

omit [DecidableEq ε] in
theorem Strict.bind {p : Prog σ ε C A α} {f : α → Prog σ ε C A β} (hp : p.Strict M)
    (hf : ∀ a, (f a).Strict M) : (p >>= f).Strict M :=
  hp.context (Context.bind f) rfl hf fun _ => trivial

omit [DecidableEq ε] in
theorem strict_send (b : Bytes) : (send b : Prog σ ε C A Unit).Strict M := ⟨rfl, trivial⟩

omit [DecidableEq ε] in
theorem strict_flushOut : (flushOut : Prog σ ε C A Unit).Strict M := ⟨rfl, trivial⟩

omit [DecidableEq ε] in
theorem strict_ofReader (r : Reader α) : (ofReader r : Prog σ ε C A α).Strict M := by
  induction r with
  | done a => trivial
  | take n k ih =>
    rw [ofReader]
    exact ⟨rfl, trivial, fun b => ih b⟩

end Strict

end Prog

end Conversation

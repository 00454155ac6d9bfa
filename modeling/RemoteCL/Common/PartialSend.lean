import RemoteCL.Common.SocketStream

/-!
# Blocks that the system accepts in part

`WriteCache` takes it for granted that what is handed to the socket is sent.  Here the system
decides about every block.  The result of `::send` is negative, and then `Socket::send` throws, or
it is the number of bytes that have been accepted.  `Socket::send` compares this number with the
size of the block in an assertion only, which is not executed.

The functions are those of `WriteCache` with `Socket::send` in the place of the append, and as long
as they return they do the same to the buffer (`Sender.Follows`).  What differs is what the peer
receives: it is what `WriteCache` sends if every block was accepted whole, and shorter otherwise.
-/

namespace RemoteCL

open ByteStream

/-- A block that has been handed to the system, and the result of `::send`. -/
structure Offer where
  size : ℕ
  written : ℤ
  deriving DecidableEq

/-- The system has accepted all of the block. -/
def Offer.Whole (o : Offer) : Prop := (o.size : ℤ) ≤ o.written

instance (o : Offer) : Decidable o.Whole := inferInstanceAs (Decidable (_ ≤ _))

/-- The writing half of a `SocketStream` on a system that decides about every block.  What has been
sent is what the peer receives. -/
structure Sender extends WriteCache where
  /-- The results of the calls of `::send` that are still to come. -/
  results : ℕ → ℤ
  /-- The blocks that have been accepted, wholly or in part. -/
  offers : List Offer

/-- How a write can fail. -/
inductive WriteError where
  | socketError
  /-- A copy would leave the buffer. -/
  | outOfBuffer
  /-- The copy loop does not end in the iterations that it is given. -/
  | endless
  deriving DecidableEq

namespace Sender

open WriteCache (Call written)

/-- A new stream. -/
def fresh (mWriteBuffer : Buffer) (results : ℕ → ℤ) : Sender :=
  ⟨WriteCache.fresh mWriteBuffer, results, []⟩

/-- `Socket::send`. -/
def send (s : Sender) (data : Bytes) : Except WriteError Sender :=
  if s.results 0 < 0 then .error .socketError
  else .ok { s with
    sent := s.sent ++ data.take (s.results 0).toNat
    results := fun i => s.results (i + 1)
    offers := s.offers ++ [⟨data.length, s.results 0⟩] }

def flushWriteBuffer (s : Sender) : Except WriteError Sender := do
  let s ← s.send s.pending
  pure { s with mWriteOffset := 0 }

def flush (s : Sender) : Except WriteError Sender :=
  if s.mWriteOffset ≠ 0 then s.flushWriteBuffer else pure s

/-- One iteration of the copy loop. -/
def copy (s : Sender) (left : Bytes) : Except WriteError (Sender × Bytes) :=
  let available := BufferSize - s.mWriteOffset
  let writeSize := min available left.length
  match s.mWriteBuffer.store s.mWriteOffset (left.take writeSize) with
  | none => .error .outOfBuffer
  | some mWriteBuffer => do
    let s := { s with mWriteBuffer, mWriteOffset := u16 (s.mWriteOffset + writeSize) }
    let s ← if s.mWriteOffset = BufferSize then s.flushWriteBuffer else pure s
    pure (s, left.drop writeSize)

/-- The copy loop, of which no more than `fuel` iterations are run. -/
def copyLoop : ℕ → Sender → Bytes → Except WriteError Sender
  | _, s, [] => pure s
  | 0, _, _ :: _ => .error .endless
  | fuel + 1, s, b :: left => do
    let r ← s.copy (b :: left)
    copyLoop fuel r.1 r.2

def write (fuel : ℕ) (s : Sender) (out : Bytes) : Except WriteError Sender :=
  if BufferSize ≤ out.length then do
    let s ← s.flush
    s.send out
  else s.copyLoop fuel out

def call (fuel : ℕ) (s : Sender) : Call → Except WriteError Sender
  | .write data => s.write fuel data
  | .flush => s.flush

/-- A sequence of calls, up to the first that throws. -/
def run (fuel : ℕ) : Sender → List Call → Except WriteError Sender
  | s, [] => pure s
  | s, c :: cs => do
    let s ← s.call fuel c
    run fuel s cs

/-! ## Following the cache -/

/-- The system has accepted all blocks whole. -/
def Whole (s : Sender) : Prop := ∀ o ∈ s.offers, o.Whole

/-- The buffer is that of the cache, and the peer receives what the cache sends, or less. -/
structure Rel (s : Sender) (c : WriteCache) : Prop where
  mWriteBuffer : s.mWriteBuffer = c.mWriteBuffer
  mWriteOffset : s.mWriteOffset = c.mWriteOffset
  whole : s.Whole → s.sent = c.sent
  short : ¬ s.Whole → s.sent.length < c.sent.length

theorem Rel.length_le {s : Sender} {c : WriteCache} (h : s.Rel c) :
    s.sent.length ≤ c.sent.length := by
  by_cases hs : s.Whole
  · rw [h.whole hs]
  · exact Nat.le_of_lt (h.short hs)

theorem Rel.pending_eq {s : Sender} {c : WriteCache} (h : s.Rel c) : s.pending = c.pending := by
  rw [WriteCache.pending, WriteCache.pending, h.mWriteBuffer, h.mWriteOffset]

theorem rel_fresh (b : Buffer) (results : ℕ → ℤ) :
    (fresh b results).Rel (WriteCache.fresh b) where
  mWriteBuffer := rfl
  mWriteOffset := rfl
  whole _ := rfl
  short h := absurd (fun _ ho => absurd ho List.not_mem_nil) h

/-- The result is related to that of the cache, unless a call of `::send` has failed. -/
def Follows {α β : Type} (R : α → β → Prop) (x : Except WriteError α) (b : β) : Prop :=
  x = .error .socketError ∨ ∃ a, x = .ok a ∧ R a b

theorem follows_pure {α β : Type} {R : α → β → Prop} {a : α} {b : β} (h : R a b) :
    Follows R (pure a) b :=
  Or.inr ⟨a, rfl, h⟩

theorem Follows.bind {α α' β β' : Type} {R : α → β → Prop} {S : α' → β' → Prop}
    {x : Except WriteError α} {f : α → Except WriteError α'} {b : β} {b' : β'}
    (h : Follows R x b) (hf : ∀ a, R a b → Follows S (f a) b') : Follows S (x >>= f) b' := by
  rcases h with rfl | ⟨a, rfl, ha⟩
  · exact Or.inl rfl
  · exact hf a ha

variable {s : Sender} {c : WriteCache}

theorem Rel.send (h : s.Rel c) (data : Bytes) :
    Follows Rel (s.send data) { c with sent := c.sent ++ data } := by
  rw [Sender.send]
  split
  · exact Or.inl rfl
  have hlast : ∀ {o}, o ∈ s.offers ++ [⟨data.length, s.results 0⟩] →
      o ∈ s.offers ∨ o = ⟨data.length, s.results 0⟩ := fun ho =>
    (List.mem_append.mp ho).imp id List.mem_singleton.mp
  refine Or.inr ⟨_, rfl, h.mWriteBuffer, h.mWriteOffset, fun hs => ?_, fun hs => ?_⟩
  · have hold : s.Whole := fun o ho => hs o (List.mem_append_left _ ho)
    have hnew : (data.length : ℤ) ≤ s.results 0 :=
      hs ⟨data.length, s.results 0⟩ (List.mem_append_right _ (List.mem_singleton_self _))
    show s.sent ++ data.take (s.results 0).toNat = c.sent ++ data
    rw [h.whole hold, List.take_of_length_le (by omega)]
  · have hle := h.length_le
    show (s.sent ++ data.take (s.results 0).toNat).length < (c.sent ++ data).length
    rw [List.length_append, List.length_append, List.length_take]
    by_cases hold : s.Whole
    · have hnew : ¬ (data.length : ℤ) ≤ s.results 0 := fun hnew =>
        hs fun o ho => (hlast ho).elim (hold o) fun heq => heq ▸ hnew
      omega
    · have hlt := h.short hold
      omega

theorem Rel.flushWriteBuffer (h : s.Rel c) :
    Follows Rel s.flushWriteBuffer c.flushWriteBuffer := by
  rw [Sender.flushWriteBuffer, WriteCache.flushWriteBuffer, ← h.pending_eq]
  exact (h.send s.pending).bind fun s' h' =>
    follows_pure ⟨h'.mWriteBuffer, rfl, h'.whole, h'.short⟩

theorem Rel.flush (h : s.Rel c) : Follows Rel s.flush c.flush := by
  rw [Sender.flush, WriteCache.flush, h.mWriteOffset]
  split
  · exact h.flushWriteBuffer
  · exact follows_pure h

theorem Rel.copy (h : s.Rel c) {left left' : Bytes} {c' : WriteCache}
    (hcopy : c.copy left = some (c', left')) :
    Follows (fun a b : _ × Bytes => a.1.Rel b.1 ∧ a.2 = b.2) (s.copy left) (c', left') := by
  rw [WriteCache.copy, Option.map_eq_some_iff] at hcopy
  obtain ⟨b, hb, hpair⟩ := hcopy
  rw [Prod.mk.injEq] at hpair
  obtain ⟨rfl, rfl⟩ := hpair
  rw [Sender.copy, h.mWriteOffset, h.mWriteBuffer, hb]
  dsimp only
  have hstored : Rel { s with
      mWriteBuffer := b
      mWriteOffset := u16 (c.mWriteOffset + min (BufferSize - c.mWriteOffset) left.length) }
      { c with
        mWriteBuffer := b
        mWriteOffset := u16 (c.mWriteOffset + min (BufferSize - c.mWriteOffset) left.length) } :=
    ⟨rfl, rfl, h.whole, h.short⟩
  split
  · exact hstored.flushWriteBuffer.bind fun _ h' => follows_pure ⟨h', rfl⟩
  · exact follows_pure ⟨hstored, rfl⟩

theorem Rel.copyLoop (h : s.Rel c) {fuel n : ℕ} {out : Bytes} {c' : WriteCache}
    (hloop : c.copyLoop fuel out = some (c', n)) : Follows Rel (s.copyLoop fuel out) c' := by
  induction fuel generalizing s c n out with
  | zero =>
    cases out with
    | nil =>
      rw [WriteCache.copyLoop, Option.some.injEq, Prod.mk.injEq] at hloop
      exact hloop.1 ▸ follows_pure h
    | cons b out => cases hloop
  | succ fuel ih =>
    cases out with
    | nil =>
      rw [WriteCache.copyLoop, Option.some.injEq, Prod.mk.injEq] at hloop
      exact hloop.1 ▸ follows_pure h
    | cons b out =>
      rw [WriteCache.copyLoop, Option.bind_eq_some_iff] at hloop
      obtain ⟨⟨c₁, left⟩, hcopy, hrest⟩ := hloop
      rw [Option.map_eq_some_iff] at hrest
      obtain ⟨⟨c₂, m⟩, hrest, hpair⟩ := hrest
      rw [Prod.mk.injEq] at hpair
      obtain ⟨rfl, -⟩ := hpair
      refine (h.copy hcopy).bind fun r hr => ?_
      rw [hr.2]
      exact ih hr.1 hrest

theorem Rel.call (h : s.Rel c) {fuel n : ℕ} {k : Call} {c' : WriteCache}
    (hcall : c.call fuel k = some (c', n)) : Follows Rel (s.call fuel k) c' := by
  cases k with
  | flush =>
    rw [WriteCache.call, Option.some.injEq, Prod.mk.injEq] at hcall
    exact hcall.1 ▸ h.flush
  | write out =>
    rw [WriteCache.call, WriteCache.write] at hcall
    rw [Sender.call, Sender.write]
    split at hcall
    · rw [Option.some.injEq, Prod.mk.injEq] at hcall
      rw [if_pos ‹_›, ← hcall.1]
      exact h.flush.bind fun s' h' => h'.send out
    · rw [if_neg ‹_›]
      exact h.copyLoop hcall

theorem Rel.run (h : s.Rel c) {fuel : ℕ} {cs : List Call} {c' : WriteCache} {ns : List ℕ}
    (hrun : c.run fuel cs = some (c', ns)) : Follows Rel (s.run fuel cs) c' := by
  induction cs generalizing s c ns with
  | nil =>
    rw [WriteCache.run, Option.some.injEq, Prod.mk.injEq] at hrun
    exact hrun.1 ▸ follows_pure h
  | cons k cs ih =>
    rw [WriteCache.run, Option.bind_eq_some_iff] at hrun
    obtain ⟨⟨c₁, n⟩, hcall, hrest⟩ := hrun
    rw [Option.map_eq_some_iff] at hrest
    obtain ⟨⟨c₂, ms⟩, hrest, hpair⟩ := hrest
    rw [Prod.mk.injEq] at hpair
    obtain ⟨rfl, -⟩ := hpair
    exact (h.call hcall).bind fun s' h' => ih h' hrest

/-! ## What the peer receives -/

/-- No byte is lost: a stream that goes on has sent what was written, except for what is pending,
and after a flush all of it; and it stops with a `Socket::Error` only. -/
def Lossless (cs : List Call) : Except WriteError Sender → Prop
  | .ok s => s.sent ++ s.pending = written cs ∧ (cs.getLast? = some .flush → s.sent = written cs)
  | .error x => x = .socketError

/-- A run loses nothing as long as the blocks are accepted whole. -/
theorem lossless_iff (b : Buffer) (results : ℕ → ℤ) (fuel : ℕ) (cs : List Call) :
    Lossless cs ((fresh b results).run (fuel + 2) cs) ↔
      ∀ s, (fresh b results).run (fuel + 2) cs = .ok s → s.Whole := by
  obtain ⟨c, ns, hrun, heq, -, -, hlast⟩ := WriteCache.byte_sink b fuel cs
  rcases (rel_fresh b results).run hrun with hthrows | ⟨s, hs, hrel⟩
  · rw [hthrows]
    exact iff_of_true rfl fun s hs => nomatch hs
  have hpending : s.pending = c.mWriteBuffer.1.take c.mWriteOffset := hrel.pending_eq
  rw [hs]
  constructor
  · intro h s' hs'
    rw [← Except.ok.inj hs']
    by_contra hwhole
    have hlt := hrel.short hwhole
    have hlen := congrArg List.length (h.1.trans heq.symm)
    rw [hpending, List.length_append, List.length_append] at hlen
    omega
  · intro h
    have hsent : s.sent = c.sent := hrel.whole (h s rfl)
    refine ⟨by rw [hsent, hpending, heq], fun hflush => ?_⟩
    rw [← heq, hlast hflush, List.take_zero, List.append_nil, hsent]

/-- **Partial sends**: a stream, up to any of its calls, has lost no byte exactly if every block
that was handed to the system by a call that returned has been accepted whole. -/
theorem no_byte_lost_iff (b : Buffer) (results : ℕ → ℤ) (fuel : ℕ) (cs : List Call) :
    (∀ k, Lossless (cs.take k) ((fresh b results).run (fuel + 2) (cs.take k))) ↔
      ∀ k s, (fresh b results).run (fuel + 2) (cs.take k) = .ok s → s.Whole :=
  forall_congr' fun k => lossless_iff b results fuel (cs.take k)

/-- The system accepts one of two bytes: the flush returns, and the second byte is lost. -/
theorem byte_lost_on_partial_send :
    ¬ ∀ (b : Buffer) (results : ℕ → ℤ) (fuel : ℕ) (cs : List Call),
      ∀ k, Lossless (cs.take k) ((fresh b results).run (fuel + 2) (cs.take k)) := by
  intro h
  have hlossless := h Buffer.zeros (fun _ => 1) 0 [.write [1, 2], .flush] 2
  have hsent := hlossless.2 rfl
  revert hsent
  decide +kernel

end Sender

end RemoteCL

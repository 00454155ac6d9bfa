import RemoteCL.Common.Packet

/-!
# The caches of a socket stream

A `SocketStream` has two caches of `BufferSize` bytes.  Everything above it, packets and
conversations, treats it as a pair of byte streams.  This file has the caches themselves.

## 1.  Writing

Small writes are collected in `mWriteBuffer`, and large ones go past it.  The bytes that have been
handed to the socket, followed by those that wait in the buffer, are always the bytes written so
far (`WriteCache.byte_sink`).  A copy that would leave the buffer is no step of the model, and
the copy loop is given a number of iterations that it may take: that the run of a sequence of
calls exists says that no copy leaves the buffer and that the loop ends.

## 2.  Reading

The network cuts the incoming bytes as it likes.  What a call of `receive` yields is decided by
the numbers `cuts`, which are arbitrary.  The bytes in the buffer, followed by those that are
still in the network, are always the bytes not read so far, and so the results of the calls do not
depend on the cuts (`ReadCache.transparent`).
-/

namespace RemoteCL

open ByteStream

/-! ## Buffers -/

/-- Size of the read and write buffers in bytes. -/
def BufferSize : ℕ := 1024

theorem BufferSize_pos : 0 < BufferSize := by decide

/-- An array of `BufferSize` bytes. -/
def Buffer : Type := {bytes : Bytes // bytes.length = BufferSize}

namespace Buffer

/-- An array whose memory happens to be clear. -/
def zeros : Buffer := ⟨List.replicate BufferSize 0, List.length_replicate⟩

/-- `memcpy` into the array, from an offset on; `none` if that leaves the array. -/
def store (b : Buffer) (offset : ℕ) (data : Bytes) : Option Buffer :=
  if h : offset + data.length ≤ BufferSize then
    some ⟨b.1.take offset ++ data ++ b.1.drop (offset + data.length), by
      have hb : b.1.length = BufferSize := b.2
      rw [List.length_append, List.length_append, List.length_take, List.length_drop]
      omega⟩
  else none

/-- `memcpy` out of the array, from an offset on; `none` if that leaves the array. -/
def load (b : Buffer) (offset n : ℕ) : Option Bytes :=
  if offset + n ≤ BufferSize then some ((b.1.drop offset).take n) else none

/-- What is stored from an offset on follows what the array held before that offset. -/
theorem take_store {b b' : Buffer} {offset : ℕ} {data : Bytes}
    (h : b.store offset data = some b') :
    b'.1.take (offset + data.length) = b.1.take offset ++ data := by
  have hb : b.1.length = BufferSize := b.2
  rw [store] at h
  split at h
  · rename_i hle
    rw [← Option.some.inj h]
    refine List.take_left' ?_
    rw [List.length_append, List.length_take]
    omega
  · exact absurd h (by simp)

theorem store_eq_some {b : Buffer} {offset : ℕ} {data : Bytes}
    (h : offset + data.length ≤ BufferSize) : ∃ b', b.store offset data = some b' :=
  ⟨_, dif_pos h⟩

end Buffer

/-- `uint16_t` arithmetic. -/
def u16 (n : ℕ) : ℕ := n % 2 ^ 16

theorem u16_of_le {n : ℕ} (h : n ≤ BufferSize) : u16 n = n := by
  rw [BufferSize] at h
  exact Nat.mod_eq_of_lt (by omega)

/-! ## 1.  Writing -/

/-- The writing half of a `SocketStream`, with the bytes that the socket has been handed. -/
structure WriteCache where
  mWriteBuffer : Buffer
  /-- Number of bytes left to be flushed out. -/
  mWriteOffset : ℕ
  sent : Bytes

namespace WriteCache

/-- The bytes that wait in the buffer. -/
def pending (s : WriteCache) : Bytes := s.mWriteBuffer.1.take s.mWriteOffset

/-- A new stream.  The array is not initialised. -/
def fresh (mWriteBuffer : Buffer) : WriteCache := ⟨mWriteBuffer, 0, []⟩

/-- Sends all pending data and resets the offset. -/
def flushWriteBuffer (s : WriteCache) : WriteCache :=
  { s with sent := s.sent ++ s.pending, mWriteOffset := 0 }

/-- Flushes the writes. -/
def flush (s : WriteCache) : WriteCache := if s.mWriteOffset ≠ 0 then s.flushWriteBuffer else s

/-- One iteration of the copy loop, with what is left to be written before and after it. -/
def copy (s : WriteCache) (left : Bytes) : Option (WriteCache × Bytes) :=
  let available := BufferSize - s.mWriteOffset
  let writeSize := min available left.length
  (s.mWriteBuffer.store s.mWriteOffset (left.take writeSize)).map fun mWriteBuffer =>
    let s := { s with mWriteBuffer, mWriteOffset := u16 (s.mWriteOffset + writeSize) }
    -- the buffer is not left completely full
    let s := if s.mWriteOffset = BufferSize then s.flushWriteBuffer else s
    (s, left.drop writeSize)

/-- The copy loop and the number of its iterations, if there are no more than `fuel`. -/
def copyLoop : ℕ → WriteCache → Bytes → Option (WriteCache × ℕ)
  | _, s, [] => some (s, 0)
  | 0, _, _ :: _ => none
  | fuel + 1, s, b :: left =>
    (s.copy (b :: left)).bind fun r =>
      (copyLoop fuel r.1 r.2).map fun q => (q.1, q.2 + 1)

/-- `write`.  A write that fills the buffer by itself goes past it. -/
def write (fuel : ℕ) (s : WriteCache) (out : Bytes) : Option (WriteCache × ℕ) :=
  if BufferSize ≤ out.length then
    let s := s.flush
    some ({ s with sent := s.sent ++ out }, 0)
  else s.copyLoop fuel out

/-- The calls of a stream. -/
inductive Call where
  | write (data : Bytes)
  | flush

/-- A call, and how often its copy loop has run. -/
def call (fuel : ℕ) (s : WriteCache) : Call → Option (WriteCache × ℕ)
  | .write data => s.write fuel data
  | .flush => some (s.flush, 0)

/-- A sequence of calls, and how often the copy loop of each has run. -/
def run (fuel : ℕ) : WriteCache → List Call → Option (WriteCache × List ℕ)
  | s, [] => some (s, [])
  | s, c :: cs =>
    (s.call fuel c).bind fun r => (run fuel r.1 cs).map fun q => (q.1, r.2 :: q.2)

/-- All data written by a sequence of calls. -/
def written (cs : List Call) : Bytes :=
  cs.flatMap fun
    | .write data => data
    | .flush => []

/-- The invariant: what has been written is what was sent and what is pending, and there is room
for another byte. -/
structure Holds (s : WriteCache) (data : Bytes) : Prop where
  lt : s.mWriteOffset < BufferSize
  eq : s.sent ++ s.pending = data

theorem holds_fresh (b : Buffer) : (fresh b).Holds [] := ⟨BufferSize_pos, rfl⟩

variable {s : WriteCache} {data : Bytes}

theorem holds_flushWriteBuffer (h : s.sent ++ s.pending = data) :
    s.flushWriteBuffer.Holds data :=
  ⟨BufferSize_pos, (List.append_nil _).trans h⟩

theorem Holds.flush (h : s.Holds data) : s.flush.Holds data ∧ s.flush.mWriteOffset = 0 := by
  rw [WriteCache.flush]
  split
  · exact ⟨holds_flushWriteBuffer h.eq, rfl⟩
  · rename_i h0
    exact ⟨h, not_not.mp h0⟩

/-- One iteration of the loop: either all is written, or the buffer was full and has been
flushed. -/
theorem Holds.copy (h : s.Holds data) (left : Bytes) :
    ∃ s' left', s.copy left = some (s', left') ∧
      ∃ done, left = done ++ left' ∧ s'.Holds (data ++ done) ∧
        (left' = [] ∨ s'.mWriteOffset = 0) := by
  have hlt := h.lt
  have hroom : s.mWriteOffset + (left.take (min (BufferSize - s.mWriteOffset) left.length)).length
      ≤ BufferSize := by
    rw [List.length_take]
    omega
  obtain ⟨b, hb⟩ := Buffer.store_eq_some (b := s.mWriteBuffer) hroom
  have hoffset : u16 (s.mWriteOffset + min (BufferSize - s.mWriteOffset) left.length) =
      s.mWriteOffset + min (BufferSize - s.mWriteOffset) left.length := u16_of_le (by omega)
  have hlen : (left.take (min (BufferSize - s.mWriteOffset) left.length)).length =
      min (BufferSize - s.mWriteOffset) left.length := by
    rw [List.length_take]
    omega
  have htake := Buffer.take_store hb
  rw [hlen] at htake
  have heq : s.sent ++ b.1.take (s.mWriteOffset + min (BufferSize - s.mWriteOffset) left.length) =
      data ++ left.take (min (BufferSize - s.mWriteOffset) left.length) := by
    rw [htake, ← List.append_assoc]
    show s.sent ++ s.pending ++ _ = _
    rw [h.eq]
  rw [WriteCache.copy, hb]
  refine ⟨_, _, rfl, left.take (min (BufferSize - s.mWriteOffset) left.length),
    (List.take_append_drop _ _).symm, ?_, ?_⟩
  · rw [hoffset]
    dsimp only
    split
    · exact holds_flushWriteBuffer heq
    · rename_i hfull
      exact ⟨show _ + _ < _ by omega, heq⟩
  · rw [hoffset]
    dsimp only
    split
    · exact Or.inr rfl
    · rename_i hfull
      exact Or.inl (List.drop_eq_nil_of_le (by omega))

/-- A small write: the loop runs at most twice, since it starts again only with an empty buffer,
which the rest does not fill. -/
theorem Holds.copyLoop (h : s.Holds data) (fuel : ℕ) {out : Bytes}
    (hout : out.length < BufferSize) :
    ∃ s' n, s.copyLoop (fuel + 2) out = some (s', n) ∧ n ≤ 2 ∧ s'.Holds (data ++ out) := by
  cases out with
  | nil =>
    rw [List.append_nil]
    exact ⟨s, 0, rfl, Nat.zero_le _, h⟩
  | cons b out =>
    obtain ⟨s₁, left, hcopy, done, hdone, h₁, hleft⟩ := h.copy (b :: out)
    rw [WriteCache.copyLoop, hcopy, Option.bind_some, hdone]
    cases left with
    | nil =>
      rw [List.append_nil]
      exact ⟨s₁, 1, by rw [WriteCache.copyLoop]; rfl, by decide, h₁⟩
    | cons b' left =>
      have h0 : s₁.mWriteOffset = 0 := hleft.resolve_left (by simp)
      have hlt : (b' :: left).length < BufferSize := by
        have hlen := congrArg List.length hdone
        rw [List.length_append] at hlen
        omega
      obtain ⟨s₂, left₂, hcopy₂, done₂, hdone₂, h₂, hleft₂⟩ := h₁.copy (b' :: left)
      have hnil : left₂ = [] := by
        have hsize : min (BufferSize - s₁.mWriteOffset) (b' :: left).length =
            (b' :: left).length := by omega
        rw [WriteCache.copy, Option.map_eq_some_iff] at hcopy₂
        obtain ⟨_, -, hpair⟩ := hcopy₂
        rw [Prod.mk.injEq] at hpair
        rw [← hpair.2, hsize, List.drop_length]
      subst hnil
      rw [List.append_nil] at hdone₂
      rw [WriteCache.copyLoop, hcopy₂, Option.bind_some, ← List.append_assoc, hdone₂]
      exact ⟨s₂, 2, by rw [WriteCache.copyLoop]; rfl, Nat.le_refl _, h₂⟩

/-- A call keeps the invariant. -/
theorem Holds.call (h : s.Holds data) (fuel : ℕ) (c : Call) :
    ∃ s' n, s.call (fuel + 2) c = some (s', n) ∧ n ≤ 2 ∧ s'.Holds (data ++ written [c]) := by
  have hwritten : written [c] = match c with
      | .write data => data
      | .flush => [] := by
    rw [written, List.flatMap_singleton]
  rw [hwritten]
  cases c with
  | flush =>
    rw [List.append_nil]
    exact ⟨s.flush, 0, rfl, Nat.zero_le _, h.flush.1⟩
  | write out =>
    rw [WriteCache.call, WriteCache.write]
    split
    · refine ⟨_, 0, rfl, Nat.zero_le _, h.flush.1.lt, ?_⟩
      have hnil : s.flush.pending = [] := by
        rw [pending, h.flush.2]
        rfl
      have heq := h.flush.1.eq
      rw [hnil, List.append_nil] at heq
      show s.flush.sent ++ out ++ s.flush.pending = _
      rw [hnil, List.append_nil, heq]
    · exact h.copyLoop fuel (by omega)

theorem written_cons (c : Call) (cs : List Call) :
    written (c :: cs) = written [c] ++ written cs := by
  rw [written, written, List.flatMap_cons, List.flatMap_singleton, written]

theorem Holds.run (h : s.Holds data) (fuel : ℕ) (cs : List Call) :
    ∃ s' ns, s.run (fuel + 2) cs = some (s', ns) ∧ (∀ n ∈ ns, n ≤ 2) ∧
      s'.Holds (data ++ written cs) ∧
      (cs.getLast? = some .flush → s'.mWriteOffset = 0) := by
  induction cs generalizing s data with
  | nil =>
    refine ⟨s, [], rfl, by simp, ?_, by simp⟩
    rw [written, List.flatMap_nil, List.append_nil]
    exact h
  | cons c cs ih =>
    obtain ⟨s₁, n, hcall, hn, h₁⟩ := h.call fuel c
    obtain ⟨s₂, ns, hrun, hns, h₂, hlast⟩ := ih h₁
    rw [List.append_assoc, ← written_cons] at h₂
    refine ⟨s₂, n :: ns, ?_, ?_, h₂, fun hflush => ?_⟩
    · rw [WriteCache.run, hcall, Option.bind_some, hrun]
      rfl
    · exact fun m hm => (List.mem_cons.mp hm).elim (fun heq => heq ▸ hn) (hns m)
    · cases cs with
      | cons c' cs =>
        rw [List.getLast?_cons_cons] at hflush
        exact hlast hflush
      | nil =>
        have hc : c = .flush := Option.some.inj hflush
        subst hc
        have hs₁ : s.flush = s₁ := congrArg Prod.fst (Option.some.inj hcall)
        have hs₂ : s₁ = s₂ := congrArg Prod.fst (Option.some.inj hrun)
        rw [← hs₂, ← hs₁]
        exact h.flush.2

/-- **The write cache is a plain byte sink**: after any sequence of calls, what the socket has been
handed and what is pending are the data written, in order; there is room in the buffer; no copy
loop has run more than twice; and after a flush nothing is pending. -/
theorem byte_sink (b : Buffer) (fuel : ℕ) (cs : List Call) :
    ∃ s ns, (fresh b).run (fuel + 2) cs = some (s, ns) ∧
      s.sent ++ s.mWriteBuffer.1.take s.mWriteOffset = written cs ∧
      s.mWriteOffset < BufferSize ∧ (∀ n ∈ ns, n ≤ 2) ∧
      (cs.getLast? = some .flush → s.mWriteOffset = 0) := by
  obtain ⟨s, ns, hrun, hns, hs, hlast⟩ := (holds_fresh b).run fuel cs
  exact ⟨s, ns, hrun, hs.eq, hs.lt, hns, hlast⟩

end WriteCache

/-! ## 2.  Reading -/

/-- The bytes that are still to come, and how the network will cut them: the next call of `receive`
yields `cuts 0` bytes if it can. -/
structure Network where
  incoming : Bytes
  cuts : ℕ → ℕ

/-- `receive`: at least one byte and at most `available`, as long as there are any. -/
def Network.receive (net : Network) (available : ℕ) : Bytes × Network :=
  let n := min (max 1 (net.cuts 0)) available
  (net.incoming.take n, ⟨net.incoming.drop n, fun i => net.cuts (i + 1)⟩)

theorem Network.receive_append (net : Network) (available : ℕ) :
    (net.receive available).1 ++ (net.receive available).2.incoming = net.incoming :=
  List.take_append_drop _ _

theorem Network.length_receive_le (net : Network) (available : ℕ) :
    (net.receive available).1.length ≤ available := by
  rw [receive, List.length_take]
  omega

theorem Network.length_receive_pos (net : Network) {available : ℕ} (ha : 0 < available)
    (h : 0 < net.incoming.length) : 0 < (net.receive available).1.length := by
  rw [receive, List.length_take]
  omega

/-- The reading half of a `SocketStream`. -/
structure ReadCache where
  mReadBuffer : Buffer
  /-- Current offset into the buffer where the read head is. -/
  mReadOffset : ℕ
  /-- How many bytes are available for reading. -/
  mAvailable : ℕ

namespace ReadCache

/-- A new stream.  The array is not initialised. -/
def fresh (mReadBuffer : Buffer) : ReadCache := ⟨mReadBuffer, 0, 0⟩

/-- The bytes that wait in the buffer. -/
def cached (s : ReadCache) : Bytes := (s.mReadBuffer.1.drop s.mReadOffset).take s.mAvailable

/-- Fills as much of the buffer as possible from the incoming socket. -/
def readMoreData (s : ReadCache) (net : Network) : Option (ReadCache × Network) :=
  let r := net.receive BufferSize
  (s.mReadBuffer.store 0 r.1).map fun mReadBuffer =>
    (⟨mReadBuffer, 0, u16 r.1.length⟩, r.2)

/-- Copy at most `count` bytes out of the buffer. -/
def copyOut (s : ReadCache) (count : ℕ) : Option (Bytes × ReadCache) :=
  let readSize := min count s.mAvailable
  (s.mReadBuffer.load s.mReadOffset readSize).map fun data =>
    (data, { s with
      mReadOffset := u16 (s.mReadOffset + readSize), mAvailable := s.mAvailable - readSize })

/-- More data, unless there is some. -/
def refill (s : ReadCache) (net : Network) : Option (ReadCache × Network) :=
  if s.mAvailable = 0 then s.readMoreData net else some (s, net)

/-- How an iteration of the loop of `read` can fail. -/
inductive ReadError where
  /-- The socket has been closed: `Socket::Error`. -/
  | socketError
  /-- A copy would leave the buffer. -/
  | outOfBuffer
  deriving DecidableEq

/-- One iteration of the loop of `read`, with the bytes that it delivers. -/
def iterate (s : ReadCache) (net : Network) (count : ℕ) :
    Except ReadError (Bytes × ReadCache × Network) :=
  if s.mAvailable = 0 ∧ BufferSize ≤ count then
    let r := net.receive count
    .ok (r.1, s, r.2)
  else
    match s.refill net with
    | none => .error .outOfBuffer
    | some r =>
      if r.1.mAvailable = 0 then .error .socketError
      else
        match r.1.copyOut count with
        | none => .error .outOfBuffer
        | some c => .ok (c.1, c.2, r.2)

/-- The loop of `read`, for at most `fuel` iterations.  It fails when the buffer would be left or
the socket has been closed. -/
def readLoop : ℕ → ReadCache → Network → ℕ → Option (Bytes × ReadCache × Network)
  | _, s, net, 0 => some ([], s, net)
  | 0, _, _, _ + 1 => none
  | fuel + 1, s, net, count + 1 =>
    if s.mAvailable = 0 ∧ BufferSize ≤ count + 1 then
      -- read directly into the output - no point in caching
      let r := net.receive (count + 1)
      (readLoop fuel s r.2 (count + 1 - r.1.length)).map fun q => (r.1 ++ q.1, q.2)
    else
      (s.refill net).bind fun r =>
        if r.1.mAvailable = 0 then none
        else (r.1.copyOut (count + 1)).bind fun c =>
          (readLoop fuel c.2 r.2 (count + 1 - c.1.length)).map fun q => (c.1 ++ q.1, q.2)

/-- `read`.  An iteration that goes on has taken a byte, so there are at most `count`. -/
def read (s : ReadCache) (net : Network) (count : ℕ) : Option (Bytes × ReadCache × Network) :=
  readLoop count s net count

/-- Preview the next character available.  Or -1 if there is no incoming data. -/
def peek (s : ReadCache) (net : Network) : Option (UInt8 × ReadCache × Network) :=
  (s.refill net).bind fun r =>
    if r.1.mAvailable = 0 then some (0xFF, r)
    else (r.1.mReadBuffer.load r.1.mReadOffset 1).map fun c => (c.headD 0xFF, r)

/-- The calls of a stream. -/
inductive Call where
  | read (count : ℕ)
  | peek
  | nextPacketTy

/-- What they return. -/
inductive Result where
  | data (bytes : Bytes)
  | char (c : UInt8)
  | packetType (c : UInt8)
  deriving DecidableEq

def call (s : ReadCache) (net : Network) : Call → Option (Result × ReadCache × Network)
  | .read count => (s.read net count).map fun r => (.data r.1, r.2)
  | .peek => (s.peek net).map fun r => (.char r.1, r.2)
  | .nextPacketTy => (s.peek net).map fun r =>
      (.packetType (if r.1 = 0xFF then PacketType.terminate.toByte else r.1), r.2)

/-- A sequence of calls, and their results. -/
def run : ReadCache → Network → List Call → Option (List Result × ReadCache × Network)
  | s, net, [] => some ([], s, net)
  | s, net, c :: cs =>
    (s.call net c).bind fun r => (run r.2.1 r.2.2 cs).map fun q => (r.1 :: q.1, q.2)

/-- The number of bytes a call takes. -/
def Call.count : Call → ℕ
  | read n => n
  | peek | nextPacketTy => 0

/-- What a call on a sequence of bytes should return. -/
def Call.expected (bytes : Bytes) : Call → Result
  | read n => .data (bytes.take n)
  | peek => .char (bytes.headD 0xFF)
  | nextPacketTy => .packetType (bytes.headD 0xFF)

/-- What a sequence of calls should return. -/
def expected : Bytes → List Call → List Result
  | _, [] => []
  | bytes, c :: cs => c.expected bytes :: expected (bytes.drop c.count) cs

/-- The number of bytes that a sequence of calls takes. -/
def total (cs : List Call) : ℕ := (cs.map Call.count).sum

/-- The invariant: what is in the buffer and what is still in the network are the bytes not read
so far. -/
structure Holds (s : ReadCache) (net : Network) (rest : Bytes) : Prop where
  le : s.mReadOffset + s.mAvailable ≤ BufferSize
  eq : s.cached ++ net.incoming = rest

variable {s : ReadCache} {net : Network} {rest : Bytes}

theorem length_cached (h : s.mReadOffset + s.mAvailable ≤ BufferSize) :
    s.cached.length = s.mAvailable := by
  have hb : s.mReadBuffer.1.length = BufferSize := s.mReadBuffer.2
  rw [cached, List.length_take, List.length_drop]
  omega

theorem cached_eq_nil (h : s.mAvailable = 0) : s.cached = [] := by
  rw [cached, h, List.take_zero]

/-- With an empty buffer everything is still in the network. -/
theorem Holds.incoming_eq (h : s.Holds net rest) (h0 : s.mAvailable = 0) : net.incoming = rest := by
  rw [← h.eq, cached_eq_nil h0, List.nil_append]

/-- More data has arrived, unless there is none. -/
theorem Holds.refill (h : s.Holds net rest) :
    ∃ s' net', s.refill net = some (s', net') ∧ s'.Holds net' rest ∧
      (rest ≠ [] → s'.mAvailable ≠ 0) := by
  rw [ReadCache.refill]
  split
  · rename_i h0
    have hlen : (net.receive BufferSize).1.length ≤ BufferSize := net.length_receive_le _
    obtain ⟨b, hb⟩ : ∃ b, s.mReadBuffer.store 0 (net.receive BufferSize).1 = some b :=
      Buffer.store_eq_some (by omega)
    have htake := Buffer.take_store hb
    rw [List.take_zero, List.nil_append, Nat.zero_add] at htake
    refine ⟨⟨b, 0, u16 (net.receive BufferSize).1.length⟩, (net.receive BufferSize).2, ?_, ?_,
      fun hne => ?_⟩
    · rw [readMoreData, hb]
      rfl
    · refine ⟨?_, ?_⟩
      · rw [u16_of_le hlen]
        exact (Nat.zero_add _).trans_le hlen
      · rw [cached, u16_of_le hlen, List.drop_zero, htake, net.receive_append,
          h.incoming_eq h0]
    · rw [u16_of_le hlen]
      refine Nat.ne_of_gt (net.length_receive_pos BufferSize_pos ?_)
      rw [h.incoming_eq h0]
      exact List.length_pos_iff.mpr hne
  · rename_i h0
    exact ⟨s, net, rfl, h, fun _ => h0⟩

/-- Copying takes bytes from the front. -/
theorem Holds.copyOut (h : s.Holds net rest) (count : ℕ) :
    ∃ s', s.copyOut count = some (rest.take (min count s.mAvailable), s') ∧
      s'.Holds net (rest.drop (min count s.mAvailable)) := by
  have hle := h.le
  have hlen := length_cached hle
  have hsize : min count s.mAvailable ≤ s.cached.length := by omega
  have hoffset : u16 (s.mReadOffset + min count s.mAvailable) =
      s.mReadOffset + min count s.mAvailable := u16_of_le (by omega)
  have hload : s.mReadBuffer.load s.mReadOffset (min count s.mAvailable) =
      some (rest.take (min count s.mAvailable)) := by
    rw [Buffer.load, if_pos (by omega), ← h.eq, List.take_append_of_le_length hsize, cached,
      List.take_take, Nat.min_eq_left (Nat.min_le_right _ _)]
  refine ⟨_, by rw [ReadCache.copyOut, hload]; rfl, ?_, ?_⟩
  · rw [hoffset]
    dsimp only
    omega
  · rw [← h.eq, List.drop_append_of_le_length hsize, cached, hoffset, cached, List.drop_take,
      List.drop_drop]

/-- An iteration takes bytes from the front, as long as there are any. -/
theorem Holds.iterate (h : s.Holds net rest) {count : ℕ} (hcount : 0 < count) (hne : rest ≠ []) :
    ∃ data s' net' rest', s.iterate net count = .ok (data, s', net') ∧ rest = data ++ rest' ∧
      0 < data.length ∧ data.length ≤ count ∧ s'.Holds net' rest' := by
  have hpos : 0 < rest.length := List.length_pos_iff.mpr hne
  rw [ReadCache.iterate]
  split
  · rename_i hdirect
    have hincoming := h.incoming_eq hdirect.1
    refine ⟨_, s, _, (net.receive count).2.incoming, rfl,
      ((net.receive_append count).trans hincoming).symm,
      net.length_receive_pos hcount (by rw [hincoming]; exact hpos), net.length_receive_le count,
      h.le, ?_⟩
    rw [cached_eq_nil hdirect.1, List.nil_append]
  · obtain ⟨s₁, net₁, hrefill, h₁, hsome⟩ := h.refill
    obtain ⟨s₂, hcopy, h₂⟩ := h₁.copyOut count
    have havailable : s₁.mAvailable ≠ 0 := hsome hne
    have hcached : s₁.mAvailable ≤ rest.length := by
      have hlen := congrArg List.length h₁.eq
      rw [List.length_append, length_cached h₁.le] at hlen
      omega
    have htaken : (rest.take (min count s₁.mAvailable)).length = min count s₁.mAvailable := by
      rw [List.length_take]
      omega
    refine ⟨_, s₂, net₁, _, ?_, (List.take_append_drop _ _).symm, ?_, ?_, h₂⟩
    · rw [hrefill]
      simp only [if_neg havailable, hcopy]
    · omega
    · omega

/-- The loop, one iteration after the other. -/
theorem readLoop_succ (fuel : ℕ) (s : ReadCache) (net : Network) (count : ℕ) :
    readLoop (fuel + 1) s net (count + 1) =
      (s.iterate net (count + 1)).toOption.bind fun r =>
        (readLoop fuel r.2.1 r.2.2 (count + 1 - r.1.length)).map fun q => (r.1 ++ q.1, q.2) := by
  rw [ReadCache.readLoop, ReadCache.iterate]
  split
  · rfl
  · cases s.refill net with
    | none => rfl
    | some r =>
      rw [Option.bind_some]
      by_cases h0 : r.1.mAvailable = 0
      · simp only [if_pos h0]
        rfl
      · simp only [if_neg h0]
        cases r.1.copyOut (count + 1) <;> rfl

theorem Holds.readLoop (fuel : ℕ) {count : ℕ} (h : s.Holds net rest) (hfuel : count ≤ fuel)
    (hcount : count ≤ rest.length) :
    ∃ s' net', ReadCache.readLoop fuel s net count = some (rest.take count, s', net') ∧
      s'.Holds net' (rest.drop count) := by
  induction fuel generalizing s net rest count with
  | zero =>
    rw [Nat.le_zero.mp hfuel]
    exact ⟨s, net, rfl, h⟩
  | succ fuel ih =>
    cases count with
    | zero => exact ⟨s, net, rfl, h⟩
    | succ count =>
      have hne : rest ≠ [] := List.ne_nil_of_length_pos (by omega)
      obtain ⟨data, s₁, net₁, rest₁, hiterate, rfl, hpos, hle, h₁⟩ :=
        h.iterate (Nat.succ_pos count) hne
      rw [List.length_append] at hcount
      obtain ⟨s', net', hloop, hs'⟩ :=
        ih h₁ (show count + 1 - data.length ≤ fuel by omega) (by omega)
      refine ⟨s', net', ?_, ?_⟩
      · rw [readLoop_succ, hiterate, Except.toOption, Option.bind_some, hloop, Option.map_some,
          List.take_append, List.take_of_length_le hle]
      · rw [List.drop_append, List.drop_eq_nil_of_le hle, List.nil_append]
        exact hs'

/-- A preview is the next byte, which stays where it is. -/
theorem Holds.peek (h : s.Holds net rest) :
    ∃ s' net', s.peek net = some (rest.headD 0xFF, s', net') ∧ s'.Holds net' rest := by
  obtain ⟨s₁, net₁, hrefill, h₁, hsome⟩ := h.refill
  refine ⟨s₁, net₁, ?_, h₁⟩
  rw [ReadCache.peek, hrefill, Option.bind_some]
  split
  · rename_i h0
    cases rest with
    | nil => rfl
    | cons b rest => exact absurd h0 (hsome (by simp))
  · rename_i h0
    have havailable : s₁.mAvailable ≠ 0 := h0
    have hle := h₁.le
    have hpos : 0 < s₁.cached.length := by
      rw [length_cached hle]
      omega
    have hload : s₁.mReadBuffer.load s₁.mReadOffset 1 = some (s₁.cached.take 1) := by
      rw [Buffer.load, if_pos (by omega), cached, List.take_take, Nat.min_eq_left (by omega)]
    rw [hload, ← h₁.eq]
    cases hcached : s₁.cached with
    | nil =>
      rw [hcached] at hpos
      exact absurd hpos (by simp)
    | cons b bs => rfl

/-- A call returns what it should, and keeps the invariant. -/
theorem Holds.call (h : s.Holds net rest) (c : Call) (hc : c.count ≤ rest.length) :
    ∃ s' net', s.call net c = some (c.expected rest, s', net') ∧
      s'.Holds net' (rest.drop c.count) := by
  cases c with
  | read n =>
    obtain ⟨s', net', hread, hs'⟩ := h.readLoop n (Nat.le_refl n) hc
    exact ⟨s', net', by rw [ReadCache.call, ReadCache.read, hread]; rfl, hs'⟩
  | peek =>
    obtain ⟨s', net', hpeek, hs'⟩ := h.peek
    exact ⟨s', net', by rw [ReadCache.call, hpeek]; rfl, hs'⟩
  | nextPacketTy =>
    obtain ⟨s', net', hpeek, hs'⟩ := h.peek
    refine ⟨s', net', ?_, hs'⟩
    rw [ReadCache.call, hpeek]
    by_cases hlast : rest.headD 0xFF = 0xFF
    · rw [Option.map_some, if_pos hlast, Call.expected, hlast]
      rfl
    · rw [Option.map_some, if_neg hlast]
      rfl

theorem Holds.run (h : s.Holds net rest) (cs : List Call) (hcs : total cs ≤ rest.length) :
    ∃ s' net', s.run net cs = some (expected rest cs, s', net') ∧
      s'.Holds net' (rest.drop (total cs)) := by
  induction cs generalizing s net rest with
  | nil => exact ⟨s, net, rfl, h⟩
  | cons c cs ih =>
    have htotal : total (c :: cs) = c.count + total cs := by
      rw [total, List.map_cons, List.sum_cons, total]
    rw [htotal] at hcs ⊢
    obtain ⟨s₁, net₁, hcall, h₁⟩ := h.call c (by omega)
    obtain ⟨s₂, net₂, hrun, h₂⟩ := ih h₁ (by rw [List.length_drop]; omega)
    rw [List.drop_drop] at h₂
    exact ⟨s₂, net₂, by rw [ReadCache.run, hcall, Option.bind_some, hrun]; rfl, h₂⟩

/-- **The read cache is transparent to how the network splits the data**: the results of a sequence
of calls are those that the bytes alone determine, and what has not been read is in the buffer,
which is never left, and in the network. -/
theorem transparent (b : Buffer) (bytes : Bytes) (cuts : ℕ → ℕ) (cs : List Call)
    (hcs : total cs ≤ bytes.length) :
    (∃ s net, (fresh b).run ⟨bytes, cuts⟩ cs = some (expected bytes cs, s, net) ∧
      s.mReadOffset + s.mAvailable ≤ BufferSize ∧
      s.cached ++ net.incoming = bytes.drop (total cs)) ∧
    ∀ b' cuts', ((fresh b').run ⟨bytes, cuts'⟩ cs).map Prod.fst =
      ((fresh b).run ⟨bytes, cuts⟩ cs).map Prod.fst := by
  have hfresh : ∀ b cuts, (fresh b).Holds ⟨bytes, cuts⟩ bytes := fun b cuts =>
    ⟨Nat.zero_le _, by rw [cached_eq_nil rfl, List.nil_append]⟩
  obtain ⟨s, net, hrun, hs⟩ := (hfresh b cuts).run cs hcs
  refine ⟨⟨s, net, hrun, hs.le, hs.eq⟩, fun b' cuts' => ?_⟩
  obtain ⟨s', net', hrun', -⟩ := (hfresh b' cuts').run cs hcs
  rw [hrun, hrun', Option.map_some, Option.map_some]

/-- Two reads with a preview in between. -/
theorem transparent_small :
    total [.read 1, .peek, .read 2] ≤ [1, 2, 3, (4 : UInt8)].length ∧
      ∃ s net, (fresh Buffer.zeros).run ⟨[1, 2, 3, 4], fun _ => 1⟩ [.read 1, .peek, .read 2] =
        some ([.data [1], .char 2, .data [2, 3]], s, net) :=
  have h := transparent Buffer.zeros [1, 2, 3, 4] (fun _ => 1) [.read 1, .peek, .read 2]
    (by decide)
  ⟨by decide, h.1.elim fun s hs => hs.elim fun net hnet => ⟨s, net, hnet.1⟩⟩

end ReadCache

end RemoteCL

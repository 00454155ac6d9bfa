import RemoteCL.Common.SocketStream
import RemoteCL.Session.Runs
import RemoteCL.Theory.Buffered

/-!
# Runs over socket streams

`RemoteCL.Session.Runs` joins the two parties by plain streams of bytes: what a party has written
may go out at any time, and it reads as many bytes as it wants at once.  The connection is a pair of
`SocketStream`s.  What is written goes out when a cache of 1024 bytes is full, large writes go past
it, a read is a loop of calls of `receive`, and the network cuts the bytes as it likes.

Here the threads of an application run over these streams, with the caches of
`RemoteCL.Common.SocketStream` at both ends.  Such a run, without its caches, is a run over streams
of bytes (`SocketThreads.reachable_abs`), so what has been proved about those runs holds here.  And
a call ends: no schedule of the parties and no way of cutting the bytes makes the conversation go
on for ever, and it stops with the call returned and nothing left in any buffer
(`SocketThreads.comes_to_rest`).
-/

namespace RemoteCL

open ByteStream Conversation Client

/-! ## The two halves of a socket stream -/

namespace WriteCache

variable {fuel k n : ℕ} {s t : WriteCache}

theorem copyLoop_mono {left : Bytes} (h : s.copyLoop fuel left = some (t, n)) :
    s.copyLoop (fuel + k) left = some (t, n) := by
  induction fuel generalizing s left n with
  | zero =>
    cases left with
    | nil => simpa only [copyLoop] using h
    | cons b left => simp [copyLoop] at h
  | succ fuel ih =>
    cases left with
    | nil => simpa only [copyLoop] using h
    | cons b left =>
      rw [Nat.succ_add]
      simp only [copyLoop, Option.bind_eq_some_iff, Option.map_eq_some_iff, Prod.mk.injEq] at h ⊢
      obtain ⟨r, hcopy, ⟨t', m⟩, hloop, rfl, rfl⟩ := h
      exact ⟨r, hcopy, _, ih hloop, rfl, rfl⟩

theorem call_mono {c : Call} (h : s.call fuel c = some (t, n)) :
    s.call (fuel + k) c = some (t, n) := by
  cases c with
  | flush => exact h
  | write out =>
    simp only [call, write] at h ⊢
    split at h
    · rename_i hlarge
      rwa [if_pos hlarge]
    · rename_i hsmall
      rw [if_neg hsmall]
      exact copyLoop_mono h

/-- A run is the same run if its loops may go on for longer. -/
theorem run_mono {cs : List Call} {ns : List ℕ} (h : s.run fuel cs = some (t, ns)) :
    s.run (fuel + k) cs = some (t, ns) := by
  induction cs generalizing s ns with
  | nil => exact h
  | cons c cs ih =>
    simp only [run, Option.bind_eq_some_iff, Option.map_eq_some_iff, Prod.mk.injEq] at h ⊢
    obtain ⟨⟨s₁, n⟩, hcall, ⟨s₂, ns'⟩, hrun, rfl, rfl⟩ := h
    exact ⟨_, call_mono hcall, _, ih hrun, rfl, rfl⟩

theorem written_map_write (pieces : List Bytes) :
    written (pieces.map .write) = pieces.flatten := by
  rw [written, List.flatMap_map]
  exact List.flatMap_id

/-- What has been sent is on the wire. -/
def handed (s : WriteCache) : WriteCache := { s with sent := [] }

end WriteCache

namespace SocketStream

/-- The writing half.  A packet is written in pieces, one for each of its fields. -/
def writing : Sink where
  State := WriteCache
  Holds s := s.sent = [] ∧ s.mWriteOffset < BufferSize
  pending := WriteCache.pending
  write s b s' w := ∃ (pieces : List Bytes) (fuel : ℕ) (t : WriteCache) (ns : List ℕ),
    pieces.flatten = b ∧ s.run fuel (pieces.map .write) = some (t, ns) ∧ s' = t.handed ∧ w = t.sent
  flush s s' w := s' = s.flush.handed ∧ w = s.flush.sent
  exists_write := by
    rintro s ⟨hsent, hlt⟩ b
    have hs : s.Holds s.pending := ⟨hlt, by rw [hsent, List.nil_append]⟩
    obtain ⟨t, ns, hrun, -⟩ := hs.run 0 [.write b]
    exact ⟨_, _, [b], _, t, ns, List.flatten_singleton, hrun, rfl, rfl⟩
  of_write := by
    rintro s b s' w ⟨hsent, hlt⟩ ⟨pieces, fuel, t, ns, rfl, hrun, rfl, rfl⟩
    have hs : s.Holds s.pending := ⟨hlt, by rw [hsent, List.nil_append]⟩
    obtain ⟨t', ns', hrun', -, ht, -⟩ := hs.run fuel (pieces.map .write)
    have heq := (WriteCache.run_mono hrun).symm.trans hrun'
    simp only [Option.some.injEq, Prod.mk.injEq] at heq
    obtain ⟨rfl, rfl⟩ := heq
    rw [WriteCache.written_map_write] at ht
    exact ⟨⟨rfl, ht.lt⟩, ht.eq.symm⟩
  exists_flush := fun _ => ⟨_, _, rfl, rfl⟩
  of_flush := by
    rintro s s' w ⟨hsent, hlt⟩ ⟨rfl, rfl⟩
    have hs : s.Holds s.pending := ⟨hlt, by rw [hsent, List.nil_append]⟩
    obtain ⟨hflush, h0⟩ := hs.flush
    have hnil : s.flush.pending = [] := by
      rw [WriteCache.pending, h0, List.take_zero]
    have heq := hflush.eq
    rw [hnil, List.append_nil] at heq
    exact ⟨⟨rfl, hflush.lt⟩, heq, hnil⟩

/-- The reading half: an iteration of the loop of `read`, and `peek`.  They are only asked when
there is a byte in the buffer or on the wire, for else `receive` blocks. -/
def reading : Source where
  State := ReadCache
  Holds s := s.mReadOffset + s.mAvailable ≤ BufferSize
  cached := ReadCache.cached
  more s i n b s' i' := ∃ cuts net, s.iterate ⟨i, cuts⟩ n = .ok (b, s', net) ∧ net.incoming = i'
  peek s i b s' i' := ∃ cuts net, s.peek ⟨i, cuts⟩ = some (b, s', net) ∧ net.incoming = i'
  exists_more := by
    rintro s i n hs hn hi
    have h : s.Holds ⟨i, fun _ => 1⟩ (s.cached ++ i) := ⟨hs, rfl⟩
    obtain ⟨b, s', net, rest, hiterate, -⟩ := h.iterate hn hi
    exact ⟨b, s', _, _, net, hiterate, rfl⟩
  of_more := by
    rintro s i n b s' i' hs hn hi ⟨cuts, net, hiterate, rfl⟩
    have h : s.Holds ⟨i, cuts⟩ (s.cached ++ i) := ⟨hs, rfl⟩
    obtain ⟨b', t, net', rest, hiterate', heq, hpos, hle, ht⟩ := h.iterate hn hi
    rw [hiterate, Except.ok.injEq, Prod.mk.injEq, Prod.mk.injEq] at hiterate'
    obtain ⟨rfl, rfl, rfl⟩ := hiterate'
    exact ⟨ht.le, by rw [heq, ht.eq], List.length_pos_iff.mp hpos, hle⟩
  exists_peek := by
    rintro s i hs hi
    have h : s.Holds ⟨i, fun _ => 1⟩ (s.cached ++ i) := ⟨hs, rfl⟩
    obtain ⟨s', net, hpeek, -⟩ := h.peek
    exact ⟨_, s', _, _, net, hpeek, rfl⟩
  of_peek := by
    rintro s i b s' i' hs hi ⟨cuts, net, hpeek, rfl⟩
    have h : s.Holds ⟨i, cuts⟩ (s.cached ++ i) := ⟨hs, rfl⟩
    obtain ⟨t, net', hpeek', ht⟩ := h.peek
    rw [hpeek, Option.some.injEq, Prod.mk.injEq, Prod.mk.injEq] at hpeek'
    obtain ⟨rfl, rfl, rfl⟩ := hpeek'
    refine ⟨ht.le, ht.eq, ?_⟩
    cases hrest : s.cached ++ i with
    | nil => exact absurd hrest hi
    | cons b rest => rfl

end SocketStream

/-! ## Threads -/

/-- A conversation between the parties over their streams. -/
abbrev SocketConfig (δ : Type) := Buffered.Config SocketStream.writing SocketStream.reading
  ClientState ServerState Exn ServerCall Ans Ret δ

/-- The threads of an application, like `Threads`, and their connection. -/
structure SocketThreads (ι δ : Type) (C : Build) where
  /-- The calls that wait for the connection. -/
  waiting : ι → Option (apiCalls C δ).Call
  /-- The thread that has locked the connection. -/
  holder : Option ι
  conv : SocketConfig δ

namespace SocketThreads

variable {ι δ : Type} [DecidableEq ι] {C : Build}
variable (E : δ → (c : ServerCall) → Ans c → δ → Prop) (B : ServerBuild)

/-- A step of a thread, or of the conversation. -/
inductive Step : SocketThreads ι δ C → SocketThreads ι δ C → Prop
  | call {w h x i} (c : (apiCalls C δ).Call) (hi : w i = none) (hh : h ≠ some i) :
    Step ⟨w, h, x⟩ ⟨Function.update w i (some c), h, x⟩
  | lock {w x i c} (hi : w i = some c) :
    Step ⟨w, none, x⟩ ⟨Function.update w i none, some i,
      { x with client := { x.client with prog := c.1.call C } }⟩
  | talk {w h x x'} (hx : Buffered.Step E (ServerInstance.serve B) x x') :
    Step ⟨w, h, x⟩ ⟨w, h, x'⟩
  | unlock {w i x r} (hx : x.client.prog = .ret r) : Step ⟨w, some i, x⟩ ⟨w, none, x⟩

/-- A party on a new stream, whose buffers are not initialised. -/
def connected {σ C' α : Type} {A : C' → Type} (p : Prog σ Exn C' A α) (s : σ)
    (mWriteBuffer mReadBuffer : Buffer) :
    Buffered.Party SocketStream.writing SocketStream.reading σ Exn C' A α :=
  ⟨p, s, WriteCache.fresh mWriteBuffer, ReadCache.fresh mReadBuffer, []⟩

/-- No thread has called anything yet.  The client has returned from setting up the connection. -/
def start (s : ClientState) (t : ServerState) (e : δ) (buffers : Fin 4 → Buffer) :
    SocketThreads ι δ C :=
  ⟨fun _ => none, none,
    connected (.ret (.code CL_SUCCESS)) s (buffers 0) (buffers 1),
    connected (ServerInstance.serve B) t (buffers 2) (buffers 3), [], [], e⟩

/-- What a run can lead to, whatever the buffers hold at first. -/
def Reachable (s : ClientState) (t : ServerState) (e : δ) (x : SocketThreads ι δ C) : Prop :=
  ∃ buffers, Relation.ReflTransGen (Step E B) (start B s t e buffers) x

/-- The threads without the buffers. -/
def abs (x : SocketThreads ι δ C) : Threads ι (apiCalls C δ) := ⟨x.waiting, x.holder, x.conv.abs⟩

/-- The invariant: that of the conversation, and a thread that does not hold the lock has
returned. -/
structure Holds (x : SocketThreads ι δ C) : Prop where
  conv : x.conv.Holds
  returned : x.holder = none → ∃ r, x.conv.client.prog = .ret r

variable {E B} {s : ClientState} {t : ServerState} {e : δ} {x y : SocketThreads ι δ C}

theorem holds_connected {σ C' α : Type} {A : C' → Type} (p : Prog σ Exn C' A α) (s : σ)
    (mWriteBuffer mReadBuffer : Buffer) : (connected p s mWriteBuffer mReadBuffer).Holds :=
  ⟨⟨rfl, BufferSize_pos⟩, Nat.zero_le _, Or.inl rfl⟩

omit [DecidableEq ι] in
theorem holds_start (buffers : Fin 4 → Buffer) :
    (start B s t e buffers : SocketThreads ι δ C).Holds :=
  ⟨⟨holds_connected _ _ _ _, holds_connected _ _ _ _⟩, fun _ => ⟨_, rfl⟩⟩

omit [DecidableEq ι] in
/-- A client that has returned has nothing in hand, and may go on with another program. -/
theorem Holds.resume (hx : x.Holds) (hnone : x.holder = none) (p : ClientM Ret) :
    Buffered.Config.Holds { x.conv with client := { x.conv.client with prog := p } } := by
  obtain ⟨r, hr⟩ := hx.returned hnone
  have hgot : x.conv.client.got = [] := by
    refine hx.conv.client.got.resolve_right ?_
    rintro ⟨n, k, hp, -⟩
    rw [hr] at hp
    cases hp
  exact ⟨⟨hx.conv.client.sink, hx.conv.client.source, Or.inl hgot⟩, hx.conv.server⟩

/-- A step of the threads is none of the threads without buffers, or several. -/
theorem Step.simulated (hx : x.Holds) (h : Step E B x y) :
    y.Holds ∧ Relation.ReflTransGen (Threads.Step E B) x.abs y.abs := by
  obtain ⟨hconv, hreturned⟩ := hx
  cases h with
  | call c hi hh => exact ⟨⟨hconv, hreturned⟩, .single (.call c hi hh)⟩
  | @lock w x i c hi =>
    have hx : (⟨w, none, x⟩ : SocketThreads ι δ C).Holds := ⟨hconv, hreturned⟩
    exact ⟨⟨hx.resume rfl _, fun h => by cases h⟩, .single (.lock hi fun _ _ _ => trivial)⟩
  | @talk w h x x' hstep =>
    obtain ⟨hconv', hrun⟩ := Buffered.run_simulated hconv (.single hstep)
    refine ⟨⟨hconv', fun hnone => ?_⟩, ?_⟩
    · -- a client that has returned does not move
      obtain ⟨r, hr⟩ := hreturned hnone
      cases hstep with
      | @client c _ _ _ _ _ _ _ m =>
        obtain ⟨p, s, o, q, got⟩ := c
        have hp : p = .ret r := hr
        subst hp
        cases m
      | _ => exact ⟨r, hr⟩
    · exact hrun.lift (fun z => (⟨w, h, z⟩ : Threads ι (apiCalls C δ))) fun _ _ => .talk
  | unlock hr => exact ⟨⟨hconv, fun _ => ⟨_, hr⟩⟩, .single (.unlock hr)⟩

/-- A run of the threads keeps the invariant, and is a run of the threads without buffers. -/
theorem Reachable.simulated (h : Reachable E B s t e x) :
    x.Holds ∧ Threads.Reachable E B s t e x.abs := by
  obtain ⟨buffers, hrun⟩ := h
  induction hrun with
  | refl => exact ⟨holds_start buffers, .refl⟩
  | tail _ hstep ih =>
    obtain ⟨hy, hreach⟩ := ih
    obtain ⟨hz, hnext⟩ := hstep.simulated hy
    exact ⟨hz, hreach.trans hnext⟩

/-- **The caches are transparent to a whole application**: what its threads do over socket streams,
they can do over plain streams of bytes; and where the conversation over socket streams stops, both
parties wait for bytes that have not been written, or are done. -/
theorem reachable_abs (hE : Answers E) (h : Reachable E B s t e x) :
    Threads.Reachable E B s t e x.abs ∧
      ((∀ z, ¬ Buffered.Step E (ServerInstance.serve B) x.conv z) →
        ¬ Ready x.abs.conv.client.prog x.abs.conv.down ∧
          ¬ Ready x.abs.conv.server.prog x.abs.conv.up ∧ x.abs.conv.server.prog ≠ .ret true) := by
  obtain ⟨hx, hreach⟩ := h.simulated
  exact ⟨hreach, Buffered.stuck_simulated hE hx.conv⟩

/-- A thread makes a call on a new connection, and locks it. -/
theorem reachable_call (i : ι) (c : (apiCalls C δ).Call) (s : ClientState)
    (t : ServerState) (e : δ) (buffers : Fin 4 → Buffer) :
    Reachable E B s t e
      ⟨Function.update (Function.update (fun _ => none) i (some c)) i none, some i,
        connected (c.1.call C) s (buffers 0) (buffers 1),
        connected (ServerInstance.serve B) t (buffers 2) (buffers 3), [], [], e⟩ :=
  ⟨buffers, .tail (.single (.call c rfl (Option.some_ne_none i).symm))
    (.lock (Function.update_self i _ _))⟩

/-- Thread 0 of an application that has locked the connection to ask for the platforms. -/
def askingForPlatforms : SocketThreads (Fin 2) Unit plainBuild :=
  ⟨fun _ => none, some 0,
    connected (ApiCall.call plainBuild (.clGetPlatformIDs 1 true true)) ⟨[], 0, [], false, []⟩
      Buffer.zeros Buffer.zeros,
    connected (ServerInstance.serve ⟨plainBuild, 210⟩) ⟨[], none⟩ Buffer.zeros Buffer.zeros,
    [], [], ()⟩

theorem reachable_askingForPlatforms :
    Reachable (AnyLegal {0}) ⟨plainBuild, 210⟩ ⟨[], 0, [], false, []⟩ ⟨[], none⟩ ()
      askingForPlatforms := by
  have h := reachable_call (E := AnyLegal {0}) (B := ⟨plainBuild, 210⟩) (C := plainBuild)
    (0 : Fin 2) ⟨.clGetPlatformIDs 1 true true, fun h => by cases h⟩ ⟨[], 0, [], false, []⟩
    ⟨[], none⟩ () fun _ => Buffer.zeros
  rwa [Function.update_idem, Function.update_eq_self] at h

/-- The platforms are asked for. -/
theorem reachable_abs_clGetPlatformIDs :
    let x := askingForPlatforms
    Threads.Reachable (AnyLegal {0}) ⟨plainBuild, 210⟩ ⟨[], 0, [], false, []⟩ ⟨[], none⟩ () x.abs ∧
      ((∀ z, ¬ Buffered.Step (AnyLegal {0}) (ServerInstance.serve ⟨plainBuild, 210⟩) x.conv z) →
        ¬ Ready x.abs.conv.client.prog x.abs.conv.down ∧
          ¬ Ready x.abs.conv.server.prog x.abs.conv.up ∧ x.abs.conv.server.prog ≠ .ret true) :=
  reachable_abs answers_anyLegal reachable_askingForPlatforms

/-- **A call over socket streams ends**: wherever a run has led, the conversation does not go on
for ever, whoever is scheduled and however the network cuts the bytes; it stops with the call
returned, both streams and all their buffers empty and the server waiting; and nobody meets a packet
that he has not asked for. -/
theorem comes_to_rest {A : Finset Ptr} (hA : A.card ≤ 65536) (hE : AllLegal A E)
    (hanswers : Answers E) (hB : 210 ≤ B.clTarget) (haccepted : Accepted C B.toBuild)
    (hz : ZlibInverts C B.toBuild) (ht : t.mObjects = []) (h : Reachable E B s t e x) :
    Halts (Buffered.Step E (ServerInstance.serve B)) x.conv ∧
      (∀ y, Relation.ReflTransGen (Buffered.Step E (ServerInstance.serve B)) x.conv y →
        (∀ z, ¬ Buffered.Step E (ServerInstance.serve B) y z) →
          AtRest B (fun _ _ _ _ => True) y.abs) ∧
      (∀ k, x.conv.client.prog ≠ .check false k) ∧ ∀ k, x.conv.server.prog ≠ .check false k := by
  have hgood : Good A t.mObjects := by
    rw [ht]
    exact good_nil _
  obtain ⟨hx, hreach⟩ := h.simulated
  have hinv := Threads.inv (lawful_apiCalls hE hB haccepted hz) (kept_good hE) hgood hreach
  have hsettles : Settles E (ServerInstance.serve B) (Final B ∅ fun _ _ _ _ => True)
      x.abs.conv := by
    refine (hinv.atRest hA).mono ?_
    rintro y ⟨r, s, t, e, -, hy⟩
    exact Or.inl ⟨r, s, t, e, trivial, hy⟩
  obtain ⟨hhalts, hfinal⟩ :=
    Buffered.Settles.buffered (x := x.conv) hanswers terminal_final hx.conv hsettles
  exact ⟨hhalts, fun y hxy hstop => (final_empty _).mp (hfinal y hxy hstop),
    fun _ => hsettles.client_check hanswers terminal_final,
    fun _ => hsettles.server_check terminal_final⟩

theorem comes_to_rest_clGetPlatformIDs :
    let x := askingForPlatforms.conv
    let step := Buffered.Step (AnyLegal {0}) (ServerInstance.serve ⟨plainBuild, 210⟩)
    Halts step x ∧
      (∀ y, Relation.ReflTransGen step x y → (∀ z, ¬ step y z) →
        AtRest ⟨plainBuild, 210⟩ (fun _ _ _ _ => True) y.abs) ∧
      (∀ k, x.client.prog ≠ .check false k) ∧ ∀ k, x.server.prog ≠ .check false k := by
  have hE : AllLegal (({0} : Finset Ptr) : Set Ptr) (AnyLegal {0}) := fun _ c a _ h => by
    rwa [Finset.coe_singleton]
  have haccepted : Accepted plainBuild plainBuild :=
    ⟨_, [], _, LawfulWire.reads_dec (VersionPacket.ofBuild plainBuild) [], by decide⟩
  exact comes_to_rest (A := {0}) (B := ⟨plainBuild, 210⟩) (C := plainBuild) (by simp) hE
    answers_anyLegal (le_refl 210) haccepted (fun _ h => by cases h) rfl
    reachable_askingForPlatforms

end SocketThreads

end RemoteCL

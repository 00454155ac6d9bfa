import RemoteCL.Session.Rules

/-!
# Opening the event stream

A new connection starts with a request for an event stream.  The client waits for one packet with
the number of a port, where 0 stands for none, and goes on.

The server announces the port as soon as it is bound, and accepts a connection after that.  The
`try` block is around both, and behind it a packet with 0 is written whatever has failed.  So if the
accept fails, two packets are written, and the client reads the second one as the reply to its first
API call.
-/

namespace RemoteCL

open ByteStream Conversation Client

namespace Client

/-- The part of the constructor of `Connection` that negotiates an event stream, with the port that
the server has replied.  `connects` says whether the client can connect to it. -/
def openEventStream (connects : Bool) : ClientM UInt16 := do
  PacketStream.writePacket (⟨⟩ : OpenEventStream)
  PacketStream.flush
  let eventPort ← PacketStream.readPacket (SimplePacket .payload UInt16)
  Prog.modifyState fun s =>
    { s with hasEventStream := s.hasEventStream || (eventPort.mData != 0 && connects) }
  pure eventPort.mData

end Client

/-! ## The sockets of the server -/

/-- What becomes of the attempts to bind and to accept, in their order, the port that is listened
on, and the port on which a connection has been accepted. -/
structure Sockets where
  outcomes : ℕ → SocketAns
  listening : Option UInt16
  accepted : Option UInt16

namespace Sockets

/-- The next attempt. -/
def next (x : Sockets) : Sockets := { x with outcomes := fun i => x.outcomes (i + 1) }

/-- The answers to the server. -/
def Answers : Sockets → (c : ServerCall) → Ans c → Sockets → Prop
  | x, .listen port, a, y =>
    a = x.outcomes 0 ∧ y = if a = .opened then { x.next with listening := some port } else x.next
  | x, .accept, a, y =>
    a = x.outcomes 0 ∧ y = if a = .opened then { x.next with accepted := x.listening } else x.next
  | x, _, _, y => y = x

/-- A random number is not an attempt. -/
theorem forall_rand {x : Sockets} {S : ℕ → Sockets → Prop} {Q : Prop} (h : ∀ r, S r x ↔ Q) :
    (∀ r y, x.Answers .rand r y → S r y) ↔ Q :=
  ⟨fun hall => (h 0).mp (hall 0 x rfl), fun hQ r _ hy => hy ▸ (h r).mpr hQ⟩

/-- There is one answer to an attempt to bind. -/
theorem forall_listen {x : Sockets} {port : UInt16} {S : SocketAns → Sockets → Prop} :
    (∀ a y, x.Answers (.listen port) a y → S a y) ↔ S (x.outcomes 0)
      (if x.outcomes 0 = .opened then { x.next with listening := some port } else x.next) :=
  ⟨fun hall => hall _ _ ⟨rfl, rfl⟩, fun h _ _ ⟨ha, hy⟩ => by rw [hy, ha]; exact h⟩

/-- There is one answer to an attempt to accept. -/
theorem forall_accept {x : Sockets} {S : SocketAns → Sockets → Prop} :
    (∀ a y, x.Answers .accept a y → S a y) ↔ S (x.outcomes 0)
      (if x.outcomes 0 = .opened then { x.next with accepted := x.listening } else x.next) :=
  ⟨fun hall => hall _ _ ⟨rfl, rfl⟩, fun h _ _ ⟨ha, hy⟩ => by rw [hy, ha]; exact h⟩

end Sockets

/-- One of the first `triesLeft` attempts to bind succeeds, and the accept that follows fails. -/
def Vanishes (triesLeft : ℕ) (outcomes : ℕ → SocketAns) : Prop :=
  ∃ i < triesLeft, (∀ j < i, outcomes j = .socketError) ∧ outcomes i = .opened ∧
    outcomes (i + 1) ≠ .opened

theorem not_vanishes_zero (outcomes : ℕ → SocketAns) : ¬ Vanishes 0 outcomes :=
  fun ⟨_, h, _⟩ => absurd h (Nat.not_lt_zero _)

theorem vanishes_succ (triesLeft : ℕ) (outcomes : ℕ → SocketAns) :
    Vanishes (triesLeft + 1) outcomes ↔
      outcomes 0 = .opened ∧ outcomes 1 ≠ .opened ∨
        outcomes 0 = .socketError ∧ Vanishes triesLeft fun i => outcomes (i + 1) := by
  constructor
  · rintro ⟨i, hi, hbefore, hopened, hnext⟩
    cases i with
    | zero => exact Or.inl ⟨hopened, hnext⟩
    | succ i =>
      exact Or.inr ⟨hbefore 0 (Nat.succ_pos i), i, Nat.lt_of_succ_lt_succ hi,
        fun j hj => hbefore (j + 1) (Nat.succ_lt_succ hj), hopened, hnext⟩
  · rintro (⟨hopened, hnext⟩ | ⟨h0, i, hi, hbefore, hopened, hnext⟩)
    · exact ⟨0, Nat.succ_pos _, fun j hj => absurd hj (Nat.not_lt_zero j), hopened, hnext⟩
    · refine ⟨i + 1, Nat.succ_lt_succ hi, fun j hj => ?_, hopened, hnext⟩
      cases j with
      | zero => exact h0
      | succ j => exact hbefore j (Nat.lt_of_succ_lt_succ hj)

/-! ## The negotiation -/

/-- The client's side of the negotiation; what follows is left out. -/
abbrev negotiation (connects : Bool) : ClientM Ret :=
  Client.openEventStream connects >>= fun port => pure (.code (Int32.ofNat port.toNat))

/-- What has been negotiated: with 0 the event stream is what it was, and if a stream has been
accepted then on the port that the client was told. -/
def Negotiated (t : ServerState) (r : Ret) (_ : ClientState) (t' : ServerState) (x : Sockets) :
    Prop :=
  ∃ port : UInt16, r = .code (Int32.ofNat port.toNat) ∧ t'.mObjects = t.mObjects ∧
    (port = 0 → t'.mEventStream = t.mEventStream) ∧
    ∀ p, x.accepted = some p → port = p ∧ t'.mEventStream = some []

section Negotiation

variable {B : ServerBuild} {connects : Bool} {s : ClientState} {t t' : ServerState} {x : Sockets}

/-- A port in a packet. -/
abbrev portPacket (port : UInt16) : Bytes := packet (⟨port⟩ : SimplePacket .payload UInt16)

/-- The client, from the flush of its request on. -/
abbrev awaitPort (connects : Bool) : ClientM Ret :=
  PacketStream.readPacket (SimplePacket .payload UInt16) >>= fun eventPort =>
    Prog.modifyState (fun s => { s with
      hasEventStream := s.hasEventStream || (eventPort.mData != 0 && connects) }) >>= fun _ =>
        pure (.code (Int32.ofNat eventPort.mData.toNat))

/-- The client takes one packet, and nothing may be left. -/
theorem settles_awaitPort (port : UInt16) (d : Bytes) :
    Settles Sockets.Answers (ServerInstance.serve B) (Final B ∅ (Negotiated t))
        ⟨⟨awaitPort connects, s, []⟩, ⟨ServerInstance.serve B, t', []⟩, [],
          portPacket port ++ d, x⟩ ↔
      d = [] ∧ Negotiated t (.code (Int32.ofNat port.toNat)) s t' x := by
  refine (settles_client_meets_packet stable_final Prog.Context.hole (by decide)).trans ?_
  exact (settles_client_modify stable_final Prog.Context.hole).trans settles_returned

/-- The last packet of the server. -/
theorem settles_lastPort (port : UInt16) (d : Bytes) :
    Settles Sockets.Answers (ServerInstance.serve B) (Final B ∅ (Negotiated t))
        ⟨⟨awaitPort connects, s, []⟩, ⟨ServerInstance.iteration
          (ServerInstance.writeValue port >>= fun _ => pure true), t', []⟩, [], d, x⟩ ↔
      Settles Sockets.Answers (ServerInstance.serve B) (Final B ∅ (Negotiated t))
        ⟨⟨awaitPort connects, s, []⟩, ⟨ServerInstance.serve B, t', []⟩, [],
          d ++ portPacket port, x⟩ :=
  settles_replied

/-- A port has been bound: the client is told, and one connection is accepted. -/
theorem settles_bound {port : UInt16} (hport : port ≠ 0) (hl : x.listening = some port) :
    Settles Sockets.Answers (ServerInstance.serve B) (Final B ∅ (Negotiated t))
        ⟨⟨awaitPort connects, s, []⟩, ⟨ServerInstance.iteration
          ((Prog.tryCatch
            (ServerInstance.writeValue port >>= fun _ => PacketStream.flush >>= fun _ =>
              Prog.ask ServerCall.accept >>= fun accepted : SocketAns =>
                match accepted with
                | .opened => Prog.modifyState fun s => { s with mEventStream := some [] }
                | .socketError => Prog.throw .socketError
                | .otherError => Prog.throw .other)
            fun _ => ServerInstance.writeValue (0 : UInt16)) >>= fun _ => pure true), t, []⟩,
          [], [], x⟩ ↔
      x.outcomes 0 = .opened := by
  have hK : Prog.Context fun p : ServerM Unit => ServerInstance.iteration
      ((p.tryCatch fun _ => ServerInstance.writeValue (0 : UInt16)) >>= fun _ => pure true) :=
    (Prog.Context.tryCatch _).comp context_handler
  refine (settles_server_writePacket stable_final hK).trans ?_
  refine (settles_server_flushes stable_final hK).trans ?_
  refine (settles_server_ask stable_final hK).trans (Sockets.forall_accept.trans ?_)
  rw [List.nil_append, List.nil_append]
  -- a second packet is written, which nobody reads
  have hsecond (y : Sockets) :
      ¬ Settles Sockets.Answers (ServerInstance.serve B) (Final B ∅ (Negotiated t))
        ⟨⟨awaitPort connects, s, []⟩, ⟨ServerInstance.iteration
          (ServerInstance.writeValue (0 : UInt16) >>= fun _ => pure true), t, []⟩, [],
          portPacket port, y⟩ := by
    rw [settles_lastPort, settles_awaitPort]
    exact fun h => absurd h.1 (List.cons_ne_nil _ _)
  cases hout : x.outcomes 0 with
  | opened =>
    refine iff_of_true ?_ rfl
    rw [if_pos rfl]
    dsimp only
    rw [← bind_pure (Prog.modifyState _ : ServerM Unit)]
    refine (settles_server_modify stable_final hK).mpr (settles_handled.mpr ?_)
    rw [settles_awaitPort]
    refine ⟨rfl, port, rfl, rfl, fun h0 => absurd h0 hport, fun p hp => ?_⟩
    rw [hl] at hp
    exact ⟨Option.some.inj hp, rfl⟩
  | socketError => exact iff_of_false (hsecond _) (by simp)
  | otherError => exact iff_of_false (hsecond _) (by simp)

/-- The attempts of the server, with a client that waits. -/
theorem settles_attempts (triesLeft : ℕ) (hx : x.accepted = none) :
    Settles Sockets.Answers (ServerInstance.serve B) (Final B ∅ (Negotiated t))
        ⟨⟨awaitPort connects, s, []⟩, ⟨ServerInstance.iteration
          (ServerInstance.openEventStream triesLeft >>= fun _ => pure true), t, []⟩, [], [], x⟩ ↔
      ¬ Vanishes triesLeft x.outcomes := by
  -- without an event stream the client is told 0
  have hnone {y : Sockets} (hy : y.accepted = none) :
      Settles Sockets.Answers (ServerInstance.serve B) (Final B ∅ (Negotiated t))
        ⟨⟨awaitPort connects, s, []⟩, ⟨ServerInstance.iteration
          (ServerInstance.writeValue (0 : UInt16) >>= fun _ => pure true), t, []⟩, [], [], y⟩ := by
    rw [settles_lastPort, List.nil_append, ← List.append_nil (portPacket 0), settles_awaitPort]
    refine ⟨rfl, 0, rfl, rfl, fun _ => rfl, fun p hp => ?_⟩
    rw [hy] at hp
    cases hp
  induction triesLeft generalizing x with
  | zero => exact iff_of_true (hnone hx) (not_vanishes_zero _)
  | succ triesLeft ih =>
    have hport (r : ℕ) : UInt16.ofNat (r % (65535 - 49152 + 1) + 49152) ≠ 0 := by
      intro h
      have := congrArg UInt16.toNat h
      rw [UInt16.toNat_ofNat'] at this
      simp at this
      omega
    rw [ServerInstance.openEventStream, vanishes_succ]
    refine (settles_server_ask stable_final context_handler).trans
      (Sockets.forall_rand fun r => ?_)
    refine (settles_server_ask stable_final context_handler).trans
      (Sockets.forall_listen.trans ?_)
    cases hout : x.outcomes 0 with
    | opened =>
      rw [if_pos rfl]
      refine (settles_bound (x := { x.next with listening := some _ }) (hport r) rfl).trans ?_
      show x.outcomes 1 = .opened ↔ _
      simp
    | socketError =>
      rw [if_neg (by simp)]
      refine (ih (x := x.next) hx).trans (not_congr ?_)
      simp [Sockets.next]
    | otherError =>
      rw [if_neg (by simp)]
      exact iff_of_true (hnone (y := x.next) hx) (by simp)

theorem negotiation_eq (connects : Bool) :
    negotiation connects = PacketStream.writePacket (⟨⟩ : OpenEventStream) >>= fun _ =>
      PacketStream.flush >>= fun _ => awaitPort connects := by
  simp only [negotiation, Client.openEventStream, bind_assoc, pure_bind]

/-- The request reaches the server, and the client waits. -/
theorem settles_request :
    Settles Sockets.Answers (ServerInstance.serve B) (Final B ∅ (Negotiated t))
        (start B (negotiation connects) s t x) ↔
      Settles Sockets.Answers (ServerInstance.serve B) (Final B ∅ (Negotiated t))
        ⟨⟨awaitPort connects, s, []⟩, ⟨ServerInstance.iteration
          (ServerInstance.openEventStream 16 >>= fun _ => pure true), t, []⟩, [], [], x⟩ := by
  have hhandler : ServerInstance.handler B .eventStreamOpen = some _ := rfl
  rw [negotiation_eq]
  refine (settles_client_writePacket stable_final Prog.Context.hole).trans ?_
  refine (settles_client_flushes stable_final Prog.Context.hole).trans ?_
  refine (settles_dispatch hhandler rfl).trans ?_
  exact settles_server_meets_packet (p := (⟨⟩ : OpenEventStream)) (u := [])
    (k := fun _ => ServerInstance.openEventStream 16) stable_final context_handler (by decide)

end Negotiation

/-- **Opening the event stream**: exactly one packet is written for the request, and it says what
has been negotiated, unless a port is bound and nobody can be accepted on it. -/
theorem negotiation_settles_iff (B : ServerBuild) (connects : Bool) (s : ClientState)
    (t : ServerState) (outcomes : ℕ → SocketAns) :
    Settles Sockets.Answers (ServerInstance.serve B) (Final B ∅ (Negotiated t))
        (start B (negotiation connects) s t ⟨outcomes, none, none⟩) ↔
      ¬ Vanishes 16 outcomes :=
  settles_request.trans (settles_attempts (x := ⟨outcomes, none, none⟩) 16 rfl)

/-- A client that has gone before it is accepted: a port is bound, and the accept throws. -/
theorem negotiation_answers_twice :
    ¬ ∀ (B : ServerBuild) (connects : Bool) (s : ClientState) (t : ServerState)
      (outcomes : ℕ → SocketAns),
      Settles Sockets.Answers (ServerInstance.serve B) (Final B ∅ (Negotiated t))
        (start B (negotiation connects) s t ⟨outcomes, none, none⟩) := by
  intro h
  have hsettles := h ⟨plainBuild, 210⟩ true ⟨[], 0, [], false, []⟩ ⟨[], none⟩
    fun i => if i = 0 then .opened else .socketError
  refine (settles_attempts 16 rfl).mp (settles_request.mp hsettles) ?_
  exact ⟨0, by decide, fun j hj => absurd hj (Nat.not_lt_zero j), rfl, by decide⟩

end RemoteCL

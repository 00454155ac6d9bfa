import RemoteCL.Server.Thread
import RemoteCL.Session.Handshake
import RemoteCL.Session.OverSockets

/-!
# From the constructor to the destructor

A process has one connection to one server.  The constructor of `Connection` takes in the version
of the server, and asks for an event stream if both builds have them.  Then come the calls of the
application, and at the end the destructor takes leave with a `Terminate` packet.

A `Session` is all of this over socket streams, on the server's side from the constructor of the
`ServerInstance` to the end of `run`.  From every state that a session can reach, the conversation
stops: before the destructor with both parties waiting for the next call, and after it with the
server out of its loop and nothing left on the wire but the packet that it has left it for
(`Session.comes_to_end`).  The accept that follows the announcement of a port has to succeed, since
the parties are out of step otherwise (see `RemoteCL.Session.Handshake`).
-/

namespace RemoteCL

open ByteStream Conversation Client

namespace Client

/-- The constructor of `Connection`, once it is connected to the server.  The result says whether
`mStream` is there in the end. -/
def Connection.construct (C : Build) (connects : Bool) : ClientM Ret :=
  Prog.tryCatch
    (do
      let serverVersion ← PacketStream.readPacket VersionPacket
      if (VersionPacket.ofBuild C).isCompatibleWith serverVersion = true then
        if C.async = true ∧ serverVersion.eventEnabled = true then
          -- Attempt to negotiate a server-side stream.
          let _ ← openEventStream connects
          pure (.code CL_SUCCESS)
        else pure (.code CL_SUCCESS)
      else
        -- The versions are not compatible
        pure (.code CL_DEVICE_NOT_AVAILABLE))
    fun _ => pure (.code CL_SUCCESS)

/-- The destructor. -/
def Connection.destruct : ClientM Ret := do
  Prog.modifyState fun s => { s with mObjects := [] }
  Prog.tryCatch
    (do
      PacketStream.writePacket (⟨⟩ : TerminatePacket)
      PacketStream.flush)
    -- Ignore - the process is terminating.
    fun _ => pure ()
  pure (.code CL_SUCCESS)

end Client

theorem VersionPacket.eventEnabled_ofBuild (b : Build) : (ofBuild b).eventEnabled = b.async := by
  rw [eventEnabled, features_ofBuild, characters, swVersionSize]
  cases b.zlib.isSome <;> cases b.async <;> rfl

section Parties

variable {δ : Type} {E : δ → (c : ServerCall) → Ans c → δ → Prop} {B : ServerBuild} {A : Set Ptr}
variable {C : Build} {connects : Bool} {s : ClientState} {t : ServerState} {e : δ}

/-! ## The constructor -/

/-- The accept behind the announcement of a port succeeds. -/
def AcceptsEvents (E : δ → (c : ServerCall) → Ans c → δ → Prop) : Prop :=
  ∀ e (a : SocketAns) e', E e .accept a e' → a = .opened

/-- The connection has been set up. -/
def Established (r : Ret) (_ : ClientState) (t : ServerState) (_ : δ) : Prop :=
  r = .code CL_SUCCESS ∧ t.mObjects = []

/-- What is left of the constructor when the port is awaited. -/
def awaitEventPort (connects : Bool) : ClientM Ret :=
  Prog.tryCatch
    (PacketStream.readPacket (SimplePacket .payload UInt16) >>= fun eventPort =>
      Prog.modifyState (fun s => { s with
        hasEventStream := s.hasEventStream || (eventPort.mData != 0 && connects) }) >>= fun _ =>
          pure (.code CL_SUCCESS))
    fun _ => pure (.code CL_SUCCESS)

theorem settles_awaitEventPort (port : UInt16) (ht : t.mObjects = []) :
    Settles E (ServerInstance.serve B) (Final B A Established)
      ⟨⟨awaitEventPort connects, s, []⟩, ⟨ServerInstance.serve B, t, []⟩, [],
        portPacket port, e⟩ := by
  have hK : Prog.Context fun p : ClientM Ret =>
      p.tryCatch fun _ => pure (.code CL_SUCCESS) := Prog.Context.tryCatch _
  rw [← List.append_nil (portPacket port)]
  refine (settles_client_meets_packet stable_final hK (by decide)).mpr ?_
  refine (settles_client_modify stable_final hK).mpr ?_
  exact Settles.final (Or.inl ⟨_, _, t, e, ⟨rfl, ht⟩, rfl⟩)

/-- The server announces a port, or that there is none. -/
theorem settles_eventAttempts (hE : AcceptsEvents E) (triesLeft : ℕ) (ht : t.mObjects = []) :
    Settles E (ServerInstance.serve B) (Final B A Established)
      ⟨⟨awaitEventPort connects, s, []⟩, ⟨ServerInstance.iteration
        (ServerInstance.openEventStream triesLeft >>= fun _ => pure true), t, []⟩, [], [], e⟩ := by
  have hnone (e : δ) : Settles E (ServerInstance.serve B) (Final B A Established)
      ⟨⟨awaitEventPort connects, s, []⟩, ⟨ServerInstance.iteration
        (ServerInstance.writeValue (0 : UInt16) >>= fun _ => pure true), t, []⟩, [], [], e⟩ :=
    settles_replied.mpr (settles_awaitEventPort 0 ht)
  induction triesLeft generalizing e with
  | zero => exact hnone e
  | succ triesLeft ih =>
    rw [ServerInstance.openEventStream]
    refine (settles_server_ask stable_final context_handler).mpr fun r e₁ _ => ?_
    refine (settles_server_ask stable_final context_handler).mpr fun bound e₂ _ => ?_
    cases bound with
    | opened =>
      have hK : Prog.Context fun p : ServerM Unit => ServerInstance.iteration
          ((p.tryCatch fun _ => ServerInstance.writeValue (0 : UInt16)) >>= fun _ => pure true) :=
        (Prog.Context.tryCatch _).comp context_handler
      refine (settles_server_writePacket stable_final hK).mpr ?_
      refine (settles_server_flushes stable_final hK).mpr ?_
      refine (settles_server_ask stable_final hK).mpr fun accepted e₃ haccepted => ?_
      obtain rfl := hE _ _ _ haccepted
      dsimp only
      rw [← bind_pure (Prog.modifyState _ : ServerM Unit)]
      refine (settles_server_modify stable_final hK).mpr (settles_handled.mpr ?_)
      exact settles_awaitEventPort _ ht
    | socketError => exact ih
    | otherError => exact hnone e₂

/-- **The constructors of both parties meet**, if the versions are compatible. -/
theorem settles_construct (haccepted : Accepted C B.toBuild)
    (hE : C.async = true → B.async = true → AcceptsEvents E) :
    Settles E (ServerInstance.serve B) (Final B A Established)
      ⟨⟨Connection.construct C connects, s, []⟩,
        ⟨ServerInstance.construct B >>= fun _ => pure true, ⟨[], none⟩, []⟩, [], [], e⟩ := by
  have hcatch : Prog.Context fun p : ClientM Ret =>
      p.tryCatch fun _ => pure (.code CL_SUCCESS) := Prog.Context.tryCatch _
  -- the server sends its version
  rw [ServerInstance.construct, bind_assoc]
  refine (settles_server_writePacket stable_final Prog.Context.hole).mpr ?_
  refine (settles_server_flushes stable_final Prog.Context.hole).mpr ?_
  refine (settles_server_again stable_final).mpr ?_
  -- the client accepts it
  rw [List.nil_append, List.nil_append, ← List.append_nil (packet _), Connection.construct]
  refine (settles_client_meets_packet stable_final hcatch (by decide)).mpr ?_
  rw [if_pos haccepted.compatible, VersionPacket.eventEnabled_ofBuild]
  split
  · rename_i hasync
    have hhandler : ServerInstance.handler B .eventStreamOpen = some _ := rfl
    have hstream : (openEventStream connects >>= fun _ => pure (.code CL_SUCCESS) : ClientM Ret) =
        PacketStream.writePacket (⟨⟩ : OpenEventStream) >>= fun _ => PacketStream.flush >>= fun _ =>
          PacketStream.readPacket (SimplePacket .payload UInt16) >>= fun eventPort =>
            Prog.modifyState (fun s => { s with
              hasEventStream := s.hasEventStream || (eventPort.mData != 0 && connects) }) >>=
                fun _ => pure (.code CL_SUCCESS) := by
      simp only [openEventStream, bind_assoc, pure_bind]
    rw [hstream]
    refine (settles_client_writePacket stable_final hcatch).mpr ?_
    refine (settles_client_flushes stable_final hcatch).mpr ?_
    refine (settles_dispatch hhandler rfl).mpr ?_
    refine (settles_server_meets_packet (p := (⟨⟩ : OpenEventStream)) (u := [])
      (k := fun _ => ServerInstance.openEventStream 16) stable_final context_handler
      (by decide)).mpr ?_
    exact settles_eventAttempts (hE hasync.1 hasync.2) 16 rfl
  · exact Settles.final (Or.inl ⟨_, s, _, e, ⟨rfl, rfl⟩, rfl⟩)

/-! ## The destructor -/

/-- Both parties have left: the server at the `Terminate` packet, without an event stream. -/
def Departed (x : CallConfig δ) : Prop :=
  ∃ s t e, s.mObjects = [] ∧ t.mEventStream = none ∧
    x = ⟨⟨.ret (.code CL_SUCCESS), s, []⟩, ⟨.ret false, t, []⟩,
      packet (⟨⟩ : TerminatePacket), [], e⟩

theorem terminal_departed : Terminal E (ServerInstance.serve B) (Departed (δ := δ)) where
  stuck := by
    rintro x y ⟨s, t, e, -, -, rfl⟩
    exact halted_of_idle (p := .ret _) (q := .ret false) trivial trivial (by simp) y
  client_check := by
    rintro x k ⟨s, t, e, -, -, rfl⟩ h
    cases h
  server_check := by
    rintro x k ⟨s, t, e, -, -, rfl⟩ h
    cases h

/-- The server leaves its loop at a `Terminate` packet. -/
theorem settles_terminates {F : CallConfig δ → Prop} (hF : Stable E (ServerInstance.serve B) F)
    {c : Side ClientState Exn Empty NoAnswer Ret} {u d : Bytes} :
    Settles E (ServerInstance.serve B) F
        ⟨c, ⟨ServerInstance.serve B, t, []⟩, PacketType.terminate.toByte :: u, d, e⟩ ↔
      Settles E (ServerInstance.serve B) F
        ⟨c, ⟨.ret false, { t with mEventStream := none }, []⟩,
          PacketType.terminate.toByte :: u, d, e⟩ := by
  have hpeek := settles_server_peek (E := E) (F := F) (c := c) (t := t) (o := []) (u := u)
    (d := d) (e := e) (b := PacketType.terminate.toByte) hF ServerInstance.context_iteration
    (k := fun b => ServerInstance.dispatch B
      (PacketType.ofByte (b.getD PacketType.terminate.toByte)))
  rw [Option.getD_some, PacketType.ofByte_toByte] at hpeek
  refine hpeek.trans ((settles_server_modify hF ServerInstance.context_iteration).trans ?_)
  refine (settles_server_flushes hF Prog.Context.hole).trans ?_
  rw [List.append_nil]
  rfl

/-- **The destructor ends the session.** -/
theorem settles_destruct :
    Settles E (ServerInstance.serve B) Departed (start B Connection.destruct s t e) := by
  have hF : Stable E (ServerInstance.serve B) (Departed (δ := δ)) := terminal_departed.stable
  have hK : Prog.Context fun p : ClientM Unit =>
      (p.tryCatch fun _ => pure ()) >>= fun _ => (pure (.code CL_SUCCESS) : ClientM Ret) :=
    (Prog.Context.tryCatch _).comp (Prog.Context.bind _)
  refine (settles_client_modify hF Prog.Context.hole).mpr ?_
  refine (settles_client_writePacket hF hK).mpr ?_
  rw [← bind_pure (PacketStream.flush : ClientM Unit)]
  refine (settles_client_flushes hF hK).mpr ?_
  refine (settles_terminates hF).mpr ?_
  exact Settles.final ⟨_, _, e, rfl, rfl, rfl⟩

/-- The destructor is entered while the server may still finish the last call. -/
theorem settles_exit {P : Ret → ClientState → ServerState → δ → Prop} {x : CallConfig δ} {r : Ret}
    (hx : x.client.prog = .ret r) (h : Settles E (ServerInstance.serve B) (AtRest B P) x) :
    Settles E (ServerInstance.serve B) Departed (resume Connection.destruct x) := by
  obtain ⟨⟨p, s, o⟩, server, u, d, e⟩ := x
  subst hx
  refine Settles.resume (fun server u d e hrest => ?_) h
  obtain ⟨r, s', t, e', -, heq⟩ := hrest
  simp only [start, Config.mk.injEq, Side.mk.injEq] at heq
  obtain ⟨⟨-, rfl, rfl⟩, rfl, rfl, rfl, rfl⟩ := heq
  exact settles_destruct

end Parties

/-! ## Sessions -/

/-- The threads of an application, from the start of the process to its end. -/
structure Session (ι δ : Type) (C : Build) where
  /-- The destructor has been entered. -/
  exiting : Bool
  threads : SocketThreads ι δ C

namespace Session

variable {ι δ : Type} [DecidableEq ι] {C : Build}
variable (E : δ → (c : ServerCall) → Ans c → δ → Prop) (B : ServerBuild)

/-- A step of the process, or of the conversation.  The process exits when no thread is in a
call. -/
inductive Step : Session ι δ C → Session ι δ C → Prop
  | runs {x y} (h : SocketThreads.Step E B x y) : Step ⟨false, x⟩ ⟨false, y⟩
  | exits {w x} : Step ⟨false, ⟨w, none, x⟩⟩
      ⟨true, ⟨w, none, { x with client := { x.client with prog := Connection.destruct } }⟩⟩
  | talks {w h x x'} (hx : Buffered.Step E (ServerInstance.serve B) x x') :
    Step ⟨true, ⟨w, h, x⟩⟩ ⟨true, ⟨w, h, x'⟩⟩

/-- The connection has just been accepted.  A thread of the client is in the constructor, and a
process of the server is. -/
def start (i : ι) (connects : Bool) (e : δ) (buffers : Fin 4 → Buffer) : Session ι δ C :=
  let x : SocketThreads ι δ C :=
    SocketThreads.start B ⟨[], 0, [], false, []⟩ ⟨[], none⟩ e buffers
  ⟨false, fun _ => none, some i, { x.conv with
    client := { x.conv.client with prog := Connection.construct C connects }
    server := { x.conv.server with prog := ServerInstance.construct B >>= fun _ => pure true } }⟩

/-- What a session can lead to, whatever the buffers hold at first. -/
def Reachable (i : ι) (connects : Bool) (e : δ) (x : Session ι δ C) : Prop :=
  ∃ buffers, Relation.ReflTransGen (Step E B) (start B i connects e buffers) x

variable (A : Set Ptr)

/-- The invariant: before the exit that of the threads, and behind it the session is on its way to
the end. -/
def Inv : Session ι δ C → Prop
  | ⟨false, x⟩ => x.Holds ∧ x.abs.Inv E B A fun _ t _ => Good A t.mObjects
  | ⟨true, x⟩ => x.conv.Holds ∧ Settles E (ServerInstance.serve B) Departed x.conv.abs

variable {E B A} {i : ι} {connects : Bool} {e : δ} {x y : Session ι δ C}

omit [DecidableEq ι] in
theorem inv_start (haccepted : Accepted C B.toBuild)
    (haccepts : C.async = true → B.async = true → AcceptsEvents E) (buffers : Fin 4 → Buffer) :
    (start B i connects e buffers : Session ι δ C).Inv E B A := by
  refine ⟨⟨⟨SocketThreads.holds_connected _ _ _ _, SocketThreads.holds_connected _ _ _ _⟩,
    fun h => by cases h⟩, (fun h => by cases h), ?_⟩
  refine Settles.mono ?_ (settles_construct (A := A) haccepted haccepts)
  rintro z (⟨r, s, t, e, ⟨-, ht⟩, rfl⟩ | hhang)
  · have hgood : Good A t.mObjects := by
      rw [ht]
      exact good_nil A
    exact Or.inl ⟨r, s, t, e, hgood, rfl⟩
  · exact Or.inr hhang

theorem Step.inv {A : Finset Ptr} (hA : A.card ≤ 65536) (hE : AllLegal A E)
    (hB : 210 ≤ B.clTarget) (haccepted : Accepted C B.toBuild) (hz : ZlibInverts C B.toBuild)
    (hx : x.Inv E B A) (h : Step E B x y) : y.Inv E B A := by
  cases h with
  | @runs x y h =>
    obtain ⟨hholds, hinv⟩ := hx
    obtain ⟨hholds', hrun⟩ := h.simulated hholds
    refine ⟨hholds', ?_⟩
    -- the step is some steps of the threads without buffers
    generalize y.abs = b at hrun
    induction hrun with
    | refl => exact hinv
    | tail _ hstep ih => exact ih.step (lawful_apiCalls hE hB haccepted hz) (kept_good hE) hstep
  | @exits w x =>
    obtain ⟨hholds, hinv⟩ := hx
    refine ⟨hholds.resume rfl _, ?_⟩
    obtain ⟨r, hr⟩ := hinv.returned rfl
    exact settles_exit hr (hinv.atRest hA)
  | @talks w h x x' hstep =>
    obtain ⟨hholds, hsettles⟩ := hx
    obtain ⟨hholds', hrun⟩ := Buffered.run_simulated hholds (.single hstep)
    exact ⟨hholds', hsettles.run terminal_departed.stable hrun⟩

/-- What every state that a session can reach is on its way to. -/
theorem Reachable.inv {A : Finset Ptr} (hA : A.card ≤ 65536) (hE : AllLegal A E)
    (hB : 210 ≤ B.clTarget) (haccepted : Accepted C B.toBuild) (hz : ZlibInverts C B.toBuild)
    (haccepts : C.async = true → B.async = true → AcceptsEvents E)
    (h : Reachable E B i connects e x) : x.Inv E B A := by
  obtain ⟨buffers, hrun⟩ := h
  induction hrun with
  | refl => exact inv_start haccepted haccepts buffers
  | tail _ hstep ih => exact hstep.inv hA hE hB haccepted hz ih

/-- **A session comes to its end**: wherever it is, the conversation does not go on for ever,
whoever is scheduled and however the network cuts the bytes.  Before the exit it stops with the
constructor or the call returned, all streams and buffers empty and the server waiting; and behind
it with the server out of its loop, the event stream closed, and only the `Terminate` packet left.
Nobody meets a packet that he has not asked for. -/
theorem comes_to_end {A : Finset Ptr} (hA : A.card ≤ 65536) (hE : AllLegal A E)
    (hanswers : Answers E) (hB : 210 ≤ B.clTarget) (haccepted : Accepted C B.toBuild)
    (hz : ZlibInverts C B.toBuild) (haccepts : C.async = true → B.async = true → AcceptsEvents E)
    (h : Reachable E B i connects e x) :
    Halts (Buffered.Step E (ServerInstance.serve B)) x.threads.conv ∧
      (∀ y, Relation.ReflTransGen (Buffered.Step E (ServerInstance.serve B)) x.threads.conv y →
        (∀ z, ¬ Buffered.Step E (ServerInstance.serve B) y z) →
          (x.exiting = false → AtRest B (fun _ _ _ _ => True) y.abs) ∧
            (x.exiting = true → Departed y.abs)) ∧
      (∀ k, x.threads.conv.client.prog ≠ .check false k) ∧
        ∀ k, x.threads.conv.server.prog ≠ .check false k := by
  have hinv := h.inv hA hE hB haccepted hz haccepts
  obtain ⟨exiting, x⟩ := x
  cases exiting with
  | false =>
    obtain ⟨hholds, hinv⟩ := hinv
    have hsettles : Settles E (ServerInstance.serve B) (Final B ∅ fun _ _ _ _ => True)
        x.abs.conv := by
      refine (hinv.atRest hA).mono ?_
      rintro y ⟨r, s, t, e, -, hy⟩
      exact Or.inl ⟨r, s, t, e, trivial, hy⟩
    obtain ⟨hhalts, hfinal⟩ :=
      Buffered.Settles.buffered (x := x.conv) hanswers terminal_final hholds.conv hsettles
    exact ⟨hhalts, fun y hxy hstop =>
        ⟨fun _ => (final_empty _).mp (hfinal y hxy hstop), fun h => by cases h⟩,
      fun _ => hsettles.client_check hanswers terminal_final,
      fun _ => hsettles.server_check terminal_final⟩
  | true =>
    obtain ⟨hholds, hsettles⟩ := hinv
    obtain ⟨hhalts, hfinal⟩ :=
      Buffered.Settles.buffered (x := x.conv) hanswers terminal_departed hholds hsettles
    exact ⟨hhalts, fun y hxy hstop => ⟨(fun h => by cases h), fun _ => hfinal y hxy hstop⟩,
      fun _ => hsettles.client_check hanswers terminal_departed,
      fun _ => hsettles.server_check terminal_departed⟩

/-- A conversation before the exit, as a run of the session. -/
theorem Reachable.talk (hx : Reachable E B i connects e x) (hexiting : x.exiting = false)
    {y : SocketConfig δ}
    (hxy : Relation.ReflTransGen (Buffered.Step E (ServerInstance.serve B)) x.threads.conv y) :
    Reachable E B i connects e ⟨false, x.threads.waiting, x.threads.holder, y⟩ := by
  obtain ⟨buffers, hrun⟩ := hx
  obtain ⟨exiting, w, holder, x⟩ := x
  obtain rfl : exiting = false := hexiting
  exact ⟨buffers, hrun.trans (hxy.lift (fun z => (⟨false, w, holder, z⟩ : Session ι δ C))
    fun _ _ hstep => .runs (.talk hstep))⟩

/-- The last call returns, and the process exits. -/
theorem Reachable.exit {w : ι → Option (apiCalls C δ).Call} {j : ι} {y : SocketConfig δ} {r : Ret}
    (hx : Reachable E B i connects e (⟨false, w, some j, y⟩ : Session ι δ C))
    (hr : y.client.prog = .ret r) :
    Reachable E B i connects e
      (⟨true, w, none, { y with client := { y.client with prog := Connection.destruct } }⟩ :
        Session ι δ C) := by
  obtain ⟨buffers, hrun⟩ := hx
  exact ⟨buffers, (hrun.tail (.runs (.unlock hr))).tail .exits⟩

/-- A thread locks the connection with a call, behind a call that has returned. -/
theorem Reachable.next {w : ι → Option (apiCalls C δ).Call} {j k : ι} {y : SocketConfig δ}
    {r : Ret} (hx : Reachable E B i connects e (⟨false, w, some j, y⟩ : Session ι δ C))
    (hr : y.client.prog = .ret r) (c : (apiCalls C δ).Call) (hk : w k = none) :
    Reachable E B i connects e
      (⟨false, Function.update (Function.update w k (some c)) k none, some k,
        { y with client := { y.client with prog := c.1.call C } }⟩ : Session ι δ C) := by
  obtain ⟨buffers, hrun⟩ := hx
  have hreturned := hrun.tail (.runs (.unlock hr))
  have hcalled := hreturned.tail (.runs (.call (i := k) c hk (Option.some_ne_none k).symm))
  exact ⟨buffers, hcalled.tail (.runs (.lock (Function.update_self k _ _)))⟩

/-- The conversation does not go on for ever, and where it stops `P` holds. -/
def StopsIn (E : δ → (c : ServerCall) → Ans c → δ → Prop) (B : ServerBuild)
    (P : SocketConfig δ → Prop) (x : SocketConfig δ) : Prop :=
  Halts (Buffered.Step E (ServerInstance.serve B)) x ∧
    ∀ y, Relation.ReflTransGen (Buffered.Step E (ServerInstance.serve B)) x y →
      (∀ z, ¬ Buffered.Step E (ServerInstance.serve B) y z) → P y

/-- A driver that answers in every legal way, behind a server whose listening sockets accept. -/
def acceptingDriver : Unit → (c : ServerCall) → Ans c → Unit → Prop
  | _, .accept, a, _ => a = .opened
  | _, c, a, _ => Legal {0} c a

theorem allLegal_acceptingDriver : AllLegal {0} acceptingDriver := by
  intro e c a e' h
  cases c with
  | accept =>
    obtain rfl : a = .opened := h
    exact ⟨fun p hp => absurd hp List.not_mem_nil, fun _ => Nat.zero_le _, trivial⟩
  | _ => exact h

theorem answers_acceptingDriver : Answers acceptingDriver := by
  intro e c
  cases c with
  | accept => exact ⟨.opened, (), rfl⟩
  | _ => exact ⟨_, (), legal_refuse _⟩

/-- Both builds have event streams.  Thread 0 sets up the connection, with the socket of the event
stream, thread 1 asks for the platforms, and the process exits. -/
theorem comes_to_end_clGetPlatformIDs :
    let C : Build := ⟨0, 1, 2, none, true⟩
    let B : ServerBuild := ⟨C, 210⟩
    let continued (p : ClientM Ret) (y : SocketConfig Unit) : SocketConfig Unit :=
      { y with client := { y.client with prog := p } }
    StopsIn acceptingDriver B
      (fun y => AtRest B (fun _ _ _ _ => True) y.abs ∧ StopsIn acceptingDriver B
        (fun z => AtRest B (fun _ _ _ _ => True) z.abs ∧ StopsIn acceptingDriver B
          (fun v => Departed v.abs)
          (continued Connection.destruct z))
        (continued (ApiCall.call C (.clGetPlatformIDs 1 true true)) y))
      (start B 0 true () fun _ => Buffer.zeros : Session (Fin 2) Unit C).threads.conv := by
  intro C B continued
  have hE : AllLegal (({0} : Finset Ptr) : Set Ptr) acceptingDriver := by
    rw [Finset.coe_singleton]
    exact allLegal_acceptingDriver
  have haccepted : Accepted C C :=
    ⟨_, [], _, LawfulWire.reads_dec (VersionPacket.ofBuild C) [], by decide⟩
  have hends {x : Session (Fin 2) Unit C} (hx : Reachable acceptingDriver B 0 true () x) :=
    comes_to_end (A := {0}) (B := B) (C := C) (by simp) hE answers_acceptingDriver (le_refl 210)
      haccepted (fun _ h => by cases h) (fun _ _ _ _ _ h => h) hx
  -- the constructors meet
  have hstart : Reachable acceptingDriver B 0 true ()
      (start B 0 true () fun _ => Buffer.zeros : Session (Fin 2) Unit C) := ⟨_, .refl⟩
  obtain ⟨hhalts, hrest, -⟩ := hends hstart
  refine ⟨hhalts, fun y hxy hstop => ?_⟩
  have hy := (hrest y hxy hstop).1 rfl
  refine ⟨hy, ?_⟩
  obtain ⟨r, s, t, e, -, hy⟩ := hy
  have hr : y.client.prog = .ret r := congrArg (fun z => z.client.prog) hy
  -- the call returns
  have hcall := (hstart.talk rfl hxy).next (k := 1) hr
    ⟨.clGetPlatformIDs 1 true true, fun h => by cases h⟩ rfl
  obtain ⟨hhalts, hrest, -⟩ := hends hcall
  refine ⟨hhalts, fun z hyz hstop => ?_⟩
  have hz := (hrest z hyz hstop).1 rfl
  refine ⟨hz, ?_⟩
  obtain ⟨r, s, t, e, -, hz⟩ := hz
  have hr : z.client.prog = .ret r := congrArg (fun z => z.client.prog) hz
  -- the process exits
  obtain ⟨hhalts, hrest, -⟩ := hends ((hcall.talk rfl hyz).exit hr)
  exact ⟨hhalts, fun v hzv hstop => (hrest v hzv hstop).2 rfl⟩

end Session

end RemoteCL

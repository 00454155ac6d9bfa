import RemoteCL.Session.Calls.Commands

/-!
# Calls: what exactly they do

Where the answer of the driver is known, so is what the server replies, and what the client makes of
it.  Then the turns of a call are followed by one weakest precondition, that of the client inside
that of the handler (`settles_served`).
-/

namespace RemoteCL.Client

open ByteStream Conversation Wire LawfulWire

section Exact

variable {δ : Type} {E : δ → (c : ServerCall) → Ans c → δ → Prop} {B : ServerBuild} {C : Build}
variable {H : ServerState → Bytes → Bytes → Prop}
variable {P : Ret → ClientState → ServerState → δ → Prop}
variable {s : ClientState} {t : ServerState} {e e' : δ} {o u : Bytes}

/-- The request has arrived: the server serves it, and the client takes the reply in. -/
theorem settles_served (ty : PacketType) {h : ServerM Unit} {p : ClientM Ret}
    (hh : ServerInstance.handler B ty = some h) (hu : u.head? = some ty.toByte)
    (hserve : h.wp E (fun _ _ _ => False) t [] u e fun r t' o u' e' => r = .ok () ∧ u' = [] ∧
      Takes p s o fun r' s' o' d' _ => ∃ a, r' = .ok a ∧ o' = [] ∧ d' = [] ∧ P a s' t' e') :
    Settles E (ServerInstance.serve B) (Final B ∅ P)
      ⟨⟨p, s, []⟩, ⟨ServerInstance.serve B, t, []⟩, u, [], e⟩ := by
  refine (settles_dispatch hh hu).mpr (settles_server_wp stable_final context_handler
    (fun _ _ _ _ h => h.elim) (Prog.wp_mono ?_ hserve))
  rintro r t' o u' e' ⟨rfl, rfl, htakes⟩
  exact settles_handled.mpr (settles_reply htakes)

/-! ## The server -/

theorem wp_readEvents {args : WaitArgs} {ids : List IDType} (hids : args.eventIDs = .ok ids)
    (hlen : args.num_events_in_wait_list ≤ 255) {k : List Ptr → ServerM Unit}
    {Q : Except Exn Unit → ServerState → Bytes → Bytes → δ → Prop} :
    (ServerInstance.readEvents args.expectEventList >>= k).wp E H t o (eventPacket args ids ++ u) e
        Q ↔
      (k (ids.map (objectAt t.mObjects))).wp E H t o u e Q := by
  rw [eventPacket, ServerInstance.readEvents]
  cases hexpect : args.expectEventList with
  | false =>
    rw [WaitArgs.eventIDs_of_not_expected hids hexpect]
    rfl
  | true =>
    have hfits := (WaitArgs.length_eventIDs hids).trans hlen
    rw [if_pos rfl, if_pos rfl, bind_assoc, Prog.wp_bind, wp_readPacket (by decide)
      (reads_idListPacket (Nat.lt_succ_of_le hfits)), Prog.afterBind_ok, Prog.wp_bind,
      ServerInstance.wp_getObjs, Prog.afterBind_ok]

theorem wp_readPayloadPtr (hz : SameFormat C.zlib B.zlib) {data : Bytes}
    (hlen : data.length < SizeT.range .uint32) {k : Bytes → ServerM Unit}
    {Q : Except Exn Unit → ServerState → Bytes → Bytes → δ → Prop} :
    (ServerInstance.readPayload B >>= k).wp E H t o
        (PacketStream.frame .payload (encPayloadPtr C.zlib .uint32 data)) e Q ↔
      (k data).wp E H t o [] e Q := by
  have hread : Reads (decPayload B.zlib .uint32) (encPayloadPtr C.zlib .uint32 data) data :=
    reads_payload hz hlen .payloadPtr .payload
  rw [Prog.wp_bind, ServerInstance.readPayload, wp_read_last (by decide) hread, Prog.afterBind_ok]

/-- A command is enqueued, and its outcome is the reply.  `w` is what is left to say when it has
succeeded. -/
theorem wp_enqueued {q : Enqueue} {a : EnqueueAns} (hask : ∀ b e₁, E e (.enqueue q) b e₁ →
      b = a ∧ e₁ = e') {w : Bytes} {tail : EnqueueAns → ServerM Unit}
    {Q : Except Exn Unit → ServerState → Bytes → Bytes → δ → Prop}
    (htail : ∀ t o, (tail a).wp E H t o [] e' Q ↔ Q (.ok ()) t (o ++ w) [] e')
    (herror : a.err ≠ CL_SUCCESS → Q (.ok ()) t (packet (⟨a.err⟩ : ErrorPacket)) [] e')
    (hplain : a.err = CL_SUCCESS → q.wantEvent = false → Q (.ok ()) t w [] e')
    (hevent : a.err = CL_SUCCESS → q.wantEvent = true → ∃ id mObjects,
      assignID t.mObjects a.event = some (id, mObjects) ∧
        Q (.ok ()) { t with mObjects } (packet (⟨id⟩ : IDPacket) ++ w) [] e') :
    (ServerInstance.enqueue q >>= fun a =>
      if a.err ≠ CL_SUCCESS then ServerInstance.writeError a.err
      else ServerInstance.replyEvent q.wantEvent a.event >>= fun _ =>
        tail a).wp E H t [] [] e Q := by
  rw [Prog.wp_bind, ServerInstance.wp_enqueue]
  intro b e₁ hb
  obtain ⟨rfl, rfl⟩ := hask b e₁ hb
  rw [Prog.afterBind_ok]
  by_cases herr : b.err = CL_SUCCESS
  · rw [if_neg (not_not.mpr herr), Prog.wp_bind, ServerInstance.replyEvent]
    cases hwant : q.wantEvent with
    | false =>
      rw [if_neg Bool.false_ne_true]
      exact (htail t []).mpr (hplain herr hwant)
    | true =>
      obtain ⟨id, mObjects, hid, hQ⟩ := hevent herr hwant
      rw [if_pos rfl, ServerInstance.writeID, Prog.wp_bind, ServerInstance.wp_getIDFor, hid]
      exact (htail _ _).mpr hQ
  · rw [if_pos herr]
    exact herror herr

/-! ## The client -/

section Client

variable {badAlloc others : Int32} {args : WaitArgs} {α : Type} {ty : PacketType} {r : Reader α}
variable {k : α → ClientM Ret} {Q : Except Exn Ret → ClientState → Bytes → Bytes → Unit → Prop}

/-- The state of a client that has registered an event and stored its handle. -/
def withEvent (s : ClientState) (id : IDType) : ClientState :=
  (Resolve.registerID.apply s .event id).2.stored true
    (.event (Resolve.registerID.apply s .event id).1)

theorem takes_event_error {err : Int32}
    (h : Q (.ok (.code err)) s [] [] ()) :
    Takes (catching badAlloc others (awaitEvent args >>= fun _ => PacketStream.read ty r >>= k)) s
      (packet (⟨err⟩ : ErrorPacket)) Q := by
  rw [Takes, wp_catching, awaitEvent]
  cases args.event with
  | false =>
    rw [if_neg Bool.false_ne_true, pure_bind, Prog.wp_bind]
    exact wp_read_error.mpr h
  | true =>
    rw [if_pos rfl, bind_assoc, Prog.wp_bind, wp_readPacket_error]
    exact h

theorem takes_event_plain (hwant : args.event = false) (hty : Ordinary ty) {w : Bytes} {a : α}
    (hr : Reads r w a) (h : Takes (k a) s [] (afterCatching badAlloc others Q)) :
    Takes (catching badAlloc others (awaitEvent args >>= fun _ => PacketStream.read ty r >>= k)) s
      (PacketStream.frame ty w) Q := by
  rw [Takes, wp_catching, awaitEvent, hwant, if_neg Bool.false_ne_true, pure_bind, Prog.wp_bind]
  exact (wp_read_last hty hr).mpr h

theorem takes_event_ID (hwant : args.event = true) (hty : Ordinary ty) {id : IDType} {w : Bytes}
    {a : α} (hr : Reads r w a)
    (h : Takes (k a) (withEvent s id) [] (afterCatching badAlloc others Q)) :
    Takes (catching badAlloc others (awaitEvent args >>= fun _ => PacketStream.read ty r >>= k)) s
      (packet (⟨id⟩ : IDPacket) ++ PacketStream.frame ty w) Q := by
  rw [Takes, wp_catching, awaitEvent, hwant, if_pos rfl, bind_assoc, Prog.wp_bind,
    wp_readPacket (by decide) (reads_dec _), Prog.afterBind_ok, bind_assoc, Prog.wp_bind,
    wp_registerID, Prog.afterBind_ok, Prog.wp_bind, wp_store, Prog.afterBind_ok, Prog.wp_bind]
  exact (wp_read_last hty hr).mpr h

end Client

/-! ## A command -/

/-- The state of a client that has stored what it has read, if it reads. -/
def withData (s : ClientState) : Option Bytes → ClientState
  | some data => s.note (.store (.ptr data))
  | none => s

/-- A command whose request has arrived, and what it reports.  `a` is the answer of the driver. -/
theorem settles_enqueued {ty ty' : PacketType} {h : ServerM Unit} {q : Enqueue} {a : EnqueueAns}
    {tail : EnqueueAns → ServerM Unit} {args : WaitArgs} {α : Type} {r : Reader α} {x : α}
    {k : α → ClientM Ret} {w : Bytes} {data : Option Bytes} {badAlloc others : Int32}
    (hh : ServerInstance.handler B ty = some h) (hu : u.head? = some ty.toByte)
    (hask : ∀ b e₁, E e (.enqueue q) b e₁ → b = a ∧ e₁ = e') (hwant : q.wantEvent = args.event)
    (hserve : ∀ Q, (ServerInstance.enqueue q >>= fun a =>
      if a.err ≠ CL_SUCCESS then ServerInstance.writeError a.err
      else ServerInstance.replyEvent q.wantEvent a.event >>= fun _ => tail a).wp E
        (fun _ _ _ => False) t [] [] e Q → h.wp E (fun _ _ _ => False) t [] u e Q)
    (htail : ∀ t o Q, (tail a).wp E (fun _ _ _ => False) t o [] e' Q ↔
      Q (.ok ()) t (o ++ PacketStream.frame ty' w) [] e')
    (hty : Ordinary ty') (hr : Reads r w x)
    (hk : ∀ s Q, Q (.ok (.code CL_SUCCESS)) (withData s data) [] [] () → Takes (k x) s [] Q)
    (herror : a.err ≠ CL_SUCCESS → P (.code a.err) s t e')
    (hplain : a.err = CL_SUCCESS → args.event = false → P (.code CL_SUCCESS) (withData s data) t e')
    (hevent : a.err = CL_SUCCESS → args.event = true → ∃ id mObjects,
      assignID t.mObjects a.event = some (id, mObjects) ∧
        P (.code CL_SUCCESS) (withData (withEvent s id) data) { t with mObjects } e') :
    Settles E (ServerInstance.serve B) (Final B ∅ P)
      ⟨⟨catching badAlloc others
        (awaitEvent args >>= fun _ => PacketStream.read ty' r >>= k), s, []⟩,
        ⟨ServerInstance.serve B, t, []⟩, u, [], e⟩ := by
  refine settles_served ty hh hu (hserve _ (wp_enqueued hask (fun t o => htail t o _) ?_ ?_ ?_))
  · intro herr
    exact ⟨rfl, rfl, takes_event_error ⟨_, rfl, rfl, rfl, herror herr⟩⟩
  · intro herr hwant'
    have hargs := hwant.symm.trans hwant'
    exact ⟨rfl, rfl, takes_event_plain hargs hty hr (hk _ _ ⟨_, rfl, rfl, rfl, hplain herr hargs⟩)⟩
  · intro herr hwant'
    have hargs := hwant.symm.trans hwant'
    obtain ⟨id, mObjects, hid, hP⟩ := hevent herr hargs
    exact ⟨id, mObjects, hid, rfl, rfl,
      takes_event_ID hargs hty hr (hk _ _ ⟨_, rfl, rfl, rfl, hP⟩)⟩

end Exact

end RemoteCL.Client

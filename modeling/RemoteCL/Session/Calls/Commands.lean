import RemoteCL.Client.Memory
import RemoteCL.Session.Calls.Objects

/-!
# Calls: commands

A command is sent with the list of the events it waits for, if there are any, and with the data it
writes.  The reply starts with the ID of an event, if one was asked for, and ends with what is left
to say: that the command has succeeded, or the data it has read.

An image transfer asks the driver for the size of a pixel before it goes on with the request.
-/

namespace RemoteCL.Client

open ByteStream Conversation Wire LawfulWire

section Commands

variable {δ : Type} {E : δ → (c : ServerCall) → Ans c → δ → Prop} {B : ServerBuild} {C : Build}
variable {A : Set Ptr} {takes : List IDType → ℕ} {truncates : Bool}
variable {s s₀ : ClientState} {t : ServerState} {e : δ} {u : Bytes}

/-! ## Lists of events -/

/-- The packet with the events to wait for, if it is sent. -/
def eventPacket (args : WaitArgs) (ids : List IDType) : Bytes :=
  if args.expectEventList then packet (⟨ids⟩ : IDListPacket) else []

theorem WaitArgs.length_eventIDs {args : WaitArgs} {ids : List IDType}
    (h : args.eventIDs = .ok ids) : ids.length ≤ args.num_events_in_wait_list := by
  rw [eventIDs] at h
  split at h
  · rw [← Except.ok.inj h]
    exact Nat.zero_le _
  split at h
  · exact absurd h (by simp)
  split at h
  · exact absurd h (by simp)
  · rename_i hids
    rw [← Except.ok.inj h, length_handleIDs hids]
    exact List.length_take_le _ _

/-- Without an announcement there are no events. -/
theorem WaitArgs.eventIDs_of_not_expected {args : WaitArgs} {ids : List IDType}
    (h : args.eventIDs = .ok ids) (hexpect : args.expectEventList = false) : ids = [] := by
  have hzero : args.num_events_in_wait_list = 0 := by simpa [expectEventList] using hexpect
  rw [eventIDs, if_pos hzero] at h
  exact (Except.ok.inj h).symm

/-- The server reads a list of events, or some of it if it is too long; what it has not read is left
on the stream. -/
theorem exists_settles_readEvents (t : ServerState) (args : WaitArgs) (ids : List IDType) :
    ∃ events rest, ∀ {F : CallConfig δ → Prop} (_ : Stable E (ServerInstance.serve B) F)
      (k : List Ptr → ServerM Unit) (c : Side ClientState Exn Empty NoAnswer Ret) (e : δ),
        Settles E (ServerInstance.serve B) F
          ⟨c, ⟨ServerInstance.iteration ((ServerInstance.readEvents args.expectEventList >>= k) >>=
            fun _ => pure true), t, []⟩, eventPacket args ids, [], e⟩ ↔
        Settles E (ServerInstance.serve B) F
          ⟨c, ⟨ServerInstance.iteration (k events >>= fun _ => pure true), t, []⟩, rest, [],
            e⟩ := by
  simp only [eventPacket, ServerInstance.readEvents]
  cases args.expectEventList with
  | false => exact ⟨[], [], fun _ _ _ _ => Iff.rfl⟩
  | true =>
    obtain ⟨w, rest, hw, hreads⟩ := exists_reads_idListPacket ⟨ids⟩
    have hpacket : packet (⟨ids⟩ : IDListPacket) = PacketStream.frame .idList w ++ rest := by
      rw [packet, hw]
      rfl
    refine ⟨(ids.take (ids.length % SizeT.range .uint8)).map (objectAt t.mObjects), rest,
      fun hF k c e => ?_⟩
    have hread : (PacketStream.readPacket IDListPacket >>= fun eventList =>
        ServerInstance.getObjs eventList.mIDs) >>= k =
          PacketStream.readPacket IDListPacket >>= fun eventList =>
            ServerInstance.getObjs eventList.mIDs >>= k := bind_assoc _ _ _
    rw [if_pos rfl, if_pos rfl, hpacket, hread]
    refine (settles_server_meets hF context_handler hreads
      (show Ordinary .idList by decide)).trans ?_
    exact settles_server_get hF context_handler

/-- The client writes a command. -/
theorem settles_writeCommand {F : CallConfig δ → Prop} (hF : Stable E (ServerInstance.serve B) F)
    {K : ClientM Ret → ClientM Ret} (hK : Prog.Context K) {X : Type} [Packet X] [Wire X] {x : X}
    {args : WaitArgs} {ids : List IDType} {k : Unit → ClientM Ret}
    {c : Side ServerState Exn ServerCall Ans Bool} {o d : Bytes} :
    Settles E (ServerInstance.serve B) F
        ⟨⟨K (writeCommand x args ids >>= k), s, o⟩, c, u, d, e⟩ ↔
      Settles E (ServerInstance.serve B) F
        ⟨⟨K (k ()), s, o ++ (packet x ++ eventPacket args ids)⟩, c, u, d, e⟩ := by
  rw [writeCommand, bind_assoc, settles_client_writePacket hF hK, eventPacket]
  cases args.expectEventList with
  | false =>
    rw [if_neg Bool.false_ne_true, if_neg Bool.false_ne_true, List.append_nil]
    rfl
  | true =>
    rw [if_pos rfl, if_pos rfl, settles_client_writePacket hF hK, List.append_assoc]

/-- The server reads the events, if they follow. -/
theorem settles_readsEvents {F : CallConfig δ → Prop} (hF : Stable E (ServerInstance.serve B) F)
    {args : WaitArgs} {ids : List IDType} (hids : args.eventIDs = .ok ids)
    (hlen : args.num_events_in_wait_list ≤ 255) {k : List Ptr → ServerM Unit}
    {c : Side ClientState Exn Empty NoAnswer Ret} {o d : Bytes} :
    Settles E (ServerInstance.serve B) F
        ⟨c, ⟨ServerInstance.iteration ((ServerInstance.readEvents args.expectEventList >>= k) >>=
          fun _ => pure true), t, o⟩, eventPacket args ids ++ u, d, e⟩ ↔
      Settles E (ServerInstance.serve B) F
        ⟨c, ⟨ServerInstance.iteration (k (ids.map (objectAt t.mObjects)) >>= fun _ => pure true),
          t, o⟩, u, d, e⟩ := by
  rw [eventPacket, ServerInstance.readEvents]
  cases hexpect : args.expectEventList with
  | false =>
    rw [WaitArgs.eventIDs_of_not_expected hids hexpect]
    rfl
  | true =>
    rw [if_pos rfl, if_pos rfl, bind_assoc (PacketStream.readPacket IDListPacket)]
    have hfits := (WaitArgs.length_eventIDs hids).trans hlen
    refine (settles_server_meets hF context_handler
      (reads_idListPacket (Nat.lt_succ_of_le hfits))
      (show Ordinary PacketType.idList by decide)).trans ?_
    exact settles_server_get (k := fun t => k (ids.map (objectAt t.mObjects))) hF context_handler

theorem settles_readEvents {P : Ret → ClientState → ServerState → δ → Prop} {args : WaitArgs}
    {ids : List IDType} (hids : args.eventIDs = .ok ids)
    (hlen : args.num_events_in_wait_list ≤ 255) {k : List Ptr → ServerM Unit}
    {c : Side ClientState Exn Empty NoAnswer Ret} {o d : Bytes} :
    Settles E (ServerInstance.serve B) (Final B A P)
        ⟨c, ⟨ServerInstance.iteration ((ServerInstance.readEvents args.expectEventList >>= k) >>=
          fun _ => pure true), t, o⟩, eventPacket args ids ++ u, d, e⟩ ↔
      Settles E (ServerInstance.serve B) (Final B A P)
        ⟨c, ⟨ServerInstance.iteration (k (ids.map (objectAt t.mObjects)) >>= fun _ => pure true),
          t, o⟩, u, d, e⟩ := settles_readsEvents stable_final hids hlen

theorem servesAt_readEvents {args : WaitArgs} {ids : List IDType} (hids : args.eventIDs = .ok ids)
    (hlen : args.num_events_in_wait_list ≤ 255) {use : Option (Resolve × Kind)}
    {plain : Bytes → Prop} {naming : List IDType → Bytes → Prop} {k : List Ptr → ServerM Unit}
    (h : ServesAt E A takes use plain naming (k (ids.map (objectAt t.mObjects))) t u e) :
    ServesAt E A takes use plain naming
      (ServerInstance.readEvents args.expectEventList >>= k) t (eventPacket args ids ++ u) e := by
  rw [eventPacket, ServerInstance.readEvents]
  cases hexpect : args.expectEventList with
  | false =>
    rw [WaitArgs.eventIDs_of_not_expected hids hexpect] at h
    exact h
  | true =>
    rw [if_pos rfl, if_pos rfl, bind_assoc]
    exact servesAt_readPacket (by decide)
      (reads_idListPacket (Nat.lt_succ_of_le ((WaitArgs.length_eventIDs hids).trans hlen))) h

theorem serves_readEvents {args : WaitArgs} {ids : List IDType} (hids : args.eventIDs = .ok ids)
    (hlen : args.num_events_in_wait_list ≤ 255) {use : Option (Resolve × Kind)}
    {plain : Bytes → Prop} {naming : List IDType → Bytes → Prop} {k : List Ptr → ServerM Unit}
    (h : Serves E A takes use plain naming (k (ids.map (objectAt t.mObjects))) t u) :
    Serves E A takes use plain naming
      (ServerInstance.readEvents args.expectEventList >>= k) t (eventPacket args ids ++ u) :=
  fun e => servesAt_readEvents hids hlen (h e)

/-! ## Replies to commands -/

/-- A reply without an event. -/
def EventPlain (want : Bool) (Tail : Bytes → Prop) (w : Bytes) : Prop :=
  ErrorReply w ∨ want = false ∧ Tail w

/-- A reply with an event. -/
def EventNaming (want : Bool) (Tail : Bytes → Prop) (ids : List IDType) (w : Bytes) : Prop :=
  want = true ∧ ∃ id tail, ids = [id] ∧ Tail tail ∧ w = packet (⟨id⟩ : IDPacket) ++ tail

/-- The reply ends with `Success`. -/
def SuccessTail (w : Bytes) : Prop := w = packet (⟨⟩ : SuccessPacket)

/-- The reply ends with a payload that can be read. -/
def DataTail (zlib : Option Zlib) (w : Bytes) : Prop :=
  ∃ x data, w = PacketStream.frame .payload x ∧ Reads (decPayloadInto zlib .uint32) x data

/-- A command is enqueued, and its outcome is the reply. -/
theorem servesAt_enqueue (hE : EventsIn A E) (hg : Good A t.mObjects) {q : Enqueue}
    {Tail : Bytes → Prop} {tail : EnqueueAns → ServerM Unit}
    (htail : ∀ a e', E e (.enqueue q) a e' → a.err = CL_SUCCESS → ∃ w, Tail w ∧
      ∀ t o u e Q, (tail a).wp E (Overfull A) t o u e Q ↔ Q (.ok ()) t (o ++ w) u e) :
    ServesAt E A takes (some (.registerID, .event)) (EventPlain q.wantEvent Tail)
      (EventNaming q.wantEvent Tail)
      (ServerInstance.enqueue q >>= fun a =>
        if a.err ≠ CL_SUCCESS then ServerInstance.writeError a.err
        else ServerInstance.replyEvent q.wantEvent a.event >>= fun _ => tail a) t [] e := by
  intro Q hplain hnaming
  rw [Prog.wp_bind, ServerInstance.wp_enqueue]
  intro a e' ha
  have hnamed : named (.enqueue q) a =
      if a.err = CL_SUCCESS ∧ q.wantEvent then [a.event] else [] := rfl
  rw [Prog.afterBind_ok]
  by_cases herr : a.err ≠ CL_SUCCESS
  · rw [if_pos herr]
    exact hplain _ e' _ (.cons ha .nil)
      (namingsOf_eq_nil rfl (hnamed.trans (if_neg fun h => herr h.1)))
      (Or.inl ⟨a.err, herr, rfl⟩)
  obtain ⟨w, hw, hwp⟩ := htail a e' ha (not_not.mp herr)
  rw [if_neg herr, Prog.wp_bind, ServerInstance.replyEvent]
  cases hwant : q.wantEvent with
  | false =>
    rw [hwant] at hnamed
    rw [if_neg Bool.false_ne_true]
    refine (hwp _ _ _ _ _).mpr (hplain _ e' _ (.cons ha .nil)
      (namingsOf_eq_nil rfl (hnamed.trans (if_neg fun h => Bool.false_ne_true h.2)))
      (Or.inr ⟨hwant, hw⟩))
  | true =>
    rw [if_pos ⟨not_not.mp herr, hwant⟩] at hnamed
    have hmem : a.event ∈ A := hE e q a e' ha a.event (hnamed ▸ List.mem_singleton_self _)
    rw [if_pos rfl]
    refine ServerInstance.wp_writeID_of hg hmem fun id mObjects hid _ => ?_
    rw [Prog.afterBind_ok, hwp]
    have hids : assignIDs t.mObjects (named (.enqueue q) a) = some ([id], mObjects) := by
      rw [hnamed, assignIDs, hid]
      rfl
    exact hnaming _ _ a e' [id] mObjects _ (.cons ha .nil) rfl rfl hids
      ⟨hwant, id, w, rfl, hw, rfl⟩

theorem serves_enqueue (hE : EventsIn A E) (hg : Good A t.mObjects) {q : Enqueue}
    {Tail : Bytes → Prop} {tail : EnqueueAns → ServerM Unit}
    (htail : ∀ a e e', E e (.enqueue q) a e' → a.err = CL_SUCCESS → ∃ w, Tail w ∧
      ∀ t o u e Q, (tail a).wp E (Overfull A) t o u e Q ↔ Q (.ok ()) t (o ++ w) u e) :
    Serves E A takes (some (.registerID, .event)) (EventPlain q.wantEvent Tail)
      (EventNaming q.wantEvent Tail)
      (ServerInstance.enqueue q >>= fun a =>
        if a.err ≠ CL_SUCCESS then ServerInstance.writeError a.err
        else ServerInstance.replyEvent q.wantEvent a.event >>= fun _ => tail a) t [] :=
  fun e => servesAt_enqueue hE hg fun a e' => htail a e e'

theorem serves_replyCommand (hE : EventsIn A E) (hg : Good A t.mObjects) (q : Enqueue) :
    Serves E A takes (some (.registerID, .event)) (EventPlain q.wantEvent SuccessTail)
      (EventNaming q.wantEvent SuccessTail)
      (ServerInstance.enqueue q >>= ServerInstance.replyCommand q.wantEvent) t [] :=
  serves_enqueue hE hg fun _ _ _ _ _ => ⟨_, rfl, fun _ _ _ _ _ => Iff.rfl⟩

/-- The reply to a read has room for what the buffer holds. -/
theorem serves_replyRead (hE : EventsIn A E) (hg : Good A t.mObjects)
    (hz : SameFormat B.zlib C.zlib) (q : Enqueue) {size : ℕ} (hsize : size < SizeT.range .uint32) :
    Serves E A takes (some (.registerID, .event)) (EventPlain q.wantEvent (DataTail C.zlib))
      (EventNaming q.wantEvent (DataTail C.zlib))
      (ServerInstance.enqueue q >>= ServerInstance.replyRead B q.wantEvent size) t [] := by
  have hread : ∀ data, Reads (decPayloadInto C.zlib .uint32)
      (encPayloadPtr B.zlib .uint32 (storeInto (zeros size) data)) (storeInto (zeros size) data) :=
    fun data => reads_payload hz (by rwa [length_storeInto, length_zeros]) .payloadPtr .payloadInto
  exact serves_enqueue hE hg fun a _ _ _ _ =>
    ⟨_, ⟨_, _, rfl, hread a.data⟩, fun _ _ _ _ _ => Iff.rfl⟩

/-! ## Waiting for a command -/

section Awaiting

variable {K : ClientM Ret → ClientM Ret} (hK : Guard K) {args : WaitArgs}
include hK

/-- The event is taken, if one was asked for, and then the rest of the reply. -/
theorem awaits_event {α : Type} {ty : PacketType} (hty : Ordinary ty) {r : Reader α}
    {k : α → ClientM Ret} {Tail : Bytes → Prop}
    (htail : ∀ w, Tail w → ∃ x a, w = PacketStream.frame ty x ∧ Reads r x a)
    (hk : ∀ a s found core, Since truncates s₀ s found core →
      Takes (k a) s [] (afterGuard (Took truncates s₀ core)))
    (hs : Since truncates s₀ s [] s₀.core) :
    Awaits List.length truncates (some (.registerID, .event)) (EventPlain args.event Tail)
      (EventNaming args.event Tail)
      (K (awaitEvent args >>= fun _ => PacketStream.read ty r >>= k)) s₀ s where
  plain w hw := by
    rw [awaitEvent]
    rcases hw with hw | ⟨hwant, hw⟩
    · cases args.event with
      | false => exact takes_error hK hs hw
      | true =>
        rw [if_pos rfl, bind_assoc]
        exact takes_error hK hs hw
    · obtain ⟨x, a, rfl, hr⟩ := htail w hw
      rw [hwant]
      exact takes_read hK hty hr (hk a s [] s₀.core hs)
  naming ids w hw := by
    obtain ⟨hwant, id, tail, rfl, hw, rfl⟩ := hw
    obtain ⟨x, a, rfl, hr⟩ := htail tail hw
    refine ⟨_, _, rfl, hK.wp ?_⟩
    rw [awaitEvent, hwant, if_pos rfl, Prog.wp_bind, Prog.wp_bind,
      wp_readPacket (by decide) (reads_dec _), Prog.afterBind_ok]
    simp only [Prog.wp_bind, wp_registerID, wp_store, Prog.afterBind_ok]
    rw [wp_read_last hty hr]
    have hfound := hs.apply .registerID .event id
    refine hk a _ _ _
      (hfound.stored true (x := .event _) (fun y hy => ?_) fun h => Bool.noConfusion h)
    exact hy

theorem awaits_awaitCommand (hs : Since truncates s₀ s [] s₀.core) :
    Awaits List.length truncates (some (.registerID, .event)) (EventPlain args.event SuccessTail)
      (EventNaming args.event SuccessTail)
      (K (awaitEvent args >>= fun _ => PacketStream.readPacket SuccessPacket >>= fun _ =>
        pure (.code CL_SUCCESS))) s₀ s :=
  awaits_event hK (by decide) (fun _ hw => ⟨_, _, hw, reads_dec (⟨⟩ : SuccessPacket)⟩)
    (fun _ _ _ _ hs => hs.took rfl) hs

theorem awaits_awaitRead (hs : Since truncates s₀ s [] s₀.core) :
    Awaits List.length truncates (some (.registerID, .event))
      (EventPlain args.event (DataTail C.zlib)) (EventNaming args.event (DataTail C.zlib))
      (K (awaitEvent args >>= fun _ =>
        PacketStream.read .payload (decPayloadInto C.zlib .uint32) >>=
        fun data => store true (.ptr data) >>= fun _ => pure (.code CL_SUCCESS))) s₀ s := by
  refine awaits_event hK (by decide) (fun _ hw => hw) (fun data s found core hs => ?_) hs
  simp only [Takes, Prog.wp_bind, wp_store, Prog.afterBind_ok]
  exact (hs.stored_plain _ rfl rfl).took rfl

end Awaiting

/-! ## Commands on buffers -/

theorem completes_withEvents {queue object : Option Handle} {args : WaitArgs}
    {p : Handle → Handle → List IDType → ClientM Ret}
    (h : ∀ q m ids, queue = some q → object = some m → args.eventIDs = .ok ids →
      Completes E B A takes truncates
      (catching CL_OUT_OF_HOST_MEMORY CL_DEVICE_NOT_AVAILABLE (p q m ids)) s t e) :
    Completes E B A takes truncates (withEvents queue object args p) s t e := by
  unfold withEvents
  split
  · exact completes_code _
  · exact completes_code _
  split
  · exact completes_code _
  · exact h _ _ _ rfl rfl ‹_›

/-- The server reads a payload at the end of a request. -/
theorem servesAt_readPayloadPtr (hz : SameFormat C.zlib B.zlib) {data : Bytes}
    {use : Option (Resolve × Kind)} {plain : Bytes → Prop} {naming : List IDType → Bytes → Prop}
    {k : Bytes → ServerM Unit}
    (h : ServesAt E A takes use plain naming (k (data.take (data.length % SizeT.range .uint32))) t
      [] e) :
    ServesAt E A takes use plain naming (ServerInstance.readPayload B >>= k) t
      (PacketStream.frame .payload (encPayloadPtr C.zlib .uint32 data)) e := by
  have hread : Reads (decPayload B.zlib .uint32) _ _ :=
    reads_payloadPtr_take hz .uint32 data .payload
  intro Q hplain hnaming
  rw [Prog.wp_bind, ServerInstance.readPayload, wp_read_last (by decide) hread]
  exact h Q hplain hnaming

theorem serves_readPayloadPtr (hz : SameFormat C.zlib B.zlib) {data : Bytes}
    {use : Option (Resolve × Kind)} {plain : Bytes → Prop} {naming : List IDType → Bytes → Prop}
    {k : Bytes → ServerM Unit}
    (h : Serves E A takes use plain naming (k (data.take (data.length % SizeT.range .uint32))) t
      []) :
    Serves E A takes use plain naming (ServerInstance.readPayload B >>= k) t
      (PacketStream.frame .payload (encPayloadPtr C.zlib .uint32 data)) :=
  fun e => servesAt_readPayloadPtr hz (h e)

theorem serves_readEvents_last {args : WaitArgs} {ids : List IDType}
    (hids : args.eventIDs = .ok ids) (hlen : args.num_events_in_wait_list ≤ 255)
    {use : Option (Resolve × Kind)} {plain : Bytes → Prop} {naming : List IDType → Bytes → Prop}
    {k : List Ptr → ServerM Unit}
    (h : Serves E A takes use plain naming (k (ids.map (objectAt t.mObjects))) t []) :
    Serves E A takes use plain naming
      (ServerInstance.readEvents args.expectEventList >>= k) t (eventPacket args ids) := by
  have hserves := serves_readEvents hids hlen h
  rwa [List.append_nil] at hserves

/-- A command whose request ends with the events. -/
theorem settles_command {K : ClientM Ret → ClientM Ret} (hK : Guard K) {X : Type} [Packet X]
    [Wire X] {x : X} {args : WaitArgs} {ids : List IDType} {h : ServerM Unit}
    {k : Unit → ClientM Ret} (hh : ServerInstance.handler B (Packet.mType X) = some h)
    (hagree : Agree E A takes truncates h t (packet x ++ eventPacket args ids) (K (k ())) s s) :
    Completes E B A takes truncates
      (K (writeCommand x args ids >>= fun _ => PacketStream.flush >>= k)) s t e := by
  rw [Completes, start, settles_writeCommand stable_final hK.context,
    settles_client_flushes stable_final hK.context, List.nil_append, List.nil_append]
  exact settles_exchange hh rfl hagree

theorem waits_event {K : ClientM Ret → ClientM Ret} (hK : Prog.Context K) (args : WaitArgs)
    {α : Type} (ty : PacketType) (r : Reader α) (k : α → ClientM Ret) (s : ClientState) :
    Waits ⟨K (awaitEvent args >>= fun _ => PacketStream.read ty r >>= k), s, []⟩ := by
  rw [awaitEvent]
  cases args.event with
  | false => exact waits_read hK ty r k s
  | true =>
    rw [if_pos rfl, bind_assoc]
    exact waits_readPacket hK _ _ s

section Buffers

variable (hE : EventsIn A E) (hg : Good A t.mObjects) {args : WaitArgs}
variable (hargs : args.num_events_in_wait_list ≤ 255)
include hE hg hargs

theorem completes_clEnqueueFillBuffer (command_queue buffer : Option Handle) (pattern : Bytes)
    (pattern_size offset size : UInt64) :
    Completes E B A List.length truncates
      (clEnqueueFillBuffer command_queue buffer pattern pattern_size offset size args) s t e := by
  refine completes_withEvents fun q m ids _ _ hids => ?_
  split
  · exact completes_code _
  · exact settles_command (guard_catching _ _) rfl ⟨_, _, _,
      waits_event (context_catching _ _) _ _ _ _ _,
      serves_readPacket (by decide) (reads_dec _) (serves_readEvents_last hids hargs
        (serves_getObj (serves_getObj (serves_replyCommand hE hg _)))),
      awaits_awaitCommand (guard_catching _ _) (.refl _ _)⟩

theorem completes_clEnqueueReadBuffer (hz : SameFormat B.zlib C.zlib)
    (command_queue buffer : Option Handle) (blocking_read : Bool) (offset size : UInt64) :
    Completes E B A List.length truncates
      (clEnqueueReadBuffer C command_queue buffer blocking_read offset size args) s t e :=
  completes_withEvents fun _ _ _ _ _ hids => settles_command (guard_catching _ _) rfl ⟨_, _, _,
    waits_event (context_catching _ _) _ _ _ _ _,
    serves_readPacket (by decide) (reads_dec _) (serves_readEvents_last hids hargs
      (serves_getObj (serves_getObj (serves_replyRead hE hg hz _ (UInt32.toNat_lt _))))),
    awaits_awaitRead (guard_catching _ _) (.refl _ _)⟩

/-- The packet of a rectangle. -/
def RectArgs.packet (queue buffer : Handle) (blocking_read : Bool) (rect : RectArgs)
    (args : WaitArgs) : ReadBufferRect :=
  { mBufferID := GetID buffer, mQueueID := GetID queue,
    mBufferOrigin := coords rect.buffer_origin.1 rect.buffer_origin.2.1 rect.buffer_origin.2.2
    mHostOrigin := coords rect.host_origin.1 rect.host_origin.2.1 rect.host_origin.2.2
    mRegion := coords rect.region.1 rect.region.2.1 rect.region.2.2
    mBufferRowPitch := rect.buffer_row_pitch.toUInt32
    mBufferSlicePitch := rect.buffer_slice_pitch.toUInt32
    mHostRowPitch := rect.host_row_pitch.toUInt32
    mHostSlicePitch := rect.host_slice_pitch.toUInt32
    mWantEvent := args.event, mExpectEventList := args.expectEventList, mBlock := blocking_read }

/-- The payload of the reply has room for the rectangle. -/
def RectArgs.Fits (rect : RectArgs) : Prop :=
  ∀ queue buffer block args,
    ServerInstance.rectSize (rect.packet queue buffer block args) < SizeT.range .uint32

theorem completes_clEnqueueReadBufferRect (hz : SameFormat B.zlib C.zlib)
    (command_queue buffer : Option Handle) (blocking_read : Bool) {rect : RectArgs}
    (hrect : rect.Fits) :
    Completes E B A List.length truncates
      (clEnqueueReadBufferRect C command_queue buffer blocking_read rect args) s t e := by
  refine completes_withEvents fun queue m ids _ _ hids => settles_command (guard_catching _ _) rfl
    ⟨_, _, _, waits_event (context_catching _ _) _ _ _ _ _,
      serves_readPacket (by decide) (reads_dec (rect.packet queue m blocking_read args))
        (serves_readEvents_last hids hargs fun e Q hplain hnaming => ?_),
      awaits_awaitRead (guard_catching _ _) (.refl _ _)⟩
  have hsize := hrect queue m blocking_read args
  have hvector : 1 * ServerInstance.rectSize (rect.packet queue m blocking_read args) ≤
      ServerInstance.vectorMaxSize := by
    have hrange : SizeT.range .uint32 = 2 ^ 32 := rfl
    rw [ServerInstance.vectorMaxSize]
    omega
  rw [Prog.wp_bind, ServerInstance.wp_resize hvector, Prog.afterBind_ok]
  exact serves_getObj (serves_getObj (serves_replyRead hE hg hz ⟨_, _, _, _⟩ hsize)) e Q hplain
    hnaming

/-- The data follows the events. -/
theorem completes_clEnqueueWriteBuffer (hz : SameFormat C.zlib B.zlib)
    (command_queue buffer : Option Handle) (blocking_write : Bool) (offset size : UInt64)
    (ptr : Bytes) :
    Completes E B A List.length truncates
      (clEnqueueWriteBuffer C command_queue buffer blocking_write offset size ptr args) s t e := by
  refine completes_withEvents fun queue m ids _ _ hids => ?_
  have hK := guard_catching CL_OUT_OF_HOST_MEMORY CL_DEVICE_NOT_AVAILABLE
  rw [Completes, start, settles_writeCommand stable_final hK.context,
    settles_client_write stable_final hK.context, awaitCommand,
    settles_client_flushes stable_final hK.context, List.nil_append, List.nil_append,
    List.append_assoc]
  exact settles_exchange rfl rfl ⟨_, _, _, waits_event hK.context _ _ _ _ _,
    serves_readPacket (by decide) (reads_dec _) (serves_readEvents hids hargs
      (serves_readPayloadPtr hz
        (serves_getObj (serves_getObj (serves_replyCommand hE hg ⟨_, _, _, _⟩))))),
    awaits_awaitCommand hK (.refl _ _)⟩

theorem completes_clEnqueueNDRangeKernel (command_queue kernel : Option Handle) (r : NDRange) :
    Completes E B A List.length truncates (clEnqueueNDRangeKernel command_queue kernel r args) s t
      e := by
  unfold clEnqueueNDRangeKernel
  split
  · exact completes_code _
  · exact completes_code _
  split
  · exact completes_code _
  split
  · exact completes_code _
  split
  · exact completes_code _
  · rename_i hids
    exact settles_command (guard_catching _ _) rfl ⟨_, _, _,
      waits_event (context_catching _ _) _ _ _ _ _,
      serves_readPacket (by decide) (reads_dec _) (serves_readEvents_last hids hargs
        (serves_getObj (serves_getObj (serves_replyCommand hE hg _)))),
      awaits_awaitCommand (guard_catching _ _) (.refl _ _)⟩

end Buffers

/-! ## Memory objects -/

/-- The ID of a new memory object is awaited; the error code has been stored before. -/
theorem awaits_memObject {K : ClientM Ret → ClientM Ret} (hK : Guard K)
    (hs : Since truncates s₀ s [] s₀.core) :
    Awaits List.length truncates (some (.getOrInsertObject, .memObject)) ErrorReply IDReply
      (K (PacketStream.readPacket IDPacket >>= fun id =>
        getOrInsertObject .memObject id.mData >>= fun object =>
          pure (.handle .memObject (some object)))) s₀ s := by
  refine awaits_ID hK hs fun id => ?_
  simp only [Takes, Prog.wp_bind, wp_getOrInsertObject, Prog.afterBind_ok]
  exact ⟨_, _, rfl, rfl, rfl, hs.apply .getOrInsertObject .memObject id, fun x hx => hx⟩

/-- A request for a memory object has arrived. -/
theorem settles_memObject {K : ClientM Ret → ClientM Ret} (hK : Guard K) {errcode_ret : Bool}
    {ty : PacketType} {h : ServerM Unit} (hh : ServerInstance.handler B ty = some h)
    (hu : u.head? = some ty.toByte)
    (hserves : Serves E A List.length (some (.getOrInsertObject, .memObject)) ErrorReply IDReply h
      t u) :
    Settles E (ServerInstance.serve B) (Final B A (Effect E List.length truncates s t e))
      ⟨⟨K (awaitMemObject errcode_ret), s, []⟩, ⟨ServerInstance.serve B, t, []⟩, u, [], e⟩ := by
  rw [awaitMemObject, settles_store hK.context]
  exact settles_exchange hh hu ⟨_, _, _, waits_readPacket hK.context _ _ _, hserves,
    awaits_memObject hK ((Since.refl truncates s).stored_plain _ rfl rfl)⟩

section Memory

variable (hE : AllLegal A E) (hg : Good A t.mObjects)
include hE hg

theorem serves_memObject {q : CreateCall} (hq : useOfCreate q = (.getOrInsertObject, .memObject)) :
    Serves E A takes (some (.getOrInsertObject, .memObject)) ErrorReply IDReply
      (ServerInstance.create q >>= ServerInstance.replyCreated) t [] :=
  ServerInstance.serves_create hE hg hq

theorem completes_clCreateBuffer (hz : SameFormat C.zlib B.zlib) (context : Option Handle)
    (flags size : UInt64) (host_ptr : Option Bytes) (errcode_ret : Bool) :
    Completes E B A List.length truncates
      (clCreateBuffer C context flags size host_ptr errcode_ret) s t e := by
  unfold clCreateBuffer
  split
  · exact completes_returnError _ _ _
  split
  · exact completes_returnError _ _ _
  have hK := guard_catchingError .memObject errcode_ret CL_DEVICE_NOT_AVAILABLE
  rw [Completes, start, settles_client_writePacket stable_final hK.context]
  cases host_ptr with
  | none =>
    show Settles _ _ _ ⟨⟨catchingError _ _ _ (PacketStream.flush >>= _), _, _⟩, _, _, _, _⟩
    rw [settles_client_flushes stable_final hK.context]
    exact settles_memObject hK rfl rfl (serves_readPacket_last (by decide) (reads_dec _)
      (serves_getObj (serves_memObject hE hg rfl)))
  | some ptr =>
    show Settles _ _ _ ⟨⟨catchingError _ _ _ (PacketStream.write _ _ >>= _), _, _⟩, _, _, _, _⟩
    rw [settles_client_write stable_final hK.context,
      settles_client_flushes stable_final hK.context]
    exact settles_memObject hK rfl rfl (serves_readPacket (by decide) (reads_dec _)
      (serves_getObj (serves_readPayloadPtr hz (serves_memObject hE hg rfl))))

theorem completes_clCreateSubBuffer (buffer : Option Handle) (flags : UInt64)
    (buffer_create_type : UInt32) (buffer_create_info : Option (UInt64 × UInt64))
    (errcode_ret : Bool) :
    Completes E B A List.length truncates
      (clCreateSubBuffer buffer flags buffer_create_type buffer_create_info errcode_ret) s t
      e := by
  unfold clCreateSubBuffer
  split
  · exact completes_returnError _ _ _
  · exact completes_returnError _ _ _
  have hK := guard_catchingError .memObject errcode_ret CL_DEVICE_NOT_AVAILABLE
  rw [Completes, start, settles_client_writePacket stable_final hK.context,
    settles_client_flushes stable_final hK.context]
  exact settles_memObject hK rfl rfl (serves_readPacket_last (by decide) (reads_dec _)
    (serves_getObj (serves_memObject hE hg rfl)))

end Memory

/-! ## Events -/

theorem completes_clCreateUserEvent (hE : AllLegal A E) (hg : Good A t.mObjects)
    (context : Option Handle) (errcode_ret : Bool) :
    Completes E B A List.length truncates (clCreateUserEvent context errcode_ret) s t e := by
  unfold clCreateUserEvent
  split
  · exact completes_returnError _ _ _
  · exact completes_created (guard_catchingError _ _ _) (fun _ => rfl) (fun _ => rfl) rfl
      (serves_readPacket_last (by decide) (reads_dec _)
        (serves_getObj (ServerInstance.serves_create hE hg rfl)))

theorem completes_clSetUserEventStatus (event : Option Handle) (execution_status : UInt32) :
    Completes E B A takes truncates (clSetUserEventStatus event execution_status) s t e := by
  unfold clSetUserEventStatus
  split
  · exact completes_code _
  · exact settles_call (guard_catching _ _) rfl (agree_readPacket_last (by decide) (reads_dec _)
      (agree_getObj (agree_status (guard_catching _ _) _ (.refl _ _)
        ((Since.refl truncates s).took rfl))))

theorem completes_clWaitForEvents {num_events : ℕ} (event_list : Option (List (Option Handle)))
    (hevents : num_events ≤ 255) :
    Completes E B A takes truncates (clWaitForEvents num_events event_list) s t e := by
  unfold clWaitForEvents
  split
  · exact completes_code _
  split
  · exact completes_code _
  split
  · exact completes_code _
  rename_i list _ mIDs hids
  have hlen : mIDs.length < SizeT.range .uint8 := by
    rw [length_handleIDs hids]
    exact Nat.lt_succ_of_le ((List.length_take_le _ _).trans hevents)
  refine settles_call₂ (guard_catching _ _) rfl (agree_readPacket (by decide) (reads_dec _) ?_)
  rw [ServerInstance.readEvents, if_pos rfl, bind_assoc]
  exact agree_readPacket_last (by decide) (reads_idListPacket hlen)
    (agree_getObjs (agree_status (guard_catching _ _) _ (.refl _ _)
      ((Since.refl truncates s).took rfl)))

end Commands

end RemoteCL.Client

import RemoteCL.Server.Questions
import RemoteCL.Session.BufferCalls
import RemoteCL.Session.RectReads

/-!
# Lists of events to wait for

A command and `clWaitForEvents` come with a list of events.  Its length crosses in a field of
8 bits, and is followed by all the IDs.  With at most 255 events the driver is given the objects
that the handles stand for (`WaitCall.honoursEvents_iff`).  With more, the server reads as many IDs
as the field says: it never gives the driver more than 255 events, whatever it takes the other IDs
for (`length_le_of_given`).

There are also requests that the server gives up before it calls the driver: an image whose pixels
have no size, and a transfer that no vector has room for.
-/

namespace RemoteCL

open ByteStream Conversation Wire LawfulWire Client

/-! ## What the driver is given -/

/-- The lists of events that the driver has been given. -/
def waitLists (log : List Asked) : List (List Ptr) := log.filterMap fun q => q.1.waitList

theorem waitLists_concat {log : List Asked} {c : ServerCall} {a : Ans c} {events : List Ptr}
    (hlog : waitLists log = []) (hc : c.waitList = some events) :
    waitLists (log ++ [⟨c, a⟩]) = [events] := by
  rw [waitLists, List.filterMap_append]
  rw [waitLists] at hlog
  rw [hlog, List.nil_append]
  simp [hc]

section Given

variable (D : Driver) (B : ServerBuild) (events : List Ptr) (p : Prop)

/-- The call has ended, and the driver has been given these events, and no others. -/
def GivenEvents (x : CallConfig (List Asked)) : Prop :=
  waitLists x.env = [events] ∧ Ended B (fun _ _ _ _ => True) True x

/-- Wherever a run of the call has led, the driver is given these events. -/
def GivesEvents (x : CallConfig (List Asked)) : Prop :=
  Attains D.environment (ServerInstance.serve B) (GivenEvents B events) x

/-- An end of a call, at which the driver has been given the events if `p` holds. -/
def EndsAs (x : CallConfig (List Asked)) : Prop :=
  Halted D.environment (ServerInstance.serve B) x ∧ (GivenEvents B events x ↔ p)

variable {D B events p} {x y : CallConfig (List Asked)} {r : Ret} {s : ClientState}
variable {t : ServerState} {log : List Asked} {u d : Bytes}

theorem stable_endsAs :
    Stable D.environment (ServerInstance.serve B) (EndsAs D B events p) := terminal_halted.stable

theorem givesEvents_iff
    (h : Settles D.environment (ServerInstance.serve B) (EndsAs D B events p) x) :
    GivesEvents D B events x ↔ p := attains_iff_of_settles D.answers h

/-- **More than 255 events** are never given. -/
theorem length_le_of_given {c : ClientM Ret} (h : GivesEvents D B events (start B c s t [])) :
    events.length ≤ 255 := by
  obtain ⟨y, hy, hgiven, -⟩ := h.exists_run
  have hfew : ∀ q ∈ y.env, q.1.FewEvents := by
    refine asked_of_run (x := start B c s t []) (I := fun log => ∀ q ∈ log, q.1.FewEvents) ?_
      (ServerInstance.few_serve B) (ServerInstance.few_serve B) (by simp [start]) hy
    rintro log q a _ hq ⟨-, rfl⟩ hlog
    exact List.forall_mem_append.mpr ⟨hlog, List.forall_mem_singleton.mpr hq⟩
  have hmem : events ∈ waitLists y.env := hgiven ▸ List.mem_singleton_self events
  obtain ⟨q, hq, hwait⟩ := List.mem_filterMap.mp hmem
  exact hfew q hq events hwait

/-! ### Ends of calls -/

/-- The client has returned, and the server waits. -/
theorem endsAs_returned (h : d = [] ∧ waitLists log = [events] ↔ p) :
    EndsAs D B events p ⟨⟨.ret r, s, []⟩, ⟨ServerInstance.serve B, t, []⟩, [], d, log⟩ := by
  refine ⟨fun _ => not_step_rest, ?_⟩
  rw [← h, and_comm]
  refine and_congr_right fun _ => ⟨?_, ?_⟩
  · rintro (⟨r', s', t', e', -, hx⟩ | ⟨-, q, s', t', e', a, -, hx⟩)
    · exact congrArg Config.down hx
    · cases hx
  · rintro rfl
    exact Or.inl ⟨r, s, t, log, trivial, rfl⟩

/-- The client waits, and the server searches for ever. -/
theorem endsAs_searching {q : Except Exn Bytes → ClientM Ret} {a : Ptr}
    (ha : assignID t.mObjects a = none) (h : waitLists log = [events] ↔ p) :
    EndsAs D B events p ⟨⟨.read 1 q, s, []⟩, ⟨.spin, t, []⟩, [], [], log⟩ :=
  ⟨fun _ => not_step_spin, by
    rw [← h]
    exact and_iff_left (Or.inr ⟨trivial, q, s, t, log, a, ha, rfl⟩)⟩

/-- The server has left its loop, or has thrown an exception. -/
theorem endsAs_stopped {c : Side ClientState Exn Empty NoAnswer Ret} (hc : Idle c.prog d)
    (hout : c.out = []) {q : ServerM Bool} (hq : q = .ret false ∨ q = .throw .other) (hp : ¬ p) :
    EndsAs D B events p ⟨c, ⟨q, t, []⟩, u, d, log⟩ := by
  obtain ⟨c, s, o⟩ := c
  obtain rfl : o = [] := hout
  constructor
  · rcases hq with rfl | rfl
    · exact halted_of_idle hc trivial fun h => nomatch h
    · exact halted_of_idle hc trivial fun h => nomatch h
  · refine iff_of_false ?_ hp
    rintro ⟨-, ⟨r', s', t', e', -, hx⟩ | ⟨-, k, s', t', e', a, -, hx⟩⟩
    · have hserver := congrArg (fun x => x.server.prog) hx
      obtain ⟨k, hserve⟩ := serve_eq_peek (B := B)
      rcases hq with rfl | rfl <;> exact absurd (hserver.trans hserve) (fun h => nomatch h)
    · have hserver := congrArg (fun x => x.server.prog) hx
      rcases hq with rfl | rfl <;> exact absurd hserver (fun h => nomatch h)

end Given

/-! ## Requests and replies -/

section Turns

variable {D : Driver} {B : ServerBuild} {C : Build} {F : CallConfig (List Asked) → Prop}
variable (hF : Stable D.environment (ServerInstance.serve B) F)
variable {s : ClientState} {t : ServerState} {log : List Asked} {args : WaitArgs}
variable {badAlloc others : Int32} {u : Bytes}
include hF

/-- A command has been sent, with its events, and its handler has read the first packet. -/
theorem settles_commandSent {K : ClientM Ret → ClientM Ret} (hK : Prog.Context K) {X : Type}
    [Packet X] [Wire X] [LawfulWire X] {x : X} {k : X → ServerM Unit}
    (hk : ServerInstance.handler B (Packet.mType X) = some (PacketStream.readPacket X >>= k))
    (hX : Ordinary (Packet.mType X)) {ids : List IDType} {p : ClientM Ret} :
    Settles D.environment (ServerInstance.serve B) F
        (start B (K (writeCommand x args ids >>= fun _ => PacketStream.flush >>= fun _ => p)) s t
          log) ↔
      Settles D.environment (ServerInstance.serve B) F
        ⟨⟨K p, s, []⟩, ⟨handling (k x), t, []⟩, eventPacket args ids, [], log⟩ := by
  refine (settles_writeCommand hF hK).trans ?_
  refine (settles_client_flushes hF hK).trans ?_
  refine (settles_dispatches hF hk rfl).trans ?_
  exact settles_server_meets_packet hF context_handler hX

/-- The driver has answered, and what is left to say is one packet.  `rest` is what the client does
not read of it. -/
theorem settles_answered {a : EnqueueAns} (tail : EnqueueAns → ServerM Unit) (rest : Bytes)
    {ty : PacketType} {w : Bytes} {α : Type} {r : Reader α} {x : α} {k : α → ClientM Ret}
    (hty : Ordinary ty)
    (hr : Reads r w x) (htail : tail a = PacketStream.write ty (w ++ rest))
    (herror : a.err ≠ CL_SUCCESS → F ⟨⟨.ret (.code a.err), s, []⟩,
      ⟨ServerInstance.serve B, t, []⟩, u, [], log⟩)
    (hsearch : a.err = CL_SUCCESS → args.event = true → assignID t.mObjects a.event = none →
      ∀ q s, F ⟨⟨.read 1 q, s, []⟩, ⟨.spin, t, []⟩, u, [], log⟩)
    (hdone : a.err = CL_SUCCESS → (args.event = true → assignID t.mObjects a.event ≠ none) →
      ∀ s t, Settles D.environment (ServerInstance.serve B) F ⟨⟨catching badAlloc others (k x),
        s, []⟩, ⟨ServerInstance.serve B, t, []⟩, u, rest, log⟩) :
    Settles D.environment (ServerInstance.serve B) F
      ⟨⟨catching badAlloc others (awaitEvent args >>= fun _ => PacketStream.read ty r >>= k),
          s, []⟩,
        ⟨handling (if a.err ≠ CL_SUCCESS then ServerInstance.writeError a.err
          else ServerInstance.replyEvent args.event a.event >>= fun _ => tail a), t, []⟩,
        u, [], log⟩ := by
  have hK := context_catching badAlloc others
  by_cases herr : a.err = CL_SUCCESS
  swap
  · rw [if_pos herr]
    refine (settles_replies hF).mpr ((settles_error_event hF).mpr ?_)
    exact Settles.final (herror herr)
  -- the packet arrives behind the ID of the event, if there is one
  have htaken : ∀ {v : Bytes} (t' : ServerState), EventPrefix args.event v →
      (args.event = true → assignID t.mObjects a.event ≠ none) →
        Settles D.environment (ServerInstance.serve B) F
          ⟨⟨catching badAlloc others (awaitEvent args >>= fun _ => PacketStream.read ty r >>= k),
            s, []⟩, ⟨handling (PacketStream.write ty (w ++ rest)), t', v⟩, u, [], log⟩ := by
    intro v t' hv hsome
    obtain ⟨s', htake⟩ := settles_awaitEvent hF hv badAlloc others
      (fun _ => PacketStream.read ty r >>= k) s
    refine (settles_replies hF).mpr ((htake _ _ (PacketStream.frame ty w ++ rest) _).mpr ?_)
    exact (settles_client_meets hF hK hr hty).mpr (hdone herr hsome s' t')
  rw [if_neg (not_not.mpr herr), htail, ServerInstance.replyEvent]
  cases hevent : args.event with
  | false =>
    exact htaken t (eventPrefix_nil hevent) fun h =>
      absurd (hevent.symm.trans h) Bool.false_ne_true
  | true =>
    rw [if_pos rfl]
    refine (settles_writeID hF).mpr ?_
    cases hid : assignID t.mObjects a.event with
    | none =>
      obtain ⟨q, s', hq⟩ := waits_event hK args ty r k s
      rw [hq]
      exact Settles.final (hsearch herr hevent hid q s')
    | some b =>
      exact htaken _ (eventPrefix_packet hevent b.1) fun _ h =>
        absurd (hid.symm.trans h) (Option.some_ne_none b)

/-- The driver has answered to a write of an image: an event takes the place of `Success`. -/
theorem settles_answeredWrite {a : EnqueueAns}
    (herror : a.err ≠ CL_SUCCESS → F ⟨⟨.ret (.code a.err), s, []⟩,
      ⟨ServerInstance.serve B, t, []⟩, u, [], log⟩)
    (hsearch : a.err = CL_SUCCESS → args.event = true → assignID t.mObjects a.event = none →
      ∀ q s, F ⟨⟨.read 1 q, s, []⟩, ⟨.spin, t, []⟩, u, [], log⟩)
    (hdone : a.err = CL_SUCCESS → ∀ s t, F ⟨⟨.ret (.code CL_SUCCESS), s, []⟩,
      ⟨ServerInstance.serve B, t, []⟩, u, [], log⟩) :
    Settles D.environment (ServerInstance.serve B) F
      ⟨⟨catching badAlloc others (awaitWritten args), s, []⟩,
        ⟨handling (if a.err ≠ CL_SUCCESS then ServerInstance.writeError a.err
          else if args.event then ServerInstance.writeID a.event else ServerInstance.writeSuccess),
          t, []⟩, u, [], log⟩ := by
  have hK := context_catching badAlloc others
  by_cases herr : a.err = CL_SUCCESS
  swap
  · rw [if_pos herr]
    refine (settles_replies hF).mpr ?_
    exact (settles_error_written hF).mpr (Settles.final (herror herr))
  rw [if_neg (not_not.mpr herr)]
  cases hevent : args.event with
  | false =>
    rw [if_neg Bool.false_ne_true, awaitWritten, hevent, if_neg Bool.false_ne_true]
    refine (settles_replies hF).mpr ?_
    exact (settles_client_meets_packet (p := (⟨⟩ : SuccessPacket)) hF hK (by decide)).mpr
      (Settles.final (hdone herr _ _))
  | true =>
    rw [if_pos rfl, ← bind_pure (ServerInstance.writeID a.event)]
    refine (settles_writeID hF).mpr ?_
    cases hid : assignID t.mObjects a.event with
    | none =>
      obtain ⟨q, s', hq⟩ : Waits ⟨catching badAlloc others (awaitWritten args), s, []⟩ :=
        waits_written
      rw [hq]
      exact Settles.final (hsearch herr hevent hid q s')
    | some b =>
      refine (settles_handles hF).mpr ?_
      rw [awaitWritten, hevent, if_pos rfl, List.nil_append, List.nil_append,
        ← List.append_nil (packet _)]
      obtain ⟨s', htake⟩ := settles_awaitEvent hF (eventPrefix_packet hevent b.1) badAlloc others
        (fun _ => pure (.code CL_SUCCESS)) s
      exact (htake _ _ _ _).mpr (Settles.final (hdone herr _ _))

omit hF in
/-- A command that reads nothing is enqueued, and ends. -/
theorem settles_enqueuesCommand {events : List Ptr} {p : Prop} (hp : p) {q : Enqueue}
    (hq : q.events = events) (hlog : waitLists log = []) :
    Settles D.environment (ServerInstance.serve B) (EndsAs D B events p)
      ⟨⟨catching badAlloc others (awaitEvent args >>= fun _ =>
          PacketStream.readPacket SuccessPacket >>= fun _ => pure (.code CL_SUCCESS)), s, []⟩,
        ⟨handling (ServerInstance.enqueue q >>= ServerInstance.replyCommand args.event), t, []⟩,
        [], [], log⟩ := by
  have hgiven : waitLists (log ++ [⟨.enqueue q, D log (.enqueue q)⟩]) = [events] :=
    waitLists_concat hlog (congrArg some hq)
  refine (Driver.settles_ask stable_endsAs context_handler).mpr ?_
  refine settles_answered stable_endsAs (fun _ => ServerInstance.writeSuccess) [] (by decide)
    (reads_dec (⟨⟩ : SuccessPacket)) rfl (fun _ => ?_) ?_ ?_
  · exact endsAs_returned (iff_of_true ⟨rfl, hgiven⟩ hp)
  · exact fun _ _ hid _ _ => endsAs_searching hid (iff_of_true hgiven hp)
  · exact fun _ _ _ _ => Settles.final (endsAs_returned (iff_of_true ⟨rfl, hgiven⟩ hp))

omit hF in
/-- A command that reads is enqueued, and ends. -/
theorem settles_enqueuesRead (hz : SameFormat B.zlib C.zlib) {events : List Ptr} {p : Prop}
    (hp : p) {q : Enqueue} (hq : q.events = events) (hlog : waitLists log = []) {size : ℕ} :
    Settles D.environment (ServerInstance.serve B) (EndsAs D B events p)
      ⟨⟨catching badAlloc others (awaitEvent args >>= fun _ =>
          PacketStream.read .payload (decPayloadInto C.zlib .uint32) >>= fun data =>
            store true (.ptr data) >>= fun _ => pure (.code CL_SUCCESS)), s, []⟩,
        ⟨handling (ServerInstance.enqueue q >>= ServerInstance.replyRead B args.event size),
          t, []⟩, [], [], log⟩ := by
  have hgiven : waitLists (log ++ [⟨.enqueue q, D log (.enqueue q)⟩]) = [events] :=
    waitLists_concat hlog (congrArg some hq)
  have hread := reads_payloadPtr_take hz .uint32
    (storeInto (zeros size) (D log (.enqueue q)).data) .payloadInto
  refine (Driver.settles_ask stable_endsAs context_handler).mpr ?_
  refine settles_answered stable_endsAs (fun a => ServerInstance.writePayloadPtr B .uint32
    (storeInto (zeros size) a.data)) [] (by decide) hread ?_ (fun _ => ?_) ?_ ?_
  · rw [List.append_nil]
    rfl
  · exact endsAs_returned (iff_of_true ⟨rfl, hgiven⟩ hp)
  · exact fun _ _ hid _ _ => endsAs_searching hid (iff_of_true hgiven hp)
  · intro _ _ s' t'
    refine (settles_client_modify stable_endsAs (context_catching badAlloc others)).mpr ?_
    exact Settles.final (endsAs_returned (iff_of_true ⟨rfl, hgiven⟩ hp))

end Turns

/-! ## Calls -/

/-- A call of one of the functions that take a list of events, without this list. -/
inductive WaitCall where
  | clEnqueueReadBuffer (command_queue buffer : Option Handle) (blocking_read : Bool)
      (offset size : UInt64)
  | clEnqueueReadBufferRect (command_queue buffer : Option Handle) (blocking_read : Bool)
      (rect : RectArgs)
  | clEnqueueWriteBuffer (command_queue buffer : Option Handle) (blocking_write : Bool)
      (offset size : UInt64) (ptr : Bytes)
  | clEnqueueFillBuffer (command_queue buffer : Option Handle) (pattern : Bytes)
      (pattern_size offset size : UInt64)
  | clEnqueueReadImage (command_queue image : Option Handle) (blocking_read : Bool)
      (rect : ImageArgs)
  | clEnqueueWriteImage (command_queue image : Option Handle) (blocking_write : Bool)
      (rect : ImageArgs) (ptr : Bytes)
  | clEnqueueNDRangeKernel (command_queue kernel : Option Handle) (r : NDRange)
  | clWaitForEvents
  deriving DecidableEq

namespace WaitCall

/-- The program of a call.  `event` says whether the application wants an event. -/
def call (C : Build) (events : List Handle) (event : Bool) : WaitCall → ClientM Ret
  | clEnqueueReadBuffer queue buffer block offset size =>
    Client.clEnqueueReadBuffer C queue buffer block offset size (waitArgs events event)
  | clEnqueueReadBufferRect queue buffer block rect =>
    Client.clEnqueueReadBufferRect C queue buffer block rect (waitArgs events event)
  | clEnqueueWriteBuffer queue buffer block offset size ptr =>
    Client.clEnqueueWriteBuffer C queue buffer block offset size ptr (waitArgs events event)
  | clEnqueueFillBuffer queue buffer pattern pattern_size offset size =>
    Client.clEnqueueFillBuffer queue buffer pattern pattern_size offset size
      (waitArgs events event)
  | clEnqueueReadImage queue image block rect =>
    Client.clEnqueueReadImage C queue image block rect (waitArgs events event)
  | clEnqueueWriteImage queue image block rect ptr =>
    Client.clEnqueueWriteImage C queue image block rect ptr (waitArgs events event)
  | clEnqueueNDRangeKernel queue kernel r =>
    Client.clEnqueueNDRangeKernel queue kernel r (waitArgs events event)
  | clWaitForEvents => Client.clWaitForEvents events.length (some (events.map some))

/-- The arguments that the client does not accept. -/
def Invalid (events : List Handle) : WaitCall → Prop
  | clEnqueueReadBuffer queue object _ _ _ | clEnqueueReadBufferRect queue object _ _
  | clEnqueueWriteBuffer queue object _ _ _ _ | clEnqueueReadImage queue object _ _
  | clEnqueueWriteImage queue object _ _ _ => queue = none ∨ object = none
  | clEnqueueFillBuffer queue object _ pattern_size _ _ =>
    queue = none ∨ object = none ∨ 128 < pattern_size
  | clEnqueueNDRangeKernel queue kernel r =>
    queue = none ∨ kernel = none ∨ r.work_dim = 0 ∨ 3 < r.work_dim ∨ r.zeroGroup = true
  | clWaitForEvents => events = []

variable (D : Driver) (B : ServerBuild) (t : ServerState)

/-- What the driver says about the size of a pixel. -/
def elementSize (image : Handle) : InfoAns :=
  D [] (elementSizeOf (objectAt t.mObjects (GetID image)))

/-- What the driver answers to the read of an image. -/
def imageRead (p : ReadImage) (image : Handle) (events : List Handle) : EnqueueAns :=
  D [⟨elementSizeOf (objectAt t.mObjects (GetID image)), elementSize D t image⟩]
    (.enqueue (readCommand t p (events.map GetID)))

/-- The data that the server sends. -/
def imageData (p : ReadImage) (image : Handle) (events : List Handle) : Bytes :=
  storeInto (zeros (sizeOfRead p (elementSize D t image))) (imageRead D t p image events).data

/-- The data of an image is read completely by the client, if it is sent. -/
def ImageFits (p : ReadImage) (image : Handle) (events : List Handle) (event : Bool) : Prop :=
  (imageRead D t p image events).err = CL_SUCCESS →
    (event = true → assignID t.mObjects (imageRead D t p image events).event ≠ none) →
      CompressedFits B.zlib .uint32 (imageData D t p image events)

/-- The packet of a read. -/
abbrev readImagePacket (queue image : Handle) (block : Bool) (rect : ImageArgs)
    (events : List Handle) (event : Bool) : ReadImage :=
  imagePacket .readImage queue image block rect (waitArgs events event)

/-- The server does not give up the request before it calls the driver, and the client reads all of
the reply. -/
def Served (events : List Handle) (event : Bool) : WaitCall → Prop
  | clEnqueueReadBufferRect (some queue) (some buffer) block rect =>
    ServerInstance.rectSize (rect.packet queue buffer block (waitArgs events event)) ≤
      ServerInstance.vectorMaxSize
  | clEnqueueReadImage (some queue) (some image) block rect =>
    let p := readImagePacket queue image block rect events event
    (elementSize D t image).err = CL_SUCCESS ∧
      sizeOfRead p (elementSize D t image) ≤ ServerInstance.vectorMaxSize ∧
        ImageFits D B t p image events event
  | clEnqueueWriteImage _ (some image) _ _ _ => (elementSize D t image).err = CL_SUCCESS
  | _ => True

variable {D B t} {C : Build} {s : ClientState} {events : List Handle} {event : Bool}
variable (hlen : events.length ≤ 255)
include hlen

/-! ### Commands on buffers, and kernels -/

section Buffers

variable {queue object : Handle}

theorem settles_clEnqueueReadBuffer (hz : SameFormat B.zlib C.zlib) (block : Bool)
    (offset size : UInt64) :
    Settles D.environment (ServerInstance.serve B) (EndsAs D B (objectsOf t events) True)
      (start B (Client.clEnqueueReadBuffer C (some queue) (some object) block offset size
        (waitArgs events event)) s t []) := by
  have hK := context_catching CL_OUT_OF_HOST_MEMORY CL_DEVICE_NOT_AVAILABLE
  rw [Client.clEnqueueReadBuffer, withEvents_waitArgs]
  refine (settles_commandSent stable_endsAs hK rfl (by decide)).mpr ?_
  rw [← List.append_nil (eventPacket _ _)]
  refine (settles_readsEvents stable_endsAs (eventIDs_waitArgs events event) hlen).mpr ?_
  refine (settles_server_get stable_endsAs context_handler).mpr ?_
  refine (settles_server_get stable_endsAs context_handler).mpr ?_
  exact settles_enqueuesRead hz trivial (map_objectAt_map_GetID t events) rfl

theorem settles_clEnqueueFillBuffer {pattern : Bytes} {pattern_size : UInt64}
    (hsize : ¬ 128 < pattern_size) (offset size : UInt64) :
    Settles D.environment (ServerInstance.serve B) (EndsAs D B (objectsOf t events) True)
      (start B (Client.clEnqueueFillBuffer (some queue) (some object) pattern pattern_size offset
        size (waitArgs events event)) s t []) := by
  have hK := context_catching CL_OUT_OF_HOST_MEMORY CL_DEVICE_NOT_AVAILABLE
  rw [Client.clEnqueueFillBuffer, withEvents_waitArgs, if_neg hsize]
  refine (settles_commandSent stable_endsAs hK rfl (by decide)).mpr ?_
  rw [← List.append_nil (eventPacket _ _)]
  refine (settles_readsEvents stable_endsAs (eventIDs_waitArgs events event) hlen).mpr ?_
  refine (settles_server_get stable_endsAs context_handler).mpr ?_
  refine (settles_server_get stable_endsAs context_handler).mpr ?_
  exact settles_enqueuesCommand trivial (map_objectAt_map_GetID t events) rfl

theorem settles_clEnqueueReadBufferRect (hz : SameFormat B.zlib C.zlib) (block : Bool)
    (rect : RectArgs) :
    Settles D.environment (ServerInstance.serve B) (EndsAs D B (objectsOf t events)
        (Served D B t events event
          (.clEnqueueReadBufferRect (some queue) (some object) block rect)))
      (start B (Client.clEnqueueReadBufferRect C (some queue) (some object) block rect
        (waitArgs events event)) s t []) := by
  have hK := context_catching CL_OUT_OF_HOST_MEMORY CL_DEVICE_NOT_AVAILABLE
  rw [clEnqueueReadBufferRect_eq queue object block rect (eventIDs_waitArgs events event)]
  refine (settles_commandSent stable_endsAs hK rfl (by decide)).mpr ?_
  rw [← List.append_nil (eventPacket _ _)]
  refine (settles_readsEvents stable_endsAs (eventIDs_waitArgs events event) hlen).mpr ?_
  refine settles_resize (fun hroom => ?_) fun hlarge => ?_
  · refine (settles_server_get stable_endsAs context_handler).mpr ?_
    refine (settles_server_get stable_endsAs context_handler).mpr ?_
    exact settles_enqueuesRead hz hroom (map_objectAt_map_GetID t events) rfl
  · refine endsAs_stopped ?_ rfl (Or.inr rfl) (not_le.mpr hlarge)
    obtain ⟨q, s', hq⟩ := waits_event hK (waitArgs events event) .payload
      (decPayloadInto C.zlib .uint32)
      (fun data => store true (.ptr data) >>= fun _ => pure (.code CL_SUCCESS)) s
    rw [hq]
    exact Nat.one_pos

theorem settles_clEnqueueWriteBuffer (hz : SameFormat C.zlib B.zlib) (block : Bool)
    (offset size : UInt64) (ptr : Bytes) :
    Settles D.environment (ServerInstance.serve B) (EndsAs D B (objectsOf t events) True)
      (start B (Client.clEnqueueWriteBuffer C (some queue) (some object) block offset size ptr
        (waitArgs events event)) s t []) := by
  have hK := context_catching CL_OUT_OF_HOST_MEMORY CL_DEVICE_NOT_AVAILABLE
  have hread := reads_payloadPtr_take hz .uint32 (memRead ptr size.toNat) .payload
  rw [Client.clEnqueueWriteBuffer, withEvents_waitArgs]
  refine (settles_writeCommand stable_endsAs hK).mpr ?_
  refine (settles_client_write stable_endsAs hK).mpr ?_
  refine (settles_client_flushes stable_endsAs hK).mpr ?_
  rw [List.nil_append, List.nil_append, List.append_assoc,
    ← List.append_nil (PacketStream.frame .payload _)]
  refine (settles_dispatches (h := ServerInstance.writeBuffer B) stable_endsAs rfl rfl).mpr ?_
  refine (settles_server_meets_packet stable_endsAs context_handler (by decide)).mpr ?_
  refine (settles_readsEvents stable_endsAs (eventIDs_waitArgs events event) hlen).mpr ?_
  refine (settles_server_meets stable_endsAs context_handler hread (by decide)).mpr ?_
  refine (settles_server_get stable_endsAs context_handler).mpr ?_
  refine (settles_server_get stable_endsAs context_handler).mpr ?_
  exact settles_enqueuesCommand trivial (map_objectAt_map_GetID t events) rfl

theorem settles_clEnqueueNDRangeKernel {r : NDRange} (hdim : ¬ (r.work_dim = 0 ∨ 3 < r.work_dim))
    (hzero : ¬ r.zeroGroup = true) :
    Settles D.environment (ServerInstance.serve B) (EndsAs D B (objectsOf t events) True)
      (start B (Client.clEnqueueNDRangeKernel (some queue) (some object) r (waitArgs events event))
        s t []) := by
  have hK := context_catching CL_SUCCESS CL_SUCCESS
  rw [Client.clEnqueueNDRangeKernel, if_neg hdim, if_neg hzero, eventIDs_waitArgs]
  refine (settles_commandSent stable_endsAs hK rfl (by decide)).mpr ?_
  rw [← List.append_nil (eventPacket _ _)]
  refine (settles_readsEvents stable_endsAs (eventIDs_waitArgs events event) hlen).mpr ?_
  refine (settles_server_get stable_endsAs context_handler).mpr ?_
  refine (settles_server_get stable_endsAs context_handler).mpr ?_
  exact settles_enqueuesCommand trivial (map_objectAt_map_GetID t events) rfl

end Buffers

/-! ### Images -/

section Images

omit hlen in
/-- The driver has refused to tell the size of a pixel: the events are left on the stream. -/
theorem settles_queryRefused {objects : List Ptr} {p : Prop} (hp : ¬ p)
    {c : Side ClientState Exn Empty NoAnswer Ret} {s : ClientState} {err : Int32}
    {log : List Asked} (hlog : waitLists log = [])
    (hc : ∀ server u, Settles D.environment (ServerInstance.serve B) (EndsAs D B objects p)
        ⟨c, server, u, packet (⟨err⟩ : ErrorPacket), log⟩ ↔
      Settles D.environment (ServerInstance.serve B) (EndsAs D B objects p)
        ⟨⟨.ret (.code err), s, []⟩, server, u, [], log⟩) {args : WaitArgs} {ids : List IDType} :
    Settles D.environment (ServerInstance.serve B) (EndsAs D B objects p)
      ⟨c, ⟨handling (ServerInstance.writeError err), t, []⟩, eventPacket args ids, [], log⟩ := by
  refine (settles_replies stable_endsAs).mpr ((hc _ _).mpr ?_)
  rw [eventPacket]
  cases args.expectEventList with
  | false =>
    refine Settles.final (endsAs_returned (iff_of_false ?_ hp))
    rintro ⟨-, h⟩
    rw [hlog] at h
    cases h
  | true =>
    have hhandler : ServerInstance.handler B .idList = none := rfl
    have hreturned : Idle (.ret (.code err) : ClientM Ret) [] := trivial
    refine (settles_notRequest stable_endsAs (by decide) hhandler rfl).mpr ?_
    exact Settles.final (endsAs_stopped hreturned rfl (Or.inl rfl) hp)

variable {queue image : Handle}

theorem settles_clEnqueueReadImage (hz : SameFormat B.zlib C.zlib) (block : Bool)
    (rect : ImageArgs) :
    Settles D.environment (ServerInstance.serve B) (EndsAs D B (objectsOf t events)
        (Served D B t events event (.clEnqueueReadImage (some queue) (some image) block rect)))
      (start B (Client.clEnqueueReadImage C (some queue) (some image) block rect
        (waitArgs events event)) s t []) := by
  have hK := context_catching CL_OUT_OF_HOST_MEMORY CL_DEVICE_NOT_AVAILABLE
  rw [Client.clEnqueueReadImage, withEvents_waitArgs]
  refine (settles_writeCommand stable_endsAs hK).mpr ?_
  refine (settles_client_flushes stable_endsAs hK).mpr ?_
  refine (settles_elementSize stable_endsAs (by decide) rfl rfl).mpr ?_
  rintro a _ ⟨ha, rfl⟩
  have hasked : a = elementSize D t image := ha
  rw [hasked]
  by_cases herr : (elementSize D t image).err = CL_SUCCESS
  swap
  · rw [if_pos herr]
    exact settles_queryRefused (fun h => herr h.1) rfl fun _ _ => settles_error_event stable_endsAs
  rw [if_neg (not_not.mpr herr), ← List.append_nil (eventPacket _ _)]
  refine (settles_readsEvents stable_endsAs (eventIDs_waitArgs events event) hlen).mpr ?_
  refine (settles_server_get stable_endsAs context_handler).mpr ?_
  refine settles_resize (fun hroom => ?_) fun hlarge => ?_
  swap
  · refine endsAs_stopped ?_ rfl (Or.inr rfl) fun h => not_le.mpr hlarge h.2.1
    obtain ⟨q, s', hq⟩ := waits_event hK (waitArgs events event) .payload
      (decPayloadInto C.zlib .uint32)
      (fun data => store true (.ptr data) >>= fun _ => pure (.code CL_SUCCESS)) s
    rw [hq]
    exact Nat.one_pos
  refine (Driver.settles_ask stable_endsAs context_handler).mpr ?_
  let p := readImagePacket queue image block rect events event
  have hgiven : waitLists ([⟨elementSizeOf (objectAt t.mObjects (GetID image)),
      elementSize D t image⟩] ++ [⟨.enqueue (readCommand t p (events.map GetID)),
        imageRead D t p image events⟩]) = [objectsOf t events] :=
    waitLists_concat rfl (congrArg some (map_objectAt_map_GetID t events))
  -- what the client does not read of the data is left behind
  have hsize : compressionSizeThreshold ≤ SizeT.uint32.range := by decide
  obtain ⟨w, x, rest, hw, hread, hrest⟩ := exists_reads_encPayload hz hsize
    (imageData D t p image events)
  refine settles_answered stable_endsAs (fun b => ServerInstance.writePayload B .uint32
    (storeInto (zeros (sizeOfRead p (elementSize D t image))) b.data)) rest (by decide) hread
    ?_ (fun hb => ?_) ?_ ?_
  · exact congrArg (PacketStream.write .payload) hw
  · exact endsAs_returned (iff_of_true ⟨rfl, hgiven⟩ ⟨herr, hroom, fun h => absurd h hb⟩)
  · exact fun _ hevent hid _ _ => endsAs_searching hid (iff_of_true hgiven ⟨herr, hroom,
      fun _ hsome => absurd hid (hsome hevent)⟩)
  · intro hb hsome s' t'
    refine (settles_client_modify stable_endsAs hK).mpr (Settles.final (endsAs_returned ?_))
    refine (and_iff_left hgiven).trans (hrest.trans ⟨?_, ?_⟩)
    · exact fun hfits => ⟨herr, hroom, fun _ _ => hfits⟩
    · exact fun h => h.2.2 hb hsome

theorem settles_clEnqueueWriteImage (hz : SameFormat C.zlib B.zlib) (block : Bool)
    (rect : ImageArgs) (ptr : Bytes) :
    Settles D.environment (ServerInstance.serve B) (EndsAs D B (objectsOf t events)
        (Served D B t events event (.clEnqueueWriteImage (some queue) (some image) block rect ptr)))
      (start B (Client.clEnqueueWriteImage C (some queue) (some image) block rect ptr
        (waitArgs events event)) s t []) := by
  have hK := context_catching CL_OUT_OF_HOST_MEMORY CL_DEVICE_NOT_AVAILABLE
  rw [Client.clEnqueueWriteImage, withEvents_waitArgs]
  refine (settles_writeCommand stable_endsAs hK).mpr ?_
  refine (settles_client_flushes stable_endsAs hK).mpr ?_
  refine (settles_elementSize stable_endsAs (by decide) rfl rfl).mpr ?_
  rintro a _ ⟨ha, rfl⟩
  have hasked : a = elementSize D t image := ha
  rw [hasked]
  by_cases herr : (elementSize D t image).err = CL_SUCCESS
  swap
  · rw [if_pos herr]
    exact settles_queryRefused (fun h => herr h) rfl fun _ _ => settles_error stable_endsAs
  rw [if_neg (not_not.mpr herr), ← List.append_nil (eventPacket _ _)]
  refine (settles_readsEvents stable_endsAs (eventIDs_waitArgs events event) hlen).mpr ?_
  refine (settles_server_get stable_endsAs context_handler).mpr ?_
  refine (settles_server_writePacket stable_endsAs context_handler).mpr ?_
  refine (settles_server_flushes stable_endsAs context_handler).mpr ?_
  -- the client is told how much to send, and sends it
  rw [List.nil_append, List.nil_append, ← List.append_nil (packet _)]
  refine (settles_client_meets_packet stable_endsAs hK (show Ordinary .payload by decide)).mpr ?_
  refine (settles_client_write stable_endsAs hK).mpr ?_
  refine (settles_client_flushes stable_endsAs hK).mpr ?_
  rw [List.nil_append, List.nil_append, ← List.append_nil (PacketStream.frame _ _)]
  refine (settles_server_meets stable_endsAs context_handler
    (reads_payloadPtr_take hz .uint32 _ .payload) (by decide)).mpr ?_
  refine (Driver.settles_ask stable_endsAs context_handler).mpr ?_
  have hevents := map_objectAt_map_GetID t events
  have hgiven {log : List Asked} {q : Enqueue} {a : EnqueueAns} (hlog : waitLists log = [])
      (hq : q.events = objectsOf t events) :
      waitLists (log ++ [⟨.enqueue q, a⟩]) = [objectsOf t events] :=
    waitLists_concat hlog (congrArg some hq)
  refine settles_answeredWrite stable_endsAs (fun _ => ?_) (fun _ _ hid _ _ => ?_) fun _ _ _ => ?_
  · exact endsAs_returned (iff_of_true ⟨rfl, hgiven rfl hevents⟩ herr)
  · exact endsAs_searching hid (iff_of_true (hgiven rfl hevents) herr)
  · exact endsAs_returned (iff_of_true ⟨rfl, hgiven rfl hevents⟩ herr)

end Images

/-! ### Waiting -/

omit hlen in
theorem clWaitForEvents_eq (hevents : events ≠ []) :
    Client.clWaitForEvents events.length (some (events.map some)) =
      catching CL_OUT_OF_HOST_MEMORY CL_DEVICE_NOT_AVAILABLE
        (PacketStream.writePacket (⟨⟩ : WaitForEvents) >>= fun _ =>
          PacketStream.writePacket (⟨events.map GetID⟩ : IDListPacket) >>= fun _ =>
            awaitSuccess) := by
  have htake : (events.map some).take events.length = events.map some :=
    List.take_of_length_le (List.length_map _).le
  have hlength : events.length ≠ 0 := fun h => hevents (List.length_eq_zero_iff.mp h)
  simp only [Client.clWaitForEvents, if_neg hlength, htake, handleIDs_map_some]

theorem settles_clWaitForEvents (hevents : events ≠ []) :
    Settles D.environment (ServerInstance.serve B) (EndsAs D B (objectsOf t events) True)
      (start B (Client.clWaitForEvents events.length (some (events.map some))) s t []) := by
  have hK := context_catching CL_OUT_OF_HOST_MEMORY CL_DEVICE_NOT_AVAILABLE
  have hshort : (events.map GetID).length < SizeT.range .uint8 := by
    rw [List.length_map]
    exact Nat.lt_succ_of_le hlen
  rw [clWaitForEvents_eq hevents]
  refine (settles_client_writePacket stable_endsAs hK).mpr ?_
  refine (settles_client_writePacket stable_endsAs hK).mpr ?_
  refine (settles_client_flushes stable_endsAs hK).mpr ?_
  rw [List.nil_append, List.nil_append, ← List.append_nil (packet (⟨_⟩ : IDListPacket)),
    ← List.append_assoc, List.append_assoc]
  refine (settles_dispatches (h := ServerInstance.waitForEvents) stable_endsAs rfl rfl).mpr ?_
  refine (settles_server_meets_packet stable_endsAs context_handler (by decide)).mpr ?_
  rw [ServerInstance.readEvents, if_pos rfl, bind_assoc (PacketStream.readPacket IDListPacket)]
  refine (settles_server_meets stable_endsAs context_handler (reads_idListPacket hshort)
    (show Ordinary PacketType.idList by decide)).mpr ?_
  refine (settles_server_get stable_endsAs context_handler).mpr ?_
  refine (Driver.settles_ask stable_endsAs context_handler).mpr ?_
  have hgiven : ∀ err : Int32, waitLists ([] ++ [⟨.status (.clWaitForEvents
      ((events.map GetID).map (objectAt t.mObjects))), err⟩]) = [objectsOf t events] :=
    fun _ => waitLists_concat rfl (congrArg some (map_objectAt_map_GetID t events))
  rw [ServerInstance.replyStatus]
  split
  · refine (settles_replies stable_endsAs).mpr ((settles_error stable_endsAs).mpr ?_)
    exact Settles.final (endsAs_returned (iff_of_true ⟨rfl, hgiven _⟩ trivial))
  · refine (settles_replies stable_endsAs).mpr ?_
    refine (settles_client_meets_packet (p := (⟨⟩ : SuccessPacket)) stable_endsAs hK
      (by decide)).mpr ?_
    exact Settles.final (endsAs_returned (iff_of_true ⟨rfl, hgiven _⟩ trivial))

/-! ### All calls -/

/-- **A call that the client accepts**, with at most 255 events. -/
theorem settles_endsAs (hz : SameFormat C.zlib B.zlib) (hz' : SameFormat B.zlib C.zlib)
    (call : WaitCall) (hvalid : ¬ call.Invalid events) :
    Settles D.environment (ServerInstance.serve B) (EndsAs D B (objectsOf t events)
        (call.Served D B t events event))
      (start B (call.call C events event) s t []) := by
  cases call with
  | clWaitForEvents => exact settles_clWaitForEvents hlen hvalid
  | clEnqueueFillBuffer queue object pattern pattern_size offset size =>
    rw [Invalid, not_or, not_or] at hvalid
    obtain ⟨q, rfl⟩ := Option.ne_none_iff_exists'.mp hvalid.1
    obtain ⟨m, rfl⟩ := Option.ne_none_iff_exists'.mp hvalid.2.1
    exact settles_clEnqueueFillBuffer hlen hvalid.2.2 offset size
  | clEnqueueNDRangeKernel queue kernel r =>
    rw [Invalid, not_or, not_or, ← or_assoc, not_or] at hvalid
    obtain ⟨q, rfl⟩ := Option.ne_none_iff_exists'.mp hvalid.1
    obtain ⟨k, rfl⟩ := Option.ne_none_iff_exists'.mp hvalid.2.1
    exact settles_clEnqueueNDRangeKernel hlen hvalid.2.2.1 hvalid.2.2.2
  | clEnqueueReadBuffer queue object block offset size =>
    rw [Invalid, not_or] at hvalid
    obtain ⟨q, rfl⟩ := Option.ne_none_iff_exists'.mp hvalid.1
    obtain ⟨m, rfl⟩ := Option.ne_none_iff_exists'.mp hvalid.2
    exact settles_clEnqueueReadBuffer hlen hz' block offset size
  | clEnqueueReadBufferRect queue object block rect =>
    rw [Invalid, not_or] at hvalid
    obtain ⟨q, rfl⟩ := Option.ne_none_iff_exists'.mp hvalid.1
    obtain ⟨m, rfl⟩ := Option.ne_none_iff_exists'.mp hvalid.2
    exact settles_clEnqueueReadBufferRect hlen hz' block rect
  | clEnqueueWriteBuffer queue object block offset size ptr =>
    rw [Invalid, not_or] at hvalid
    obtain ⟨q, rfl⟩ := Option.ne_none_iff_exists'.mp hvalid.1
    obtain ⟨m, rfl⟩ := Option.ne_none_iff_exists'.mp hvalid.2
    exact settles_clEnqueueWriteBuffer hlen hz block offset size ptr
  | clEnqueueReadImage queue image block rect =>
    rw [Invalid, not_or] at hvalid
    obtain ⟨q, rfl⟩ := Option.ne_none_iff_exists'.mp hvalid.1
    obtain ⟨m, rfl⟩ := Option.ne_none_iff_exists'.mp hvalid.2
    exact settles_clEnqueueReadImage hlen hz' block rect
  | clEnqueueWriteImage queue image block rect ptr =>
    rw [Invalid, not_or] at hvalid
    obtain ⟨q, rfl⟩ := Option.ne_none_iff_exists'.mp hvalid.1
    obtain ⟨m, rfl⟩ := Option.ne_none_iff_exists'.mp hvalid.2
    exact settles_clEnqueueWriteImage hlen hz block rect ptr

omit hlen in
/-- A call that writes a command has sent something. -/
theorem not_refused_writeCommand {badAlloc others : Int32} {X : Type} [Packet X] [Wire X] {x : X}
    {args : WaitArgs} {ids : List IDType} {k : Unit → ClientM Ret}
    (hk : ∀ o Q, ¬ (k ()).wp noEnv (fun _ _ _ => False) s o [] () Q) :
    ¬ Refused (catching badAlloc others (writeCommand x args ids >>= k)) s := by
  intro h
  rw [Refused, wp_catching, writeCommand, bind_assoc, Prog.wp_bind, wp_writePacket,
    Prog.afterBind_ok, Prog.wp_bind] at h
  cases hexpect : args.expectEventList with
  | false =>
    rw [hexpect, if_neg Bool.false_ne_true] at h
    exact hk _ _ h
  | true =>
    rw [hexpect, if_pos rfl, wp_writePacket, Prog.afterBind_ok] at h
    exact hk _ _ h

omit hlen in
/-- What is refused for its queue or its object, and what is not. -/
theorem refused_withEvents {queue object : Option Handle}
    {p : Handle → Handle → List IDType → ClientM Ret} {I : Prop}
    (hp : ∀ q m, Refused (catching CL_OUT_OF_HOST_MEMORY CL_DEVICE_NOT_AVAILABLE
      (p q m (events.map GetID))) s ↔ I) :
    Refused (withEvents queue object (waitArgs events event) p) s ↔
      queue = none ∨ object = none ∨ I := by
  cases queue with
  | none => exact iff_of_true ⟨rfl, Or.inr ⟨_, by decide, rfl⟩⟩ (Or.inl rfl)
  | some q =>
    cases object with
    | none => exact iff_of_true ⟨rfl, Or.inr ⟨_, by decide, rfl⟩⟩ (Or.inr (Or.inl rfl))
    | some m =>
      rw [withEvents_waitArgs, hp]
      simp

omit hlen in
/-- **What the client refuses** are the arguments that it does not accept. -/
theorem refused_iff (call : WaitCall) :
    Refused (call.call C events event) s ↔ call.Invalid events := by
  have hcommand {queue object : Option Handle} {p : Handle → Handle → List IDType → ClientM Ret}
      (hp : ∀ q m, ¬ Refused (catching CL_OUT_OF_HOST_MEMORY CL_DEVICE_NOT_AVAILABLE
        (p q m (events.map GetID))) s) :
      Refused (withEvents queue object (waitArgs events event) p) s ↔
        queue = none ∨ object = none := by
    rw [refused_withEvents fun q m => iff_of_false (hp q m) not_false, or_false]
  cases call with
  | clEnqueueReadBuffer => exact hcommand fun _ _ => not_refused_writeCommand fun _ _ h => h
  | clEnqueueReadBufferRect => exact hcommand fun _ _ => not_refused_writeCommand fun _ _ h => h
  | clEnqueueWriteBuffer => exact hcommand fun _ _ => not_refused_writeCommand fun _ _ h => h
  | clEnqueueReadImage => exact hcommand fun _ _ => not_refused_writeCommand fun _ _ h => h
  | clEnqueueWriteImage => exact hcommand fun _ _ => not_refused_writeCommand fun _ _ h => h
  | clEnqueueFillBuffer queue object pattern pattern_size offset size =>
    refine refused_withEvents fun q m => ?_
    split
    · exact iff_of_true ⟨rfl, Or.inr ⟨_, by decide, rfl⟩⟩ ‹_›
    · exact iff_of_false (not_refused_writeCommand fun _ _ h => h) ‹_›
  | clEnqueueNDRangeKernel queue kernel r =>
    have hearly {err : Int32} (herr : err ≠ CL_SUCCESS) : Refused (pure (.code err)) s :=
      ⟨rfl, Or.inr ⟨err, herr, rfl⟩⟩
    rw [call, Invalid]
    cases queue with
    | none => exact iff_of_true (hearly (by decide)) (Or.inl rfl)
    | some q =>
      cases kernel with
      | none => exact iff_of_true (hearly (by decide)) (Or.inr (Or.inl rfl))
      | some k =>
        rw [Client.clEnqueueNDRangeKernel, eventIDs_waitArgs]
        split
        · rename_i hdim
          exact iff_of_true (hearly (by decide)) (Or.inr (Or.inr (or_assoc.mp (Or.inl hdim))))
        split
        · rename_i hzero
          exact iff_of_true (hearly (by decide)) (Or.inr (Or.inr (Or.inr (Or.inr hzero))))
        · rename_i hdim hzero
          refine iff_of_false (not_refused_writeCommand fun _ _ h => h) ?_
          rintro (h | h | h | h | h)
          · cases h
          · cases h
          · exact hdim (Or.inl h)
          · exact hdim (Or.inr h)
          · exact hzero h
  | clWaitForEvents =>
    rw [call, Invalid]
    by_cases hevents : events = []
    · exact iff_of_true (hevents ▸ ⟨rfl, Or.inr ⟨_, by decide, rfl⟩⟩) hevents
    · rw [clWaitForEvents_eq hevents]
      exact iff_of_false (fun h => h) hevents

/-! ## Wait lists -/

/-- The driver is given the events, or the client has refused the call. -/
def HonoursEvents (D : Driver) (B : ServerBuild) (C : Build) (s : ClientState) (t : ServerState)
    (call : WaitCall) (events : List Handle) (event : Bool) : Prop :=
  Refused (call.call C events event) s ∨
    GivesEvents D B (objectsOf t events) (start B (call.call C events event) s t [])

omit hlen in
/-- **When a list of events is honoured**: when its length fits into 8 bits, and the server gets as
far as the driver. -/
theorem honoursEvents_iff (hz : SameFormat C.zlib B.zlib) (hz' : SameFormat B.zlib C.zlib)
    (call : WaitCall) (events : List Handle) (event : Bool) :
    HonoursEvents D B C s t call events event ↔
      call.Invalid events ∨ events.length ≤ 255 ∧ call.Served D B t events event := by
  rw [HonoursEvents, refused_iff]
  by_cases hvalid : call.Invalid events
  · exact iff_of_true (Or.inl hvalid) (Or.inl hvalid)
  rw [or_iff_right hvalid, or_iff_right hvalid]
  constructor
  · intro h
    have hlen := length_le_of_given h
    rw [length_objectsOf] at hlen
    exact ⟨hlen, (givesEvents_iff (settles_endsAs hlen hz hz' call hvalid)).mp h⟩
  · rintro ⟨hlen, hserved⟩
    exact (givesEvents_iff (settles_endsAs hlen hz hz' call hvalid)).mpr hserved

omit hlen in
/-- Two events that `clWaitForEvents` waits for. -/
theorem honoursEvents_two :
    HonoursEvents .refusing ⟨plainBuild, 210⟩ plainBuild ⟨[], 0, [], false, []⟩ ⟨[66, 77], none⟩
      .clWaitForEvents [⟨1, 1, .event⟩, ⟨0, 0, .event⟩] false :=
  (honoursEvents_iff .plain .plain .clWaitForEvents _ false).mpr (Or.inr ⟨by decide, trivial⟩)

omit hlen in
theorem not_honoursEvents_of_length {call : WaitCall} (hvalid : ¬ call.Invalid events)
    (hlen : 255 < events.length) : ¬ HonoursEvents D B C s t call events event := by
  rintro (h | h)
  · exact hvalid ((refused_iff call).mp h)
  · have hle := length_le_of_given h
    rw [length_objectsOf] at hle
    omega

omit hlen in
/-- The length of a list of 256 events is zero in 8 bits. -/
theorem events_dropped :
    ¬ HonoursEvents .refusing ⟨plainBuild, 210⟩ plainBuild ⟨[], 0, [], false, []⟩ ⟨[66], none⟩
      .clWaitForEvents (List.replicate 256 ⟨0, 0, .event⟩) false := by
  refine not_honoursEvents_of_length (fun h => ?_) ?_
  · have hempty := congrArg List.length h
    rw [List.length_replicate, List.length_nil] at hempty
    omega
  · rw [List.length_replicate]
    omega

end WaitCall

end RemoteCL

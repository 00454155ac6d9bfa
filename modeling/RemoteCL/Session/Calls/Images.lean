import RemoteCL.Session.Calls.Commands

/-!
# Calls: images

The server asks the driver for the size of a pixel before it goes on with a request for a transfer:
an error at this point ends the request before the list of events has been read.  `Safe` says which
answers of the driver a transfer can cope with, and `ImageCall.inStep_iff` that these are all.
-/

namespace RemoteCL.Client

open ByteStream Conversation Wire LawfulWire

section Images

variable {δ : Type} {E : δ → (c : ServerCall) → Ans c → δ → Prop} {B : ServerBuild} {C : Build}
variable {s : ClientState} {t : ServerState} {e : δ}

/-! ## Creating images -/

section Creation

variable {A : Set Ptr} {takes : List IDType → ℕ} {truncates : Bool}

/-- The flag survives the way through a field of 32 bits. -/
theorem copy_flag_toUInt32 (flags : UInt64) :
    flags.toUInt32.toUInt64 &&& CL_MEM_COPY_HOST_PTR = flags &&& CL_MEM_COPY_HOST_PTR := by
  have hflag : CL_MEM_COPY_HOST_PTR.toNat = 2 ^ 5 := rfl
  apply UInt64.toNat_inj.mp
  rw [UInt64.toNat_and, UInt64.toNat_and, UInt32.toNat_toUInt64, UInt64.toNat_toUInt32, hflag]
  refine Nat.eq_of_testBit_eq fun i => ?_
  rw [Nat.testBit_and, Nat.testBit_and, Nat.testBit_mod_two_pow, Nat.testBit_two_pow]
  by_cases hi : 5 = i
  · subst hi
    simp
  · simp [hi]

/-- A question for a code leaves everything to what follows. -/
theorem serves_ignored {q : StatusCall} {use : Option (Resolve × Kind)} {plain : Bytes → Prop}
    {naming : List IDType → Bytes → Prop} {k : Int32 → ServerM Unit} {u : Bytes}
    (h : ∀ a, Serves E A takes use plain naming (k a) t u) :
    Serves E A takes use plain naming (ServerInstance.status q >>= k) t u := by
  intro e Q hplain hnaming
  rw [Prog.wp_bind, ServerInstance.wp_status]
  intro a e' ha
  have hquiet : namingsOf takes t.mObjects [⟨.status q, a⟩] = [] := namingsOf_eq_nil rfl rfl
  have hbefore : Asks E e [⟨.status q, a⟩] e' := .cons ha .nil
  refine h a e' Q (fun log e'' w hlog hnamings hw => ?_)
    fun log c b e'' ids mObjects w hlog hlast huse hids hw => ?_
  · exact hplain _ e'' w (hbefore.append hlog) (namingsOf_append hquiet hnamings) hw
  · refine hnaming _ c b e'' ids mObjects w (hbefore.append hlog) ?_ huse hids hw
    rw [List.getLast?_append, hlast]
    rfl

/-- A handler that has nothing to say but an error. -/
theorem serves_writeError {err : Int32} (herr : err ≠ CL_SUCCESS) {use : Option (Resolve × Kind)}
    {naming : List IDType → Bytes → Prop} :
    Serves E A takes use ErrorReply naming (ServerInstance.writeError err) t [] :=
  fun e _ hplain _ => hplain [] e _ .nil rfl ⟨err, herr, rfl⟩

/-- The client is told how much data the image takes, and sends it. -/
theorem settles_imageData (hz : SameFormat C.zlib B.zlib) {K : ClientM Ret → ClientM Ret}
    (hK : Guard K) {e₁ : δ} {before : List Asked} (hbefore : Asks E e before e₁)
    (hquiet : namingsOf List.length t.mObjects before = []) {dataSize : UInt32} {ptr : Bytes}
    {errcode_ret : Bool} {k : Bytes → ServerM Unit}
    (hk : ∀ data, Serves E A List.length (some (.getOrInsertObject, .memObject)) ErrorReply IDReply
      (k data) t []) :
    Settles E (ServerInstance.serve B) (Final B A (Effect E List.length truncates s t e))
      ⟨⟨K (PacketStream.readPacket (SimplePacket .payload UInt32) >>= fun dataSize =>
          PacketStream.write .payload
            (encPayloadPtr C.zlib .uint32 (memRead ptr dataSize.mData.toNat)) >>= fun _ =>
          PacketStream.flush >>= fun _ => awaitMemObject errcode_ret), s, []⟩,
        ⟨ServerInstance.iteration ((ServerInstance.writeValue dataSize >>= fun _ =>
          PacketStream.flush >>= fun _ => ServerInstance.readPayload B >>= k) >>= fun _ =>
            pure true), t, []⟩, [], [], e₁⟩ := by
  refine (settles_server_writePacket stable_final context_handler).mpr ?_
  refine (settles_server_flushes stable_final context_handler).mpr ?_
  show Settles _ _ _ ⟨_, _, [], packet (⟨dataSize⟩ : SimplePacket .payload UInt32), e₁⟩
  rw [← List.append_nil (packet _)]
  refine (settles_client_meets_packet stable_final hK.context
    (show Ordinary .payload by decide)).mpr ?_
  refine (settles_client_write stable_final hK.context).mpr ?_
  refine (settles_client_flushes stable_final hK.context).mpr ?_
  rw [awaitMemObject, settles_store hK.context]
  exact settles_rest hbefore hquiet ⟨_, _, _, waits_readPacket hK.context _ _ _,
    serves_readPayloadPtr hz (hk _),
    awaits_memObject hK ((Since.refl truncates s).stored_plain _ rfl rfl)⟩

/-- The client meets an error instead of a packet. -/
theorem agree_writeError {K : ClientM Ret → ClientM Ret} (hK : Guard K) {err : Int32}
    (herr : err ≠ CL_SUCCESS) {X : Type} [Packet X] [Wire X] {k : X → ClientM Ret} :
    Agree E A takes truncates (ServerInstance.writeError err) t []
      (K (PacketStream.readPacket X >>= k)) s s :=
  ⟨none, ErrorReply, NoReply, waits_readPacket hK.context _ _ _, serves_writeError herr,
    fun _ hw => takes_error hK (.refl _ _) hw, fun _ _ h => h.elim⟩

variable (hE : AllLegal A E) (hg : Good A t.mObjects)
include hE hg

/-- Without data the image is created at once. -/
theorem serves_createImage {p : CreateImage} (hp : p.mFlags.toUInt64 &&& CL_MEM_COPY_HOST_PTR = 0) :
    Serves E A takes (some (.getOrInsertObject, .memObject)) ErrorReply IDReply
      (ServerInstance.createImage B) t (packet p) := by
  refine serves_readPacket_last (by decide) (reads_dec _) (serves_getObj ?_)
  simp only [if_neg (not_not.mpr hp)]
  exact serves_memObject hE hg rfl

/-- With data the image is created twice. -/
theorem settles_copyImage (hz : SameFormat C.zlib B.zlib) {K : ClientM Ret → ClientM Ret}
    (hK : Guard K) {p : CreateImage} (hp : p.mFlags.toUInt64 &&& CL_MEM_COPY_HOST_PTR ≠ 0)
    {ptr : Bytes} {errcode_ret : Bool} :
    Settles E (ServerInstance.serve B) (Final B A (Effect E List.length truncates s t e))
      ⟨⟨K (PacketStream.readPacket (SimplePacket .payload UInt32) >>= fun dataSize =>
          PacketStream.write .payload
            (encPayloadPtr C.zlib .uint32 (memRead ptr dataSize.mData.toNat)) >>= fun _ =>
          PacketStream.flush >>= fun _ => awaitMemObject errcode_ret), s, []⟩,
        ⟨ServerInstance.serve B, t, []⟩, packet p, [], e⟩ := by
  have hhandler : ServerInstance.handler B .createImage = some _ := rfl
  refine (settles_dispatch hhandler rfl).mpr ?_
  rw [← List.append_nil (packet p), ServerInstance.createImage]
  refine (settles_server_meets_packet stable_final context_handler (by decide)).mpr ?_
  refine (settles_server_get stable_final context_handler).mpr ?_
  refine (settles_server_ask stable_final context_handler).mpr fun a e₁ ha => ?_
  have hcreated : Asks E e [⟨.create _, a⟩] e₁ := .cons ha .nil
  simp only [if_pos hp]
  by_cases herr : a.err ≠ CL_SUCCESS
  · rw [if_pos herr]
    have hquiet : named (.create _) a = [] := if_neg herr
    exact settles_rest hcreated (namingsOf_eq_nil rfl hquiet) (agree_writeError hK herr)
  rw [if_neg herr]
  refine (settles_server_ask stable_final context_handler).mpr fun b e₂ hb => ?_
  have hasked := hcreated.append (.cons hb .nil)
  have hquiet : ∀ q, namingsOf List.length t.mObjects
      [⟨.create q, a⟩, ⟨.info (.clGetImageInfo a.object CL_IMAGE_ELEMENT_SIZE) 8, b⟩] = [] :=
    fun _ => namingsOf_info_eq_nil rfl rfl
  by_cases herr' : b.err ≠ CL_SUCCESS
  · rw [if_pos herr']
    exact settles_rest hasked (hquiet _) (agree_writeError hK herr')
  rw [if_neg herr']
  exact settles_imageData hz hK hasked (hquiet _) fun data =>
    serves_ignored fun _ => serves_memObject hE hg rfl

/-- The size of the data is not asked for when there is none to be sent. -/
theorem completes_clCreateImage (hz : SameFormat C.zlib B.zlib) (context : Option Handle)
    (flags : UInt64) (image_format image_desc : Bool) (desc : ImageDesc) (host_ptr : Option Bytes)
    (errcode_ret : Bool) :
    Completes E B A List.length truncates
      (clCreateImage C context flags image_format image_desc desc host_ptr errcode_ret) s t
      e := by
  unfold clCreateImage
  split
  · exact completes_returnError _ _ _
  split
  · exact completes_returnError _ _ _
  split
  · exact completes_returnError _ _ _
  split
  · exact completes_returnError _ _ _
  split
  · exact completes_returnError _ _ _
  have hK := guard_catchingError .memObject errcode_ret CL_DEVICE_NOT_AVAILABLE
  rw [Completes, start, settles_client_writePacket stable_final hK.context,
    settles_client_flushes stable_final hK.context, List.nil_append, List.nil_append]
  have hflag := copy_flag_toUInt32 flags
  by_cases hcopy : flags &&& CL_MEM_COPY_HOST_PTR = 0
  · rw [if_neg (not_not.mpr hcopy)]
    exact settles_memObject hK rfl rfl (serves_createImage hE hg (hflag.trans hcopy))
  · rw [if_pos hcopy]
    exact settles_copyImage hE hg hz hK (fun h => hcopy (hflag.symm.trans h))

end Creation

/-! ## Where a call can end -/

variable (E B) in
/-- Every run of the call comes to rest, and leaves nothing unread in either direction. -/
def InStep (p : ClientM Ret) (s : ClientState) (t : ServerState) (e : δ) : Prop :=
  Settles E (ServerInstance.serve B) (AtRest B fun _ _ _ _ => True) (start B p s t e)

/-- A configuration from which the call comes to rest. -/
abbrev Rests (E : δ → (c : ServerCall) → Ans c → δ → Prop) (B : ServerBuild)
    (x : CallConfig δ) : Prop :=
  Settles E (ServerInstance.serve B) (Final B ∅ fun _ _ _ _ => True) x

theorem inStep_iff_rests {p : ClientM Ret} : InStep E B p s t e ↔ Rests E B (start B p s t e) :=
  ⟨Settles.mono fun x => (final_empty x).mpr, Settles.mono fun x => (final_empty x).mp⟩

/-- A call that has returned is over if nothing is left for it to read. -/
theorem rests_returned {r : Ret} {d : Bytes} :
    Rests E B ⟨⟨.ret r, s, []⟩, ⟨ServerInstance.serve B, t, []⟩, [], d, e⟩ ↔ d = [] :=
  settles_returned.trans (and_iff_left trivial)

/-- A client that can do nothing but wait for more. -/
def Blocked (c : Side ClientState Exn Empty NoAnswer Ret) : Prop := ¬ Ready c.prog []

theorem waits_blocked {c : Side ClientState Exn Empty NoAnswer Ret} (h : Waits c) : Blocked c := by
  obtain ⟨q, s, rfl⟩ := h
  exact fun h => absurd h (by simp [Ready])

/-- A server that has stopped does not answer. -/
theorem not_rests_stopped {c : Side ClientState Exn Empty NoAnswer Ret} (hc : Blocked c)
    {p : ServerM Bool} (hp : ∀ u, ¬ Ready p u) (hagain : p ≠ .ret true) {o u : Bytes} :
    ¬ Rests E B ⟨c, ⟨p, t, o⟩, u, [], e⟩ := by
  refine not_settles_stopped hc (hp u) hagain ?_
  rintro rfl
  obtain ⟨k, hserve⟩ := serve_eq_peek (B := B)
  rw [hserve] at hp
  exact hp [0] (List.cons_ne_nil _ _)

/-! ## Steps of a handler -/

section Server

variable {c : Side ClientState Exn Empty NoAnswer Ret} {o u d : Bytes}

/-- The context of a handler. -/
abbrev handling (p : ServerM Unit) : ServerM Bool :=
  ServerInstance.iteration (p >>= fun _ => pure true)

/-- A reply of one packet ends the request. -/
theorem rests_reply {ty : PacketType} {w : Bytes} :
    Rests E B ⟨c, ⟨handling (PacketStream.write ty w), t, o⟩, u, d, e⟩ ↔
      Rests E B ⟨c, ⟨ServerInstance.serve B, t, []⟩, u, d ++ (o ++ PacketStream.frame ty w), e⟩ :=
  settles_replied

/-- The ID of an object is written, or searched for without end. -/
theorem settles_writeID {F : CallConfig δ → Prop} (hF : Stable E (ServerInstance.serve B) F)
    {p : Ptr} {k : Unit → ServerM Unit} :
    Settles E (ServerInstance.serve B) F
        ⟨c, ⟨handling (ServerInstance.writeID p >>= k), t, o⟩, u, d, e⟩ ↔
      match assignID t.mObjects p with
      | some (id, mObjects) => Settles E (ServerInstance.serve B) F
          ⟨c, ⟨handling (k ()), { t with mObjects }, o ++ packet (⟨id⟩ : IDPacket)⟩, u, d, e⟩
      | none => Settles E (ServerInstance.serve B) F ⟨c, ⟨.spin, t, o⟩, u, d, e⟩ := by
  rw [ServerInstance.writeID, ServerInstance.getIDFor]
  simp only [bind_assoc]
  refine (settles_server_get hF context_handler).trans ?_
  cases assignID t.mObjects p with
  | none => exact Iff.rfl
  | some a =>
    refine (settles_server_put (k := fun _ => PacketStream.writePacket (⟨a.1⟩ : IDPacket) >>= k)
      hF context_handler).trans ?_
    exact settles_server_writePacket hF context_handler

/-- The ID of an object is written, if there is one. -/
theorem rests_writeID (hc : Blocked c) {p : Ptr} {k : Unit → ServerM Unit} :
    Rests E B ⟨c, ⟨handling (ServerInstance.writeID p >>= k), t, o⟩, u, [], e⟩ ↔
      ∃ id mObjects, assignID t.mObjects p = some (id, mObjects) ∧
        Rests E B ⟨c, ⟨handling (k ()), { t with mObjects },
          o ++ packet (⟨id⟩ : IDPacket)⟩, u, [], e⟩ := by
  refine (settles_writeID stable_final).trans ?_
  cases hid : assignID t.mObjects p with
  | none =>
    have hspin : ¬ Rests E B ⟨c, ⟨.spin, t, o⟩, u, [], e⟩ :=
      not_rests_stopped (p := .spin) hc (fun _ h => h) fun h => by cases h
    refine iff_of_false hspin ?_
    rintro ⟨id, mObjects, h, -⟩
    cases h
  | some a =>
    constructor
    · exact fun h => ⟨a.1, a.2, rfl, h⟩
    · rintro ⟨id, mObjects, heq, h⟩
      obtain rfl := Option.some.inj heq
      exact h

end Server

/-! ## Errors -/

section Errors

variable {F : CallConfig δ → Prop} (hF : Stable E (ServerInstance.serve B) F)
variable {server : Side ServerState Exn ServerCall Ans Bool} {u : Bytes}
variable {err badAlloc others : Int32}
include hF

/-- The client meets an error, whatever it waits for. -/
theorem settles_error {α : Type} {ty : PacketType} {r : Reader α} {k : α → ClientM Ret} :
    Settles E (ServerInstance.serve B) F
        ⟨⟨catching badAlloc others (PacketStream.read ty r >>= k), s, []⟩, server, u,
          packet (⟨err⟩ : ErrorPacket), e⟩ ↔
      Settles E (ServerInstance.serve B) F ⟨⟨.ret (.code err), s, []⟩, server, u, [], e⟩ := by
  rw [← List.append_nil (packet (⟨err⟩ : ErrorPacket))]
  exact settles_client_meets_error hF (context_catching badAlloc others) _

theorem settles_error_event {args : WaitArgs} {α : Type} {ty : PacketType} {r : Reader α}
    {k : α → ClientM Ret} :
    Settles E (ServerInstance.serve B) F
        ⟨⟨catching badAlloc others (awaitEvent args >>= fun _ => PacketStream.read ty r >>= k),
          s, []⟩, server, u, packet (⟨err⟩ : ErrorPacket), e⟩ ↔
      Settles E (ServerInstance.serve B) F ⟨⟨.ret (.code err), s, []⟩, server, u, [], e⟩ := by
  rw [awaitEvent]
  cases args.event with
  | false => exact settles_error hF
  | true =>
    rw [if_pos rfl, bind_assoc]
    exact settles_error hF

end Errors

/-! ## The start of a transfer -/

/-- The question for the size of a pixel. -/
abbrev elementSizeOf (image : Ptr) : ServerCall :=
  .info (.clGetImageInfo image CL_IMAGE_ELEMENT_SIZE) 8

/-- The request has arrived, and the driver is asked for the size of a pixel. -/
theorem settles_elementSize {F : CallConfig δ → Prop} (hF : Stable E (ServerInstance.serve B) F)
    {ty : PacketType} (hty : Ordinary ty) {p : ImageRW ty} {h : ServerM Unit}
    (hh : ServerInstance.handler B ty = some h) {k : ImageRW ty → Ptr → InfoAns → ServerM Unit}
    (hdef : h = PacketStream.readPacket (ImageRW ty) >>= fun packet =>
      ServerInstance.getObj packet.mImageID >>= fun image =>
        ServerInstance.info (.clGetImageInfo image CL_IMAGE_ELEMENT_SIZE) 8 >>= fun a =>
          if a.err ≠ CL_SUCCESS then ServerInstance.writeError a.err else k packet image a)
    {c : Side ClientState Exn Empty NoAnswer Ret} {u : Bytes} :
    Settles E (ServerInstance.serve B) F
        ⟨c, ⟨ServerInstance.serve B, t, []⟩, packet p ++ u, [], e⟩ ↔
      ∀ a e₁, E e (elementSizeOf (objectAt t.mObjects p.mImageID)) a e₁ →
        Settles E (ServerInstance.serve B) F
          ⟨c, ⟨handling (if a.err ≠ CL_SUCCESS then ServerInstance.writeError a.err
            else k p (objectAt t.mObjects p.mImageID) a), t, []⟩, u, [], e₁⟩ := by
  subst hdef
  refine (settles_dispatches hF hh rfl).trans ?_
  refine (settles_server_meets_packet hF context_handler hty).trans ?_
  refine (settles_server_get hF context_handler).trans ?_
  exact settles_server_ask hF context_handler

/-- An error of the query is harmless if no events follow. -/
theorem rests_elementSize {ty : PacketType} (hty : Ordinary ty) {p : ImageRW ty}
    {h : ServerM Unit} (hh : ServerInstance.handler B ty = some h)
    {k : ImageRW ty → Ptr → InfoAns → ServerM Unit}
    (hdef : h = PacketStream.readPacket (ImageRW ty) >>= fun packet =>
      ServerInstance.getObj packet.mImageID >>= fun image =>
        ServerInstance.info (.clGetImageInfo image CL_IMAGE_ELEMENT_SIZE) 8 >>= fun a =>
          if a.err ≠ CL_SUCCESS then ServerInstance.writeError a.err else k packet image a)
    {c : Side ClientState Exn Empty NoAnswer Ret} {s : ClientState}
    (hc : ∀ err server u e, Rests E B ⟨c, server, u, packet (⟨err⟩ : ErrorPacket), e⟩ ↔
      Rests E B ⟨⟨.ret (.code err), s, []⟩, server, u, [], e⟩) {args : WaitArgs}
    {ids : List IDType} :
    Rests E B ⟨c, ⟨ServerInstance.serve B, t, []⟩, packet p ++ eventPacket args ids, [], e⟩ ↔
      ∀ a e₁, E e (elementSizeOf (objectAt t.mObjects p.mImageID)) a e₁ →
        if a.err = CL_SUCCESS then
          Rests E B ⟨c, ⟨handling (k p (objectAt t.mObjects p.mImageID) a), t, []⟩,
            eventPacket args ids, [], e₁⟩
        else args.expectEventList = false := by
  refine (settles_elementSize stable_final hty hh hdef).trans ?_
  refine forall_congr' fun a => forall_congr' fun e₁ => imp_congr_right fun _ => ?_
  by_cases herr : a.err = CL_SUCCESS
  · rw [if_pos herr, if_neg (not_not.mpr herr)]
  rw [if_neg herr, if_pos herr]
  refine rests_reply.trans ((hc _ _ _ _).trans ?_)
  rw [eventPacket]
  cases args.expectEventList with
  | false => exact iff_of_true (rests_returned.mpr rfl) rfl
  | true =>
    refine iff_of_false (fun h => ?_) Bool.noConfusion
    have hhandler : ServerInstance.handler B .idList = none := rfl
    have hleft := (settles_notRequest stable_final (by decide) hhandler rfl).mp h
    exact not_rests_stopped (c := ⟨.ret (.code a.err), s, []⟩) (p := .ret false) (fun h => h)
      (fun _ h => h) (fun h => by cases h) hleft

/-! ## Reading -/

/-- The command that the server enqueues. -/
def readCommand (t : ServerState) (p : ReadImage) (ids : List IDType) : Enqueue :=
  { queue := objectAt t.mObjects p.mQueueID
    events := ids.map (objectAt t.mObjects)
    wantEvent := p.mWantEvent
    command := .clEnqueueReadImage (objectAt t.mObjects p.mImageID) p.mBlock p.mOrigin p.mRegion
      p.mRowPitch p.mSlicePitch }

/-- The number of bytes that the server reads, when the driver has told it the size of a pixel. -/
def sizeOfRead (p : ReadImage) (a : InfoAns) : ℕ :=
  ServerInstance.imageSize (wordAt (storeInto (zeros 8) a.data)) p.mRegion

variable (E B) in
/-- The answers that a read can cope with: the size of a pixel is known, unless there are no events
to wait for; there can be a vector for the data; there is an ID for the event; and if the data is
compressed, it is then small enough for a payload. -/
def ReadSafe (t : ServerState) (e : δ) (p : ReadImage) (ids : List IDType) : Prop :=
  ∀ a e₁, E e (elementSizeOf (objectAt t.mObjects p.mImageID)) a e₁ →
    if a.err = CL_SUCCESS then
      sizeOfRead p a ≤ ServerInstance.vectorMaxSize ∧
        ∀ b e₂, E e₁ (.enqueue (readCommand t p ids)) b e₂ → b.err = CL_SUCCESS →
          (p.mWantEvent = true → assignID t.mObjects b.event ≠ none) ∧
            CompressedFits B.zlib .uint32 (storeInto (zeros (sizeOfRead p a)) b.data)
    else p.mExpectEventList = false

/-- The ID of the event, if one was asked for. -/
def EventPrefix (want : Bool) (w : Bytes) : Prop :=
  if want then ∃ id, w = packet (⟨id⟩ : IDPacket) else w = []

theorem eventPrefix_nil {want : Bool} (hwant : want = false) : EventPrefix want [] := by
  rw [EventPrefix, hwant, if_neg Bool.false_ne_true]

theorem eventPrefix_packet {want : Bool} (hwant : want = true) (id : IDType) :
    EventPrefix want (packet (⟨id⟩ : IDPacket)) := by
  rw [EventPrefix, hwant, if_pos rfl]
  exact ⟨id, rfl⟩

/-- The client takes the event in. -/
theorem settles_awaitEvent {F : CallConfig δ → Prop} (hF : Stable E (ServerInstance.serve B) F)
    {args : WaitArgs} {w : Bytes} (hw : EventPrefix args.event w) (badAlloc others : Int32)
    (k : Unit → ClientM Ret) (s : ClientState) :
    ∃ s', ∀ (server : Side ServerState Exn ServerCall Ans Bool) (u d : Bytes) (e : δ),
      Settles E (ServerInstance.serve B) F
          ⟨⟨catching badAlloc others (awaitEvent args >>= k), s, []⟩, server, u, w ++ d, e⟩ ↔
        Settles E (ServerInstance.serve B) F
          ⟨⟨catching badAlloc others (k ()), s', []⟩, server, u, d, e⟩ := by
  have hK := context_catching badAlloc others
  rw [EventPrefix] at hw
  rw [awaitEvent]
  cases hevent : args.event with
  | false =>
    rw [hevent, if_neg Bool.false_ne_true] at hw
    subst hw
    exact ⟨s, fun _ _ _ _ => Iff.rfl⟩
  | true =>
    rw [hevent, if_pos rfl] at hw
    obtain ⟨id, rfl⟩ := hw
    rw [if_pos rfl, bind_assoc]
    refine ⟨(s.registerID .event id).2.note (.store (.event (s.registerID .event id).1)),
      fun server u d e => ?_⟩
    refine (settles_client_meets_packet hF hK (by decide)).trans ?_
    simp only [registerID, resolve, bind_assoc]
    refine (settles_client_get hF hK).trans ?_
    refine (settles_client_put hF hK).trans ?_
    exact settles_client_modify hF hK

/-- The data arrives, and what is left behind is left for ever. -/
theorem rests_data (hz : SameFormat B.zlib C.zlib) {args : WaitArgs} {w data : Bytes}
    (hw : EventPrefix args.event w) :
    Rests E B ⟨⟨catching CL_OUT_OF_HOST_MEMORY CL_DEVICE_NOT_AVAILABLE (awaitEvent args >>= fun _ =>
        PacketStream.read .payload (decPayloadInto C.zlib .uint32) >>= fun data =>
          store true (.ptr data) >>= fun _ => pure (.code CL_SUCCESS)), s, []⟩,
        ⟨ServerInstance.serve B, t, []⟩, [],
        w ++ PacketStream.frame .payload (encPayload B.zlib .uint32 data), e⟩ ↔
      CompressedFits B.zlib .uint32 data := by
  have hK := context_catching CL_OUT_OF_HOST_MEMORY CL_DEVICE_NOT_AVAILABLE
  obtain ⟨x, a, rest, henc, hread, hrest⟩ :=
    exists_reads_encPayload hz (show compressionSizeThreshold ≤ SizeT.range .uint32 by decide) data
  obtain ⟨s', hevent⟩ := settles_awaitEvent (E := E) (B := B) stable_final hw _ _ _ s
  refine (hevent _ _ _ _).trans ?_
  rw [henc]
  refine (settles_client_meets stable_final hK hread (by decide)).trans ?_
  refine (settles_client_modify stable_final hK).trans ?_
  exact rests_returned.trans hrest

theorem blocked_event {badAlloc others : Int32} {args : WaitArgs} {α : Type} {ty : PacketType}
    {r : Reader α} {k : α → ClientM Ret} {s : ClientState} :
    Blocked ⟨catching badAlloc others (awaitEvent args >>= fun _ =>
      PacketStream.read ty r >>= k), s, []⟩ := by
  have hwaits := waits_event (context_catching badAlloc others) args ty r k s
  exact waits_blocked hwaits

theorem handling_resize_of_gt {n : ℕ} (h : ¬ n ≤ ServerInstance.vectorMaxSize)
    {k : Unit → ServerM Unit} :
    handling (ServerInstance.resize 1 n >>= k) = .throw .other := by
  rw [ServerInstance.resize, if_neg (by rwa [one_mul])]
  rfl

theorem resize_bind {n : ℕ} (h : n ≤ ServerInstance.vectorMaxSize) {k : Unit → ServerM Unit} :
    ServerInstance.resize 1 n >>= k = k () := by
  rw [ServerInstance.resize, if_pos (by rwa [one_mul])]
  rfl

/-- **A read** comes to rest exactly if it can cope with the answers of the driver. -/
theorem rests_readImage (hz : SameFormat B.zlib C.zlib) {args : WaitArgs} {ids : List IDType}
    (hids : args.eventIDs = .ok ids) (hlen : args.num_events_in_wait_list ≤ 255) {p : ReadImage}
    (hevent : p.mWantEvent = args.event) (hexpect : p.mExpectEventList = args.expectEventList) :
    Rests E B ⟨⟨catching CL_OUT_OF_HOST_MEMORY CL_DEVICE_NOT_AVAILABLE (awaitEvent args >>= fun _ =>
        PacketStream.read .payload (decPayloadInto C.zlib .uint32) >>= fun data =>
          store true (.ptr data) >>= fun _ => pure (.code CL_SUCCESS)), s, []⟩,
        ⟨ServerInstance.serve B, t, []⟩, packet p ++ eventPacket args ids, [], e⟩ ↔
      ReadSafe E B t e p ids := by
  refine (rests_elementSize (by decide) rfl rfl
    fun _ _ _ _ => settles_error_event stable_final).trans ?_
  refine forall_congr' fun a => forall_congr' fun e₁ => imp_congr_right fun _ => ?_
  by_cases herr : a.err = CL_SUCCESS
  swap
  · rw [if_neg herr, if_neg herr, hexpect]
  rw [if_pos herr, if_pos herr, hexpect, ← List.append_nil (eventPacket args ids)]
  refine (settles_readEvents hids hlen).trans ?_
  refine (settles_server_get stable_final context_handler).trans ?_
  show Rests E B ⟨_, ⟨handling (ServerInstance.resize 1 (sizeOfRead p a) >>= _), t, []⟩, [], [],
    e₁⟩ ↔ _
  by_cases hsize : sizeOfRead p a ≤ ServerInstance.vectorMaxSize
  swap
  · rw [handling_resize_of_gt hsize]
    refine iff_of_false ?_ fun h => hsize h.1
    exact not_rests_stopped (p := .throw .other) blocked_event (fun _ h => h) fun h => by cases h
  rw [resize_bind hsize, and_iff_right hsize]
  refine (settles_server_ask stable_final context_handler).trans ?_
  refine forall_congr' fun b => forall_congr' fun e₂ => imp_congr_right fun _ => ?_
  show Rests E B ⟨_, ⟨handling (if b.err ≠ CL_SUCCESS then _ else _), t, []⟩, [], [], e₂⟩ ↔ _
  by_cases hb : b.err = CL_SUCCESS
  swap
  · rw [if_pos hb]
    refine iff_of_true ?_ fun h => absurd h hb
    exact rests_reply.mpr ((settles_error_event stable_final).mpr (rests_returned.mpr rfl))
  rw [if_neg (not_not.mpr hb), imp_iff_right hb, ServerInstance.replyEvent, hevent]
  cases hwant : args.event with
  | false =>
    rw [if_neg Bool.false_ne_true]
    refine rests_reply.trans ((rests_data hz (eventPrefix_nil hwant)).trans ?_)
    exact (and_iff_right fun h => Bool.noConfusion h).symm
  | true =>
    rw [if_pos rfl, imp_iff_right rfl]
    have hlead := eventPrefix_packet hwant
    refine (rests_writeID blocked_event).trans ⟨?_, ?_⟩
    · rintro ⟨id, mObjects, hid, h⟩
      refine ⟨fun hnone => ?_, (rests_data hz (hlead id)).mp (rests_reply.mp h)⟩
      rw [hid] at hnone
      cases hnone
    · rintro ⟨hsome, hfits⟩
      obtain ⟨⟨id, mObjects⟩, hid⟩ := Option.ne_none_iff_exists'.mp hsome
      exact ⟨id, mObjects, hid, rests_reply.mpr ((rests_data hz (hlead id)).mpr hfits)⟩

/-! ## Writing -/

/-- The command that the server enqueues, with the data that the client has sent. -/
def writeCommandOf (t : ServerState) (p : WriteImage) (ids : List IDType) (data : Bytes) :
    Enqueue :=
  { queue := objectAt t.mObjects p.mQueueID
    events := ids.map (objectAt t.mObjects)
    wantEvent := p.mWantEvent
    command := .clEnqueueWriteImage (objectAt t.mObjects p.mImageID) p.mBlock p.mOrigin p.mRegion
      p.mRowPitch p.mSlicePitch data }

/-- The data that the client sends, when it has been told how much. -/
def dataOfWrite (p : WriteImage) (a : InfoAns) (ptr : Bytes) : Bytes :=
  memRead ptr (UInt32.ofNat
    (ServerInstance.imageSize (wordAt (storeInto (zeros 8) a.data)) p.mRegion)).toNat

variable (E) in
/-- The answers that a write can cope with. -/
def WriteSafe (t : ServerState) (e : δ) (p : WriteImage) (ids : List IDType) (ptr : Bytes) : Prop :=
  ∀ a e₁, E e (elementSizeOf (objectAt t.mObjects p.mImageID)) a e₁ →
    if a.err = CL_SUCCESS then
      ∀ b e₂, E e₁ (.enqueue (writeCommandOf t p ids (dataOfWrite p a ptr))) b e₂ →
        b.err = CL_SUCCESS → p.mWantEvent = true → assignID t.mObjects b.event ≠ none
    else p.mExpectEventList = false

/-- The end of a write, as the client sees it. -/
abbrev awaitWritten (args : WaitArgs) : ClientM Ret :=
  if args.event then awaitEvent args >>= fun _ => pure (.code CL_SUCCESS)
  else PacketStream.readPacket SuccessPacket >>= fun _ => pure (.code CL_SUCCESS)

section Written

variable {badAlloc others err : Int32} {args : WaitArgs}
variable {server : Side ServerState Exn ServerCall Ans Bool} {u : Bytes}

theorem settles_error_written {F : CallConfig δ → Prop}
    (hF : Stable E (ServerInstance.serve B) F) :
    Settles E (ServerInstance.serve B) F
        ⟨⟨catching badAlloc others (awaitWritten args), s, []⟩, server, u,
          packet (⟨err⟩ : ErrorPacket), e⟩ ↔
      Settles E (ServerInstance.serve B) F ⟨⟨.ret (.code err), s, []⟩, server, u, [], e⟩ := by
  rw [awaitWritten, awaitEvent]
  cases args.event with
  | false => exact settles_error hF
  | true =>
    rw [if_pos rfl, if_pos rfl, bind_assoc]
    exact settles_error hF

theorem waits_written : Waits ⟨catching badAlloc others (awaitWritten args), s, []⟩ := by
  rw [awaitWritten, awaitEvent]
  cases args.event with
  | false => exact waits_readPacket (context_catching _ _) _ _ _
  | true =>
    rw [if_pos rfl, if_pos rfl, bind_assoc]
    exact waits_readPacket (context_catching _ _) _ _ _

theorem blocked_written : Blocked ⟨catching badAlloc others (awaitWritten args), s, []⟩ :=
  waits_blocked waits_written

end Written

/-- **A write** comes to rest exactly if it can cope with the answers of the driver. -/
theorem rests_writeImage (hz : SameFormat C.zlib B.zlib) {args : WaitArgs} {ids : List IDType}
    (hids : args.eventIDs = .ok ids) (hlen : args.num_events_in_wait_list ≤ 255) {p : WriteImage}
    (hevent : p.mWantEvent = args.event) (hexpect : p.mExpectEventList = args.expectEventList)
    (ptr : Bytes) :
    Rests E B ⟨⟨catching CL_OUT_OF_HOST_MEMORY CL_DEVICE_NOT_AVAILABLE
        (PacketStream.readPacket (SimplePacket .payload UInt32) >>= fun dataSize =>
          PacketStream.write .payload
            (encPayloadPtr C.zlib .uint32 (memRead ptr dataSize.mData.toNat)) >>= fun _ =>
          PacketStream.flush >>= fun _ => awaitWritten args), s, []⟩,
        ⟨ServerInstance.serve B, t, []⟩, packet p ++ eventPacket args ids, [], e⟩ ↔
      WriteSafe E t e p ids ptr := by
  have hK := context_catching CL_OUT_OF_HOST_MEMORY CL_DEVICE_NOT_AVAILABLE
  refine (rests_elementSize (by decide) rfl rfl fun _ _ _ _ => settles_error stable_final).trans ?_
  refine forall_congr' fun a => forall_congr' fun e₁ => imp_congr_right fun _ => ?_
  by_cases herr : a.err = CL_SUCCESS
  swap
  · rw [if_neg herr, if_neg herr, hexpect]
  rw [if_pos herr, if_pos herr, hexpect, ← List.append_nil (eventPacket args ids)]
  refine (settles_readEvents hids hlen).trans ?_
  refine (settles_server_get stable_final context_handler).trans ?_
  refine (settles_server_writePacket stable_final context_handler).trans ?_
  refine (settles_server_flushes stable_final context_handler).trans ?_
  -- the client is told how much to send, and sends it
  show Rests E B ⟨_, _, [], packet (⟨UInt32.ofNat
    (ServerInstance.imageSize (wordAt (storeInto (zeros 8) a.data)) p.mRegion)⟩ :
      SimplePacket .payload UInt32), e₁⟩ ↔ _
  rw [← List.append_nil (packet _)]
  refine (settles_client_meets_packet stable_final hK (show Ordinary .payload by decide)).trans ?_
  refine (settles_client_write stable_final hK).trans ?_
  refine (settles_client_flushes stable_final hK).trans ?_
  have hdata : (dataOfWrite p a ptr).length < SizeT.range .uint32 := by
    rw [dataOfWrite, length_memRead]
    exact UInt32.toNat_lt _
  show Rests E B ⟨_, _, PacketStream.frame .payload
    (encPayloadPtr C.zlib .uint32 (dataOfWrite p a ptr)), [], e₁⟩ ↔ _
  rw [← List.append_nil (PacketStream.frame _ _), encPayloadPtr_eq _ hdata]
  refine (settles_server_meets stable_final context_handler
    (reads_decPayload hz hdata (payloadForm_encPayload _ hdata)) (by decide)).trans ?_
  refine (settles_server_ask stable_final context_handler).trans ?_
  refine forall_congr' fun b => forall_congr' fun e₂ => imp_congr_right fun _ => ?_
  show Rests E B ⟨⟨catching _ _ (awaitWritten args), s, []⟩,
    ⟨handling (if b.err ≠ CL_SUCCESS then _ else
      if p.mWantEvent then ServerInstance.writeID b.event else ServerInstance.writeSuccess), t, []⟩,
    [], [], e₂⟩ ↔ _
  by_cases hb : b.err = CL_SUCCESS
  swap
  · rw [if_pos hb]
    refine iff_of_true (rests_reply.mpr ?_) fun h => absurd h hb
    exact (settles_error_written stable_final).mpr (rests_returned.mpr rfl)
  rw [if_neg (not_not.mpr hb), imp_iff_right hb, hevent, awaitWritten]
  cases hwant : args.event with
  | false =>
    rw [if_neg Bool.false_ne_true, if_neg Bool.false_ne_true]
    refine iff_of_true (rests_reply.mpr ?_) fun h => Bool.noConfusion h
    exact (settles_client_meets_packet (p := (⟨⟩ : SuccessPacket)) stable_final hK
      (by decide)).mpr (rests_returned.mpr rfl)
  | true =>
    have hblocked : Blocked ⟨catching CL_OUT_OF_HOST_MEMORY CL_DEVICE_NOT_AVAILABLE
      (awaitWritten args), s, []⟩ := blocked_written
    rw [awaitWritten, hwant, if_pos rfl] at hblocked
    rw [if_pos rfl, if_pos rfl, imp_iff_right rfl, ← bind_pure (ServerInstance.writeID b.event)]
    have htaken : ∀ {id : IDType} {mObjects : List Ptr},
        Rests E B ⟨⟨catching CL_OUT_OF_HOST_MEMORY CL_DEVICE_NOT_AVAILABLE
          (awaitEvent args >>= fun _ => pure (.code CL_SUCCESS)), s, []⟩,
          ⟨ServerInstance.serve B, { t with mObjects }, []⟩, [], packet (⟨id⟩ : IDPacket), e₂⟩ := by
      intro id mObjects
      rw [← List.append_nil (packet _)]
      obtain ⟨s', htake⟩ := settles_awaitEvent (E := E) (B := B) stable_final
        (eventPrefix_packet hwant id) _ _ _ s
      exact (htake _ _ _ _).mpr (rests_returned.mpr rfl)
    refine (rests_writeID hblocked).trans ⟨?_, fun hsome => ?_⟩
    · rintro ⟨id, mObjects, hid, -⟩ hnone
      rw [hid] at hnone
      cases hnone
    · obtain ⟨⟨id, mObjects⟩, hid⟩ := Option.ne_none_iff_exists'.mp hsome
      exact ⟨id, mObjects, hid, settles_handled.mpr htaken⟩

/-! ## Transfers -/

/-- A call of one of the two functions that transfer images. -/
inductive ImageCall where
  | clEnqueueReadImage (command_queue image : Option Handle) (blocking_read : Bool)
      (rect : ImageArgs) (args : WaitArgs)
  | clEnqueueWriteImage (command_queue image : Option Handle) (blocking_write : Bool)
      (rect : ImageArgs) (ptr : Bytes) (args : WaitArgs)
  deriving DecidableEq

namespace ImageCall

/-- The program of a call. -/
def call (C : Build) : ImageCall → ClientM Ret
  | clEnqueueReadImage queue image block rect args =>
    Client.clEnqueueReadImage C queue image block rect args
  | clEnqueueWriteImage queue image block rect ptr args =>
    Client.clEnqueueWriteImage C queue image block rect ptr args

def args : ImageCall → WaitArgs
  | clEnqueueReadImage _ _ _ _ args => args
  | clEnqueueWriteImage _ _ _ _ _ args => args

variable (E B) in
/-- If the call sends a request, it can cope with the answers of the driver. -/
def Safe (t : ServerState) (e : δ) : ImageCall → Prop
  | clEnqueueReadImage queue image block rect args => ∀ q m ids, queue = some q →
      image = some m → args.eventIDs = .ok ids →
        ReadSafe E B t e (imagePacket .readImage q m block rect args) ids
  | clEnqueueWriteImage queue image block rect ptr args => ∀ q m ids, queue = some q →
      image = some m → args.eventIDs = .ok ids →
        WriteSafe E t e (imagePacket .writeImage q m block rect args) ids ptr

end ImageCall

/-- A call that passes the checks of the client, or does not. -/
theorem rests_withEvents {queue image : Option Handle} {args : WaitArgs}
    {p : Handle → Handle → List IDType → ClientM Ret} {Q : Handle → Handle → List IDType → Prop}
    (h : ∀ q m ids, args.eventIDs = .ok ids →
      (Rests E B (start B (catching CL_OUT_OF_HOST_MEMORY CL_DEVICE_NOT_AVAILABLE (p q m ids)) s t
        e) ↔ Q q m ids)) :
    Rests E B (start B (withEvents queue image args p) s t e) ↔
      ∀ q m ids, queue = some q → image = some m → args.eventIDs = .ok ids → Q q m ids := by
  cases queue with
  | none => exact iff_of_true (settles_return trivial) fun _ _ _ h => nomatch h
  | some q =>
    cases image with
    | none => exact iff_of_true (settles_return trivial) fun _ _ _ _ h => nomatch h
    | some m =>
      rw [withEvents]
      cases hids : args.eventIDs with
      | error err => exact iff_of_true (settles_return trivial) fun _ _ _ _ _ h => nomatch h
      | ok ids =>
        refine (h q m ids hids).trans ⟨?_, fun h => h q m ids rfl rfl rfl⟩
        rintro h _ _ _ ⟨⟩ ⟨⟩ ⟨⟩
        exact h

theorem ImageCall.rests_iff (hzB : SameFormat B.zlib C.zlib) (hzC : SameFormat C.zlib B.zlib)
    (call : ImageCall) (hevents : call.args.num_events_in_wait_list ≤ 255) :
    Rests E B (start B (call.call C) s t e) ↔ call.Safe E B t e := by
  have hK := context_catching CL_OUT_OF_HOST_MEMORY CL_DEVICE_NOT_AVAILABLE
  cases call with
  | clEnqueueReadImage queue image block rect args =>
    refine rests_withEvents fun q m ids hids => ?_
    refine (settles_writeCommand stable_final hK).trans ?_
    refine (settles_client_flushes stable_final hK).trans ?_
    exact rests_readImage hzB hids hevents rfl rfl
  | clEnqueueWriteImage queue image block rect ptr args =>
    refine rests_withEvents fun q m ids hids => ?_
    refine (settles_writeCommand stable_final hK).trans ?_
    refine (settles_client_flushes stable_final hK).trans ?_
    exact rests_writeImage hzC hids hevents rfl rfl ptr

/-- **An image transfer stays in step exactly if it can cope with the answers of the driver.** -/
theorem ImageCall.inStep_iff (hzB : SameFormat B.zlib C.zlib) (hzC : SameFormat C.zlib B.zlib)
    (call : ImageCall) (hevents : call.args.num_events_in_wait_list ≤ 255) (s : ClientState)
    (t : ServerState) (e : δ) : InStep E B (call.call C) s t e ↔ call.Safe E B t e :=
  inStep_iff_rests.trans (call.rests_iff hzB hzC hevents)

/-- A driver that answers no queries. -/
def refuseQueries : Unit → (c : ServerCall) → Ans c → Unit → Prop
  | _, .info _ _, a, _ => a = ⟨CL_INVALID_OPERATION, none, []⟩
  | _, _, _, _ => True

/-- A read of one pixel. -/
def readPixel (args : WaitArgs) : ImageCall :=
  .clEnqueueReadImage (some ⟨0, 0, .queue⟩) (some ⟨1, 1, .memObject⟩) true
    ⟨(0, 0, 0), (1, 1, 1), 0, 0⟩ args

/-- Without events to wait for, a failed query ends the request where it should. -/
theorem ImageCall.inStep_iff_readPixel :
    InStep refuseQueries ⟨plainBuild, 210⟩ ((readPixel ⟨0, none, false⟩).call plainBuild)
      ⟨[], 0, [], false, []⟩ ⟨[], none⟩ () := by
  refine (ImageCall.inStep_iff .plain .plain _ (by decide) _ _ ()).mpr ?_
  rintro q m ids - - - a e₁ rfl
  exact if_neg (show ¬ CL_INVALID_OPERATION = CL_SUCCESS by decide) ▸ rfl

/-- With an event to wait for, its ID is left behind. -/
theorem ImageCall.not_inStep_readPixel :
    ¬ InStep refuseQueries ⟨plainBuild, 210⟩
      ((readPixel ⟨1, some [some ⟨2, 2, .event⟩], false⟩).call plainBuild) ⟨[], 0, [], false, []⟩
      ⟨[], none⟩ () := by
  intro h
  have hsafe := ((readPixel _).rests_iff .plain .plain (by decide)).mp (inStep_iff_rests.mp h)
  have hanswer := hsafe _ _ _ rfl rfl rfl ⟨CL_INVALID_OPERATION, none, []⟩ () rfl
  rw [if_neg (by decide)] at hanswer
  exact absurd hanswer (by decide)

end Images

end RemoteCL.Client

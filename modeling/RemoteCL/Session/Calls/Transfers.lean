import RemoteCL.Session.Calls.Images

/-!
# Calls: what has to be made with care

The calls that stay in step only if the driver answers in a certain way: the transfers of images,
the arguments of kernels, and the registration of callbacks.  Where they do they have the effect of
any other call.
-/

namespace RemoteCL.Client

open ByteStream Conversation Wire LawfulWire

section Transfers

variable {δ : Type} {E : δ → (c : ServerCall) → Ans c → δ → Prop} {B : ServerBuild} {C : Build}
variable {A : Set Ptr} {truncates : Bool} {s : ClientState} {t : ServerState} {e : δ}

/-! ## Images -/

/-- The driver knows the size of a pixel: nothing has been named yet. -/
theorem asks_elementSize {image : Ptr} {a : InfoAns} {e₁ : δ}
    (ha : E e (elementSizeOf image) a e₁) :
    Asks E e [⟨elementSizeOf image, a⟩] e₁ ∧
      namingsOf List.length t.mObjects [⟨elementSizeOf image, a⟩] = [] :=
  ⟨.cons ha .nil, namingsOf_info_eq_nil rfl rfl⟩

/-- A payload that fits can be read, however long the block is. -/
theorem dataTail_of_fits (hz : SameFormat B.zlib C.zlib) {data : Bytes}
    (hfits : CompressedFits B.zlib .uint32 data) :
    DataTail C.zlib (PacketStream.frame .payload (encPayload B.zlib .uint32 data)) := by
  have hsize : compressionSizeThreshold ≤ SizeT.uint32.range := by decide
  obtain ⟨w, x, rest, hw, hreads, hrest⟩ := exists_reads_encPayload hz hsize data
  rw [hrest.mpr hfits, List.append_nil] at hw
  exact ⟨w, x, by rw [hw], hreads⟩

section Reading

variable (hE : EventsIn A E) (hg : Good A t.mObjects) {args : WaitArgs} {ids : List IDType}
variable (hids : args.eventIDs = .ok ids) (hlen : args.num_events_in_wait_list ≤ 255)
include hE hg hids hlen

/-- A read that can cope with the answers. -/
theorem settles_readImage (hz : SameFormat B.zlib C.zlib) {p : ReadImage}
    (hevent : p.mWantEvent = args.event) (hexpect : p.mExpectEventList = args.expectEventList)
    (hsafe : ReadSafe E B t e p ids) :
    Settles E (ServerInstance.serve B) (Final B A (Effect E List.length truncates s t e))
      ⟨⟨catching CL_OUT_OF_HOST_MEMORY CL_DEVICE_NOT_AVAILABLE
        (awaitEvent args >>= fun _ =>
          PacketStream.read .payload (decPayloadInto C.zlib .uint32) >>= fun data =>
            store true (.ptr data) >>= fun _ => pure (.code CL_SUCCESS)), s, []⟩,
        ⟨ServerInstance.serve B, t, []⟩, packet p ++ eventPacket args ids, [], e⟩ := by
  have hK := guard_catching CL_OUT_OF_HOST_MEMORY CL_DEVICE_NOT_AVAILABLE
  have hwaits := waits_event hK.context args .payload (decPayloadInto C.zlib .uint32)
    (fun data => store true (.ptr data) >>= fun _ => pure (.code CL_SUCCESS)) s
  have hhandler : ServerInstance.handler B .readImage = some _ := rfl
  refine (settles_dispatch hhandler rfl).mpr ?_
  rw [ServerInstance.readImage]
  refine (settles_server_meets_packet stable_final context_handler (by decide)).mpr ?_
  refine (settles_server_get stable_final context_handler).mpr ?_
  refine (settles_server_ask stable_final context_handler).mpr fun a e₁ ha => ?_
  obtain ⟨hasked, hquiet⟩ := asks_elementSize (t := t) ha
  have hcope := hsafe a e₁ ha
  by_cases herr : a.err ≠ CL_SUCCESS
  · rw [if_neg herr, hexpect] at hcope
    rw [if_pos herr, eventPacket, hcope, if_neg Bool.false_ne_true]
    exact settles_rest_at hasked hquiet hwaits
      (fun Q hplain _ => hplain [] e₁ _ .nil rfl (Or.inl ⟨a.err, herr, rfl⟩))
      (awaits_awaitRead (C := C) hK (.refl truncates s))
  rw [if_pos (not_not.mp herr)] at hcope
  obtain ⟨hvector, hfits⟩ := hcope
  rw [if_neg herr, hexpect, ← List.append_nil (eventPacket args ids)]
  refine settles_rest_at hasked hquiet hwaits (servesAt_readEvents hids hlen ?_)
    (awaits_awaitRead (C := C) hK (.refl truncates s))
  show ServesAt _ _ _ _ _ _ (ServerInstance.resize 1 (sizeOfRead p a) >>= _) t [] e₁
  rw [resize_bind hvector, ← hevent]
  exact servesAt_enqueue (q := readCommand t p ids) hE hg fun b e₂ hb herr' =>
    ⟨_, dataTail_of_fits hz (hfits b e₂ hb herr').2, fun _ _ _ _ _ => Iff.rfl⟩

end Reading

/-- The end of the reply to a write: an event takes the place of `Success`. -/
def WrittenTail (want : Bool) (w : Bytes) : Prop :=
  w = if want then [] else packet (⟨⟩ : SuccessPacket)

theorem replyWritten_eq (want : Bool) (event : Ptr) :
    (if want then ServerInstance.writeID event else ServerInstance.writeSuccess) =
      ServerInstance.replyEvent want event >>= fun _ =>
        if want then pure () else ServerInstance.writeSuccess := by
  cases want with
  | false => rfl
  | true => exact (bind_pure (ServerInstance.writeID event)).symm

/-- A command is enqueued, and an event or `Success` is the reply. -/
theorem servesAt_written {takes : List IDType → ℕ} (hE : EventsIn A E) (hg : Good A t.mObjects)
    {q : Enqueue} :
    ServesAt E A takes (some (.registerID, .event))
      (EventPlain q.wantEvent (WrittenTail q.wantEvent))
      (EventNaming q.wantEvent (WrittenTail q.wantEvent))
      (ServerInstance.enqueue q >>= fun a =>
        if a.err ≠ CL_SUCCESS then ServerInstance.writeError a.err
        else if q.wantEvent then ServerInstance.writeID a.event else ServerInstance.writeSuccess)
      t [] e := by
  simp only [replyWritten_eq]
  refine servesAt_enqueue hE hg fun _ _ _ _ => ⟨_, rfl, fun t o u e Q => ?_⟩
  cases q.wantEvent with
  | false => exact Iff.rfl
  | true =>
    rw [if_pos rfl, if_pos rfl, List.append_nil]
    exact Iff.rfl

theorem awaits_written {K : ClientM Ret → ClientM Ret} (hK : Guard K) (args : WaitArgs) :
    Awaits List.length truncates (some (.registerID, .event))
      (EventPlain args.event (WrittenTail args.event))
      (EventNaming args.event (WrittenTail args.event)) (K (awaitWritten args)) s s where
  plain w hw := by
    rw [awaitWritten, awaitEvent]
    cases hwant : args.event with
    | false =>
      rw [if_neg Bool.false_ne_true]
      rcases hw with hw | ⟨-, rfl⟩
      · exact takes_error hK (.refl truncates s) hw
      · rw [hwant]
        exact takes_readPacket hK (by decide) (reads_dec (⟨⟩ : SuccessPacket))
          ((Since.refl truncates s).took rfl)
    | true =>
      rw [if_pos rfl, if_pos rfl, bind_assoc]
      rcases hw with hw | ⟨hfalse, -⟩
      · exact takes_error hK (.refl truncates s) hw
      · exact absurd (hwant.symm.trans hfalse) (by decide)
  naming ids w hw := by
    obtain ⟨hwant, id, tail, rfl, rfl, rfl⟩ := hw
    refine ⟨_, _, rfl, ?_⟩
    rw [awaitWritten, awaitEvent, hwant, if_pos rfl, if_pos rfl, if_pos rfl, List.append_nil,
      bind_assoc]
    refine takes_readPacket hK (by decide) (reads_dec _) ?_
    simp only [Prog.wp_bind, wp_registerID, wp_store, Prog.afterBind_ok]
    have hfound := (Since.refl truncates s).apply .registerID .event id
    exact (hfound.stored true (x := .event _) (fun y hy => hy) fun h => Bool.noConfusion h).took rfl

/-- A write that can cope with the answers. -/
theorem settles_writeImage (hE : EventsIn A E) (hg : Good A t.mObjects) {args : WaitArgs}
    {ids : List IDType} (hids : args.eventIDs = .ok ids)
    (hlen : args.num_events_in_wait_list ≤ 255) (hz : SameFormat C.zlib B.zlib) {p : WriteImage}
    (hevent : p.mWantEvent = args.event) (hexpect : p.mExpectEventList = args.expectEventList)
    {ptr : Bytes} (hsafe : WriteSafe E t e p ids ptr) :
    Settles E (ServerInstance.serve B) (Final B A (Effect E List.length truncates s t e))
      ⟨⟨catching CL_OUT_OF_HOST_MEMORY CL_DEVICE_NOT_AVAILABLE
        (PacketStream.readPacket (SimplePacket .payload UInt32) >>= fun dataSize =>
          PacketStream.write .payload
            (encPayloadPtr C.zlib .uint32 (memRead ptr dataSize.mData.toNat)) >>= fun _ =>
          PacketStream.flush >>= fun _ => awaitWritten args), s, []⟩,
        ⟨ServerInstance.serve B, t, []⟩, packet p ++ eventPacket args ids, [], e⟩ := by
  have hK := guard_catching CL_OUT_OF_HOST_MEMORY CL_DEVICE_NOT_AVAILABLE
  have hhandler : ServerInstance.handler B .writeImage = some _ := rfl
  refine (settles_dispatch hhandler rfl).mpr ?_
  rw [ServerInstance.writeImage]
  refine (settles_server_meets_packet stable_final context_handler (by decide)).mpr ?_
  refine (settles_server_get stable_final context_handler).mpr ?_
  refine (settles_server_ask stable_final context_handler).mpr fun a e₁ ha => ?_
  obtain ⟨hasked, hquiet⟩ := asks_elementSize (t := t) ha
  have hcope := hsafe a e₁ ha
  by_cases herr : a.err ≠ CL_SUCCESS
  · rw [if_neg herr, hexpect] at hcope
    rw [if_pos herr, eventPacket, hcope, if_neg Bool.false_ne_true]
    exact settles_rest hasked hquiet (agree_writeError hK herr)
  rw [if_pos (not_not.mp herr)] at hcope
  rw [if_neg herr, hexpect, ← List.append_nil (eventPacket args ids)]
  refine (settles_readEvents hids hlen).mpr ?_
  refine (settles_server_get stable_final context_handler).mpr ?_
  refine (settles_server_writePacket stable_final context_handler).mpr ?_
  refine (settles_server_flushes stable_final context_handler).mpr ?_
  -- the client is told how much to send, and sends it
  show Settles E _ _ ⟨_, _, [], packet (⟨UInt32.ofNat
    (ServerInstance.imageSize (wordAt (storeInto (zeros 8) a.data)) p.mRegion)⟩ :
      SimplePacket .payload UInt32), e₁⟩
  rw [← List.append_nil (packet _)]
  refine (settles_client_meets_packet stable_final hK.context
    (show Ordinary .payload by decide)).mpr ?_
  refine (settles_client_write stable_final hK.context).mpr ?_
  refine (settles_client_flushes stable_final hK.context).mpr ?_
  have hdata : (dataOfWrite p a ptr).length < SizeT.range .uint32 := by
    rw [dataOfWrite, length_memRead]
    exact UInt32.toNat_lt _
  have hwaits : Waits ⟨catching CL_OUT_OF_HOST_MEMORY CL_DEVICE_NOT_AVAILABLE
      (awaitWritten args), s, []⟩ := waits_written
  refine settles_rest_at hasked hquiet hwaits (servesAt_readPayloadPtr (C := C) hz ?_)
    (awaits_written hK args)
  show ServesAt _ _ _ _ _ _ (ServerInstance.enqueue (writeCommandOf t p ids
    ((dataOfWrite p a ptr).take ((dataOfWrite p a ptr).length % SizeT.range .uint32))) >>= _) t []
    e₁
  rw [← hevent, Nat.mod_eq_of_lt hdata, List.take_length]
  exact servesAt_written (q := writeCommandOf t p ids (dataOfWrite p a ptr)) hE hg

/-- **A transfer that can cope with the answers comes to rest**, and has its effect. -/
theorem ImageCall.completes (hE : EventsIn A E) (hg : Good A t.mObjects)
    (hzB : SameFormat B.zlib C.zlib) (hzC : SameFormat C.zlib B.zlib) (call : ImageCall)
    (hevents : call.args.num_events_in_wait_list ≤ 255) (hsafe : call.Safe E B t e) :
    Completes E B A List.length truncates (call.call C) s t e := by
  have hK := guard_catching CL_OUT_OF_HOST_MEMORY CL_DEVICE_NOT_AVAILABLE
  cases call with
  | clEnqueueReadImage queue image block rect args =>
    refine completes_withEvents fun q m ids hq hm hids => ?_
    refine (settles_writeCommand stable_final hK.context).mpr ?_
    refine (settles_client_flushes stable_final hK.context).mpr ?_
    exact settles_readImage hE hg hids hevents hzB rfl rfl (hsafe q m ids hq hm hids)
  | clEnqueueWriteImage queue image block rect ptr args =>
    refine completes_withEvents fun q m ids hq hm hids => ?_
    refine (settles_writeCommand stable_final hK.context).mpr ?_
    refine (settles_client_flushes stable_final hK.context).mpr ?_
    exact settles_writeImage hE hg hids hevents hzC rfl rfl (hsafe q m ids hq hm hids)

end Transfers

end RemoteCL.Client

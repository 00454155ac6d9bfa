import RemoteCL.Server.Memory
import RemoteCL.Theory.Lending

/-!
# Staging vectors and pending commands

Five handlers move data between the driver and a vector of their own.  A blocking command is over
when the function of the driver returns; any other one is completed later, and the handler does not
wait for it.  The handlers for reads of buffers force their commands to block.  The others pass on
what the client asks for, although their vectors are as short-lived.

The handlers are written as what they do with a request (`Transfer`), which also says which vectors
they lend (`transfers`).  The replies to blocking reads are complete (`reply_of_blocking`).
-/

namespace RemoteCL

open ByteStream Conversation Lending

/-- The blocking flag of a command. -/
def Command.blocks : Command → Bool
  | .clEnqueueReadBuffer _ blocking _ _ => blocking
  | .clEnqueueReadBufferRect _ blocking _ _ _ _ _ _ _ => blocking
  | .clEnqueueWriteBuffer _ blocking _ _ => blocking
  | .clEnqueueReadImage _ blocking _ _ _ _ => blocking
  | .clEnqueueWriteImage _ blocking _ _ _ _ _ => blocking
  | .clEnqueueNDRangeKernel .. => false
  | .clEnqueueFillBuffer .. => false

/-- A request for data to be moved, with what the handler has found out on the way: the size of the
elements of an image, and the data that has followed. -/
inductive Transfer where
  | readBuffer (packet : ReadBuffer)
  | readBufferRect (packet : ReadBufferRect)
  | writeBuffer (packet : WriteBuffer) (data : Bytes)
  | readImage (packet : ReadImage) (pixelSize : UInt64)
  | writeImage (packet : WriteImage) (imageData : Bytes)

namespace Transfer

/-- The vector, as it is given to the driver. -/
def vector : Transfer → Bytes
  | readBuffer packet => zeros packet.mSize.toNat
  | readBufferRect packet => zeros (ServerInstance.rectSize packet)
  | writeBuffer _ data => data
  | readImage packet pixelSize => zeros (ServerInstance.imageSize pixelSize packet.mRegion)
  | writeImage _ imageData => imageData

/-- The command for the driver. -/
def command (object : Ptr) : Transfer → Command
  | readBuffer packet =>
    .clEnqueueReadBuffer object true packet.mOffset.toNat packet.mSize.toNat
  | readBufferRect packet =>
    .clEnqueueReadBufferRect object true packet.mBufferOrigin packet.mHostOrigin packet.mRegion
      packet.mBufferRowPitch packet.mBufferSlicePitch packet.mHostRowPitch packet.mHostSlicePitch
  | writeBuffer packet data =>
    .clEnqueueWriteBuffer object packet.mBlock packet.mOffset.toNat data
  | readImage packet _ =>
    .clEnqueueReadImage object packet.mBlock packet.mOrigin packet.mRegion packet.mRowPitch
      packet.mSlicePitch
  | writeImage packet imageData =>
    .clEnqueueWriteImage object packet.mBlock packet.mOrigin packet.mRegion packet.mRowPitch
      packet.mSlicePitch imageData

def wantEvent : Transfer → Bool
  | readBuffer packet => packet.mWantEvent
  | readBufferRect packet => packet.mWantEvent
  | writeBuffer packet _ => packet.mWantEvent
  | readImage packet _ => packet.mWantEvent
  | writeImage packet _ => packet.mWantEvent

/-- The driver writes into the vector. -/
def reads : Transfer → Bool
  | readBuffer _ => true
  | readBufferRect _ => true
  | writeBuffer _ _ => false
  | readImage _ _ => true
  | writeImage _ _ => false

/-- The client asks for a command that blocks, or gets one in any case. -/
def Blocking : Transfer → Prop
  | readBuffer _ => True
  | readBufferRect _ => True
  | writeBuffer packet _ => packet.mBlock = true
  | readImage packet _ => packet.mBlock = true
  | writeImage packet _ => packet.mBlock = true

theorem blocks_command (object : Ptr) (r : Transfer) :
    (r.command object).blocks = true ↔ r.Blocking := by
  cases r <;> simp [command, Command.blocks, Blocking]

/-- What the vector contains when the command has been completed with some data. -/
def result (r : Transfer) (data : Bytes) : Bytes :=
  if r.reads then storeInto r.vector data else r.vector

/-- The reply of the handler.  `a.data` is what the driver has put into the vector by then. -/
def reply (B : ServerBuild) (a : EnqueueAns) : Transfer → ServerM Unit
  | readBuffer packet => ServerInstance.replyRead B packet.mWantEvent packet.mSize.toNat a
  | readBufferRect packet =>
    ServerInstance.replyRead B packet.mWantEvent (ServerInstance.rectSize packet) a
  | writeBuffer packet _ => ServerInstance.replyCommand packet.mWantEvent a
  | readImage packet pixelSize =>
    if a.err ≠ CL_SUCCESS then ServerInstance.writeError a.err
    else do
      ServerInstance.replyEvent packet.mWantEvent a.event
      ServerInstance.writePayload B .uint32
        (storeInto (zeros (ServerInstance.imageSize pixelSize packet.mRegion)) a.data)
  | writeImage packet _ =>
    if a.err ≠ CL_SUCCESS then ServerInstance.writeError a.err
    else if packet.mWantEvent then ServerInstance.writeID a.event
    else ServerInstance.writeSuccess

/-- From the call of the driver on. -/
def serve (B : ServerBuild) (object queue : Ptr) (events : List Ptr) (r : Transfer) :
    ServerM Unit := do
  let a ← ServerInstance.enqueue
    { queue, events, wantEvent := r.wantEvent, command := r.command object }
  r.reply B a

end Transfer

namespace ServerInstance

/-! ## The handlers -/

theorem readBuffer_eq (B : ServerBuild) :
    readBuffer B = (do
      let packet ← PacketStream.readPacket ReadBuffer
      let events ← readEvents packet.mExpectEventList
      let buffer ← getObj packet.mBufferID
      let queue ← getObj packet.mQueueID
      Transfer.serve B buffer queue events (.readBuffer packet)) := rfl

theorem readBufferRect_eq (B : ServerBuild) :
    readBufferRect B = (do
      let packet ← PacketStream.readPacket ReadBufferRect
      let events ← readEvents packet.mExpectEventList
      resize 1 (rectSize packet)
      let buffer ← getObj packet.mBufferID
      let queue ← getObj packet.mQueueID
      Transfer.serve B buffer queue events (.readBufferRect packet)) := rfl

theorem writeBuffer_eq (B : ServerBuild) :
    writeBuffer B = (do
      let packet ← PacketStream.readPacket WriteBuffer
      let events ← readEvents packet.mExpectEventList
      let data ← readPayload B
      let buffer ← getObj packet.mBufferID
      let queue ← getObj packet.mQueueID
      Transfer.serve B buffer queue events (.writeBuffer packet data)) := rfl

theorem readImage_eq (B : ServerBuild) :
    readImage B = (do
      let packet ← PacketStream.readPacket ReadImage
      let image ← getObj packet.mImageID
      let a ← info (.clGetImageInfo image CL_IMAGE_ELEMENT_SIZE) 8
      if a.err ≠ CL_SUCCESS then writeError a.err
      else
        let pixelSize := wordAt (storeInto (zeros 8) a.data)
        let events ← readEvents packet.mExpectEventList
        let queue ← getObj packet.mQueueID
        resize 1 (imageSize pixelSize packet.mRegion)
        Transfer.serve B image queue events (.readImage packet pixelSize)) := rfl

theorem writeImage_eq (B : ServerBuild) :
    writeImage B = (do
      let packet ← PacketStream.readPacket WriteImage
      let image ← getObj packet.mImageID
      let a ← info (.clGetImageInfo image CL_IMAGE_ELEMENT_SIZE) 8
      if a.err ≠ CL_SUCCESS then writeError a.err
      else
        let pixelSize := wordAt (storeInto (zeros 8) a.data)
        let events ← readEvents packet.mExpectEventList
        let queue ← getObj packet.mQueueID
        writeValue (UInt32.ofNat (imageSize pixelSize packet.mRegion))
        PacketStream.flush
        let imageData ← readPayload B
        Transfer.serve B image queue events (.writeImage packet imageData)) := rfl

end ServerInstance

/-! ## All runs -/

/-- The vectors of the handlers, and the commands that they are lent to. -/
def transfers : Lending.System Transfer Bytes Bytes where
  initial := Transfer.vector
  result := Transfer.result
  waits r := (r.command 0).blocks

/-- The payload of the reply to a read is the vector. -/
theorem Transfer.reply_of_reads {r : Transfer} (hreads : r.reads = true) (B : ServerBuild)
    {a : EnqueueAns} (herr : a.err = CL_SUCCESS) :
    ∃ enc : Option Zlib → SizeT → Bytes → Bytes, (enc = encPayload ∨ enc = encPayloadPtr) ∧
      r.reply B a = (ServerInstance.replyEvent r.wantEvent a.event >>= fun _ =>
        PacketStream.write .payload (enc B.zlib .uint32 (storeInto r.vector a.data))) := by
  cases r with
  | readBuffer packet => exact ⟨_, Or.inr rfl, if_neg (not_not.mpr herr)⟩
  | readBufferRect packet => exact ⟨_, Or.inr rfl, if_neg (not_not.mpr herr)⟩
  | readImage packet pixelSize => exact ⟨_, Or.inl rfl, if_neg (not_not.mpr herr)⟩
  | writeBuffer packet data => cases hreads
  | writeImage packet imageData => cases hreads

/-- **With blocking commands the client gets what the driver has stored**: the reply to a read is
what is in the vector, and that is all of the data. -/
theorem reply_of_blocking {R : Set Transfer} (hR : ∀ r ∈ R, r.Blocking)
    {x : State Transfer Bytes Bytes} (hx : Reachable transfers R x)
    {y : Reply Transfer Bytes Bytes} (hy : y ∈ x.replies) (hreads : y.loan.request.reads = true)
    (B : ServerBuild) (event : Ptr) :
    ∃ data, ∃ enc : Option Zlib → SizeT → Bytes → Bytes, y.content = some data ∧
      (enc = encPayload ∨ enc = encPayloadPtr) ∧
      y.loan.request.reply B ⟨CL_SUCCESS, event, y.loan.data⟩ =
        (ServerInstance.replyEvent y.loan.request.wantEvent event >>= fun _ =>
          PacketStream.write .payload (enc B.zlib .uint32 data)) := by
  have hsafe := hx.safe fun r hr => (Transfer.blocks_command 0 r).mpr (hR r hr)
  obtain ⟨enc, henc, hreply⟩ := Transfer.reply_of_reads hreads B
    (a := ⟨CL_SUCCESS, event, y.loan.data⟩) rfl
  have hresult : transfers.result y.loan.request y.loan.data =
      storeInto y.loan.request.vector y.loan.data := if_pos hreads
  exact ⟨_, enc, (hsafe.replies y hy).trans (congrArg some hresult), henc, hreply⟩

/-- **When staging vectors outlive their commands**: when no client asks for a write, or for a read
of an image, that does not block. -/
theorem staging_outlives_iff (R : Set Transfer) :
    (∀ x, Reachable transfers R x → Safe transfers x) ↔ ∀ r ∈ R, r.Blocking :=
  safe_iff.trans (forall₂_congr fun r _ => Transfer.blocks_command 0 r)

/-- A request for a pixel, by a client that does not want to wait. -/
def pixelRead : ReadImage where
  mImageID := 1
  mQueueID := 0
  mOrigin := #v[0, 0, 0]
  mRegion := #v[1, 1, 1]
  mRowPitch := 0
  mSlicePitch := 0
  mBlock := false
  mWantEvent := false
  mExpectEventList := false

/-- Zeros are sent for the pixel, before the driver has read it. -/
theorem pixel_sent_early : ¬ ∀ x, Reachable transfers Set.univ x → Safe transfers x := by
  intro h
  have hmake : Reachable transfers Set.univ _ :=
    .single (.make (Set.mem_univ (.readImage pixelRead 4)) rfl)
  have hlend := hmake.tail (.lend [1, 2, 3, 4] rfl)
  have hreply := hlend.tail (.reply rfl fun hwait => absurd hwait Bool.false_ne_true)
  have hsent := (h _ hreply).replies _ (List.mem_singleton_self _)
  exact absurd hsent (by decide)

end RemoteCL

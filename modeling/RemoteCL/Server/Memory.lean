import RemoteCL.Server.Instance

/-!
# Request handlers: memory objects and commands

The handlers of `server/memory.cpp`, `server/image.cpp` and `server/event.cpp`.

A command may come with a list of events to wait for, in a packet of its own, and may be asked
for an event, whose ID is then the first packet of the reply.
-/

namespace RemoteCL

open ByteStream Conversation

namespace ServerInstance

/-! ## Commands -/

/-- The events to wait for, if the request says that they follow. -/
def readEvents (mExpectEventList : Bool) : ServerM (List Ptr) :=
  if mExpectEventList then do
    let eventList ← PacketStream.readPacket IDListPacket
    getObjs eventList.mIDs
  else pure []

def enqueue (q : Enqueue) : ServerM EnqueueAns := Prog.ask (ServerCall.enqueue q)

/-- The ID of the event, if one was asked for. -/
def replyEvent (mWantEvent : Bool) (event : Ptr) : ServerM Unit :=
  if mWantEvent then writeID event else pure ()

/-! ## Buffers -/

def createBuffer (B : ServerBuild) : ServerM Unit := do
  let packet ← PacketStream.readPacket CreateBuffer
  let context ← getObj packet.mContextID
  let hostData ← if packet.mExpectPayload then do
      let payload ← readPayload B
      pure (some payload)
    else pure none
  let a ← create (.clCreateBuffer context packet.mFlags.toUInt64 packet.mSize.toNat hostData)
  replyCreated a

def createSubBuffer : ServerM Unit := do
  let packet ← PacketStream.readPacket CreateSubBuffer
  let buffer ← getObj packet.mBufferID
  let a ← create (.clCreateSubBuffer buffer packet.mFlags.toUInt64 packet.mCreateType
    packet.mOffset.toNat packet.mSize.toNat)
  replyCreated a

/-- The reply to a command that reads: the event, and the bytes. -/
def replyRead (B : ServerBuild) (mWantEvent : Bool) (size : ℕ) (a : EnqueueAns) :
    ServerM Unit :=
  if a.err ≠ CL_SUCCESS then writeError a.err
  else do
    replyEvent mWantEvent a.event
    writePayloadPtr B .uint32 (storeInto (zeros size) a.data)

/-- The reply to a command that reads nothing: the event, and success. -/
def replyCommand (mWantEvent : Bool) (a : EnqueueAns) : ServerM Unit :=
  if a.err ≠ CL_SUCCESS then writeError a.err
  else do
    replyEvent mWantEvent a.event
    writeSuccess

/-- The read blocks, whatever the client asked for. -/
def readBuffer (B : ServerBuild) : ServerM Unit := do
  let packet ← PacketStream.readPacket ReadBuffer
  let events ← readEvents packet.mExpectEventList
  let buffer ← getObj packet.mBufferID
  let queue ← getObj packet.mQueueID
  let a ← enqueue
    { queue, events, wantEvent := packet.mWantEvent,
      command := .clEnqueueReadBuffer buffer true packet.mOffset.toNat packet.mSize.toNat }
  replyRead B packet.mWantEvent packet.mSize.toNat a

/-- The size of the host memory that a rectangle occupies, in the arithmetic of `std::size_t`.
Missing pitches are those of a rectangle without gaps. -/
def rectSize (packet : ReadBufferRect) : ℕ :=
  let row_pitch :=
    if 0 < packet.mHostRowPitch then packet.mHostRowPitch.toNat else packet.mRegion.x.toNat
  let slice_pitch :=
    if 0 < packet.mHostSlicePitch then packet.mHostSlicePitch.toNat
    else packet.mRegion.y.toNat * row_pitch
  (slice_pitch * packet.mRegion.z.toNat) % 2 ^ 64

def readBufferRect (B : ServerBuild) : ServerM Unit := do
  let packet ← PacketStream.readPacket ReadBufferRect
  let events ← readEvents packet.mExpectEventList
  let dataSize := rectSize packet
  resize 1 dataSize
  let buffer ← getObj packet.mBufferID
  let queue ← getObj packet.mQueueID
  let a ← enqueue
    { queue, events, wantEvent := packet.mWantEvent,
      command := .clEnqueueReadBufferRect buffer true packet.mBufferOrigin packet.mHostOrigin
        packet.mRegion packet.mBufferRowPitch packet.mBufferSlicePitch packet.mHostRowPitch
        packet.mHostSlicePitch }
  replyRead B packet.mWantEvent dataSize a

def writeBuffer (B : ServerBuild) : ServerM Unit := do
  let packet ← PacketStream.readPacket WriteBuffer
  let events ← readEvents packet.mExpectEventList
  let data ← readPayload B
  let buffer ← getObj packet.mBufferID
  let queue ← getObj packet.mQueueID
  let a ← enqueue
    { queue, events, wantEvent := packet.mWantEvent,
      command := .clEnqueueWriteBuffer buffer packet.mBlock packet.mOffset.toNat data }
  replyCommand packet.mWantEvent a

def fillBuffer : ServerM Unit := do
  let packet ← PacketStream.readPacket FillBuffer
  let events ← readEvents packet.mExpectEventList
  let buffer ← getObj packet.mBufferID
  let queue ← getObj packet.mQueueID
  let pattern := memRead packet.mPattern.toList packet.mPatternSize.toNat
  let a ← enqueue
    { queue, events, wantEvent := packet.mWantEvent,
      command := .clEnqueueFillBuffer buffer pattern packet.mOffset.toNat packet.mSize.toNat }
  replyCommand packet.mWantEvent a

def getMemObjInfo (B : ServerBuild) : ServerM Unit := do
  let query ← PacketStream.readPacket GetMemObjInfo
  let obj ← getObj query.mID
  let q := InfoQuery.clGetMemObjectInfo obj query.mData
  if query.mData = CL_MEM_CONTEXT ∨ query.mData = CL_MEM_ASSOCIATED_MEMOBJECT then
    replyObject q
  else
    replyRaw B .uint8 true q

/-! ## Images -/

/-- An extent, of which a missing one counts once. -/
def extent (n : UInt32) : ℕ := if n = 0 then 1 else n.toNat

/-- The image is created without its data first: only the driver knows how large its pixels are.
When the data has arrived the image is created again. -/
def createImage (B : ServerBuild) : ServerM Unit := do
  let packet ← PacketStream.readPacket CreateImage
  let context ← getObj packet.mContextID
  let format := (packet.mChannelOrder, packet.mChannelType)
  let desc := [packet.mImageType, packet.mWidth, packet.mHeight, packet.mDepth,
    packet.mArraySize, packet.mRowPitch, packet.mSlicePitch, packet.mMipLevels,
    packet.mSamples]
  let expectPayload := packet.mFlags.toUInt64 &&& CL_MEM_COPY_HOST_PTR ≠ 0
  let flags := packet.mFlags.toUInt64 &&& ~~~CL_MEM_COPY_HOST_PTR
  let a ← create (.clCreateImage context flags format desc none)
  if a.err ≠ CL_SUCCESS then writeError a.err
  else if expectPayload then
    let b ← info (.clGetImageInfo a.object CL_IMAGE_ELEMENT_SIZE) 8
    if b.err ≠ CL_SUCCESS then writeError b.err
    else
      let pixelSize := (wordAt (storeInto (zeros 8) b.data)).toNat
      let dataSize := UInt32.ofNat
        (pixelSize * extent packet.mWidth * extent packet.mHeight * extent packet.mDepth)
      writeValue dataSize
      PacketStream.flush
      let imageData ← readPayload B
      let _ ← status (.clRelease .mem a.object)
      let c ← create (.clCreateImage context (flags ||| CL_MEM_COPY_HOST_PTR) format desc
        (some imageData))
      replyCreated c
  else
    writeID a.object

/-- The number of bytes in a region of an image, in the arithmetic of `std::size_t`. -/
def imageSize (pixelSize : UInt64) (region : Coords) : ℕ :=
  (pixelSize.toNat * region.x.toNat * region.y.toNat * region.z.toNat) % 2 ^ 64

/-- An error of the element size query ends the request before its event list has been read. -/
def readImage (B : ServerBuild) : ServerM Unit := do
  let packet ← PacketStream.readPacket ReadImage
  let image ← getObj packet.mImageID
  let a ← info (.clGetImageInfo image CL_IMAGE_ELEMENT_SIZE) 8
  if a.err ≠ CL_SUCCESS then writeError a.err
  else
    let pixelSize := wordAt (storeInto (zeros 8) a.data)
    let events ← readEvents packet.mExpectEventList
    let queue ← getObj packet.mQueueID
    let size := imageSize pixelSize packet.mRegion
    resize 1 size
    let b ← enqueue
      { queue, events, wantEvent := packet.mWantEvent,
        command := .clEnqueueReadImage image packet.mBlock packet.mOrigin packet.mRegion
          packet.mRowPitch packet.mSlicePitch }
    if b.err ≠ CL_SUCCESS then writeError b.err
    else
      replyEvent packet.mWantEvent b.event
      writePayload B .uint32 (storeInto (zeros size) b.data)

def writeImage (B : ServerBuild) : ServerM Unit := do
  let packet ← PacketStream.readPacket WriteImage
  let image ← getObj packet.mImageID
  let a ← info (.clGetImageInfo image CL_IMAGE_ELEMENT_SIZE) 8
  if a.err ≠ CL_SUCCESS then writeError a.err
  else
    let pixelSize := wordAt (storeInto (zeros 8) a.data)
    let events ← readEvents packet.mExpectEventList
    let queue ← getObj packet.mQueueID
    writeValue (UInt32.ofNat (imageSize pixelSize packet.mRegion))
    PacketStream.flush
    let imageData ← readPayload B
    let b ← enqueue
      { queue, events, wantEvent := packet.mWantEvent,
        command := .clEnqueueWriteImage image packet.mBlock packet.mOrigin packet.mRegion
          packet.mRowPitch packet.mSlicePitch imageData }
    if b.err ≠ CL_SUCCESS then writeError b.err
    else if packet.mWantEvent then writeID b.event
    else writeSuccess

def getImageInfo (B : ServerBuild) : ServerM Unit := do
  let query ← PacketStream.readPacket GetImageInfo
  let image ← getObj query.mID
  let q := InfoQuery.clGetImageInfo image query.mData
  if query.mData = CL_IMAGE_BUFFER then
    let a ← info q 8
    if a.err ≠ CL_SUCCESS then writeError a.err
    else
      let parent := wordAt (storeInto (zeros 8) a.data)
      if parent ≠ 0 then writeID parent
      -- no buffer: the largest ID says so
      else PacketStream.writePacket (⟨0xFFFF⟩ : IDPacket)
  else
    replyRaw B .uint8 true q

/-! ## Kernels and events -/

def enqueueKernel : ServerM Unit := do
  let E ← PacketStream.readPacket EnqueueKernel
  let events ← readEvents E.mExpectEventList
  let kernel ← getObj E.mKernelID
  let queue ← getObj E.mQueueID
  -- a client that sends a zero has not specified a work group size
  let localSize := if E.mLocalSize.x = 0 then none else some E.mLocalSize
  let a ← enqueue
    { queue, events, wantEvent := E.mWantEvent,
      command := .clEnqueueNDRangeKernel kernel E.mWorkDim E.mGlobalOffset E.mGlobalSize
        localSize }
  replyCommand E.mWantEvent a

def createUserEvent : ServerM Unit := do
  let P ← PacketStream.readPacket CreateUserEvent
  let context ← getObj P.mData
  let a ← create (.clCreateUserEvent context)
  replyCreated a

def setUserEventStatus : ServerM Unit := do
  let packet ← PacketStream.readPacket SetUserEventStatus
  let event ← getObj packet.mID
  let err ← status (.clSetUserEventStatus event packet.mData)
  replyStatus err

/-- All replies fit into the 8 bytes of the union that the query is given.  The signed ones cross
the wire like the unsigned ones. -/
def getEventInfo : ServerM Unit := do
  let packet ← PacketStream.readPacket GetEventInfo
  let event ← getObj packet.mID
  let a ← info (.clGetEventInfo event packet.mData) 8
  if a.err ≠ CL_SUCCESS then writeError a.err
  else
    let data := storeInto (zeros 8) a.data
    if packet.mData = CL_EVENT_CONTEXT ∨ packet.mData = CL_EVENT_COMMAND_QUEUE then
      writeID (wordAt data)
    else if packet.mData = CL_EVENT_COMMAND_TYPE ∨
        packet.mData = CL_EVENT_COMMAND_EXECUTION_STATUS ∨
        packet.mData = CL_EVENT_REFERENCE_COUNT then
      writeValue (UInt32.ofNat (leValue (data.take 4)))
    else
      writeError CL_INVALID_OPERATION

def getEventProfilingInfo : ServerM Unit := do
  let packet ← PacketStream.readPacket GetEventProfilingInfo
  let event ← getObj packet.mID
  replySize (.clGetEventProfilingInfo event packet.mData)

def waitForEvents : ServerM Unit := do
  let _ ← PacketStream.readPacket WaitForEvents
  let events ← readEvents true
  let err ← status (.clWaitForEvents events)
  replyStatus err

/-- A registration that the driver refuses is answered twice. -/
def registerEventCallback : ServerM Unit :=
  Prog.tryCatch
    (do
      let P : RegisterEventCallback ←
        PacketStream.readNoexcept .registerEventCallback Wire.dec
      let event ← getObj P.mEventID
      let err ← status (.clSetEventCallback event P.mCBType P.mCallbackID)
      if err ≠ CL_SUCCESS then writeError err
      writeSuccess)
    fun
      | .terminate => Prog.throw .terminate
      | _ => writeError CL_OUT_OF_HOST_MEMORY

/-- The driver calls this in a thread of its own.  Unlike the handlers, it writes to the event
stream. -/
def triggerEventCallback (code : Int32) (callbackID : IDType) : ServerM Unit :=
  PacketStream.noexcept do
    let s ← Prog.getState
    if s.mEventStream.isNone then pure ()
    else do
      PacketStream.writePacket (⟨callbackID.toUInt32⟩ : CallbackTriggerPacket)
      PacketStream.writePacket (⟨code.toUInt32.toUInt16⟩ : TriggerEventCallback)
      PacketStream.flush

end ServerInstance

end RemoteCL

import RemoteCL.Server.Instance

/-!
# Request handlers: platforms, devices, contexts, queues, reference counts

The handlers of `server/instance.cpp`, `server/device.cpp`, `server/context.cpp`,
`server/queue.cpp` and `server/refcount.cpp`.
-/

namespace RemoteCL

open ByteStream Conversation

namespace ServerInstance

/-! ## Platforms -/

def sendPlatformList : ServerM Unit := do
  let _ ← PacketStream.readPacket GetPlatformIDs
  let a ← Prog.ask (ServerCall.clGetPlatformIDs 0)
  if a.err ≠ CL_SUCCESS then writeError a.err
  else
    let platformCount := a.count.getD 0
    let a ← Prog.ask (ServerCall.clGetPlatformIDs platformCount)
    writeIDs (storeInto (List.replicate platformCount 0) a.objects)

def getPlatformInfo (B : ServerBuild) : ServerM Unit := do
  let packet ← PacketStream.readPacket GetPlatformInfo
  let platform ← getObj packet.mID
  let q := InfoQuery.clGetPlatformInfo platform packet.mData
  let first ← info q 0
  if first.err ≠ CL_SUCCESS then writeError first.err
  else
    let replySize := first.size.getD 0
    resize 1 replySize
    let a ← info q replySize
    if a.err ≠ CL_SUCCESS then writeError a.err
    else writePayload B .uint8 (storeInto (zeros replySize) a.data)

/-! ## Devices -/

def sendDeviceList : ServerM Unit := do
  let packet ← PacketStream.readPacket GetDeviceIDs
  let platform ← getObj packet.mPlatformID
  let a ← Prog.ask (ServerCall.clGetDeviceIDs platform packet.mDeviceType 0)
  if a.err ≠ CL_SUCCESS then writeError a.err
  else
    let deviceCount := a.count.getD 0
    let a ← Prog.ask (ServerCall.clGetDeviceIDs platform packet.mDeviceType deviceCount)
    if a.err ≠ CL_SUCCESS then writeError a.err
    else writeIDs (storeInto (List.replicate deviceCount 0) a.objects)

/-- The device queries that are `std::size_t` translated in every build. -/
def deviceSizeParams : List UInt32 :=
  [CL_DEVICE_PRINTF_BUFFER_SIZE, CL_DEVICE_IMAGE2D_MAX_WIDTH, CL_DEVICE_IMAGE3D_MAX_WIDTH,
    CL_DEVICE_IMAGE_MAX_BUFFER_SIZE, CL_DEVICE_IMAGE2D_MAX_HEIGHT,
    CL_DEVICE_IMAGE3D_MAX_HEIGHT, CL_DEVICE_IMAGE_MAX_ARRAY_SIZE, CL_DEVICE_IMAGE3D_MAX_DEPTH,
    CL_DEVICE_PROFILING_TIMER_RESOLUTION, CL_DEVICE_MAX_PARAMETER_SIZE,
    CL_DEVICE_MAX_WORK_GROUP_SIZE]

/-- The ones that are so only in a build for OpenCL 2.0 and later. -/
def deviceSizeParams20 : List UInt32 :=
  [CL_DEVICE_IMAGE_PITCH_ALIGNMENT, CL_DEVICE_IMAGE_BASE_ADDRESS_ALIGNMENT,
    CL_DEVICE_MAX_GLOBAL_VARIABLE_SIZE, CL_DEVICE_GLOBAL_VARIABLE_PREFERRED_TOTAL_SIZE]

def getDeviceInfo (B : ServerBuild) : ServerM Unit := do
  let query ← PacketStream.readPacket GetDeviceInfo
  let device ← getObj query.mID
  let q := InfoQuery.clGetDeviceInfo device query.mData
  if query.mData = CL_DEVICE_PLATFORM ∨ query.mData = CL_DEVICE_PARENT_DEVICE then
    replyObject q
  else if query.mData ∈ deviceSizeParams ∨
      (200 ≤ B.clTarget ∧ query.mData ∈ deviceSizeParams20) then
    replySize q
  else if query.mData = CL_DEVICE_MAX_WORK_ITEM_SIZES then
    replySizes B q
  else
    replyRaw B .uint32 false q

/-! ## Contexts -/

/-- The loop that rebuilds a property list: keys and values alternate, and the value of
`CL_CONTEXT_PLATFORM` is the ID of a platform.  Behind a key without a value the iterator has passed
the end of the list, and never meets it again. -/
def rebuildProperties (objects : List Ptr) : List UInt64 → Option (List UInt64)
  | [] => some []
  | [_] => none
  | key :: value :: rest =>
    (rebuildProperties objects rest).map fun properties =>
      key :: (if key = CL_CONTEXT_PLATFORM then objectAt objects value.toUInt16 else value) ::
        properties

/-- The loop meets the end of a list of pairs, and of no other. -/
theorem isSome_rebuildProperties_iff (objects : List Ptr) (mProperties : List UInt64) :
    (rebuildProperties objects mProperties).isSome ↔ Even mProperties.length := by
  induction mProperties using rebuildProperties.induct with
  | case1 => exact iff_of_true rfl Even.zero
  | case2 => exact iff_of_false Bool.false_ne_true Nat.not_even_one
  | case3 key value rest ih =>
    rw [rebuildProperties, Option.isSome_map, ih, List.length_cons, List.length_cons,
      Nat.even_add_one, Nat.even_add_one, not_not]

/-- Rebuild the context property list.  The loop that has passed the end of the list reads what lies
behind it: what it does is not defined, and is followed no further. -/
def rebuild (mProperties : List UInt64) : ServerM (List UInt64) := do
  let s ← Prog.getState
  match rebuildProperties s.mObjects mProperties with
  | some properties => pure properties
  | none => Prog.spin

/-- A non-empty property list is terminated by a zero; an empty one is a null pointer. -/
def terminated (properties : List UInt64) : Option (List UInt64) :=
  if properties.isEmpty then none else some (properties ++ [0])

def createContext : ServerM Unit := do
  let packet ← PacketStream.readPacket CreateContext
  let devices ← getObjs packet.mDevices
  let properties ← rebuild packet.mProperties
  let a ← create (.clCreateContext (terminated properties) devices)
  replyCreated a

def createContextFromType : ServerM Unit := do
  let packet ← PacketStream.readPacket CreateContextFromType
  let properties ← rebuild packet.mProperties
  let a ← create (.clCreateContextFromType (terminated properties) packet.mDeviceType)
  replyCreated a

/-- The reply buffer starts with 32 bytes, and the query is repeated when they did not suffice.
The size of the reply is the one the last query stored. -/
def getContextInfo (B : ServerBuild) : ServerM Unit := do
  let query ← PacketStream.readPacket GetContextInfo
  let context ← getObj query.mID
  let q := InfoQuery.clGetContextInfo context query.mData
  let a ← info q 32
  if a.err ≠ CL_SUCCESS then writeError a.err
  else
    let replySize := a.size.getD 0
    let (mData, replySize) ←
      if 32 < replySize then do
        resize 1 replySize
        let b ← info q replySize
        pure (storeInto (storeInto (zeros 32) a.data ++ zeros (replySize - 32)) b.data,
          b.size.getD replySize)
      else pure (storeInto (zeros 32) a.data, replySize)
    if query.mData = CL_CONTEXT_DEVICES then
      let mapped ← getIDsFor (words (replySize / 8) mData)
      writePayload B .uint8 (idBytes mapped)
    else
      writePayload B .uint8 (memRead mData replySize)

def getImageFormats (B : ServerBuild) : ServerM Unit := do
  let query ← PacketStream.readPacket GetImageFormats
  let context ← getObj query.mContextID
  let call := ServerCall.clGetSupportedImageFormats context query.mFlags.toUInt64
    query.mImageType
  let a ← Prog.ask (call 0)
  if a.err ≠ CL_SUCCESS then writeError a.err
  else
    let formatCount := a.size.getD 0
    let b ← Prog.ask (call formatCount)
    writePayloadPtr B .uint16 (storeInto (zeros (8 * formatCount)) b.data)

/-! ## Command queues -/

def createQueue : ServerM Unit := do
  let packet ← PacketStream.readPacket CreateQueue
  let context ← getObj packet.mContext
  let device ← getObj packet.mDevice
  let a ← create (.clCreateCommandQueue context device packet.mProp.toUInt64)
  replyCreated a

/-- Support for properties is compiled in for OpenCL 2.0 and later.  Without it the request is
answered, but not read. -/
def createQueueWithProp (B : ServerBuild) : ServerM Unit :=
  if 200 ≤ B.clTarget then do
    let packet ← PacketStream.readPacket CreateQueueWithProp
    let context ← getObj packet.mContext
    let device ← getObj packet.mDevice
    let a ← create (.clCreateCommandQueueWithProperties context device
      (terminated packet.mProperties))
    replyCreated a
  else
    writeError CL_INVALID_OPERATION

def getQueueInfo (B : ServerBuild) : ServerM Unit := do
  let query ← PacketStream.readPacket GetQueueInfo
  let queue ← getObj query.mID
  let q := InfoQuery.clGetCommandQueueInfo queue query.mData
  if query.mData = CL_QUEUE_CONTEXT ∨ query.mData = CL_QUEUE_DEVICE then
    replyObject q
  else
    replyRaw B .uint8 true q

def flushQueue : ServerM Unit := do
  let finish ← PacketStream.readPacket QFlushPacket
  let queue ← getObj finish.mData
  let err ← status (.clFlush queue)
  replyStatus err

def finishQueue : ServerM Unit := do
  let finish ← PacketStream.readPacket QFinishPacket
  let queue ← getObj finish.mData
  let err ← status (.clFinish queue)
  replyStatus err

/-! ## Reference counts -/

/-- What `handleRetain` and `handleRelease` have in common.  A letter that stands for no kind is
answered like a success (the source has an assertion there). -/
def changeRefCount (ty : PacketType) (call : ObjTy → Ptr → StatusCall) : ServerM Unit := do
  let packet ← PacketStream.readPacket (RefCount ty)
  match ObjTy.ofLetter packet.mObjTy with
  | some kind =>
    let object ← getObj packet.mID
    let err ← status (call kind object)
    replyStatus err
  | none => writeSuccess

def handleRelease : ServerM Unit := changeRefCount .release .clRelease

def handleRetain : ServerM Unit := changeRefCount .retain .clRetain

end ServerInstance

end RemoteCL

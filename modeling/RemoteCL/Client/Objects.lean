import RemoteCL.Client.Connection

/-!
# API functions: platforms, devices, contexts, queues, reference counts

The functions of `client/platform.cpp`, `client/device.cpp`, `client/context.cpp` and
`client/queue.cpp`, and the functions of all files that change a reference count.
-/

namespace RemoteCL

open ByteStream Conversation

namespace Client

/-! ## Reference counts -/

/-- What the functions that retain or release an object have in common. -/
def changeRefCount (ty : PacketType) (kind : ObjTy) (others : Int32) (object : Handle) :
    ClientM Ret :=
  catching others others do
    PacketStream.writePacket (⟨GetID object, kind.letter⟩ : RefCount ty)
    awaitSuccess

/-- The same, for an object that may be null. -/
def changeRefCountOf (ty : PacketType) (kind : ObjTy) (invalid others : Int32) :
    Option Handle → ClientM Ret
  | none => pure (.code invalid)
  | some object => changeRefCount ty kind others object

/-- The handle is not checked. -/
def clRetainDevice (device : Handle) : ClientM Ret :=
  changeRefCount .retain .device CL_DEVICE_NOT_AVAILABLE device

def clReleaseDevice (device : Handle) : ClientM Ret :=
  changeRefCount .release .device CL_DEVICE_NOT_AVAILABLE device

def clRetainContext : Option Handle → ClientM Ret :=
  changeRefCountOf .retain .context CL_INVALID_CONTEXT CL_DEVICE_NOT_AVAILABLE

def clReleaseContext : Option Handle → ClientM Ret :=
  changeRefCountOf .release .context CL_INVALID_CONTEXT CL_DEVICE_NOT_AVAILABLE

def clRetainCommandQueue : Option Handle → ClientM Ret :=
  changeRefCountOf .retain .queue CL_INVALID_COMMAND_QUEUE CL_DEVICE_NOT_AVAILABLE

def clReleaseCommandQueue : Option Handle → ClientM Ret :=
  changeRefCountOf .release .queue CL_INVALID_COMMAND_QUEUE CL_DEVICE_NOT_AVAILABLE

/-- A lost connection counts as success. -/
def clRetainProgram : Option Handle → ClientM Ret :=
  changeRefCountOf .retain .program CL_INVALID_PROGRAM CL_SUCCESS

def clReleaseProgram : Option Handle → ClientM Ret :=
  changeRefCountOf .release .program CL_INVALID_PROGRAM CL_SUCCESS

def clRetainKernel : Option Handle → ClientM Ret :=
  changeRefCountOf .retain .kernel CL_INVALID_KERNEL CL_DEVICE_NOT_AVAILABLE

def clReleaseKernel : Option Handle → ClientM Ret :=
  changeRefCountOf .release .kernel CL_INVALID_KERNEL CL_DEVICE_NOT_AVAILABLE

def clRetainMemObject : Option Handle → ClientM Ret :=
  changeRefCountOf .retain .mem CL_INVALID_VALUE CL_DEVICE_NOT_AVAILABLE

def clReleaseMemObject : Option Handle → ClientM Ret :=
  changeRefCountOf .release .mem CL_INVALID_VALUE CL_DEVICE_NOT_AVAILABLE

def clRetainEvent : Option Handle → ClientM Ret :=
  changeRefCountOf .retain .event CL_INVALID_VALUE CL_SUCCESS

def clReleaseEvent : Option Handle → ClientM Ret :=
  changeRefCountOf .release .event CL_INVALID_VALUE CL_SUCCESS

/-! ## Platforms -/

/-- The part that the functions for platform and device IDs have in common: the list arrives,
every ID in it is resolved, and as many entries are stored as there is room for.  Whether there is
an array is not looked at here. -/
def awaitEntries (kind : Kind) (num_entries : ℕ) (entries count : Bool) : ClientM Ret := do
  PacketStream.flush
  let list ← PacketStream.readPacket IDListPacket
  store count (.count list.mIDs.length)
  let objects ← resolveAll .getOrInsertObject kind list.mIDs
  if !entries && !(objects.take num_entries).isEmpty then overrun
  else do
    store entries (.entries kind (objects.take num_entries))
    pure (.code CL_SUCCESS)

def clGetPlatformIDs (num_entries : ℕ) (platforms num_platforms : Bool) : ClientM Ret :=
  if !platforms && !num_platforms then pure (.code CL_INVALID_VALUE)
  else if platforms && num_entries == 0 then pure (.code CL_INVALID_VALUE)
  else do
    store num_platforms (.count 0)
    catching CL_OUT_OF_HOST_MEMORY CL_SUCCESS do
      PacketStream.writePacket (⟨⟩ : GetPlatformIDs)
      awaitEntries .platformID num_entries platforms num_platforms

def clGetPlatformInfo (B : Build) (platform : Option Handle) (param_name : UInt32)
    (args : InfoArgs) : ClientM Ret :=
  match platform with
  | none => pure (.code CL_INVALID_PLATFORM)
  | some platform =>
    catching CL_DEVICE_NOT_AVAILABLE CL_DEVICE_NOT_AVAILABLE do
      PacketStream.writePacket (⟨GetID platform, param_name⟩ : GetPlatformInfo)
      PacketStream.flush
      let payload ← PacketStream.read .payload (decPayload B.zlib .uint8)
      storePayload args payload
      pure (.code CL_SUCCESS)

/-! ## Devices -/

def clGetDeviceIDs (platform : Option Handle) (device_type : UInt64) (num_entries : ℕ)
    (devices num_devices : Bool) : ClientM Ret :=
  if devices && num_entries == 0 then pure (.code CL_INVALID_VALUE)
  else if !devices && !num_devices then pure (.code CL_INVALID_VALUE)
  else do
    store num_devices (.count 0)
    catching CL_OUT_OF_HOST_MEMORY CL_SUCCESS do
      let platID := (platform.map GetID).getD 0
      PacketStream.writePacket (⟨platID, device_type⟩ : GetDeviceIDs)
      awaitEntries .deviceID num_entries devices num_devices

/-- A query whose answer is the ID of an object. -/
def awaitObject (how : Resolve) (kind : Kind) (args : InfoArgs) : ClientM Ret := do
  let id ← PacketStream.readPacket IDPacket
  let object ← resolve how kind id.mData
  storeHandle args kind object
  pure (.code CL_SUCCESS)

/-- A query whose answer is one value. -/
def awaitValue (T : Type) [Wire T] (args : InfoArgs) : ClientM Ret := do
  let value ← PacketStream.readPacket (SimplePacket .payload T)
  storeValue args (Wire.enc value.mData)
  pure (.code CL_SUCCESS)

/-- What the machine of the application has a part in: the bytes of a `std::size_t`, and what is in
an array of three numbers before anything has been stored there. -/
structure Host where
  sizeofSize : ℕ
  sizes : Bytes

/-- A machine of 64 bits, and an array of zeros. -/
def Host.wide : Host := ⟨8, zeros 24⟩

/-- A number of the wire as a `std::size_t`. -/
def Host.size (H : Host) (n : UInt64) : Bytes := (Wire.enc n).take H.sizeofSize

/-- A query whose answer are three sizes.  They are received into an array of 24 bytes, however many
bytes there are, and then copied one by one. -/
def awaitSizes (B : Build) (H : Host) (args : InfoArgs) : ClientM Ret := do
  let sizes ← PacketStream.read .payload (decPayloadInto B.zlib .uint8)
  if 24 < sizes.length then overrun
  else do
    store args.param_value_size_ret (.param_value_size_ret (3 * H.sizeofSize))
    store (args.param_value && decide (3 * H.sizeofSize ≤ args.param_value_size))
      (.param_value ((words 3 (storeInto H.sizes sizes)).flatMap H.size))
    pure (.code CL_SUCCESS)

/-- A query whose answer is passed on as it is. -/
def awaitPayload (B : Build) (sz : SizeT) (args : InfoArgs) : ClientM Ret := do
  let payload ← PacketStream.read .payload (decPayload B.zlib sz)
  storePayload args payload
  pure (.code CL_SUCCESS)

/-- The device queries that are answered with a size. -/
def deviceSizeParams : List UInt32 :=
  [CL_DEVICE_PRINTF_BUFFER_SIZE, CL_DEVICE_IMAGE2D_MAX_WIDTH, CL_DEVICE_IMAGE3D_MAX_WIDTH,
    CL_DEVICE_IMAGE_MAX_BUFFER_SIZE, CL_DEVICE_IMAGE2D_MAX_HEIGHT,
    CL_DEVICE_IMAGE3D_MAX_HEIGHT, CL_DEVICE_IMAGE_MAX_ARRAY_SIZE, CL_DEVICE_IMAGE3D_MAX_DEPTH,
    CL_DEVICE_IMAGE_PITCH_ALIGNMENT, CL_DEVICE_IMAGE_BASE_ADDRESS_ALIGNMENT,
    CL_DEVICE_PROFILING_TIMER_RESOLUTION, CL_DEVICE_MAX_GLOBAL_VARIABLE_SIZE,
    CL_DEVICE_GLOBAL_VARIABLE_PREFERRED_TOTAL_SIZE, CL_DEVICE_MAX_PARAMETER_SIZE,
    CL_DEVICE_MAX_WORK_GROUP_SIZE]

def clGetDeviceInfo (B : Build) (H : Host) (device : Option Handle) (param_name : UInt32)
    (args : InfoArgs) : ClientM Ret :=
  match device with
  | none => pure (.code CL_INVALID_DEVICE)
  | some device =>
    catching CL_OUT_OF_HOST_MEMORY CL_DEVICE_NOT_AVAILABLE do
      PacketStream.writePacket (⟨GetID device, param_name⟩ : GetDeviceInfo)
      PacketStream.flush
      if param_name = CL_DEVICE_PLATFORM then
        awaitObject .getOrInsertObject .platformID args
      else if param_name = CL_DEVICE_PARENT_DEVICE then
        awaitObject .getOrInsertObject .deviceID args
      else if param_name ∈ deviceSizeParams then
        awaitValue UInt64 args
      else if param_name = CL_DEVICE_MAX_WORK_ITEM_SIZES then
        awaitSizes B H args
      else
        awaitPayload B .uint32 args

/-! ## Contexts -/

/-- A property list of the application: keys and values, where the value of
`CL_CONTEXT_PLATFORM` is a platform. -/
inductive Property where
  | platform (id : Handle)
  | other (key value : UInt64)
  deriving DecidableEq

/-- A property as it crosses the wire. -/
def Property.encode : Property → List UInt64
  | platform id => [CL_CONTEXT_PLATFORM, (GetID id).toUInt64]
  | other key value => [key, value]

/-- The loop over the property list of a context, two words at a time up to a key that is zero.
`platformAt` says which platform a value points to. -/
def readProperties (platformAt : UInt64 → Handle) : List UInt64 → List Property
  | key :: value :: rest =>
    if key = 0 then []
    else
      (if key = CL_CONTEXT_PLATFORM then .platform (platformAt value) else .other key value) ::
        readProperties platformAt rest
  | _ => []

/-- The property list that a function is given; a null pointer is an empty one. -/
def propertiesAt (platformAt : UInt64 → Handle) (properties : Option (List UInt64)) :
    List Property :=
  readProperties platformAt (properties.getD [])

/-- The part that the two functions that create contexts have in common.  An error of the driver
is not told apart from a lost connection. -/
def awaitContext (errcode_ret : Bool) (p : ClientM Unit) : ClientM Ret :=
  Prog.tryCatch
    (do
      p
      let C ← awaitID .registerID .context
      store errcode_ret (.errcode_ret CL_SUCCESS)
      pure (.handle .context (some C)))
    fun _ => returnError .context errcode_ret CL_DEVICE_NOT_AVAILABLE

def clCreateContext (properties : List Property) (devices : Option (List (Option Handle)))
    (errcode_ret : Bool) : ClientM Ret :=
  match devices with
  | none | some [] => returnError .context errcode_ret CL_INVALID_PLATFORM
  | some devices =>
    match handleIDs devices with
    | none => returnError .context errcode_ret CL_INVALID_DEVICE
    | some mDevices => awaitContext errcode_ret
        (PacketStream.writePacket (⟨properties.flatMap Property.encode, mDevices⟩ : CreateContext))

/-- `callback` says that a callback or user data were given: they are not supported. -/
def clCreateContextFromType (properties : List Property) (device_type : UInt64)
    (callback errcode_ret : Bool) : ClientM Ret :=
  if callback then returnError .context errcode_ret CL_INVALID_OPERATION
  else awaitContext errcode_ret
    (PacketStream.writePacket
      (⟨device_type, properties.flatMap Property.encode⟩ : CreateContextFromType))

/-- The IDs in a reply about devices. -/
def idsOf : Bytes → List IDType
  | a :: b :: rest => UInt16.ofNat (leValue [a, b]) :: idsOf rest
  | _ => []

/-- Of the devices of a context, only those there is room for are resolved. -/
def clGetContextInfo (B : Build) (context : Option Handle) (param_name : UInt32)
    (args : InfoArgs) : ClientM Ret :=
  match context with
  | none => pure (.code CL_INVALID_CONTEXT)
  | some context =>
    catching CL_DEVICE_NOT_AVAILABLE CL_DEVICE_NOT_AVAILABLE do
      PacketStream.writePacket (⟨GetID context, param_name⟩ : GetContextInfo)
      PacketStream.flush
      let payload ← PacketStream.read .payload (decPayload B.zlib .uint8)
      if param_name = CL_CONTEXT_DEVICES then
        store args.param_value_size_ret (.param_value_size_ret (payload.length / 2 * 8))
        if args.param_value then
          let available := min (payload.length / 2) (args.param_value_size / 8)
          let devices ← resolveAll .getOrInsertObject .deviceID ((idsOf payload).take available)
          store true (.param_handles .deviceID devices)
      else
        storePrefix args payload
      pure (.code CL_SUCCESS)

def clGetSupportedImageFormats (B : Build) (context : Option Handle) (flags : UInt64)
    (image_type : UInt32) (num_entries : ℕ) (image_formats num_image_formats : Bool) :
    ClientM Ret :=
  match context with
  | none => pure (.code CL_INVALID_CONTEXT)
  | some context =>
    catching CL_DEVICE_NOT_AVAILABLE CL_DEVICE_NOT_AVAILABLE do
      PacketStream.writePacket
        (⟨GetID context, flags.toUInt32, image_type⟩ : GetImageFormats)
      PacketStream.flush
      let payload ← PacketStream.read .payload (decPayload B.zlib .uint16)
      store num_image_formats (.count (payload.length / 8))
      store image_formats (.image_formats (payload.take (num_entries * 8)))
      pure (.code CL_SUCCESS)

/-! ## Command queues -/

/-- The part that the two functions that create queues have in common. -/
def awaitQueue (errcode_ret : Bool) (p : ClientM Unit) : ClientM Ret :=
  catchingError .queue errcode_ret CL_OUT_OF_HOST_MEMORY do
    p
    let Q ← awaitID .registerID .queue
    store errcode_ret (.errcode_ret CL_SUCCESS)
    pure (.handle .queue (some Q))

def clCreateCommandQueue (context device : Option Handle) (properties : UInt64)
    (errcode_ret : Bool) : ClientM Ret :=
  match context, device with
  | none, _ => returnError .queue errcode_ret CL_INVALID_CONTEXT
  | some _, none => returnError .queue errcode_ret CL_INVALID_DEVICE
  | some context, some device =>
    awaitQueue errcode_ret
      (PacketStream.writePacket
        (⟨properties.toUInt32, GetID context, GetID device⟩ : CreateQueue))

/-- The loop over the property list of a queue. -/
def readQueueProperties : List UInt64 → List (UInt64 × UInt64)
  | key :: value :: rest => if key = 0 then [] else (key, value) :: readQueueProperties rest
  | _ => []

/-- The property list that the function is given; a null pointer is an empty one. -/
def queuePropertiesAt (properties : Option (List UInt64)) : List (UInt64 × UInt64) :=
  readQueueProperties (properties.getD [])

/-- The properties are a list of keys and values. -/
def clCreateCommandQueueWithProperties (context device : Option Handle)
    (properties : List (UInt64 × UInt64)) (errcode_ret : Bool) : ClientM Ret :=
  match context, device with
  | none, _ => returnError .queue errcode_ret CL_INVALID_CONTEXT
  | some _, none => returnError .queue errcode_ret CL_INVALID_DEVICE
  | some context, some device =>
    awaitQueue errcode_ret
      (PacketStream.writePacket
        (⟨GetID context, GetID device, properties.flatMap fun p => [p.1, p.2]⟩ :
          CreateQueueWithProp))

def clGetCommandQueueInfo (B : Build) (command_queue : Option Handle) (param_name : UInt32)
    (args : InfoArgs) : ClientM Ret :=
  match command_queue with
  | none => pure (.code CL_INVALID_COMMAND_QUEUE)
  | some queue =>
    catching CL_OUT_OF_HOST_MEMORY CL_DEVICE_NOT_AVAILABLE do
      PacketStream.writePacket (⟨GetID queue, param_name⟩ : GetQueueInfo)
      PacketStream.flush
      if param_name = CL_QUEUE_CONTEXT then
        awaitObject .getOrInsertObject .context args
      else if param_name = CL_QUEUE_DEVICE then
        awaitObject .getOrInsertObject .deviceID args
      else
        awaitPayload B .uint8 args

/-- What `clFlush` and `clFinish` have in common. -/
def queueCommand (ty : PacketType) (command_queue : Option Handle) : ClientM Ret :=
  match command_queue with
  | none => pure (.code CL_INVALID_COMMAND_QUEUE)
  | some queue =>
    catching CL_DEVICE_NOT_AVAILABLE CL_DEVICE_NOT_AVAILABLE do
      PacketStream.writePacket (⟨GetID queue⟩ : SimplePacket ty IDType)
      awaitSuccess

def clFlush (command_queue : Option Handle) : ClientM Ret := queueCommand .flush command_queue

def clFinish (command_queue : Option Handle) : ClientM Ret := queueCommand .finish command_queue

end Client

end RemoteCL

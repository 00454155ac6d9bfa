import RemoteCL.Client.Connection

/-!
# API functions: memory objects, commands, events

The functions of `client/memory.cpp`, `client/image.cpp` and `client/event.cpp`.

A function that enqueues a command sends the command, the list of events to wait for if there is
one, and the data if it writes.  Sizes and offsets are narrowed to 32 bits on the way into the
packet.
-/

namespace RemoteCL

open ByteStream Conversation

namespace Client

/-! ## Commands -/

/-- The arguments that all commands share: the events to wait for, and whether an event is
wanted. -/
structure WaitArgs where
  num_events_in_wait_list : ℕ
  event_wait_list : Option (List (Option Handle))
  event : Bool
  deriving DecidableEq

/-- The IDs of the events to wait for, or the error that ends the call. -/
def WaitArgs.eventIDs (args : WaitArgs) : Except Int32 (List IDType) :=
  if args.num_events_in_wait_list = 0 then .ok []
  else match args.event_wait_list with
  | none => .error CL_INVALID_EVENT_WAIT_LIST
  | some list =>
    match handleIDs (list.take args.num_events_in_wait_list) with
    | none => .error CL_INVALID_EVENT
    | some ids => .ok ids

/-- An event list is announced exactly when the number of events is not zero. -/
def WaitArgs.expectEventList (args : WaitArgs) : Bool :=
  decide (args.num_events_in_wait_list ≠ 0)

/-- Write the command, and the events to wait for. -/
def writeCommand {P : Type} [Packet P] [Wire P] (E : P) (args : WaitArgs)
    (eventList : List IDType) : ClientM Unit := do
  PacketStream.writePacket E
  if args.expectEventList then PacketStream.writePacket (⟨eventList⟩ : IDListPacket)

/-- The event of the command, if one is wanted. -/
def awaitEvent (args : WaitArgs) : ClientM Unit :=
  if args.event then do
    let id ← PacketStream.readPacket IDPacket
    let event ← registerID .event id.mData
    store true (.event event)
  else pure ()

/-- The end of a command that reads. -/
def awaitRead (B : Build) (args : WaitArgs) : ClientM Ret := do
  PacketStream.flush
  awaitEvent args
  let data ← PacketStream.read .payload (decPayloadInto B.zlib .uint32)
  store true (.ptr data)
  pure (.code CL_SUCCESS)

/-- The end of a command that reads nothing. -/
def awaitCommand (args : WaitArgs) : ClientM Ret := do
  PacketStream.flush
  awaitEvent args
  let _ ← PacketStream.readPacket SuccessPacket
  pure (.code CL_SUCCESS)

/-- A coordinate triple, narrowed. -/
def coords (a b c : UInt64) : Coords := #v[a.toUInt32, b.toUInt32, c.toUInt32]

/-- The checks that the functions for memory objects start with. -/
def withEvents (command_queue object : Option Handle) (args : WaitArgs)
    (p : Handle → Handle → List IDType → ClientM Ret) : ClientM Ret :=
  match command_queue, object with
  | none, _ => pure (.code CL_INVALID_COMMAND_QUEUE)
  | some _, none => pure (.code CL_INVALID_MEM_OBJECT)
  | some queue, some object =>
    match args.eventIDs with
    | .error e => pure (.code e)
    | .ok eventList =>
      catching CL_OUT_OF_HOST_MEMORY CL_DEVICE_NOT_AVAILABLE (p queue object eventList)

/-! ## Buffers -/

/-- The pattern is copied into the 128 bytes of the packet, unless it is longer. -/
def clEnqueueFillBuffer (command_queue buffer : Option Handle) (pattern : Bytes)
    (pattern_size offset size : UInt64) (args : WaitArgs) : ClientM Ret :=
  withEvents command_queue buffer args fun queue buffer eventList =>
    if 128 < pattern_size then pure (.code CL_INVALID_VALUE)
    else do
      let mPattern : Vector UInt8 128 :=
        Vector.ofFn fun i => (memRead pattern pattern_size.toNat).getD i 0
      writeCommand
        ({ mBufferID := GetID buffer, mQueueID := GetID queue, mOffset := offset.toUInt32,
           mSize := size.toUInt32, mPatternSize := pattern_size.toUInt8,
           mWantEvent := args.event, mExpectEventList := args.expectEventList,
           mPattern } : FillBuffer) args eventList
      awaitCommand args

def clEnqueueReadBuffer (B : Build) (command_queue buffer : Option Handle)
    (blocking_read : Bool) (offset size : UInt64) (args : WaitArgs) : ClientM Ret :=
  withEvents command_queue buffer args fun queue buffer eventList => do
    writeCommand
      ({ mBufferID := GetID buffer, mQueueID := GetID queue, mSize := size.toUInt32,
         mOffset := offset.toUInt32, mWantEvent := args.event,
         mExpectEventList := args.expectEventList, mBlock := blocking_read } : ReadBuffer)
      args eventList
    awaitRead B args

/-- Where a rectangle lies in a buffer and in the memory of the host. -/
structure RectArgs where
  buffer_origin : UInt64 × UInt64 × UInt64
  host_origin : UInt64 × UInt64 × UInt64
  region : UInt64 × UInt64 × UInt64
  buffer_row_pitch : UInt64
  buffer_slice_pitch : UInt64
  host_row_pitch : UInt64
  host_slice_pitch : UInt64
  deriving DecidableEq

def clEnqueueReadBufferRect (B : Build) (command_queue buffer : Option Handle)
    (blocking_read : Bool) (rect : RectArgs) (args : WaitArgs) : ClientM Ret :=
  withEvents command_queue buffer args fun queue buffer eventList => do
    writeCommand
      ({ mBufferID := GetID buffer, mQueueID := GetID queue,
         mBufferOrigin :=
           coords rect.buffer_origin.1 rect.buffer_origin.2.1 rect.buffer_origin.2.2
         mHostOrigin := coords rect.host_origin.1 rect.host_origin.2.1 rect.host_origin.2.2
         mRegion := coords rect.region.1 rect.region.2.1 rect.region.2.2
         mBufferRowPitch := rect.buffer_row_pitch.toUInt32
         mBufferSlicePitch := rect.buffer_slice_pitch.toUInt32
         mHostRowPitch := rect.host_row_pitch.toUInt32
         mHostSlicePitch := rect.host_slice_pitch.toUInt32
         mWantEvent := args.event, mExpectEventList := args.expectEventList,
         mBlock := blocking_read } : ReadBufferRect) args eventList
    awaitRead B args

def clEnqueueWriteBuffer (B : Build) (command_queue buffer : Option Handle)
    (blocking_write : Bool) (offset size : UInt64) (ptr : Bytes) (args : WaitArgs) :
    ClientM Ret :=
  withEvents command_queue buffer args fun queue buffer eventList => do
    writeCommand
      ({ mBufferID := GetID buffer, mQueueID := GetID queue, mSize := size.toUInt32,
         mOffset := offset.toUInt32, mWantEvent := args.event,
         mExpectEventList := args.expectEventList, mBlock := blocking_write } : WriteBuffer)
      args eventList
    PacketStream.write .payload (encPayloadPtr B.zlib .uint32 (memRead ptr size.toNat))
    awaitCommand args

/-- The error code is stored before the reply has arrived. -/
def awaitMemObject (errcode_ret : Bool) : ClientM Ret := do
  store errcode_ret (.errcode_ret CL_SUCCESS)
  let id ← PacketStream.readPacket IDPacket
  let object ← getOrInsertObject .memObject id.mData
  pure (.handle .memObject (some object))

def clCreateBuffer (B : Build) (context : Option Handle) (flags size : UInt64)
    (host_ptr : Option Bytes) (errcode_ret : Bool) : ClientM Ret :=
  match context with
  | none => returnError .memObject errcode_ret CL_INVALID_CONTEXT
  | some context =>
    if flags &&& CL_MEM_USE_HOST_PTR ≠ 0 then
      returnError .memObject errcode_ret CL_INVALID_OPERATION
    else catchingError .memObject errcode_ret CL_DEVICE_NOT_AVAILABLE do
      PacketStream.writePacket
        (⟨flags.toUInt32, size.toUInt32, GetID context, host_ptr.isSome⟩ : CreateBuffer)
      match host_ptr with
      | some ptr =>
        PacketStream.write .payload (encPayloadPtr B.zlib .uint32 (memRead ptr size.toNat))
      | none => pure ()
      PacketStream.flush
      awaitMemObject errcode_ret

/-- `buffer_create_info` is the origin and the size of a region. -/
def clCreateSubBuffer (buffer : Option Handle) (flags : UInt64) (buffer_create_type : UInt32)
    (buffer_create_info : Option (UInt64 × UInt64)) (errcode_ret : Bool) : ClientM Ret :=
  match buffer, buffer_create_info with
  | none, _ | some _, none => returnError .memObject errcode_ret CL_INVALID_VALUE
  | some buffer, some (origin, size) =>
    catchingError .memObject errcode_ret CL_DEVICE_NOT_AVAILABLE do
      PacketStream.writePacket
        (⟨flags.toUInt32, size.toUInt32, origin.toUInt32, buffer_create_type, GetID buffer⟩ :
          CreateSubBuffer)
      PacketStream.flush
      awaitMemObject errcode_ret

def clGetMemObjectInfo (B : Build) (memobj : Option Handle) (param_name : UInt32)
    (args : InfoArgs) : ClientM Ret :=
  match memobj with
  | none => pure (.code CL_INVALID_MEM_OBJECT)
  | some memobj =>
    catching CL_OUT_OF_HOST_MEMORY CL_DEVICE_NOT_AVAILABLE do
      PacketStream.writePacket (⟨GetID memobj, param_name⟩ : GetMemObjInfo)
      PacketStream.flush
      if param_name = CL_MEM_CONTEXT then
        let id ← PacketStream.readPacket IDPacket
        let object ← getOrInsertObject .context id.mData
        storeHandle args .context object
      else if param_name = CL_MEM_ASSOCIATED_MEMOBJECT then
        let id ← PacketStream.readPacket IDPacket
        let object ← getOrInsertObject .memObject id.mData
        storeHandle args .memObject object
      else
        let payload ← PacketStream.read .payload (decPayload B.zlib .uint8)
        storePayload args payload
      pure (.code CL_SUCCESS)

/-! ## Images -/

/-- Where a transfer takes place in an image. -/
structure ImageArgs where
  origin : UInt64 × UInt64 × UInt64
  region : UInt64 × UInt64 × UInt64
  row_pitch : UInt64
  slice_pitch : UInt64
  deriving DecidableEq

/-- The packet of an image transfer. -/
def imagePacket (ty : PacketType) (queue image : Handle) (block : Bool) (rect : ImageArgs)
    (args : WaitArgs) : ImageRW ty :=
  { mImageID := GetID image, mQueueID := GetID queue
    mRowPitch := rect.row_pitch.toUInt32, mSlicePitch := rect.slice_pitch.toUInt32
    mOrigin := coords rect.origin.1 rect.origin.2.1 rect.origin.2.2
    mRegion := coords rect.region.1 rect.region.2.1 rect.region.2.2
    mWantEvent := args.event, mExpectEventList := args.expectEventList, mBlock := block }

def clEnqueueReadImage (B : Build) (command_queue image : Option Handle) (blocking_read : Bool)
    (rect : ImageArgs) (args : WaitArgs) : ClientM Ret :=
  withEvents command_queue image args fun queue image eventList => do
    writeCommand (imagePacket .readImage queue image blocking_read rect args) args eventList
    awaitRead B args

/-- The server says how much data it needs. -/
def clEnqueueWriteImage (B : Build) (command_queue image : Option Handle)
    (blocking_write : Bool) (rect : ImageArgs) (ptr : Bytes) (args : WaitArgs) : ClientM Ret :=
  withEvents command_queue image args fun queue image eventList => do
    writeCommand (imagePacket .writeImage queue image blocking_write rect args) args eventList
    PacketStream.flush
    let dataSize ← PacketStream.readPacket (SimplePacket .payload UInt32)
    PacketStream.write .payload
      (encPayloadPtr B.zlib .uint32 (memRead ptr dataSize.mData.toNat))
    PacketStream.flush
    if args.event then awaitEvent args
    else
      let _ ← PacketStream.readPacket SuccessPacket
    pure (.code CL_SUCCESS)

/-- The format and the description of an image. -/
structure ImageDesc where
  image_channel_order : UInt32
  image_channel_data_type : UInt32
  image_type : UInt32
  image_width : UInt64
  image_height : UInt64
  image_depth : UInt64
  image_array_size : UInt64
  image_row_pitch : UInt64
  image_slice_pitch : UInt64
  num_mip_levels : UInt32
  num_samples : UInt32
  deriving DecidableEq

/-- `image_format` and `image_desc` say whether the pointers of that name are given. -/
def clCreateImage (B : Build) (context : Option Handle) (flags : UInt64)
    (image_format image_desc : Bool) (desc : ImageDesc) (host_ptr : Option Bytes)
    (errcode_ret : Bool) : ClientM Ret :=
  match context with
  | none => returnError .memObject errcode_ret CL_INVALID_CONTEXT
  | some context =>
    if !image_desc then returnError .memObject errcode_ret CL_INVALID_IMAGE_DESCRIPTOR
    else if !image_format then
      returnError .memObject errcode_ret CL_INVALID_IMAGE_FORMAT_DESCRIPTOR
    else if host_ptr.isSome ∧ (flags &&& CL_MEM_USE_HOST_PTR ≠ 0 ∨
        flags &&& CL_MEM_ALLOC_HOST_PTR ≠ 0) then
      returnError .memObject errcode_ret CL_INVALID_OPERATION
    else if flags &&& CL_MEM_COPY_HOST_PTR ≠ 0 ∧ host_ptr = none then
      returnError .memObject errcode_ret CL_INVALID_VALUE
    else catchingError .memObject errcode_ret CL_DEVICE_NOT_AVAILABLE do
      PacketStream.writePacket
        ({ mFlags := flags.toUInt32, mChannelOrder := desc.image_channel_order,
           mChannelType := desc.image_channel_data_type, mImageType := desc.image_type,
           mWidth := desc.image_width.toUInt32, mHeight := desc.image_height.toUInt32,
           mDepth := desc.image_depth.toUInt32, mArraySize := desc.image_array_size.toUInt32,
           mRowPitch := desc.image_row_pitch.toUInt32,
           mSlicePitch := desc.image_slice_pitch.toUInt32,
           mMipLevels := desc.num_mip_levels, mSamples := desc.num_samples,
           mContextID := GetID context } : CreateImage)
      PacketStream.flush
      if flags &&& CL_MEM_COPY_HOST_PTR ≠ 0 then
        let dataSize ← PacketStream.readPacket (SimplePacket .payload UInt32)
        PacketStream.write .payload
          (encPayloadPtr B.zlib .uint32 (memRead (host_ptr.getD []) dataSize.mData.toNat))
        PacketStream.flush
      awaitMemObject errcode_ret

def clGetImageInfo (B : Build) (image : Option Handle) (param_name : UInt32)
    (args : InfoArgs) : ClientM Ret :=
  match image with
  | none => pure (.code CL_INVALID_MEM_OBJECT)
  | some image =>
    catching CL_OUT_OF_HOST_MEMORY CL_DEVICE_NOT_AVAILABLE do
      PacketStream.writePacket (⟨GetID image, param_name⟩ : GetImageInfo)
      PacketStream.flush
      if param_name = CL_IMAGE_BUFFER then
        let result ← PacketStream.readPacket IDPacket
        if result.mData ≠ 0xFFFF then
          let object ← getOrInsertObject .memObject result.mData
          storeHandle args .memObject object
        else
          storeValue args (zeros 8)
      else
        let payload ← PacketStream.read .payload (decPayload B.zlib .uint8)
        storePayload args payload
      pure (.code CL_SUCCESS)

/-! ## Kernels -/

/-- The dimensions of an index space, of which the first `work_dim` are given.  The others get
default values, and zero is not a size of a work group, since it stands for none. -/
structure NDRange where
  work_dim : ℕ
  global_work_offset : Option (List UInt64)
  global_work_size : List UInt64
  local_work_size : Option (List UInt64)
  deriving DecidableEq

/-- A coordinate triple with default values from `work_dim` on. -/
def NDRange.triple (n : ℕ) (values : List UInt64) (other : UInt32) : Coords :=
  Vector.ofFn fun i => if i.val < n then (values.getD i 0).toUInt32 else other

/-- The call ends early when one of the sizes of the work group is zero. -/
def NDRange.zeroGroup (r : NDRange) : Bool :=
  match r.local_work_size with
  | some sizes => (sizes.take r.work_dim).contains 0
  | none => false

def clEnqueueNDRangeKernel (command_queue kernel : Option Handle) (r : NDRange)
    (args : WaitArgs) : ClientM Ret :=
  match command_queue, kernel with
  | none, _ => pure (.code CL_INVALID_COMMAND_QUEUE)
  | some _, none => pure (.code CL_INVALID_KERNEL)
  | some queue, some kernel =>
    if r.work_dim = 0 ∨ 3 < r.work_dim then pure (.code CL_INVALID_VALUE)
    else if r.zeroGroup then pure (.code CL_INVALID_WORK_GROUP_SIZE)
    else match args.eventIDs with
    | .error e => pure (.code e)
    | .ok eventList =>
      catching CL_SUCCESS CL_SUCCESS do
        writeCommand
          ({ mKernelID := GetID kernel, mQueueID := GetID queue,
             mWorkDim := UInt8.ofNat r.work_dim
             mGlobalSize := NDRange.triple r.work_dim r.global_work_size 1
             mGlobalOffset := NDRange.triple r.work_dim (r.global_work_offset.getD []) 0
             mLocalSize :=
               NDRange.triple (if r.local_work_size.isSome then r.work_dim else 0)
                 (r.local_work_size.getD []) 1
             mWantEvent := args.event, mExpectEventList := args.expectEventList } :
            EnqueueKernel) args eventList
        awaitCommand args

/-! ## Events -/

def clSetEventCallback (event : Option Handle) (command_exec_callback_type : UInt32)
    (pfn_notify : Option ℕ) (user_data : ℕ) : ClientM Ret :=
  match event, pfn_notify with
  | none, _ => pure (.code CL_INVALID_EVENT)
  | some _, none => pure (.code CL_INVALID_VALUE)
  | some event, some pfn_notify => do
    let s ← Prog.getState
    if !s.hasEventStream then pure (.code CL_INVALID_OPERATION)
    else
      Prog.tryCatch
        (do
          let callbackID ← registerCallback (.event event pfn_notify user_data)
          PacketStream.writeNoexcept .registerEventCallback
            (Wire.enc (⟨GetID event, callbackID.toUInt16, command_exec_callback_type⟩ :
              RegisterEventCallback))
          awaitSuccess)
        fun
          | .errorPacket e => pure (.code e)
          | .badAlloc => pure (.code CL_OUT_OF_HOST_MEMORY)
          | .terminate => Prog.throw .terminate
          | _ => pure (.code CL_DEVICE_NOT_AVAILABLE)

def clCreateUserEvent (context : Option Handle) (errcode_ret : Bool) : ClientM Ret :=
  match context with
  | none => returnError .event errcode_ret CL_INVALID_CONTEXT
  | some context =>
    catchingError .event errcode_ret CL_OUT_OF_HOST_MEMORY do
      PacketStream.writePacket (⟨GetID context⟩ : CreateUserEvent)
      let event ← awaitID .registerID .event
      store errcode_ret (.errcode_ret CL_SUCCESS)
      pure (.handle .event (some event))

def clSetUserEventStatus (event : Option Handle) (execution_status : UInt32) : ClientM Ret :=
  match event with
  | none => pure (.code CL_INVALID_EVENT)
  | some event =>
    catching CL_OUT_OF_HOST_MEMORY CL_DEVICE_NOT_AVAILABLE do
      PacketStream.writePacket (⟨GetID event, execution_status⟩ : SetUserEventStatus)
      awaitSuccess

/-- The queue and the context of an event are looked up only if the application wants them, and
are expected to be known.  Of the handle of a queue as many bytes are copied as a
`cl_command_type` has. -/
def clGetEventInfo (event : Option Handle) (param_name : UInt32) (args : InfoArgs) :
    ClientM Ret :=
  match event with
  | none => pure (.code CL_INVALID_EVENT)
  | some event =>
    catching CL_DEVICE_NOT_AVAILABLE CL_DEVICE_NOT_AVAILABLE do
      PacketStream.writePacket (⟨GetID event, param_name⟩ : GetEventInfo)
      PacketStream.flush
      if param_name = CL_EVENT_COMMAND_QUEUE then
        let id ← PacketStream.readPacket IDPacket
        store args.param_value_size_ret (.param_value_size_ret 8)
        if args.param_value && decide (8 ≤ args.param_value_size) then
          let queue ← getObject .queue id.mData
          store true (.param_handle_bytes .queue 4 queue)
      else if param_name = CL_EVENT_CONTEXT then
        let id ← PacketStream.readPacket IDPacket
        store args.param_value_size_ret (.param_value_size_ret 8)
        if args.param_value && decide (8 ≤ args.param_value_size) then
          let context ← getObject .context id.mData
          store true (.param_handles .context [context])
      else
        let payload ← PacketStream.readPacket (SimplePacket .payload UInt32)
        store args.param_value_size_ret (.param_value_size_ret 4)
        store (args.param_value && decide (4 ≤ args.param_value_size))
          (.param_value (Wire.enc payload.mData))
      pure (.code CL_SUCCESS)

def clGetEventProfilingInfo (event : Option Handle) (param_name : UInt32) (args : InfoArgs) :
    ClientM Ret :=
  match event with
  | none => pure (.code CL_INVALID_EVENT)
  | some event =>
    catching CL_DEVICE_NOT_AVAILABLE CL_DEVICE_NOT_AVAILABLE do
      PacketStream.writePacket (⟨GetID event, param_name⟩ : GetEventProfilingInfo)
      PacketStream.flush
      let payload ← PacketStream.readPacket (SimplePacket .payload UInt64)
      store args.param_value_size_ret (.param_value_size_ret 8)
      store (args.param_value && decide (8 ≤ args.param_value_size))
        (.param_value (Wire.enc payload.mData))
      pure (.code CL_SUCCESS)

def clWaitForEvents (num_events : ℕ) (event_list : Option (List (Option Handle))) :
    ClientM Ret :=
  if num_events = 0 then pure (.code CL_INVALID_VALUE)
  else match event_list with
  | none => pure (.code CL_INVALID_VALUE)
  | some list =>
    match handleIDs (list.take num_events) with
    | none => pure (.code CL_INVALID_EVENT)
    | some mIDs =>
      catching CL_OUT_OF_HOST_MEMORY CL_DEVICE_NOT_AVAILABLE do
        PacketStream.writePacket (⟨⟩ : WaitForEvents)
        PacketStream.writePacket (⟨mIDs⟩ : IDListPacket)
        awaitSuccess

end Client

end RemoteCL

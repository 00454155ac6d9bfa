import RemoteCL.Common.Packets.Basic

/-!
# Packets: requests that name objects

The packet types of `packets/context.h`, `packets/queue.h`, `packets/program.h`,
`packets/memory.h` and `packets/image.h`.  Sizes, flags and offsets cross in 32 bits, whatever
the width of the OpenCL type they come from; the narrowing is done by the caller that fills the
packet in.
-/

namespace RemoteCL

open ByteStream Wire LawfulWire

/-! ## Contexts -/

/-- `clCreateContextFromType`. -/
structure CreateContextFromType where
  mDeviceType : UInt64
  mProperties : List UInt64
  deriving DecidableEq

instance : Packet CreateContextFromType := ⟨.createContextFromType⟩

def CreateContextFromType.encode (p : CreateContextFromType) : Bytes :=
  enc p.mDeviceType ++ encList .uint8 p.mProperties

def CreateContextFromType.decode : Reader CreateContextFromType := do
  let mDeviceType : UInt64 ← dec
  let mProperties ← decList UInt64 .uint8
  pure { mDeviceType, mProperties }

instance : Wire CreateContextFromType :=
  ⟨CreateContextFromType.encode, CreateContextFromType.decode⟩

theorem reads_createContextFromType {p : CreateContextFromType}
    (h : p.mProperties.length < SizeT.range .uint8) : Reads dec (enc p) p := fun rest => by
  show CreateContextFromType.decode.run (CreateContextFromType.encode p ++ rest) = _
  simp [CreateContextFromType.encode, CreateContextFromType.decode, h]

/-- `clCreateContext`.  The devices are counted in 16 bits. -/
structure CreateContext where
  mProperties : List UInt64
  mDevices : List UInt16
  deriving DecidableEq

instance : Packet CreateContext := ⟨.createContext⟩

def CreateContext.encode (p : CreateContext) : Bytes :=
  encList .uint8 p.mProperties ++ encList .uint16 p.mDevices

def CreateContext.decode : Reader CreateContext := do
  let mProperties ← decList UInt64 .uint8
  let mDevices ← decList UInt16 .uint16
  pure { mProperties, mDevices }

instance : Wire CreateContext := ⟨CreateContext.encode, CreateContext.decode⟩

theorem reads_createContext {p : CreateContext} (hp : p.mProperties.length < SizeT.range .uint8)
    (hd : p.mDevices.length < SizeT.range .uint16) : Reads dec (enc p) p := fun rest => by
  show CreateContext.decode.run (CreateContext.encode p ++ rest) = _
  simp [CreateContext.encode, CreateContext.decode, hp, hd]

/-- The properties come first, and arrive however many devices there are. -/
theorem exists_reads_createContext {p : CreateContext}
    (hp : p.mProperties.length < SizeT.range .uint8) :
    ∃ w rest ds, enc p = w ++ rest ∧ Reads dec w (⟨p.mProperties, ds⟩ : CreateContext) := by
  obtain ⟨w, rest, hw, hreads⟩ := exists_reads_decList .uint16 p.mDevices
  refine ⟨encList .uint8 p.mProperties ++ w, rest,
    p.mDevices.take (p.mDevices.length % SizeT.range .uint16), ?_, ?_⟩
  · show CreateContext.encode p = _
    rw [CreateContext.encode, hw, List.append_assoc]
  · exact (reads_decList (fun a _ => reads_dec a) hp).bind
      (hreads.map fun l => CreateContext.mk p.mProperties l)

/-- `clGetSupportedImageFormats`. -/
structure GetImageFormats where
  mContextID : IDType
  mFlags : UInt32
  mImageType : UInt32
  deriving DecidableEq

instance : Packet GetImageFormats := ⟨.getImageFormats⟩

def GetImageFormats.encode (p : GetImageFormats) : Bytes :=
  enc p.mContextID ++ enc p.mFlags ++ enc p.mImageType

def GetImageFormats.decode : Reader GetImageFormats := do
  let mContextID : IDType ← dec
  let mFlags : UInt32 ← dec
  let mImageType : UInt32 ← dec
  pure { mContextID, mFlags, mImageType }

instance : Wire GetImageFormats := ⟨GetImageFormats.encode, GetImageFormats.decode⟩

instance : LawfulWire GetImageFormats where
  reads_dec p rest := by
    show GetImageFormats.decode.run (GetImageFormats.encode p ++ rest) = _
    simp [GetImageFormats.encode, GetImageFormats.decode]

abbrev GetContextInfo := IDParamPair .getContextInfo

/-! ## Command queues -/

/-- `clCreateCommandQueue`. -/
structure CreateQueue where
  mProp : UInt32
  mContext : IDType
  mDevice : IDType
  deriving DecidableEq

instance : Packet CreateQueue := ⟨.createQueue⟩

def CreateQueue.encode (p : CreateQueue) : Bytes :=
  enc p.mContext ++ enc p.mDevice ++ enc p.mProp

def CreateQueue.decode : Reader CreateQueue := do
  let mContext : IDType ← dec
  let mDevice : IDType ← dec
  let mProp : UInt32 ← dec
  pure { mProp, mContext, mDevice }

instance : Wire CreateQueue := ⟨CreateQueue.encode, CreateQueue.decode⟩

instance : LawfulWire CreateQueue where
  reads_dec p rest := by
    show CreateQueue.decode.run (CreateQueue.encode p ++ rest) = _
    simp [CreateQueue.encode, CreateQueue.decode]

/-- `clCreateCommandQueueWithProperties`. -/
structure CreateQueueWithProp where
  mContext : IDType
  mDevice : IDType
  mProperties : List UInt64
  deriving DecidableEq

instance : Packet CreateQueueWithProp := ⟨.createQueueWithProp⟩

def CreateQueueWithProp.encode (p : CreateQueueWithProp) : Bytes :=
  enc p.mContext ++ enc p.mDevice ++ encList .uint8 p.mProperties

def CreateQueueWithProp.decode : Reader CreateQueueWithProp := do
  let mContext : IDType ← dec
  let mDevice : IDType ← dec
  let mProperties ← decList UInt64 .uint8
  pure { mContext, mDevice, mProperties }

instance : Wire CreateQueueWithProp := ⟨CreateQueueWithProp.encode, CreateQueueWithProp.decode⟩

theorem reads_createQueueWithProp {p : CreateQueueWithProp}
    (h : p.mProperties.length < SizeT.range .uint8) : Reads dec (enc p) p := fun rest => by
  show CreateQueueWithProp.decode.run (CreateQueueWithProp.encode p ++ rest) = _
  simp [CreateQueueWithProp.encode, CreateQueueWithProp.decode, h]

abbrev GetQueueInfo := IDParamPair .getQueueInfo

abbrev QFinishPacket := SimplePacket .finish IDType

abbrev QFlushPacket := SimplePacket .flush IDType

/-! ## Programs and kernels -/

abbrev BinaryProgram := SimplePacket .createBinaryProgram IDType

abbrev ProgramSource := IDStringPair .createSourceProgram

abbrev KernelName := IDStringPair .createKernel

abbrev BuildProgram := IDStringPair .buildProgram

abbrev ProgramInfo := IDParamPair .programInfo

abbrev KernelInfo := IDParamPair .kernelInfo

abbrev CloneKernel := SimplePacket .cloneKernel IDType

/-- `clSetKernelArg`. -/
structure KernelArg where
  /-- The argument index being set. -/
  mArgIndex : UInt32
  /-- The kernel ID for this argument. -/
  mKernelID : IDType
  deriving DecidableEq

instance : Packet KernelArg := ⟨.setKernelArg⟩

def KernelArg.encode (p : KernelArg) : Bytes :=
  enc p.mKernelID ++ enc p.mArgIndex

def KernelArg.decode : Reader KernelArg := do
  let mKernelID : IDType ← dec
  let mArgIndex : UInt32 ← dec
  pure { mArgIndex, mKernelID }

instance : Wire KernelArg := ⟨KernelArg.encode, KernelArg.decode⟩

instance : LawfulWire KernelArg where
  reads_dec p rest := by
    show KernelArg.decode.run (KernelArg.encode p ++ rest) = _
    simp [KernelArg.encode, KernelArg.decode]

/-- `clGetKernelArgInfo`. -/
structure KernelArgInfo where
  mArgIndex : UInt32
  /-- What is being queried. -/
  mParam : UInt32
  mKernelID : IDType
  deriving DecidableEq

instance : Packet KernelArgInfo := ⟨.kernelArgInfo⟩

def KernelArgInfo.encode (p : KernelArgInfo) : Bytes :=
  enc p.mKernelID ++ enc p.mArgIndex ++ enc p.mParam

def KernelArgInfo.decode : Reader KernelArgInfo := do
  let mKernelID : IDType ← dec
  let mArgIndex : UInt32 ← dec
  let mParam : UInt32 ← dec
  pure { mArgIndex, mParam, mKernelID }

instance : Wire KernelArgInfo := ⟨KernelArgInfo.encode, KernelArgInfo.decode⟩

instance : LawfulWire KernelArgInfo where
  reads_dec p rest := by
    show KernelArgInfo.decode.run (KernelArgInfo.encode p ++ rest) = _
    simp [KernelArgInfo.encode, KernelArgInfo.decode]

/-- `clGetKernelWorkGroupInfo`. -/
structure KernelWGInfo where
  mKernelID : IDType
  mDeviceID : IDType
  mParam : UInt32
  deriving DecidableEq

instance : Packet KernelWGInfo := ⟨.kernelWGInfo⟩

def KernelWGInfo.encode (p : KernelWGInfo) : Bytes :=
  enc p.mKernelID ++ enc p.mDeviceID ++ enc p.mParam

def KernelWGInfo.decode : Reader KernelWGInfo := do
  let mKernelID : IDType ← dec
  let mDeviceID : IDType ← dec
  let mParam : UInt32 ← dec
  pure { mKernelID, mDeviceID, mParam }

instance : Wire KernelWGInfo := ⟨KernelWGInfo.encode, KernelWGInfo.decode⟩

instance : LawfulWire KernelWGInfo where
  reads_dec p rest := by
    show KernelWGInfo.decode.run (KernelWGInfo.encode p ++ rest) = _
    simp [KernelWGInfo.encode, KernelWGInfo.decode]

/-- `clCreateKernelsInProgram`. -/
structure CreateKernels where
  /-- The ID of the parent program. -/
  mProgramID : IDType
  /-- The number of kernels to be created. -/
  mKernelCount : UInt32
  deriving DecidableEq

instance : Packet CreateKernels := ⟨.createKernels⟩

def CreateKernels.encode (p : CreateKernels) : Bytes :=
  enc p.mProgramID ++ enc p.mKernelCount

def CreateKernels.decode : Reader CreateKernels := do
  let mProgramID : IDType ← dec
  let mKernelCount : UInt32 ← dec
  pure { mProgramID, mKernelCount }

instance : Wire CreateKernels := ⟨CreateKernels.encode, CreateKernels.decode⟩

instance : LawfulWire CreateKernels where
  reads_dec p rest := by
    show CreateKernels.decode.run (CreateKernels.encode p ++ rest) = _
    simp [CreateKernels.encode, CreateKernels.decode]

/-- `clGetProgramBuildInfo`. -/
structure ProgramBuildInfo where
  mParam : UInt32
  mProgramID : IDType
  mDeviceID : IDType
  deriving DecidableEq

instance : Packet ProgramBuildInfo := ⟨.buildInfo⟩

def ProgramBuildInfo.encode (p : ProgramBuildInfo) : Bytes :=
  enc p.mParam ++ enc p.mProgramID ++ enc p.mDeviceID

def ProgramBuildInfo.decode : Reader ProgramBuildInfo := do
  let mParam : UInt32 ← dec
  let mProgramID : IDType ← dec
  let mDeviceID : IDType ← dec
  pure { mParam, mProgramID, mDeviceID }

instance : Wire ProgramBuildInfo := ⟨ProgramBuildInfo.encode, ProgramBuildInfo.decode⟩

instance : LawfulWire ProgramBuildInfo where
  reads_dec p rest := by
    show ProgramBuildInfo.decode.run (ProgramBuildInfo.encode p ++ rest) = _
    simp [ProgramBuildInfo.encode, ProgramBuildInfo.decode]

/-- `clCompileProgram`. -/
structure CompileProgram where
  /-- The ID of the parent program. -/
  mProgramID : IDType
  /-- The build options specified. -/
  mOptions : Bytes
  /-- The list of target devices. -/
  mDeviceIDs : List IDType
  /-- The list of headers (`cl_program` IDs). -/
  mHeaderIDs : List IDType
  /-- The list of header names. -/
  mHeaderNames : List WireString
  /-- Has a callback been registered. -/
  mHasCallback : Bool
  /-- The registered callback ID. -/
  mCallbackID : IDType
  deriving DecidableEq

instance : Packet CompileProgram := ⟨.compileProgram⟩

def CompileProgram.encode (p : CompileProgram) : Bytes :=
  enc p.mProgramID ++ encString p.mOptions ++ encList .uint8 p.mDeviceIDs ++
    encList .uint8 p.mHeaderIDs ++ encList .uint8 p.mHeaderNames ++ enc p.mHasCallback ++
    if p.mHasCallback then enc p.mCallbackID else []

/-- `fresh` is what the field `mCallbackID` of the packet holds before: it has no initial value,
and is assigned only when the packet has a callback. -/
def CompileProgram.decode (fresh : IDType) : Reader CompileProgram := do
  let mProgramID : IDType ← dec
  let mOptions ← decString
  let mDeviceIDs ← decList IDType .uint8
  let mHeaderIDs ← decList IDType .uint8
  let mHeaderNames ← decList WireString .uint8
  let mHasCallback : Bool ← dec
  let mCallbackID ← if mHasCallback then dec else pure fresh
  pure
    { mProgramID, mOptions, mDeviceIDs, mHeaderIDs, mHeaderNames, mHasCallback, mCallbackID }

instance : Wire CompileProgram := ⟨CompileProgram.encode, CompileProgram.decode 0⟩

/-- The strings and lists of the packet have room in their length fields. -/
structure CompileProgram.Fits (p : CompileProgram) : Prop where
  options : StringFits p.mOptions
  devices : p.mDeviceIDs.length < SizeT.range .uint8
  headers : p.mHeaderIDs.length < SizeT.range .uint8
  names : p.mHeaderNames.length < SizeT.range .uint8
  name : ∀ s ∈ p.mHeaderNames, StringFits s.chars

/-- The packet as it arrives: the callback's ID is transmitted only if there is a callback. -/
def CompileProgram.arrived (fresh : IDType) (p : CompileProgram) : CompileProgram :=
  { p with mCallbackID := if p.mHasCallback then p.mCallbackID else fresh }

theorem reads_compileProgram {p : CompileProgram} (h : p.Fits) (fresh : IDType) :
    Reads (CompileProgram.decode fresh) p.encode (p.arrived fresh) := fun rest => by
  have hnames : ∀ {β : Type} (f : List WireString → Reader β) (rest : Bytes),
      (decList WireString .uint8 >>= f).run (encList .uint8 p.mHeaderNames ++ rest) =
        (f p.mHeaderNames).run rest :=
    (reads_decList (fun s hs => reads_wireString (h.name s hs)) h.names).run_bind
  simp only [CompileProgram.encode, CompileProgram.decode, List.append_assoc, run_dec_bind,
    run_decString_bind h.options, run_decList_bind h.devices, run_decList_bind h.headers, hnames]
  cases hcb : p.mHasCallback <;> simp [CompileProgram.arrived, hcb]

/-- `clLinkProgram`. -/
structure LinkProgram where
  /-- The parent context. -/
  mContext : IDType
  /-- The list of programs to link. -/
  mProgramIDs : List IDType
  /-- The list of target devices. -/
  mDeviceIDs : List IDType
  /-- The build options specified. -/
  mOptions : Bytes
  deriving DecidableEq

instance : Packet LinkProgram := ⟨.linkProgram⟩

def LinkProgram.encode (p : LinkProgram) : Bytes :=
  enc p.mContext ++ encString p.mOptions ++ encList .uint8 p.mDeviceIDs ++
    encList .uint8 p.mProgramIDs

def LinkProgram.decode : Reader LinkProgram := do
  let mContext : IDType ← dec
  let mOptions ← decString
  let mDeviceIDs ← decList IDType .uint8
  let mProgramIDs ← decList IDType .uint8
  pure { mContext, mProgramIDs, mDeviceIDs, mOptions }

instance : Wire LinkProgram := ⟨LinkProgram.encode, LinkProgram.decode⟩

theorem reads_linkProgram {p : LinkProgram} (ho : StringFits p.mOptions)
    (hd : p.mDeviceIDs.length < SizeT.range .uint8)
    (hp : p.mProgramIDs.length < SizeT.range .uint8) : Reads dec (enc p) p := fun rest => by
  show LinkProgram.decode.run (LinkProgram.encode p ++ rest) = _
  simp [LinkProgram.encode, LinkProgram.decode, ho, hd, hp]

/-! ## Memory objects -/

/-- `clCreateBuffer`. -/
structure CreateBuffer where
  mFlags : UInt32
  mSize : UInt32
  mContextID : IDType
  mExpectPayload : Bool
  deriving DecidableEq

instance : Packet CreateBuffer := ⟨.createBuffer⟩

def CreateBuffer.encode (p : CreateBuffer) : Bytes :=
  enc p.mFlags ++ enc p.mSize ++ enc p.mContextID ++ enc p.mExpectPayload

def CreateBuffer.decode : Reader CreateBuffer := do
  let mFlags : UInt32 ← dec
  let mSize : UInt32 ← dec
  let mContextID : IDType ← dec
  let mExpectPayload : Bool ← dec
  pure { mFlags, mSize, mContextID, mExpectPayload }

instance : Wire CreateBuffer := ⟨CreateBuffer.encode, CreateBuffer.decode⟩

instance : LawfulWire CreateBuffer where
  reads_dec p rest := by
    show CreateBuffer.decode.run (CreateBuffer.encode p ++ rest) = _
    simp [CreateBuffer.encode, CreateBuffer.decode]

/-- `clCreateSubBuffer`. -/
structure CreateSubBuffer where
  mFlags : UInt32
  mSize : UInt32
  mOffset : UInt32
  mCreateType : UInt32
  mBufferID : IDType
  deriving DecidableEq

instance : Packet CreateSubBuffer := ⟨.createSubBuffer⟩

def CreateSubBuffer.encode (p : CreateSubBuffer) : Bytes :=
  enc p.mFlags ++ enc p.mSize ++ enc p.mOffset ++ enc p.mCreateType ++ enc p.mBufferID

def CreateSubBuffer.decode : Reader CreateSubBuffer := do
  let mFlags : UInt32 ← dec
  let mSize : UInt32 ← dec
  let mOffset : UInt32 ← dec
  let mCreateType : UInt32 ← dec
  let mBufferID : IDType ← dec
  pure { mFlags, mSize, mOffset, mCreateType, mBufferID }

instance : Wire CreateSubBuffer := ⟨CreateSubBuffer.encode, CreateSubBuffer.decode⟩

instance : LawfulWire CreateSubBuffer where
  reads_dec p rest := by
    show CreateSubBuffer.decode.run (CreateSubBuffer.encode p ++ rest) = _
    simp [CreateSubBuffer.encode, CreateSubBuffer.decode]

/-- `clCreateImage`. -/
structure CreateImage where
  mFlags : UInt32
  mChannelOrder : UInt32
  mChannelType : UInt32
  mImageType : UInt32
  mWidth : UInt32
  mHeight : UInt32
  mDepth : UInt32
  mArraySize : UInt32
  mRowPitch : UInt32
  mSlicePitch : UInt32
  mMipLevels : UInt32
  mSamples : UInt32
  mContextID : IDType
  deriving DecidableEq

instance : Packet CreateImage := ⟨.createImage⟩

def CreateImage.encode (p : CreateImage) : Bytes :=
  enc p.mFlags ++ enc p.mChannelOrder ++ enc p.mChannelType ++ enc p.mImageType ++
    enc p.mWidth ++ enc p.mHeight ++ enc p.mDepth ++ enc p.mArraySize ++ enc p.mRowPitch ++
    enc p.mSlicePitch ++ enc p.mMipLevels ++ enc p.mSamples ++ enc p.mContextID

def CreateImage.decode : Reader CreateImage := do
  let mFlags : UInt32 ← dec
  let mChannelOrder : UInt32 ← dec
  let mChannelType : UInt32 ← dec
  let mImageType : UInt32 ← dec
  let mWidth : UInt32 ← dec
  let mHeight : UInt32 ← dec
  let mDepth : UInt32 ← dec
  let mArraySize : UInt32 ← dec
  let mRowPitch : UInt32 ← dec
  let mSlicePitch : UInt32 ← dec
  let mMipLevels : UInt32 ← dec
  let mSamples : UInt32 ← dec
  let mContextID : IDType ← dec
  pure
    { mFlags, mChannelOrder, mChannelType, mImageType, mWidth, mHeight, mDepth, mArraySize,
      mRowPitch, mSlicePitch, mMipLevels, mSamples, mContextID }

instance : Wire CreateImage := ⟨CreateImage.encode, CreateImage.decode⟩

instance : LawfulWire CreateImage where
  reads_dec p rest := by
    show CreateImage.decode.run (CreateImage.encode p ++ rest) = _
    simp [CreateImage.encode, CreateImage.decode]

abbrev GetMemObjInfo := IDParamPair .getMemObjInfo

abbrev GetImageInfo := IDParamPair .getImageInfo

end RemoteCL

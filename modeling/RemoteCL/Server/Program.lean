import Mathlib.Data.List.Infix
import RemoteCL.Server.Instance

/-!
# Request handlers: programs and kernels

The handlers of `server/program.cpp`.
-/

namespace RemoteCL

open ByteStream Conversation

namespace ServerInstance

/-! ## Programs -/

def createProgramFromSource : ServerM Unit := do
  let source ← PacketStream.readPacket ProgramSource
  let context ← getObj source.mID
  let a ← create (.clCreateProgramWithSource context source.mString)
  replyCreated a

/-- The payloads of a request, one for each device. -/
def readBinaries (B : ServerBuild) : ℕ → ServerM (List Bytes)
  | 0 => pure []
  | n + 1 => do
    let binary ← readPayload B
    let binaries ← readBinaries B n
    pure (binary :: binaries)

/-- The bytes of an array of `cl_int`. -/
def intBytes (status : List Int32) : Bytes := status.flatMap Wire.enc

def createProgramFromBinary (B : ServerBuild) : ServerM Unit := do
  let packet ← PacketStream.readPacket BinaryProgram
  let context ← getObj packet.mData
  let listPacket ← PacketStream.readPacket IDListPacket
  let deviceList ← getObjs listPacket.mIDs
  let binaries ← readBinaries B deviceList.length
  let a ← Prog.ask (ServerCall.clCreateProgramWithBinary context deviceList binaries)
  if a.err ≠ CL_SUCCESS then writeError a.err
  else
    writeID a.object
    writePayloadPtr B .uint16
      (intBytes (storeInto (List.replicate binaries.length 0) a.status))

/-- The block of a program's callback.  `compileProgram` sets the ID, and not the instance. -/
structure CallbackBlock where
  instancePtr : Ptr
  /-- Client-side ID for the callback. -/
  ID : IDType
  deriving DecidableEq

/-- The driver calls this in a thread of its own.  It writes to the event stream, and does not flush
it. -/
def triggerProgramCallback (callbackID : IDType) : ServerM Unit :=
  PacketStream.noexcept do
    let s ← Prog.getState
    if s.mEventStream.isNone then pure ()
    else PacketStream.writePacket (⟨callbackID.toUInt32⟩ : CallbackTriggerPacket)

/-- The function that the driver is given, on the server at the address `this`.  What it does is not
defined if the block does not point there. -/
def ProgramCallback (this : Ptr) (block : CallbackBlock) : Option (ServerM Unit) :=
  if block.instancePtr = this then some (triggerProgramCallback block.ID) else none

def compileProgram : ServerM Unit := do
  let packet ← PacketStream.readPacket CompileProgram
  let program ← getObj packet.mProgramID
  let devices ← getObjs packet.mDeviceIDs
  let headers ← getObjs packet.mHeaderIDs
  let headerNames := packet.mHeaderNames.map fun name => cStr name.chars
  let callback := if packet.mHasCallback then some packet.mCallbackID else none
  let err ← status (.clCompileProgram program devices (cStr packet.mOptions) headers headerNames
    callback)
  replyStatus err

def linkProgram : ServerM Unit := do
  let packet ← PacketStream.readPacket LinkProgram
  let context ← getObj packet.mContext
  let devices ← getObjs packet.mDeviceIDs
  let programs ← getObjs packet.mProgramIDs
  let a ← create (.clLinkProgram context devices (cStr packet.mOptions) programs)
  replyCreated a

/-- The option that makes the types of kernel arguments known. -/
def kernelArgInfoOption : Bytes := "-cl-kernel-arg-info".toList.map Char.toUInt8

/-- The options of a build: the one above is added unless it is there. -/
def buildOptions (options : Bytes) : Bytes :=
  if kernelArgInfoOption <:+: options then options
  else options ++ ' '.toUInt8 :: kernelArgInfoOption

def buildProgram : ServerM Unit := do
  let build ← PacketStream.readPacket BuildProgram
  let idspc ← PacketStream.readPacket IDListPacket
  let ids ← getObjs idspc.mIDs
  let program ← getObj build.mID
  let err ← status (.clBuildProgram program ids (cStr (buildOptions build.mString)))
  replyStatus err

/-- The second query has the size of the first: a longer answer is not fetched, and the reply is
filled up with zeros. -/
def getProgramBuildInfo (B : ServerBuild) : ServerM Unit := do
  let request ← PacketStream.readPacket ProgramBuildInfo
  let program ← getObj request.mProgramID
  let device ← getObj request.mDeviceID
  let q := InfoQuery.clGetProgramBuildInfo program device request.mParam
  let a ← info q 1024
  if a.err ≠ CL_SUCCESS then writeError a.err
  else
    let mData := storeInto (zeros 1024) a.data
    let replySize := a.size.getD 0
    let (mData, replySize) ←
      if 1024 < replySize then do
        let b ← info q 1024
        pure (storeInto mData b.data, b.size.getD replySize)
      else pure (mData, replySize)
    resize 1 replySize
    writePayload B .uint32 (memRead mData replySize)

/-- Buffers of the given sizes, filled with what the driver stores. -/
def fillBinaries : List ℕ → List Bytes → List Bytes
  | [], _ => []
  | size :: sizes, binaries =>
    storeInto (zeros size) (binaries.headD []) :: fillBinaries sizes binaries.tail

/-- A `resize` for each binary. -/
def resizeAll : List ℕ → ServerM Unit
  | [] => pure ()
  | size :: sizes => do
    resize 1 size
    resizeAll sizes

/-- Write each binary. -/
def writeBinaries (B : ServerBuild) : List Bytes → ServerM Unit
  | [] => pure ()
  | binary :: binaries => do
    writePayload B .uint16 binary
    writeBinaries B binaries

def getProgramInfo (B : ServerBuild) : ServerM Unit := do
  let query ← PacketStream.readPacket ProgramInfo
  let program ← getObj query.mID
  let param := query.mData
  let q := InfoQuery.clGetProgramInfo program param
  let first ← info q 0
  if first.err ≠ CL_SUCCESS then writeError first.err
  else
    let retSize := first.size.getD 0
    if param = CL_PROGRAM_CONTEXT then
      let a ← info q 8
      writeID (wordAt (storeInto (zeros 8) a.data))
    else if param = CL_PROGRAM_DEVICES then
      resize 8 (retSize / 8)
      let a ← info q retSize
      writeIDs (words (retSize / 8) (storeInto (zeros (8 * (retSize / 8))) a.data))
    else if param = CL_PROGRAM_BINARIES then
      let count := retSize / 8
      resize 8 count
      let a ← info (.clGetProgramInfo program CL_PROGRAM_BINARY_SIZES) (8 * count)
      if a.err ≠ CL_SUCCESS then writeError a.err
      else
        let sizes := (words count (storeInto (zeros (8 * count)) a.data)).map UInt64.toNat
        resizeAll sizes
        let b ← Prog.ask (ServerCall.programBinaries program sizes)
        writeValue (UInt8.ofNat sizes.length)
        writeBinaries B (fillBinaries sizes b.binaries)
    else
      resize 1 retSize
      let a ← info q retSize
      if a.err ≠ CL_SUCCESS then writeError a.err
      else writePayload B .uint32 (storeInto (zeros retSize) a.data)

/-! ## Kernels -/

def createKernel : ServerM Unit := do
  let name ← PacketStream.readPacket KernelName
  let program ← getObj name.mID
  let a ← create (.clCreateKernel program (cStr name.mString))
  replyCreated a

/-- With no kernels requested this is a query for their number. -/
def createKernels : ServerM Unit := do
  let packet ← PacketStream.readPacket CreateKernels
  let program ← getObj packet.mProgramID
  let a ← Prog.ask (ServerCall.clCreateKernelsInProgram program packet.mKernelCount)
  if a.err ≠ CL_SUCCESS then writeError a.err
  else if packet.mKernelCount = 0 then
    writeValue (UInt32.ofNat (a.count.getD 0))
  else
    let kernelCount := a.count.getD 0
    let kernels := storeInto (List.replicate packet.mKernelCount.toNat 0) a.objects
    writeIDs (kernels.take kernelCount ++
      List.replicate (kernelCount - packet.mKernelCount.toNat) 0)

/-- Cloning is compiled in for OpenCL 2.1 and later.  Without it the request is answered, but
not read. -/
def cloneKernel (B : ServerBuild) : ServerM Unit :=
  if 210 ≤ B.clTarget then do
    let ID ← PacketStream.readPacket CloneKernel
    let kernel ← getObj ID.mData
    let a ← create (.clCloneKernel kernel)
    replyCreated a
  else
    writeError CL_INVALID_OPERATION

/-- The type of an argument decides what the client is asked for: the ID of a memory object, a
size of local memory, or the bytes of a value. -/
def setKernelArg (B : ServerBuild) : ServerM Unit := do
  let arg ← PacketStream.readPacket KernelArg
  let kernel ← getObj arg.mKernelID
  let a ← info (.clGetKernelArgInfo kernel arg.mArgIndex CL_KERNEL_ARG_ADDRESS_QUALIFIER) 4
  if a.err ≠ CL_SUCCESS then writeError a.err
  else
    let AS := UInt32.ofNat (leValue (storeInto (zeros 4) a.data))
    if AS = CL_KERNEL_ARG_ADDRESS_GLOBAL ∨ AS = CL_KERNEL_ARG_ADDRESS_CONSTANT then
      writeValue 'I'.toUInt8
      PacketStream.flush
      let argID ← PacketStream.readPacket IDPacket
      let memObj ← getObj argID.mData
      let err ← status (.clSetKernelArg kernel arg.mArgIndex 8 (some (Wire.enc memObj)))
      replyStatus err
    else if AS = CL_KERNEL_ARG_ADDRESS_LOCAL then
      writeValue 'S'.toUInt8
      PacketStream.flush
      let size ← PacketStream.readPacket (SimplePacket .payload UInt32)
      let err ← status (.clSetKernelArg kernel arg.mArgIndex size.mData.toNat none)
      replyStatus err
    else
      writeValue 'P'.toUInt8
      PacketStream.flush
      let payload ← readPayload B
      let err ← status (.clSetKernelArg kernel arg.mArgIndex payload.length (some payload))
      replyStatus err

def getKernelInfo (B : ServerBuild) : ServerM Unit := do
  let query ← PacketStream.readPacket KernelInfo
  let kernel ← getObj query.mID
  let q := InfoQuery.clGetKernelInfo kernel query.mData
  if query.mData = CL_KERNEL_CONTEXT ∨ query.mData = CL_KERNEL_PROGRAM then
    replyObject q
  else if query.mData = CL_KERNEL_REFERENCE_COUNT ∨ query.mData = CL_KERNEL_NUM_ARGS then
    replyUInt q
  else
    replyRaw B .uint32 false q

def getKernelArgInfo (B : ServerBuild) : ServerM Unit := do
  let query ← PacketStream.readPacket KernelArgInfo
  let kernel ← getObj query.mKernelID
  let q := InfoQuery.clGetKernelArgInfo kernel query.mArgIndex query.mParam
  if query.mParam = CL_KERNEL_ARG_ACCESS_QUALIFIER ∨
      query.mParam = CL_KERNEL_ARG_TYPE_QUALIFIER ∨
      query.mParam = CL_KERNEL_ARG_ADDRESS_QUALIFIER then
    replyUInt q
  else
    replyRaw B .uint32 false q

def getKernelWGInfo (B : ServerBuild) : ServerM Unit := do
  let query ← PacketStream.readPacket KernelWGInfo
  let device ← getObj query.mDeviceID
  let kernel ← getObj query.mKernelID
  let q := InfoQuery.clGetKernelWorkGroupInfo kernel device query.mParam
  if query.mParam = CL_KERNEL_COMPILE_WORK_GROUP_SIZE then
    replySizes B q
  else if query.mParam = CL_KERNEL_LOCAL_MEM_SIZE ∨
      query.mParam = CL_KERNEL_PREFERRED_WORK_GROUP_SIZE_MULTIPLE ∨
      query.mParam = CL_KERNEL_WORK_GROUP_SIZE then
    replySize q
  else
    replyRaw B .uint32 false q

end ServerInstance

end RemoteCL

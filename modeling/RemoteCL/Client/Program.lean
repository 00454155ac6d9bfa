import RemoteCL.Client.Objects

/-!
# API functions: programs and kernels

The functions of `client/program.cpp` and `client/kernel.cpp`.
-/

namespace RemoteCL

open ByteStream Conversation

namespace Client

/-! ## Programs -/

/-- The sources of a program, one after the other: a line is as long as it is said to be, or up
to its terminator if nothing is said.  `none` if one of the lines is a null pointer. -/
def joinSources : List (Option Bytes × ℕ) → Option Bytes
  | [] => some []
  | (none, _) :: _ => none
  | (some line, length) :: lines =>
    (joinSources lines).map ((if length = 0 then cStr line else memRead line length) ++ ·)

/-- `strings` has a line and a length for each of the lines; the length is zero where the
application gives none. -/
def clCreateProgramWithSource (context : Option Handle)
    (strings : Option (List (Option Bytes × ℕ))) (errcode_ret : Bool) : ClientM Ret :=
  match context, strings with
  | none, _ => returnError .program errcode_ret CL_INVALID_CONTEXT
  | some _, none | some _, some [] => returnError .program errcode_ret CL_INVALID_CONTEXT
  | some context, some lines =>
    match joinSources lines with
    | none => returnError .program errcode_ret CL_INVALID_VALUE
    | some mString =>
      catchingError .program errcode_ret CL_OUT_OF_HOST_MEMORY do
        PacketStream.writePacket (⟨GetID context, mString⟩ : ProgramSource)
        let P ← awaitID .registerID .program
        store errcode_ret (.errcode_ret CL_SUCCESS)
        pure (.handle .program (some P))

/-- The payloads of a request, one for each device. -/
def writeBinaries (B : Build) : List Bytes → ClientM Unit
  | [] => pure ()
  | binary :: binaries => do
    PacketStream.write .payload (encPayloadPtr B.zlib .uint32 binary)
    writeBinaries B binaries

/-- `binaries` has the bytes of the binary of each device: none where the pointer is null.  The
status is read in two ways, of which one throws it away. -/
def clCreateProgramWithBinary (B : Build) (context : Option Handle)
    (device_list : Option (List (Option Handle))) (binaries : Option (List Bytes))
    (binary_status errcode_ret : Bool) : ClientM Ret :=
  match context, device_list, binaries with
  | none, _, _ => returnError .program errcode_ret CL_INVALID_CONTEXT
  | some _, none, _ | some _, some [], _ | some _, some _, none =>
    returnError .program errcode_ret CL_INVALID_VALUE
  | some context, some devices, some binaries =>
    match handleIDs devices with
    | none => returnError .program errcode_ret CL_INVALID_DEVICE
    | some mIDs =>
      catchingError .program errcode_ret CL_OUT_OF_HOST_MEMORY do
        PacketStream.writePacket (⟨GetID context⟩ : BinaryProgram)
        PacketStream.writePacket (⟨mIDs⟩ : IDListPacket)
        writeBinaries B ((List.range devices.length).map fun bin => binaries.getD bin [])
        let P ← awaitID .registerID .program
        if binary_status then
          let status ← PacketStream.read .payload (decPayloadInto B.zlib .uint16)
          store true (.binary_status status)
        else
          let _ ← PacketStream.read .payload (decPayload B.zlib .uint16)
        store errcode_ret (.errcode_ret CL_SUCCESS)
        pure (.handle .program (some P))

/-- The `std::string` made of a terminated string; an empty one for a null pointer. -/
def stringOf (s : Option Bytes) : Bytes := cStr (s.getD [])

/-- A callback function and its data, of which either may be null. -/
structure Notify where
  pfn_notify : Option ℕ
  user_data : Option ℕ
  deriving DecidableEq

/-- Data without a function. -/
def Notify.invalid (n : Notify) : Bool := n.pfn_notify.isNone && n.user_data.isSome

/-- A list of devices that is given if and only if it is not empty.  An array of the application
is a null pointer or has entries; its number of entries is given separately. -/
def invalidList (n : ℕ) (list : Option (List (Option Handle))) : Bool :=
  (list.isNone && decide (0 < n)) || (list.isSome && decide (n = 0))

/-- The entries that an array and its number stand for. -/
def entriesOf (n : ℕ) (list : Option (List (Option Handle))) : List (Option Handle) :=
  (list.getD []).take n

/-- The first header, or its name, is a null pointer. -/
def nullHeader (input_headers : Option (List (Option Handle)))
    (header_include_names : Option (List (Option Bytes))) : Bool :=
  (input_headers.getD []).head? == some none ||
    (header_include_names.getD []).head? == some none

/-- The vectors for the headers are reserved, but never resized: already the first entry is stored
behind the end of a vector. -/
def clCompileProgram (program : Option Handle) (num_devices : ℕ)
    (device_list : Option (List (Option Handle))) (options : Option Bytes)
    (num_input_headers : ℕ) (input_headers : Option (List (Option Handle)))
    (header_include_names : Option (List (Option Bytes))) (notify : Notify) : ClientM Ret :=
  match program with
  | none => pure (.code CL_INVALID_PROGRAM)
  | some program =>
    if invalidList num_devices device_list then pure (.code CL_INVALID_VALUE)
    else if num_input_headers = 0 ∧ (input_headers.isSome ∨ header_include_names.isSome) then
      pure (.code CL_INVALID_VALUE)
    else if num_input_headers ≠ 0 ∧ (input_headers.isNone ∨ header_include_names.isNone) then
      pure (.code CL_INVALID_VALUE)
    else if notify.invalid then pure (.code CL_INVALID_VALUE)
    else match handleIDs (entriesOf num_devices device_list) with
    | none => pure (.code CL_INVALID_DEVICE)
    | some mDeviceIDs =>
      if num_input_headers ≠ 0 then
        if nullHeader input_headers header_include_names then pure (.code CL_INVALID_VALUE)
        else overrun
      else catching CL_OUT_OF_HOST_MEMORY CL_DEVICE_NOT_AVAILABLE do
        let s ← Prog.getState
        let mHasCallback := notify.pfn_notify.isSome && s.hasEventStream
        let callbackID ←
          if mHasCallback then
            registerCallback (.program program (notify.pfn_notify.getD 0)
              (notify.user_data.getD 0))
          else pure 0
        PacketStream.writePacket
          ({ mProgramID := GetID program, mOptions := stringOf options, mDeviceIDs,
             mHeaderIDs := [], mHeaderNames := [], mHasCallback,
             mCallbackID := callbackID.toUInt16 } : CompileProgram)
        PacketStream.flush
        let _ ← PacketStream.readPacket SuccessPacket
        -- if the callback was not sent to the server, trigger it now
        store (notify.pfn_notify.isSome && !mHasCallback)
          (.notify (.object program) (notify.pfn_notify.getD 0) (notify.user_data.getD 0))
        pure (.code CL_SUCCESS)

/-- The error code is not stored on success. -/
def clLinkProgram (context : Option Handle) (num_devices : ℕ)
    (device_list : Option (List (Option Handle))) (options : Option Bytes)
    (num_input_programs : ℕ) (input_programs : Option (List (Option Handle))) (notify : Notify)
    (errcode_ret : Bool) : ClientM Ret :=
  match context with
  | none => returnError .program errcode_ret CL_INVALID_CONTEXT
  | some context =>
    if invalidList num_devices device_list || notify.invalid || num_input_programs == 0 ||
        input_programs.isNone then
      returnError .program errcode_ret CL_INVALID_VALUE
    else match handleIDs (entriesOf num_devices device_list),
        handleIDs (entriesOf num_input_programs input_programs) with
    | none, _ => returnError .program errcode_ret CL_INVALID_DEVICE
    | some _, none => returnError .program errcode_ret CL_INVALID_VALUE
    | some mDeviceIDs, some mProgramIDs =>
      catchingError .program errcode_ret CL_OUT_OF_HOST_MEMORY do
        PacketStream.writePacket
          ({ mContext := GetID context, mOptions := stringOf options, mDeviceIDs,
             mProgramIDs } : LinkProgram)
        let P ← awaitID .registerID .program
        store notify.pfn_notify.isSome
          (.notify P (notify.pfn_notify.getD 0) (notify.user_data.getD 0))
        pure (.handle .program (some P))

def clBuildProgram (program : Option Handle) (num_devices : ℕ)
    (device_list : Option (List (Option Handle))) (options : Option Bytes) (notify : Notify) :
    ClientM Ret :=
  match program with
  | none => pure (.code CL_INVALID_PROGRAM)
  | some program =>
    if invalidList num_devices device_list || notify.invalid then pure (.code CL_INVALID_VALUE)
    else match handleIDs (entriesOf num_devices device_list) with
    | none => pure (.code CL_INVALID_DEVICE)
    | some mIDs =>
      catching CL_OUT_OF_HOST_MEMORY CL_DEVICE_NOT_AVAILABLE do
        PacketStream.writePacket (⟨GetID program, stringOf options⟩ : BuildProgram)
        PacketStream.writePacket (⟨mIDs⟩ : IDListPacket)
        awaitSuccess

def clGetProgramBuildInfo (B : Build) (program device : Option Handle) (param_name : UInt32)
    (args : InfoArgs) : ClientM Ret :=
  match program, device with
  | none, _ => pure (.code CL_INVALID_PROGRAM)
  | some _, none => pure (.code CL_INVALID_DEVICE)
  | some program, some device =>
    catching CL_OUT_OF_HOST_MEMORY CL_DEVICE_NOT_AVAILABLE do
      PacketStream.writePacket
        (⟨param_name, GetID program, GetID device⟩ : ProgramBuildInfo)
      PacketStream.flush
      let payload ← PacketStream.read .payload (decPayload B.zlib .uint32)
      storePrefix args payload
      pure (.code CL_SUCCESS)

/-- The payloads of a reply, one for each binary. -/
def readBinaries (B : Build) : ℕ → ClientM (List Bytes)
  | 0 => pure []
  | n + 1 => do
    let binary ← PacketStream.read .payload (decPayload B.zlib .uint16)
    let binaries ← readBinaries B n
    pure (binary :: binaries)

/-- The context and the devices of a program are looked up only if the application wants them,
and are expected to be known. -/
def clGetProgramInfo (B : Build) (program : Option Handle) (param_name : UInt32)
    (args : InfoArgs) : ClientM Ret :=
  match program with
  | none => pure (.code CL_INVALID_PROGRAM)
  | some program =>
    catching CL_OUT_OF_HOST_MEMORY CL_DEVICE_NOT_AVAILABLE do
      PacketStream.writePacket (⟨GetID program, param_name⟩ : ProgramInfo)
      PacketStream.flush
      if param_name = CL_PROGRAM_CONTEXT then
        let id ← PacketStream.readPacket IDPacket
        let context ← getObject .context id.mData
        store args.param_value_size_ret (.param_value_size_ret 8)
        store (args.param_value && decide (8 ≤ args.param_value_size))
          (.param_handles .context [context])
      else if param_name = CL_PROGRAM_DEVICES then
        let list ← PacketStream.readPacket IDListPacket
        store args.param_value_size_ret (.param_value_size_ret (list.mIDs.length * 8))
        if args.param_value && decide (list.mIDs.length * 8 ≤ args.param_value_size) then
          let devices ← resolveAll .getObject .deviceID list.mIDs
          store true (.param_handles .deviceID devices)
      else if param_name = CL_PROGRAM_BINARIES then
        let binaryCount ← PacketStream.readPacket (SimplePacket .payload UInt8)
        let binaries ← readBinaries B binaryCount.mData.toNat
        store args.param_value_size_ret
          (.param_value_size_ret (binaryCount.mData.toNat * 8))
        store args.param_value (.binaries binaries)
      else
        let payload ← PacketStream.read .payload (decPayload B.zlib .uint32)
        storePrefix args payload
      pure (.code CL_SUCCESS)

/-! ## Kernels -/

def clCreateKernel (program : Option Handle) (kernel_name : Option Bytes) (errcode_ret : Bool) :
    ClientM Ret :=
  match program, kernel_name with
  | none, _ => returnError .kernel errcode_ret CL_INVALID_PROGRAM
  | some _, none => returnError .kernel errcode_ret CL_INVALID_KERNEL_NAME
  | some program, some kernel_name =>
    catchingError .kernel errcode_ret CL_OUT_OF_HOST_MEMORY do
      PacketStream.writePacket (⟨GetID program, cStr kernel_name⟩ : KernelName)
      PacketStream.flush
      let kernelID ← PacketStream.readPacket IDPacket
      store errcode_ret (.errcode_ret CL_SUCCESS)
      let kernel ← registerID .kernel kernelID.mData
      pure (.handle .kernel (some kernel))

/-- Each of the kernels is registered and stored, and counted where the application has its
count. -/
def storeKernels (num_kernels_ret : Bool) : List IDType → ClientM Unit
  | [] => pure ()
  | id :: ids => do
    let kernel ← registerID .kernel id
    store true (.next_entry .kernel kernel)
    store num_kernels_ret (.count_add 1)
    storeKernels num_kernels_ret ids

def clCreateKernelsInProgram (program : Option Handle) (num_kernels : UInt32)
    (kernels num_kernels_ret : Bool) : ClientM Ret :=
  match program with
  | none => pure (.code CL_INVALID_PROGRAM)
  | some program =>
    if decide (num_kernels ≠ 0) && !kernels then pure (.code CL_INVALID_VALUE)
    else if decide (num_kernels = 0) && kernels then pure (.code CL_INVALID_VALUE)
    else catching CL_OUT_OF_HOST_MEMORY CL_DEVICE_NOT_AVAILABLE do
      PacketStream.writePacket (⟨GetID program, num_kernels⟩ : CreateKernels)
      PacketStream.flush
      if num_kernels = 0 then
        let count ← PacketStream.readPacket (SimplePacket .payload UInt32)
        store num_kernels_ret (.count count.mData.toNat)
      else
        let list ← PacketStream.readPacket IDListPacket
        storeKernels num_kernels_ret list.mIDs
      pure (.code CL_SUCCESS)

/-- What `arg_value` points to: the bytes, and the handle that they are if they are the handle of a
memory object and not null. -/
structure ArgValue where
  bytes : Bytes
  object : Option Handle
  deriving DecidableEq

/-- The second packet for a kernel argument: the server has asked for an ID, a size or the value.  A
null pointer that is followed ends the process, and the program goes no further. -/
def writeArg (B : Build) (what : UInt8) (arg_size : ℕ) (arg_value : Option ArgValue) :
    ClientM Unit :=
  if what = 'I'.toUInt8 ∧ arg_size = 8 then
    match arg_value.bind ArgValue.object with
    | some obj => PacketStream.writePacket (⟨GetID obj⟩ : IDPacket)
    | none => Prog.spin
  else if what = 'S'.toUInt8 then
    PacketStream.writePacket (⟨UInt32.ofNat arg_size⟩ : SimplePacket .payload UInt32)
  else
    match arg_value with
    | some value =>
      PacketStream.write .payload (encPayload B.zlib .uint32 (memRead value.bytes arg_size))
    | none =>
      if arg_size = 0 then PacketStream.write .payload (encPayload B.zlib .uint32 [])
      else Prog.spin

def clSetKernelArg (B : Build) (kernel : Option Handle) (arg_index : UInt32) (arg_size : ℕ)
    (arg_value : Option ArgValue) : ClientM Ret :=
  match kernel with
  | none => pure (.code CL_INVALID_KERNEL)
  | some kernel =>
    catching CL_OUT_OF_HOST_MEMORY CL_DEVICE_NOT_AVAILABLE do
      PacketStream.writePacket (⟨arg_index, GetID kernel⟩ : KernelArg)
      PacketStream.flush
      let what ← PacketStream.readPacket (SimplePacket .payload UInt8)
      writeArg B what.mData arg_size arg_value
      awaitSuccess

/-- The scalar sizes are converted before they are stored. -/
def clGetKernelWorkGroupInfo (B : Build) (H : Host) (kernel device : Option Handle)
    (param_name : UInt32) (args : InfoArgs) : ClientM Ret :=
  match kernel, device with
  | none, _ => pure (.code CL_INVALID_KERNEL)
  | some _, none => pure (.code CL_INVALID_DEVICE)
  | some kernel, some device =>
    catching CL_OUT_OF_HOST_MEMORY CL_DEVICE_NOT_AVAILABLE do
      PacketStream.writePacket (⟨GetID kernel, GetID device, param_name⟩ : KernelWGInfo)
      PacketStream.flush
      if param_name = CL_KERNEL_COMPILE_WORK_GROUP_SIZE then
        awaitSizes B H args
      else if param_name = CL_KERNEL_LOCAL_MEM_SIZE ∨
          param_name = CL_KERNEL_PREFERRED_WORK_GROUP_SIZE_MULTIPLE ∨
          param_name = CL_KERNEL_WORK_GROUP_SIZE then
        let value ← PacketStream.readPacket (SimplePacket .payload UInt64)
        storeValue args (H.size value.mData)
        pure (.code CL_SUCCESS)
      else
        awaitPayload B .uint32 args

def clGetKernelInfo (B : Build) (kernel : Option Handle) (param_name : UInt32)
    (args : InfoArgs) : ClientM Ret :=
  match kernel with
  | none => pure (.code CL_INVALID_KERNEL)
  | some kernel =>
    catching CL_OUT_OF_HOST_MEMORY CL_DEVICE_NOT_AVAILABLE do
      PacketStream.writePacket (⟨GetID kernel, param_name⟩ : KernelInfo)
      PacketStream.flush
      if param_name = CL_KERNEL_CONTEXT then
        awaitObject .getOrInsertObject .context args
      else if param_name = CL_KERNEL_PROGRAM then
        awaitObject .getOrInsertObject .program args
      else if param_name = CL_KERNEL_REFERENCE_COUNT ∨ param_name = CL_KERNEL_NUM_ARGS then
        awaitValue UInt32 args
      else
        awaitPayload B .uint32 args

/-- `Store<T>` converts the value to a type of the query's own: the type qualifier is a bit field
of 64 bits. -/
def clGetKernelArgInfo (B : Build) (kernel : Option Handle) (arg_indx param_name : UInt32)
    (args : InfoArgs) : ClientM Ret :=
  match kernel with
  | none => pure (.code CL_INVALID_KERNEL)
  | some kernel =>
    catching CL_OUT_OF_HOST_MEMORY CL_DEVICE_NOT_AVAILABLE do
      PacketStream.writePacket (⟨arg_indx, param_name, GetID kernel⟩ : KernelArgInfo)
      PacketStream.flush
      if param_name = CL_KERNEL_ARG_ACCESS_QUALIFIER ∨
          param_name = CL_KERNEL_ARG_ADDRESS_QUALIFIER then
        awaitValue UInt32 args
      else if param_name = CL_KERNEL_ARG_TYPE_QUALIFIER then
        let value ← PacketStream.readPacket (SimplePacket .payload UInt32)
        storeValue args (Wire.enc value.mData.toUInt64)
        pure (.code CL_SUCCESS)
      else
        awaitPayload B .uint32 args

def clCloneKernel (source_kernel : Option Handle) (errcode_ret : Bool) : ClientM Ret :=
  match source_kernel with
  | none => returnError .kernel errcode_ret CL_INVALID_KERNEL
  | some kernel =>
    catchingError .kernel errcode_ret CL_OUT_OF_HOST_MEMORY do
      PacketStream.writePacket (⟨GetID kernel⟩ : CloneKernel)
      PacketStream.flush
      let kernelID ← PacketStream.readPacket IDPacket
      store errcode_ret (.errcode_ret CL_SUCCESS)
      let kernel ← registerID .kernel kernelID.mData
      pure (.handle .kernel (some kernel))

end Client

end RemoteCL

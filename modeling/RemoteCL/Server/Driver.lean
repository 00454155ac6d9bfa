import RemoteCL.Common.OpenCL
import RemoteCL.Common.Packets.Commands

/-!
# The driver behind the server

The server forwards requests to an OpenCL driver.  The driver is not part of the library: it is
the environment of the server's program.  `ServerCall` lists the questions the server puts to it,
each with the arguments it passes, and `Ans` says what an answer to each of them consists of.
What a driver does with a call is left open, and is a relation chosen by the theorems.

A `clGet…Info` function takes a buffer and its size.  Its answer carries an error code, the size
it stores if it stores one, and the bytes it puts into the buffer.
-/

namespace RemoteCL

open ByteStream

/-! ## Calls -/

/-- The `clGet…Info` functions, with the object and the parameter that are asked about. -/
inductive InfoQuery where
  | clGetPlatformInfo (platform : Ptr) (param : UInt32)
  | clGetDeviceInfo (device : Ptr) (param : UInt32)
  | clGetContextInfo (context : Ptr) (param : UInt32)
  | clGetCommandQueueInfo (queue : Ptr) (param : UInt32)
  | clGetMemObjectInfo (memobj : Ptr) (param : UInt32)
  | clGetImageInfo (image : Ptr) (param : UInt32)
  | clGetProgramInfo (program : Ptr) (param : UInt32)
  | clGetProgramBuildInfo (program device : Ptr) (param : UInt32)
  | clGetKernelInfo (kernel : Ptr) (param : UInt32)
  | clGetKernelArgInfo (kernel : Ptr) (arg_indx param : UInt32)
  | clGetKernelWorkGroupInfo (kernel device : Ptr) (param : UInt32)
  | clGetEventInfo (event : Ptr) (param : UInt32)
  | clGetEventProfilingInfo (event : Ptr) (param : UInt32)
  deriving DecidableEq

/-- The functions that create an object and store an error code. -/
inductive CreateCall where
  | clCreateContext (properties : Option (List UInt64)) (devices : List Ptr)
  | clCreateContextFromType (properties : Option (List UInt64)) (device_type : UInt64)
  | clCreateCommandQueue (context device : Ptr) (properties : UInt64)
  | clCreateCommandQueueWithProperties (context device : Ptr)
      (properties : Option (List UInt64))
  | clCreateProgramWithSource (context : Ptr) (source : Bytes)
  | clLinkProgram (context : Ptr) (devices : List Ptr) (options : Bytes) (programs : List Ptr)
  | clCreateKernel (program : Ptr) (name : Bytes)
  | clCloneKernel (kernel : Ptr)
  | clCreateBuffer (context : Ptr) (flags : UInt64) (size : ℕ) (host_ptr : Option Bytes)
  | clCreateSubBuffer (buffer : Ptr) (flags : UInt64) (type : UInt32) (origin size : ℕ)
  | clCreateImage (context : Ptr) (flags : UInt64) (format : UInt32 × UInt32)
      (desc : List UInt32) (host_ptr : Option Bytes)
  | clCreateUserEvent (context : Ptr)
  deriving DecidableEq

/-- The functions that return nothing but an error code. -/
inductive StatusCall where
  | clRetain (ty : ObjTy) (object : Ptr)
  | clRelease (ty : ObjTy) (object : Ptr)
  | clCompileProgram (program : Ptr) (devices : List Ptr) (options : Bytes)
      (headers : List Ptr) (names : List Bytes) (callback : Option IDType)
  | clBuildProgram (program : Ptr) (devices : List Ptr) (options : Bytes)
  | clSetKernelArg (kernel : Ptr) (index : UInt32) (size : ℕ) (value : Option Bytes)
  | clSetUserEventStatus (event : Ptr) (status : UInt32)
  | clWaitForEvents (events : List Ptr)
  | clFlush (queue : Ptr)
  | clFinish (queue : Ptr)
  | clSetEventCallback (event : Ptr) (type : UInt32) (callback : IDType)
  deriving DecidableEq

/-- The `clEnqueue…` functions, without the arguments they share. -/
inductive Command where
  | clEnqueueNDRangeKernel (kernel : Ptr) (work_dim : UInt8) (offset size : Coords)
      (local_size : Option Coords)
  | clEnqueueReadBuffer (buffer : Ptr) (blocking : Bool) (offset size : ℕ)
  | clEnqueueReadBufferRect (buffer : Ptr) (blocking : Bool)
      (buffer_origin host_origin region : Coords)
      (buffer_row_pitch buffer_slice_pitch host_row_pitch host_slice_pitch : UInt32)
  | clEnqueueWriteBuffer (buffer : Ptr) (blocking : Bool) (offset : ℕ) (data : Bytes)
  | clEnqueueFillBuffer (buffer : Ptr) (pattern : Bytes) (offset size : ℕ)
  | clEnqueueReadImage (image : Ptr) (blocking : Bool) (origin region : Coords)
      (row_pitch slice_pitch : UInt32)
  | clEnqueueWriteImage (image : Ptr) (blocking : Bool) (origin region : Coords)
      (row_pitch slice_pitch : UInt32) (data : Bytes)
  deriving DecidableEq

/-- A call of a `clEnqueue…` function. -/
structure Enqueue where
  queue : Ptr
  command : Command
  events : List Ptr
  wantEvent : Bool
  deriving DecidableEq

/-- Everything the server asks of its environment.  The last three are not OpenCL: a random
number, and the listening socket of the event stream. -/
inductive ServerCall where
  | clGetPlatformIDs (num_entries : ℕ)
  | clGetDeviceIDs (platform : Ptr) (device_type : UInt64) (num_entries : ℕ)
  | clCreateKernelsInProgram (program : Ptr) (num_kernels : UInt32)
  | clGetSupportedImageFormats (context : Ptr) (flags : UInt64) (image_type : UInt32)
      (num_entries : ℕ)
  | info (q : InfoQuery) (param_value_size : ℕ)
  | programBinaries (program : Ptr) (sizes : List ℕ)
  | create (q : CreateCall)
  | clCreateProgramWithBinary (context : Ptr) (devices : List Ptr) (binaries : List Bytes)
  | status (q : StatusCall)
  | enqueue (q : Enqueue)
  | rand
  | listen (port : UInt16)
  | accept
  deriving DecidableEq

/-! ## Answers -/

/-- A list of objects, with their number if it is stored. -/
structure ObjectsAns where
  err : Int32
  count : Option ℕ
  objects : List Ptr
  deriving DecidableEq

/-- What a `clGet…Info` function stores. -/
structure InfoAns where
  err : Int32
  size : Option ℕ
  data : Bytes
  deriving DecidableEq

/-- The binaries of a program, one for each device. -/
structure BinariesAns where
  err : Int32
  size : Option ℕ
  binaries : List Bytes
  deriving DecidableEq

/-- A new object. -/
structure CreateAns where
  err : Int32
  object : Ptr
  deriving DecidableEq

/-- A new program, and the status of each binary. -/
structure BinaryAns where
  err : Int32
  object : Ptr
  status : List Int32
  deriving DecidableEq

/-- The event of a command, and the bytes a read command delivers. -/
structure EnqueueAns where
  err : Int32
  event : Ptr
  data : Bytes
  deriving DecidableEq

/-- What becomes of an attempt to open a socket: the function throws otherwise. -/
inductive SocketAns where
  | opened
  | socketError
  | otherError
  deriving DecidableEq

/-- The answers to a question. -/
abbrev Ans : ServerCall → Type
  | .clGetPlatformIDs _ => ObjectsAns
  | .clGetDeviceIDs _ _ _ => ObjectsAns
  | .clCreateKernelsInProgram _ _ => ObjectsAns
  | .clGetSupportedImageFormats _ _ _ _ => InfoAns
  | .info _ _ => InfoAns
  | .programBinaries _ _ => BinariesAns
  | .create _ => CreateAns
  | .clCreateProgramWithBinary _ _ _ => BinaryAns
  | .status _ => Int32
  | .enqueue _ => EnqueueAns
  | .rand => ℕ
  | .listen _ => SocketAns
  | .accept => SocketAns

/-! ## Buffers -/

/-- What a buffer holds after `data` has been stored at its start. -/
def storeInto {α : Type} (buffer data : List α) : List α :=
  data.take buffer.length ++ buffer.drop data.length

@[simp] theorem length_storeInto {α : Type} (buffer data : List α) :
    (storeInto buffer data).length = buffer.length := by
  rw [storeInto, List.length_append, List.length_take, List.length_drop]
  omega

/-- A buffer of zeros, as `std::vector::resize` leaves it. -/
def zeros (n : ℕ) : Bytes := List.replicate n 0

@[simp] theorem length_zeros (n : ℕ) : (zeros n).length = n := List.length_replicate

/-- The bytes of a read fill their buffer. -/
theorem storeInto_zeros {data : Bytes} {n : ℕ} (h : data.length = n) :
    storeInto (zeros n) data = data := by
  rw [storeInto, length_zeros, List.drop_eq_nil_of_le (by rw [length_zeros, h]), List.append_nil,
    List.take_of_length_le h.le]

/-- The `n` bytes at a pointer to `buffer`.  What lies behind the buffer is not known, and
counts as zeros here. -/
def memRead (buffer : Bytes) (n : ℕ) : Bytes := buffer.take n ++ zeros (n - buffer.length)

@[simp] theorem length_memRead (buffer : Bytes) (n : ℕ) : (memRead buffer n).length = n := by
  rw [memRead, List.length_append, List.length_take, length_zeros]
  omega

@[simp] theorem memRead_length (buffer : Bytes) : memRead buffer buffer.length = buffer := by
  rw [memRead.eq_def, List.take_length, Nat.sub_self]
  exact List.append_nil buffer

/-- The 64-bit word that a buffer starts with. -/
def wordAt (buffer : Bytes) : UInt64 := UInt64.ofNat (leValue (buffer.take 8))

theorem wordAt_enc (w : UInt64) (rest : Bytes) : wordAt (Wire.enc w ++ rest) = w := by
  have hlen : (Wire.enc w).length = 8 := length_leBytes 8 _
  rw [wordAt, List.take_left' hlen]
  exact (congrArg UInt64.ofNat (leValue_leBytes_of_lt w.toNat_lt)).trans w.ofNat_toNat

/-- The first `n` 64-bit words of a buffer. -/
def words : ℕ → Bytes → List UInt64
  | 0, _ => []
  | n + 1, buffer => wordAt buffer :: words n (buffer.drop 8)

@[simp] theorem length_words (n : ℕ) (buffer : Bytes) : (words n buffer).length = n := by
  induction n generalizing buffer with
  | zero => rfl
  | succ n ih => rw [words, List.length_cons, ih]

/-- The bytes of a string up to its terminator, as `c_str()` hands them to the driver. -/
def cStr (s : Bytes) : Bytes := s.takeWhile fun c => c != 0

/-- `reinterpret_cast` from IDs to the bytes they are stored in. -/
def idBytes (ids : List IDType) : Bytes := ids.flatMap Wire.enc

theorem length_idBytes (ids : List IDType) : (idBytes ids).length = 2 * ids.length := by
  induction ids with
  | nil => rfl
  | cons id ids ih =>
    have henc : (Wire.enc id).length = 2 := length_leBytes 2 id.toNat
    rw [idBytes, List.flatMap_cons, List.length_append, henc, List.length_cons]
    rw [idBytes] at ih
    omega

end RemoteCL

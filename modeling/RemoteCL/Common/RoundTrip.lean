import RemoteCL.Common.Packets.Commands
import RemoteCL.Common.Packets.Objects
import RemoteCL.Common.Version

/-!
# Decoding undoes encoding, for every kind of packet

The packets that are not payloads, gathered into one type of packet kinds.  A kind says what its
values are, how they are written, how they are read into a fresh packet, which values have room
in their length fields and which fields are transmitted at all.
-/

namespace RemoteCL

open ByteStream Wire LawfulWire

/-- The integral types that the packet templates are used with. -/
inductive Scalar where
  | uint8
  | uint16
  | uint32
  | uint64
  | int32
  deriving DecidableEq

/-- The values of a scalar type. -/
abbrev Scalar.Value : Scalar → Type
  | uint8 => UInt8
  | uint16 => UInt16
  | uint32 => UInt32
  | uint64 => UInt64
  | int32 => Int32

instance (T : Scalar) : Wire T.Value :=
  match T with
  | .uint8 => inferInstanceAs (Wire UInt8)
  | .uint16 => inferInstanceAs (Wire UInt16)
  | .uint32 => inferInstanceAs (Wire UInt32)
  | .uint64 => inferInstanceAs (Wire UInt64)
  | .int32 => inferInstanceAs (Wire Int32)

instance (T : Scalar) : LawfulWire T.Value :=
  match T with
  | .uint8 => inferInstanceAs (LawfulWire UInt8)
  | .uint16 => inferInstanceAs (LawfulWire UInt16)
  | .uint32 => inferInstanceAs (LawfulWire UInt32)
  | .uint64 => inferInstanceAs (LawfulWire UInt64)
  | .int32 => inferInstanceAs (LawfulWire Int32)

/-- The packet kinds that have both an `operator<<` and an `operator>>` and are not payloads.
A template of the source is one constructor, with its arguments. -/
inductive PacketKind where
  | simple (ty : PacketType) (T : Scalar)
  | signal (ty : PacketType)
  | idList
  | idTypePair (ty : PacketType) (T : Scalar)
  | idStringPair (ty : PacketType)
  | refCount (ty : PacketType)
  | getDeviceIDs
  | createContextFromType
  | createContext
  | getImageFormats
  | createQueue
  | createQueueWithProp
  | kernelArg
  | kernelArgInfo
  | kernelWGInfo
  | createKernels
  | programBuildInfo
  | compileProgram
  | linkProgram
  | createBuffer
  | createSubBuffer
  | createImage
  | enqueueKernel
  | imageRW (ty : PacketType)
  | bufferRW (ty : PacketType)
  | bufferRectRW (ty : PacketType)
  | fillBuffer
  | registerEventCallback
  | version

namespace PacketKind

/-- The packets of a kind. -/
abbrev Value : PacketKind → Type
  | simple ty T => SimplePacket ty T.Value
  | signal ty => SignalPacket ty
  | idList => IDListPacket
  | idTypePair ty T => IDTypePair ty T.Value
  | idStringPair ty => IDStringPair ty
  | refCount ty => RefCount ty
  | getDeviceIDs => GetDeviceIDs
  | createContextFromType => CreateContextFromType
  | createContext => CreateContext
  | getImageFormats => GetImageFormats
  | createQueue => CreateQueue
  | createQueueWithProp => CreateQueueWithProp
  | kernelArg => KernelArg
  | kernelArgInfo => KernelArgInfo
  | kernelWGInfo => KernelWGInfo
  | createKernels => CreateKernels
  | programBuildInfo => ProgramBuildInfo
  | compileProgram => CompileProgram
  | linkProgram => LinkProgram
  | createBuffer => CreateBuffer
  | createSubBuffer => CreateSubBuffer
  | createImage => CreateImage
  | enqueueKernel => EnqueueKernel
  | imageRW ty => ImageRW ty
  | bufferRW ty => BufferRW ty
  | bufferRectRW ty => BufferRectRW ty
  | fillBuffer => FillBuffer
  | registerEventCallback => RegisterEventCallback
  | version => VersionPacket

instance (k : PacketKind) : Wire k.Value := by
  cases k <;> infer_instance

/-- `operator<<`. -/
def encode (k : PacketKind) (p : k.Value) : Bytes := enc p

/-- `operator>>` into a freshly constructed packet.  `fresh` is what the one field that may not
be assigned holds before. -/
def decode (fresh : IDType) : (k : PacketKind) → Reader k.Value
  | compileProgram => CompileProgram.decode fresh
  | k => (dec : Reader k.Value)

/-- The strings and lists of a packet have room in their length fields. -/
def Fits : (k : PacketKind) → k.Value → Prop
  | idList, p => p.mIDs.length ≤ 255
  | idStringPair _, p => p.mString.length ≤ 65535
  | createContextFromType, p => p.mProperties.length ≤ 255
  | createContext, p => p.mProperties.length ≤ 255 ∧ p.mDevices.length ≤ 65535
  | createQueueWithProp, p => p.mProperties.length ≤ 255
  | compileProgram, p =>
    p.mOptions.length ≤ 65535 ∧ p.mDeviceIDs.length ≤ 255 ∧ p.mHeaderIDs.length ≤ 255 ∧
      p.mHeaderNames.length ≤ 255 ∧ ∀ s ∈ p.mHeaderNames, s.chars.length ≤ 65535
  | linkProgram, p =>
    p.mOptions.length ≤ 65535 ∧ p.mDeviceIDs.length ≤ 255 ∧ p.mProgramIDs.length ≤ 255
  | _, _ => True

/-- The two packets agree in every field that is transmitted.  For `CompileProgram` the ID of
the callback is, exactly when there is one. -/
def SameTransmitted : (k : PacketKind) → k.Value → k.Value → Prop
  | compileProgram, p, q =>
    p.mProgramID = q.mProgramID ∧ p.mOptions = q.mOptions ∧ p.mDeviceIDs = q.mDeviceIDs ∧
      p.mHeaderIDs = q.mHeaderIDs ∧ p.mHeaderNames = q.mHeaderNames ∧
      p.mHasCallback = q.mHasCallback ∧ (p.mHasCallback = true → p.mCallbackID = q.mCallbackID)
  | _, p, q => p = q

end PacketKind

/-- Room in an 8-bit length field. -/
theorem lt_range_uint8 {n : ℕ} (h : n ≤ 255) : n < SizeT.range .uint8 := Nat.lt_succ_of_le h

/-- Room in a 16-bit length field. -/
theorem lt_range_uint16 {n : ℕ} (h : n ≤ 65535) : n < SizeT.range .uint16 := Nat.lt_succ_of_le h

/-- A packet that crossed the wire agrees with the one that was sent. -/
theorem CompileProgram.sameTransmitted_arrived (p : CompileProgram) (fresh : IDType) :
    PacketKind.SameTransmitted .compileProgram p (p.arrived fresh) := by
  refine ⟨rfl, rfl, rfl, rfl, rfl, rfl, fun h => ?_⟩
  rw [arrived, if_pos h]

/-- A packet kind whose packets all fit and are transmitted whole. -/
theorem PacketKind.decode_encode_of_reads {k : PacketKind} {p : k.Value}
    {r : Reader k.Value} (h : Reads r (k.encode p) p) (rest : Bytes) :
    ∃ q, r.run (k.encode p ++ rest) = some (q, rest) ∧ p = q :=
  ⟨p, h rest, rfl⟩

/-- **Decode undoes encode** over the whole wire format that is not payload: every packet is
read back in every transmitted field, and what stands behind it is left unread. -/
theorem PacketKind.decode_encode (k : PacketKind) (fresh : IDType) (p : k.Value) (h : k.Fits p)
    (rest : Bytes) : ∃ q, (k.decode fresh).run (k.encode p ++ rest) = some (q, rest) ∧
      k.SameTransmitted p q := by
  cases k with
  | compileProgram =>
    obtain ⟨ho, hd, hh, hn, hs⟩ := h
    have hfits : CompileProgram.Fits p :=
      ⟨ho, lt_range_uint8 hd, lt_range_uint8 hh, lt_range_uint8 hn, hs⟩
    exact ⟨_, reads_compileProgram hfits fresh rest, p.sameTransmitted_arrived fresh⟩
  | idList => exact decode_encode_of_reads (reads_idListPacket (lt_range_uint8 h)) rest
  | idStringPair ty => exact decode_encode_of_reads (reads_idStringPair h) rest
  | createContextFromType =>
    exact decode_encode_of_reads (reads_createContextFromType (lt_range_uint8 h)) rest
  | createContext =>
    exact decode_encode_of_reads
      (reads_createContext (lt_range_uint8 h.1) (lt_range_uint16 h.2)) rest
  | createQueueWithProp =>
    exact decode_encode_of_reads (reads_createQueueWithProp (lt_range_uint8 h)) rest
  | linkProgram =>
    exact decode_encode_of_reads
      (reads_linkProgram h.1 (lt_range_uint8 h.2.1) (lt_range_uint8 h.2.2)) rest
  | _ => exact decode_encode_of_reads (reads_dec p) rest

/-- A request to compile with two headers and without a callback, read back. -/
theorem PacketKind.decode_encode_compileProgram :
    ∃ q, (decode 7 .compileProgram).run (encode .compileProgram
        { mProgramID := 3, mOptions := [45, 119], mDeviceIDs := [1], mHeaderIDs := [4, 5],
          mHeaderNames := [⟨[97]⟩, ⟨[]⟩], mHasCallback := false, mCallbackID := 0 } ++ [9]) =
      some (q, [9]) ∧ SameTransmitted .compileProgram
        { mProgramID := 3, mOptions := [45, 119], mDeviceIDs := [1], mHeaderIDs := [4, 5],
          mHeaderNames := [⟨[97]⟩, ⟨[]⟩], mHasCallback := false, mCallbackID := 0 } q :=
  decode_encode .compileProgram 7 _ (by simp [Fits]) [9]

end RemoteCL

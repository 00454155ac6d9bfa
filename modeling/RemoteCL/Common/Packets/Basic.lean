import RemoteCL.Common.Packet

/-!
# Packets: the common shapes

The packet types of `packets/simple.h`, `packets/IDs.h`, `packets/refcount.h`,
`packets/callbacks.h` and `packets/device.h`.  Most requests and replies are instances of four
templates: a packet with nothing in it, a packet with one value, an ID paired with a value and
an ID paired with a string.

A packet is encoded field by field in the order in which its `operator<<` lists them, which is
not always the order of its declaration.  Where every value of every field can be transmitted the
packet is a `LawfulWire`; where a field is a list or a string a condition on its length is left.
-/

namespace RemoteCL

open ByteStream Wire LawfulWire

/-! ## Simple packets -/

/-- A simple packet contains a simple payload. -/
structure SimplePacket (ty : PacketType) (T : Type) where
  mData : T
  deriving DecidableEq

/-- A signal packet contains no payload. -/
structure SignalPacket (ty : PacketType) where
  deriving DecidableEq

section Simple

variable {ty : PacketType} {T : Type} [Wire T]

instance : Packet (SimplePacket ty T) := ⟨ty⟩

instance : Packet (SignalPacket ty) := ⟨ty⟩

instance : Wire (SimplePacket ty T) where
  enc packet := enc packet.mData
  dec := do
    let mData : T ← dec
    pure ⟨mData⟩

instance : Wire (SignalPacket ty) where
  enc _ := []
  dec := pure ⟨⟩

instance [LawfulWire T] : LawfulWire (SimplePacket ty T) where
  reads_dec p := (reads_dec p.mData).map SimplePacket.mk

instance : LawfulWire (SignalPacket ty) where
  reads_dec _ := Reads.pure _

end Simple

abbrev ErrorPacket := SimplePacket .error Int32

abbrev SuccessPacket := SignalPacket .success

/-! ## IDs -/

/-- Transfers a list of object IDs. -/
structure IDListPacket where
  mIDs : List IDType
  deriving DecidableEq

/-- Transfers a single object ID. -/
abbrev IDPacket := SimplePacket .id IDType

/-- Pairs an ID with some other type. -/
structure IDTypePair (ty : PacketType) (T : Type) where
  mID : IDType
  mData : T
  deriving DecidableEq

/-- Used in `GetInfo` queries where an ID and a parameter are used. -/
abbrev IDParamPair (ty : PacketType) := IDTypePair ty UInt32

/-- Pairs an ID with a string. -/
structure IDStringPair (ty : PacketType) where
  mID : IDType
  mString : Bytes
  deriving DecidableEq

instance : Packet IDListPacket := ⟨.idList⟩

instance {ty : PacketType} {T : Type} : Packet (IDTypePair ty T) := ⟨ty⟩

instance {ty : PacketType} : Packet (IDStringPair ty) := ⟨ty⟩

instance : Wire IDListPacket where
  enc list := encList .uint8 list.mIDs
  dec := do
    let mIDs ← decList IDType .uint8
    pure ⟨mIDs⟩

/-- The value crosses before the ID. -/
def IDTypePair.encode {ty : PacketType} {T : Type} [Wire T] (pair : IDTypePair ty T) : Bytes :=
  enc pair.mData ++ enc pair.mID

def IDTypePair.decode {ty : PacketType} {T : Type} [Wire T] : Reader (IDTypePair ty T) := do
  let mData : T ← dec
  let mID : IDType ← dec
  pure { mID, mData }

instance {ty : PacketType} {T : Type} [Wire T] : Wire (IDTypePair ty T) :=
  ⟨IDTypePair.encode, IDTypePair.decode⟩

def IDStringPair.encode {ty : PacketType} (p : IDStringPair ty) : Bytes :=
  enc p.mID ++ encString p.mString

def IDStringPair.decode {ty : PacketType} : Reader (IDStringPair ty) := do
  let mID : IDType ← dec
  let mString ← decString
  pure { mID, mString }

instance {ty : PacketType} : Wire (IDStringPair ty) := ⟨IDStringPair.encode, IDStringPair.decode⟩

theorem reads_idListPacket {p : IDListPacket} (h : p.mIDs.length < SizeT.range .uint8) :
    Reads dec (enc p) p :=
  (reads_decList (fun a _ => reads_dec a) h).map IDListPacket.mk

instance {ty : PacketType} {T : Type} [Wire T] [LawfulWire T] :
    LawfulWire (IDTypePair ty T) where
  reads_dec p rest := by
    show IDTypePair.decode.run (IDTypePair.encode p ++ rest) = _
    simp [IDTypePair.encode, IDTypePair.decode]

theorem reads_idStringPair {ty : PacketType} {p : IDStringPair ty} (h : StringFits p.mString) :
    Reads dec (enc p) p := fun rest => by
  show IDStringPair.decode.run (IDStringPair.encode p ++ rest) = _
  simp [IDStringPair.encode, IDStringPair.decode, h]

/-- The ID arrives, and the part of the string that its length field speaks of. -/
theorem exists_reads_idStringPair {ty : PacketType} (p : IDStringPair ty) :
    ∃ w rest, enc p = w ++ rest ∧
      Reads dec w (⟨p.mID, p.mString.take (p.mString.length % SizeT.range .uint16)⟩ :
        IDStringPair ty) := by
  obtain ⟨w, rest, hw, hreads⟩ := exists_reads_decString p.mString
  refine ⟨enc p.mID ++ w, rest, ?_, (reads_dec p.mID).bind (hreads.map (IDStringPair.mk p.mID))⟩
  show enc p.mID ++ encString p.mString = _
  rw [hw, List.append_assoc]

/-- As many IDs arrive as the length field says, however many have been written. -/
theorem exists_reads_idListPacket (p : IDListPacket) :
    ∃ w rest, enc p = w ++ rest ∧
      Reads dec w (⟨p.mIDs.take (p.mIDs.length % SizeT.range .uint8)⟩ : IDListPacket) := by
  obtain ⟨w, rest, hw, hreads⟩ := exists_reads_decList .uint8 p.mIDs
  exact ⟨w, rest, hw, hreads.map IDListPacket.mk⟩

/-! ## Reference counts -/

/-- A change of an object's reference count.  `mObjTy` is the letter of the object's kind. -/
structure RefCount (ty : PacketType) where
  mID : IDType
  mObjTy : UInt8
  deriving DecidableEq

abbrev Retain := RefCount .retain

abbrev Release := RefCount .release

instance {ty : PacketType} : Packet (RefCount ty) := ⟨ty⟩

def RefCount.encode {ty : PacketType} (p : RefCount ty) : Bytes :=
  enc p.mObjTy ++ enc p.mID

def RefCount.decode {ty : PacketType} : Reader (RefCount ty) := do
  let mObjTy : UInt8 ← dec
  let mID : IDType ← dec
  pure { mID, mObjTy }

instance {ty : PacketType} : Wire (RefCount ty) := ⟨RefCount.encode, RefCount.decode⟩

instance {ty : PacketType} : LawfulWire (RefCount ty) where
  reads_dec p rest := by
    show RefCount.decode.run (RefCount.encode p ++ rest) = _
    simp [RefCount.encode, RefCount.decode]

/-! ## Platforms and devices -/

abbrev GetPlatformIDs := SignalPacket .getPlatformIDs

abbrev GetPlatformInfo := IDParamPair .getPlatformInfo

/-- The request to fetch device IDs. -/
structure GetDeviceIDs where
  mPlatformID : IDType
  mDeviceType : UInt64
  deriving DecidableEq

abbrev GetDeviceInfo := IDParamPair .getDeviceInfo

instance : Packet GetDeviceIDs := ⟨.getDeviceIDs⟩

def GetDeviceIDs.encode (p : GetDeviceIDs) : Bytes :=
  enc p.mDeviceType ++ enc p.mPlatformID

def GetDeviceIDs.decode : Reader GetDeviceIDs := do
  let mDeviceType : UInt64 ← dec
  let mPlatformID : IDType ← dec
  pure { mPlatformID, mDeviceType }

instance : Wire GetDeviceIDs := ⟨GetDeviceIDs.encode, GetDeviceIDs.decode⟩

instance : LawfulWire GetDeviceIDs where
  reads_dec p rest := by
    show GetDeviceIDs.decode.run (GetDeviceIDs.encode p ++ rest) = _
    simp [GetDeviceIDs.encode, GetDeviceIDs.decode]

/-! ## Events and callbacks -/

abbrev CreateUserEvent := SimplePacket .createUserEvent IDType

abbrev SetUserEventStatus := IDTypePair .setUserEventStatus UInt32

abbrev GetEventInfo := IDParamPair .getEventInfo

abbrev GetEventProfilingInfo := IDParamPair .getEventProfilingInfo

abbrev WaitForEvents := SignalPacket .waitEvents

/-- Requests an event stream port. -/
abbrev OpenEventStream := SignalPacket .eventStreamOpen

/-- Triggers a predefined callback. -/
abbrev CallbackTriggerPacket := SimplePacket .callbackTrigger UInt32

/-- What `EventCallback::trigger` of the server sends and the one of the client reads. -/
abbrev TriggerEventCallback := SimplePacket .eventCallbackTrigger IDType

/-- Event callback registration. -/
structure RegisterEventCallback where
  mEventID : IDType
  mCallbackID : IDType
  mCBType : UInt32
  deriving DecidableEq

instance : Packet RegisterEventCallback := ⟨.registerEventCallback⟩

def RegisterEventCallback.encode (P : RegisterEventCallback) : Bytes :=
  enc P.mEventID ++ enc P.mCallbackID ++ enc P.mCBType

def RegisterEventCallback.decode : Reader RegisterEventCallback := do
  let mEventID : IDType ← dec
  let mCallbackID : IDType ← dec
  let mCBType : UInt32 ← dec
  pure { mEventID, mCallbackID, mCBType }

instance : Wire RegisterEventCallback :=
  ⟨RegisterEventCallback.encode, RegisterEventCallback.decode⟩

instance : LawfulWire RegisterEventCallback where
  reads_dec p rest := by
    show RegisterEventCallback.decode.run (RegisterEventCallback.encode p ++ rest) = _
    simp [RegisterEventCallback.encode, RegisterEventCallback.decode]

abbrev TerminatePacket := SignalPacket .terminate

end RemoteCL

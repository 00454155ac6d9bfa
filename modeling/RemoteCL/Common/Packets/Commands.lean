import RemoteCL.Common.Packets.Basic

/-!
# Packets: commands

The packet types of `packets/commands.h`.  Two flags tell the server what else belongs to the
request: with `mExpectEventList` an `IDList` packet follows, and with `mWantEvent` the reply
starts with the ID of an event.
-/

namespace RemoteCL

open ByteStream Wire LawfulWire

/-- Three coordinates, in the width in which they cross the wire. -/
abbrev Coords := Vector UInt32 3

namespace Coords

/-- The coordinate that the code indexes by `[0]`; the other two follow. -/
abbrev x (xs : Coords) : UInt32 := xs[0]

abbrev y (xs : Coords) : UInt32 := xs[1]

abbrev z (xs : Coords) : UInt32 := xs[2]

end Coords

/-- `clEnqueueNDRangeKernel`. -/
structure EnqueueKernel where
  mGlobalSize : Coords
  mGlobalOffset : Coords
  mLocalSize : Coords
  mKernelID : IDType
  mQueueID : IDType
  mWorkDim : UInt8
  mWantEvent : Bool
  mExpectEventList : Bool
  deriving DecidableEq

instance : Packet EnqueueKernel := ⟨.enqueueKernel⟩

def EnqueueKernel.encode (p : EnqueueKernel) : Bytes :=
  enc p.mKernelID ++ enc p.mQueueID ++ enc p.mWorkDim ++ enc p.mGlobalSize ++
    enc p.mGlobalOffset ++ enc p.mLocalSize ++ enc p.mWantEvent ++ enc p.mExpectEventList

def EnqueueKernel.decode : Reader EnqueueKernel := do
  let mKernelID : IDType ← dec
  let mQueueID : IDType ← dec
  let mWorkDim : UInt8 ← dec
  let mGlobalSize : Coords ← dec
  let mGlobalOffset : Coords ← dec
  let mLocalSize : Coords ← dec
  let mWantEvent : Bool ← dec
  let mExpectEventList : Bool ← dec
  pure
    { mGlobalSize, mGlobalOffset, mLocalSize, mKernelID, mQueueID, mWorkDim, mWantEvent,
      mExpectEventList }

instance : Wire EnqueueKernel := ⟨EnqueueKernel.encode, EnqueueKernel.decode⟩

instance : LawfulWire EnqueueKernel where
  reads_dec p rest := by
    show EnqueueKernel.decode.run (EnqueueKernel.encode p ++ rest) = _
    simp [EnqueueKernel.encode, EnqueueKernel.decode]

/-- A transfer between an image and the host. -/
structure ImageRW (ty : PacketType) where
  mImageID : IDType
  mQueueID : IDType
  mRowPitch : UInt32
  mSlicePitch : UInt32
  mOrigin : Coords
  mRegion : Coords
  mWantEvent : Bool
  mExpectEventList : Bool
  mBlock : Bool
  deriving DecidableEq

instance {ty : PacketType} : Packet (ImageRW ty) := ⟨ty⟩

def ImageRW.encode {ty : PacketType} (p : ImageRW ty) : Bytes :=
  enc p.mImageID ++ enc p.mQueueID ++ enc p.mOrigin ++ enc p.mRegion ++ enc p.mRowPitch ++
    enc p.mSlicePitch ++ enc p.mWantEvent ++ enc p.mExpectEventList ++ enc p.mBlock

def ImageRW.decode {ty : PacketType} : Reader (ImageRW ty) := do
  let mImageID : IDType ← dec
  let mQueueID : IDType ← dec
  let mOrigin : Coords ← dec
  let mRegion : Coords ← dec
  let mRowPitch : UInt32 ← dec
  let mSlicePitch : UInt32 ← dec
  let mWantEvent : Bool ← dec
  let mExpectEventList : Bool ← dec
  let mBlock : Bool ← dec
  pure
    { mImageID, mQueueID, mRowPitch, mSlicePitch, mOrigin, mRegion, mWantEvent,
      mExpectEventList, mBlock }

instance {ty : PacketType} : Wire (ImageRW ty) := ⟨ImageRW.encode, ImageRW.decode⟩

instance {ty : PacketType} : LawfulWire (ImageRW ty) where
  reads_dec p rest := by
    show ImageRW.decode.run (ImageRW.encode p ++ rest) = _
    simp [ImageRW.encode, ImageRW.decode]

abbrev ReadImage := ImageRW .readImage

abbrev WriteImage := ImageRW .writeImage

/-- A transfer between a buffer and the host. -/
structure BufferRW (ty : PacketType) where
  mBufferID : IDType
  mQueueID : IDType
  mSize : UInt32
  mOffset : UInt32
  mWantEvent : Bool
  mExpectEventList : Bool
  mBlock : Bool
  deriving DecidableEq

instance {ty : PacketType} : Packet (BufferRW ty) := ⟨ty⟩

def BufferRW.encode {ty : PacketType} (p : BufferRW ty) : Bytes :=
  enc p.mBufferID ++ enc p.mQueueID ++ enc p.mSize ++ enc p.mOffset ++ enc p.mWantEvent ++
    enc p.mExpectEventList ++ enc p.mBlock

def BufferRW.decode {ty : PacketType} : Reader (BufferRW ty) := do
  let mBufferID : IDType ← dec
  let mQueueID : IDType ← dec
  let mSize : UInt32 ← dec
  let mOffset : UInt32 ← dec
  let mWantEvent : Bool ← dec
  let mExpectEventList : Bool ← dec
  let mBlock : Bool ← dec
  pure { mBufferID, mQueueID, mSize, mOffset, mWantEvent, mExpectEventList, mBlock }

instance {ty : PacketType} : Wire (BufferRW ty) := ⟨BufferRW.encode, BufferRW.decode⟩

instance {ty : PacketType} : LawfulWire (BufferRW ty) where
  reads_dec p rest := by
    show BufferRW.decode.run (BufferRW.encode p ++ rest) = _
    simp [BufferRW.encode, BufferRW.decode]

/-- A transfer between a rectangle of a buffer and the host. -/
structure BufferRectRW (ty : PacketType) where
  mBufferID : IDType
  mQueueID : IDType
  mBufferOrigin : Coords
  mHostOrigin : Coords
  mRegion : Coords
  mBufferRowPitch : UInt32
  mBufferSlicePitch : UInt32
  mHostRowPitch : UInt32
  mHostSlicePitch : UInt32
  mWantEvent : Bool
  mExpectEventList : Bool
  mBlock : Bool
  deriving DecidableEq

instance {ty : PacketType} : Packet (BufferRectRW ty) := ⟨ty⟩

def BufferRectRW.encode {ty : PacketType} (p : BufferRectRW ty) : Bytes :=
  enc p.mBufferID ++ enc p.mQueueID ++ enc p.mBufferOrigin ++ enc p.mHostOrigin ++
    enc p.mRegion ++ enc p.mBufferRowPitch ++ enc p.mBufferSlicePitch ++ enc p.mHostRowPitch ++
    enc p.mHostSlicePitch ++ enc p.mWantEvent ++ enc p.mExpectEventList ++ enc p.mBlock

def BufferRectRW.decode {ty : PacketType} : Reader (BufferRectRW ty) := do
  let mBufferID : IDType ← dec
  let mQueueID : IDType ← dec
  let mBufferOrigin : Coords ← dec
  let mHostOrigin : Coords ← dec
  let mRegion : Coords ← dec
  let mBufferRowPitch : UInt32 ← dec
  let mBufferSlicePitch : UInt32 ← dec
  let mHostRowPitch : UInt32 ← dec
  let mHostSlicePitch : UInt32 ← dec
  let mWantEvent : Bool ← dec
  let mExpectEventList : Bool ← dec
  let mBlock : Bool ← dec
  pure
    { mBufferID, mQueueID, mBufferOrigin, mHostOrigin, mRegion, mBufferRowPitch,
      mBufferSlicePitch, mHostRowPitch, mHostSlicePitch, mWantEvent, mExpectEventList, mBlock }

instance {ty : PacketType} : Wire (BufferRectRW ty) := ⟨BufferRectRW.encode, BufferRectRW.decode⟩

instance {ty : PacketType} : LawfulWire (BufferRectRW ty) where
  reads_dec p rest := by
    show BufferRectRW.decode.run (BufferRectRW.encode p ++ rest) = _
    simp [BufferRectRW.encode, BufferRectRW.decode]

abbrev ReadBuffer := BufferRW .readBuffer

abbrev ReadBufferRect := BufferRectRW .readBufferRect

abbrev WriteBuffer := BufferRW .writeBuffer

/-- `clEnqueueFillBuffer`. -/
structure FillBuffer where
  mBufferID : IDType
  mQueueID : IDType
  mOffset : UInt32
  mSize : UInt32
  mPatternSize : UInt8
  mWantEvent : Bool
  mExpectEventList : Bool
  /-- The largest primitive of OpenCL has 128 bytes. -/
  mPattern : Vector UInt8 128
  deriving DecidableEq

instance : Packet FillBuffer := ⟨.fillBuffer⟩

def FillBuffer.encode (p : FillBuffer) : Bytes :=
  enc p.mBufferID ++ enc p.mQueueID ++ enc p.mSize ++ enc p.mOffset ++ enc p.mPatternSize ++
    enc p.mWantEvent ++ enc p.mExpectEventList ++ enc p.mPattern

def FillBuffer.decode : Reader FillBuffer := do
  let mBufferID : IDType ← dec
  let mQueueID : IDType ← dec
  let mSize : UInt32 ← dec
  let mOffset : UInt32 ← dec
  let mPatternSize : UInt8 ← dec
  let mWantEvent : Bool ← dec
  let mExpectEventList : Bool ← dec
  let mPattern : Vector UInt8 128 ← dec
  pure
    { mBufferID, mQueueID, mOffset, mSize, mPatternSize, mWantEvent, mExpectEventList,
      mPattern }

instance : Wire FillBuffer := ⟨FillBuffer.encode, FillBuffer.decode⟩

instance : LawfulWire FillBuffer where
  reads_dec p rest := by
    show FillBuffer.decode.run (FillBuffer.encode p ++ rest) = _
    simp [FillBuffer.encode, FillBuffer.decode]

end RemoteCL

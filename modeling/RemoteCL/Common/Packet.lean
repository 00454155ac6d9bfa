import RemoteCL.Common.Wire
import RemoteCL.Theory.Prog

/-!
# Packets and the packet stream

A packet crosses the wire as one byte naming its type, followed by its body.  `PacketStream::read`
checks the type it finds: an `Error` packet is thrown as an exception, a `Terminate` packet
means that the socket closed, and anything else ought to be the packet asked for.  The last is an
assertion of the source, compiled out in a release build; here it is an expectation
(`Prog.expect`), so that "the reader met the packet it asked for" is a statement about the
program and not an assumption on it.
-/

namespace RemoteCL

open ByteStream Conversation

/-- `PacketType`: the packets that can be exchanged over the connection. -/
inductive PacketType where
  | version
  | payload
  | success
  | error
  | retain
  | release
  | createContext
  | createContextFromType
  | getContextInfo
  | getImageFormats
  | createQueue
  | createQueueWithProp
  | getQueueInfo
  | flush
  | finish
  | createSourceProgram
  | createBinaryProgram
  | compileProgram
  | buildProgram
  | linkProgram
  | buildInfo
  | programInfo
  | createKernel
  | createKernels
  | cloneKernel
  | setKernelArg
  | kernelWGInfo
  | kernelInfo
  | kernelArgInfo
  | createBuffer
  | createSubBuffer
  | readBuffer
  | readBufferRect
  | writeBuffer
  | fillBuffer
  | getMemObjInfo
  | createImage
  | readImage
  | writeImage
  | getImageInfo
  | enqueueKernel
  | createUserEvent
  | setUserEventStatus
  | getEventInfo
  | getEventProfilingInfo
  | waitEvents
  | getPlatformInfo
  | getPlatformIDs
  | getDeviceIDs
  | getDeviceInfo
  | id
  | idList
  | eventStreamOpen
  | callbackTrigger
  | registerEventCallback
  | eventCallbackTrigger
  | terminate
  deriving DecidableEq

namespace PacketType

/-- The enumerators in the order of the source, from `0` on. -/
def enumerators : List PacketType :=
  [version, payload, success, error, retain, release, createContext, createContextFromType,
    getContextInfo, getImageFormats, createQueue, createQueueWithProp, getQueueInfo, flush,
    finish, createSourceProgram, createBinaryProgram, compileProgram, buildProgram, linkProgram,
    buildInfo, programInfo, createKernel, createKernels, cloneKernel, setKernelArg,
    kernelWGInfo, kernelInfo, kernelArgInfo, createBuffer, createSubBuffer, readBuffer,
    readBufferRect, writeBuffer, fillBuffer, getMemObjInfo, createImage, readImage, writeImage,
    getImageInfo, enqueueKernel, createUserEvent, setUserEventStatus, getEventInfo,
    getEventProfilingInfo, waitEvents, getPlatformInfo, getPlatformIDs, getDeviceIDs,
    getDeviceInfo, id, idList, eventStreamOpen, callbackTrigger, registerEventCallback,
    eventCallbackTrigger]

/-- The byte of a packet type.  `Terminate` has a value of its own. -/
def toByte : PacketType → UInt8
  | terminate => 0xFF
  | ty => UInt8.ofNat (enumerators.idxOf ty)

/-- The enumerator a byte stands for; `none` for a byte without one. -/
def ofByte (b : UInt8) : Option PacketType :=
  if b = 0xFF then some terminate else enumerators[b.toNat]?

@[simp] theorem ofByte_toByte (ty : PacketType) : ofByte ty.toByte = some ty := by
  cases ty <;> rfl

theorem toByte_injective : Function.Injective toByte := fun a b h => by
  have hab := congrArg ofByte h
  rwa [ofByte_toByte, ofByte_toByte, Option.some.injEq] at hab

@[simp] theorem toByte_inj {a b : PacketType} : a.toByte = b.toByte ↔ a = b :=
  toByte_injective.eq_iff

end PacketType

/-- The type a packet announces itself with. -/
class Packet (α : Type) where
  mType : PacketType

/-! ## Exceptions -/

/-- What the code throws. -/
inductive Exn where
  /-- An `ErrorPacket` with the driver's code. -/
  | errorPacket (e : Int32)
  /-- `Socket::Error`. -/
  | socketError
  /-- `std::bad_alloc`. -/
  | badAlloc
  /-- Any other exception, such as `std::length_error`. -/
  | other
  /-- `std::terminate`, which is where an exception gets to that leaves a `noexcept` function.  It
  is not caught by anything. -/
  | terminate
  deriving DecidableEq

/-! ## The packet stream -/

namespace PacketStream

variable {σ C : Type} {A : C → Type} {α : Type}

/-- The bytes of a packet: its type and its body. -/
def frame (ty : PacketType) (body : Bytes) : Bytes := ty.toByte :: body

/-- `PacketStream::write`. -/
def write (ty : PacketType) (body : Bytes) : Prog σ Exn C A Unit :=
  Prog.send (frame ty body)

/-- The first byte of a packet. -/
def readType : Reader UInt8 := Wire.dec

/-- `PacketStream::read` of a packet of type `ty` whose body is read by `r`. -/
def read (ty : PacketType) (r : Reader α) : Prog σ Exn C A α := do
  let b ← Prog.ofReader readType
  if b = PacketType.error.toByte then
    let e : Int32 ← Prog.ofReader Wire.dec
    Prog.throw (.errorPacket e)
  else if b = PacketType.terminate.toByte then
    -- the stream generates this packet when the socket closes
    Prog.throw .socketError
  else
    Prog.expect (b == ty.toByte)
    Prog.ofReader r

/-- A `noexcept` function. -/
def noexcept (p : Prog σ Exn C A α) : Prog σ Exn C A α :=
  p.tryCatch fun _ => Prog.throw .terminate

/-- `PacketStream::write` of a packet whose operator is `noexcept`. -/
def writeNoexcept (ty : PacketType) (body : Bytes) : Prog σ Exn C A Unit := do
  Prog.send [ty.toByte]
  noexcept (Prog.send body)

/-- `PacketStream::read` of a packet whose operator is `noexcept`. -/
def readNoexcept (ty : PacketType) (r : Reader α) : Prog σ Exn C A α := do
  let b ← Prog.ofReader readType
  if b = PacketType.error.toByte then
    let e : Int32 ← Prog.ofReader Wire.dec
    Prog.throw (.errorPacket e)
  else if b = PacketType.terminate.toByte then
    Prog.throw .socketError
  else
    Prog.expect (b == ty.toByte)
    noexcept (Prog.ofReader r)

/-- `PacketStream::flush`. -/
def flush : Prog σ Exn C A Unit := Prog.flushOut

/-- `PacketStream::nextPacketTy`: the byte is left on the stream, and the end of the stream
counts as a `Terminate` packet. -/
def nextPacketTy : Prog σ Exn C A UInt8 := do
  let b ← Prog.peekByte
  pure (b.getD PacketType.terminate.toByte)

/-- `PacketStream::write` of a packet that knows its type. -/
def writePacket {P : Type} [Packet P] [Wire P] (p : P) : Prog σ Exn C A Unit :=
  write (Packet.mType P) (Wire.enc p)

/-- `PacketStream::read` of a packet that knows its type. -/
def readPacket (P : Type) [Packet P] [Wire P] : Prog σ Exn C A P :=
  read (Packet.mType P) Wire.dec

theorem run_readType_cons (b : UInt8) (s : Bytes) : readType.run (b :: s) = some (b, s) := by
  have h := LawfulWire.reads_dec b s
  have hb : Wire.enc b = [b] := by
    show [UInt8.ofNat b.toNat] = [b]
    rw [UInt8.ofNat_toNat]
  rwa [hb, List.singleton_append] at h

theorem eq_cons_of_readType {s s' : Bytes} {b : UInt8} (h : readType.run s = some (b, s')) :
    s = b :: s' := by
  cases s with
  | nil => cases h
  | cons c s =>
    rw [run_readType_cons] at h
    cases h
    rfl

end PacketStream

end RemoteCL

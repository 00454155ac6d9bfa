import RemoteCL.Common.Packets.Objects
import RemoteCL.Common.Version
import RemoteCL.Server.Driver

/-!
# The server instance

The state of a server, its table of driver objects, and the few things all request handlers do:
look IDs up, assign IDs, write replies.

The table `mObjects` maps IDs to pointers of the driver, by position.  It only grows.  A pointer
keeps its ID for good, also when the driver reuses the address of a released object.

The search for a pointer counts with an `IDType`.  In a table of 65536 entries the counter wraps
around instead of reaching the size, so the search for a pointer that is not there never ends.
-/

namespace RemoteCL

open ByteStream Conversation

/-- A build of the server: `clTarget` is `CL_TARGET_OPENCL_VERSION`. -/
structure ServerBuild extends Build where
  clTarget : ℕ

/-- The state of a `ServerInstance`.  Of the event stream, the bytes written to it are kept. -/
structure ServerState where
  /-- List of allocated CL objects. -/
  mObjects : List Ptr
  /-- The event stream connection, if available. -/
  mEventStream : Option Bytes
  deriving DecidableEq

/-- Programs of the server. -/
abbrev ServerM := Prog ServerState Exn ServerCall Ans

/-! ## The object table -/

/-- The search loop of `getIDFor`: the first of the entries that a 16-bit counter reaches. -/
def findID (objects : List Ptr) (obj : Ptr) : Option IDType :=
  ((objects.take 65536).idxOf? obj).map UInt16.ofNat

/-- The object of an ID; a null pointer for an ID without one. -/
def objectAt (objects : List Ptr) (id : IDType) : Ptr := objects.getD id.toNat 0

/-- The ID of an object, and the table that has it; `none` when the search does not end. -/
def assignID (objects : List Ptr) (obj : Ptr) : Option (IDType × List Ptr) :=
  match findID objects obj with
  | some id => some (id, objects)
  | none =>
    if 65536 ≤ objects.length then none
    else some (UInt16.ofNat objects.length, objects ++ [obj])

namespace ServerInstance

/-- Retrieves or assigns an ID for this object. -/
def getIDFor (obj : Ptr) : ServerM IDType := do
  let s ← Prog.getState
  match assignID s.mObjects obj with
  | some (id, mObjects) =>
    Prog.putState { s with mObjects }
    pure id
  | none => Prog.spin

/-- The IDs of several objects, one after the other. -/
def getIDsFor : List Ptr → ServerM (List IDType)
  | [] => pure []
  | obj :: objs => do
    let id ← getIDFor obj
    let ids ← getIDsFor objs
    pure (id :: ids)

/-- Retrieves the object for this ID. -/
def getObj (id : IDType) : ServerM Ptr := do
  let s ← Prog.getState
  pure (objectAt s.mObjects id)

/-- The objects of a list of IDs. -/
def getObjs (ids : List IDType) : ServerM (List Ptr) := do
  let s ← Prog.getState
  pure (ids.map (objectAt s.mObjects))

/-! ## Driver calls -/

def info (q : InfoQuery) (param_value_size : ℕ) : ServerM InfoAns :=
  Prog.ask (ServerCall.info q param_value_size)

def create (q : CreateCall) : ServerM CreateAns := Prog.ask (ServerCall.create q)

def status (q : StatusCall) : ServerM Int32 := Prog.ask (ServerCall.status q)

/-- `max_size()` of a vector of elements of one byte. -/
def vectorMaxSize : ℕ := 2 ^ 63 - 1

/-- `resize` of a vector: a `std::length_error` when there cannot be such a vector. -/
def resize (elementSize n : ℕ) : ServerM Unit :=
  if elementSize * n ≤ vectorMaxSize then pure () else Prog.throw .other

/-! ## Replies -/

def writeError (err : Int32) : ServerM Unit :=
  PacketStream.writePacket (⟨err⟩ : ErrorPacket)

def writeSuccess : ServerM Unit := PacketStream.writePacket (⟨⟩ : SuccessPacket)

/-- The reply to a request that returns nothing. -/
def replyStatus (err : Int32) : ServerM Unit :=
  if err ≠ CL_SUCCESS then writeError err else writeSuccess

/-- Write the ID of an object. -/
def writeID (obj : Ptr) : ServerM Unit := do
  let id ← getIDFor obj
  PacketStream.writePacket (⟨id⟩ : IDPacket)

/-- The reply to a request that creates an object. -/
def replyCreated (a : CreateAns) : ServerM Unit :=
  if a.err ≠ CL_SUCCESS then writeError a.err else writeID a.object

/-- Write the IDs of a list of objects. -/
def writeIDs (objects : List Ptr) : ServerM Unit := do
  let mIDs ← getIDsFor objects
  PacketStream.writePacket (⟨mIDs⟩ : IDListPacket)

/-- A packet of type `Payload` with one value. -/
def writeValue {T : Type} [Wire T] (value : T) : ServerM Unit :=
  PacketStream.writePacket (⟨value⟩ : SimplePacket .payload T)

variable (B : ServerBuild)

/-- Write a `PayloadPtr<SizeT>`. -/
def writePayloadPtr (sz : SizeT) (data : Bytes) : ServerM Unit :=
  PacketStream.write .payload (encPayloadPtr B.zlib sz data)

/-- Write a `Payload<SizeT>`. -/
def writePayload (sz : SizeT) (data : Bytes) : ServerM Unit :=
  PacketStream.write .payload (encPayload B.zlib sz data)

/-- Read a `Payload<>`. -/
def readPayload : ServerM Bytes := PacketStream.read .payload (decPayload B.zlib .uint32)

/-! ## Queries -/

/-- A query for an object, whose ID is the reply. -/
def replyObject (q : InfoQuery) : ServerM Unit := do
  let a ← info q 8
  if a.err ≠ CL_SUCCESS then writeError a.err
  else writeID (wordAt (storeInto (zeros 8) a.data))

/-- A query for a `std::size_t`, replied in 64 bits. -/
def replySize (q : InfoQuery) : ServerM Unit := do
  let a ← info q 8
  if a.err ≠ CL_SUCCESS then writeError a.err
  else writeValue (wordAt (storeInto (zeros 8) a.data))

/-- A query for a `cl_uint`. -/
def replyUInt (q : InfoQuery) : ServerM Unit := do
  let a ← info q 4
  if a.err ≠ CL_SUCCESS then writeError a.err
  else writeValue (UInt32.ofNat (leValue (storeInto (zeros 4) a.data)))

/-- A query for three `std::size_t`.  The payload is as long as the array has elements, not as
long as it has bytes. -/
def replySizes (q : InfoQuery) : ServerM Unit := do
  let a ← info q 24
  if a.err ≠ CL_SUCCESS then writeError a.err
  else writePayloadPtr B .uint8 ((storeInto (zeros 24) a.data).take 3)

/-- A query whose reply is what the driver stores: first its size is asked for, then the bytes.
Where `checked` is set a failure of the first call is an error already. -/
def replyRaw (sz : SizeT) (checked : Bool) (q : InfoQuery) : ServerM Unit := do
  let first ← info q 0
  if checked && first.err != CL_SUCCESS then writeError first.err
  else
    let retSize := first.size.getD 0
    resize 1 retSize
    let a ← info q retSize
    if a.err ≠ CL_SUCCESS then writeError a.err
    else writePayloadPtr B sz (memRead (storeInto (zeros retSize) a.data) (a.size.getD retSize))

end ServerInstance

end RemoteCL

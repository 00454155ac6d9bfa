import RemoteCL.Common.Exchange
import RemoteCL.Common.Packets.Objects
import RemoteCL.Common.Version
import RemoteCL.Server.Driver

/-!
# The client's connection

The client keeps an object for every ID it has met, in a table `mObjects` indexed by ID.  The
application's handles are pointers to these objects.  A new object is always a different one, so
`Handle.addr` counts the objects that have been made; what identifies an object for good is its
handle, and the mappings of a memory object are the only part of it that changes.

An API function is a program that runs with the connection locked.  What it does to the memory of
the application, and what it looks up in the table, is recorded in a trace, in the order in which
it happens.  An argument that is a pointer to be stored through is a `Bool`, which says that it is
not null; a pointer to be read from is the memory behind it.
-/

namespace RemoteCL

open ByteStream Conversation

/-! ## Objects -/

/-- The types of client objects. -/
inductive Kind where
  | platformID
  | deviceID
  | context
  | queue
  | program
  | kernel
  | memObject
  | event
  deriving DecidableEq

/-- A pointer to a client object, and what never changes about the object: its ID, and the type
it was constructed as. -/
structure Handle where
  addr : ℕ
  ID : IDType
  kind : Kind
  deriving DecidableEq

/-- `GetID` of a handle. -/
def GetID (h : Handle) : IDType := h.ID

/-- `MemObject::Mapping`.  `ptr` stands for the address of its data. -/
structure Mapping where
  ptr : ℕ
  size : UInt64
  offset : UInt64
  flags : UInt64
  deriving DecidableEq

/-- `CLObject`, with the mappings of a `MemObject`. -/
structure CLObject extends Handle where
  mMappings : List Mapping
  deriving DecidableEq

/-- What a look into the table yields. -/
inductive Lookup where
  | object (h : Handle)
  /-- The slot is there, but empty. -/
  | null
  /-- The table has no such slot. -/
  | outOfRange
  deriving DecidableEq

/-! ## State -/

/-- A registered callback: the object it is for, and the function and data it was given. -/
inductive Callback where
  | event (mEvent : Handle) (mCallback mUserData : ℕ)
  | program (mProgram : Handle) (mCallback mUserData : ℕ)
  deriving DecidableEq

/-- What is stored through the pointers of the application. -/
inductive Store where
  | errcode_ret (code : Int32)
  | event (h : Lookup)
  | count (n : ℕ)
  /-- `n` is added to the count that is there. -/
  | count_add (n : ℕ)
  | entries (kind : Kind) (hs : List Lookup)
  /-- The next entry of an array: the pointer is advanced. -/
  | next_entry (kind : Kind) (h : Lookup)
  | param_value_size_ret (n : ℕ)
  | param_value (data : Bytes)
  | param_handles (kind : Kind) (hs : List Lookup)
  /-- The first `n` bytes of a handle; the others stay as they are. -/
  | param_handle_bytes (kind : Kind) (n : ℕ) (h : Lookup)
  | image_formats (data : Bytes)
  | ptr (data : Bytes)
  | binary_status (data : Bytes)
  | binaries (data : List Bytes)
  /-- A callback that the function invokes itself. -/
  | notify (program : Lookup) (pfn_notify user_data : ℕ)
  deriving DecidableEq

/-- What an API function does besides talking to the server. -/
inductive ClientEvent where
  | store (s : Store)
  | lookup (kind : Kind) (id : IDType) (r : Lookup)
  deriving DecidableEq

/-- The state of a `Connection`. -/
structure ClientState where
  /-- All of the objects that have been queried by the client. -/
  mObjects : List (Option CLObject)
  /-- The number of objects that have been made. -/
  made : ℕ
  /-- List of registered callbacks on the connection. -/
  mCallbacks : List Callback
  hasEventStream : Bool
  trace : List ClientEvent
  deriving DecidableEq

/-- Programs of the client. -/
abbrev ClientM := Prog ClientState Exn Empty NoAnswer

/-! ## The object table -/

/-- The object in a slot. -/
def lookupAt (objects : List (Option CLObject)) (id : IDType) : Lookup :=
  match objects[id.toNat]? with
  | some (some o) => .object o.toHandle
  | some none => .null
  | none => .outOfRange

/-- `resize` to at least `n` slots. -/
def growTo (objects : List (Option CLObject)) (n : ℕ) : List (Option CLObject) :=
  objects ++ List.replicate (n - objects.length) none

namespace ClientState

/-- A new object in the slot of an ID. -/
def register (s : ClientState) (kind : Kind) (id : IDType) : ClientState :=
  { s with
    mObjects := (growTo s.mObjects (id.toNat + 1)).set id.toNat
      (some { addr := s.made, ID := id, kind, mMappings := [] })
    made := s.made + 1 }

/-- The handle of the object that `register` makes. -/
def newHandle (s : ClientState) (kind : Kind) (id : IDType) : Handle :=
  { addr := s.made, ID := id, kind }

/-- Note an event. -/
def note (s : ClientState) (ev : ClientEvent) : ClientState :=
  { s with trace := s.trace ++ [ev] }

/-- `getObject`. -/
def getObject (s : ClientState) (kind : Kind) (id : IDType) : Lookup × ClientState :=
  let r := lookupAt s.mObjects id
  (r, s.note (.lookup kind id r))

/-- `registerID`. -/
def registerID (s : ClientState) (kind : Kind) (id : IDType) : Lookup × ClientState :=
  let r := Lookup.object (s.newHandle kind id)
  (r, (s.register kind id).note (.lookup kind id r))

/-- `getOrInsertObject`: an ID below the size of the table counts as known, whether or not there
is an object in its slot. -/
def getOrInsertObject (s : ClientState) (kind : Kind) (id : IDType) : Lookup × ClientState :=
  if id.toNat < s.mObjects.length then s.getObject kind id else s.registerID kind id

end ClientState

/-- The three ways in which the client resolves an ID. -/
inductive Resolve where
  | getObject
  | registerID
  | getOrInsertObject
  deriving DecidableEq

/-- Resolve an ID. -/
def Resolve.apply (how : Resolve) (s : ClientState) (kind : Kind) (id : IDType) :
    Lookup × ClientState :=
  match how with
  | getObject => s.getObject kind id
  | registerID => s.registerID kind id
  | getOrInsertObject => s.getOrInsertObject kind id

/-- Resolve several IDs, one after the other. -/
def Resolve.applyAll (how : Resolve) (s : ClientState) (kind : Kind) :
    List IDType → List Lookup × ClientState
  | [] => ([], s)
  | id :: ids =>
    let (r, s₁) := how.apply s kind id
    let (rs, s₂) := applyAll how s₁ kind ids
    (r :: rs, s₂)

namespace Client

/-- Resolve an ID. -/
def resolve (how : Resolve) (kind : Kind) (id : IDType) : ClientM Lookup := do
  let s ← Prog.getState
  Prog.putState (how.apply s kind id).2
  pure (how.apply s kind id).1

/-- Resolve several IDs. -/
def resolveAll (how : Resolve) (kind : Kind) (ids : List IDType) : ClientM (List Lookup) := do
  let s ← Prog.getState
  Prog.putState (how.applyAll s kind ids).2
  pure (how.applyAll s kind ids).1

def getObject (kind : Kind) (id : IDType) : ClientM Lookup := resolve .getObject kind id

def registerID (kind : Kind) (id : IDType) : ClientM Lookup := resolve .registerID kind id

def getOrInsertObject (kind : Kind) (id : IDType) : ClientM Lookup :=
  resolve .getOrInsertObject kind id

/-- `registerCallback`: the index of the new callback. -/
def registerCallback (callback : Callback) : ClientM UInt32 := do
  let s ← Prog.getState
  Prog.putState { s with mCallbacks := s.mCallbacks ++ [callback] }
  pure (UInt32.ofNat s.mCallbacks.length)

/-! ## The application's memory -/

/-- Memory is written to where nothing has been allocated.  What happens is not defined, and is
followed no further. -/
def overrun {α : Type} : ClientM α := Prog.spin

/-- Store through a pointer, unless it is null. -/
def store (pointer : Bool) (s : Store) : ClientM Unit :=
  if pointer then Prog.modifyState fun st => st.note (.store s) else pure ()

/-- The result of an API function. -/
inductive Ret where
  | code (err : Int32)
  /-- A handle of some kind, or a null pointer. -/
  | handle (kind : Kind) (h : Option Lookup)
  deriving DecidableEq

/-- The arguments of a query that say where the answer goes. -/
structure InfoArgs where
  param_value_size : ℕ
  param_value : Bool
  param_value_size_ret : Bool
  deriving DecidableEq

/-- Pass on the bytes of a reply, if there is room for them. -/
def storePayload (args : InfoArgs) (data : Bytes) : ClientM Unit := do
  store args.param_value_size_ret (.param_value_size_ret data.length)
  store (args.param_value && decide (data.length ≤ args.param_value_size)) (.param_value data)

/-- Pass on as many bytes of a reply as there is room for. -/
def storePrefix (args : InfoArgs) (data : Bytes) : ClientM Unit := do
  store args.param_value_size_ret (.param_value_size_ret data.length)
  store args.param_value (.param_value (data.take args.param_value_size))

/-- `Store<T>` of a value with the bytes `data`.  The pointer itself is not checked. -/
def storeValue (args : InfoArgs) (data : Bytes) : ClientM Unit := do
  store (decide (data.length ≤ args.param_value_size)) (.param_value data)
  store args.param_value_size_ret (.param_value_size_ret data.length)

/-- `Store<T>` of a handle. -/
def storeHandle (args : InfoArgs) (kind : Kind) (h : Lookup) : ClientM Unit := do
  store (decide (8 ≤ args.param_value_size)) (.param_handles kind [h])
  store args.param_value_size_ret (.param_value_size_ret 8)

/-! ## Exceptions -/

/-- The `catch` clauses of a function that returns an error code. -/
def catching (badAlloc others : Int32) (p : ClientM Ret) : ClientM Ret :=
  p.tryCatch fun
    | .errorPacket e => pure (.code e)
    | .badAlloc => pure (.code badAlloc)
    | _ => pure (.code others)

/-- `ReturnError`. -/
def returnError (kind : Kind) (errcode_ret : Bool) (code : Int32) : ClientM Ret := do
  store errcode_ret (.errcode_ret code)
  pure (.handle kind none)

/-- The `catch` clauses of a function that returns a handle. -/
def catchingError (kind : Kind) (errcode_ret : Bool) (badAlloc : Int32) (p : ClientM Ret) :
    ClientM Ret :=
  p.tryCatch fun
    | .errorPacket e => returnError kind errcode_ret e
    | .badAlloc => returnError kind errcode_ret badAlloc
    | _ => returnError kind errcode_ret CL_DEVICE_NOT_AVAILABLE

/-! ## Requests -/

/-- A request that is answered with `Success`, when its packets have been written. -/
def awaitSuccess : ClientM Ret := do
  PacketStream.flush
  let _ ← PacketStream.readPacket SuccessPacket
  pure (.code CL_SUCCESS)

/-- A request that is answered with the ID of a new object, when its packets have been
written. -/
def awaitID (how : Resolve) (kind : Kind) : ClientM Lookup := do
  PacketStream.flush
  let id ← PacketStream.readPacket IDPacket
  resolve how kind id.mData

/-- The IDs of an array of handles; `none` if one of them is null. -/
def handleIDs : List (Option Handle) → Option (List IDType)
  | [] => some []
  | none :: _ => none
  | some h :: hs => (handleIDs hs).map (GetID h :: ·)

theorem handleIDs_map_some (hs : List Handle) :
    handleIDs (hs.map some) = some (hs.map GetID) := by
  induction hs with
  | nil => rfl
  | cons h hs ih =>
    rw [List.map_cons, handleIDs, ih]
    rfl

end Client

end RemoteCL

import RemoteCL.Server.Run

/-!
# What the handlers are made of

The handlers of all requests are put together of the same parts: they read packets, look IDs up, ask
the driver and write replies.  So a property that the parts have, and that sequencing keeps, is a
property of every handler: this is `Parts.handler`, and it is proved handler by handler, each along
its own steps.

There are two exceptions, which have a `try` block: `registerEventCallback` and
`createEventStream`.  What they have is for the property itself to say.
-/

namespace RemoteCL

open ByteStream Conversation Wire

/-- The events that a call of the driver waits for. -/
def ServerCall.waitList : ServerCall → Option (List Ptr)
  | .enqueue q => some q.events
  | .status (.clWaitForEvents events) => some events
  | _ => none

namespace ServerInstance

/-- A property of programs that the parts of the handlers have, and that sequencing keeps.  `W`
holds of the lists of events that arrive. -/
structure Parts (W : List Ptr → Prop) (T : (α : Type) → ServerM α → Prop) : Prop where
  pure {α : Type} (a : α) : T α (Pure.pure a)
  bind {α β : Type} {p : ServerM α} {f : α → ServerM β} (hp : T α p) (hf : ∀ a, T β (f a)) :
    T β (p >>= f)
  getState : T ServerState Prog.getState
  getIDFor (obj : Ptr) : T IDType (ServerInstance.getIDFor obj)
  resize (elementSize n : ℕ) : T Unit (ServerInstance.resize elementSize n)
  rebuild (mProperties : List UInt64) : T (List UInt64) (ServerInstance.rebuild mProperties)
  read {α : Type} (ty : PacketType) (r : Reader α) : T α (PacketStream.read ty r)
  write (ty : PacketType) (body : Bytes) : T Unit (PacketStream.write ty body)
  flush : T Unit PacketStream.flush
  ask {c : ServerCall} (hc : ∀ events ∈ c.waitList, W events) : T (Ans c) (Prog.ask c)
  readEvents (mExpectEventList : Bool) {k : List Ptr → ServerM Unit}
    (hk : ∀ events, W events → T Unit (k events)) :
    T Unit (ServerInstance.readEvents mExpectEventList >>= k)

namespace Parts

variable {W : List Ptr → Prop} {T : (α : Type) → ServerM α → Prop} {α : Type} {B : ServerBuild}

/-- A question about anything but events. -/
theorem asks (hT : Parts W T) {c : ServerCall} (h : c.waitList = none) :
    T (Ans c) (Prog.ask c) := by
  refine hT.ask fun events hevents => ?_
  rw [h] at hevents
  cases hevents

theorem of_ite {c : Prop} [Decidable c] {p q : ServerM α} (hp : T α p) (hq : T α q) :
    T α (if c then p else q) := by
  split
  · exact hp
  · exact hq

/-! ### Packets and IDs -/

theorem readPacket (hT : Parts W T) (P : Type) [Packet P] [Wire P] :
    T P (PacketStream.readPacket P) := hT.read _ _

theorem writePacket (hT : Parts W T) {P : Type} [Packet P] [Wire P] (p : P) :
    T Unit (PacketStream.writePacket p) := hT.write _ _

theorem writeError (hT : Parts W T) (err : Int32) : T Unit (writeError err) := hT.writePacket _

theorem writeSuccess (hT : Parts W T) : T Unit writeSuccess := hT.writePacket _

theorem writeValue (hT : Parts W T) {V : Type} [Wire V] (value : V) : T Unit (writeValue value) :=
  hT.writePacket _

theorem writePayload (hT : Parts W T) (sz : SizeT) (data : Bytes) :
    T Unit (writePayload B sz data) := hT.write _ _

theorem writePayloadPtr (hT : Parts W T) (sz : SizeT) (data : Bytes) :
    T Unit (writePayloadPtr B sz data) := hT.write _ _

theorem readPayload (hT : Parts W T) : T Bytes (readPayload B) := hT.read _ _

theorem getObj (hT : Parts W T) (id : IDType) : T Ptr (getObj id) :=
  hT.bind hT.getState fun _ => hT.pure _

theorem getObjs (hT : Parts W T) (ids : List IDType) : T (List Ptr) (getObjs ids) :=
  hT.bind hT.getState fun _ => hT.pure _

theorem getIDsFor (hT : Parts W T) (objs : List Ptr) : T (List IDType) (getIDsFor objs) := by
  induction objs with
  | nil => exact hT.pure _
  | cons obj objs ih => exact hT.bind (hT.getIDFor obj) fun _ => hT.bind ih fun _ => hT.pure _

theorem writeID (hT : Parts W T) (obj : Ptr) : T Unit (writeID obj) :=
  hT.bind (hT.getIDFor obj) fun _ => hT.writePacket _

theorem writeIDs (hT : Parts W T) (objects : List Ptr) : T Unit (writeIDs objects) :=
  hT.bind (hT.getIDsFor objects) fun _ => hT.writePacket _

/-! ### Questions and replies -/

theorem info (hT : Parts W T) (q : InfoQuery) (n : ℕ) : T InfoAns (info q n) :=
  hT.asks (c := .info q n) rfl

theorem create (hT : Parts W T) (q : CreateCall) : T CreateAns (create q) :=
  hT.asks (c := .create q) rfl

theorem status (hT : Parts W T) {q : StatusCall} (h : (ServerCall.status q).waitList = none) :
    T Int32 (status q) := hT.asks h

theorem enqueue (hT : Parts W T) {q : Enqueue} (h : W q.events) :
    T EnqueueAns (enqueue q) :=
  hT.ask (c := .enqueue q) fun _ hevents => Option.some.inj hevents ▸ h

/-- An error of the driver is the reply, or the handler goes on. -/
theorem orError (hT : Parts W T) {err : Int32} {p : ServerM Unit} (hp : T Unit p) :
    T Unit (if err ≠ CL_SUCCESS then ServerInstance.writeError err else p) :=
  of_ite (hT.writeError err) hp

theorem replyStatus (hT : Parts W T) (err : Int32) : T Unit (replyStatus err) :=
  hT.orError hT.writeSuccess

theorem replyCreated (hT : Parts W T) (a : CreateAns) : T Unit (replyCreated a) :=
  hT.orError (hT.writeID _)

theorem replyObject (hT : Parts W T) (q : InfoQuery) : T Unit (replyObject q) :=
  hT.bind (hT.info q 8) fun _ => hT.orError (hT.writeID _)

theorem replySize (hT : Parts W T) (q : InfoQuery) : T Unit (replySize q) :=
  hT.bind (hT.info q 8) fun _ => hT.orError (hT.writeValue _)

theorem replyUInt (hT : Parts W T) (q : InfoQuery) : T Unit (replyUInt q) :=
  hT.bind (hT.info q 4) fun _ => hT.orError (hT.writeValue _)

theorem replySizes (hT : Parts W T) (q : InfoQuery) : T Unit (replySizes B q) :=
  hT.bind (hT.info q 24) fun _ => hT.orError (hT.writePayloadPtr _ _)

theorem replyRaw (hT : Parts W T) (sz : SizeT) (checked : Bool) (q : InfoQuery) :
    T Unit (replyRaw B sz checked q) := by
  refine hT.bind (hT.info q 0) fun first => of_ite (hT.writeError _) ?_
  refine hT.bind (hT.resize _ _) fun _ => hT.bind (hT.info q _) fun _ => ?_
  exact hT.orError (hT.writePayloadPtr _ _)

theorem replyEvent (hT : Parts W T) (mWantEvent : Bool) (event : Ptr) :
    T Unit (replyEvent mWantEvent event) := of_ite (hT.writeID _) (hT.pure _)

theorem replyRead (hT : Parts W T) (mWantEvent : Bool) (size : ℕ) (a : EnqueueAns) :
    T Unit (replyRead B mWantEvent size a) :=
  hT.orError (hT.bind (hT.replyEvent _ _) fun _ => hT.writePayloadPtr _ _)

theorem replyCommand (hT : Parts W T) (mWantEvent : Bool) (a : EnqueueAns) :
    T Unit (replyCommand mWantEvent a) :=
  hT.orError (hT.bind (hT.replyEvent _ _) fun _ => hT.writeSuccess)

/-! ### Platforms, devices, contexts, queues, reference counts -/

theorem sendPlatformList (hT : Parts W T) : T Unit sendPlatformList := by
  refine hT.bind (hT.readPacket _) fun _ => ?_
  have hask (n : ℕ) : T _ (Prog.ask (.clGetPlatformIDs n)) := hT.asks rfl
  exact hT.bind (hask _) fun _ => hT.orError (hT.bind (hask _) fun _ => hT.writeIDs _)

theorem getPlatformInfo (hT : Parts W T) : T Unit (getPlatformInfo B) := by
  refine hT.bind (hT.readPacket _) fun _ => hT.bind (hT.getObj _) fun _ => ?_
  refine hT.bind (hT.info _ _) fun _ => hT.orError ?_
  refine hT.bind (hT.resize _ _) fun _ => hT.bind (hT.info _ _) fun _ => ?_
  exact hT.orError (hT.writePayload _ _)

theorem sendDeviceList (hT : Parts W T) : T Unit sendDeviceList := by
  refine hT.bind (hT.readPacket _) fun packet => hT.bind (hT.getObj _) fun platform => ?_
  have hask (n : ℕ) : T _ (Prog.ask (.clGetDeviceIDs platform packet.mDeviceType n)) :=
    hT.asks rfl
  refine hT.bind (hask _) fun _ => hT.orError (hT.bind (hask _) fun _ => ?_)
  exact hT.orError (hT.writeIDs _)

theorem getDeviceInfo (hT : Parts W T) : T Unit (getDeviceInfo B) := by
  refine hT.bind (hT.readPacket _) fun _ => hT.bind (hT.getObj _) fun _ => ?_
  refine of_ite (hT.replyObject _) (of_ite (hT.replySize _) (of_ite (hT.replySizes _) ?_))
  exact hT.replyRaw _ _ _

theorem createContext (hT : Parts W T) : T Unit createContext := by
  refine hT.bind (hT.readPacket _) fun _ => hT.bind (hT.getObjs _) fun _ => ?_
  refine hT.bind (hT.rebuild _) fun _ => hT.bind (hT.create _) fun _ => ?_
  exact hT.replyCreated _

theorem createContextFromType (hT : Parts W T) : T Unit createContextFromType := by
  refine hT.bind (hT.readPacket _) fun _ => hT.bind (hT.rebuild _) fun _ => ?_
  exact hT.bind (hT.create _) fun _ => hT.replyCreated _

theorem getContextInfo (hT : Parts W T) : T Unit (getContextInfo B) := by
  refine hT.bind (hT.readPacket _) fun query => hT.bind (hT.getObj _) fun _ => ?_
  refine hT.bind (hT.info _ _) fun _ => hT.orError ?_
  have hreply (mData : Bytes) (replySize : ℕ) : T Unit
      (if query.mData = CL_CONTEXT_DEVICES then
        ServerInstance.getIDsFor (words (replySize / 8) mData) >>= fun mapped =>
          ServerInstance.writePayload B .uint8 (idBytes mapped)
      else ServerInstance.writePayload B .uint8 (memRead mData replySize)) :=
    of_ite (hT.bind (hT.getIDsFor _) fun _ => hT.writePayload _ _) (hT.writePayload _ _)
  -- the query may be repeated with a larger buffer
  refine of_ite ?_ (hT.bind (hT.pure _) fun _ => hreply _ _)
  refine hT.bind (hT.resize _ _) fun _ => hT.bind (hT.info _ _) fun _ => ?_
  exact hT.bind (hT.pure _) fun _ => hreply _ _

theorem getImageFormats (hT : Parts W T) : T Unit (getImageFormats B) := by
  refine hT.bind (hT.readPacket _) fun query => hT.bind (hT.getObj _) fun context => ?_
  have hask (n : ℕ) : T _ (Prog.ask (.clGetSupportedImageFormats context query.mFlags.toUInt64
      query.mImageType n)) := hT.asks rfl
  refine hT.bind (hask _) fun _ => hT.orError (hT.bind (hask _) fun _ => ?_)
  exact hT.writePayloadPtr _ _

theorem createQueue (hT : Parts W T) : T Unit createQueue := by
  refine hT.bind (hT.readPacket _) fun _ => hT.bind (hT.getObj _) fun _ => ?_
  refine hT.bind (hT.getObj _) fun _ => hT.bind (hT.create _) fun _ => ?_
  exact hT.replyCreated _

theorem createQueueWithProp (hT : Parts W T) : T Unit (createQueueWithProp B) := by
  refine of_ite ?_ (hT.writeError _)
  refine hT.bind (hT.readPacket _) fun _ => hT.bind (hT.getObj _) fun _ => ?_
  refine hT.bind (hT.getObj _) fun _ => hT.bind (hT.create _) fun _ => ?_
  exact hT.replyCreated _

theorem getQueueInfo (hT : Parts W T) : T Unit (getQueueInfo B) := by
  refine hT.bind (hT.readPacket _) fun _ => hT.bind (hT.getObj _) fun _ => ?_
  exact of_ite (hT.replyObject _) (hT.replyRaw _ _ _)

/-- A request to do something with one object. -/
theorem changes (hT : Parts W T) {P : Type} [Packet P] [Wire P] {id : P → IDType}
    {q : P → Ptr → StatusCall}
    (hq : ∀ packet obj, (ServerCall.status (q packet obj)).waitList = none) :
    T Unit (do
      let packet ← PacketStream.readPacket P
      let obj ← ServerInstance.getObj (id packet)
      let err ← ServerInstance.status (q packet obj)
      ServerInstance.replyStatus err) := by
  refine hT.bind (hT.readPacket _) fun _ => hT.bind (hT.getObj _) fun _ => ?_
  exact hT.bind (hT.status (hq _ _)) fun _ => hT.replyStatus _

theorem flushQueue (hT : Parts W T) : T Unit flushQueue := hT.changes fun _ _ => rfl

theorem finishQueue (hT : Parts W T) : T Unit finishQueue := hT.changes fun _ _ => rfl

theorem changeRefCount (hT : Parts W T) (ty : PacketType) {call : ObjTy → Ptr → StatusCall}
    (hcall : ∀ kind obj, (ServerCall.status (call kind obj)).waitList = none) :
    T Unit (changeRefCount ty call) := by
  refine hT.bind (hT.readPacket _) fun packet => ?_
  split
  · refine hT.bind (hT.getObj _) fun _ => hT.bind (hT.status (hcall _ _)) fun _ => ?_
    exact hT.replyStatus _
  · exact hT.writeSuccess

/-! ### Programs and kernels -/

theorem createProgramFromSource (hT : Parts W T) : T Unit createProgramFromSource := by
  refine hT.bind (hT.readPacket _) fun _ => hT.bind (hT.getObj _) fun _ => ?_
  exact hT.bind (hT.create _) fun _ => hT.replyCreated _

theorem readBinaries (hT : Parts W T) (n : ℕ) : T (List Bytes) (readBinaries B n) := by
  induction n with
  | zero => exact hT.pure _
  | succ n ih => exact hT.bind hT.readPayload fun _ => hT.bind ih fun _ => hT.pure _

theorem createProgramFromBinary (hT : Parts W T) : T Unit (createProgramFromBinary B) := by
  refine hT.bind (hT.readPacket _) fun _ => hT.bind (hT.getObj _) fun _ => ?_
  refine hT.bind (hT.readPacket _) fun _ => hT.bind (hT.getObjs _) fun _ => ?_
  refine hT.bind (hT.readBinaries _) fun _ => hT.bind (hT.asks rfl) fun _ => ?_
  exact hT.orError (hT.bind (hT.writeID _) fun _ => hT.writePayloadPtr _ _)

theorem compileProgram (hT : Parts W T) : T Unit compileProgram := by
  refine hT.bind (hT.readPacket _) fun _ => hT.bind (hT.getObj _) fun _ => ?_
  refine hT.bind (hT.getObjs _) fun _ => hT.bind (hT.getObjs _) fun _ => ?_
  exact hT.bind (hT.status rfl) fun _ => hT.replyStatus _

theorem linkProgram (hT : Parts W T) : T Unit linkProgram := by
  refine hT.bind (hT.readPacket _) fun _ => hT.bind (hT.getObj _) fun _ => ?_
  refine hT.bind (hT.getObjs _) fun _ => hT.bind (hT.getObjs _) fun _ => ?_
  exact hT.bind (hT.create _) fun _ => hT.replyCreated _

theorem buildProgram (hT : Parts W T) : T Unit buildProgram := by
  refine hT.bind (hT.readPacket _) fun _ => hT.bind (hT.readPacket _) fun _ => ?_
  refine hT.bind (hT.getObjs _) fun _ => hT.bind (hT.getObj _) fun _ => ?_
  exact hT.bind (hT.status rfl) fun _ => hT.replyStatus _

theorem getProgramBuildInfo (hT : Parts W T) : T Unit (getProgramBuildInfo B) := by
  refine hT.bind (hT.readPacket _) fun _ => hT.bind (hT.getObj _) fun _ => ?_
  refine hT.bind (hT.getObj _) fun _ => hT.bind (hT.info _ _) fun _ => hT.orError ?_
  have hreply (mData : Bytes) (replySize : ℕ) : T Unit
      (ServerInstance.resize 1 replySize >>= fun _ =>
        ServerInstance.writePayload B .uint32 (memRead mData replySize)) :=
    hT.bind (hT.resize _ _) fun _ => hT.writePayload _ _
  refine of_ite ?_ (hT.bind (hT.pure _) fun _ => hreply _ _)
  exact hT.bind (hT.info _ _) fun _ => hT.bind (hT.pure _) fun _ => hreply _ _

theorem resizeAll (hT : Parts W T) (sizes : List ℕ) : T Unit (resizeAll sizes) := by
  induction sizes with
  | nil => exact hT.pure _
  | cons size sizes ih => exact hT.bind (hT.resize _ _) fun _ => ih

theorem writeBinaries (hT : Parts W T) (binaries : List Bytes) :
    T Unit (writeBinaries B binaries) := by
  induction binaries with
  | nil => exact hT.pure _
  | cons binary binaries ih => exact hT.bind (hT.writePayload _ _) fun _ => ih

theorem getProgramInfo (hT : Parts W T) : T Unit (getProgramInfo B) := by
  refine hT.bind (hT.readPacket _) fun _ => hT.bind (hT.getObj _) fun _ => ?_
  refine hT.bind (hT.info _ _) fun _ => hT.orError ?_
  refine of_ite ?_ (of_ite ?_ (of_ite ?_ ?_))
  · exact hT.bind (hT.info _ _) fun _ => hT.writeID _
  · exact hT.bind (hT.resize _ _) fun _ => hT.bind (hT.info _ _) fun _ => hT.writeIDs _
  · refine hT.bind (hT.resize _ _) fun _ => hT.bind (hT.info _ _) fun _ => hT.orError ?_
    refine hT.bind (hT.resizeAll _) fun _ => hT.bind (hT.asks rfl) fun _ => ?_
    exact hT.bind (hT.writeValue _) fun _ => hT.writeBinaries _
  · refine hT.bind (hT.resize _ _) fun _ => hT.bind (hT.info _ _) fun _ => ?_
    exact hT.orError (hT.writePayload _ _)

theorem createKernel (hT : Parts W T) : T Unit createKernel := by
  refine hT.bind (hT.readPacket _) fun _ => hT.bind (hT.getObj _) fun _ => ?_
  exact hT.bind (hT.create _) fun _ => hT.replyCreated _

theorem createKernels (hT : Parts W T) : T Unit createKernels := by
  refine hT.bind (hT.readPacket _) fun _ => hT.bind (hT.getObj _) fun _ => ?_
  refine hT.bind (hT.asks rfl) fun _ => hT.orError ?_
  exact of_ite (hT.writeValue _) (hT.writeIDs _)

theorem cloneKernel (hT : Parts W T) : T Unit (cloneKernel B) := by
  refine of_ite ?_ (hT.writeError _)
  refine hT.bind (hT.readPacket _) fun _ => hT.bind (hT.getObj _) fun _ => ?_
  exact hT.bind (hT.create _) fun _ => hT.replyCreated _

/-- The client is asked for the value of an argument. -/
theorem asksClient (hT : Parts W T) (letter : UInt8) {p : ServerM Unit} (hp : T Unit p) :
    T Unit (ServerInstance.writeValue letter >>= fun _ => PacketStream.flush >>= fun _ => p) :=
  hT.bind (hT.writeValue _) fun _ => hT.bind hT.flush fun _ => hp

theorem setKernelArg (hT : Parts W T) : T Unit (setKernelArg B) := by
  refine hT.bind (hT.readPacket _) fun _ => hT.bind (hT.getObj _) fun _ => ?_
  refine hT.bind (hT.info _ _) fun _ => hT.orError (of_ite ?_ (of_ite ?_ ?_))
  · refine hT.asksClient _ (hT.bind (hT.readPacket _) fun _ => hT.bind (hT.getObj _) fun _ => ?_)
    exact hT.bind (hT.status rfl) fun _ => hT.replyStatus _
  · refine hT.asksClient _ (hT.bind (hT.readPacket _) fun _ => ?_)
    exact hT.bind (hT.status rfl) fun _ => hT.replyStatus _
  · refine hT.asksClient _ (hT.bind hT.readPayload fun _ => ?_)
    exact hT.bind (hT.status rfl) fun _ => hT.replyStatus _

theorem getKernelInfo (hT : Parts W T) : T Unit (getKernelInfo B) := by
  refine hT.bind (hT.readPacket _) fun _ => hT.bind (hT.getObj _) fun _ => ?_
  exact of_ite (hT.replyObject _) (of_ite (hT.replyUInt _) (hT.replyRaw _ _ _))

theorem getKernelArgInfo (hT : Parts W T) : T Unit (getKernelArgInfo B) := by
  refine hT.bind (hT.readPacket _) fun _ => hT.bind (hT.getObj _) fun _ => ?_
  exact of_ite (hT.replyUInt _) (hT.replyRaw _ _ _)

theorem getKernelWGInfo (hT : Parts W T) : T Unit (getKernelWGInfo B) := by
  refine hT.bind (hT.readPacket _) fun _ => hT.bind (hT.getObj _) fun _ => ?_
  refine hT.bind (hT.getObj _) fun _ => of_ite (hT.replySizes _) ?_
  exact of_ite (hT.replySize _) (hT.replyRaw _ _ _)

/-! ### Memory objects and commands -/

theorem createBuffer (hT : Parts W T) : T Unit (createBuffer B) := by
  refine hT.bind (hT.readPacket _) fun packet => hT.bind (hT.getObj _) fun context => ?_
  have hcreate (hostData : Option Bytes) : T Unit (ServerInstance.create (.clCreateBuffer context
      packet.mFlags.toUInt64 packet.mSize.toNat hostData) >>= ServerInstance.replyCreated) :=
    hT.bind (hT.create _) fun _ => hT.replyCreated _
  refine of_ite ?_ (hT.bind (hT.pure _) fun _ => hcreate _)
  exact hT.bind hT.readPayload fun _ => hT.bind (hT.pure _) fun _ => hcreate _

theorem createSubBuffer (hT : Parts W T) : T Unit createSubBuffer := by
  refine hT.bind (hT.readPacket _) fun _ => hT.bind (hT.getObj _) fun _ => ?_
  exact hT.bind (hT.create _) fun _ => hT.replyCreated _

theorem readBuffer (hT : Parts W T) : T Unit (readBuffer B) := by
  refine hT.bind (hT.readPacket _) fun _ => hT.readEvents _ fun events hevents => ?_
  refine hT.bind (hT.getObj _) fun _ => hT.bind (hT.getObj _) fun _ => ?_
  exact hT.bind (hT.enqueue hevents) fun _ => hT.replyRead _ _ _

theorem readBufferRect (hT : Parts W T) : T Unit (readBufferRect B) := by
  refine hT.bind (hT.readPacket _) fun _ => hT.readEvents _ fun events hevents => ?_
  refine hT.bind (hT.resize _ _) fun _ => hT.bind (hT.getObj _) fun _ => ?_
  refine hT.bind (hT.getObj _) fun _ => hT.bind (hT.enqueue hevents) fun _ => ?_
  exact hT.replyRead _ _ _

theorem writeBuffer (hT : Parts W T) : T Unit (writeBuffer B) := by
  refine hT.bind (hT.readPacket _) fun _ => hT.readEvents _ fun events hevents => ?_
  refine hT.bind hT.readPayload fun _ => hT.bind (hT.getObj _) fun _ => ?_
  refine hT.bind (hT.getObj _) fun _ => hT.bind (hT.enqueue hevents) fun _ => ?_
  exact hT.replyCommand _ _

theorem fillBuffer (hT : Parts W T) : T Unit fillBuffer := by
  refine hT.bind (hT.readPacket _) fun _ => hT.readEvents _ fun events hevents => ?_
  refine hT.bind (hT.getObj _) fun _ => hT.bind (hT.getObj _) fun _ => ?_
  exact hT.bind (hT.enqueue hevents) fun _ => hT.replyCommand _ _

theorem getMemObjInfo (hT : Parts W T) : T Unit (getMemObjInfo B) := by
  refine hT.bind (hT.readPacket _) fun _ => hT.bind (hT.getObj _) fun _ => ?_
  exact of_ite (hT.replyObject _) (hT.replyRaw _ _ _)

theorem createImage (hT : Parts W T) : T Unit (createImage B) := by
  refine hT.bind (hT.readPacket _) fun _ => hT.bind (hT.getObj _) fun _ => ?_
  refine hT.bind (hT.create _) fun _ => hT.orError (of_ite ?_ (hT.writeID _))
  refine hT.bind (hT.info _ _) fun _ => hT.orError ?_
  -- the client sends as many bytes as it is told
  refine hT.bind (hT.writeValue _) fun _ => hT.bind hT.flush fun _ => ?_
  refine hT.bind hT.readPayload fun _ => hT.bind (hT.status rfl) fun _ => ?_
  exact hT.bind (hT.create _) fun _ => hT.replyCreated _

theorem readImage (hT : Parts W T) : T Unit (readImage B) := by
  refine hT.bind (hT.readPacket _) fun _ => hT.bind (hT.getObj _) fun _ => ?_
  refine hT.bind (hT.info _ _) fun _ => hT.orError (hT.readEvents _ fun events hevents => ?_)
  refine hT.bind (hT.getObj _) fun _ => hT.bind (hT.resize _ _) fun _ => ?_
  refine hT.bind (hT.enqueue hevents) fun _ => hT.orError ?_
  exact hT.bind (hT.replyEvent _ _) fun _ => hT.writePayload _ _

theorem writeImage (hT : Parts W T) : T Unit (writeImage B) := by
  refine hT.bind (hT.readPacket _) fun _ => hT.bind (hT.getObj _) fun _ => ?_
  refine hT.bind (hT.info _ _) fun _ => hT.orError (hT.readEvents _ fun events hevents => ?_)
  refine hT.bind (hT.getObj _) fun _ => hT.bind (hT.writeValue _) fun _ => ?_
  refine hT.bind hT.flush fun _ => hT.bind hT.readPayload fun _ => ?_
  refine hT.bind (hT.enqueue hevents) fun _ => hT.orError ?_
  exact of_ite (hT.writeID _) hT.writeSuccess

theorem getImageInfo (hT : Parts W T) : T Unit (getImageInfo B) := by
  refine hT.bind (hT.readPacket _) fun _ => hT.bind (hT.getObj _) fun _ => ?_
  refine of_ite (hT.bind (hT.info _ _) fun _ => hT.orError ?_) (hT.replyRaw _ _ _)
  exact of_ite (hT.writeID _) (hT.writePacket _)

theorem enqueueKernel (hT : Parts W T) : T Unit enqueueKernel := by
  refine hT.bind (hT.readPacket _) fun _ => hT.readEvents _ fun events hevents => ?_
  refine hT.bind (hT.getObj _) fun _ => hT.bind (hT.getObj _) fun _ => ?_
  exact hT.bind (hT.enqueue hevents) fun _ => hT.replyCommand _ _

theorem createUserEvent (hT : Parts W T) : T Unit createUserEvent := by
  refine hT.bind (hT.readPacket _) fun _ => hT.bind (hT.getObj _) fun _ => ?_
  exact hT.bind (hT.create _) fun _ => hT.replyCreated _

theorem setUserEventStatus (hT : Parts W T) : T Unit setUserEventStatus := hT.changes fun _ _ => rfl

theorem getEventInfo (hT : Parts W T) : T Unit getEventInfo := by
  refine hT.bind (hT.readPacket _) fun _ => hT.bind (hT.getObj _) fun _ => ?_
  refine hT.bind (hT.info _ _) fun _ => hT.orError (of_ite (hT.writeID _) ?_)
  exact of_ite (hT.writeValue _) (hT.writeError _)

theorem getEventProfilingInfo (hT : Parts W T) : T Unit getEventProfilingInfo := by
  refine hT.bind (hT.readPacket _) fun _ => hT.bind (hT.getObj _) fun _ => ?_
  exact hT.replySize _

theorem waitForEvents (hT : Parts W T) : T Unit waitForEvents := by
  refine hT.bind (hT.readPacket _) fun _ => hT.readEvents _ fun events hevents => ?_
  have hwait : T Int32 (ServerInstance.status (.clWaitForEvents events)) :=
    hT.ask (c := .status _) fun _ hwaited => Option.some.inj hwaited ▸ hevents
  exact hT.bind hwait fun _ => hT.replyStatus _

/-! ### All handlers -/

/-- **All handlers** have the property, if the two with a `try` block have it. -/
theorem handler (hT : Parts W T) {ty : PacketType} {h : ServerM Unit} (hh : handler B ty = some h)
    (hcallback : ty = .registerEventCallback → T Unit registerEventCallback)
    (hstream : ty = .eventStreamOpen → T Unit createEventStream) : T Unit h := by
  cases ty with
  | getDeviceIDs => exact Option.some.inj hh ▸ hT.sendDeviceList
  | getDeviceInfo => exact Option.some.inj hh ▸ hT.getDeviceInfo
  | getPlatformInfo => exact Option.some.inj hh ▸ hT.getPlatformInfo
  | getPlatformIDs => exact Option.some.inj hh ▸ hT.sendPlatformList
  | createContext => exact Option.some.inj hh ▸ hT.createContext
  | createContextFromType => exact Option.some.inj hh ▸ hT.createContextFromType
  | getContextInfo => exact Option.some.inj hh ▸ hT.getContextInfo
  | getImageFormats => exact Option.some.inj hh ▸ hT.getImageFormats
  | createSourceProgram => exact Option.some.inj hh ▸ hT.createProgramFromSource
  | createBinaryProgram => exact Option.some.inj hh ▸ hT.createProgramFromBinary
  | compileProgram => exact Option.some.inj hh ▸ hT.compileProgram
  | linkProgram => exact Option.some.inj hh ▸ hT.linkProgram
  | buildProgram => exact Option.some.inj hh ▸ hT.buildProgram
  | buildInfo => exact Option.some.inj hh ▸ hT.getProgramBuildInfo
  | programInfo => exact Option.some.inj hh ▸ hT.getProgramInfo
  | createKernel => exact Option.some.inj hh ▸ hT.createKernel
  | createKernels => exact Option.some.inj hh ▸ hT.createKernels
  | cloneKernel => exact Option.some.inj hh ▸ hT.cloneKernel
  | setKernelArg => exact Option.some.inj hh ▸ hT.setKernelArg
  | kernelWGInfo => exact Option.some.inj hh ▸ hT.getKernelWGInfo
  | kernelArgInfo => exact Option.some.inj hh ▸ hT.getKernelArgInfo
  | kernelInfo => exact Option.some.inj hh ▸ hT.getKernelInfo
  | createQueue => exact Option.some.inj hh ▸ hT.createQueue
  | createQueueWithProp => exact Option.some.inj hh ▸ hT.createQueueWithProp
  | getQueueInfo => exact Option.some.inj hh ▸ hT.getQueueInfo
  | flush => exact Option.some.inj hh ▸ hT.flushQueue
  | finish => exact Option.some.inj hh ▸ hT.finishQueue
  | createBuffer => exact Option.some.inj hh ▸ hT.createBuffer
  | createSubBuffer => exact Option.some.inj hh ▸ hT.createSubBuffer
  | readBuffer => exact Option.some.inj hh ▸ hT.readBuffer
  | readBufferRect => exact Option.some.inj hh ▸ hT.readBufferRect
  | writeBuffer => exact Option.some.inj hh ▸ hT.writeBuffer
  | fillBuffer => exact Option.some.inj hh ▸ hT.fillBuffer
  | getMemObjInfo => exact Option.some.inj hh ▸ hT.getMemObjInfo
  | createImage => exact Option.some.inj hh ▸ hT.createImage
  | readImage => exact Option.some.inj hh ▸ hT.readImage
  | writeImage => exact Option.some.inj hh ▸ hT.writeImage
  | getImageInfo => exact Option.some.inj hh ▸ hT.getImageInfo
  | enqueueKernel => exact Option.some.inj hh ▸ hT.enqueueKernel
  | waitEvents => exact Option.some.inj hh ▸ hT.waitForEvents
  | createUserEvent => exact Option.some.inj hh ▸ hT.createUserEvent
  | getEventProfilingInfo => exact Option.some.inj hh ▸ hT.getEventProfilingInfo
  | getEventInfo => exact Option.some.inj hh ▸ hT.getEventInfo
  | setUserEventStatus => exact Option.some.inj hh ▸ hT.setUserEventStatus
  | release => exact Option.some.inj hh ▸ hT.changeRefCount _ fun _ _ => rfl
  | retain => exact Option.some.inj hh ▸ hT.changeRefCount _ fun _ _ => rfl
  | registerEventCallback => exact Option.some.inj hh ▸ hcallback rfl
  | eventStreamOpen => exact Option.some.inj hh ▸ hstream rfl
  | _ => cases hh

end Parts

end ServerInstance

end RemoteCL

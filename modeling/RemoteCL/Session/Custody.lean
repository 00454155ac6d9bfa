import RemoteCL.Server.Thread
import RemoteCL.Session.Answers
import RemoteCL.Theory.Capabilities

/-!
# Which handles the driver is given

A client names objects by their IDs, and the server passes pointers to the driver.  A driver that is
given a pointer it does not know may do anything, and the bytes of a request are chosen by the
client.  So every handle that reaches the driver must be null, or one that the driver has named
before, whatever the client sends and whatever fails on the way: this is `thread_checked`.

The handles are capabilities in the sense of `RemoteCL.Theory.Capabilities`: the server has them
from its table and from the answers of the driver.  The value of a kernel argument is one if the
argument is a pointer to global or constant memory, which the server asks the driver just before.
Other values are bytes that the client has sent, and nothing is said about them.
-/

namespace RemoteCL

open ByteStream Conversation Wire ServerInstance

/-! ## Handles in questions -/

def InfoQuery.handles : InfoQuery → List Ptr
  | clGetPlatformInfo x _ | clGetDeviceInfo x _ | clGetContextInfo x _ | clGetCommandQueueInfo x _
  | clGetMemObjectInfo x _ | clGetImageInfo x _ | clGetProgramInfo x _ | clGetKernelInfo x _
  | clGetKernelArgInfo x _ _ | clGetEventInfo x _ | clGetEventProfilingInfo x _ => [x]
  | clGetProgramBuildInfo x y _ | clGetKernelWorkGroupInfo x y _ => [x, y]

/-- The platforms in a property list. -/
def platformValues : List UInt64 → List Ptr
  | key :: value :: rest =>
    (if key = CL_CONTEXT_PLATFORM then [value] else []) ++ platformValues rest
  | _ => []

def CreateCall.handles : CreateCall → List Ptr
  | clCreateContext properties devices => platformValues (properties.getD []) ++ devices
  | clCreateContextFromType properties _ => platformValues (properties.getD [])
  | clCreateCommandQueue x y _ | clCreateCommandQueueWithProperties x y _ => [x, y]
  | clLinkProgram context devices _ programs => context :: (devices ++ programs)
  | clCreateProgramWithSource x _ | clCreateKernel x _ | clCloneKernel x | clCreateBuffer x _ _ _
  | clCreateSubBuffer x _ _ _ _ | clCreateImage x _ _ _ _ | clCreateUserEvent x => [x]

/-- The driver has just answered that this argument of the kernel is a pointer to global or constant
memory. -/
def pointerArg (last : Option Asked) (kernel : Ptr) (index : UInt32) : Bool :=
  match last with
  | some ⟨.info (.clGetKernelArgInfo x i p) _, a⟩ =>
    let AS := UInt32.ofNat (leValue (storeInto (zeros 4) a.data))
    x = kernel ∧ i = index ∧ p = CL_KERNEL_ARG_ADDRESS_QUALIFIER ∧ a.err = CL_SUCCESS ∧
      (AS = CL_KERNEL_ARG_ADDRESS_GLOBAL ∨ AS = CL_KERNEL_ARG_ADDRESS_CONSTANT)
  | _ => false

/-- The value of a kernel argument is a handle if the argument is a pointer. -/
def StatusCall.handles (last : Option Asked) : StatusCall → List Ptr
  | clCompileProgram program devices _ headers _ _ => program :: (devices ++ headers)
  | clBuildProgram program devices _ => program :: devices
  | clWaitForEvents events => events
  | clSetKernelArg x i _ value =>
    x :: if pointerArg last x i then (value.map wordAt).toList else []
  | clRetain _ x | clRelease _ x | clSetUserEventStatus x _ | clFlush x
  | clFinish x | clSetEventCallback x _ _ => [x]

/-- The object that a command is about. -/
def Command.object : Command → Ptr
  | clEnqueueNDRangeKernel x _ _ _ _ | clEnqueueReadBuffer x _ _ _
  | clEnqueueReadBufferRect x _ _ _ _ _ _ _ _ | clEnqueueWriteBuffer x _ _ _
  | clEnqueueFillBuffer x _ _ _ | clEnqueueReadImage x _ _ _ _ _
  | clEnqueueWriteImage x _ _ _ _ _ _ => x

/-- All handles that a question has for arguments, if it comes after this one. -/
def ServerCall.handles (last : Option Asked) : ServerCall → List Ptr
  | clGetDeviceIDs x _ _ | clCreateKernelsInProgram x _ | clGetSupportedImageFormats x _ _ _
  | programBinaries x _ => [x]
  | info q _ => q.handles
  | create q => q.handles
  | clCreateProgramWithBinary context devices _ => context :: devices
  | status q => q.handles last
  | enqueue q => q.queue :: q.command.object :: q.events
  | clGetPlatformIDs _ | rand | listen _ | accept => []

/-- What is relied on.  A query for the devices of a context, and one for the kernels of a program,
fails if there is not enough room for them. -/
def Roomy : (c : ServerCall) → Ans c → Prop
  | .info (.clGetContextInfo _ p) n, a =>
    p = CL_CONTEXT_DEVICES → a.err = CL_SUCCESS → a.size.getD 0 ≤ n
  | .clCreateKernelsInProgram _ n, a => n ≠ 0 → a.err = CL_SUCCESS → a.count.getD 0 ≤ n.toNat
  | _, _ => True

/-- The null pointer is known to all. -/
def handles : Capabilities ServerState ServerCall Ans Ptr where
  common := {0}
  holds s := {x | x ∈ s.mObjects}
  uses last c := {x | x ∈ c.handles last}
  gives c a := {x | x ∈ named c a}
  promise := Roomy

/-! ## Parts of the handlers -/

/-- A program that keeps to the handles `K`, and the null pointer. -/
def Keeps {α : Type} (K : Set Ptr) (p : ServerM α) : Prop :=
  ∀ last, p.KeepsTo handles last (insert 0 K)

section Parts

variable {α β : Type} {K : Set Ptr} {p : ServerM α} {B : ServerBuild}

theorem keeps_pure (a : α) : Keeps K (pure a : ServerM α) := fun _ => trivial

theorem keeps_throw (e : Exn) : Keeps K (Prog.throw e : ServerM α) := fun _ => trivial

theorem Keeps.mono {K' : Set Ptr} (hp : Keeps K p) (hK : insert 0 K ⊆ insert 0 K') : Keeps K' p :=
  fun last => (hp last).mono hK

theorem Keeps.bind {f : α → ServerM β} (hp : Keeps K p) (hf : ∀ a, Keeps K (f a)) :
    Keeps K (p >>= f) := fun last => (hp last).bind hf

theorem Keeps.tryCatch {g : Exn → ServerM α} (hp : Keeps K p) (hg : ∀ e, Keeps K (g e)) :
    Keeps K (p.tryCatch g) := fun last => (hp last).tryCatch hg

theorem keeps_ofReader (r : Reader α) : Keeps K (Prog.ofReader r : ServerM α) :=
  fun _ => Prog.keepsTo_ofReader r

theorem keeps_expect (b : Bool) : Keeps K (Prog.expect b : ServerM Unit) := fun _ => trivial

theorem keeps_ite {c : Prop} [Decidable c] {q : ServerM α} (hp : c → Keeps K p)
    (hq : ¬ c → Keeps K q) : Keeps K (if c then p else q) := by
  split
  · exact hp ‹_›
  · exact hq ‹_›

/-! ### Packets -/

theorem keeps_read (ty : PacketType) (r : Reader α) : Keeps K (PacketStream.read ty r) := by
  refine (keeps_ofReader _).bind fun b => ?_
  refine keeps_ite (fun _ => ?_) fun _ => keeps_ite (fun _ => keeps_throw _) fun _ => ?_
  · exact (keeps_ofReader _).bind fun _ => keeps_throw _
  · exact (keeps_expect _).bind fun _ => keeps_ofReader _

theorem keeps_readPacket (P : Type) [Packet P] [Wire P] : Keeps K (PacketStream.readPacket P) :=
  keeps_read _ _

theorem keeps_write (ty : PacketType) (body : Bytes) : Keeps K (PacketStream.write ty body) :=
  fun _ r => Prog.keepsTo_liftExcept r

theorem keeps_writePacket {P : Type} [Packet P] [Wire P] (x : P) :
    Keeps K (PacketStream.writePacket x) := keeps_write _ _

theorem keeps_flush : Keeps K (PacketStream.flush : ServerM Unit) :=
  fun _ r => Prog.keepsTo_liftExcept r

theorem keeps_resize (elementSize n : ℕ) : Keeps K (resize elementSize n) :=
  keeps_ite (fun _ => keeps_pure _) fun _ => keeps_throw _

/-- An error of the driver is the reply, or the handler goes on. -/
theorem keeps_orError {err : Int32} {p : ServerM Unit} (hp : err = CL_SUCCESS → Keeps K p) :
    Keeps K (if err ≠ CL_SUCCESS then writeError err else p) :=
  keeps_ite (fun _ => keeps_writePacket _) fun h => hp (not_not.mp h)

theorem keeps_replyStatus (err : Int32) : Keeps K (replyStatus err) :=
  keeps_orError fun _ => keeps_writePacket _

/-! ### The table -/

theorem keeps_getState_bind {k : ServerState → ServerM β}
    (hk : ∀ s, Keeps ({x | x ∈ s.mObjects} ∪ K) (k s)) : Keeps K (Prog.getState >>= k) := by
  intro last s
  have h := hk s last
  rwa [Set.insert_eq, Set.union_left_comm, ← Set.insert_eq] at h

/-- What an ID stands for is in the table, or null. -/
theorem objectAt_mem (objects : List Ptr) (id : IDType) :
    objectAt objects id = 0 ∨ objectAt objects id ∈ objects := by
  rw [objectAt, List.getD_eq_getElem?_getD]
  rcases h : objects[id.toNat]? with _ | x
  · exact Or.inl rfl
  · exact Or.inr (List.mem_of_getElem? h)

/-- A handle from the table. -/
theorem keeps_getObj_bind (id : IDType) {k : Ptr → ServerM β}
    (hk : ∀ x, Keeps (insert x K) (k x)) : Keeps K (getObj id >>= k) := by
  refine keeps_getState_bind fun s => (hk _).mono ?_
  rintro x (rfl | rfl | hx)
  · exact Or.inl rfl
  · exact (objectAt_mem s.mObjects id).imp_right Or.inl
  · exact Or.inr (Or.inr hx)

theorem keeps_getObjs_bind (ids : List IDType) {k : List Ptr → ServerM β}
    (hk : ∀ xs, Keeps ({x | x ∈ xs} ∪ K) (k xs)) : Keeps K (getObjs ids >>= k) := by
  refine keeps_getState_bind fun s => (hk _).mono ?_
  rintro x (rfl | hx | hx)
  · exact Or.inl rfl
  · obtain ⟨id, -, rfl⟩ := List.mem_map.mp hx
    exact (objectAt_mem s.mObjects id).imp_right Or.inl
  · exact Or.inr (Or.inr hx)

/-- Only handles that the server has get into the table. -/
theorem mem_of_assignID {objects objects' : List Ptr} {obj x : Ptr} {id : IDType}
    (h : assignID objects obj = some (id, objects')) (hx : x ∈ objects') :
    x = obj ∨ x ∈ objects := by
  rw [assignID] at h
  split at h
  · cases h
    exact Or.inr hx
  · split at h
    · cases h
    · cases h
      exact (List.mem_append.mp hx).symm.imp_left List.mem_singleton.mp

theorem keeps_getIDFor {obj : Ptr} (hobj : obj ∈ insert 0 K) : Keeps K (getIDFor obj) := by
  refine keeps_getState_bind fun s => ?_
  split
  · rename_i id mObjects hassign
    refine Keeps.bind (p := Prog.putState _) (fun _ => ⟨fun x hx => ?_, trivial⟩) fun _ =>
      keeps_pure _
    rcases mem_of_assignID hassign hx with rfl | hx
    · exact hobj.imp_right Or.inr
    · exact Or.inr (Or.inl hx)
  · exact fun _ => trivial

theorem keeps_getIDsFor {objs : List Ptr} (hobjs : ∀ x ∈ objs, x ∈ insert 0 K) :
    Keeps K (getIDsFor objs) := by
  induction objs with
  | nil => exact keeps_pure _
  | cons obj objs ih =>
    refine (keeps_getIDFor (hobjs obj List.mem_cons_self)).bind fun _ => ?_
    exact (ih fun x hx => hobjs x (List.mem_cons_of_mem obj hx)).bind fun _ => keeps_pure _

theorem keeps_writeID {obj : Ptr} (hobj : obj ∈ insert 0 K) : Keeps K (writeID obj) :=
  (keeps_getIDFor hobj).bind fun _ => keeps_writePacket _

theorem keeps_writeIDs {objs : List Ptr} (hobjs : ∀ x ∈ objs, x ∈ insert 0 K) :
    Keeps K (writeIDs objs) := (keeps_getIDsFor hobjs).bind fun _ => keeps_writePacket _

/-! ### Questions -/

/-- A question that names handles that the server has. -/
theorem keeps_ask_bind {c : ServerCall} {k : Ans c → ServerM β}
    (hc : ∀ last, ∀ x ∈ c.handles last, x ∈ insert 0 K)
    (hk : ∀ a, Roomy c a → Keeps ({x | x ∈ named c a} ∪ K) (k a)) : Keeps K (Prog.ask c >>= k) := by
  refine fun last => ⟨hc last, fun a ha => ?_⟩
  have h := hk a ha (some ⟨c, a⟩)
  rwa [Set.insert_eq, Set.union_left_comm, ← Set.insert_eq] at h

/-- A question whose answer names nothing, or nothing that is needed. -/
theorem keeps_ask {c : ServerCall} (hc : ∀ last, ∀ x ∈ c.handles last, x ∈ insert 0 K) :
    Keeps K (Prog.ask c : ServerM (Ans c)) := fun last => ⟨hc last, fun _ _ => trivial⟩

theorem keeps_info {q : InfoQuery} (hq : ∀ x ∈ q.handles, x ∈ insert 0 K) (n : ℕ) :
    Keeps K (info q n) := keeps_ask fun _ => hq

theorem keeps_status {q : StatusCall} (hq : ∀ last, ∀ x ∈ q.handles last, x ∈ insert 0 K) :
    Keeps K (status q) := keeps_ask hq

/-- A new object. -/
theorem keeps_create_bind {q : CreateCall} {k : CreateAns → ServerM β}
    (hq : ∀ x ∈ q.handles, x ∈ insert 0 K)
    (hk : ∀ a, Keeps ({x | a.err = CL_SUCCESS ∧ x = a.object} ∪ K) (k a)) :
    Keeps K (create q >>= k) := by
  refine keeps_ask_bind (fun _ => hq) fun a _ => (hk a).mono ?_
  rintro x (rfl | ⟨herr, rfl⟩ | hx)
  · exact Or.inl rfl
  · exact Or.inr (Or.inl (by simp [named, herr]))
  · exact Or.inr (Or.inr hx)

theorem keeps_created {q : CreateCall} (hq : ∀ x ∈ q.handles, x ∈ insert 0 K) :
    Keeps K (create q >>= replyCreated) :=
  keeps_create_bind hq fun _ => keeps_orError fun herr =>
    keeps_writeID (Or.inr (Or.inl ⟨herr, rfl⟩))

theorem keeps_replyObject {q : InfoQuery} (hq : ∀ x ∈ q.handles, x ∈ insert 0 K)
    (hnamed : ∀ a, namedByInfo q 8 a = namedOne a) : Keeps K (replyObject q) := by
  refine keeps_ask_bind (c := .info q 8) (fun _ => hq) fun a _ => keeps_orError fun h =>
    keeps_writeID ?_
  refine Or.inr (Or.inl ?_)
  show _ ∈ namedByInfo q 8 a
  rw [hnamed, namedOne, if_pos h]
  exact List.mem_singleton.mpr rfl

section Queries

variable {q : InfoQuery} (hq : ∀ x ∈ q.handles, x ∈ insert 0 K)
include hq

theorem keeps_replySize : Keeps K (replySize q) :=
  (keeps_info hq _).bind fun _ => keeps_orError fun _ => keeps_writePacket _

theorem keeps_replyUInt : Keeps K (replyUInt q) :=
  (keeps_info hq _).bind fun _ => keeps_orError fun _ => keeps_writePacket _

theorem keeps_replySizes : Keeps K (replySizes B q) :=
  (keeps_info hq _).bind fun _ => keeps_orError fun _ => keeps_write _ _

theorem keeps_replyRaw (sz : SizeT) (checked : Bool) : Keeps K (replyRaw B sz checked q) := by
  refine (keeps_info hq _).bind fun _ => keeps_ite (fun _ => keeps_writePacket _) fun _ => ?_
  refine (keeps_resize _ _).bind fun _ => (keeps_info hq _).bind fun _ => ?_
  exact keeps_orError fun _ => keeps_write _ _

end Queries

/-- The events to wait for come from the table. -/
theorem keeps_readEvents_bind (mExpectEventList : Bool) {k : List Ptr → ServerM β}
    (hk : ∀ events, Keeps ({x | x ∈ events} ∪ K) (k events)) :
    Keeps K (readEvents mExpectEventList >>= k) := by
  unfold readEvents
  split
  · rw [bind_assoc]
    exact (keeps_readPacket _).bind fun _ => keeps_getObjs_bind _ hk
  · exact (hk []).mono (by simp)

/-- A command, and its reply. -/
theorem keeps_enqueue_bind {q : Enqueue} {k : EnqueueAns → ServerM Unit}
    (hq : ∀ last, ∀ x ∈ (ServerCall.enqueue q).handles last, x ∈ insert 0 K)
    (hk : ∀ a, Keeps ({x | a.err = CL_SUCCESS ∧ q.wantEvent ∧ x = a.event} ∪ K) (k a)) :
    Keeps K (enqueue q >>= k) := by
  refine keeps_ask_bind hq fun a _ => (hk a).mono ?_
  rintro x (rfl | ⟨herr, hwant, rfl⟩ | hx)
  · exact Or.inl rfl
  · exact Or.inr (Or.inl (by simp [named, herr, hwant]))
  · exact Or.inr (Or.inr hx)

end Parts

/-! ## The handlers -/

section Handlers

variable {K : Set Ptr} {B : ServerBuild}

/-! ### Platforms, devices, contexts, queues, reference counts -/

theorem keeps_sendPlatformList : Keeps K sendPlatformList := by
  refine (keeps_readPacket _).bind fun _ => ?_
  refine (keeps_ask (by simp [ServerCall.handles])).bind fun a => ?_
  refine keeps_orError fun _ => keeps_ask_bind (by simp [ServerCall.handles]) fun b _ => ?_
  exact keeps_writeIDs fun x hx => Or.inr (Or.inl hx)

theorem keeps_getPlatformInfo : Keeps K (getPlatformInfo B) := by
  refine (keeps_readPacket _).bind fun packet => keeps_getObj_bind _ fun platform => ?_
  have hq : ∀ x ∈ (InfoQuery.clGetPlatformInfo platform packet.mData).handles,
      x ∈ insert 0 (insert platform K) := by simp [InfoQuery.handles]
  refine (keeps_info hq _).bind fun _ => keeps_orError fun _ => (keeps_resize _ _).bind fun _ => ?_
  exact (keeps_info hq _).bind fun _ => keeps_orError fun _ => keeps_write _ _

theorem keeps_sendDeviceList : Keeps K sendDeviceList := by
  refine (keeps_readPacket _).bind fun packet => keeps_getObj_bind _ fun platform => ?_
  have hc (n : ℕ) (last : Option Asked) :
      ∀ x ∈ (ServerCall.clGetDeviceIDs platform packet.mDeviceType n).handles last,
        x ∈ insert 0 (insert platform K) := by simp [ServerCall.handles]
  refine (keeps_ask (hc _)).bind fun _ => keeps_orError fun _ => keeps_ask_bind (hc _) fun a _ => ?_
  refine keeps_orError fun herr => keeps_writeIDs fun x hx => Or.inr (Or.inl ?_)
  show x ∈ named (.clGetDeviceIDs _ _ _) a
  rwa [named, if_pos herr]

theorem keeps_getDeviceInfo : Keeps K (getDeviceInfo B) := by
  refine (keeps_readPacket _).bind fun query => keeps_getObj_bind _ fun device => ?_
  have hq : ∀ x ∈ (InfoQuery.clGetDeviceInfo device query.mData).handles,
      x ∈ insert 0 (insert device K) := by simp [InfoQuery.handles]
  refine keeps_ite (fun h => keeps_replyObject hq fun a => if_pos h) fun _ => ?_
  refine keeps_ite (fun _ => keeps_replySize hq) fun _ => ?_
  exact keeps_ite (fun _ => keeps_replySizes hq) fun _ => keeps_replyRaw hq _ _

/-- The platforms of the rebuilt list are in the table. -/
theorem mem_platformValues {objects : List Ptr} {received properties : List UInt64} {x : Ptr}
    (h : rebuildProperties objects received = some properties)
    (hx : x ∈ platformValues ((terminated properties).getD [])) : x = 0 ∨ x ∈ objects := by
  have hrebuilt : ∀ received properties, rebuildProperties objects received = some properties →
      x ∈ platformValues (properties ++ [0]) → x = 0 ∨ x ∈ objects := by
    intro received
    induction received using rebuildProperties.induct with
    | case1 =>
      rintro properties h hx
      cases h
      exact absurd hx List.not_mem_nil
    | case2 key =>
      rintro properties h
      cases h
    | case3 key value rest ih =>
      intro properties h hx
      rw [rebuildProperties, Option.map_eq_some_iff] at h
      obtain ⟨properties, h, rfl⟩ := h
      rw [List.cons_append, List.cons_append, platformValues] at hx
      rcases List.mem_append.mp hx with hx | hx
      · split at hx
        · rw [List.mem_singleton.mp hx]
          exact objectAt_mem _ _
        · exact absurd hx List.not_mem_nil
      · exact ih _ h hx
  rw [terminated] at hx
  split at hx
  · exact absurd hx List.not_mem_nil
  · exact hrebuilt _ _ h hx

theorem keeps_rebuild_bind (received : List UInt64) {k : List UInt64 → ServerM Unit}
    (hk : ∀ properties, Keeps ({x | x ∈ platformValues ((terminated properties).getD [])} ∪ K)
      (k properties)) : Keeps K (rebuild received >>= k) := by
  rw [rebuild, bind_assoc]
  refine keeps_getState_bind fun s => ?_
  split
  · rename_i properties hrebuilt
    refine (hk properties).mono ?_
    rintro x (rfl | hx | hx)
    · exact Or.inl rfl
    · exact (mem_platformValues hrebuilt hx).imp_right Or.inl
    · exact Or.inr (Or.inr hx)
  · exact fun _ => trivial

theorem keeps_createContext : Keeps K createContext := by
  refine (keeps_readPacket _).bind fun packet => keeps_getObjs_bind _ fun devices => ?_
  refine keeps_rebuild_bind _ fun properties => keeps_created fun x hx => ?_
  rcases List.mem_append.mp hx with hx | hx
  · exact Or.inr (Or.inl hx)
  · exact Or.inr (Or.inr (Or.inl hx))

theorem keeps_createContextFromType : Keeps K createContextFromType := by
  refine (keeps_readPacket _).bind fun packet => ?_
  exact keeps_rebuild_bind _ fun properties => keeps_created fun x hx => Or.inr (Or.inl hx)

theorem keeps_getContextInfo : Keeps K (getContextInfo B) := by
  refine (keeps_readPacket _).bind fun query => keeps_getObj_bind _ fun context => ?_
  have hq {K' : Set Ptr} (hK : context ∈ K') :
      ∀ x ∈ (InfoQuery.clGetContextInfo context query.mData).handles, x ∈ insert 0 K' := by
    simp [InfoQuery.handles, hK]
  refine keeps_ask_bind (c := .info _ 32) (fun _ => hq (Or.inl rfl)) fun a hroomy => ?_
  refine keeps_orError fun herr => ?_
  -- the reply names objects only if it is about devices
  have hreply {K' : Set Ptr} (mData : Bytes) (replySize : ℕ)
      (hwords : query.mData = CL_CONTEXT_DEVICES →
        ∀ x ∈ words (replySize / 8) mData, x ∈ insert 0 K') :
      Keeps K' (if query.mData = CL_CONTEXT_DEVICES then
        getIDsFor (words (replySize / 8) mData) >>= fun mapped =>
          writePayload B .uint8 (idBytes mapped)
      else writePayload B .uint8 (memRead mData replySize)) :=
    keeps_ite (fun h => (keeps_getIDsFor (hwords h)).bind fun _ => keeps_write _ _) fun _ =>
      keeps_write _ _
  refine keeps_ite (fun hmore => ?_) fun _ => hreply _ _ fun hdevices x hx => ?_
  · refine (keeps_resize _ _).bind fun _ => ?_
    refine (keeps_info (hq (Or.inr (Or.inl rfl))) _).bind fun b => hreply _ _ fun hdevices => ?_
    exact absurd (hroomy hdevices herr) (Nat.not_le.mpr hmore)
  · refine Or.inr (Or.inl ?_)
    show x ∈ namedByInfo (.clGetContextInfo context query.mData) 32 a
    rw [namedByInfo, if_pos ⟨hdevices, herr⟩]
    exact hx

theorem keeps_getImageFormats : Keeps K (getImageFormats B) := by
  refine (keeps_readPacket _).bind fun query => keeps_getObj_bind _ fun context => ?_
  have hc (n : ℕ) (last : Option Asked) : ∀ x ∈ (ServerCall.clGetSupportedImageFormats context
      query.mFlags.toUInt64 query.mImageType n).handles last, x ∈ insert 0 (insert context K) := by
    simp [ServerCall.handles]
  refine (keeps_ask (hc _)).bind fun _ => keeps_orError fun _ => ?_
  exact (keeps_ask (hc _)).bind fun _ => keeps_write _ _

theorem keeps_createQueue : Keeps K createQueue := by
  refine (keeps_readPacket _).bind fun _ => keeps_getObj_bind _ fun context => ?_
  exact keeps_getObj_bind _ fun device => keeps_created (by simp [CreateCall.handles])

theorem keeps_createQueueWithProp : Keeps K (createQueueWithProp B) := by
  refine keeps_ite (fun _ => ?_) fun _ => keeps_writePacket _
  refine (keeps_readPacket _).bind fun _ => keeps_getObj_bind _ fun context => ?_
  exact keeps_getObj_bind _ fun device => keeps_created (by simp [CreateCall.handles])

theorem keeps_getQueueInfo : Keeps K (getQueueInfo B) := by
  refine (keeps_readPacket _).bind fun query => keeps_getObj_bind _ fun queue => ?_
  have hq : ∀ x ∈ (InfoQuery.clGetCommandQueueInfo queue query.mData).handles,
      x ∈ insert 0 (insert queue K) := by simp [InfoQuery.handles]
  exact keeps_ite (fun h => keeps_replyObject hq fun a => if_pos h) fun _ => keeps_replyRaw hq _ _

/-- A request to do something with one object. -/
theorem keeps_changes {P : Type} [Packet P] [Wire P] {id : P → IDType} {q : P → Ptr → StatusCall}
    (hq : ∀ last packet obj, (q packet obj).handles last = [obj]) :
    Keeps K (do
      let packet ← PacketStream.readPacket P
      let obj ← getObj (id packet)
      let err ← status (q packet obj)
      replyStatus err) := by
  refine (keeps_readPacket _).bind fun packet => keeps_getObj_bind _ fun obj => ?_
  exact (keeps_status (by simp [hq])).bind fun _ => keeps_replyStatus _

theorem keeps_changeRefCount (ty : PacketType) {call : ObjTy → Ptr → StatusCall}
    (hcall : ∀ last kind obj, (call kind obj).handles last = [obj]) :
    Keeps K (changeRefCount ty call) := by
  refine (keeps_readPacket _).bind fun packet => ?_
  split
  · refine keeps_getObj_bind _ fun obj => ?_
    exact (keeps_status (by simp [hcall])).bind fun _ => keeps_replyStatus _
  · exact keeps_writePacket _

/-! ### Programs and kernels -/

theorem keeps_createProgramFromSource : Keeps K createProgramFromSource := by
  refine (keeps_readPacket _).bind fun _ => keeps_getObj_bind _ fun context => ?_
  exact keeps_created (by simp [CreateCall.handles])

theorem keeps_readBinaries (n : ℕ) : Keeps K (readBinaries B n) := by
  induction n with
  | zero => exact keeps_pure _
  | succ n ih => exact (keeps_read _ _).bind fun _ => ih.bind fun _ => keeps_pure _

theorem keeps_createProgramFromBinary : Keeps K (createProgramFromBinary B) := by
  refine (keeps_readPacket _).bind fun _ => keeps_getObj_bind _ fun context => ?_
  refine (keeps_readPacket _).bind fun _ => keeps_getObjs_bind _ fun devices => ?_
  refine (keeps_readBinaries _).bind fun binaries => keeps_ask_bind ?_ fun a _ => ?_
  · simp +contextual [ServerCall.handles]
  · refine keeps_orError fun herr => (keeps_writeID (Or.inr (Or.inl ?_))).bind fun _ =>
      keeps_write _ _
    simp [named, herr]

theorem keeps_compileProgram : Keeps K compileProgram := by
  refine (keeps_readPacket _).bind fun _ => keeps_getObj_bind _ fun program => ?_
  refine keeps_getObjs_bind _ fun devices => keeps_getObjs_bind _ fun headers => ?_
  refine (keeps_status ?_).bind fun _ => keeps_replyStatus _
  simp only [StatusCall.handles, List.mem_cons, List.mem_append]
  rintro last x (rfl | hx | hx)
  · simp
  · simp [hx]
  · simp [hx]

theorem keeps_linkProgram : Keeps K linkProgram := by
  refine (keeps_readPacket _).bind fun _ => keeps_getObj_bind _ fun context => ?_
  refine keeps_getObjs_bind _ fun devices => keeps_getObjs_bind _ fun programs => ?_
  refine keeps_created ?_
  simp only [CreateCall.handles, List.mem_cons, List.mem_append]
  rintro x (rfl | hx | hx)
  · simp
  · simp [hx]
  · simp [hx]

theorem keeps_buildProgram : Keeps K buildProgram := by
  refine (keeps_readPacket _).bind fun _ => (keeps_readPacket _).bind fun _ => ?_
  refine keeps_getObjs_bind _ fun devices => keeps_getObj_bind _ fun program => ?_
  refine (keeps_status ?_).bind fun _ => keeps_replyStatus _
  simp only [StatusCall.handles, List.mem_cons]
  rintro last x (rfl | hx)
  · simp
  · simp [hx]

theorem keeps_getProgramBuildInfo : Keeps K (getProgramBuildInfo B) := by
  refine (keeps_readPacket _).bind fun request => keeps_getObj_bind _ fun program => ?_
  refine keeps_getObj_bind _ fun device => ?_
  have hq : ∀ x ∈ (InfoQuery.clGetProgramBuildInfo program device request.mParam).handles,
      x ∈ insert 0 (insert device (insert program K)) := by simp [InfoQuery.handles]
  refine (keeps_info hq _).bind fun a => keeps_orError fun _ => ?_
  have hreply (mData : Bytes) (replySize : ℕ) : Keeps (insert device (insert program K))
      (resize 1 replySize >>= fun _ => writePayload B .uint32 (memRead mData replySize)) :=
    (keeps_resize _ _).bind fun _ => keeps_write _ _
  refine keeps_ite (fun _ => ?_) fun _ => (keeps_pure _).bind fun _ => hreply _ _
  exact (keeps_info hq _).bind fun _ => (keeps_pure _).bind fun _ => hreply _ _

theorem keeps_resizeAll (sizes : List ℕ) : Keeps K (resizeAll sizes) := by
  induction sizes with
  | nil => exact keeps_pure _
  | cons size sizes ih => exact (keeps_resize _ _).bind fun _ => ih

theorem keeps_writeBinaries (binaries : List Bytes) : Keeps K (writeBinaries B binaries) := by
  induction binaries with
  | nil => exact keeps_pure _
  | cons binary binaries ih => exact (keeps_write _ _).bind fun _ => ih

theorem keeps_getProgramInfo : Keeps K (getProgramInfo B) := by
  refine (keeps_readPacket _).bind fun query => keeps_getObj_bind _ fun program => ?_
  have hq (param : UInt32) : ∀ x ∈ (InfoQuery.clGetProgramInfo program param).handles,
      x ∈ insert 0 (insert program K) := by simp [InfoQuery.handles]
  refine (keeps_info (hq _) _).bind fun first => keeps_orError fun _ => ?_
  refine keeps_ite (fun hcontext => ?_) fun hcontext => keeps_ite (fun hdevices => ?_) fun _ =>
    keeps_ite (fun _ => ?_) fun _ => ?_
  · refine keeps_ask_bind (c := .info _ 8) (fun _ => hq query.mData) fun a _ =>
      keeps_writeID (Or.inr (Or.inl ?_))
    show _ ∈ namedByInfo (.clGetProgramInfo program query.mData) 8 a
    rw [namedByInfo, if_pos hcontext]
    exact List.mem_singleton.mpr rfl
  · refine (keeps_resize _ _).bind fun _ => ?_
    refine keeps_ask_bind (c := .info _ _) (fun _ => hq query.mData) fun a _ =>
      keeps_writeIDs fun x hx => ?_
    refine Or.inr (Or.inl ?_)
    show x ∈ namedByInfo (.clGetProgramInfo program query.mData) _ a
    rw [namedByInfo, if_neg hcontext, if_pos hdevices]
    exact hx
  · refine (keeps_resize _ _).bind fun _ => (keeps_info (hq _) _).bind fun _ => ?_
    refine keeps_orError fun _ => (keeps_resizeAll _).bind fun _ => ?_
    refine (keeps_ask (by simp [ServerCall.handles])).bind fun _ => ?_
    exact (keeps_writePacket _).bind fun _ => keeps_writeBinaries _
  · refine (keeps_resize _ _).bind fun _ => (keeps_info (hq _) _).bind fun _ => ?_
    exact keeps_orError fun _ => keeps_write _ _

theorem keeps_createKernel : Keeps K createKernel := by
  refine (keeps_readPacket _).bind fun _ => keeps_getObj_bind _ fun program => ?_
  exact keeps_created (by simp [CreateCall.handles])

theorem keeps_createKernels : Keeps K createKernels := by
  refine (keeps_readPacket _).bind fun packet => keeps_getObj_bind _ fun program => ?_
  refine keeps_ask_bind (by simp [ServerCall.handles]) fun a hroomy => keeps_orError fun herr => ?_
  refine keeps_ite (fun _ => keeps_writePacket _) fun hcount => keeps_writeIDs fun x hx => ?_
  -- no more kernels are reported than there is room for
  have hroom : a.count.getD 0 - packet.mKernelCount.toNat = 0 :=
    Nat.sub_eq_zero_of_le (hroomy hcount herr)
  rw [hroom, List.replicate_zero, List.append_nil] at hx
  refine Or.inr (Or.inl ?_)
  show x ∈ named (.clCreateKernelsInProgram program packet.mKernelCount) a
  rw [named, if_pos ⟨herr, hcount⟩, createdKernels]
  exact List.mem_append_left _ hx

theorem keeps_cloneKernel : Keeps K (cloneKernel B) := by
  refine keeps_ite (fun _ => ?_) fun _ => keeps_writePacket _
  refine (keeps_readPacket _).bind fun _ => keeps_getObj_bind _ fun kernel => ?_
  exact keeps_created (by simp [CreateCall.handles])

theorem keepsTo_ite {c : Prop} [Decidable c] {p q : ServerM Unit} {last : Option Asked}
    (hp : c → p.KeepsTo handles last K) (hq : ¬ c → q.KeepsTo handles last K) :
    (if c then p else q).KeepsTo handles last K := by
  split
  · exact hp ‹_›
  · exact hq ‹_›

/-- The client is asked for the argument, and answers.  The driver is asked nothing meanwhile. -/
theorem keepsTo_request {α : Type} {last : Option Asked} (b : UInt8) {ty : PacketType}
    {r : Reader α} {k : α → ServerM Unit} (hk : ∀ a, (k a).KeepsTo handles last (insert 0 K)) :
    Prog.KeepsTo handles (writeValue b >>= fun _ => PacketStream.flush >>= fun _ =>
      PacketStream.read ty r >>= k : ServerM Unit) last (insert 0 K) := by
  refine fun sent => Prog.keepsTo_liftExcept_bind sent fun _ => ?_
  refine fun flushed => Prog.keepsTo_liftExcept_bind flushed fun _ => ?_
  rw [PacketStream.read, bind_assoc]
  refine Prog.keepsTo_ofReader_bind _ fun received => ?_
  split
  · rw [bind_assoc]
    exact Prog.keepsTo_ofReader_bind _ fun _ => trivial
  · split
    · trivial
    · exact Prog.keepsTo_ofReader_bind _ hk

/-- The argument is set, and the result is the reply. -/
theorem keepsTo_setArg {last : Option Asked} {kernel : Ptr} {index : UInt32} (size : ℕ)
    {value : Option Bytes} (hkernel : kernel ∈ insert 0 K)
    (hvalue : pointerArg last kernel index = true → ∀ data ∈ value, wordAt data ∈ insert 0 K) :
    (status (.clSetKernelArg kernel index size value) >>= replyStatus).KeepsTo handles last
      (insert 0 K) := by
  refine ⟨fun x hx => ?_, fun _ _ => (keeps_replyStatus _ _).mono Set.subset_union_right⟩
  rcases List.mem_cons.mp hx with rfl | hx
  · exact hkernel
  · split at hx
    · rename_i hpointer
      obtain ⟨data, hdata, rfl⟩ := Option.mem_map.mp (Option.mem_toList.mp hx)
      exact hvalue hpointer data hdata
    · exact absurd hx List.not_mem_nil

/-- An argument that is a pointer is a handle from the table. -/
theorem keeps_setKernelArg : Keeps K (setKernelArg B) := by
  refine (keeps_readPacket _).bind fun arg => keeps_getObj_bind _ fun kernel => ?_
  have hkernel : kernel ∈ insert 0 (insert kernel K) := Or.inr (Or.inl rfl)
  refine fun last => ⟨by simp [handles, ServerCall.handles, InfoQuery.handles], fun a _ =>
    Prog.KeepsTo.mono ?_ (Set.subset_union_right (t := insert 0 (insert kernel K)))⟩
  refine keepsTo_ite (fun _ => keeps_writePacket _ _) fun _ =>
    keepsTo_ite (fun _ => ?_) fun hother => ?_
  · refine keepsTo_request _ fun argID s => ?_
    refine (keepsTo_setArg (K := insert (objectAt s.mObjects argID.mData) (insert kernel K)) 8
      (hkernel.imp_right Or.inr) ?_).mono ?_
    · rintro - data hdata
      cases hdata
      rw [← List.append_nil (enc _), wordAt_enc]
      exact Or.inr (Or.inl rfl)
    · rintro x (rfl | rfl | hx)
      · exact Or.inr (Or.inl rfl)
      · exact (objectAt_mem s.mObjects _).elim (fun h => Or.inr (Or.inl h)) Or.inl
      · exact Or.inr (Or.inr hx)
  · -- the driver has not answered that it is a pointer
    have hvalue {p : Prop} : pointerArg (some ⟨.info (.clGetKernelArgInfo kernel arg.mArgIndex
        CL_KERNEL_ARG_ADDRESS_QUALIFIER) 4, a⟩) kernel arg.mArgIndex = true → p := fun h =>
      absurd (of_decide_eq_true h).2.2.2.2 hother
    exact keepsTo_ite
      (fun _ => keepsTo_request _ fun _ => keepsTo_setArg _ hkernel hvalue)
      fun _ => keepsTo_request _ fun _ => keepsTo_setArg _ hkernel hvalue

theorem keeps_getKernelInfo : Keeps K (getKernelInfo B) := by
  refine (keeps_readPacket _).bind fun query => keeps_getObj_bind _ fun kernel => ?_
  have hq : ∀ x ∈ (InfoQuery.clGetKernelInfo kernel query.mData).handles,
      x ∈ insert 0 (insert kernel K) := by simp [InfoQuery.handles]
  refine keeps_ite (fun h => keeps_replyObject hq fun a => if_pos h) fun _ => ?_
  exact keeps_ite (fun _ => keeps_replyUInt hq) fun _ => keeps_replyRaw hq _ _

theorem keeps_getKernelArgInfo : Keeps K (getKernelArgInfo B) := by
  refine (keeps_readPacket _).bind fun query => keeps_getObj_bind _ fun kernel => ?_
  have hq : ∀ x ∈ (InfoQuery.clGetKernelArgInfo kernel query.mArgIndex query.mParam).handles,
      x ∈ insert 0 (insert kernel K) := by simp [InfoQuery.handles]
  exact keeps_ite (fun _ => keeps_replyUInt hq) fun _ => keeps_replyRaw hq _ _

theorem keeps_getKernelWGInfo : Keeps K (getKernelWGInfo B) := by
  refine (keeps_readPacket _).bind fun query => keeps_getObj_bind _ fun device => ?_
  refine keeps_getObj_bind _ fun kernel => ?_
  have hq : ∀ x ∈ (InfoQuery.clGetKernelWorkGroupInfo kernel device query.mParam).handles,
      x ∈ insert 0 (insert kernel (insert device K)) := by simp [InfoQuery.handles]
  refine keeps_ite (fun _ => keeps_replySizes hq) fun _ => ?_
  exact keeps_ite (fun _ => keeps_replySize hq) fun _ => keeps_replyRaw hq _ _

/-! ### Memory objects and commands -/

theorem keeps_createBuffer : Keeps K (createBuffer B) := by
  refine (keeps_readPacket _).bind fun packet => keeps_getObj_bind _ fun context => ?_
  have hcreate (hostData : Option Bytes) : Keeps (insert context K) (create (.clCreateBuffer context
      packet.mFlags.toUInt64 packet.mSize.toNat hostData) >>= replyCreated) :=
    keeps_created (by simp [CreateCall.handles])
  refine keeps_ite (fun _ => ?_) fun _ => (keeps_pure _).bind fun _ => hcreate _
  exact (keeps_read _ _).bind fun _ => (keeps_pure _).bind fun _ => hcreate _

theorem keeps_createSubBuffer : Keeps K createSubBuffer := by
  refine (keeps_readPacket _).bind fun _ => keeps_getObj_bind _ fun buffer => ?_
  exact keeps_created (by simp [CreateCall.handles])

/-- The event of a command is named in its answer. -/
theorem keeps_replyEvent {mWantEvent : Bool} {event : Ptr}
    (hevent : mWantEvent = true → event ∈ insert 0 K) : Keeps K (replyEvent mWantEvent event) :=
  keeps_ite (fun h => keeps_writeID (hevent h)) fun _ => keeps_pure _

/-- What a command is given that waits for events, and is about a queue and another object. -/
theorem mem_enqueue {queue : Ptr} {command : Command} {events : List Ptr} {wantEvent : Bool}
    (hqueue : queue ∈ K) (hobject : command.object ∈ K) (hevents : ∀ x ∈ events, x ∈ K) :
    ∀ last, ∀ x ∈ (ServerCall.enqueue ⟨queue, command, events, wantEvent⟩).handles last,
      x ∈ insert 0 K := by
  simp only [ServerCall.handles, List.mem_cons]
  rintro last x (rfl | rfl | hx)
  · exact Or.inr hqueue
  · exact Or.inr hobject
  · exact Or.inr (hevents x hx)

section Replies

variable {mWantEvent : Bool} {a : EnqueueAns}

theorem keeps_replyRead (size : ℕ) :
    Keeps ({x | a.err = CL_SUCCESS ∧ mWantEvent = true ∧ x = a.event} ∪ K)
      (replyRead B mWantEvent size a) := by
  refine keeps_orError fun herr => (keeps_replyEvent fun h => ?_).bind fun _ => keeps_write _ _
  exact Or.inr (Or.inl ⟨herr, h, rfl⟩)

theorem keeps_replyCommand :
    Keeps ({x | a.err = CL_SUCCESS ∧ mWantEvent = true ∧ x = a.event} ∪ K)
      (replyCommand mWantEvent a) := by
  refine keeps_orError fun herr => (keeps_replyEvent fun h => ?_).bind fun _ => keeps_writePacket _
  exact Or.inr (Or.inl ⟨herr, h, rfl⟩)

end Replies

theorem keeps_readBuffer : Keeps K (readBuffer B) := by
  refine (keeps_readPacket _).bind fun packet => keeps_readEvents_bind _ fun events => ?_
  refine keeps_getObj_bind _ fun buffer => keeps_getObj_bind _ fun queue => ?_
  refine keeps_enqueue_bind (mem_enqueue (by simp) (by simp [Command.object]) ?_) fun a =>
    keeps_replyRead _
  exact fun x hx => Or.inr (Or.inr (Or.inl hx))

theorem keeps_readBufferRect : Keeps K (readBufferRect B) := by
  refine (keeps_readPacket _).bind fun packet => keeps_readEvents_bind _ fun events => ?_
  refine (keeps_resize _ _).bind fun _ => ?_
  refine keeps_getObj_bind _ fun buffer => keeps_getObj_bind _ fun queue => ?_
  refine keeps_enqueue_bind (mem_enqueue (by simp) (by simp [Command.object]) ?_) fun a =>
    keeps_replyRead _
  exact fun x hx => Or.inr (Or.inr (Or.inl hx))

theorem keeps_writeBuffer : Keeps K (writeBuffer B) := by
  refine (keeps_readPacket _).bind fun packet => keeps_readEvents_bind _ fun events => ?_
  refine (keeps_read _ _).bind fun data => ?_
  refine keeps_getObj_bind _ fun buffer => keeps_getObj_bind _ fun queue => ?_
  refine keeps_enqueue_bind (mem_enqueue (by simp) (by simp [Command.object]) ?_) fun a =>
    keeps_replyCommand
  exact fun x hx => Or.inr (Or.inr (Or.inl hx))

theorem keeps_fillBuffer : Keeps K fillBuffer := by
  refine (keeps_readPacket _).bind fun packet => keeps_readEvents_bind _ fun events => ?_
  refine keeps_getObj_bind _ fun buffer => keeps_getObj_bind _ fun queue => ?_
  refine keeps_enqueue_bind (mem_enqueue (by simp) (by simp [Command.object]) ?_) fun a =>
    keeps_replyCommand
  exact fun x hx => Or.inr (Or.inr (Or.inl hx))

theorem keeps_getMemObjInfo : Keeps K (getMemObjInfo B) := by
  refine (keeps_readPacket _).bind fun query => keeps_getObj_bind _ fun obj => ?_
  have hq : ∀ x ∈ (InfoQuery.clGetMemObjectInfo obj query.mData).handles,
      x ∈ insert 0 (insert obj K) := by simp [InfoQuery.handles]
  exact keeps_ite (fun h => keeps_replyObject hq fun a => if_pos h) fun _ => keeps_replyRaw hq _ _

/-- The image that is asked for its element size, and then released, is the one that has just been
created. -/
theorem keeps_createImage : Keeps K (createImage B) := by
  refine (keeps_readPacket _).bind fun packet => keeps_getObj_bind _ fun context => ?_
  refine keeps_create_bind (by simp [CreateCall.handles]) fun a => keeps_orError fun herr => ?_
  have hobject : a.object ∈ insert 0 ({x | a.err = CL_SUCCESS ∧ x = a.object} ∪ insert context K) :=
    Or.inr (Or.inl ⟨herr, rfl⟩)
  refine keeps_ite (fun _ => ?_) fun _ => keeps_writeID hobject
  refine (keeps_info (by simpa [InfoQuery.handles] using hobject) _).bind fun _ => ?_
  refine keeps_orError fun _ => (keeps_writePacket _).bind fun _ => keeps_flush.bind fun _ => ?_
  refine (keeps_read _ _).bind fun imageData => ?_
  refine (keeps_status (by simpa [StatusCall.handles] using hobject)).bind fun _ => ?_
  exact keeps_created (by simp [CreateCall.handles])

theorem keeps_readImage : Keeps K (readImage B) := by
  refine (keeps_readPacket _).bind fun packet => keeps_getObj_bind _ fun image => ?_
  refine (keeps_info (by simp [InfoQuery.handles]) _).bind fun _ => keeps_orError fun _ => ?_
  refine keeps_readEvents_bind _ fun events => keeps_getObj_bind _ fun queue => ?_
  refine (keeps_resize _ _).bind fun _ => ?_
  refine keeps_enqueue_bind (mem_enqueue (by simp) (by simp [Command.object]) ?_) fun b => ?_
  · exact fun x hx => Or.inr (Or.inl hx)
  · refine keeps_orError fun herr => (keeps_replyEvent fun h => ?_).bind fun _ => keeps_write _ _
    exact Or.inr (Or.inl ⟨herr, h, rfl⟩)

theorem keeps_writeImage : Keeps K (writeImage B) := by
  refine (keeps_readPacket _).bind fun packet => keeps_getObj_bind _ fun image => ?_
  refine (keeps_info (by simp [InfoQuery.handles]) _).bind fun _ => keeps_orError fun _ => ?_
  refine keeps_readEvents_bind _ fun events => keeps_getObj_bind _ fun queue => ?_
  refine (keeps_writePacket _).bind fun _ => keeps_flush.bind fun _ => ?_
  refine (keeps_read _ _).bind fun imageData => ?_
  refine keeps_enqueue_bind (mem_enqueue (by simp) (by simp [Command.object]) ?_) fun b => ?_
  · exact fun x hx => Or.inr (Or.inl hx)
  · refine keeps_orError fun herr => keeps_ite (fun h => keeps_writeID ?_) fun _ =>
      keeps_writePacket _
    exact Or.inr (Or.inl ⟨herr, h, rfl⟩)

theorem keeps_getImageInfo : Keeps K (getImageInfo B) := by
  refine (keeps_readPacket _).bind fun query => keeps_getObj_bind _ fun image => ?_
  have hq : ∀ x ∈ (InfoQuery.clGetImageInfo image query.mData).handles,
      x ∈ insert 0 (insert image K) := by simp [InfoQuery.handles]
  refine keeps_ite (fun hbuffer => ?_) fun _ => keeps_replyRaw hq _ _
  refine keeps_ask_bind (c := .info _ 8) (fun _ => hq) fun a _ => keeps_orError fun herr => ?_
  refine keeps_ite (fun hparent => keeps_writeID (Or.inr (Or.inl ?_))) fun _ => keeps_writePacket _
  show _ ∈ namedByInfo (.clGetImageInfo image query.mData) 8 a
  rw [namedByInfo, if_pos hbuffer, namedOne, if_pos herr]
  exact List.mem_filter.mpr ⟨List.mem_singleton.mpr rfl, decide_eq_true hparent⟩

theorem keeps_enqueueKernel : Keeps K enqueueKernel := by
  refine (keeps_readPacket _).bind fun packet => keeps_readEvents_bind _ fun events => ?_
  refine keeps_getObj_bind _ fun kernel => keeps_getObj_bind _ fun queue => ?_
  refine keeps_enqueue_bind (mem_enqueue (by simp) (by simp [Command.object]) ?_) fun a =>
    keeps_replyCommand
  exact fun x hx => Or.inr (Or.inr (Or.inl hx))

/-! ### Events -/

theorem keeps_createUserEvent : Keeps K createUserEvent := by
  refine (keeps_readPacket _).bind fun _ => keeps_getObj_bind _ fun context => ?_
  exact keeps_created (by simp [CreateCall.handles])

theorem keeps_getEventInfo : Keeps K getEventInfo := by
  refine (keeps_readPacket _).bind fun packet => keeps_getObj_bind _ fun event => ?_
  have hq : ∀ x ∈ (InfoQuery.clGetEventInfo event packet.mData).handles,
      x ∈ insert 0 (insert event K) := by simp [InfoQuery.handles]
  refine keeps_ask_bind (c := .info _ 8) (fun _ => hq) fun a _ => keeps_orError fun herr => ?_
  refine keeps_ite (fun h => keeps_writeID (Or.inr (Or.inl ?_))) fun _ =>
    keeps_ite (fun _ => keeps_writePacket _) fun _ => keeps_writePacket _
  show _ ∈ namedByInfo (.clGetEventInfo event packet.mData) 8 a
  rw [namedByInfo, if_pos h, namedOne, if_pos herr]
  exact List.mem_singleton.mpr rfl

theorem keeps_getEventProfilingInfo : Keeps K getEventProfilingInfo := by
  refine (keeps_readPacket _).bind fun packet => keeps_getObj_bind _ fun event => ?_
  exact keeps_replySize (by simp [InfoQuery.handles])

theorem keeps_waitForEvents : Keeps K waitForEvents := by
  refine (keeps_readPacket _).bind fun _ => keeps_readEvents_bind _ fun events => ?_
  refine (keeps_status fun _ x hx => ?_).bind fun _ => keeps_replyStatus _
  exact Or.inr (Or.inl hx)

theorem keeps_registerEventCallback : Keeps K registerEventCallback := by
  refine Keeps.tryCatch ?_ fun x => ?_
  · refine Keeps.bind ?_ fun P => keeps_getObj_bind _ fun event => ?_
    · refine (keeps_ofReader _).bind fun b => ?_
      refine keeps_ite (fun _ => ?_) fun _ => keeps_ite (fun _ => keeps_throw _) fun _ => ?_
      · exact (keeps_ofReader _).bind fun _ => keeps_throw _
      · refine (keeps_expect _).bind fun _ => ?_
        exact Keeps.tryCatch (keeps_ofReader _) fun _ => keeps_throw _
    · refine (keeps_status (by simp [StatusCall.handles])).bind fun err => ?_
      refine keeps_ite (fun _ => ?_) fun _ => keeps_writePacket _
      exact (keeps_writePacket _).bind fun _ => keeps_writePacket _
  · cases x with
    | terminate => exact keeps_throw _
    | _ => exact keeps_writePacket _

/-- The event stream has nothing to do with the table. -/
theorem keeps_openEventStream (triesLeft : ℕ) : Keeps K (openEventStream triesLeft) := by
  have hask {c : ServerCall} (h : ∀ last, c.handles last = []) :
      Keeps K (Prog.ask c : ServerM (Ans c)) :=
    keeps_ask (by simp [h])
  induction triesLeft with
  | zero => exact keeps_writePacket _
  | succ triesLeft ih =>
    refine (hask fun _ => rfl).bind fun r => (hask fun _ => rfl).bind fun bound => ?_
    cases bound with
    | opened =>
      refine Keeps.tryCatch ?_ fun _ => keeps_writePacket _
      refine Keeps.bind (keeps_writePacket _) fun _ => keeps_flush.bind fun _ => ?_
      refine (hask fun _ => rfl).bind fun accepted => ?_
      cases accepted with
      | opened => exact fun _ s => ⟨fun x hx => Or.inl hx, trivial⟩
      | socketError => exact keeps_throw _
      | otherError => exact keeps_throw _
    | socketError => exact ih
    | otherError => exact keeps_writePacket _

/-! ### All handlers -/

/-- **Every handler** keeps to the handles that the server has. -/
theorem keeps_handler {ty : PacketType} {h : ServerM Unit} (hh : handler B ty = some h) :
    Keeps K h := by
  cases ty with
  | getDeviceIDs => exact Option.some.inj hh ▸ keeps_sendDeviceList
  | getDeviceInfo => exact Option.some.inj hh ▸ keeps_getDeviceInfo
  | getPlatformInfo => exact Option.some.inj hh ▸ keeps_getPlatformInfo
  | getPlatformIDs => exact Option.some.inj hh ▸ keeps_sendPlatformList
  | createContext => exact Option.some.inj hh ▸ keeps_createContext
  | createContextFromType => exact Option.some.inj hh ▸ keeps_createContextFromType
  | getContextInfo => exact Option.some.inj hh ▸ keeps_getContextInfo
  | getImageFormats => exact Option.some.inj hh ▸ keeps_getImageFormats
  | createSourceProgram => exact Option.some.inj hh ▸ keeps_createProgramFromSource
  | createBinaryProgram => exact Option.some.inj hh ▸ keeps_createProgramFromBinary
  | compileProgram => exact Option.some.inj hh ▸ keeps_compileProgram
  | linkProgram => exact Option.some.inj hh ▸ keeps_linkProgram
  | buildProgram => exact Option.some.inj hh ▸ keeps_buildProgram
  | buildInfo => exact Option.some.inj hh ▸ keeps_getProgramBuildInfo
  | programInfo => exact Option.some.inj hh ▸ keeps_getProgramInfo
  | createKernel => exact Option.some.inj hh ▸ keeps_createKernel
  | createKernels => exact Option.some.inj hh ▸ keeps_createKernels
  | cloneKernel => exact Option.some.inj hh ▸ keeps_cloneKernel
  | setKernelArg => exact Option.some.inj hh ▸ keeps_setKernelArg
  | kernelWGInfo => exact Option.some.inj hh ▸ keeps_getKernelWGInfo
  | kernelArgInfo => exact Option.some.inj hh ▸ keeps_getKernelArgInfo
  | kernelInfo => exact Option.some.inj hh ▸ keeps_getKernelInfo
  | createQueue => exact Option.some.inj hh ▸ keeps_createQueue
  | createQueueWithProp => exact Option.some.inj hh ▸ keeps_createQueueWithProp
  | getQueueInfo => exact Option.some.inj hh ▸ keeps_getQueueInfo
  | flush => exact Option.some.inj hh ▸ keeps_changes fun _ _ _ => rfl
  | finish => exact Option.some.inj hh ▸ keeps_changes fun _ _ _ => rfl
  | createBuffer => exact Option.some.inj hh ▸ keeps_createBuffer
  | createSubBuffer => exact Option.some.inj hh ▸ keeps_createSubBuffer
  | readBuffer => exact Option.some.inj hh ▸ keeps_readBuffer
  | readBufferRect => exact Option.some.inj hh ▸ keeps_readBufferRect
  | writeBuffer => exact Option.some.inj hh ▸ keeps_writeBuffer
  | fillBuffer => exact Option.some.inj hh ▸ keeps_fillBuffer
  | getMemObjInfo => exact Option.some.inj hh ▸ keeps_getMemObjInfo
  | createImage => exact Option.some.inj hh ▸ keeps_createImage
  | readImage => exact Option.some.inj hh ▸ keeps_readImage
  | writeImage => exact Option.some.inj hh ▸ keeps_writeImage
  | getImageInfo => exact Option.some.inj hh ▸ keeps_getImageInfo
  | enqueueKernel => exact Option.some.inj hh ▸ keeps_enqueueKernel
  | waitEvents => exact Option.some.inj hh ▸ keeps_waitForEvents
  | createUserEvent => exact Option.some.inj hh ▸ keeps_createUserEvent
  | getEventProfilingInfo => exact Option.some.inj hh ▸ keeps_getEventProfilingInfo
  | getEventInfo => exact Option.some.inj hh ▸ keeps_getEventInfo
  | setUserEventStatus => exact Option.some.inj hh ▸ keeps_changes fun _ _ _ => rfl
  | release => exact Option.some.inj hh ▸ keeps_changeRefCount _ fun _ _ _ => rfl
  | retain => exact Option.some.inj hh ▸ keeps_changeRefCount _ fun _ _ _ => rfl
  | registerEventCallback => exact Option.some.inj hh ▸ keeps_registerEventCallback
  | eventStreamOpen =>
    exact Option.some.inj hh ▸ (keeps_readPacket _).bind fun _ => keeps_openEventStream 16
  | _ => cases hh

theorem keeps_dispatch (ty : Option PacketType) : Keeps K (dispatch B ty) := by
  cases ty with
  | none => exact keeps_pure true
  | some ty =>
    by_cases hterm : ty = .terminate
    · rw [hterm]
      exact Keeps.bind (p := terminate) (fun _ s => ⟨fun x hx => Or.inl hx, trivial⟩) fun _ =>
        keeps_pure false
    · rw [dispatch.eq_2 B ty hterm]
      split
      · exact (keeps_handler ‹_›).bind fun _ => keeps_pure true
      · exact keeps_pure false

/-- **Every iteration** keeps to the handles that the server has. -/
theorem keeps_serve : Keeps K (serve B) := by
  have hnext : Keeps K
      (PacketStream.nextPacketTy >>= fun ty => dispatch B (PacketType.ofByte ty)) :=
    Keeps.bind (p := PacketStream.nextPacketTy) (fun _ _ => trivial) fun _ => keeps_dispatch _
  refine Keeps.bind (hnext.tryCatch fun x => ?_) fun _ => keeps_flush.bind fun _ => keeps_pure _
  cases x with
  | badAlloc => exact (keeps_writePacket _).bind fun _ => keeps_pure true
  | _ => exact keeps_throw _

end Handlers

/-! ## The thread -/

section Thread

variable {D : List Asked → (c : ServerCall) → Ans c → Prop} {B : ServerBuild}

/-- A program that keeps to the null pointer and what the driver has named. -/
theorem checked_of_keeps (hD : ∀ log c a, D log c a → Roomy c a) {α : Type} {p : ServerM α}
    (hp : Keeps ∅ p) {start : ℕ} {s : ServerState} {u : Bytes} {w : ℕ} {log : List Asked}
    {o : Stop ServerState Exn α (List Asked)}
    (h : Prog.Runs (serverMedium start) (Capabilities.Recorded D) p s u w log o)
    (hs : handles.holds s ⊆ handles.known log) (hlog : handles.AllChecked log) :
    Prog.LeavesChecked handles o := by
  obtain ⟨fs, h⟩ := h
  refine Prog.KeepsTo.checked hD h (hp _) ?_ hs hlog
  rintro x (rfl | hx)
  · exact handles.common_subset_known log rfl
  · exact absurd hx (Set.notMem_empty x)

/-- What an iteration leaves. -/
theorem ServeRuns.checked (hD : ∀ log c a, D log c a → Roomy c a) {x : ThreadState (List Asked)}
    {o : Stop ServerState Exn Bool (List Asked)} {es : List ThreadStep}
    (h : ServeRuns (Capabilities.Recorded D) B x o es)
    (hx : handles.holds x.server ⊆ handles.known x.env) (hlog : handles.AllChecked x.env) :
    Prog.LeavesChecked handles o := checked_of_keeps hD keeps_serve h.runs hx hlog

/-- One iteration after the other. -/
theorem Running.checked (hD : ∀ log c a, D log c a → Roomy c a) {x : ThreadState (List Asked)}
    {z : ThreadEnd} {log : List Asked} {S : Set ThreadStep}
    (h : Running (Capabilities.Recorded D) B x z log S)
    (hx : handles.holds x.server ⊆ handles.known x.env) (hlog : handles.AllChecked x.env) :
    handles.AllChecked log := by
  induction h with
  | returns h | escapes h => exact (h.checked hD hx hlog).1
  | never h => exact h.checked hD hx hlog
  | again h _ ih =>
    obtain ⟨hlog, hs⟩ := h.checked hD hx hlog
    exact ih hs hlog
  | @forever x es h n =>
    -- every iteration of those that go on for ever leaves what the next one needs
    have hall (n : ℕ) : handles.AllChecked (x n).env ∧
        handles.holds (x n).server ⊆ handles.known (x n).env := by
      induction n with
      | zero => exact ⟨hlog, hx⟩
      | succ n ih => exact (h n).checked hD ih.2 ih.1
    exact (hall n).1

/-- **No forged handles**: in every execution of the thread of a connection, whatever the client
sends and whatever fails, each question to the driver names only handles that are null, or that the
driver has named in one of the answers before. -/
theorem thread_checked (hD : ∀ log c a, D log c a → Roomy c a) {u : Bytes} {z : ThreadEnd}
    {log : List Asked} {S : Set ThreadStep}
    (h : Thread (Capabilities.Recorded D) B u [] z log S) : handles.AllChecked log := by
  have hempty : handles.holds ⟨[], none⟩ ⊆ handles.known [] := fun _ hx =>
    absurd hx List.not_mem_nil
  have hconstruct : Keeps ∅ (construct B) := (keeps_writePacket _).bind fun _ => keeps_flush
  have hchecked {o : Stop ServerState Exn Unit (List Asked)} {es : List ThreadStep}
      (h : Executes (Capabilities.Recorded D) u.length Unit (construct B) ⟨[], none⟩ u 0 [] o es) :=
    checked_of_keeps hD hconstruct (Prog.Traced.runs h PartRuns.runs) hempty handles.allChecked_nil
  cases h with
  | escapes h => exact (hchecked h).1
  | never h => exact hchecked h
  | run h hrun =>
    obtain ⟨hlog, hs⟩ := hchecked h
    exact hrun.checked hD hs hlog

end Thread

/-- A driver that relies on nothing else. -/
abbrev roomyDriver (_ : List Asked) (c : ServerCall) (a : Ans c) : Prop := Roomy c a

/-- A client asks for the platforms, of which the driver names one, and then for the name of the one
with the ID 0.  The driver is given the handle that it has named. -/
theorem thread_checked_platform :
    handles.AllChecked [
      ⟨.clGetPlatformIDs 0, ⟨0, some 1, []⟩⟩,
      ⟨.clGetPlatformIDs 1, ⟨0, some 1, [0x7f10]⟩⟩,
      ⟨.info (.clGetPlatformInfo 0x7f10 0x902) 0, ⟨-30, none, []⟩⟩] := by
  let E := Capabilities.Recorded roomyDriver
  let count : Asked := ⟨.clGetPlatformIDs 0, ⟨0, some 1, []⟩⟩
  let platform : Asked := ⟨.clGetPlatformIDs 1, ⟨0, some 1, [0x7f10]⟩⟩
  let query : Asked := ⟨.info (.clGetPlatformInfo 0x7f10 0x902) 0, ⟨-30, none, []⟩⟩
  let nameRequest : Bytes := [PacketType.getPlatformInfo.toByte, 2, 9, 0, 0, 0, 0]
  let request : Bytes := PacketType.getPlatformIDs.toByte :: nameRequest
  -- the platforms
  have hread : Executes E 8 GetPlatformIDs (PacketStream.readPacket GetPlatformIDs) ⟨[], none⟩
      request 0 [] (.done (.ok ⟨⟩) ⟨[], none⟩ nameRequest 0 []) _ :=
    executes_read (P := GetPlatformIDs) (by decide) rfl
  have hcount : Executes E 8 ObjectsAns (Prog.ask (ServerCall.clGetPlatformIDs 0)) ⟨[], none⟩
      nameRequest 0 [] (.done (.ok ⟨0, some 1, []⟩) ⟨[], none⟩ nameRequest 0 [count]) [] :=
    .part (.ask (c := .clGetPlatformIDs 0) ⟨trivial, rfl⟩)
  have hplatform : Executes E 8 ObjectsAns (Prog.ask (ServerCall.clGetPlatformIDs 1)) ⟨[], none⟩
      nameRequest 0 [count] (.done (.ok ⟨0, some 1, [0x7f10]⟩) ⟨[], none⟩ nameRequest 0
        [count, platform]) [] :=
    .part (.ask (c := .clGetPlatformIDs 1) ⟨trivial, rfl⟩)
  have hid : Executes E 8 IDType (getIDFor 0x7f10) ⟨[], none⟩ nameRequest 0 [count, platform]
      (.done (.ok 0) ⟨[0x7f10], none⟩ nameRequest 0 [count, platform]) _ :=
    .part (.getIDFor ⟨_, .get (.put .ret)⟩)
  have hids : Executes E 8 Unit (writeIDs [0x7f10]) ⟨[], none⟩ nameRequest 0 [count, platform]
      (.done (.ok ()) ⟨[0x7f10], none⟩ nameRequest 4 [count, platform]) _ :=
    .bind (.bind hid (.bind .ret .ret)) (executes_write (by decide))
  have hlist : Executes E 8 Bool (sendPlatformList >>= fun _ => pure true) ⟨[], none⟩ request 0 []
      (.done (.ok true) ⟨[0x7f10], none⟩ nameRequest 4 [count, platform]) _ :=
    .bind (.bind hread (.bind hcount (.bind hplatform hids))) .ret
  -- the name of the platform
  have hquery : Executes E 7 GetPlatformInfo (PacketStream.readPacket GetPlatformInfo)
      ⟨[0x7f10], none⟩ nameRequest 0 [count, platform]
      (.done (.ok ⟨0, 0x902⟩) ⟨[0x7f10], none⟩ [] 0 [count, platform]) _ :=
    executes_read (P := GetPlatformInfo) (by decide) rfl
  have hobj : Executes E 7 Ptr (getObj 0) ⟨[0x7f10], none⟩ [] 0 [count, platform]
      (.done (.ok 0x7f10) ⟨[0x7f10], none⟩ [] 0 [count, platform]) _ :=
    .bind (.part .getState) .ret
  have hask : Executes E 7 InfoAns (info (.clGetPlatformInfo 0x7f10 0x902) 0) ⟨[0x7f10], none⟩ [] 0
      [count, platform]
      (.done (.ok ⟨-30, none, []⟩) ⟨[0x7f10], none⟩ [] 0 [count, platform, query]) [] :=
    .part (.ask (c := .info _ 0) ⟨trivial, rfl⟩)
  have hinfo : Executes E 7 Bool (getPlatformInfo plainServer >>= fun _ => pure true)
      ⟨[0x7f10], none⟩ nameRequest 0 [count, platform]
      (.done (.ok true) ⟨[0x7f10], none⟩ [] 5 [count, platform, query]) _ :=
    .bind (.bind hquery (.bind hobj (.bind hask (executes_write (by decide))))) .ret
  have hrun : Running E plainServer ⟨⟨⟨[], none⟩, request, []⟩, 0⟩ .returns
      [count, platform, query] _ :=
    .again (y := ⟨⟨⟨[0x7f10], none⟩, nameRequest, _⟩, 0⟩) (serveRuns_of_dispatch hlist)
      (.again (y := ⟨⟨⟨[0x7f10], none⟩, [], _⟩, 0⟩) (serveRuns_of_dispatch hinfo) running_leaves)
  exact thread_checked (fun _ _ _ h => h) (.run (x := ⟨⟨⟨[], none⟩, request, []⟩, 0⟩)
    executes_construct hrun)

end RemoteCL

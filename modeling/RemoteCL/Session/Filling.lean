import RemoteCL.Common.Unreliable
import RemoteCL.Session.Sizes
import RemoteCL.Session.Guesses
import RemoteCL.Theory.Liberal

/-!
# What a query fills

A query tells the application how many bytes its value has, and copies the value if there is room
for it.  Both are computed apart from each other, and in every function anew.  `InfoCall.value` says
what the value is: the reply of the server, with objects in the place of their IDs and numbers in
the width of the client.

Whatever the server sends, and wherever the connection fails, a query that reports a size for which
there is room has stored this size, and exactly as many bytes, which are the value.  There are two
exceptions: of the queue of an event only a part is copied, and three sizes are received into an
array that may be too short for the reply.  This is `InfoCall.fillsExactly_iff`.
-/

namespace RemoteCL

open ByteStream Conversation Wire LawfulWire Client

/-! ## What a call stores -/

/-- What an event stores. -/
def ClientEvent.store? : ClientEvent → Option Store
  | store x => some x
  | lookup _ _ _ => none

/-- What a client has stored, in the order in which it has done so. -/
def storesSince (s s' : ClientState) : List Store :=
  (eventsSince s s').filterMap ClientEvent.store?

/-- A client has stored this since it was in another state. -/
def Stored (s s' : ClientState) (xs : List Store) : Prop :=
  ∃ new, Extends s s' new ∧ new.filterMap ClientEvent.store? = xs

namespace Stored

variable {s s' : ClientState} {xs : List Store}

theorem refl (s : ClientState) : Stored s s [] := ⟨[], Extends.refl s, rfl⟩

theorem storesSince (h : Stored s s' xs) : storesSince s s' = xs := by
  obtain ⟨new, hnew, rfl⟩ := h
  rw [RemoteCL.storesSince, hnew.eventsSince]

theorem stored (h : Stored s s' xs) (pointer : Bool) (x : Store) :
    Stored s (s'.stored pointer x) (xs ++ if pointer then [x] else []) := by
  obtain ⟨new, hnew, rfl⟩ := h
  refine ⟨_, hnew.stored pointer x, ?_⟩
  cases pointer <;> rw [List.filterMap_append] <;> rfl

theorem applyAll (h : Stored s s' xs) (how : Resolve) (kind : Kind) (ids : List IDType) :
    Stored s (how.applyAll s' kind ids).2 xs := by
  obtain ⟨new, hnew, rfl⟩ := h
  refine ⟨_, hnew.applyAll how kind ids, ?_⟩
  rw [List.filterMap_append, filterMap_lookupEvents fun _ _ _ => rfl, List.append_nil]

theorem apply (h : Stored s s' xs) (how : Resolve) (kind : Kind) (id : IDType) :
    Stored s (how.apply s' kind id).2 xs :=
  h.applyAll how kind [id]

end Stored

/-- The bytes that a store puts at `param_value`.  A handle is the address of an object. -/
def Store.filled (address : Lookup → UInt64) : Store → Option Bytes
  | param_value data => some data
  | param_handles _ hs => some (hs.flatMap fun h => enc (address h))
  | param_handle_bytes _ n h => some ((enc (address h)).take n)
  | _ => none

/-- A call has stored the size of a value at `param_value_size_ret`, its bytes at `param_value`, and
nothing else. -/
def FilledWith (address : Lookup → UInt64) (v : Bytes) (s s' : ClientState) : Prop :=
  ∃ x, x.filled address = some v ∧
    (storesSince s s').Perm [.param_value_size_ret v.length, x]

/-- A call that reports a size for which there is room fills as many bytes, with a value of which
`V` holds. -/
def Fills (address : Lookup → UInt64) (args : InfoArgs) (V : Bytes → Prop)
    (s s' : ClientState) : Prop :=
  ∀ n, .param_value_size_ret n ∈ storesSince s s' → n ≤ args.param_value_size →
    ∃ v, V v ∧ v.length = n ∧ FilledWith address v s s'

section Fills

variable {address : Lookup → UInt64} {args : InfoArgs} {V : Bytes → Prop} {s s' : ClientState}
variable {v : Bytes} {size : ℕ} {pointer : Bool} {x : Store}

theorem fills_refl : Fills address args V s s := by
  intro n hn
  rw [(Stored.refl s).storesSince] at hn
  exact absurd hn List.not_mem_nil

theorem Fills.mono {W : Bytes → Prop} (h : Fills address args V s s') (hVW : ∀ v, V v → W v) :
    Fills address args W s s' := by
  intro n hn hroom
  obtain ⟨v, hv, hlength, hfilled⟩ := h n hn hroom
  exact ⟨v, hVW v hv, hlength, hfilled⟩

/-- A size and a value have been stored, in one order or the other. -/
theorem fills_of_perm
    (h : (storesSince s s').Perm
      ((if args.param_value_size_ret then [.param_value_size_ret size] else []) ++
        if pointer then [x] else []))
    (hx : ∀ n, x ≠ .param_value_size_ret n) (hsize : v.length = size)
    (hfilled : size ≤ args.param_value_size → pointer = true ∧ x.filled address = some v) :
    Fills address args (· = v) s s' := by
  subst hsize
  intro n hn hroom
  rw [h.mem_iff, List.mem_append] at hn
  rcases hn with hn | hn
  · cases hret : args.param_value_size_ret with
    | false =>
      rw [hret] at hn
      exact absurd hn List.not_mem_nil
    | true =>
      rw [hret] at hn h
      obtain rfl : n = v.length := by simpa using hn
      obtain ⟨rfl, hv⟩ := hfilled hroom
      exact ⟨v, rfl, rfl, x, hv, h⟩
  · cases pointer with
    | false => exact absurd hn List.not_mem_nil
    | true => exact absurd (List.mem_singleton.mp hn).symm (hx n)

theorem Stored.fills_sizeFirst
    (h : Stored s s'
      ((if args.param_value_size_ret then [.param_value_size_ret size] else []) ++
        if pointer then [x] else []))
    (hx : ∀ n, x ≠ .param_value_size_ret n) (hsize : v.length = size)
    (hfilled : size ≤ args.param_value_size → pointer = true ∧ x.filled address = some v) :
    Fills address args (· = v) s s' :=
  fills_of_perm (by rw [h.storesSince]) hx hsize hfilled

theorem Stored.fills_valueFirst
    (h : Stored s s' ((if pointer then [x] else []) ++
      if args.param_value_size_ret then [.param_value_size_ret size] else []))
    (hx : ∀ n, x ≠ .param_value_size_ret n) (hsize : v.length = size)
    (hfilled : size ≤ args.param_value_size → pointer = true ∧ x.filled address = some v) :
    Fills address args (· = v) s s' :=
  fills_of_perm (by rw [h.storesSince]; exact List.perm_append_comm) hx hsize hfilled

end Fills

/-! ## Programs that fill -/

/-- The bytes behind the type of a packet are read as this value. -/
def ReplySpells (r : Reader Bytes) (u v : Bytes) : Prop :=
  ∃ ty body rest, u = ty :: body ∧ r.run body = some (v, rest)

/-- A packet has arrived that is no `Error` and no `Terminate`, and its body is read as this. -/
def Arrives {α : Type} (r : Reader α) (u : Bytes) (a : α) : Prop :=
  ∃ b body rest, u = b :: body ∧ b ≠ PacketType.error.toByte ∧
    b ≠ PacketType.terminate.toByte ∧ r.run body = some (a, rest)

section Programs

variable {address : Lookup → UInt64} {args : InfoArgs} {s : ClientState} {spoiled : Bytes → Prop}

/-- A program without a reply to wait for fills a value. -/
def Gives (address : Lookup → UInt64) (args : InfoArgs) (s : ClientState) (p : ClientM Ret)
    (v : Bytes) : Prop :=
  ∀ u, p.wlp False s u fun
    | .ok _, s', _ => Fills address args (· = v) s s'
    | .error _, s', _ => s' = s

/-- A program fills the value that it receives, unless it is one of the `spoiled` replies.  If it
throws, it has not stored anything. -/
def Answered (address : Lookup → UInt64) (args : InfoArgs) (spoiled : Bytes → Prop)
    (p : ClientM Ret) (value : ClientState → Reader Bytes) : Prop :=
  ∀ s u, ¬ spoiled u → p.wlp False s u fun
    | .ok _, s', _ => Fills address args (ReplySpells (value s) u) s s'
    | .error _, s', _ => s' = s

/-- A call fills the value that it receives, unless it is one of the `spoiled` replies. -/
def CallFills (address : Lookup → UInt64) (args : InfoArgs) (spoiled : Bytes → Prop)
    (p : ClientM Ret) (value : ClientState → Reader Bytes) : Prop :=
  ∀ s u, ¬ spoiled u → p.wlp False s u fun _ s' _ =>
    Fills address args (ReplySpells (value s) u) s s'

variable {p : ClientM Ret} {value : ClientState → Reader Bytes}

theorem callFills_pure (r : Ret) : CallFills address args spoiled (pure r) value :=
  fun _ _ _ => fills_refl

theorem callFills_catching {badAlloc others : Int32} (h : Answered address args spoiled p value) :
    CallFills address args spoiled (catching badAlloc others p) value := by
  intro s u hu
  refine Prog.wlp_tryCatch (Prog.wlp_mono ?_ (h s u hu))
  rintro (x | a) s' u' hs
  · cases x <;> exact hs ▸ fills_refl
  · exact hs

theorem answered_request {P : Type} [Packet P] [Wire P] (x : P)
    (h : Answered address args spoiled p value) :
    Answered address args spoiled
      (PacketStream.writePacket x >>= fun _ => PacketStream.flush >>= fun _ => p) value := by
  intro s u hu
  refine Prog.wlp_bind (Prog.wlp_send ?_)
  rintro (x | a)
  · rfl
  refine Prog.wlp_bind (Prog.wlp_flushOut ?_)
  rintro (x | a)
  · rfl
  exact h s u hu

/-- What a function does with a packet that does not spoil it. -/
theorem answered_read_of {α : Type} {ty : PacketType} {r : Reader α} {k : α → ClientM Ret}
    {f : ClientState → α → Bytes}
    (hk : ∀ s u a, Arrives r u a → ¬ spoiled u → Gives address args s (k a) (f s a)) :
    Answered address args spoiled (PacketStream.read ty r >>= k)
      fun s => r >>= fun a => pure (f s a) := by
  intro s u hu
  refine Prog.wlp_bind (wlp_read (fun b body a rest hb herr hterm hrun => ?_) fun x v => rfl)
  refine Prog.wlp_mono ?_ (hk s u a ⟨b, body, rest, hb, herr, hterm, hrun⟩ hu rest)
  rintro (x | a') s' u' hs
  · exact hs
  · refine hs.mono ?_
    rintro v rfl
    refine ⟨b, body, rest, hb, ?_⟩
    rw [Reader.run_bind, hrun]
    rfl

theorem answered_read {α : Type} {ty : PacketType} {r : Reader α} {k : α → ClientM Ret}
    {f : ClientState → α → Bytes} (hk : ∀ s a, Gives address args s (k a) (f s a)) :
    Answered address args spoiled (PacketStream.read ty r >>= k)
      fun s => r >>= fun a => pure (f s a) :=
  answered_read_of fun s _ a _ _ => hk s a

/-- Bytes that are the value themselves. -/
theorem answered_readBytes {ty : PacketType} {r : Reader Bytes} {k : Bytes → ClientM Ret}
    (hk : ∀ s data, Gives address args s (k data) data) :
    Answered address args spoiled (PacketStream.read ty r >>= k) fun _ => r := by
  have h : Answered address args spoiled (PacketStream.read ty r >>= k) fun _ => r >>= pure :=
    answered_read (f := fun _ data => data) hk
  rwa [bind_pure] at h

/-- The branches of a function and of its value are the same. -/
theorem answered_ite {c : Prop} [Decidable c] {q : ClientM Ret}
    {value' : ClientState → Reader Bytes}
    (hp : c → Answered address args spoiled p value)
    (hq : ¬ c → Answered address args spoiled q value') :
    Answered address args spoiled (if c then p else q)
      fun s => if c then value s else value' s := by
  by_cases hc : c
  · simpa only [if_pos hc] using hp hc
  · simpa only [if_neg hc] using hq hc

/-! ### What the functions do with a reply -/

theorem wlp_store {S : Prop} {pointer : Bool} {x : Store} {u : Bytes}
    {Q : Except Exn Unit → ClientState → Bytes → Prop} (h : Q (.ok ()) (s.stored pointer x) u) :
    (store pointer x).wlp S s u Q := by
  cases pointer <;> exact h

theorem fst_apply_stored (how : Resolve) (pointer : Bool) (x : Store) (kind : Kind) (id : IDType) :
    (how.apply (s.stored pointer x) kind id).1 = (how.apply s kind id).1 := by
  have hsame : (how.applyAll (s.stored pointer x) kind [id]).1 = (how.applyAll s kind [id]).1 :=
    fst_applyAll_stored how pointer x kind
  exact (List.cons.inj hsame).1

/-- Handles in the application's memory. -/
def handleBytes (address : Lookup → UInt64) (hs : List Lookup) : Bytes :=
  hs.flatMap fun h => enc (address h)

theorem length_handleBytes (hs : List Lookup) :
    (handleBytes address hs).length = hs.length * 8 := by
  induction hs with
  | nil => rfl
  | cons h hs ih =>
    have henc : (enc (address h)).length = 8 := length_leBytes 8 _
    rw [handleBytes, List.flatMap_cons, List.length_append, henc, ← handleBytes, ih,
      List.length_cons, Nat.succ_mul, Nat.add_comm]

theorem wlp_resolve {S : Prop} {how : Resolve} {kind : Kind} {id : IDType} {u : Bytes}
    {Q : Except Exn Lookup → ClientState → Bytes → Prop}
    (h : Q (.ok (how.apply s kind id).1) (how.apply s kind id).2 u) :
    (resolve how kind id).wlp S s u Q := h

theorem wlp_resolveAll {S : Prop} {how : Resolve} {kind : Kind} {ids : List IDType} {u : Bytes}
    {Q : Except Exn (List Lookup) → ClientState → Bytes → Prop}
    (h : Q (.ok (how.applyAll s kind ids).1) (how.applyAll s kind ids).2 u) :
    (resolveAll how kind ids).wlp S s u Q := h

theorem gives_storeValue (data : Bytes) :
    Gives address args s (storeValue args data >>= fun _ => pure (.code CL_SUCCESS)) data := by
  intro u
  refine Prog.wlp_bind (Prog.wlp_bind (wlp_store (wlp_store ?_)))
  exact (((Stored.refl s).stored _ _).stored _ _).fills_valueFirst nofun rfl fun hroom =>
    ⟨decide_eq_true hroom, rfl⟩

/-- An ID is resolved, and the handle is stored. -/
theorem gives_storeHandle (how : Resolve) (kind : Kind) (id : IDType) :
    Gives address args s (resolve how kind id >>= fun h =>
        storeHandle args kind h >>= fun _ => pure (.code CL_SUCCESS))
      (handleBytes address [(how.apply s kind id).1]) := by
  intro u
  refine Prog.wlp_bind (wlp_resolve ?_)
  refine Prog.wlp_bind (Prog.wlp_bind (wlp_store (wlp_store ?_)))
  exact ((((Stored.refl s).apply how kind id).stored _ _).stored _ _).fills_valueFirst nofun
    (length_handleBytes _) fun hroom => ⟨decide_eq_true hroom, rfl⟩

variable (hvalue : args.param_value = true)
include hvalue

theorem gives_storePayload (data : Bytes) :
    Gives address args s (storePayload args data >>= fun _ => pure (.code CL_SUCCESS)) data := by
  intro u
  refine Prog.wlp_bind (Prog.wlp_bind (wlp_store (wlp_store ?_)))
  refine (((Stored.refl s).stored _ _).stored _ _).fills_sizeFirst nofun rfl fun hroom => ⟨?_, rfl⟩
  rw [hvalue, decide_eq_true hroom]
  rfl

/-- Bytes of a known size. -/
theorem gives_storeSized {size : ℕ} {data : Bytes} (hsize : data.length = size) :
    Gives address args s (store args.param_value_size_ret (.param_value_size_ret size) >>= fun _ =>
        store (args.param_value && decide (size ≤ args.param_value_size)) (.param_value data) >>=
          fun _ => pure (.code CL_SUCCESS))
      data := by
  intro u
  refine Prog.wlp_bind (wlp_store (Prog.wlp_bind (wlp_store ?_)))
  refine (((Stored.refl s).stored _ _).stored _ _).fills_sizeFirst nofun hsize fun hroom =>
    ⟨?_, rfl⟩
  rw [hvalue, decide_eq_true hroom]
  rfl

/-- A value that is looked up only if there is room for it. -/
theorem gives_ifRoom {size : ℕ} {v : Bytes} {x : Store} {q : ClientM Ret}
    (hx : ∀ n, x ≠ .param_value_size_ret n) (hsize : v.length = size)
    (hfilled : x.filled address = some v)
    (hq : ∀ u, q.wlp False (s.stored args.param_value_size_ret (.param_value_size_ret size)) u
      fun r s' _ => (∃ a, r = .ok a) ∧ Stored s s'
        ((if args.param_value_size_ret then [.param_value_size_ret size] else []) ++
          if true then [x] else [])) :
    Gives address args s (store args.param_value_size_ret (.param_value_size_ret size) >>= fun _ =>
        if args.param_value && decide (size ≤ args.param_value_size) then q
        else pure (.code CL_SUCCESS)) v := by
  intro u
  refine Prog.wlp_bind (wlp_store ?_)
  by_cases hroom : size ≤ args.param_value_size
  · rw [hvalue, decide_eq_true hroom]
    refine Prog.wlp_mono ?_ (hq u)
    rintro _ s' u' ⟨⟨a, rfl⟩, hs'⟩
    exact hs'.fills_sizeFirst hx hsize fun _ => ⟨rfl, hfilled⟩
  · rw [hvalue, decide_eq_false hroom]
    exact (((Stored.refl s).stored _ _).stored false x).fills_sizeFirst hx hsize fun h =>
      absurd h hroom

/-- With room for all of them, all bytes are copied. -/
theorem gives_storePrefix (data : Bytes) :
    Gives address args s (storePrefix args data >>= fun _ => pure (.code CL_SUCCESS)) data := by
  intro u
  refine Prog.wlp_bind (Prog.wlp_bind (wlp_store (wlp_store ?_)))
  refine (((Stored.refl s).stored _ _).stored _ _).fills_sizeFirst nofun rfl fun hroom =>
    ⟨hvalue, ?_⟩
  rw [List.take_of_length_le hroom]
  rfl

end Programs

/-! ## The queries -/

/-- A call of a function that asks for information. -/
inductive InfoCall where
  | clGetPlatformInfo (platform : Option Handle) (param_name : UInt32)
  | clGetDeviceInfo (device : Option Handle) (param_name : UInt32)
  | clGetContextInfo (context : Option Handle) (param_name : UInt32)
  | clGetCommandQueueInfo (command_queue : Option Handle) (param_name : UInt32)
  | clGetMemObjectInfo (memobj : Option Handle) (param_name : UInt32)
  | clGetImageInfo (image : Option Handle) (param_name : UInt32)
  | clGetProgramBuildInfo (program device : Option Handle) (param_name : UInt32)
  | clGetProgramInfo (program : Option Handle) (param_name : UInt32)
  | clGetKernelWorkGroupInfo (kernel device : Option Handle) (param_name : UInt32)
  | clGetKernelInfo (kernel : Option Handle) (param_name : UInt32)
  | clGetKernelArgInfo (kernel : Option Handle) (arg_indx param_name : UInt32)
  | clGetEventInfo (event : Option Handle) (param_name : UInt32)
  | clGetEventProfilingInfo (event : Option Handle) (param_name : UInt32)

/-! ### The values -/

section Values

variable (C : Build) (H : Host) (address : Lookup → UInt64) (s : ClientState)

/-- An object in the place of its ID. -/
def objectValue (how : Resolve) (kind : Kind) : Reader Bytes := do
  let id ← (dec : Reader IDPacket)
  pure (handleBytes address [(how.apply s kind id.mData).1])

/-- The same, where one ID stands for no object. -/
def objectOrNullValue (how : Resolve) (kind : Kind) : Reader Bytes := do
  let id ← (dec : Reader IDPacket)
  pure (if id.mData ≠ 0xFFFF then handleBytes address [(how.apply s kind id.mData).1] else zeros 8)

/-- Objects in the place of the IDs of a list. -/
def objectsValue (how : Resolve) (kind : Kind) : Reader Bytes := do
  let list ← (dec : Reader IDListPacket)
  pure (handleBytes address (how.applyAll s kind list.mIDs).1)

/-- Objects in the place of the IDs in a payload. -/
def payloadObjectsValue (how : Resolve) (kind : Kind) (sz : SizeT) : Reader Bytes := do
  let payload ← decPayload C.zlib sz
  pure (handleBytes address (how.applyAll s kind (idsOf payload)).1)

/-- A number, in the width of its type at the client. -/
def numberValue (T : Type) [Wire T] (bytes : T → Bytes) : Reader Bytes := do
  let value ← (dec : Reader (SimplePacket .payload T))
  pure (bytes value.mData)

/-- Three sizes, in the width of a `std::size_t`. -/
def sizesValue : Reader Bytes := do
  let sizes ← decPayloadInto C.zlib .uint8
  pure ((words 3 (storeInto H.sizes sizes)).flatMap H.size)

/-- A payload as it is. -/
def payloadValue (sz : SizeT) : Reader Bytes := decPayload C.zlib sz

/-- How the reply to a query is read as its value. -/
def InfoCall.value : InfoCall → Reader Bytes
  | clGetPlatformInfo _ _ => payloadValue C .uint8
  | clGetDeviceInfo _ param =>
    if param = CL_DEVICE_PLATFORM then objectValue address s .getOrInsertObject .platformID
    else if param = CL_DEVICE_PARENT_DEVICE then
      objectValue address s .getOrInsertObject .deviceID
    else if param ∈ deviceSizeParams then numberValue UInt64 enc
    else if param = CL_DEVICE_MAX_WORK_ITEM_SIZES then sizesValue C H
    else payloadValue C .uint32
  | clGetContextInfo _ param =>
    if param = CL_CONTEXT_DEVICES then
      payloadObjectsValue C address s .getOrInsertObject .deviceID .uint8
    else payloadValue C .uint8
  | clGetCommandQueueInfo _ param =>
    if param = CL_QUEUE_CONTEXT then objectValue address s .getOrInsertObject .context
    else if param = CL_QUEUE_DEVICE then objectValue address s .getOrInsertObject .deviceID
    else payloadValue C .uint8
  | clGetMemObjectInfo _ param =>
    if param = CL_MEM_CONTEXT then objectValue address s .getOrInsertObject .context
    else if param = CL_MEM_ASSOCIATED_MEMOBJECT then
      objectValue address s .getOrInsertObject .memObject
    else payloadValue C .uint8
  | clGetImageInfo _ param =>
    if param = CL_IMAGE_BUFFER then objectOrNullValue address s .getOrInsertObject .memObject
    else payloadValue C .uint8
  | clGetProgramBuildInfo _ _ _ => payloadValue C .uint32
  | clGetProgramInfo _ param =>
    if param = CL_PROGRAM_CONTEXT then objectValue address s .getObject .context
    else if param = CL_PROGRAM_DEVICES then objectsValue address s .getObject .deviceID
    else payloadValue C .uint32
  | clGetKernelWorkGroupInfo _ _ param =>
    if param = CL_KERNEL_COMPILE_WORK_GROUP_SIZE then sizesValue C H
    else if param = CL_KERNEL_LOCAL_MEM_SIZE ∨
        param = CL_KERNEL_PREFERRED_WORK_GROUP_SIZE_MULTIPLE ∨
        param = CL_KERNEL_WORK_GROUP_SIZE then numberValue UInt64 H.size
    else payloadValue C .uint32
  | clGetKernelInfo _ param =>
    if param = CL_KERNEL_CONTEXT then objectValue address s .getOrInsertObject .context
    else if param = CL_KERNEL_PROGRAM then objectValue address s .getOrInsertObject .program
    else if param = CL_KERNEL_REFERENCE_COUNT ∨ param = CL_KERNEL_NUM_ARGS then
      numberValue UInt32 enc
    else payloadValue C .uint32
  | clGetKernelArgInfo _ _ param =>
    if param = CL_KERNEL_ARG_ACCESS_QUALIFIER ∨ param = CL_KERNEL_ARG_ADDRESS_QUALIFIER then
      numberValue UInt32 enc
    else if param = CL_KERNEL_ARG_TYPE_QUALIFIER then
      numberValue UInt32 fun value => enc value.toUInt64
    else payloadValue C .uint32
  | clGetEventInfo _ param =>
    if param = CL_EVENT_COMMAND_QUEUE then objectValue address s .getObject .queue
    else if param = CL_EVENT_CONTEXT then objectValue address s .getObject .context
    else numberValue UInt32 enc
  | clGetEventProfilingInfo _ _ => numberValue UInt64 enc

end Values

/-- Sizes have arrived for which an array of 24 bytes is too short. -/
def LongSizes (C : Build) (received : Bytes) : Prop :=
  ∃ sizes, Arrives (decPayloadInto C.zlib .uint8) received sizes ∧ 24 < sizes.length

namespace InfoCall

/-- The program of a query. -/
def call (C : Build) (H : Host) (args : InfoArgs) : InfoCall → ClientM Ret
  | clGetPlatformInfo platform param => Client.clGetPlatformInfo C platform param args
  | clGetDeviceInfo device param => Client.clGetDeviceInfo C H device param args
  | clGetContextInfo context param => Client.clGetContextInfo C context param args
  | clGetCommandQueueInfo queue param => Client.clGetCommandQueueInfo C queue param args
  | clGetMemObjectInfo memobj param => Client.clGetMemObjectInfo C memobj param args
  | clGetImageInfo image param => Client.clGetImageInfo C image param args
  | clGetProgramBuildInfo program device param =>
    Client.clGetProgramBuildInfo C program device param args
  | clGetProgramInfo program param => Client.clGetProgramInfo C program param args
  | clGetKernelWorkGroupInfo kernel device param =>
    Client.clGetKernelWorkGroupInfo C H kernel device param args
  | clGetKernelInfo kernel param => Client.clGetKernelInfo C kernel param args
  | clGetKernelArgInfo kernel index param => Client.clGetKernelArgInfo C kernel index param args
  | clGetEventInfo event param => Client.clGetEventInfo event param args
  | clGetEventProfilingInfo event param => Client.clGetEventProfilingInfo event param args

/-- The binaries of a program are stored through pointers that are at `param_value`. -/
def IsBinaries : InfoCall → Prop
  | clGetProgramInfo _ param => param = CL_PROGRAM_BINARIES
  | _ => False

/-- The queue of an event. -/
def IsEventQueue : InfoCall → Prop
  | clGetEventInfo event param => event.isSome ∧ param = CL_EVENT_COMMAND_QUEUE
  | _ => False

/-- Three sizes. -/
def IsSizes : InfoCall → Prop
  | clGetDeviceInfo device param => device.isSome ∧ param = CL_DEVICE_MAX_WORK_ITEM_SIZES
  | clGetKernelWorkGroupInfo kernel device param =>
    kernel.isSome ∧ device.isSome ∧ param = CL_KERNEL_COMPILE_WORK_GROUP_SIZE
  | _ => False

/-- The ID of the queue has arrived, or sizes for which the array is too short. -/
def Spoiled (C : Build) (q : InfoCall) (received : Bytes) : Prop :=
  (q.IsEventQueue ∧ ∃ id, Arrives (dec : Reader IDPacket) received id) ∨
    (q.IsSizes ∧ LongSizes C received)

/-- Whatever the arguments are, and whatever fails: the call keeps to the memory that it knows, and
if it succeeds and reports a size for which there is room it has filled as many bytes, and they are
the value of the query. -/
def FillsExactly (C : Build) (H : Host) (address : Lookup → UInt64) (q : InfoCall)
    (received : Bytes) : Prop :=
  ∀ (args : InfoArgs) (s : ClientState) (w : ℕ) (o : Stop ClientState Exn Ret Unit)
    (faults : List (Fault Exn)), args.param_value = true →
    Prog.Faulty medium noEnv none (q.call C H args) s received w () o faults →
    o ≠ .never .spin () ∧ ∀ s' left w', o = .done (.ok (.code CL_SUCCESS)) s' left w' () →
      Fills address args (ReplySpells (q.value C H address s) received) s s'

end InfoCall

section Calls

variable {C : Build} {H : Host} {address : Lookup → UInt64} {args : InfoArgs}

theorem answered_awaitObject (how : Resolve) (kind : Kind) :
    Answered address args spoiled (awaitObject how kind args)
      fun s => objectValue address s how kind :=
  answered_read fun _ id => gives_storeHandle how kind id.mData

theorem answered_awaitValue (T : Type) [Wire T] :
    Answered address args spoiled (awaitValue T args) fun _ => numberValue T enc :=
  answered_read fun _ _ => gives_storeValue _

theorem answered_awaitPayload (hvalue : args.param_value = true) (sz : SizeT) :
    Answered address args spoiled (awaitPayload C sz args) fun _ => payloadValue C sz :=
  answered_readBytes fun _ payload => gives_storePayload hvalue payload

/-- Three sizes fill what they are received into, or less. -/
theorem answered_awaitSizes (hH : H.sizeofSize ≤ 8) (hvalue : args.param_value = true)
    (hlong : ∀ u, LongSizes C u → spoiled u) :
    Answered address args spoiled (awaitSizes C H args) fun _ => sizesValue C H := by
  refine answered_read_of fun s received sizes hsizes hreceived u => ?_
  have hshort : ¬ 24 < sizes.length := fun h => hreceived (hlong _ ⟨sizes, hsizes, h⟩)
  rw [if_neg hshort]
  refine Prog.wlp_bind (wlp_store (Prog.wlp_bind (wlp_store ?_)))
  refine (((Stored.refl s).stored _ _).stored _ _).fills_sizeFirst nofun ?_ fun hroom => ⟨?_, rfl⟩
  · rw [length_flatMap_size hH, length_words, Nat.mul_comm]
  · rw [hvalue, decide_eq_true hroom]
    rfl

theorem callFills_clGetDeviceInfo (hH : H.sizeofSize ≤ 8) (hvalue : args.param_value = true)
    (device : Option Handle) {param : UInt32}
    (hlong : device.isSome ∧ param = CL_DEVICE_MAX_WORK_ITEM_SIZES →
      ∀ u, LongSizes C u → spoiled u) :
    CallFills address args spoiled (Client.clGetDeviceInfo C H device param args)
      fun s => (InfoCall.clGetDeviceInfo device param).value C H address s := by
  cases device with
  | none => exact callFills_pure _
  | some device =>
    refine callFills_catching (answered_request _ ?_)
    refine answered_ite (fun _ => answered_awaitObject _ _) fun _ => ?_
    refine answered_ite (fun _ => answered_awaitObject _ _) fun _ => ?_
    refine answered_ite (fun _ => answered_awaitValue UInt64) fun _ => ?_
    refine answered_ite (fun hparam => ?_) fun _ => answered_awaitPayload hvalue _
    exact answered_awaitSizes hH hvalue (hlong ⟨rfl, hparam⟩)

theorem length_idsOf (payload : Bytes) : (idsOf payload).length = payload.length / 2 := by
  induction payload using List.twoStepInduction with
  | nil => rfl
  | singleton b => simp [idsOf]
  | cons_cons a b rest ih _ =>
    rw [idsOf, List.length_cons, ih, List.length_cons, List.length_cons]
    omega

theorem callFills_clGetContextInfo (hvalue : args.param_value = true) (context : Option Handle)
    (param : UInt32) :
    CallFills address args spoiled (Client.clGetContextInfo C context param args)
      fun s => (InfoCall.clGetContextInfo context param).value C H address s := by
  cases context with
  | none => exact callFills_pure _
  | some context =>
    refine callFills_catching (answered_request _ ?_)
    simp only [InfoCall.value]
    by_cases hdevices : param = CL_CONTEXT_DEVICES
    · simp only [if_pos hdevices, hvalue]
      refine answered_read fun s payload u => ?_
      refine Prog.wlp_bind (wlp_store (Prog.wlp_bind (wlp_resolveAll ?_)))
      refine Prog.wlp_bind (wlp_store ?_)
      refine ((((Stored.refl s).stored _ _).applyAll _ _ _).stored _ _).fills_sizeFirst nofun ?_
        fun hroom => ⟨rfl, ?_⟩
      · rw [length_handleBytes, Resolve.length_applyAll, length_idsOf]
      · have hall : payload.length / 2 ≤ args.param_value_size / 8 :=
          (Nat.le_div_iff_mul_le (by decide)).mpr hroom
        rw [fst_applyAll_stored, min_eq_left hall, ← length_idsOf, List.take_length]
        rfl
    · simp only [if_neg hdevices]
      exact answered_readBytes fun _ payload => gives_storePrefix hvalue payload

theorem callFills_clGetCommandQueueInfo (hvalue : args.param_value = true)
    (command_queue : Option Handle) (param : UInt32) :
    CallFills address args spoiled (Client.clGetCommandQueueInfo C command_queue param args)
      fun s => (InfoCall.clGetCommandQueueInfo command_queue param).value C H address s := by
  cases command_queue with
  | none => exact callFills_pure _
  | some queue =>
    refine callFills_catching (answered_request _ ?_)
    refine answered_ite (fun _ => answered_awaitObject _ _) fun _ => ?_
    refine answered_ite (fun _ => answered_awaitObject _ _) fun _ => ?_
    exact answered_awaitPayload hvalue _

theorem callFills_clGetMemObjectInfo (hvalue : args.param_value = true) (memobj : Option Handle)
    (param : UInt32) :
    CallFills address args spoiled (Client.clGetMemObjectInfo C memobj param args)
      fun s => (InfoCall.clGetMemObjectInfo memobj param).value C H address s := by
  cases memobj with
  | none => exact callFills_pure _
  | some memobj =>
    refine callFills_catching (answered_request _ ?_)
    refine answered_ite (fun _ => answered_awaitObject _ _) fun _ => ?_
    refine answered_ite (fun _ => answered_awaitObject _ _) fun _ => ?_
    exact answered_awaitPayload hvalue _

theorem callFills_clGetImageInfo (hvalue : args.param_value = true) (image : Option Handle)
    (param : UInt32) :
    CallFills address args spoiled (Client.clGetImageInfo C image param args)
      fun s => (InfoCall.clGetImageInfo image param).value C H address s := by
  cases image with
  | none => exact callFills_pure _
  | some image =>
    refine callFills_catching (answered_request _ ?_)
    refine answered_ite (fun _ => ?_) fun _ => answered_awaitPayload hvalue _
    refine answered_read fun s result => ?_
    by_cases hresult : result.mData ≠ 0xFFFF
    · simp only [if_pos hresult]
      exact gives_storeHandle _ _ _
    · simp only [if_neg hresult]
      exact gives_storeValue _

theorem callFills_clGetProgramBuildInfo (hvalue : args.param_value = true)
    (program device : Option Handle) (param : UInt32) :
    CallFills address args spoiled (Client.clGetProgramBuildInfo C program device param args)
      fun s => (InfoCall.clGetProgramBuildInfo program device param).value C H address s := by
  cases program with
  | none => exact callFills_pure _
  | some program =>
    cases device with
    | none => exact callFills_pure _
    | some device =>
      exact callFills_catching (answered_request _
        (answered_readBytes fun _ payload => gives_storePrefix hvalue payload))

theorem callFills_clGetProgramInfo (hvalue : args.param_value = true) (program : Option Handle)
    {param : UInt32} (hparam : param ≠ CL_PROGRAM_BINARIES) :
    CallFills address args spoiled (Client.clGetProgramInfo C program param args)
      fun s => (InfoCall.clGetProgramInfo program param).value C H address s := by
  cases program with
  | none => exact callFills_pure _
  | some program =>
    refine callFills_catching (answered_request _ ?_)
    refine answered_ite (fun _ => ?_) fun _ => answered_ite (fun _ => ?_) fun _ => ?_
    · refine answered_read fun s id u => ?_
      refine Prog.wlp_bind (wlp_resolve ?_)
      refine Prog.wlp_bind (wlp_store (Prog.wlp_bind (wlp_store ?_)))
      refine ((((Stored.refl s).apply _ _ _).stored _ _).stored _ _).fills_sizeFirst nofun
        (length_handleBytes _) fun hroom => ⟨?_, rfl⟩
      rw [hvalue, decide_eq_true hroom]
      rfl
    · refine answered_read fun s list => ?_
      refine gives_ifRoom (x := .param_handles .deviceID _) hvalue nofun ?_ rfl fun u => ?_
      · rw [length_handleBytes, Resolve.length_applyAll]
      refine Prog.wlp_bind (wlp_resolveAll (Prog.wlp_bind (wlp_store ⟨⟨_, rfl⟩, ?_⟩)))
      rw [fst_applyAll_stored]
      exact (((Stored.refl s).stored _ _).applyAll _ _ _).stored true _
    · simp only [if_neg hparam]
      exact answered_readBytes fun _ payload => gives_storePrefix hvalue payload

theorem callFills_clGetKernelWorkGroupInfo (hH : H.sizeofSize ≤ 8)
    (hvalue : args.param_value = true) (kernel device : Option Handle) {param : UInt32}
    (hlong : kernel.isSome ∧ device.isSome ∧ param = CL_KERNEL_COMPILE_WORK_GROUP_SIZE →
      ∀ u, LongSizes C u → spoiled u) :
    CallFills address args spoiled (Client.clGetKernelWorkGroupInfo C H kernel device param args)
      fun s => (InfoCall.clGetKernelWorkGroupInfo kernel device param).value C H address s := by
  cases kernel with
  | none => exact callFills_pure _
  | some kernel =>
    cases device with
    | none => exact callFills_pure _
    | some device =>
      refine callFills_catching (answered_request _ ?_)
      refine answered_ite (fun hparam => ?_) fun _ => ?_
      · exact answered_awaitSizes hH hvalue (hlong ⟨rfl, rfl, hparam⟩)
      refine answered_ite (fun _ => ?_) fun _ => answered_awaitPayload hvalue _
      exact answered_read fun _ value => gives_storeValue _

theorem callFills_clGetKernelInfo (hvalue : args.param_value = true) (kernel : Option Handle)
    (param : UInt32) :
    CallFills address args spoiled (Client.clGetKernelInfo C kernel param args)
      fun s => (InfoCall.clGetKernelInfo kernel param).value C H address s := by
  cases kernel with
  | none => exact callFills_pure _
  | some kernel =>
    refine callFills_catching (answered_request _ ?_)
    refine answered_ite (fun _ => answered_awaitObject _ _) fun _ => ?_
    refine answered_ite (fun _ => answered_awaitObject _ _) fun _ => ?_
    refine answered_ite (fun _ => answered_awaitValue UInt32) fun _ => ?_
    exact answered_awaitPayload hvalue _

theorem callFills_clGetKernelArgInfo (hvalue : args.param_value = true) (kernel : Option Handle)
    (arg_indx param : UInt32) :
    CallFills address args spoiled (Client.clGetKernelArgInfo C kernel arg_indx param args)
      fun s => (InfoCall.clGetKernelArgInfo kernel arg_indx param).value C H address s := by
  cases kernel with
  | none => exact callFills_pure _
  | some kernel =>
    refine callFills_catching (answered_request _ ?_)
    refine answered_ite (fun _ => answered_awaitValue UInt32) fun _ => ?_
    refine answered_ite (fun _ => ?_) fun _ => answered_awaitPayload hvalue _
    exact answered_read fun _ value => gives_storeValue _

theorem callFills_clGetEventInfo (hvalue : args.param_value = true) (event : Option Handle)
    {param : UInt32} (hspoiled : event.isSome ∧ param = CL_EVENT_COMMAND_QUEUE →
      ∀ u id, Arrives (dec : Reader IDPacket) u id → spoiled u) :
    CallFills address args spoiled (Client.clGetEventInfo event param args)
      fun s => (InfoCall.clGetEventInfo event param).value C H address s := by
  cases event with
  | none => exact callFills_pure _
  | some event =>
    refine callFills_catching (answered_request _ ?_)
    refine answered_ite (fun hqueue => ?_) fun _ => answered_ite (fun _ => ?_) fun _ => ?_
    · exact answered_read_of fun _ u id hid hu => absurd (hspoiled ⟨rfl, hqueue⟩ u id hid) hu
    · refine answered_read fun s id => ?_
      refine gives_ifRoom (x := .param_handles .context _) hvalue nofun (length_handleBytes _) rfl
        fun u => ?_
      refine Prog.wlp_bind (wlp_resolve (Prog.wlp_bind (wlp_store ⟨⟨_, rfl⟩, ?_⟩)))
      rw [fst_apply_stored]
      exact (((Stored.refl s).stored _ _).apply _ _ _).stored true _
    · exact answered_read fun _ payload => gives_storeSized hvalue (length_leBytes 4 _)

theorem callFills_clGetEventProfilingInfo (hvalue : args.param_value = true)
    (event : Option Handle) (param : UInt32) :
    CallFills address args spoiled (Client.clGetEventProfilingInfo event param args)
      fun s => (InfoCall.clGetEventProfilingInfo event param).value C H address s := by
  cases event with
  | none => exact callFills_pure _
  | some event =>
    refine callFills_catching (answered_request _ ?_)
    exact answered_read fun _ payload => gives_storeSized hvalue (length_leBytes 8 _)

/-! ### What spoils a query -/

/-- Sending does not fail if nothing is there that makes it fail. -/
theorem faulty_send {K : ClientM Unit → ClientM Ret} (hK : Prog.Context K) {b received : Bytes}
    {w : ℕ} {s : ClientState} {o : Stop ClientState Exn Ret Unit} {fs : List (Fault Exn)}
    (h : ∀ w, Prog.Faulty medium noEnv none (K (.ret ())) s received w () o fs) :
    Prog.Faulty medium noEnv none (K (Prog.send b)) s received w () o fs := by
  rw [Prog.send, hK.write]
  rcases lt_or_ge (w + b.length) medium.cache with hroom | hfull
  · exact .write hroom (h _)
  · exact .writeSpills hfull (by decide) (h 0)

/-- A query runs as it goes on behind the reply that arrives. -/
theorem faulty_query {P α : Type} [Packet P] [Wire P] {r : Reader α} {a : α} {received : Bytes}
    (ha : Arrives r received a) :
    ∃ rest, ∀ (badAlloc others : Int32) (x : P) (ty : PacketType) (k : α → ClientM Ret) s w o fs,
      Prog.Faulty medium noEnv none (catching badAlloc others (k a)) s rest 0 () o fs →
        Prog.Faulty medium noEnv none (catching badAlloc others do
          PacketStream.writePacket x
          PacketStream.flush
          let a ← PacketStream.read ty r
          k a) s received w () o fs := by
  obtain ⟨b, body, rest, rfl, herr, hterm, hrun⟩ := ha
  refine ⟨rest, fun badAlloc others x ty k s w o fs h => ?_⟩
  refine faulty_send ((Prog.Context.bind _).comp (context_catching badAlloc others)) fun w => ?_
  exact .flush (faulty_arrives (context_catching badAlloc others) hrun herr hterm h)

/-- A client that knows a queue of this ID. -/
def queueKnown (id : IDType) : ClientState :=
  (⟨[], 0, [], false, []⟩ : ClientState).register .queue id

/-- Eight bytes have been reported, and four have been copied. -/
def queueCopied (s : ClientState) (id : IDType) : ClientState :=
  let reported := s.stored true (.param_value_size_ret 8)
  (Resolve.getObject.apply reported .queue id).2.stored true
    (.param_handle_bytes .queue 4 (Resolve.getObject.apply reported .queue id).1)

theorem not_fills_queueCopied (V : Bytes → Prop) (s : ClientState) (id : IDType) :
    ¬ Fills address ⟨8, true, true⟩ V s (queueCopied s id) := by
  intro h
  obtain ⟨q, hq⟩ : ∃ q, storesSince s (queueCopied s id) =
      [.param_value_size_ret 8, .param_handle_bytes .queue 4 q] :=
    ⟨_, ((((Stored.refl s).stored true _).apply _ _ _).stored true _).storesSince⟩
  obtain ⟨v, -, hlength, x, hfilled, hperm⟩ := h 8 (hq ▸ List.mem_cons_self) le_rfl
  have hmem := hperm.mem_iff.mpr (List.mem_cons_of_mem _ List.mem_cons_self)
  rw [hq, List.mem_cons, List.mem_singleton] at hmem
  rcases hmem with rfl | rfl
  · exact absurd hfilled (Option.some_ne_none v).symm
  · rw [Store.filled, Option.some.injEq] at hfilled
    rw [← hfilled, List.length_take] at hlength
    omega

/-- The queue of an event has arrived. -/
theorem not_fillsExactly_eventQueue (event : Handle) {received : Bytes} {id : IDPacket}
    (hid : Arrives (dec : Reader IDPacket) received id) :
    ¬ (InfoCall.clGetEventInfo (some event) CL_EVENT_COMMAND_QUEUE).FillsExactly C H address
      received := by
  intro h
  obtain ⟨rest, hquery⟩ := faulty_query (P := GetEventInfo) hid
  have hrun : Prog.Faulty medium noEnv none
      (Client.clGetEventInfo (some event) CL_EVENT_COMMAND_QUEUE ⟨8, true, true⟩)
      (queueKnown id.mData) received 0 ()
      (.done (.ok (.code CL_SUCCESS)) (queueCopied (queueKnown id.mData) id.mData) rest 0 ()) [] :=
    hquery _ _ _ _ _ _ _ _ _ (.get (.put (.get (.put (.get (.put .ret))))))
  exact not_fills_queueCopied _ _ _ ((h _ _ _ _ _ rfl hrun).2 _ _ _ rfl)

/-- Sizes arrive for which there is no memory. -/
theorem faulty_sizes {q : InfoCall} (hq : q.IsSizes) {received : Bytes}
    (hlong : LongSizes C received) (args : InfoArgs) (s : ClientState) (w : ℕ) :
    Prog.Faulty medium noEnv none (q.call C H args) s received w () (.never .spin ()) [] := by
  obtain ⟨sizes, hsizes, hlength⟩ := hlong
  have hspin (rest : Bytes) (k : ClientM Ret) : Prog.Faulty medium noEnv none
      (catching CL_OUT_OF_HOST_MEMORY CL_DEVICE_NOT_AVAILABLE
        (if 24 < sizes.length then overrun else k)) s rest 0 () (.never .spin ()) [] := by
    rw [if_pos hlength]
    exact .spin
  cases q with
  | clGetDeviceInfo device param =>
    obtain ⟨hdevice, rfl⟩ := hq
    obtain ⟨device, rfl⟩ := Option.isSome_iff_exists.mp hdevice
    obtain ⟨rest, hquery⟩ := faulty_query (P := GetDeviceInfo) hsizes
    exact hquery _ _ _ _ _ _ _ _ _ (hspin rest _)
  | clGetKernelWorkGroupInfo kernel device param =>
    obtain ⟨hkernel, hdevice, rfl⟩ := hq
    obtain ⟨kernel, rfl⟩ := Option.isSome_iff_exists.mp hkernel
    obtain ⟨device, rfl⟩ := Option.isSome_iff_exists.mp hdevice
    obtain ⟨rest, hquery⟩ := faulty_query (P := KernelWGInfo) hsizes
    exact hquery _ _ _ _ _ _ _ _ _ (hspin rest _)
  | _ => exact hq.elim

theorem not_fillsExactly_sizes {q : InfoCall} (hq : q.IsSizes) {received : Bytes}
    (hlong : LongSizes C received) : ¬ q.FillsExactly C H address received := fun h =>
  (h _ _ _ _ _ rfl (faulty_sizes hq hlong ⟨0, true, true⟩ (queueKnown 0) 0)).1 rfl

/-! ### All queries -/

theorem callFills (hH : H.sizeofSize ≤ 8) (hvalue : args.param_value = true) {q : InfoCall}
    (hq : ¬ q.IsBinaries) :
    CallFills address args (q.Spoiled C) (q.call C H args) fun s => q.value C H address s := by
  cases q with
  | clGetPlatformInfo platform param =>
    cases platform with
    | none => exact callFills_pure _
    | some platform =>
      exact callFills_catching (answered_request _ (answered_awaitPayload hvalue .uint8))
  | clGetDeviceInfo device param =>
    exact callFills_clGetDeviceInfo hH hvalue device fun hsizes _ hlong => .inr ⟨hsizes, hlong⟩
  | clGetContextInfo context param => exact callFills_clGetContextInfo hvalue context param
  | clGetCommandQueueInfo queue param => exact callFills_clGetCommandQueueInfo hvalue queue param
  | clGetMemObjectInfo memobj param => exact callFills_clGetMemObjectInfo hvalue memobj param
  | clGetImageInfo image param => exact callFills_clGetImageInfo hvalue image param
  | clGetProgramBuildInfo program device param =>
    exact callFills_clGetProgramBuildInfo hvalue program device param
  | clGetProgramInfo program param => exact callFills_clGetProgramInfo hvalue program hq
  | clGetKernelWorkGroupInfo kernel device param =>
    exact callFills_clGetKernelWorkGroupInfo hH hvalue kernel device fun hsizes _ hlong =>
      .inr ⟨hsizes, hlong⟩
  | clGetKernelInfo kernel param => exact callFills_clGetKernelInfo hvalue kernel param
  | clGetKernelArgInfo kernel index param =>
    exact callFills_clGetKernelArgInfo hvalue kernel index param
  | clGetEventInfo event param =>
    exact callFills_clGetEventInfo hvalue event fun hqueue u id hid => .inl ⟨hqueue, id, hid⟩
  | clGetEventProfilingInfo event param =>
    exact callFills_clGetEventProfilingInfo hvalue event param

end Calls

/-- **Filling**: on every reply, a query that stores at `param_value` fills exactly the bytes that
it reports, unless the reply is the queue of an event, or sizes for which there is no memory. -/
theorem InfoCall.fillsExactly_iff (C : Build) {H : Host} (hH : H.sizeofSize ≤ 8)
    (address : Lookup → UInt64) {q : InfoCall} (hq : ¬ q.IsBinaries) (received : Bytes) :
    q.FillsExactly C H address received ↔ ¬ q.Spoiled C received := by
  constructor
  · rintro h (⟨hqueue, id, hid⟩ | ⟨hsizes, hlong⟩)
    · cases q with
      | clGetEventInfo event param =>
        obtain ⟨hsome, rfl⟩ := hqueue
        obtain ⟨event, rfl⟩ := Option.isSome_iff_exists.mp hsome
        exact not_fillsExactly_eventQueue event hid h
      | _ => exact hqueue
    · exact not_fillsExactly_sizes hsizes hlong h
  · intro hspoiled args s w o faults hvalue hrun
    have hfills : CallFills address args (q.Spoiled C) (q.call C H args)
        fun s => q.value C H address s := callFills hH hvalue hq
    have hmeets := hrun.wlp (hfills s received hspoiled)
    constructor
    · rintro rfl
      exact hmeets
    · rintro s' left w' rfl
      exact hmeets

/-- The context of an event. -/
theorem fillsExactly_eventContext :
    (InfoCall.clGetEventInfo (some ⟨1, 1, .event⟩) CL_EVENT_CONTEXT).FillsExactly plainBuild .wide
      (fun _ => 0) (packet (⟨0⟩ : IDPacket)) := by
  refine (InfoCall.fillsExactly_iff plainBuild (by decide) _ id _).mpr ?_
  rintro (⟨⟨-, hqueue⟩, -⟩ | ⟨hsizes, -⟩)
  · exact absurd hqueue (by decide)
  · exact hsizes

/-- Half of the handle of a queue. -/
theorem queue_half_copied :
    ¬ ∀ (C : Build) (H : Host) (address : Lookup → UInt64) (q : InfoCall), H.sizeofSize ≤ 8 →
      ¬ q.IsBinaries → ∀ received, q.FillsExactly C H address received :=
  fun h => not_fillsExactly_eventQueue ⟨1, 1, .event⟩
    ⟨PacketType.id.toByte, _, _, rfl, by decide, by decide, reads_dec (⟨0⟩ : IDPacket) []⟩
    (h plainBuild .wide (fun _ => 0) (.clGetEventInfo (some ⟨1, 1, .event⟩) CL_EVENT_COMMAND_QUEUE)
      (by decide) id _)

end RemoteCL

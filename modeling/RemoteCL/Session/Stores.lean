import RemoteCL.Client.Api
import RemoteCL.Server.Questions
import RemoteCL.Session.Filling

/-!
# What a call may store

`ApiCall.MayStore` says of every function what it stores in the memory of the application: through
which of its pointers, and how much at most.  This is a bound on all runs of a call, those on which
the connection is lost or memory runs out as well as those on which the server sends something that
no server would send (`ApiCall.storesOnly`).

A length that the server chooses is bounded by the field that carries it, and by nothing else.
-/

namespace RemoteCL

open ByteStream Conversation Wire LawfulWire Client

/-! ## Programs that store nothing else -/

theorem Extends.trans {s s' s'' : ClientState} {new new' : List ClientEvent}
    (h : Extends s s' new) (h' : Extends s' s'' new') : Extends s s'' (new ++ new') := by
  rw [Extends, h', h, List.append_assoc]

theorem Stored.trans {s s' s'' : ClientState} {xs ys : List Store} (h : Stored s s' xs)
    (h' : Stored s' s'' ys) : Stored s s'' (xs ++ ys) := by
  obtain ⟨new, hnew, rfl⟩ := h
  obtain ⟨new', hnew', rfl⟩ := h'
  exact ⟨_, hnew.trans hnew', List.filterMap_append⟩

/-- A state that stores of this kind lead to, and registrations if `R` holds. -/
def StoredOnly (R : Prop) (V : Store → Prop) (s s' : ClientState) : Prop :=
  (∃ xs, Stored s s' xs ∧ ∀ x ∈ xs, V x) ∧ (R ∨ s'.mCallbacks = s.mCallbacks)

theorem StoredOnly.nothing {R : Prop} {V : Store → Prop} {s s' : ClientState}
    (h : Stored s s' []) (hcallbacks : R ∨ s'.mCallbacks = s.mCallbacks) : StoredOnly R V s s' :=
  ⟨⟨[], h, fun _ h => absurd h List.not_mem_nil⟩, hcallbacks⟩

theorem StoredOnly.refl (R : Prop) (V : Store → Prop) (s : ClientState) : StoredOnly R V s s :=
  .nothing (Stored.refl s) (Or.inr rfl)

theorem StoredOnly.trans {R : Prop} {V : Store → Prop} {s s' s'' : ClientState}
    (h : StoredOnly R V s s') (h' : StoredOnly R V s' s'') : StoredOnly R V s s'' := by
  obtain ⟨⟨xs, hxs, hV⟩, hcallbacks⟩ := h
  obtain ⟨⟨ys, hys, hW⟩, hcallbacks'⟩ := h'
  refine ⟨⟨_, hxs.trans hys, fun x hx => (List.mem_append.mp hx).elim (hV x) (hW x)⟩, ?_⟩
  exact hcallbacks.elim Or.inl fun h => hcallbacks'.imp id fun h' => h'.trans h

/-- A program that, whatever it reads and whatever fails, stores nothing but what is in `V`,
registers callbacks only if `R` holds, and overruns its memory only if `S` holds. -/
def StoresOnly {α : Type} (S R : Prop) (V : Store → Prop) (p : ClientM α) : Prop :=
  ∀ s u, p.wlp S s u fun _ s' _ => StoredOnly R V s s'

/-! ### Callbacks stay registered -/

theorem mCallbacks_stored (s : ClientState) (pointer : Bool) (x : Store) :
    (s.stored pointer x).mCallbacks = s.mCallbacks := by
  cases pointer <;> rfl

theorem mCallbacks_apply (how : Resolve) (s : ClientState) (kind : Kind) (id : IDType) :
    (how.apply s kind id).2.mCallbacks = s.mCallbacks := by
  cases how with
  | getObject | registerID => rfl
  | getOrInsertObject =>
    show (if id.toNat < s.mObjects.length then s.getObject kind id
      else s.registerID kind id).2.mCallbacks = _
    split <;> rfl

theorem mCallbacks_applyAll (how : Resolve) (s : ClientState) (kind : Kind) (ids : List IDType) :
    (how.applyAll s kind ids).2.mCallbacks = s.mCallbacks := by
  induction ids generalizing s with
  | nil => rfl
  | cons id ids ih => exact (ih _).trans (mCallbacks_apply how s kind id)

section Programs

variable {α β : Type} {S R : Prop} {V : Store → Prop} {p : ClientM α}

theorem storesOnly_pure (a : α) : StoresOnly S R V (pure a) := fun s _ => StoredOnly.refl R V s

theorem storesOnly_throw (x : Exn) : StoresOnly S R V (Prog.throw x : ClientM α) :=
  fun s _ => StoredOnly.refl R V s

theorem storesOnly_overrun (hS : S) : StoresOnly S R V (overrun : ClientM α) := fun _ _ => hS

theorem StoresOnly.bind {f : α → ClientM β} (hp : StoresOnly S R V p)
    (hf : ∀ a, StoresOnly S R V (f a)) : StoresOnly S R V (p >>= f) := by
  intro s u
  refine Prog.wlp_bind (Prog.wlp_mono ?_ (hp s u))
  rintro (x | a) s' u' hs
  · exact hs
  · exact Prog.wlp_mono (fun _ _ _ h => hs.trans h) (hf a s' u')

theorem StoresOnly.tryCatch {g : Exn → ClientM α} (hp : StoresOnly S R V p)
    (hg : ∀ x, StoresOnly S R V (g x)) : StoresOnly S R V (p.tryCatch g) := by
  intro s u
  refine Prog.wlp_tryCatch (Prog.wlp_mono ?_ (hp s u))
  rintro (x | a) s' u' hs
  · exact Prog.wlp_mono (fun _ _ _ h => hs.trans h) (hg x s' u')
  · exact hs

theorem storesOnly_ite {c : Prop} [Decidable c] {q : ClientM α} (hp : c → StoresOnly S R V p)
    (hq : ¬ c → StoresOnly S R V q) : StoresOnly S R V (if c then p else q) := by
  split
  · exact hp ‹_›
  · exact hq ‹_›

/-! ### Interactions -/

theorem storesOnly_send (b : Bytes) : StoresOnly S R V (Prog.send b) :=
  fun s _ => Prog.wlp_send fun _ => StoredOnly.refl R V s

theorem storesOnly_writeNoexcept (ty : PacketType) (body : Bytes) :
    StoresOnly S R V (PacketStream.writeNoexcept ty body) :=
  (storesOnly_send _).bind fun _ => (storesOnly_send _).tryCatch fun _ => storesOnly_throw _

theorem storesOnly_write (ty : PacketType) (body : Bytes) :
    StoresOnly S R V (PacketStream.write ty body) := storesOnly_send _

theorem storesOnly_writePacket {P : Type} [Packet P] [Wire P] (x : P) :
    StoresOnly S R V (PacketStream.writePacket x) := storesOnly_write _ _

theorem storesOnly_flush : StoresOnly S R V PacketStream.flush :=
  fun s _ => Prog.wlp_flushOut fun _ => StoredOnly.refl R V s

theorem storesOnly_read_bind {Y : α → Prop} {ty : PacketType} {r : Reader α}
    {k : α → ClientM β} (hr : r.Yields Y) (hk : ∀ a, Y a → StoresOnly S R V (k a)) :
    StoresOnly S R V (PacketStream.read ty r >>= k) := by
  intro s u
  refine Prog.wlp_bind (wlp_read (fun b body a rest _ _ _ hrun => ?_) fun x v =>
    StoredOnly.refl R V s)
  exact hk a (hr.of_run hrun) s rest

/-- A packet of which nothing matters. -/
theorem storesOnly_read (ty : PacketType) {r : Reader α} {k : α → ClientM β}
    (hk : ∀ a, StoresOnly S R V (k a)) : StoresOnly S R V (PacketStream.read ty r >>= k) :=
  storesOnly_read_bind (Reader.yields_true r) fun a _ => hk a

theorem storesOnly_store {pointer : Bool} {x : Store} (hx : pointer = true → V x) :
    StoresOnly S R V (store pointer x) := by
  intro s u
  refine wlp_store ⟨⟨_, (Stored.refl s).stored pointer x, fun y hy => ?_⟩,
    Or.inr (mCallbacks_stored s pointer x)⟩
  cases pointer with
  | false => exact absurd hy List.not_mem_nil
  | true => exact List.mem_singleton.mp hy ▸ hx rfl

theorem storesOnly_resolveAll (how : Resolve) (kind : Kind) (ids : List IDType) :
    StoresOnly S R V (resolveAll how kind ids) := fun s _ =>
  wlp_resolveAll (.nothing ((Stored.refl s).applyAll how kind ids)
    (Or.inr (mCallbacks_applyAll how s kind ids)))

/-- There are as many objects as there are IDs. -/
theorem storesOnly_resolveAll_bind {how : Resolve} {kind : Kind} {ids : List IDType}
    {k : List Lookup → ClientM β} (hk : ∀ hs, hs.length = ids.length → StoresOnly S R V (k hs)) :
    StoresOnly S R V (resolveAll how kind ids >>= k) := by
  intro s u
  have hs : StoredOnly R V s (how.applyAll s kind ids).2 :=
    .nothing ((Stored.refl s).applyAll how kind ids) (Or.inr (mCallbacks_applyAll how s kind ids))
  refine Prog.wlp_bind (wlp_resolveAll ?_)
  exact Prog.wlp_mono (fun _ _ _ h => hs.trans h) (hk _ (how.length_applyAll s kind ids) _ u)

theorem storesOnly_resolve (how : Resolve) (kind : Kind) (id : IDType) :
    StoresOnly S R V (resolve how kind id) := fun s _ =>
  wlp_resolve (.nothing ((Stored.refl s).apply how kind id)
    (Or.inr (mCallbacks_apply how s kind id)))

theorem storesOnly_registerCallback (hR : R) (callback : Callback) :
    StoresOnly S R V (registerCallback callback) := fun s _ =>
  .nothing ⟨[], Extends.refl s, rfl⟩ (Or.inl hR)

theorem storesOnly_getState_bind {k : ClientState → ClientM β} (hk : ∀ s, StoresOnly S R V (k s)) :
    StoresOnly S R V (Prog.getState >>= k) := fun s u => hk s s u

/-! ### `try` blocks -/

/-- The state is known when a function begins with a look at it. -/
theorem wlp_catching_getState {badAlloc others : Int32} {k : ClientState → ClientM Ret}
    {s : ClientState} (hk : StoresOnly S R V (k s)) (u : Bytes) :
    (Client.catching badAlloc others (Prog.getState >>= k)).wlp S s u
      fun _ s' _ => StoredOnly R V s s' := by
  have h : StoresOnly S R V (Client.catching badAlloc others (k s)) :=
    hk.tryCatch fun x => by cases x <;> exact storesOnly_pure _
  exact h s u

theorem StoresOnly.catching {p : ClientM Ret} (hp : StoresOnly S R V p) (badAlloc others : Int32) :
    StoresOnly S R V (catching badAlloc others p) := by
  refine hp.tryCatch fun x => ?_
  cases x <;> exact storesOnly_pure _

theorem storesOnly_returnError {errcode_ret : Bool}
    (hV : errcode_ret = true → ∀ code, V (.errcode_ret code)) (kind : Kind) (code : Int32) :
    StoresOnly S R V (returnError kind errcode_ret code) :=
  (storesOnly_store fun h => hV h code).bind fun _ => storesOnly_pure _

theorem StoresOnly.catchingError {p : ClientM Ret} (hp : StoresOnly S R V p) {errcode_ret : Bool}
    (hV : errcode_ret = true → ∀ code, V (.errcode_ret code)) (kind : Kind) (badAlloc : Int32) :
    StoresOnly S R V (catchingError kind errcode_ret badAlloc p) := by
  refine hp.tryCatch fun x => ?_
  cases x <;> exact storesOnly_returnError hV kind _

end Programs

/-! ## The functions -/

/-- zlib does not write behind the end of the buffer it is given. -/
def Build.ZlibBounded (C : Build) : Prop :=
  ∀ z ∈ C.zlib, ∀ data n, (z.uncompress data n).length ≤ n

/-- A length that the server chooses, in a field of `sz` bits. -/
def Client.Chosen (C : Build) (sz : SizeT) (data : Bytes) : Prop :=
  C.ZlibBounded → data.length < sz.range

/-- What a query may store.  `unchecked` is the size of a value that is stored without a look at the
pointer. -/
def Client.InfoArgs.MayStore (args : InfoArgs) (unchecked : Option ℕ) : Store → Prop
  | .param_value_size_ret _ => args.param_value_size_ret = true
  | .param_value data =>
    (args.param_value = true ∨ unchecked = some data.length) ∧ data.length ≤ args.param_value_size
  | .param_handles _ hs =>
    (args.param_value = true ∨ unchecked = some (8 * hs.length)) ∧
      8 * hs.length ≤ args.param_value_size
  | .param_handle_bytes _ n _ => args.param_value = true ∧ n ≤ args.param_value_size
  | _ => False

/-- What a command may store. -/
def Client.WaitArgs.MayStore (args : WaitArgs) : Store → Prop
  | .event _ => args.event = true
  | _ => False

/-- What a command may store that reads. -/
def Client.WaitArgs.MayStoreData (C : Build) (args : WaitArgs) : Store → Prop
  | .ptr data => Chosen C .uint32 data
  | x => args.MayStore x

/-- What a function may store that lists objects. -/
def mayStoreEntries (num_entries : ℕ) (entries count : Bool) : Store → Prop
  | .count _ => count = true
  | .entries _ hs => entries = true ∧ hs.length ≤ num_entries
  | _ => False

/-- What a function may store that creates an object. -/
def mayStoreCode (errcode_ret : Bool) : Store → Prop
  | .errcode_ret _ => errcode_ret = true
  | _ => False

/-- There would be entries to store, but there is no array for them. -/
def NoArray (num_entries : ℕ) (entries count : Bool) : Prop :=
  entries = false ∧ count = true ∧ num_entries ≠ 0

/-- A call to compile is about headers, and passes all checks. -/
structure HeadersPass (program : Option Handle) (num_devices : ℕ)
    (devices : Option (List (Option Handle))) (num_headers : ℕ)
    (headers : Option (List (Option Handle))) (names : Option (List (Option Bytes)))
    (notify : Notify) : Prop where
  isSome_program : program.isSome
  valid_devices : invalidList num_devices devices = false
  isSome_deviceIDs : (handleIDs (entriesOf num_devices devices)).isSome
  num_headers_ne_zero : num_headers ≠ 0
  isSome_headers : headers.isSome
  isSome_names : names.isSome
  not_nullHeader : nullHeader headers names = false
  valid_notify : notify.invalid = false

/-- The calls that may write to where nothing has been allocated: to an array that is null, to one
of their own that is too short for what the server sends, or to one of their own that is empty. -/
def Client.ApiCall.Overflows : ApiCall → Prop
  | clGetPlatformIDs n platforms count => NoArray n platforms count
  | clGetDeviceIDs _ _ n devices count => NoArray n devices count
  | clGetDeviceInfo device param _ => device.isSome ∧ param = CL_DEVICE_MAX_WORK_ITEM_SIZES
  | clGetKernelWorkGroupInfo kernel device param _ =>
    kernel.isSome ∧ device.isSome ∧ param = CL_KERNEL_COMPILE_WORK_GROUP_SIZE
  | clCompileProgram program n devices _ m headers names notify =>
    HeadersPass program n devices m headers names notify
  | _ => False

namespace Client

section Functions

variable {S R : Prop} {V : Store → Prop} {C : Build}

/-! ### Replies -/

theorem storesOnly_awaitSuccess : StoresOnly S R V awaitSuccess :=
  storesOnly_flush.bind fun _ => storesOnly_read _ fun _ => storesOnly_pure _

theorem storesOnly_awaitID (how : Resolve) (kind : Kind) : StoresOnly S R V (awaitID how kind) :=
  storesOnly_flush.bind fun _ => storesOnly_read _ fun _ => storesOnly_resolve _ _ _

/-- A request, and what comes after it. -/
theorem storesOnly_request {P : Type} [Packet P] [Wire P] (x : P) {p : ClientM Ret}
    (hp : StoresOnly S R V p) :
    StoresOnly S R V (PacketStream.writePacket x >>= fun _ => PacketStream.flush >>= fun _ => p) :=
  (storesOnly_writePacket x).bind fun _ => storesOnly_flush.bind fun _ => hp

theorem storesOnly_changeRefCountOf (ty : PacketType) (kind : ObjTy) (invalid others : Int32)
    (object : Option Handle) :
    StoresOnly S R V (changeRefCountOf ty kind invalid others object) := by
  cases object with
  | none => exact storesOnly_pure _
  | some object =>
    exact ((storesOnly_writePacket _).bind fun _ => storesOnly_awaitSuccess).catching _ _

theorem storesOnly_awaitEntries {num_entries : ℕ} {entries count : Bool}
    (hV : ∀ x, mayStoreEntries num_entries entries count x → V x)
    (hS : entries = false → num_entries ≠ 0 → S) (kind : Kind) :
    StoresOnly S R V (awaitEntries kind num_entries entries count) := by
  refine storesOnly_flush.bind fun _ => storesOnly_read _ fun list => ?_
  refine (storesOnly_store fun h => hV (.count _) h).bind fun _ => ?_
  refine (storesOnly_resolveAll _ _ _).bind fun hs => storesOnly_ite (fun hnull => ?_) fun _ => ?_
  · rw [Bool.and_eq_true, Bool.not_eq_true', Bool.not_eq_true'] at hnull
    refine storesOnly_overrun (hS hnull.1 fun hzero => ?_)
    rw [hzero, List.take_zero] at hnull
    exact Bool.false_ne_true hnull.2.symm
  exact (storesOnly_store fun h => hV (.entries _ _) ⟨h, List.length_take_le _ _⟩).bind fun _ =>
    storesOnly_pure _

/-! ### Queries -/

section Queries

variable {args : InfoArgs} {unchecked : Option ℕ} (hV : ∀ x, args.MayStore unchecked x → V x)
include hV

theorem storesOnly_size (n : ℕ) :
    StoresOnly S R V (store args.param_value_size_ret (.param_value_size_ret n)) :=
  storesOnly_store fun h => hV (.param_value_size_ret n) h

theorem storesOnly_storePayload (data : Bytes) : StoresOnly S R V (storePayload args data) := by
  refine (storesOnly_size hV _).bind fun _ => storesOnly_store fun h => ?_
  rw [Bool.and_eq_true, decide_eq_true_eq] at h
  exact hV (.param_value _) ⟨Or.inl h.1, h.2⟩

theorem storesOnly_storePrefix (data : Bytes) : StoresOnly S R V (storePrefix args data) :=
  (storesOnly_size hV _).bind fun _ => storesOnly_store fun h =>
    hV (.param_value _) ⟨Or.inl h, List.length_take_le _ _⟩

theorem storesOnly_awaitPayload (sz : SizeT) : StoresOnly S R V (awaitPayload C sz args) :=
  storesOnly_read _ fun data => (storesOnly_storePayload hV data).bind fun _ => storesOnly_pure _

theorem storesOnly_storeValue {data : Bytes} (hunchecked : unchecked = some data.length) :
    StoresOnly S R V (storeValue args data) :=
  (storesOnly_store fun h =>
    hV (.param_value _) ⟨Or.inr hunchecked, of_decide_eq_true h⟩).bind fun _ =>
    storesOnly_size hV _

theorem storesOnly_storeHandle (hunchecked : unchecked = some 8) (kind : Kind) (h : Lookup) :
    StoresOnly S R V (storeHandle args kind h) :=
  (storesOnly_store fun hroom =>
    hV (.param_handles _ [h]) ⟨Or.inr hunchecked, of_decide_eq_true hroom⟩).bind fun _ =>
    storesOnly_size hV _

theorem storesOnly_awaitObject (hunchecked : unchecked = some 8) (how : Resolve) (kind : Kind) :
    StoresOnly S R V (awaitObject how kind args) := by
  refine storesOnly_read _ fun id => (storesOnly_resolve _ _ _).bind fun h => ?_
  exact (storesOnly_storeHandle hV hunchecked _ _).bind fun _ => storesOnly_pure _

theorem storesOnly_awaitValue {T : Type} [Wire T] {n : ℕ} (hT : ∀ v : T, (enc v).length = n)
    (hunchecked : unchecked = some n) : StoresOnly S R V (awaitValue T args) := by
  refine storesOnly_read _ fun value => ?_
  exact (storesOnly_storeValue hV (hunchecked.trans (congrArg some (hT _).symm))).bind fun _ =>
    storesOnly_pure _

theorem storesOnly_awaitSizes (hS : S) : StoresOnly S R V (awaitSizes C .wide args) := by
  refine storesOnly_read _ fun sizes => storesOnly_ite (fun _ => storesOnly_overrun hS) fun _ => ?_
  refine (storesOnly_size hV _).bind fun _ => ?_
  refine (storesOnly_store fun h => ?_).bind fun _ => storesOnly_pure _
  rw [Bool.and_eq_true, decide_eq_true_eq] at h
  refine hV (.param_value _) ⟨Or.inl h.1, ?_⟩
  rw [length_flatMap_size (H := .wide) (le_refl 8), length_words]
  exact h.2

end Queries

/-! ### Commands -/

theorem storesOnly_writeCommand {P : Type} [Packet P] [Wire P] (x : P) (args : WaitArgs)
    (eventList : List IDType) : StoresOnly S R V (writeCommand x args eventList) :=
  (storesOnly_writePacket _).bind fun _ =>
    storesOnly_ite (fun _ => storesOnly_writePacket _) fun _ => storesOnly_pure _

section Commands

variable {args : WaitArgs} (hV : ∀ x, args.MayStore x → V x)
include hV

theorem storesOnly_awaitEvent : StoresOnly S R V (awaitEvent args) := by
  refine storesOnly_ite (fun h => ?_) fun _ => storesOnly_pure _
  refine storesOnly_read _ fun id => (storesOnly_resolve _ _ _).bind fun event => ?_
  exact storesOnly_store fun _ => hV (.event _) h

theorem storesOnly_awaitCommand : StoresOnly S R V (awaitCommand args) := by
  refine storesOnly_flush.bind fun _ => (storesOnly_awaitEvent hV).bind fun _ => ?_
  exact storesOnly_read _ fun _ => storesOnly_pure _

end Commands

theorem storesOnly_withEvents {args : WaitArgs} {p : Handle → Handle → List IDType → ClientM Ret}
    (hp : ∀ queue object ids, StoresOnly S R V (p queue object ids))
    (queue object : Option Handle) :
    StoresOnly S R V (withEvents queue object args p) := by
  rw [withEvents.eq_def]
  split
  · exact storesOnly_pure _
  · exact storesOnly_pure _
  · split
    · exact storesOnly_pure _
    · exact (hp _ _ _).catching _ _

/-! ### Lengths that the server chooses -/

theorem yields_decPayload (sz : SizeT) : (decPayload C.zlib sz).Yields (Chosen C sz) := by
  have hblock (n : ℕ) : (readBlock n).Yields fun data => data.length = n := fun b hb => hb
  rw [decPayload.eq_def]
  split
  · exact (yields_decSize sz).bind fun n hn => fun b hb _ => hb ▸ hn
  · rename_i z hz
    refine (yields_decSize sz).bind fun outLen hout => (yields_decSize sz).bind fun n hn => ?_
    refine (hblock n).bind fun data hdata hbounded => ?_
    split
    · exact (hbounded z (Option.mem_def.mpr hz) data outLen).trans_lt hout
    · exact hdata ▸ hn

theorem yields_decPayloadInto (sz : SizeT) :
    (decPayloadInto C.zlib sz).Yields (Chosen C sz) := by
  have hplain {n : ℕ} (hn : n < sz.range) :
      (if n = 0 then pure [] else readBlock n : Reader Bytes).Yields (Chosen C sz) := by
    split
    · exact fun _ => range_pos sz
    · exact fun b hb _ => hb ▸ hn
  rw [decPayloadInto.eq_def]
  split
  · exact (yields_decSize sz).bind fun n hn => hplain hn
  · rename_i z hz
    refine (yields_decSize sz).bind fun outLen hout => (yields_decSize sz).bind fun n hn => ?_
    split
    · exact fun data _ hbounded =>
        (hbounded z (Option.mem_def.mpr hz) data outLen).trans_lt hout
    · exact hplain hn

theorem storesOnly_awaitRead {args : WaitArgs} (hV : ∀ x, args.MayStoreData C x → V x) :
    StoresOnly S R V (awaitRead C args) := by
  have hevent : ∀ x, args.MayStore x → V x := fun x hx => hV x (by
    cases x with
    | event h => exact hx
    | _ => exact hx.elim)
  refine storesOnly_flush.bind fun _ => (storesOnly_awaitEvent hevent).bind fun _ => ?_
  refine storesOnly_read_bind (yields_decPayloadInto .uint32) fun data hdata => ?_
  exact (storesOnly_store fun _ => hV (.ptr data) hdata).bind fun _ => storesOnly_pure _

end Functions

/-! ## All functions -/

/-! ### The queries that do not look at their pointer

For each of them, the size of the value that a parameter stands for. -/

def uncheckedDeviceInfo (param_name : UInt32) : Option ℕ :=
  if param_name = CL_DEVICE_PLATFORM ∨ param_name = CL_DEVICE_PARENT_DEVICE ∨
      param_name ∈ deviceSizeParams then some 8
  else none

def uncheckedCommandQueueInfo (param_name : UInt32) : Option ℕ :=
  if param_name = CL_QUEUE_CONTEXT ∨ param_name = CL_QUEUE_DEVICE then some 8 else none

def uncheckedMemObjectInfo (param_name : UInt32) : Option ℕ :=
  if param_name = CL_MEM_CONTEXT ∨ param_name = CL_MEM_ASSOCIATED_MEMOBJECT then some 8 else none

def uncheckedImageInfo (param_name : UInt32) : Option ℕ :=
  if param_name = CL_IMAGE_BUFFER then some 8 else none

def uncheckedKernelWorkGroupInfo (param_name : UInt32) : Option ℕ :=
  if param_name = CL_KERNEL_COMPILE_WORK_GROUP_SIZE then none
  else if param_name = CL_KERNEL_LOCAL_MEM_SIZE ∨
      param_name = CL_KERNEL_PREFERRED_WORK_GROUP_SIZE_MULTIPLE ∨
      param_name = CL_KERNEL_WORK_GROUP_SIZE then some 8
  else none

def uncheckedKernelInfo (param_name : UInt32) : Option ℕ :=
  if param_name = CL_KERNEL_CONTEXT ∨ param_name = CL_KERNEL_PROGRAM then some 8
  else if param_name = CL_KERNEL_REFERENCE_COUNT ∨ param_name = CL_KERNEL_NUM_ARGS then some 4
  else none

/-- The type qualifier is converted to 64 bits. -/
def uncheckedKernelArgInfo (param_name : UInt32) : Option ℕ :=
  if param_name = CL_KERNEL_ARG_ACCESS_QUALIFIER ∨
      param_name = CL_KERNEL_ARG_ADDRESS_QUALIFIER then some 4
  else if param_name = CL_KERNEL_ARG_TYPE_QUALIFIER then some 8
  else none

/-- What a call may store. -/
def ApiCall.MayStore (C : Build) : ApiCall → Store → Prop
  | clGetPlatformIDs n platforms count => mayStoreEntries n platforms count
  | clGetPlatformInfo _ _ args => args.MayStore none
  | clGetDeviceIDs _ _ n devices count => mayStoreEntries n devices count
  | clGetDeviceInfo _ param args => args.MayStore (uncheckedDeviceInfo param)
  | clCreateContext _ _ err => mayStoreCode err
  | clCreateContextFromType _ _ _ err => mayStoreCode err
  | clGetContextInfo _ _ args => args.MayStore none
  | clGetSupportedImageFormats _ _ _ n formats count => fun
    | .count _ => count = true
    | .image_formats data => formats = true ∧ data.length ≤ n * 8
    | _ => False
  | clCreateCommandQueue _ _ _ err => mayStoreCode err
  | clCreateCommandQueueWithProperties _ _ _ err => mayStoreCode err
  | clGetCommandQueueInfo _ param args => args.MayStore (uncheckedCommandQueueInfo param)
  | clCreateProgramWithSource _ _ err => mayStoreCode err
  | clCreateProgramWithBinary _ _ _ status err => fun
    | .binary_status data => status = true ∧ Chosen C .uint16 data
    | x => mayStoreCode err x
  | clCompileProgram _ _ _ _ _ _ _ notify => fun
    | .notify _ _ _ => notify.pfn_notify.isSome
    | _ => False
  | clLinkProgram _ _ _ _ _ _ notify err => fun
    | .notify _ _ _ => notify.pfn_notify.isSome
    | x => mayStoreCode err x
  | clGetProgramBuildInfo _ _ _ args => args.MayStore none
  | clGetProgramInfo _ param args => fun
    | .binaries bs => param = CL_PROGRAM_BINARIES ∧ args.param_value = true ∧ bs.length ≤ 255 ∧
      ∀ b ∈ bs, Chosen C .uint16 b
    | x => args.MayStore none x
  | clCreateKernel _ _ err => mayStoreCode err
  | clCreateKernelsInProgram _ _ kernels count => fun
    | .count _ | .count_add _ => count = true
    | .next_entry _ _ => kernels = true
    | _ => False
  | clCloneKernel _ err => mayStoreCode err
  | clGetKernelWorkGroupInfo _ _ param args => args.MayStore (uncheckedKernelWorkGroupInfo param)
  | clGetKernelInfo _ param args => args.MayStore (uncheckedKernelInfo param)
  | clGetKernelArgInfo _ _ param args => args.MayStore (uncheckedKernelArgInfo param)
  | clEnqueueNDRangeKernel _ _ _ args => args.MayStore
  | clCreateBuffer _ _ _ _ err => mayStoreCode err
  | clCreateSubBuffer _ _ _ _ err => mayStoreCode err
  | clCreateImage _ _ _ _ _ _ err => mayStoreCode err
  | clGetMemObjectInfo _ param args => args.MayStore (uncheckedMemObjectInfo param)
  | clGetImageInfo _ param args => args.MayStore (uncheckedImageInfo param)
  | clEnqueueFillBuffer _ _ _ _ _ _ args => args.MayStore
  | clEnqueueReadBuffer _ _ _ _ _ args => args.MayStoreData C
  | clEnqueueReadBufferRect _ _ _ _ args => args.MayStoreData C
  | clEnqueueWriteBuffer _ _ _ _ _ _ args => args.MayStore
  | clCreateUserEvent _ err => mayStoreCode err
  | clGetEventInfo _ _ args => args.MayStore none
  | clGetEventProfilingInfo _ _ args => args.MayStore none
  | clRetainDevice _ | clReleaseDevice _ | clRetainContext _ | clReleaseContext _
  | clRetainCommandQueue _ | clReleaseCommandQueue _ | clFlush _ | clFinish _
  | clBuildProgram _ _ _ _ _ | clRetainProgram _ | clReleaseProgram _ | clRetainKernel _
  | clReleaseKernel _ | clRetainMemObject _ | clReleaseMemObject _ | clSetUserEventStatus _ _
  | clWaitForEvents _ _ | clRetainEvent _ | clReleaseEvent _ => fun _ => False

/-- The calls that may register a callback. -/
def ApiCall.MayRegister : ApiCall → Prop
  | clCompileProgram _ _ _ _ _ _ _ notify => notify.pfn_notify.isSome
  | _ => False

section Functions

variable {S R : Prop} {V : Store → Prop} {C : Build}

/-! ### Platforms, devices, contexts, queues -/

/-- One of the pointers is not null. -/
theorem noArray_of_not_refused {n : ℕ} {entries count : Bool}
    (h : ¬ (!entries && !count) = true) (hnull : entries = false) (hn : n ≠ 0) :
    NoArray n entries count := by
  subst hnull
  exact ⟨rfl, by simpa using h, hn⟩

theorem storesOnly_clGetPlatformIDs {n : ℕ} {platforms count : Bool}
    (hV : ∀ x, mayStoreEntries n platforms count x → V x) (hS : NoArray n platforms count → S) :
    StoresOnly S R V (Client.clGetPlatformIDs n platforms count) := by
  refine storesOnly_ite (fun _ => storesOnly_pure _) fun hnull => ?_
  refine storesOnly_ite (fun _ => storesOnly_pure _) fun _ => ?_
  refine (storesOnly_store fun h => hV (.count 0) h).bind fun _ => StoresOnly.catching ?_ _ _
  refine (storesOnly_writePacket _).bind fun _ => storesOnly_awaitEntries hV (fun h hn => ?_) _
  exact hS (noArray_of_not_refused hnull h hn)

theorem storesOnly_clGetDeviceIDs {n : ℕ} {devices count : Bool}
    (hV : ∀ x, mayStoreEntries n devices count x → V x) (hS : NoArray n devices count → S)
    (platform : Option Handle) (type : UInt64) :
    StoresOnly S R V (Client.clGetDeviceIDs platform type n devices count) := by
  refine storesOnly_ite (fun _ => storesOnly_pure _) fun _ => ?_
  refine storesOnly_ite (fun _ => storesOnly_pure _) fun hnull => ?_
  refine (storesOnly_store fun h => hV (.count 0) h).bind fun _ => StoresOnly.catching ?_ _ _
  refine (storesOnly_writePacket _).bind fun _ => storesOnly_awaitEntries hV (fun h hn => ?_) _
  exact hS (noArray_of_not_refused hnull h hn)

theorem storesOnly_clGetPlatformInfo {args : InfoArgs} (hV : ∀ x, args.MayStore none x → V x)
    (platform : Option Handle) (param : UInt32) :
    StoresOnly S R V (Client.clGetPlatformInfo C platform param args) := by
  cases platform with
  | none => exact storesOnly_pure _
  | some platform =>
    exact (storesOnly_request _ (storesOnly_awaitPayload hV .uint8)).catching _ _

theorem storesOnly_clGetDeviceInfo {args : InfoArgs} {param : UInt32}
    (hV : ∀ x, args.MayStore (uncheckedDeviceInfo param) x → V x) (device : Option Handle)
    (hS : device.isSome ∧ param = CL_DEVICE_MAX_WORK_ITEM_SIZES → S) :
    StoresOnly S R V (Client.clGetDeviceInfo C .wide device param args) := by
  cases device with
  | none => exact storesOnly_pure _
  | some device =>
    have hunchecked (h : param = CL_DEVICE_PLATFORM ∨ param = CL_DEVICE_PARENT_DEVICE ∨
        param ∈ deviceSizeParams) : uncheckedDeviceInfo param = some 8 := if_pos h
    refine (storesOnly_request _ ?_).catching _ _
    refine storesOnly_ite (fun h => storesOnly_awaitObject hV (hunchecked (.inl h)) _ _) fun _ => ?_
    refine storesOnly_ite (fun h => ?_) fun _ => storesOnly_ite (fun h => ?_) fun _ => ?_
    · exact storesOnly_awaitObject hV (hunchecked (.inr (.inl h))) _ _
    · exact storesOnly_awaitValue hV (fun _ => length_leBytes 8 _) (hunchecked (.inr (.inr h)))
    · exact storesOnly_ite (fun h => storesOnly_awaitSizes hV (hS ⟨rfl, h⟩)) fun _ =>
        storesOnly_awaitPayload hV _

theorem storesOnly_awaitContext {errcode_ret : Bool} (hV : ∀ x, mayStoreCode errcode_ret x → V x)
    {p : ClientM Unit} (hp : StoresOnly S R V p) :
    StoresOnly S R V (awaitContext errcode_ret p) := by
  have hcode (h : errcode_ret = true) (code : Int32) : V (.errcode_ret code) :=
    hV (.errcode_ret code) h
  refine StoresOnly.tryCatch ?_ fun x => storesOnly_returnError hcode _ _
  refine hp.bind fun _ => (storesOnly_awaitID _ _).bind fun c => ?_
  exact (storesOnly_store fun h => hcode h _).bind fun _ => storesOnly_pure _

/-- What the functions have in common that create an object. -/
theorem storesOnly_creates {errcode_ret : Bool} (hV : ∀ x, mayStoreCode errcode_ret x → V x)
    {p : ClientM Unit} (hp : StoresOnly S R V p) (kind : Kind) (badAlloc : Int32) (how : Resolve) :
    StoresOnly S R V (catchingError kind errcode_ret badAlloc do
      p
      let h ← awaitID how kind
      store errcode_ret (.errcode_ret CL_SUCCESS)
      pure (.handle kind (some h))) := by
  have hcode (h : errcode_ret = true) (code : Int32) : V (.errcode_ret code) :=
    hV (.errcode_ret code) h
  refine StoresOnly.catchingError ?_ hcode _ _
  refine hp.bind fun _ => (storesOnly_awaitID _ _).bind fun c => ?_
  exact (storesOnly_store fun h => hcode h _).bind fun _ => storesOnly_pure _

theorem storesOnly_clCreateContext {err : Bool} (hV : ∀ x, mayStoreCode err x → V x)
    (properties : List Property) (devices : Option (List (Option Handle))) :
    StoresOnly S R V (Client.clCreateContext properties devices err) := by
  have hrefuse (code : Int32) : StoresOnly S R V (returnError .context err code) :=
    storesOnly_returnError (fun h code => hV (.errcode_ret code) h) _ _
  rw [clCreateContext.eq_def]
  split
  · exact hrefuse _
  · exact hrefuse _
  · split
    · exact hrefuse _
    · exact storesOnly_awaitContext hV (storesOnly_writePacket _)

theorem storesOnly_clCreateContextFromType {err : Bool} (hV : ∀ x, mayStoreCode err x → V x)
    (properties : List Property) (type : UInt64) (callback : Bool) :
    StoresOnly S R V (Client.clCreateContextFromType properties type callback err) :=
  storesOnly_ite
    (fun _ => storesOnly_returnError (fun h code => hV (.errcode_ret code) h) _ _)
    fun _ => storesOnly_awaitContext hV (storesOnly_writePacket _)

theorem storesOnly_clGetContextInfo {args : InfoArgs} (hV : ∀ x, args.MayStore none x → V x)
    (context : Option Handle) (param : UInt32) :
    StoresOnly S R V (Client.clGetContextInfo C context param args) := by
  cases context with
  | none => exact storesOnly_pure _
  | some context =>
    refine (storesOnly_request _ (storesOnly_read _ fun payload => ?_)).catching _ _
    refine storesOnly_ite (fun _ => ?_) fun _ =>
      (storesOnly_storePrefix hV _).bind fun _ => storesOnly_pure _
    refine (storesOnly_size hV _).bind fun _ => storesOnly_ite (fun h => ?_) fun _ =>
      storesOnly_pure _
    -- as many devices are resolved as there is room for
    refine storesOnly_resolveAll_bind fun hs hlen => ?_
    refine (storesOnly_store fun _ => hV (.param_handles _ hs) ⟨Or.inl h, ?_⟩).bind fun _ =>
      storesOnly_pure _
    rw [hlen, List.length_take]
    omega

theorem storesOnly_clGetSupportedImageFormats {n : ℕ} {formats count : Bool}
    (hV : ∀ x, (ApiCall.clGetSupportedImageFormats none 0 0 n formats count).MayStore C x → V x)
    (context : Option Handle) (flags : UInt64) (type : UInt32) :
    StoresOnly S R V (Client.clGetSupportedImageFormats C context flags type n formats count) := by
  cases context with
  | none => exact storesOnly_pure _
  | some context =>
    refine (storesOnly_request _ (storesOnly_read _ fun payload => ?_)).catching _ _
    refine (storesOnly_store fun h => hV (.count _) h).bind fun _ => ?_
    exact (storesOnly_store fun h => hV (.image_formats _) ⟨h, List.length_take_le _ _⟩).bind
      fun _ => storesOnly_pure _

theorem storesOnly_clCreateCommandQueue {err : Bool} (hV : ∀ x, mayStoreCode err x → V x)
    (context device : Option Handle) (properties : UInt64) :
    StoresOnly S R V (Client.clCreateCommandQueue context device properties err) := by
  rw [clCreateCommandQueue.eq_def]
  split
  · exact storesOnly_returnError (fun h code => hV (.errcode_ret code) h) _ _
  · exact storesOnly_returnError (fun h code => hV (.errcode_ret code) h) _ _
  · exact storesOnly_creates hV (storesOnly_writePacket _) _ _ _

theorem storesOnly_clCreateCommandQueueWithProperties {err : Bool}
    (hV : ∀ x, mayStoreCode err x → V x) (context device : Option Handle)
    (properties : List (UInt64 × UInt64)) :
    StoresOnly S R V (Client.clCreateCommandQueueWithProperties context device properties err) := by
  rw [clCreateCommandQueueWithProperties.eq_def]
  split
  · exact storesOnly_returnError (fun h code => hV (.errcode_ret code) h) _ _
  · exact storesOnly_returnError (fun h code => hV (.errcode_ret code) h) _ _
  · exact storesOnly_creates hV (storesOnly_writePacket _) _ _ _

theorem storesOnly_clGetCommandQueueInfo {args : InfoArgs} {param : UInt32}
    (hV : ∀ x, args.MayStore (uncheckedCommandQueueInfo param) x → V x)
    (command_queue : Option Handle) :
    StoresOnly S R V (Client.clGetCommandQueueInfo C command_queue param args) := by
  cases command_queue with
  | none => exact storesOnly_pure _
  | some queue =>
    have hunchecked (h : param = CL_QUEUE_CONTEXT ∨ param = CL_QUEUE_DEVICE) :
        uncheckedCommandQueueInfo param = some 8 := if_pos h
    refine (storesOnly_request _ ?_).catching _ _
    refine storesOnly_ite (fun h => storesOnly_awaitObject hV (hunchecked (.inl h)) _ _) fun _ => ?_
    exact storesOnly_ite (fun h => storesOnly_awaitObject hV (hunchecked (.inr h)) _ _) fun _ =>
      storesOnly_awaitPayload hV _

theorem storesOnly_queueCommand (ty : PacketType) (command_queue : Option Handle) :
    StoresOnly S R V (queueCommand ty command_queue) := by
  cases command_queue with
  | none => exact storesOnly_pure _
  | some queue =>
    exact ((storesOnly_writePacket _).bind fun _ => storesOnly_awaitSuccess).catching _ _

/-! ### Programs -/

theorem storesOnly_clCreateProgramWithSource {err : Bool} (hV : ∀ x, mayStoreCode err x → V x)
    (context : Option Handle) (strings : Option (List (Option Bytes × ℕ))) :
    StoresOnly S R V (Client.clCreateProgramWithSource context strings err) := by
  have hrefuse (code : Int32) : StoresOnly S R V (returnError .program err code) :=
    storesOnly_returnError (fun h code => hV (.errcode_ret code) h) _ _
  rw [clCreateProgramWithSource.eq_def]
  split
  · exact hrefuse _
  · exact hrefuse _
  · exact hrefuse _
  · split
    · exact hrefuse _
    · exact storesOnly_creates hV (storesOnly_writePacket _) _ _ _

theorem storesOnly_writeBinaries (binaries : List Bytes) :
    StoresOnly S R V (Client.writeBinaries C binaries) := by
  induction binaries with
  | nil => exact storesOnly_pure _
  | cons binary binaries ih => exact (storesOnly_write _ _).bind fun _ => ih

theorem storesOnly_clCreateProgramWithBinary {status err : Bool}
    (hV : ∀ x, (ApiCall.clCreateProgramWithBinary none none none status err).MayStore C x → V x)
    (context : Option Handle) (devices : Option (List (Option Handle)))
    (binaries : Option (List Bytes)) :
    StoresOnly S R V (Client.clCreateProgramWithBinary C context devices binaries status err) := by
  have hcode (h : err = true) (code : Int32) : V (.errcode_ret code) := hV (.errcode_ret code) h
  have hrefuse (code : Int32) : StoresOnly S R V (returnError .program err code) :=
    storesOnly_returnError hcode _ _
  rw [clCreateProgramWithBinary.eq_def]
  split
  · exact hrefuse _
  · exact hrefuse _
  · exact hrefuse _
  · exact hrefuse _
  · split
    · exact hrefuse _
    · refine StoresOnly.catchingError ?_ hcode _ _
      refine (storesOnly_writePacket _).bind fun _ => (storesOnly_writePacket _).bind fun _ => ?_
      refine (storesOnly_writeBinaries _).bind fun _ => (storesOnly_awaitID _ _).bind fun P => ?_
      have hend : StoresOnly S R V (store err (.errcode_ret CL_SUCCESS) >>= fun _ =>
          pure (Ret.handle .program (some P))) :=
        (storesOnly_store fun h => hcode h _).bind fun _ => storesOnly_pure _
      refine storesOnly_ite (fun h => ?_) fun _ => storesOnly_read _ fun _ => hend
      refine storesOnly_read_bind (yields_decPayloadInto .uint16) fun data hdata => ?_
      exact (storesOnly_store fun _ => hV (.binary_status data) ⟨h, hdata⟩).bind fun _ => hend

/-- In which state the function finds the connection matters: the callback is registered if there is
an event stream, and invoked otherwise. -/
theorem wlp_clCompileProgram {notify : Notify} {s : ClientState}
    (hV : notify.pfn_notify.isSome → s.hasEventStream = false → ∀ p f d, V (.notify p f d))
    (hR : notify.pfn_notify.isSome → s.hasEventStream = true → R) (program : Option Handle)
    (n : ℕ) (devices : Option (List (Option Handle))) (options : Option Bytes) (m : ℕ)
    (headers : Option (List (Option Handle))) (names : Option (List (Option Bytes)))
    (hS : HeadersPass program n devices m headers names notify → S) (u : Bytes) :
    (Client.clCompileProgram program n devices options m headers names notify).wlp S s u
      fun _ s' _ => StoredOnly R V s s' := by
  have hrefuse (code : Int32) (p : ClientM Ret) (hp : p = pure (.code code)) :
      p.wlp S s u fun _ s' _ => StoredOnly R V s s' := by
    rw [hp]
    exact storesOnly_pure _ s u
  cases program with
  | none => exact hrefuse _ _ rfl
  | some program =>
    rw [clCompileProgram.eq_2]
    split
    · exact hrefuse _ _ rfl
    rename_i hdevices
    split
    · exact hrefuse _ _ rfl
    split
    · exact hrefuse _ _ rfl
    rename_i hmissing
    split
    · exact hrefuse _ _ rfl
    rename_i hinvalid
    split
    · exact hrefuse _ _ rfl
    rename_i mDeviceIDs hIDs
    split
    · rename_i hm
      split
      · exact hrefuse _ _ rfl
      rename_i hnull
      obtain ⟨hheaders, hnames⟩ := not_or.mp fun h => hmissing ⟨hm, h⟩
      exact hS
        { isSome_program := rfl
          valid_devices := Bool.eq_false_iff.mpr hdevices
          isSome_deviceIDs := by rw [hIDs]; rfl
          num_headers_ne_zero := hm
          isSome_headers := Option.isSome_iff_ne_none.mpr
            (mt Option.isNone_iff_eq_none.mpr hheaders)
          isSome_names := Option.isSome_iff_ne_none.mpr (mt Option.isNone_iff_eq_none.mpr hnames)
          not_nullHeader := Bool.eq_false_iff.mpr hnull
          valid_notify := Bool.eq_false_iff.mpr hinvalid }
    · refine wlp_catching_getState ?_ u
      -- the callback is registered first, or invoked last
      refine storesOnly_ite (fun h => (storesOnly_registerCallback ?_ _).bind fun id => ?_) fun h =>
        (storesOnly_pure _).bind fun id => ?_
      · rw [Bool.and_eq_true] at h
        exact hR h.1 h.2
      all_goals
        refine storesOnly_request _ (storesOnly_read _ fun _ => ?_)
        refine (storesOnly_store fun hnotify => ?_).bind fun _ => storesOnly_pure _
        rw [Bool.and_eq_true, Bool.not_eq_true'] at hnotify
      · rw [hnotify.2] at h
        cases h
      · refine hV hnotify.1 ?_ _ _ _
        rw [hnotify.1, Bool.true_and] at hnotify
        exact hnotify.2

theorem storesOnly_clCompileProgram {notify : Notify}
    (hV : notify.pfn_notify.isSome → ∀ p f d, V (.notify p f d))
    (hR : notify.pfn_notify.isSome → R) (program : Option Handle) (n : ℕ)
    (devices : Option (List (Option Handle))) (options : Option Bytes) (m : ℕ)
    (headers : Option (List (Option Handle))) (names : Option (List (Option Bytes)))
    (hS : HeadersPass program n devices m headers names notify → S) :
    StoresOnly S R V (Client.clCompileProgram program n devices options m headers names notify) :=
  fun _ u => wlp_clCompileProgram (fun h _ => hV h) (fun h _ => hR h) _ _ _ _ _ _ _ hS u

theorem storesOnly_clLinkProgram {err : Bool} {notify : Notify}
    (hV : ∀ x, mayStoreCode err x → V x)
    (hnotify : notify.pfn_notify.isSome → ∀ p f d, V (.notify p f d)) (context : Option Handle)
    (n : ℕ) (devices : Option (List (Option Handle))) (options : Option Bytes) (m : ℕ)
    (programs : Option (List (Option Handle))) :
    StoresOnly S R V (Client.clLinkProgram context n devices options m programs notify err) := by
  have hcode (h : err = true) (code : Int32) : V (.errcode_ret code) := hV (.errcode_ret code) h
  have hrefuse (code : Int32) : StoresOnly S R V (returnError .program err code) :=
    storesOnly_returnError hcode _ _
  cases context with
  | none => exact hrefuse _
  | some context =>
    refine storesOnly_ite (fun _ => hrefuse _) fun _ => ?_
    split
    · exact hrefuse _
    · exact hrefuse _
    · refine StoresOnly.catchingError ?_ hcode _ _
      refine (storesOnly_writePacket _).bind fun _ => (storesOnly_awaitID _ _).bind fun P => ?_
      exact (storesOnly_store fun h => hnotify h _ _ _).bind fun _ => storesOnly_pure _

theorem storesOnly_clBuildProgram (program : Option Handle) (n : ℕ)
    (devices : Option (List (Option Handle))) (options : Option Bytes) (notify : Notify) :
    StoresOnly S R V (Client.clBuildProgram program n devices options notify) := by
  cases program with
  | none => exact storesOnly_pure _
  | some program =>
    refine storesOnly_ite (fun _ => storesOnly_pure _) fun _ => ?_
    split
    · exact storesOnly_pure _
    · refine StoresOnly.catching ?_ _ _
      refine (storesOnly_writePacket _).bind fun _ => (storesOnly_writePacket _).bind fun _ => ?_
      exact storesOnly_awaitSuccess

theorem storesOnly_clGetProgramBuildInfo {args : InfoArgs} (hV : ∀ x, args.MayStore none x → V x)
    (program device : Option Handle) (param : UInt32) :
    StoresOnly S R V (Client.clGetProgramBuildInfo C program device param args) := by
  rw [clGetProgramBuildInfo.eq_def]
  split
  · exact storesOnly_pure _
  · exact storesOnly_pure _
  · refine (storesOnly_request _ (storesOnly_read _ fun payload => ?_)).catching _ _
    exact (storesOnly_storePrefix hV _).bind fun _ => storesOnly_pure _

/-- The binaries of a reply: as many as were announced, each as long as its field can say. -/
theorem storesOnly_readBinaries_bind {n : ℕ} {k : List Bytes → ClientM Ret}
    (hk : ∀ bs, bs.length = n → (∀ b ∈ bs, Chosen C .uint16 b) → StoresOnly S R V (k bs)) :
    StoresOnly S R V (Client.readBinaries C n >>= k) := by
  induction n generalizing k with
  | zero => exact hk [] rfl fun _ h => absurd h List.not_mem_nil
  | succ n ih =>
    rw [Client.readBinaries, bind_assoc]
    refine storesOnly_read_bind (yields_decPayload .uint16) fun b hb => ?_
    rw [bind_assoc]
    refine ih fun bs hlen hbs => hk (b :: bs) (by rw [List.length_cons, hlen]) fun x hx => ?_
    rcases List.mem_cons.mp hx with rfl | hx
    · exact hb
    · exact hbs x hx

theorem storesOnly_clGetProgramInfo {param : UInt32} {args : InfoArgs}
    (hV : ∀ x, (ApiCall.clGetProgramInfo none param args).MayStore C x → V x)
    (program : Option Handle) :
    StoresOnly S R V (Client.clGetProgramInfo C program param args) := by
  have hinfo : ∀ x, args.MayStore none x → V x := fun x hx => hV x (by
    cases x with
    | binaries bs => exact hx.elim
    | _ => exact hx)
  have hend : StoresOnly S R V (pure (.code CL_SUCCESS) : ClientM Ret) := storesOnly_pure _
  cases program with
  | none => exact storesOnly_pure _
  | some program =>
    refine (storesOnly_request _ ?_).catching _ _
    refine storesOnly_ite (fun _ => ?_) fun _ => storesOnly_ite (fun _ => ?_) fun _ =>
      storesOnly_ite (fun hparam => ?_) fun _ => ?_
    · refine storesOnly_read _ fun id => (storesOnly_resolve _ _ _).bind fun c => ?_
      refine (storesOnly_size hinfo _).bind fun _ => ?_
      refine (storesOnly_store fun h => ?_).bind fun _ => hend
      rw [Bool.and_eq_true, decide_eq_true_eq] at h
      exact hinfo (.param_handles .context [c]) ⟨Or.inl h.1, h.2⟩
    · refine storesOnly_read _ fun list => (storesOnly_size hinfo _).bind fun _ => ?_
      refine storesOnly_ite (fun h => ?_) fun _ => hend
      rw [Bool.and_eq_true, decide_eq_true_eq] at h
      refine storesOnly_resolveAll_bind fun hs hlen => (storesOnly_store fun _ => ?_).bind fun _ =>
        hend
      exact hinfo (.param_handles .deviceID hs) ⟨Or.inl h.1, by rw [hlen]; omega⟩
    · refine storesOnly_read _ fun count => storesOnly_readBinaries_bind fun bs hlen hbs => ?_
      refine (storesOnly_size hinfo _).bind fun _ => ?_
      refine (storesOnly_store fun h => ?_).bind fun _ => hend
      exact hV (.binaries bs) ⟨hparam, h, hlen ▸ Nat.le_of_lt_succ count.mData.toNat_lt, hbs⟩
    · refine storesOnly_read _ fun payload => ?_
      exact (storesOnly_storePrefix hinfo _).bind fun _ => hend

/-! ### Kernels -/

theorem storesOnly_clCreateKernel {err : Bool} (hV : ∀ x, mayStoreCode err x → V x)
    (program : Option Handle) (name : Option Bytes) :
    StoresOnly S R V (Client.clCreateKernel program name err) := by
  have hcode (h : err = true) (code : Int32) : V (.errcode_ret code) := hV (.errcode_ret code) h
  rw [clCreateKernel.eq_def]
  split
  · exact storesOnly_returnError hcode _ _
  · exact storesOnly_returnError hcode _ _
  · refine StoresOnly.catchingError ?_ hcode _ _
    refine storesOnly_request _ (storesOnly_read _ fun id => ?_)
    refine (storesOnly_store fun h => hcode h _).bind fun _ => ?_
    exact (storesOnly_resolve _ _ _).bind fun _ => storesOnly_pure _

theorem storesOnly_clCloneKernel {err : Bool} (hV : ∀ x, mayStoreCode err x → V x)
    (kernel : Option Handle) : StoresOnly S R V (Client.clCloneKernel kernel err) := by
  have hcode (h : err = true) (code : Int32) : V (.errcode_ret code) := hV (.errcode_ret code) h
  cases kernel with
  | none => exact storesOnly_returnError hcode _ _
  | some kernel =>
    refine StoresOnly.catchingError ?_ hcode _ _
    refine storesOnly_request _ (storesOnly_read _ fun id => ?_)
    refine (storesOnly_store fun h => hcode h _).bind fun _ => ?_
    exact (storesOnly_resolve _ _ _).bind fun _ => storesOnly_pure _

theorem storesOnly_clCreateKernelsInProgram {kernels count : Bool}
    (hV : ∀ x, (ApiCall.clCreateKernelsInProgram none 0 kernels count).MayStore C x → V x)
    (program : Option Handle) (n : UInt32) :
    StoresOnly S R V (Client.clCreateKernelsInProgram program n kernels count) := by
  have hkernels (hkernels : kernels = true) (ids : List IDType) :
      StoresOnly S R V (storeKernels count ids) := by
    induction ids with
    | nil => exact storesOnly_pure _
    | cons id ids ih =>
      refine (storesOnly_resolve _ _ _).bind fun k => ?_
      refine (storesOnly_store fun _ => hV (.next_entry _ k) hkernels).bind fun _ => ?_
      exact (storesOnly_store fun h => hV (.count_add 1) h).bind fun _ => ih
  cases program with
  | none => exact storesOnly_pure _
  | some program =>
    refine storesOnly_ite (fun _ => storesOnly_pure _) fun hpointer => ?_
    refine storesOnly_ite (fun _ => storesOnly_pure _) fun _ => ?_
    refine (storesOnly_request _ (storesOnly_ite (fun _ => ?_) fun hn => ?_)).catching _ _
    · refine storesOnly_read _ fun value => ?_
      exact (storesOnly_store fun h => hV (.count _) h).bind fun _ => storesOnly_pure _
    · have hgiven : kernels = true := by
        simpa [hn] using hpointer
      exact storesOnly_read _ fun list => (hkernels hgiven _).bind fun _ => storesOnly_pure _

theorem storesOnly_clGetKernelWorkGroupInfo {args : InfoArgs} {param : UInt32}
    (hV : ∀ x, args.MayStore (uncheckedKernelWorkGroupInfo param) x → V x)
    (kernel device : Option Handle)
    (hS : kernel.isSome ∧ device.isSome ∧ param = CL_KERNEL_COMPILE_WORK_GROUP_SIZE → S) :
    StoresOnly S R V (Client.clGetKernelWorkGroupInfo C .wide kernel device param args) := by
  rw [clGetKernelWorkGroupInfo.eq_def]
  split
  · exact storesOnly_pure _
  · exact storesOnly_pure _
  · refine (storesOnly_request _ ?_).catching _ _
    refine storesOnly_ite (fun h => storesOnly_awaitSizes hV (hS ⟨rfl, rfl, h⟩)) fun hgroup => ?_
    refine storesOnly_ite (fun h => ?_) fun _ => storesOnly_awaitPayload hV _
    refine storesOnly_read _ fun value => (storesOnly_storeValue hV ?_).bind fun _ =>
      storesOnly_pure _
    rw [uncheckedKernelWorkGroupInfo, if_neg hgroup, if_pos h, length_size (H := .wide) (le_refl 8)]
    rfl

theorem storesOnly_clGetKernelInfo {args : InfoArgs} {param : UInt32}
    (hV : ∀ x, args.MayStore (uncheckedKernelInfo param) x → V x) (kernel : Option Handle) :
    StoresOnly S R V (Client.clGetKernelInfo C kernel param args) := by
  cases kernel with
  | none => exact storesOnly_pure _
  | some kernel =>
    have hobject (h : param = CL_KERNEL_CONTEXT ∨ param = CL_KERNEL_PROGRAM) :
        uncheckedKernelInfo param = some 8 := if_pos h
    refine (storesOnly_request _ ?_).catching _ _
    refine storesOnly_ite (fun h => storesOnly_awaitObject hV (hobject (.inl h)) _ _) fun hc => ?_
    refine storesOnly_ite (fun h => storesOnly_awaitObject hV (hobject (.inr h)) _ _) fun hp => ?_
    refine storesOnly_ite (fun h => ?_) fun _ => storesOnly_awaitPayload hV _
    refine storesOnly_awaitValue hV (fun _ => length_leBytes 4 _) ?_
    rw [uncheckedKernelInfo, if_neg (not_or_intro hc hp), if_pos h]

theorem storesOnly_clGetKernelArgInfo {args : InfoArgs} {param : UInt32}
    (hV : ∀ x, args.MayStore (uncheckedKernelArgInfo param) x → V x) (kernel : Option Handle)
    (index : UInt32) : StoresOnly S R V (Client.clGetKernelArgInfo C kernel index param args) := by
  cases kernel with
  | none => exact storesOnly_pure _
  | some kernel =>
    refine (storesOnly_request _ ?_).catching _ _
    refine storesOnly_ite (fun h => ?_) fun hnot => ?_
    · exact storesOnly_awaitValue hV (fun _ => length_leBytes 4 _) (if_pos h)
    refine storesOnly_ite (fun h => ?_) fun _ => storesOnly_awaitPayload hV _
    refine storesOnly_read _ fun value => (storesOnly_storeValue hV ?_).bind fun _ =>
      storesOnly_pure _
    rw [uncheckedKernelArgInfo, if_neg hnot, if_pos h]
    exact congrArg some (length_leBytes 8 _).symm

theorem storesOnly_clEnqueueNDRangeKernel {args : WaitArgs} (hV : ∀ x, args.MayStore x → V x)
    (queue kernel : Option Handle) (r : NDRange) :
    StoresOnly S R V (Client.clEnqueueNDRangeKernel queue kernel r args) := by
  rw [clEnqueueNDRangeKernel.eq_def]
  split
  · exact storesOnly_pure _
  · exact storesOnly_pure _
  · refine storesOnly_ite (fun _ => storesOnly_pure _) fun _ => ?_
    refine storesOnly_ite (fun _ => storesOnly_pure _) fun _ => ?_
    split
    · exact storesOnly_pure _
    · exact ((storesOnly_writeCommand _ _ _).bind fun _ => storesOnly_awaitCommand hV).catching _ _

/-! ### Memory objects -/

theorem storesOnly_awaitMemObject {err : Bool} (hV : ∀ x, mayStoreCode err x → V x) :
    StoresOnly S R V (awaitMemObject err) := by
  refine (storesOnly_store fun h => hV (.errcode_ret CL_SUCCESS) h).bind fun _ => ?_
  exact storesOnly_read _ fun id => (storesOnly_resolve _ _ _).bind fun _ => storesOnly_pure _

theorem storesOnly_clCreateBuffer {err : Bool} (hV : ∀ x, mayStoreCode err x → V x)
    (context : Option Handle) (flags size : UInt64) (ptr : Option Bytes) :
    StoresOnly S R V (Client.clCreateBuffer C context flags size ptr err) := by
  have hcode (h : err = true) (code : Int32) : V (.errcode_ret code) := hV (.errcode_ret code) h
  cases context with
  | none => exact storesOnly_returnError hcode _ _
  | some context =>
    refine storesOnly_ite (fun _ => storesOnly_returnError hcode _ _) fun _ => ?_
    refine StoresOnly.catchingError ((storesOnly_writePacket _).bind fun _ => ?_) hcode _ _
    cases ptr with
    | none => exact storesOnly_flush.bind fun _ => storesOnly_awaitMemObject hV
    | some ptr =>
      exact (storesOnly_write _ _).bind fun _ => storesOnly_flush.bind fun _ =>
        storesOnly_awaitMemObject hV

theorem storesOnly_clCreateSubBuffer {err : Bool} (hV : ∀ x, mayStoreCode err x → V x)
    (buffer : Option Handle) (flags : UInt64) (type : UInt32) (info : Option (UInt64 × UInt64)) :
    StoresOnly S R V (Client.clCreateSubBuffer buffer flags type info err) := by
  have hcode (h : err = true) (code : Int32) : V (.errcode_ret code) := hV (.errcode_ret code) h
  rw [clCreateSubBuffer.eq_def]
  split
  · exact storesOnly_returnError hcode _ _
  · exact storesOnly_returnError hcode _ _
  · exact (storesOnly_request _ (storesOnly_awaitMemObject hV)).catchingError hcode _ _

theorem storesOnly_clCreateImage {err : Bool} (hV : ∀ x, mayStoreCode err x → V x)
    (context : Option Handle) (flags : UInt64) (format desc : Bool) (d : ImageDesc)
    (ptr : Option Bytes) :
    StoresOnly S R V (Client.clCreateImage C context flags format desc d ptr err) := by
  have hcode (h : err = true) (code : Int32) : V (.errcode_ret code) := hV (.errcode_ret code) h
  have hrefuse (code : Int32) : StoresOnly S R V (returnError .memObject err code) :=
    storesOnly_returnError hcode _ _
  cases context with
  | none => exact hrefuse _
  | some context =>
    refine storesOnly_ite (fun _ => hrefuse _) fun _ => ?_
    refine storesOnly_ite (fun _ => hrefuse _) fun _ => ?_
    refine storesOnly_ite (fun _ => hrefuse _) fun _ => ?_
    refine storesOnly_ite (fun _ => hrefuse _) fun _ => ?_
    refine (storesOnly_request _ (storesOnly_ite (fun _ => ?_) fun _ =>
      storesOnly_awaitMemObject hV)).catchingError hcode _ _
    refine storesOnly_read _ fun dataSize => (storesOnly_write _ _).bind fun _ => ?_
    exact storesOnly_flush.bind fun _ => storesOnly_awaitMemObject hV

theorem storesOnly_clGetMemObjectInfo {args : InfoArgs} {param : UInt32}
    (hV : ∀ x, args.MayStore (uncheckedMemObjectInfo param) x → V x) (memobj : Option Handle) :
    StoresOnly S R V (Client.clGetMemObjectInfo C memobj param args) := by
  cases memobj with
  | none => exact storesOnly_pure _
  | some memobj =>
    have hunchecked (h : param = CL_MEM_CONTEXT ∨ param = CL_MEM_ASSOCIATED_MEMOBJECT) :
        uncheckedMemObjectInfo param = some 8 := if_pos h
    refine (storesOnly_request _ ?_).catching _ _
    refine storesOnly_ite (fun h => storesOnly_awaitObject hV (hunchecked (.inl h)) _ _) fun _ => ?_
    exact storesOnly_ite (fun h => storesOnly_awaitObject hV (hunchecked (.inr h)) _ _) fun _ =>
      storesOnly_awaitPayload hV _

theorem storesOnly_clGetImageInfo {args : InfoArgs} {param : UInt32}
    (hV : ∀ x, args.MayStore (uncheckedImageInfo param) x → V x) (image : Option Handle) :
    StoresOnly S R V (Client.clGetImageInfo C image param args) := by
  cases image with
  | none => exact storesOnly_pure _
  | some image =>
    refine (storesOnly_request _ ?_).catching _ _
    refine storesOnly_ite (fun h => ?_) fun _ => storesOnly_awaitPayload hV _
    have hunchecked : uncheckedImageInfo param = some 8 := if_pos h
    refine storesOnly_read _ fun result => storesOnly_ite (fun _ => ?_) fun _ => ?_
    · refine (storesOnly_resolve _ _ _).bind fun object => ?_
      exact (storesOnly_storeHandle hV hunchecked _ _).bind fun _ => storesOnly_pure _
    · have hnull : StoresOnly S R V (storeValue args (zeros 8)) :=
        storesOnly_storeValue hV hunchecked
      exact hnull.bind fun _ => storesOnly_pure _

theorem storesOnly_clEnqueueFillBuffer {args : WaitArgs} (hV : ∀ x, args.MayStore x → V x)
    (queue buffer : Option Handle) (pattern : Bytes) (n offset size : UInt64) :
    StoresOnly S R V (Client.clEnqueueFillBuffer queue buffer pattern n offset size args) :=
  storesOnly_withEvents (fun _ _ _ => storesOnly_ite (fun _ => storesOnly_pure _) fun _ =>
    (storesOnly_writeCommand _ _ _).bind fun _ => storesOnly_awaitCommand hV) _ _

theorem storesOnly_clEnqueueReadBuffer {args : WaitArgs}
    (hV : ∀ x, args.MayStoreData C x → V x) (queue buffer : Option Handle) (blocking : Bool)
    (offset size : UInt64) :
    StoresOnly S R V (Client.clEnqueueReadBuffer C queue buffer blocking offset size args) :=
  storesOnly_withEvents (fun _ _ _ => (storesOnly_writeCommand _ _ _).bind fun _ =>
    storesOnly_awaitRead hV) _ _

theorem storesOnly_clEnqueueReadBufferRect {args : WaitArgs}
    (hV : ∀ x, args.MayStoreData C x → V x) (queue buffer : Option Handle) (blocking : Bool)
    (rect : RectArgs) :
    StoresOnly S R V (Client.clEnqueueReadBufferRect C queue buffer blocking rect args) :=
  storesOnly_withEvents (fun _ _ _ => (storesOnly_writeCommand _ _ _).bind fun _ =>
    storesOnly_awaitRead hV) _ _

theorem storesOnly_clEnqueueWriteBuffer {args : WaitArgs} (hV : ∀ x, args.MayStore x → V x)
    (queue buffer : Option Handle) (blocking : Bool) (offset size : UInt64) (ptr : Bytes) :
    StoresOnly S R V (Client.clEnqueueWriteBuffer C queue buffer blocking offset size ptr args) :=
  storesOnly_withEvents (fun _ _ _ => (storesOnly_writeCommand _ _ _).bind fun _ =>
    (storesOnly_write _ _).bind fun _ => storesOnly_awaitCommand hV) _ _

/-! ### Events -/

theorem storesOnly_clCreateUserEvent {err : Bool} (hV : ∀ x, mayStoreCode err x → V x)
    (context : Option Handle) : StoresOnly S R V (Client.clCreateUserEvent context err) := by
  cases context with
  | none => exact storesOnly_returnError (fun h code => hV (.errcode_ret code) h) _ _
  | some context => exact storesOnly_creates hV (storesOnly_writePacket _) _ _ _

theorem storesOnly_clSetUserEventStatus (event : Option Handle) (status : UInt32) :
    StoresOnly S R V (Client.clSetUserEventStatus event status) := by
  cases event with
  | none => exact storesOnly_pure _
  | some event =>
    exact ((storesOnly_writePacket _).bind fun _ => storesOnly_awaitSuccess).catching _ _

theorem storesOnly_clGetEventInfo {args : InfoArgs} (hV : ∀ x, args.MayStore none x → V x)
    (event : Option Handle) (param : UInt32) :
    StoresOnly S R V (Client.clGetEventInfo event param args) := by
  have hend : StoresOnly S R V (pure (.code CL_SUCCESS) : ClientM Ret) := storesOnly_pure _
  have hroom {n : ℕ} (h : (args.param_value && decide (n ≤ args.param_value_size)) = true) :
      args.param_value = true ∧ n ≤ args.param_value_size := by
    rwa [Bool.and_eq_true, decide_eq_true_eq] at h
  cases event with
  | none => exact storesOnly_pure _
  | some event =>
    refine (storesOnly_request _ ?_).catching _ _
    refine storesOnly_ite (fun _ => ?_) fun _ => storesOnly_ite (fun _ => ?_) fun _ => ?_
    · refine storesOnly_read _ fun id => (storesOnly_size hV _).bind fun _ => ?_
      refine storesOnly_ite (fun h => ?_) fun _ => hend
      refine (storesOnly_resolve _ _ _).bind fun queue => (storesOnly_store fun _ => ?_).bind
        fun _ => hend
      have hfits : 4 ≤ args.param_value_size := le_trans (by decide) (hroom h).2
      exact hV (.param_handle_bytes .queue 4 queue) ⟨(hroom h).1, hfits⟩
    · refine storesOnly_read _ fun id => (storesOnly_size hV _).bind fun _ => ?_
      refine storesOnly_ite (fun h => ?_) fun _ => hend
      refine (storesOnly_resolve _ _ _).bind fun c => (storesOnly_store fun _ => ?_).bind
        fun _ => hend
      exact hV (.param_handles .context [c]) ⟨Or.inl (hroom h).1, (hroom h).2⟩
    · refine storesOnly_read _ fun payload => (storesOnly_size hV _).bind fun _ => ?_
      refine (storesOnly_store fun h => ?_).bind fun _ => hend
      have hlen : (enc payload.mData).length = 4 := length_leBytes 4 _
      exact hV (.param_value _) ⟨Or.inl (hroom h).1, hlen ▸ (hroom h).2⟩

theorem storesOnly_clGetEventProfilingInfo {args : InfoArgs}
    (hV : ∀ x, args.MayStore none x → V x) (event : Option Handle) (param : UInt32) :
    StoresOnly S R V (Client.clGetEventProfilingInfo event param args) := by
  cases event with
  | none => exact storesOnly_pure _
  | some event =>
    refine (storesOnly_request _ ?_).catching _ _
    refine storesOnly_read _ fun payload => (storesOnly_size hV _).bind fun _ => ?_
    refine (storesOnly_store fun h => ?_).bind fun _ => storesOnly_pure _
    rw [Bool.and_eq_true, decide_eq_true_eq] at h
    have hlen : (enc payload.mData).length = 8 := length_leBytes 8 _
    exact hV (.param_value _) ⟨Or.inl h.1, hlen ▸ h.2⟩

theorem storesOnly_clWaitForEvents (n : ℕ) (events : Option (List (Option Handle))) :
    StoresOnly S R V (Client.clWaitForEvents n events) := by
  refine storesOnly_ite (fun _ => storesOnly_pure _) fun _ => ?_
  split
  · exact storesOnly_pure _
  · split
    · exact storesOnly_pure _
    · refine StoresOnly.catching ?_ _ _
      refine (storesOnly_writePacket _).bind fun _ => (storesOnly_writePacket _).bind fun _ => ?_
      exact storesOnly_awaitSuccess

/-! ### All of them -/

/-- **No call stores anything else**, whatever the server sends and whatever fails, and only those
that may write to where nothing has been allocated do so. -/
theorem ApiCall.storesOnly (c : ApiCall) (hV : ∀ x, c.MayStore C x → V x) (hS : c.Overflows → S)
    (hR : c.MayRegister → R) : StoresOnly S R V (c.call C) := by
  cases c with
  | clGetPlatformIDs => exact storesOnly_clGetPlatformIDs hV hS
  | clGetPlatformInfo => exact storesOnly_clGetPlatformInfo hV _ _
  | clGetDeviceIDs => exact storesOnly_clGetDeviceIDs hV hS _ _
  | clGetDeviceInfo => exact storesOnly_clGetDeviceInfo hV _ hS
  | clRetainDevice device => exact storesOnly_changeRefCountOf .retain .device 0 _ (some device)
  | clReleaseDevice device => exact storesOnly_changeRefCountOf .release .device 0 _ (some device)
  | clCreateContext => exact storesOnly_clCreateContext hV _ _
  | clCreateContextFromType => exact storesOnly_clCreateContextFromType hV _ _ _
  | clGetContextInfo => exact storesOnly_clGetContextInfo hV _ _
  | clGetSupportedImageFormats => exact storesOnly_clGetSupportedImageFormats hV _ _ _
  | clRetainContext => exact storesOnly_changeRefCountOf _ _ _ _ _
  | clReleaseContext => exact storesOnly_changeRefCountOf _ _ _ _ _
  | clCreateCommandQueue => exact storesOnly_clCreateCommandQueue hV _ _ _
  | clCreateCommandQueueWithProperties =>
    exact storesOnly_clCreateCommandQueueWithProperties hV _ _ _
  | clGetCommandQueueInfo => exact storesOnly_clGetCommandQueueInfo hV _
  | clRetainCommandQueue => exact storesOnly_changeRefCountOf _ _ _ _ _
  | clReleaseCommandQueue => exact storesOnly_changeRefCountOf _ _ _ _ _
  | clFlush => exact storesOnly_queueCommand _ _
  | clFinish => exact storesOnly_queueCommand _ _
  | clCreateProgramWithSource => exact storesOnly_clCreateProgramWithSource hV _ _
  | clCreateProgramWithBinary => exact storesOnly_clCreateProgramWithBinary hV _ _ _
  | clCompileProgram =>
    exact storesOnly_clCompileProgram (fun h p f d => hV (.notify p f d) h) hR _ _ _ _ _ _ _ hS
  | clLinkProgram =>
    refine storesOnly_clLinkProgram (fun x hx => hV x ?_)
      (fun h p f d => hV (.notify p f d) h) _ _ _ _ _ _
    cases x with
    | errcode_ret code => exact hx
    | _ => exact hx.elim
  | clBuildProgram => exact storesOnly_clBuildProgram _ _ _ _ _
  | clGetProgramBuildInfo => exact storesOnly_clGetProgramBuildInfo hV _ _ _
  | clGetProgramInfo => exact storesOnly_clGetProgramInfo hV _
  | clRetainProgram => exact storesOnly_changeRefCountOf _ _ _ _ _
  | clReleaseProgram => exact storesOnly_changeRefCountOf _ _ _ _ _
  | clCreateKernel => exact storesOnly_clCreateKernel hV _ _
  | clCreateKernelsInProgram => exact storesOnly_clCreateKernelsInProgram (C := C) hV _ _
  | clCloneKernel => exact storesOnly_clCloneKernel hV _
  | clGetKernelWorkGroupInfo => exact storesOnly_clGetKernelWorkGroupInfo hV _ _ hS
  | clGetKernelInfo => exact storesOnly_clGetKernelInfo hV _
  | clGetKernelArgInfo => exact storesOnly_clGetKernelArgInfo hV _ _
  | clRetainKernel => exact storesOnly_changeRefCountOf _ _ _ _ _
  | clReleaseKernel => exact storesOnly_changeRefCountOf _ _ _ _ _
  | clEnqueueNDRangeKernel => exact storesOnly_clEnqueueNDRangeKernel hV _ _ _
  | clCreateBuffer => exact storesOnly_clCreateBuffer hV _ _ _ _
  | clCreateSubBuffer => exact storesOnly_clCreateSubBuffer hV _ _ _ _
  | clCreateImage => exact storesOnly_clCreateImage hV _ _ _ _ _ _
  | clGetMemObjectInfo => exact storesOnly_clGetMemObjectInfo hV _
  | clGetImageInfo => exact storesOnly_clGetImageInfo hV _
  | clRetainMemObject => exact storesOnly_changeRefCountOf _ _ _ _ _
  | clReleaseMemObject => exact storesOnly_changeRefCountOf _ _ _ _ _
  | clEnqueueFillBuffer => exact storesOnly_clEnqueueFillBuffer hV _ _ _ _ _ _
  | clEnqueueReadBuffer => exact storesOnly_clEnqueueReadBuffer hV _ _ _ _ _
  | clEnqueueReadBufferRect => exact storesOnly_clEnqueueReadBufferRect hV _ _ _ _
  | clEnqueueWriteBuffer => exact storesOnly_clEnqueueWriteBuffer hV _ _ _ _ _ _
  | clCreateUserEvent => exact storesOnly_clCreateUserEvent hV _
  | clSetUserEventStatus => exact storesOnly_clSetUserEventStatus _ _
  | clGetEventInfo => exact storesOnly_clGetEventInfo hV _ _
  | clGetEventProfilingInfo => exact storesOnly_clGetEventProfilingInfo hV _ _
  | clWaitForEvents => exact storesOnly_clWaitForEvents _ _
  | clRetainEvent => exact storesOnly_changeRefCountOf _ _ _ _ _
  | clReleaseEvent => exact storesOnly_changeRefCountOf _ _ _ _ _

end Functions

end Client

end RemoteCL

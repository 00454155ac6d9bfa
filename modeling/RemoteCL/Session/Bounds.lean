import RemoteCL.Session.Scripted
import RemoteCL.Session.Stores

/-!
# The memory of the application

A call is given pointers, and behind each of them there is as much memory as its arguments say.
What a call stores there depends on the server, and on some of its replies it depends without a
check.  `ApiCall.Overruns` names the calls for which this matters, and `ApiCall.Overflows` those
that run over memory of the client's own or over a null array.  `ApiCall.staysInBounds_iff` says
that they are exactly those that a server can make store outside of the memory they are given.

Every other call stores inside of it, whatever the server sends and wherever the connection fails.
-/

namespace RemoteCL

open ByteStream Conversation Wire LawfulWire Client

/-! ## Memory -/

/-- The memory behind the pointers of a call: whether there is a cell, and of arrays how large they
are.  A null pointer is one behind which there is nothing. -/
structure AppMemory where
  errcode_ret : Bool := false
  event : Bool := false
  count : Bool := false
  param_value_size_ret : Bool := false
  /-- The number of handles. -/
  entries : ℕ := 0
  /-- The number of bytes. -/
  param_value : ℕ := 0
  image_formats : ℕ := 0
  ptr : ℕ := 0
  binary_status : ℕ := 0
  /-- An array of pointers, each null or with a number of bytes behind it. -/
  binaries : List (Option ℕ) := []

/-- There is memory for a binary behind each of the first `n` pointers that is not null. -/
def holdBinaries (binaries : List (Option ℕ)) (n size : ℕ) : Prop :=
  ∀ i < n, ∃ p, binaries[i]? = some p ∧ ∀ room, p = some room → size ≤ room

namespace AppMemory

variable (m : AppMemory)

/-- There is memory for what is stored. -/
def Fits : Store → Prop
  | .errcode_ret _ => m.errcode_ret = true
  | .event _ => m.event = true
  | .count _ | .count_add _ => m.count = true
  | .entries _ hs => hs.length ≤ m.entries
  | .next_entry _ _ => 0 < m.entries
  | .param_value_size_ret _ => m.param_value_size_ret = true
  | .param_value data => data.length ≤ m.param_value
  | .param_handles _ hs => 8 * hs.length ≤ m.param_value
  | .param_handle_bytes _ n _ => n ≤ m.param_value
  | .image_formats data => data.length ≤ m.image_formats
  | .ptr data => data.length ≤ m.ptr
  | .binary_status data => data.length ≤ m.binary_status
  | .binaries bs => ∀ (i : ℕ) (b : Bytes), bs[i]? = some b →
      ∃ p, m.binaries[i]? = some p ∧ ∀ room, p = some room → b.length ≤ room
  | .notify _ _ _ => True

end AppMemory

/-- An array is filled entry by entry. -/
def Store.isNextEntry : Store → Bool
  | next_entry _ _ => true
  | _ => false

/-- The number of entries that have been stored one by one. -/
def nextEntries (xs : List Store) : ℕ := xs.countP Store.isNextEntry

/-- What is stored is not an entry of an array that is filled one by one. -/
abbrev NoEntry (x : Store) : Prop := x.isNextEntry = false

theorem nextEntries_of_noEntry {xs : List Store} (h : ∀ x ∈ xs, NoEntry x) :
    nextEntries xs = 0 := by
  rw [nextEntries, List.countP_eq_zero]
  intro x hx
  rw [h x hx]
  exact Bool.false_ne_true

/-- There is memory for all that is stored. -/
def AppMemory.Holds (m : AppMemory) (xs : List Store) : Prop :=
  (∀ x ∈ xs, m.Fits x) ∧ nextEntries xs ≤ m.entries

/-! ## Calls -/

/-- What the arguments of a call do not say: how much memory is behind the pointer that a rectangle
is read into, and behind the pointers to binaries. -/
structure Buffers where
  ptr : ℕ
  binaries : List (Option ℕ)

def Client.InfoArgs.memory (args : InfoArgs) : AppMemory where
  param_value := if args.param_value then args.param_value_size else 0
  param_value_size_ret := args.param_value_size_ret

def Client.WaitArgs.memory (args : WaitArgs) : AppMemory where
  event := args.event

/-- The memory of a function that lists objects. -/
def listMemory (num_entries : ℕ) (entries count : Bool) : AppMemory where
  entries := if entries then num_entries else 0
  count := count

/-- The memory of a function that creates an object. -/
def codeMemory (errcode_ret : Bool) : AppMemory where
  errcode_ret := errcode_ret

namespace Client

/-- The memory that a call is given.  The pointers to binaries are those that fit into
`param_value_size` bytes. -/
def ApiCall.memory (room : Buffers) : ApiCall → AppMemory
  | clGetPlatformIDs n platforms count => listMemory n platforms count
  | clGetPlatformInfo _ _ args => args.memory
  | clGetDeviceIDs _ _ n devices count => listMemory n devices count
  | clGetDeviceInfo _ _ args => args.memory
  | clCreateContext _ _ err => codeMemory err
  | clCreateContextFromType _ _ _ err => codeMemory err
  | clGetContextInfo _ _ args => args.memory
  | clGetSupportedImageFormats _ _ _ n formats count =>
    { image_formats := if formats then n * 8 else 0, count }
  | clCreateCommandQueue _ _ _ err => codeMemory err
  | clCreateCommandQueueWithProperties _ _ _ err => codeMemory err
  | clGetCommandQueueInfo _ _ args => args.memory
  | clCreateProgramWithSource _ _ err => codeMemory err
  | clCreateProgramWithBinary _ devices _ status err =>
    { binary_status := if status then 4 * (devices.getD []).length else 0, errcode_ret := err }
  | clLinkProgram _ _ _ _ _ _ _ err => codeMemory err
  | clGetProgramBuildInfo _ _ _ args => args.memory
  | clGetProgramInfo _ _ args =>
    { args.memory with
      binaries := if args.param_value then room.binaries.take (args.param_value_size / 8) else [] }
  | clCreateKernel _ _ err => codeMemory err
  | clCreateKernelsInProgram _ n kernels count => listMemory n.toNat kernels count
  | clCloneKernel _ err => codeMemory err
  | clGetKernelWorkGroupInfo _ _ _ args => args.memory
  | clGetKernelInfo _ _ args => args.memory
  | clGetKernelArgInfo _ _ _ args => args.memory
  | clEnqueueNDRangeKernel _ _ _ args => args.memory
  | clCreateBuffer _ _ _ _ err => codeMemory err
  | clCreateSubBuffer _ _ _ _ err => codeMemory err
  | clCreateImage _ _ _ _ _ _ err => codeMemory err
  | clGetMemObjectInfo _ _ args => args.memory
  | clGetImageInfo _ _ args => args.memory
  | clEnqueueFillBuffer _ _ _ _ _ _ args => args.memory
  | clEnqueueReadBuffer _ _ _ _ size args => { args.memory with ptr := size.toNat }
  | clEnqueueReadBufferRect _ _ _ _ args => { args.memory with ptr := room.ptr }
  | clEnqueueWriteBuffer _ _ _ _ _ _ args => args.memory
  | clCreateUserEvent _ err => codeMemory err
  | clGetEventInfo _ _ args => args.memory
  | clGetEventProfilingInfo _ _ args => args.memory
  | clRetainDevice _ | clReleaseDevice _ | clRetainContext _ | clReleaseContext _
  | clRetainCommandQueue _ | clReleaseCommandQueue _ | clFlush _ | clFinish _
  | clCompileProgram _ _ _ _ _ _ _ _ | clBuildProgram _ _ _ _ _ | clRetainProgram _
  | clReleaseProgram _ | clRetainKernel _ | clReleaseKernel _ | clRetainMemObject _
  | clReleaseMemObject _ | clSetUserEventStatus _ _ | clWaitForEvents _ _ | clRetainEvent _
  | clReleaseEvent _ => {}

/-- **In bounds**: whatever is received and whatever fails, no run of the call writes to where
nothing has been allocated, and every run that ends has stored inside of the memory the call is
given. -/
def ApiCall.StaysInBounds (C : Build) (room : Buffers) (c : ApiCall) : Prop :=
  ∀ s received w o faults,
    Prog.Faulty medium noEnv none (c.call C) s received w () o faults →
      o ≠ .never .spin () ∧ ∀ r s' left w', o = .done r s' left w' () →
        (c.memory room).Holds (storesSince s s')

/-- A value is stored without a look at the pointer, and the pointer is null. -/
def InfoArgs.Overruns (args : InfoArgs) (unchecked : Option ℕ) : Prop :=
  args.param_value = false ∧ ∃ n, unchecked = some n ∧ n ≤ args.param_value_size

/-- The list of events is accepted. -/
def WaitArgs.Accepted (args : WaitArgs) : Prop := ∃ ids, args.eventIDs = .ok ids

/-- The calls that a server can make store outside of their memory. -/
def ApiCall.Overruns (room : Buffers) : ApiCall → Prop
  | clGetDeviceInfo device param args => device.isSome ∧ args.Overruns (uncheckedDeviceInfo param)
  | clGetCommandQueueInfo queue param args =>
    queue.isSome ∧ args.Overruns (uncheckedCommandQueueInfo param)
  | clGetMemObjectInfo object param args =>
    object.isSome ∧ args.Overruns (uncheckedMemObjectInfo param)
  | clGetImageInfo image param args => image.isSome ∧ args.Overruns (uncheckedImageInfo param)
  | clGetKernelWorkGroupInfo kernel device param args =>
    kernel.isSome ∧ device.isSome ∧ args.Overruns (uncheckedKernelWorkGroupInfo param)
  | clGetKernelInfo kernel param args => kernel.isSome ∧ args.Overruns (uncheckedKernelInfo param)
  | clGetKernelArgInfo kernel _ param args =>
    kernel.isSome ∧ args.Overruns (uncheckedKernelArgInfo param)
  -- a length of 32 bits
  | clEnqueueReadBuffer queue buffer _ _ size args =>
    queue.isSome ∧ buffer.isSome ∧ args.Accepted ∧ size.toNat < 2 ^ 32 - 1
  | clEnqueueReadBufferRect queue buffer _ _ args =>
    queue.isSome ∧ buffer.isSome ∧ args.Accepted ∧ room.ptr < 2 ^ 32 - 1
  -- lengths of 16 bits
  | clCreateProgramWithBinary context devices binaries status _ =>
    status = true ∧ context.isSome ∧ binaries.isSome ∧ ∃ ds, devices = some ds ∧ ds ≠ [] ∧
      (handleIDs ds).isSome ∧ 4 * ds.length < 2 ^ 16 - 1
  | clGetProgramInfo program param args =>
    program.isSome ∧ param = CL_PROGRAM_BINARIES ∧ args.param_value = true ∧
      ¬ holdBinaries (room.binaries.take (args.param_value_size / 8)) (2 ^ 8 - 1) (2 ^ 16 - 1)
  -- a number of 8 bits
  | clCreateKernelsInProgram program n kernels _ =>
    program.isSome ∧ kernels = true ∧ n ≠ 0 ∧ n.toNat < 2 ^ 8 - 1
  | _ => False

end Client

/-! ## Calls that stay inside -/

section Inside

variable {m : AppMemory} {p : ClientM Ret} {C : Build} {room : Buffers} {c : ApiCall}

/-- What fits, and is not an entry of an array that is filled one by one. -/
def AppMemory.Plain (m : AppMemory) (x : Store) : Prop := m.Fits x ∧ NoEntry x

theorem holds_of_plain {xs : List Store} (h : ∀ x ∈ xs, m.Plain x) : m.Holds xs := by
  refine ⟨fun x hx => (h x hx).1, ?_⟩
  rw [nextEntries_of_noEntry fun x hx => (h x hx).2]
  exact Nat.zero_le _

/-- No run overruns, and all stores of a run that ends fit. -/
theorem staysInBounds_of_wlp (h : ∀ s u, (c.call C).wlp False s u fun _ s' _ =>
    (c.memory room).Holds (storesSince s s')) : c.StaysInBounds C room := by
  intro s received w o faults hrun
  have hmeets := hrun.wlp (h s received)
  constructor
  · rintro rfl
    exact hmeets
  · rintro r s' left w' rfl
    exact hmeets

theorem staysInBounds_of_storesOnly (h : StoresOnly False True (c.memory room).Plain (c.call C)) :
    c.StaysInBounds C room := by
  refine staysInBounds_of_wlp fun s u => Prog.wlp_mono ?_ (h s u)
  rintro - s' - ⟨⟨xs, hxs, hplain⟩, -⟩
  rw [hxs.storesSince]
  exact holds_of_plain hplain

/-! ### What may be stored fits -/

theorem plain_of_mayStoreEntries {n : ℕ} {entries count : Bool} (x : Store)
    (h : mayStoreEntries n entries count x) : (listMemory n entries count).Plain x := by
  cases x with
  | count => exact ⟨h, rfl⟩
  | entries kind hs =>
    obtain ⟨rfl, hlen⟩ := h
    exact ⟨hlen, rfl⟩
  | _ => exact h.elim

theorem plain_of_mayStoreCode {err : Bool} (x : Store) (h : mayStoreCode err x) :
    (codeMemory err).Plain x := by
  cases x with
  | errcode_ret => exact ⟨h, rfl⟩
  | _ => exact h.elim

theorem plain_of_waitArgs {args : WaitArgs} (x : Store) (h : args.MayStore x) :
    args.memory.Plain x := by
  cases x with
  | event => exact ⟨h, rfl⟩
  | _ => exact h.elim

/-- A query that looks at its pointer, or whose pointer is not null, or that has no room. -/
theorem plain_of_infoArgs {args : InfoArgs} {unchecked : Option ℕ}
    (hargs : ¬ args.Overruns unchecked) (x : Store) (h : args.MayStore unchecked x) :
    args.memory.Plain x := by
  have hroom {n : ℕ} (hn : args.param_value = true ∨ unchecked = some n)
      (hsize : n ≤ args.param_value_size) : n ≤ args.memory.param_value := by
    cases hvalue : args.param_value with
    | false =>
      rw [hvalue] at hn
      exact absurd ⟨hvalue, n, hn.resolve_left Bool.false_ne_true, hsize⟩ hargs
    | true =>
      rw [InfoArgs.memory, hvalue]
      exact hsize
  cases x with
  | param_value_size_ret => exact ⟨h, rfl⟩
  | param_value | param_handles => exact ⟨hroom h.1 h.2, rfl⟩
  | param_handle_bytes => exact ⟨hroom (.inl h.1) h.2, rfl⟩
  | _ => exact h.elim

theorem not_overruns_none {args : InfoArgs} : ¬ args.Overruns none := by
  rintro ⟨-, n, hn, -⟩
  cases hn

theorem plain_of_readArgs (hz : C.ZlibBounded) {args : WaitArgs} {n : ℕ} (hn : 2 ^ 32 - 1 ≤ n)
    (x : Store) (h : args.MayStoreData C x) :
    ({ args.memory with ptr := n } : AppMemory).Plain x := by
  cases x with
  | ptr data =>
    have hlen : data.length < 2 ^ 32 := h hz
    exact ⟨show data.length ≤ n by omega, rfl⟩
  | event => exact ⟨h, rfl⟩
  | _ => exact h.elim

/-! ### Calls that are refused -/

theorem storesOnly_withEvents_of {V : Store → Prop} {args : WaitArgs} {queue object : Option Handle}
    {q : Handle → Handle → List IDType → ClientM Ret}
    (hq : queue.isSome → object.isSome → args.Accepted →
      ∀ queue object ids, StoresOnly False True V (q queue object ids)) :
    StoresOnly False True V (withEvents queue object args q) := by
  cases queue with
  | none => exact storesOnly_pure _
  | some queue =>
    cases object with
    | none => exact storesOnly_pure _
    | some object =>
      rw [withEvents.eq_def]
      dsimp only
      split
      · exact storesOnly_pure _
      · exact (hq rfl rfl ⟨_, ‹_›⟩ _ _ _).catching _ _

/-! ### Entries that are stored one by one -/

/-- A program that, whatever it reads and whatever fails, stores at most `k` entries one by one. -/
def EntersAtMost {α : Type} (k : ℕ) (p : ClientM α) : Prop :=
  ∀ s u, p.wlp False s u fun _ s' _ => ∃ xs, Stored s s' xs ∧ nextEntries xs ≤ k

section Entries

variable {α β : Type} {k : ℕ}

theorem entersAtMost_of_storesOnly {q : ClientM α} (hq : StoresOnly False True NoEntry q) :
    EntersAtMost k q := by
  intro s u
  refine Prog.wlp_mono ?_ (hq s u)
  rintro - s' - ⟨⟨xs, hxs, hnone⟩, -⟩
  exact ⟨xs, hxs, by rw [nextEntries_of_noEntry hnone]; exact Nat.zero_le _⟩

theorem EntersAtMost.bind {q : ClientM α} {f : α → ClientM β} (hq : StoresOnly False True NoEntry q)
    (hf : ∀ a, EntersAtMost k (f a)) : EntersAtMost k (q >>= f) := by
  intro s u
  refine Prog.wlp_bind (Prog.wlp_mono ?_ (hq s u))
  rintro (x | a) s' u' ⟨⟨xs, hxs, hnone⟩, -⟩
  · exact ⟨xs, hxs, by rw [nextEntries_of_noEntry hnone]; exact Nat.zero_le _⟩
  · refine Prog.wlp_mono ?_ (hf a s' u')
    rintro - s'' - ⟨ys, hys, hk⟩
    refine ⟨xs ++ ys, hxs.trans hys, ?_⟩
    have hxs0 := nextEntries_of_noEntry hnone
    rw [nextEntries] at hxs0 hk ⊢
    rw [List.countP_append]
    omega

theorem entersAtMost_read_bind {R : α → Prop} {ty : PacketType} {r : Reader α} {f : α → ClientM β}
    (hr : r.Yields R) (hf : ∀ a, R a → EntersAtMost k (f a)) :
    EntersAtMost k (PacketStream.read ty r >>= f) := by
  intro s u
  refine Prog.wlp_bind (wlp_read (fun b body a rest _ _ _ hrun => ?_) fun x v => ?_)
  · exact hf a (hr.of_run hrun) s rest
  · exact ⟨[], Stored.refl s, Nat.zero_le _⟩

theorem EntersAtMost.catching {q : ClientM Ret} (hq : EntersAtMost k q) (badAlloc others : Int32) :
    EntersAtMost k (catching badAlloc others q) := by
  intro s u
  refine Prog.wlp_tryCatch (Prog.wlp_mono ?_ (hq s u))
  rintro (x | a) s' u' hs
  · cases x <;> exact hs
  · exact hs

end Entries

/-- What is stored for a kernel. -/
def kernelStores (count : Bool) (kernel : Lookup) : List Store :=
  .next_entry .kernel kernel :: if count then [.count_add 1] else []

theorem stored_kernel (count : Bool) (s : ClientState) (id : IDType) :
    Stored s (((Resolve.registerID.apply s .kernel id).2.stored true
        (.next_entry .kernel (Resolve.registerID.apply s .kernel id).1)).stored count
          (.count_add 1))
      (kernelStores count (Resolve.registerID.apply s .kernel id).1) := by
  have h := (((Stored.refl s).apply .registerID .kernel id).stored true
    (.next_entry .kernel (Resolve.registerID.apply s .kernel id).1)).stored count (.count_add 1)
  cases count <;> exact h

theorem nextEntries_kernel (count : Bool) (kernel : Lookup) (xs : List Store) :
    nextEntries (kernelStores count kernel ++ xs) = nextEntries xs + 1 := by
  have hone : (kernelStores count kernel).countP Store.isNextEntry = 1 := by
    cases count <;> rfl
  rw [nextEntries, List.countP_append, hone, Nat.add_comm]
  rfl

/-- Kernel by kernel. -/
theorem entersAtMost_storeKernels (count : Bool) (ids : List IDType) :
    EntersAtMost ids.length (storeKernels count ids) := by
  induction ids with
  | nil => exact entersAtMost_of_storesOnly (storesOnly_pure _)
  | cons id ids ih =>
    intro s u
    refine Prog.wlp_bind (wlp_resolve (Prog.wlp_bind (wlp_store (Prog.wlp_bind (wlp_store ?_)))))
    refine Prog.wlp_mono ?_ (ih _ u)
    rintro - s' - ⟨xs, hxs, hk⟩
    refine ⟨_, (stored_kernel count s id).trans hxs, ?_⟩
    rw [nextEntries_kernel, List.length_cons]
    exact Nat.succ_le_succ hk

/-- A list that crosses the wire has no more than 255 entries. -/
theorem entersAtMost_clCreateKernelsInProgram (program : Option Handle) (n : UInt32)
    (kernels count : Bool) :
    EntersAtMost 255 (Client.clCreateKernelsInProgram program n kernels count) := by
  cases program with
  | none => exact entersAtMost_of_storesOnly (storesOnly_pure _)
  | some program =>
    unfold Client.clCreateKernelsInProgram
    dsimp only
    split_ifs
    · exact entersAtMost_of_storesOnly (storesOnly_pure _)
    · exact entersAtMost_of_storesOnly (storesOnly_pure _)
    · refine (EntersAtMost.bind (storesOnly_writePacket _) fun _ => ?_).catching _ _
      refine EntersAtMost.bind storesOnly_flush fun _ => ?_
      refine entersAtMost_of_storesOnly (storesOnly_read _ fun value => ?_)
      have hcount : StoresOnly False True NoEntry (store count (.count value.mData.toNat)) :=
        storesOnly_store fun _ => rfl
      exact hcount.bind fun _ => storesOnly_pure _
    · refine (EntersAtMost.bind (storesOnly_writePacket _) fun _ => ?_).catching _ _
      refine EntersAtMost.bind storesOnly_flush fun _ => ?_
      refine entersAtMost_read_bind yields_idList fun list hlist => ?_
      intro s u
      refine Prog.wlp_bind (Prog.wlp_mono ?_ (entersAtMost_storeKernels count list.mIDs s u))
      rintro (x | a) s' u' ⟨xs, hxs, hk⟩
      · exact ⟨xs, hxs, hk.trans hlist⟩
      · exact ⟨xs, hxs, hk.trans hlist⟩

/-! ### All calls -/

/-- A call with only stores that fit, whatever they depend on. -/
theorem staysInBounds_of_plain (hover : ¬ c.Overflows)
    (h : ∀ x, c.MayStore C x → (c.memory room).Plain x) : c.StaysInBounds C room :=
  staysInBounds_of_storesOnly (c.storesOnly h hover fun _ => trivial)

theorem staysInBounds_clEnqueueReadBuffer (hz : C.ZlibBounded) {queue buffer : Option Handle}
    {blocking : Bool} {offset size : UInt64} {args : WaitArgs}
    (h : ¬ (ApiCall.clEnqueueReadBuffer queue buffer blocking offset size args).Overruns room) :
    (ApiCall.clEnqueueReadBuffer queue buffer blocking offset size args).StaysInBounds C room := by
  refine staysInBounds_of_storesOnly (storesOnly_withEvents_of fun hq hb hargs _ _ _ => ?_)
  have hsize : 2 ^ 32 - 1 ≤ size.toNat := Nat.le_of_not_lt fun hlt => h ⟨hq, hb, hargs, hlt⟩
  exact (storesOnly_writeCommand _ _ _).bind fun _ =>
    storesOnly_awaitRead (plain_of_readArgs hz hsize)

theorem staysInBounds_clEnqueueReadBufferRect (hz : C.ZlibBounded) {queue buffer : Option Handle}
    {blocking : Bool} {rect : RectArgs} {args : WaitArgs}
    (h : ¬ (ApiCall.clEnqueueReadBufferRect queue buffer blocking rect args).Overruns room) :
    (ApiCall.clEnqueueReadBufferRect queue buffer blocking rect args).StaysInBounds C room := by
  refine staysInBounds_of_storesOnly (storesOnly_withEvents_of fun hq hb hargs _ _ _ => ?_)
  have hsize : 2 ^ 32 - 1 ≤ room.ptr := Nat.le_of_not_lt fun hlt => h ⟨hq, hb, hargs, hlt⟩
  exact (storesOnly_writeCommand _ _ _).bind fun _ =>
    storesOnly_awaitRead (plain_of_readArgs hz hsize)

theorem staysInBounds_clCreateProgramWithBinary (hz : C.ZlibBounded) {context : Option Handle}
    {devices : Option (List (Option Handle))} {binaries : Option (List Bytes)} {status err : Bool}
    (h : ¬ (ApiCall.clCreateProgramWithBinary context devices binaries status err).Overruns room) :
    (ApiCall.clCreateProgramWithBinary context devices binaries status err).StaysInBounds C
      room := by
  by_cases hroom : status = true → 2 ^ 16 - 1 ≤ 4 * (devices.getD []).length
  · refine staysInBounds_of_plain id fun x hx => ?_
    cases x with
    | binary_status data =>
      obtain ⟨rfl, hdata⟩ := hx
      have hlen : data.length < 2 ^ 16 := hdata hz
      have hle := hroom rfl
      exact ⟨show data.length ≤ 4 * (devices.getD []).length by omega, rfl⟩
    | errcode_ret code => exact ⟨hx, rfl⟩
    | _ => exact hx.elim
  · rw [Classical.not_imp] at hroom
    refine staysInBounds_of_storesOnly ?_
    -- there is too little room, so the call is refused
    have hrefuse (code : Int32) : StoresOnly False True
        ((ApiCall.clCreateProgramWithBinary context devices binaries status err).memory room).Plain
        (returnError .program err code) :=
      storesOnly_returnError (fun herr code => ⟨herr, rfl⟩) _ _
    show StoresOnly False True _
      (Client.clCreateProgramWithBinary C context devices binaries status err)
    rw [clCreateProgramWithBinary.eq_def]
    split
    · exact hrefuse _
    · exact hrefuse _
    · exact hrefuse _
    · exact hrefuse _
    · rename_i devices _ hne
      split
      · exact hrefuse _
      · rename_i mIDs hmIDs
        refine absurd ⟨hroom.1, rfl, rfl, devices, rfl, ?_, ?_, Nat.lt_of_not_le hroom.2⟩ h
        · exact hne
        · rw [hmIDs]
          rfl

/-- The pointers to binaries are followed, but they are not counted. -/
theorem staysInBounds_clGetProgramInfo (hz : C.ZlibBounded) {program : Option Handle}
    {param : UInt32} {args : InfoArgs}
    (h : ¬ (ApiCall.clGetProgramInfo program param args).Overruns room) :
    (ApiCall.clGetProgramInfo program param args).StaysInBounds C room := by
  cases program with
  | none => exact staysInBounds_of_storesOnly (storesOnly_pure _)
  | some program =>
    have hinfo : ∀ x, args.MayStore none x → args.memory.Plain x :=
      plain_of_infoArgs not_overruns_none
    refine staysInBounds_of_plain id fun x hx => ?_
    cases x with
    | binaries bs =>
      obtain ⟨hparam, hvalue, hlen, hbs⟩ := hx
      refine ⟨fun i b hib => ?_, rfl⟩
      have hpointers : holdBinaries (room.binaries.take (args.param_value_size / 8)) (2 ^ 8 - 1)
          (2 ^ 16 - 1) := not_not.mp fun hfew => h ⟨rfl, hparam, hvalue, hfew⟩
      obtain ⟨hi, rfl⟩ := List.getElem?_eq_some_iff.mp hib
      obtain ⟨p, hp, hroom⟩ := hpointers i (by omega)
      have hb : bs[i].length < 2 ^ 16 := hbs _ (List.getElem_mem hi) hz
      refine ⟨p, ?_, fun n hn => ?_⟩
      · rw [ApiCall.memory, if_pos hvalue]
        exact hp
      · have hle := hroom n hn
        omega
    | param_value_size_ret n => exact hinfo (.param_value_size_ret n) hx
    | param_value data => exact hinfo (.param_value data) hx
    | param_handles kind hs => exact hinfo (.param_handles kind hs) hx
    | param_handle_bytes kind n b => exact hinfo (.param_handle_bytes kind n b) hx
    | _ => exact hx.elim

theorem staysInBounds_clCreateKernelsInProgram {program : Option Handle} {n : UInt32}
    {kernels count : Bool}
    (h : ¬ (ApiCall.clCreateKernelsInProgram program n kernels count).Overruns room) :
    (ApiCall.clCreateKernelsInProgram program n kernels count).StaysInBounds C room := by
  cases program with
  | none => exact staysInBounds_of_storesOnly (storesOnly_pure _)
  | some program =>
    cases kernels with
    | false =>
      refine staysInBounds_of_plain id fun x hx => ?_
      cases x with
      | count | count_add => exact ⟨hx, rfl⟩
      | next_entry => exact absurd hx Bool.false_ne_true
      | _ => exact hx.elim
    | true =>
      by_cases hn : n = 0
      · subst hn
        exact staysInBounds_of_storesOnly (storesOnly_pure _)
      · -- there is room for as many kernels as a list can have
        have hroom : 255 ≤ n.toNat := Nat.le_of_not_lt fun hlt => h ⟨rfl, rfl, hn, hlt⟩
        have hfits : StoresOnly False True (listMemory n.toNat true count).Fits
            (Client.clCreateKernelsInProgram (some program) n true count) := by
          refine storesOnly_clCreateKernelsInProgram (C := C) (fun x hx => ?_) _ _
          cases x with
          | count | count_add => exact hx
          | next_entry => exact show 0 < n.toNat by omega
          | _ => exact hx.elim
        refine staysInBounds_of_wlp fun s u => ?_
        have hmost := entersAtMost_clCreateKernelsInProgram (some program) n true count s u
        refine Prog.wlp_mono ?_ (Prog.wlp_and (hfits s u) hmost)
        rintro - s' - ⟨⟨⟨xs, hxs, hV⟩, -⟩, ys, hys, hk⟩
        rw [← hys.storesSince, hxs.storesSince] at hk
        rw [hxs.storesSince]
        exact ⟨hV, hk.trans hroom⟩

/-- A call that neither overruns nor overflows stays inside of its memory. -/
theorem ApiCall.staysInBounds (hz : C.ZlibBounded) (h : ¬ c.Overruns room)
    (hover : ¬ c.Overflows) : c.StaysInBounds C room := by
  have hcode {err : Bool} : ∀ x, mayStoreCode err x → (codeMemory err).Plain x :=
    plain_of_mayStoreCode
  have hinfo {args : InfoArgs} : ∀ x, args.MayStore none x → args.memory.Plain x :=
    plain_of_infoArgs not_overruns_none
  have hwait {args : WaitArgs} : ∀ x, args.MayStore x → args.memory.Plain x := plain_of_waitArgs
  cases c with
  | clGetPlatformIDs => exact staysInBounds_of_plain hover plain_of_mayStoreEntries
  | clGetDeviceIDs => exact staysInBounds_of_plain hover plain_of_mayStoreEntries
  -- the queries that store a value without a look at the pointer
  | clGetDeviceInfo device param args =>
    cases device with
    | none => exact staysInBounds_of_storesOnly (storesOnly_pure _)
    | some device =>
      exact staysInBounds_of_plain hover (plain_of_infoArgs fun hargs => h ⟨rfl, hargs⟩)
  | clGetCommandQueueInfo queue param args =>
    cases queue with
    | none => exact staysInBounds_of_storesOnly (storesOnly_pure _)
    | some queue =>
      exact staysInBounds_of_plain hover (plain_of_infoArgs fun hargs => h ⟨rfl, hargs⟩)
  | clGetMemObjectInfo object param args =>
    cases object with
    | none => exact staysInBounds_of_storesOnly (storesOnly_pure _)
    | some object =>
      exact staysInBounds_of_plain hover (plain_of_infoArgs fun hargs => h ⟨rfl, hargs⟩)
  | clGetImageInfo image param args =>
    cases image with
    | none => exact staysInBounds_of_storesOnly (storesOnly_pure _)
    | some image =>
      exact staysInBounds_of_plain hover (plain_of_infoArgs fun hargs => h ⟨rfl, hargs⟩)
  | clGetKernelInfo kernel param args =>
    cases kernel with
    | none => exact staysInBounds_of_storesOnly (storesOnly_pure _)
    | some kernel =>
      exact staysInBounds_of_plain hover (plain_of_infoArgs fun hargs => h ⟨rfl, hargs⟩)
  | clGetKernelArgInfo kernel index param args =>
    cases kernel with
    | none => exact staysInBounds_of_storesOnly (storesOnly_pure _)
    | some kernel =>
      exact staysInBounds_of_plain hover (plain_of_infoArgs fun hargs => h ⟨rfl, hargs⟩)
  | clGetKernelWorkGroupInfo kernel device param args =>
    cases kernel with
    | none => exact staysInBounds_of_storesOnly (storesOnly_pure _)
    | some kernel =>
      cases device with
      | none => exact staysInBounds_of_storesOnly (storesOnly_pure _)
      | some device =>
        exact staysInBounds_of_plain hover (plain_of_infoArgs fun hargs => h ⟨rfl, rfl, hargs⟩)
  -- the functions that receive what the server says is there
  | clEnqueueReadBuffer => exact staysInBounds_clEnqueueReadBuffer hz h
  | clEnqueueReadBufferRect => exact staysInBounds_clEnqueueReadBufferRect hz h
  | clCreateProgramWithBinary => exact staysInBounds_clCreateProgramWithBinary hz h
  | clGetProgramInfo => exact staysInBounds_clGetProgramInfo hz h
  | clCreateKernelsInProgram => exact staysInBounds_clCreateKernelsInProgram h
  | clGetSupportedImageFormats context flags type n formats count =>
    refine staysInBounds_of_plain hover fun x hx => ?_
    cases x with
    | count => exact ⟨hx, rfl⟩
    | image_formats data =>
      obtain ⟨rfl, hlen⟩ := hx
      exact ⟨hlen, rfl⟩
    | _ => exact hx.elim
  | clCompileProgram =>
    refine staysInBounds_of_plain hover fun x hx => ?_
    cases x with
    | notify => exact ⟨trivial, rfl⟩
    | _ => exact hx.elim
  | clLinkProgram =>
    refine staysInBounds_of_plain hover fun x hx => ?_
    cases x with
    | notify => exact ⟨trivial, rfl⟩
    | errcode_ret => exact ⟨hx, rfl⟩
    | _ => exact hx.elim
  | clGetPlatformInfo | clGetContextInfo | clGetProgramBuildInfo | clGetEventInfo
  | clGetEventProfilingInfo => exact staysInBounds_of_plain hover hinfo
  | clEnqueueNDRangeKernel | clEnqueueFillBuffer | clEnqueueWriteBuffer =>
    exact staysInBounds_of_plain hover hwait
  | clCreateContext | clCreateContextFromType | clCreateCommandQueue
  | clCreateCommandQueueWithProperties | clCreateProgramWithSource | clCreateKernel
  | clCloneKernel | clCreateBuffer | clCreateSubBuffer | clCreateImage | clCreateUserEvent =>
    exact staysInBounds_of_plain hover hcode
  | _ => exact staysInBounds_of_plain hover fun x hx => hx.elim

end Inside

/-! ## Calls that are made to store outside -/

section Outside

variable {m : AppMemory} {C : Build} {room : Buffers} {c : ApiCall}

/-- A reply on which a call stores what does not fit. -/
theorem not_staysInBounds {s s' : ClientState} {u left : Bytes} {r : Ret} {xs : List Store}
    (hrun : (c.call C).alone s u = some (.ok r, s', left)) (hxs : Stored s s' xs)
    (hx : ¬ (c.memory room).Holds xs) : ¬ c.StaysInBounds C room := by
  intro h
  obtain ⟨w', faults, hfaulty, -⟩ := Prog.faulty_alone (M := medium) (by decide) hrun 0
  exact hx (hxs.storesSince ▸ (h _ _ _ _ _ hfaulty).2 _ _ _ _ rfl)

/-! ### Values behind a null pointer -/

/-- The number of bytes that are stored at `param_value`. -/
def Store.atValue : Store → ℕ
  | param_value data => data.length
  | param_handles _ hs => 8 * hs.length
  | param_handle_bytes _ n _ => n
  | _ => 0

theorem not_fits_atValue {x : Store} (hx : 0 < x.atValue) (hm : m.param_value = 0) :
    ¬ m.Fits x := by
  cases x with
  | param_value | param_handles | param_handle_bytes =>
    intro h
    exact absurd (hm ▸ h) (Nat.not_le_of_lt hx)
  | _ => exact absurd hx (Nat.lt_irrefl 0)

/-- In every state there is a reply on which the program stores at `param_value`. -/
def StoresValue (p : ClientM Ret) : Prop :=
  ∀ s, ∃ u r s' left xs, p.alone s u = some (.ok r, s', left) ∧ Stored s s' xs ∧
    ∃ x ∈ xs, 0 < x.atValue

theorem not_staysInBounds_of_storesValue (h : StoresValue (c.call C))
    (hm : (c.memory room).param_value = 0) : ¬ c.StaysInBounds C room := by
  obtain ⟨u, r, s', left, xs, hrun, hxs, x, hx, hpos⟩ := h (queueKnown 0)
  exact not_staysInBounds hrun hxs fun hholds => not_fits_atValue hpos hm (hholds.1 x hx)

variable {args : InfoArgs}

theorem StoresValue.request {P : Type} [Packet P] [Wire P] {p : ClientM Ret} (h : StoresValue p)
    (x : P) (badAlloc others : Int32) :
    StoresValue (catching badAlloc others
      (PacketStream.writePacket x >>= fun _ => PacketStream.flush >>= fun _ => p)) := by
  intro s
  obtain ⟨u, r, s', left, xs, hrun, hxs, hx⟩ := h s
  refine ⟨u, r, s', left, xs, alone_catching ?_ _ _, hxs, hx⟩
  simp [hrun]

/-- A value is stored, and then its size. -/
theorem storesValue_of {p : ClientM Ret} (h : ∀ s, ∃ u r left s₁ x q y,
      p.alone s u = some (.ok r, (s₁.stored true x).stored q y, left) ∧ Stored s s₁ [] ∧
        0 < x.atValue) : StoresValue p := by
  intro s
  obtain ⟨u, r, left, s₁, x, q, y, hrun, hs₁, hx⟩ := h s
  refine ⟨u, r, _, left, _, hrun, (hs₁.stored true x).stored q y, x, ?_, hx⟩
  exact List.mem_append_left _ (List.mem_append_right _ (List.mem_singleton.mpr rfl))

theorem storesValue_awaitObject (hsize : 8 ≤ args.param_value_size) (how : Resolve) (kind : Kind) :
    StoresValue (awaitObject how kind args) := by
  refine storesValue_of fun s => ?_
  have hread : (PacketStream.readPacket IDPacket : ClientM IDPacket).alone s
      (packet (⟨0⟩ : IDPacket)) = some (.ok ⟨0⟩, s, []) := alone_readPacketLast _ (by decide)
  refine ⟨packet (⟨0⟩ : IDPacket), .code CL_SUCCESS, [], (how.apply s kind 0).2,
    .param_handles kind [(how.apply s kind 0).1], args.param_value_size_ret,
    .param_value_size_ret 8, ?_, (Stored.refl s).apply how kind 0, Nat.succ_pos 7⟩
  simp [awaitObject, storeHandle, hread, hsize]

/-- A packet is read, and a value is stored that has been made of it. -/
theorem storesValue_read {P : Type} [Packet P] [Wire P] [LawfulWire P] (f : P → Bytes) (x : P)
    (hty : Ordinary (Packet.mType P)) {k : ℕ} (hk : (f x).length = k + 1)
    (hsize : k + 1 ≤ args.param_value_size) :
    StoresValue (PacketStream.readPacket P >>= fun x =>
      storeValue args (f x) >>= fun _ => pure (.code CL_SUCCESS)) := by
  rw [← hk] at hsize
  have hpos : 0 < (f x).length := hk ▸ Nat.succ_pos k
  refine storesValue_of fun s => ?_
  have hread : (PacketStream.readPacket P : ClientM P).alone s (packet x) = some (.ok x, s, []) :=
    alone_readPacketLast x hty
  refine ⟨packet x, .code CL_SUCCESS, [], s, .param_value (f x), args.param_value_size_ret,
    .param_value_size_ret (f x).length, ?_, Stored.refl s, hpos⟩
  simp [storeValue, hread, hsize]

theorem storesValue_ite {q : Prop} [Decidable q] {p p' : ClientM Ret} (h : q → StoresValue p)
    (h' : ¬ q → StoresValue p') : StoresValue (if q then p else p') := by
  split
  · exact h ‹_›
  · exact h' ‹_›

theorem storesValue_awaitUInt64 (hsize : 8 ≤ args.param_value_size) :
    StoresValue (awaitValue UInt64 args) :=
  storesValue_read (fun value : SimplePacket .payload UInt64 => enc value.mData) ⟨0⟩ (by decide)
    (length_leBytes 8 _) hsize

theorem storesValue_awaitUInt32 (hsize : 4 ≤ args.param_value_size) :
    StoresValue (awaitValue UInt32 args) :=
  storesValue_read (fun value : SimplePacket .payload UInt32 => enc value.mData) ⟨0⟩ (by decide)
    (length_leBytes 4 _) hsize

/-- A query that stores a value without a look at its pointer. -/
theorem not_staysInBounds_info {unchecked : Option ℕ} (hargs : args.Overruns unchecked)
    (hm : c.memory room = args.memory)
    (h : ∀ n, unchecked = some n → n ≤ args.param_value_size → StoresValue (c.call C)) :
    ¬ c.StaysInBounds C room := by
  obtain ⟨hnull, n, hn, hsize⟩ := hargs
  refine not_staysInBounds_of_storesValue (h n hn hsize) ?_
  rw [hm, InfoArgs.memory, hnull]
  rfl

variable {param : UInt32} {n : ℕ} (hsize : n ≤ args.param_value_size)
include hsize

theorem storesValue_clGetDeviceInfo (hn : uncheckedDeviceInfo param = some n) (device : Handle) :
    StoresValue (Client.clGetDeviceInfo C .wide (some device) param args) := by
  refine StoresValue.request ?_ _ _ _
  rw [uncheckedDeviceInfo] at hn
  split at hn
  · rename_i hparam
    cases hn
    refine storesValue_ite (fun _ => storesValue_awaitObject hsize _ _) fun hplatform => ?_
    refine storesValue_ite (fun _ => storesValue_awaitObject hsize _ _) fun hparent => ?_
    rw [if_pos ((hparam.resolve_left hplatform).resolve_left hparent)]
    exact storesValue_awaitUInt64 hsize
  · cases hn

theorem storesValue_clGetCommandQueueInfo (hn : uncheckedCommandQueueInfo param = some n)
    (queue : Handle) : StoresValue (Client.clGetCommandQueueInfo C (some queue) param args) := by
  refine StoresValue.request ?_ _ _ _
  rw [uncheckedCommandQueueInfo] at hn
  split at hn
  · rename_i hparam
    cases hn
    refine storesValue_ite (fun _ => storesValue_awaitObject hsize _ _) fun hcontext => ?_
    rw [if_pos (hparam.resolve_left hcontext)]
    exact storesValue_awaitObject hsize _ _
  · cases hn

theorem storesValue_clGetMemObjectInfo (hn : uncheckedMemObjectInfo param = some n)
    (object : Handle) : StoresValue (Client.clGetMemObjectInfo C (some object) param args) := by
  refine StoresValue.request ?_ _ _ _
  rw [uncheckedMemObjectInfo] at hn
  split at hn
  · rename_i hparam
    cases hn
    refine storesValue_ite (fun _ => storesValue_awaitObject hsize _ _) fun hcontext => ?_
    rw [if_pos (hparam.resolve_left hcontext)]
    exact storesValue_awaitObject hsize _ _
  · cases hn

theorem storesValue_clGetImageInfo (hn : uncheckedImageInfo param = some n) (image : Handle) :
    StoresValue (Client.clGetImageInfo C (some image) param args) := by
  refine StoresValue.request ?_ _ _ _
  rw [uncheckedImageInfo] at hn
  split at hn
  · rename_i hparam
    cases hn
    rw [if_pos hparam]
    refine storesValue_of fun s => ?_
    have hread : (PacketStream.readPacket IDPacket : ClientM IDPacket).alone s
        (packet (⟨0⟩ : IDPacket)) = some (.ok ⟨0⟩, s, []) := alone_readPacketLast _ (by decide)
    have hnull : (0 : IDType) ≠ 0xFFFF := by decide
    refine ⟨packet (⟨0⟩ : IDPacket), .code CL_SUCCESS, [],
      (Resolve.getOrInsertObject.apply s .memObject 0).2,
      .param_handles .memObject [(Resolve.getOrInsertObject.apply s .memObject 0).1],
      args.param_value_size_ret, .param_value_size_ret 8, ?_, (Stored.refl s).apply _ _ 0,
      Nat.succ_pos 7⟩
    simp [getOrInsertObject, storeHandle, hread, hsize, hnull]
  · cases hn

theorem storesValue_clGetKernelWorkGroupInfo (hn : uncheckedKernelWorkGroupInfo param = some n)
    (kernel device : Handle) :
    StoresValue
      (Client.clGetKernelWorkGroupInfo C .wide (some kernel) (some device) param args) := by
  refine StoresValue.request ?_ _ _ _
  rw [uncheckedKernelWorkGroupInfo] at hn
  split at hn
  · cases hn
  · rename_i hgroup
    split at hn
    · rename_i hparam
      cases hn
      rw [if_neg hgroup, if_pos hparam]
      exact storesValue_read
        (fun value : SimplePacket .payload UInt64 => Host.wide.size value.mData)
        ⟨0⟩ (by decide) (length_size (H := .wide) (le_refl 8) _) hsize
    · cases hn

theorem storesValue_clGetKernelInfo (hn : uncheckedKernelInfo param = some n) (kernel : Handle) :
    StoresValue (Client.clGetKernelInfo C (some kernel) param args) := by
  refine StoresValue.request ?_ _ _ _
  rw [uncheckedKernelInfo] at hn
  split at hn
  · rename_i hparam
    cases hn
    refine storesValue_ite (fun _ => storesValue_awaitObject hsize _ _) fun hcontext => ?_
    rw [if_pos (hparam.resolve_left hcontext)]
    exact storesValue_awaitObject hsize _ _
  · rename_i hobject
    rw [not_or] at hobject
    split at hn
    · rename_i hparam
      cases hn
      rw [if_neg hobject.1, if_neg hobject.2, if_pos hparam]
      exact storesValue_awaitUInt32 hsize
    · cases hn

theorem storesValue_clGetKernelArgInfo (hn : uncheckedKernelArgInfo param = some n)
    (kernel : Handle) (index : UInt32) :
    StoresValue (Client.clGetKernelArgInfo C (some kernel) index param args) := by
  refine StoresValue.request ?_ _ _ _
  rw [uncheckedKernelArgInfo] at hn
  split at hn
  · rename_i hparam
    cases hn
    rw [if_pos hparam]
    exact storesValue_awaitUInt32 hsize
  · rename_i hqualifier
    split at hn
    · rename_i hparam
      cases hn
      rw [if_neg hqualifier, if_pos hparam]
      exact storesValue_read
        (fun value : SimplePacket .payload UInt32 => enc value.mData.toUInt64) ⟨0⟩ (by decide)
        (length_leBytes 8 _) hsize
    · cases hn

omit hsize

/-! ### Lengths that the server chooses -/

/-- The event that a command may ask for. -/
theorem alone_awaitEvent (args : WaitArgs) (s : ClientState) (u : Bytes) :
    ∃ v s' xs, (awaitEvent args).alone s (v ++ u) = some (.ok (), s', u) ∧ Stored s s' xs := by
  rw [awaitEvent]
  cases args.event with
  | false => exact ⟨[], s, [], rfl, Stored.refl s⟩
  | true =>
    have hread : (PacketStream.readPacket IDPacket : ClientM IDPacket).alone s
        (packet (⟨0⟩ : IDPacket) ++ u) = some (.ok ⟨0⟩, s, u) := alone_readPacket _ (by decide)
    refine ⟨packet (⟨0⟩ : IDPacket), _, _, ?_, ((Stored.refl s).apply .registerID .event 0).stored
      true (.event (Resolve.registerID.apply s .event 0).1)⟩
    simp [registerID, hread]

/-- Data of any length that its field can say. -/
theorem alone_awaitRead (C : Build) (args : WaitArgs) {data : Bytes} (hlen : data.length < 2 ^ 32)
    (s : ClientState) :
    ∃ u s' xs, (awaitRead C args).alone s u = some (.ok (.code CL_SUCCESS), s', []) ∧
      Stored s s' xs ∧ .ptr data ∈ xs := by
  obtain ⟨w, -, hw⟩ := exists_payload C.zlib .uint32 hlen
  obtain ⟨v, s', xs, hevent, hxs⟩ := alone_awaitEvent args s (PacketStream.frame .payload w)
  have hread : (PacketStream.read .payload (decPayloadInto C.zlib .uint32) : ClientM Bytes).alone s'
      (PacketStream.frame .payload w) = some (.ok data, s', []) := alone_readsLast hw (by decide)
  refine ⟨v ++ PacketStream.frame .payload w, _, _, ?_, hxs.stored true (.ptr data), ?_⟩
  · simp [awaitRead, hevent, hread]
  · exact List.mem_append_right _ (List.mem_singleton.mpr rfl)

theorem not_holds_of_not_fits {xs : List Store} {x : Store} (hx : x ∈ xs) (h : ¬ m.Fits x) :
    ¬ m.Holds xs := fun hholds => h (hholds.1 x hx)

/-- A command that reads into less memory than a length of 32 bits can say. -/
theorem not_staysInBounds_read {args : WaitArgs} {queue object : Handle}
    {p : Handle → Handle → List IDType → ClientM Ret}
    (hcall : c.call C = withEvents (some queue) (some object) args p)
    (hp : ∀ ids s u, (p queue object ids).alone s u = (awaitRead C args).alone s u)
    (hargs : args.Accepted) (hroom : (c.memory room).ptr < 2 ^ 32 - 1) :
    ¬ c.StaysInBounds C room := by
  obtain ⟨ids, hids⟩ := hargs
  have hlen : (zeros (2 ^ 32 - 1)).length = 2 ^ 32 - 1 := length_zeros _
  obtain ⟨u, s', xs, hrun, hxs, hmem⟩ := alone_awaitRead C args
    (lt_of_eq_of_lt hlen (by decide)) (queueKnown 0)
  have hcommand : (c.call C).alone (queueKnown 0) u = some (.ok (.code CL_SUCCESS), s', []) := by
    rw [hcall]
    exact alone_withEvents hids ((hp ids _ _).trans hrun)
  refine not_staysInBounds hcommand hxs (not_holds_of_not_fits hmem fun hfits => ?_)
  exact absurd (hlen ▸ hfits) (Nat.not_le_of_lt hroom)

theorem alone_writeBinaries (binaries : List Bytes) (s : ClientState) (u : Bytes) :
    (Client.writeBinaries C binaries).alone s u = some (.ok (), s, u) := by
  induction binaries with
  | nil => rfl
  | cons binary binaries ih =>
    rw [Client.writeBinaries, Prog.alone_bind, alone_write, Option.bind_some, Prog.aloneBind_ok, ih]

/-- A status of any length that its field can say. -/
theorem alone_clCreateProgramWithBinary (C : Build) (context : Handle)
    {devices : List (Option Handle)} (binaries : List Bytes) (err : Bool) {mIDs : List IDType}
    {data : Bytes} (hne : devices ≠ [])
    (hmIDs : handleIDs devices = some mIDs) (hlen : data.length < 2 ^ 16) (s : ClientState) :
    ∃ u r s' xs, (Client.clCreateProgramWithBinary C (some context) (some devices) (some binaries)
      true err).alone s u = some (.ok r, s', []) ∧ Stored s s' xs ∧ .binary_status data ∈ xs := by
  obtain ⟨w, -, hw⟩ := exists_payload C.zlib .uint16 hlen
  have hid : (PacketStream.readPacket IDPacket : ClientM IDPacket).alone s
      (packet (⟨0⟩ : IDPacket) ++ PacketStream.frame .payload w) =
        some (.ok ⟨0⟩, s, PacketStream.frame .payload w) := alone_readPacket _ (by decide)
  have hstatus (s : ClientState) :
      (PacketStream.read .payload (decPayloadInto C.zlib .uint16) : ClientM Bytes).alone s
        (PacketStream.frame .payload w) = some (.ok data, s, []) := alone_readsLast hw (by decide)
  refine ⟨packet (⟨0⟩ : IDPacket) ++ PacketStream.frame .payload w,
    .handle .program (some (Resolve.registerID.apply s .program 0).1), _, _, ?_,
    (((Stored.refl s).apply .registerID .program 0).stored true (.binary_status data)).stored err
      (.errcode_ret CL_SUCCESS),
    List.mem_append_left _ (List.mem_append_right _ (List.mem_singleton.mpr rfl))⟩
  obtain ⟨device, devices, rfl⟩ := List.exists_cons_of_ne_nil hne
  rw [clCreateProgramWithBinary.eq_def]
  dsimp only
  rw [hmIDs]
  refine alone_catchingError ?_ _ _ _
  simp [awaitID, alone_writeBinaries, hid, hstatus]

/-- A status that is longer than the array for it. -/
theorem not_staysInBounds_clCreateProgramWithBinary {context : Handle}
    {devices : List (Option Handle)} {binaries : List Bytes} {err : Bool} {mIDs : List IDType}
    (hne : devices ≠ []) (hmIDs : handleIDs devices = some mIDs)
    (hroom : 4 * devices.length < 2 ^ 16 - 1) :
    ¬ (ApiCall.clCreateProgramWithBinary (some context) (some devices) (some binaries) true
      err).StaysInBounds C room := by
  have hlen : (zeros (2 ^ 16 - 1)).length = 2 ^ 16 - 1 := length_zeros _
  obtain ⟨u, r, s', xs, hrun, hxs, hmem⟩ := alone_clCreateProgramWithBinary C context
    binaries err hne hmIDs (lt_of_eq_of_lt hlen (by decide)) (queueKnown 0)
  refine not_staysInBounds hrun hxs (not_holds_of_not_fits hmem fun hfits => ?_)
  exact absurd (hlen ▸ hfits) (Nat.not_le_of_lt hroom)

/-- The same binary for every device. -/
theorem alone_readBinaries {w data : Bytes} (hw : Reads (decPayload C.zlib .uint16) w data) (n : ℕ)
    (s : ClientState) :
    (Client.readBinaries C n).alone s (List.replicate n (PacketStream.frame .payload w)).flatten =
      some (.ok (List.replicate n data), s, []) := by
  induction n with
  | zero => rfl
  | succ n ih =>
    have hread : (PacketStream.read .payload (decPayload C.zlib .uint16) : ClientM Bytes).alone s
        (PacketStream.frame .payload w ++
          (List.replicate n (PacketStream.frame .payload w)).flatten)
          = some (.ok data, s, (List.replicate n (PacketStream.frame .payload w)).flatten) :=
      alone_reads hw (by decide)
    simp [Client.readBinaries, List.replicate_succ, hread, ih]

/-- As many binaries as a number of 8 bits can say, each as long as a length of 16 bits can say. -/
theorem alone_clGetProgramInfo (C : Build) (program : Handle) {args : InfoArgs} {data : Bytes}
    (hvalue : args.param_value = true) (hlen : data.length < 2 ^ 16) (s : ClientState) :
    ∃ u s' xs, (Client.clGetProgramInfo C (some program) CL_PROGRAM_BINARIES args).alone s u =
        some (.ok (.code CL_SUCCESS), s', []) ∧ Stored s s' xs ∧
      .binaries (List.replicate 255 data) ∈ xs := by
  obtain ⟨w, hw, -⟩ := exists_payload C.zlib .uint16 hlen
  have hcount : (PacketStream.readPacket (SimplePacket .payload UInt8) :
      ClientM (SimplePacket .payload UInt8)).alone s
        (packet (⟨255⟩ : SimplePacket .payload UInt8) ++
          (List.replicate 255 (PacketStream.frame .payload w)).flatten) =
      some (.ok ⟨255⟩, s, (List.replicate 255 (PacketStream.frame .payload w)).flatten) :=
    alone_readPacket _ (by decide)
  refine ⟨packet (⟨255⟩ : SimplePacket .payload UInt8) ++
      (List.replicate 255 (PacketStream.frame .payload w)).flatten, _, _, ?_,
    ((Stored.refl s).stored args.param_value_size_ret (.param_value_size_ret (255 * 8))).stored true
      (.binaries (List.replicate 255 data)),
    List.mem_append_right _ (List.mem_singleton.mpr rfl)⟩
  refine alone_catching ?_ _ _
  have hcontext : CL_PROGRAM_BINARIES ≠ CL_PROGRAM_CONTEXT := by decide
  have hdevices : CL_PROGRAM_BINARIES ≠ CL_PROGRAM_DEVICES := by decide
  have h255 : (255 : UInt8).toNat = 255 := rfl
  simp only [if_neg hcontext, if_neg hdevices, if_true, Prog.alone_bind, alone_writePacket,
    alone_flush, hcount, h255, alone_readBinaries hw, alone_store, hvalue, Option.bind_some,
    Prog.aloneBind_ok]
  rfl

/-- Binaries for which there are too few pointers, or too little room behind one. -/
theorem not_staysInBounds_clGetProgramInfo {program : Handle} {args : InfoArgs}
    (hvalue : args.param_value = true)
    (hfew : ¬ holdBinaries (room.binaries.take (args.param_value_size / 8)) (2 ^ 8 - 1)
      (2 ^ 16 - 1)) :
    ¬ (ApiCall.clGetProgramInfo (some program) CL_PROGRAM_BINARIES args).StaysInBounds C room := by
  have hlen : (zeros (2 ^ 16 - 1)).length = 2 ^ 16 - 1 := length_zeros _
  obtain ⟨u, s', xs, hrun, hxs, hmem⟩ := alone_clGetProgramInfo C program hvalue
    (lt_of_eq_of_lt hlen (by decide)) (queueKnown 0)
  refine not_staysInBounds hrun hxs (not_holds_of_not_fits hmem fun hfits => hfew fun i hi => ?_)
  obtain ⟨p, hp, hroom⟩ := hfits i (zeros (2 ^ 16 - 1)) (List.getElem?_replicate_of_lt hi)
  rw [ApiCall.memory, if_pos hvalue] at hp
  exact ⟨p, hp, fun n hn => hlen ▸ hroom n hn⟩

/-- An entry is stored for every kernel. -/
theorem alone_storeKernels (count : Bool) (ids : List IDType) (s : ClientState) (u : Bytes) :
    ∃ s' xs, (storeKernels count ids).alone s u = some (.ok (), s', u) ∧ Stored s s' xs ∧
      nextEntries xs = ids.length := by
  induction ids generalizing s with
  | nil => exact ⟨s, [], rfl, Stored.refl s, rfl⟩
  | cons id ids ih =>
    have hfirst := stored_kernel count s id
    obtain ⟨s', xs, hrun, hxs, hlen⟩ := ih _
    refine ⟨s', _, ?_, hfirst.trans hxs, ?_⟩
    · simp only [storeKernels, registerID, Prog.alone_bind, alone_resolve, alone_store,
        Option.bind_some, Prog.aloneBind_ok]
      exact hrun
    · rw [nextEntries_kernel, hlen, List.length_cons]

theorem not_staysInBounds_clCreateKernelsInProgram {program : Handle} {n : UInt32} {count : Bool}
    (hn : n ≠ 0) (hroom : n.toNat < 2 ^ 8 - 1) :
    ¬ (ApiCall.clCreateKernelsInProgram (some program) n true count).StaysInBounds C room := by
  have hlen : (List.replicate 255 (0 : IDType)).length = 255 := List.length_replicate
  have hread : (PacketStream.readPacket IDListPacket : ClientM IDListPacket).alone (queueKnown 0)
      (packet (⟨List.replicate 255 0⟩ : IDListPacket)) =
        some (.ok ⟨List.replicate 255 0⟩, (queueKnown 0), []) :=
    alone_readsLast (reads_idListPacket (lt_of_eq_of_lt hlen (by decide))) (by decide)
  obtain ⟨s', xs, hrun, hxs, hentries⟩ :=
    alone_storeKernels count (List.replicate 255 0) (queueKnown 0) []
  have hcall : (ApiCall.call C (.clCreateKernelsInProgram (some program) n true count)).alone
      (queueKnown 0) (packet (⟨List.replicate 255 0⟩ : IDListPacket)) =
        some (.ok (.code CL_SUCCESS), s', []) := by
    simp only [ApiCall.call, Client.clCreateKernelsInProgram, decide_eq_false hn, Bool.not_true,
      Bool.and_false, Bool.false_and, Bool.false_eq_true, if_false, if_neg hn]
    refine alone_catching ?_ _ _
    simp only [Prog.alone_bind, alone_writePacket, alone_flush, hread, hrun, Option.bind_some,
      Prog.aloneBind_ok]
    rfl
  refine not_staysInBounds hcall hxs fun hholds => ?_
  have hle : nextEntries xs ≤ n.toNat := hholds.2
  omega

/-! ### Memory that is not there -/

theorem not_staysInBounds_of_spin {s : ClientState} {u : Bytes} {w : ℕ} {fs : List (Fault Exn)}
    (h : Prog.Faulty medium noEnv none (c.call C) s u w () (.never .spin ()) fs) :
    ¬ c.StaysInBounds C room := fun hstays => (hstays _ _ _ _ _ h).1 rfl

/-- One entry arrives, and there is no array for it. -/
theorem faulty_awaitEntries {P : Type} [Packet P] [Wire P] (x : P) (kind : Kind) {n : ℕ}
    (hn : n ≠ 0) (badAlloc others : Int32) (s : ClientState) (w : ℕ) :
    Prog.Faulty medium noEnv none (store true (.count 0) >>= fun _ =>
        catching badAlloc others (PacketStream.writePacket x >>= fun _ =>
          awaitEntries kind n false true))
      s (packet (⟨[0]⟩ : IDListPacket)) w () (.never .spin ()) [] := by
  obtain ⟨k, rfl⟩ := Nat.exists_eq_succ_of_ne_zero hn
  have hcatch := context_catching badAlloc others
  have hlist : (dec : Reader IDListPacket).run (enc (⟨[0]⟩ : IDListPacket)) = some (⟨[0]⟩, []) := by
    have h := reads_idListPacket (p := ⟨[0]⟩) (by decide) []
    rwa [List.append_nil] at h
  refine .get (.put (faulty_send ((Prog.Context.bind _).comp hcatch) fun w => ?_))
  refine .flush (faulty_meets hcatch hlist (by decide) ?_)
  exact .get (.put (.get (.put .spin)))

/-- Sizes arrive for which the array is too short. -/
theorem exists_longSizes (C : Build) : ∃ received, LongSizes C received := by
  have hlen : (zeros 25).length = 25 := length_zeros _
  obtain ⟨w, -, hw⟩ := exists_payload C.zlib .uint8 (lt_of_eq_of_lt hlen (by decide))
  exact ⟨_, zeros 25, ⟨PacketType.payload.toByte, _, _, rfl, by decide, by decide, hw []⟩,
    by rw [hlen]; decide⟩

/-- Headers that pass are stored in a vector that is empty. -/
theorem HeadersPass.overruns {program : Option Handle} {n : ℕ}
    {devices : Option (List (Option Handle))} {options : Option Bytes} {m : ℕ}
    {headers : Option (List (Option Handle))} {names : Option (List (Option Bytes))}
    {notify : Notify} (h : HeadersPass program n devices m headers names notify) :
    Client.clCompileProgram program n devices options m headers names notify = overrun := by
  obtain ⟨program, rfl⟩ := Option.isSome_iff_exists.mp h.isSome_program
  obtain ⟨mDeviceIDs, hIDs⟩ := Option.isSome_iff_exists.mp h.isSome_deviceIDs
  obtain ⟨headers, rfl⟩ := Option.isSome_iff_exists.mp h.isSome_headers
  obtain ⟨names, rfl⟩ := Option.isSome_iff_exists.mp h.isSome_names
  have hm := h.num_headers_ne_zero
  simp [clCompileProgram, h.valid_devices, hIDs, hm, h.not_nullHeader, h.valid_notify]

/-- Whatever overflows can be made to. -/
theorem ApiCall.not_staysInBounds_of_overflows (h : c.Overflows) : ¬ c.StaysInBounds C room := by
  obtain ⟨received, hlong⟩ := exists_longSizes C
  cases c with
  | clGetPlatformIDs n platforms count =>
    obtain ⟨rfl, rfl, hn⟩ := h
    exact not_staysInBounds_of_spin (faulty_awaitEntries _ .platformID hn _ _ (queueKnown 0) 0)
  | clGetDeviceIDs platform type n devices count =>
    obtain ⟨rfl, rfl, hn⟩ := h
    exact not_staysInBounds_of_spin (faulty_awaitEntries _ .deviceID hn _ _ (queueKnown 0) 0)
  | clGetDeviceInfo device param args =>
    exact not_staysInBounds_of_spin (faulty_sizes (q := .clGetDeviceInfo device param) h hlong args
      (queueKnown 0) 0)
  | clGetKernelWorkGroupInfo kernel device param args =>
    exact not_staysInBounds_of_spin (faulty_sizes
      (q := .clGetKernelWorkGroupInfo kernel device param) h hlong args (queueKnown 0) 0)
  | clCompileProgram program n devices options m headers names notify =>
    have hcall : ApiCall.call C
        (.clCompileProgram program n devices options m headers names notify) =
      overrun := HeadersPass.overruns h
    exact not_staysInBounds_of_spin (hcall ▸ .spin : Prog.Faulty medium noEnv none _ (queueKnown 0)
      [] 0 () (.never .spin ()) [])
  | _ => exact h.elim

/-- Whatever overruns can be made to. -/
theorem ApiCall.not_staysInBounds (h : c.Overruns room) : ¬ c.StaysInBounds C room := by
  cases c with
  | clGetDeviceInfo device param args =>
    obtain ⟨device, rfl⟩ := Option.isSome_iff_exists.mp h.1
    exact not_staysInBounds_info h.2 rfl fun n hn hsize => storesValue_clGetDeviceInfo hsize hn _
  | clGetCommandQueueInfo queue param args =>
    obtain ⟨queue, rfl⟩ := Option.isSome_iff_exists.mp h.1
    exact not_staysInBounds_info h.2 rfl fun n hn hsize =>
      storesValue_clGetCommandQueueInfo hsize hn _
  | clGetMemObjectInfo object param args =>
    obtain ⟨object, rfl⟩ := Option.isSome_iff_exists.mp h.1
    exact not_staysInBounds_info h.2 rfl fun n hn hsize => storesValue_clGetMemObjectInfo hsize hn _
  | clGetImageInfo image param args =>
    obtain ⟨image, rfl⟩ := Option.isSome_iff_exists.mp h.1
    exact not_staysInBounds_info h.2 rfl fun n hn hsize => storesValue_clGetImageInfo hsize hn _
  | clGetKernelWorkGroupInfo kernel device param args =>
    obtain ⟨kernel, rfl⟩ := Option.isSome_iff_exists.mp h.1
    obtain ⟨device, rfl⟩ := Option.isSome_iff_exists.mp h.2.1
    exact not_staysInBounds_info h.2.2 rfl fun n hn hsize =>
      storesValue_clGetKernelWorkGroupInfo hsize hn _ _
  | clGetKernelInfo kernel param args =>
    obtain ⟨kernel, rfl⟩ := Option.isSome_iff_exists.mp h.1
    exact not_staysInBounds_info h.2 rfl fun n hn hsize => storesValue_clGetKernelInfo hsize hn _
  | clGetKernelArgInfo kernel index param args =>
    obtain ⟨kernel, rfl⟩ := Option.isSome_iff_exists.mp h.1
    exact not_staysInBounds_info h.2 rfl fun n hn hsize =>
      storesValue_clGetKernelArgInfo hsize hn _ _
  | clEnqueueReadBuffer queue buffer blocking offset size args =>
    obtain ⟨hq, hb, hargs, hsize⟩ := h
    obtain ⟨queue, rfl⟩ := Option.isSome_iff_exists.mp hq
    obtain ⟨buffer, rfl⟩ := Option.isSome_iff_exists.mp hb
    have hcall : ApiCall.call C
        (.clEnqueueReadBuffer (some queue) (some buffer) blocking offset size args) =
      Client.clEnqueueReadBuffer C (some queue) (some buffer) blocking offset size args := rfl
    rw [Client.clEnqueueReadBuffer] at hcall
    refine not_staysInBounds_read hcall (fun ids s u => ?_) hargs hsize
    rw [Prog.alone_bind, alone_writeCommand, Option.bind_some, Prog.aloneBind_ok]
  | clEnqueueReadBufferRect queue buffer blocking rect args =>
    obtain ⟨hq, hb, hargs, hsize⟩ := h
    obtain ⟨queue, rfl⟩ := Option.isSome_iff_exists.mp hq
    obtain ⟨buffer, rfl⟩ := Option.isSome_iff_exists.mp hb
    have hcall : ApiCall.call C (.clEnqueueReadBufferRect (some queue) (some buffer) blocking rect
        args) =
      Client.clEnqueueReadBufferRect C (some queue) (some buffer) blocking rect args := rfl
    rw [Client.clEnqueueReadBufferRect] at hcall
    refine not_staysInBounds_read hcall (fun ids s u => ?_) hargs hsize
    rw [Prog.alone_bind, alone_writeCommand, Option.bind_some, Prog.aloneBind_ok]
  | clCreateProgramWithBinary context devices binaries status err =>
    obtain ⟨rfl, hc, hb, ds, rfl, hne, hids, hroom⟩ := h
    obtain ⟨context, rfl⟩ := Option.isSome_iff_exists.mp hc
    obtain ⟨binaries, rfl⟩ := Option.isSome_iff_exists.mp hb
    obtain ⟨mIDs, hmIDs⟩ := Option.isSome_iff_exists.mp hids
    exact not_staysInBounds_clCreateProgramWithBinary hne hmIDs hroom
  | clGetProgramInfo program param args =>
    obtain ⟨hp, rfl, hvalue, hfew⟩ := h
    obtain ⟨program, rfl⟩ := Option.isSome_iff_exists.mp hp
    exact not_staysInBounds_clGetProgramInfo hvalue hfew
  | clCreateKernelsInProgram program n kernels count =>
    obtain ⟨hp, rfl, hn, hroom⟩ := h
    obtain ⟨program, rfl⟩ := Option.isSome_iff_exists.mp hp
    exact not_staysInBounds_clCreateKernelsInProgram hn hroom
  | _ => exact h.elim

end Outside

/-- **Memory safety against any server**: of a client whose zlib respects the end of its buffers, a
call stays inside of the memory it is given, whatever is received and whatever fails, unless it is
one of those that overrun or overflow; and each of these is made to store outside by some reply. -/
theorem ApiCall.staysInBounds_iff (C : Build) (hz : C.ZlibBounded) (room : Buffers) (c : ApiCall) :
    c.StaysInBounds C room ↔ ¬ c.Overruns room ∧ ¬ c.Overflows := by
  constructor
  · intro hstays
    exact ⟨fun hover => ApiCall.not_staysInBounds hover hstays,
      fun hover => ApiCall.not_staysInBounds_of_overflows hover hstays⟩
  · rintro ⟨hoverruns, hoverflows⟩
    exact ApiCall.staysInBounds hz hoverruns hoverflows

/-- A read of four bytes into four bytes: the server may send more. -/
theorem read_of_four_bytes :
    ¬ (ApiCall.clEnqueueReadBuffer (some ⟨0, 0, .queue⟩) (some ⟨1, 1, .memObject⟩) true 0 4
      ⟨0, none, false⟩).StaysInBounds plainBuild ⟨0, []⟩ := by
  intro hstays
  have h := (ApiCall.staysInBounds_iff plainBuild (fun _ hz => by cases hz) ⟨0, []⟩ _).mp hstays
  exact h.1 ⟨rfl, rfl, ⟨[], rfl⟩, by decide⟩

end RemoteCL

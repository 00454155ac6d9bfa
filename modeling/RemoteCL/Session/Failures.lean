import RemoteCL.Session.Scripted
import RemoteCL.Session.Stores
import RemoteCL.Theory.Losses

/-!
# What a call reports when it fails

A call can fail in two ways that are not its own fault: the connection is lost while it is under
way, or the server answers with an `Error` packet.  Its body stops at that point, and its `catch`
clauses decide what the application sees.  They are written in every function anew.

`ApiCall.reports_loss` says what every call reports about a lost connection, wherever it is lost,
and `ApiCall.reports_error_packet` says what it reports about an error, that it stores nothing else
but what it has stored before the reply, and that the stream is left behind the packet.  Both rest
on `Tells`, which is found by going through the functions.
-/

namespace RemoteCL

open ByteStream Conversation Wire LawfulWire Client

/-! ## Bodies -/

/-- A program that stops at the first failure, and may have stored something on the way. -/
structure Body {α : Type} (p : ClientM α) : Prop where
  strict : p.Strict medium
  stores : StoresOnly True True (fun _ => True) p

/-- A body that stores `before`, and waits for a reply.  If the reply is an error, it is thrown, and
nothing behind it has been read. -/
structure Request {α : Type} (before : List Store) (p : ClientM α) : Prop extends Body p where
  error : ∀ e s rest, ∃ s', Stored s s' before ∧
    p.alone s (packet (⟨e⟩ : ErrorPacket) ++ rest) = some (.error (.errorPacket e), s', rest)

section Bodies

variable {α β : Type}

theorem body_pure (a : α) : Body (pure a : ClientM α) := ⟨trivial, storesOnly_pure a⟩

theorem Body.bind {p : ClientM α} {f : α → ClientM β} (hp : Body p) (hf : ∀ a, Body (f a)) :
    Body (p >>= f) :=
  ⟨hp.strict.bind fun a => (hf a).strict, hp.stores.bind fun a => (hf a).stores⟩

theorem body_ite {c : Prop} [Decidable c] {p q : ClientM α} (hp : c → Body p) (hq : ¬ c → Body q) :
    Body (if c then p else q) := by
  split
  · exact hp ‹_›
  · exact hq ‹_›

theorem body_write (ty : PacketType) (body : Bytes) : Body (PacketStream.write ty body) :=
  ⟨strict_write ty body, storesOnly_write ty body⟩

theorem body_writePacket {P : Type} [Packet P] [Wire P] (x : P) :
    Body (PacketStream.writePacket x) := body_write _ _

theorem body_flush : Body PacketStream.flush := ⟨strict_flush, storesOnly_flush⟩

theorem body_read (ty : PacketType) {r : Reader α} {k : α → ClientM β} (hk : ∀ a, Body (k a)) :
    Body (PacketStream.read ty r >>= k) :=
  ⟨(strict_read ty r).bind fun a => (hk a).strict, storesOnly_read ty fun a => (hk a).stores⟩

theorem body_overrun : Body (overrun : ClientM α) := ⟨trivial, storesOnly_overrun trivial⟩

theorem body_store (pointer : Bool) (x : Store) : Body (store pointer x) := by
  refine ⟨?_, storesOnly_store fun _ => trivial⟩
  cases pointer
  · exact trivial
  · exact fun _ => trivial

theorem body_resolve (how : Resolve) (kind : Kind) (id : IDType) : Body (resolve how kind id) :=
  ⟨fun _ => trivial, storesOnly_resolve how kind id⟩

theorem body_resolveAll (how : Resolve) (kind : Kind) (ids : List IDType) :
    Body (resolveAll how kind ids) :=
  ⟨fun _ => trivial, storesOnly_resolveAll how kind ids⟩

theorem body_registerCallback (callback : Callback) : Body (registerCallback callback) :=
  ⟨fun _ => trivial, storesOnly_registerCallback trivial callback⟩

theorem body_getState_bind {k : ClientState → ClientM β} (hk : ∀ s, Body (k s)) :
    Body (Prog.getState >>= k) :=
  ⟨fun s => (hk s).strict, storesOnly_getState_bind fun s => (hk s).stores⟩

/-! ### Requests -/

variable {before : List Store}

/-- The reply is read. -/
theorem request_read (ty : PacketType) {r : Reader α} {k : α → ClientM β} (hk : ∀ a, Body (k a)) :
    Request [] (PacketStream.read ty r >>= k) where
  toBody := body_read ty hk
  error e s rest := ⟨s, Stored.refl s, by rw [Prog.alone_bind, alone_readError]; rfl⟩

/-- A program that reads nothing, and stores `xs`. -/
def ReadsNothing (xs : List Store) (p : ClientM α) : Prop :=
  ∀ s u, ∃ a s', Stored s s' xs ∧ p.alone s u = some (.ok a, s', u)

theorem readsNothing_registerCallback (callback : Callback) :
    ReadsNothing [] (registerCallback callback) := fun s _ =>
  ⟨_, { s with mCallbacks := s.mCallbacks ++ [callback] }, ⟨[], Extends.refl s, rfl⟩, rfl⟩

/-- Something is done before the reply is read. -/
theorem Request.after {p : ClientM α} {f : α → ClientM β} {xs : List Store} (hp : Body p)
    (hsilent : ReadsNothing xs p) (hf : ∀ a, Request before (f a)) :
    Request (xs ++ before) (p >>= f) where
  toBody := hp.bind fun a => (hf a).toBody
  error e s rest := by
    obtain ⟨a, s₁, hxs, hrun⟩ := hsilent s (packet (⟨e⟩ : ErrorPacket) ++ rest)
    obtain ⟨s', hbefore, herror⟩ := (hf a).error e s₁ rest
    refine ⟨s', hxs.trans hbefore, ?_⟩
    rw [Prog.alone_bind, hrun, Option.bind_some, Prog.aloneBind_ok, herror]

/-- Something is done with the reply. -/
theorem Request.bind {p : ClientM α} {f : α → ClientM β} (hp : Request before p)
    (hf : ∀ a, Body (f a)) : Request before (p >>= f) where
  toBody := hp.toBody.bind hf
  error e s rest := by
    obtain ⟨s', hbefore, herror⟩ := hp.error e s rest
    exact ⟨s', hbefore, by rw [Prog.alone_bind, herror]; rfl⟩

theorem request_ite {c : Prop} [Decidable c] {p q : ClientM α} (hp : c → Request before p)
    (hq : ¬ c → Request before q) : Request before (if c then p else q) := by
  split
  · exact hp ‹_›
  · exact hq ‹_›

theorem request_getState_bind {k : ClientState → ClientM β} (hk : ∀ s, Request before (k s)) :
    Request before (Prog.getState >>= k) where
  toBody := body_getState_bind fun s => (hk s).toBody
  error e s rest := (hk s).error e s rest

theorem Request.write {p : ClientM β} (hp : Request before p) (ty : PacketType) (body : Bytes) :
    Request before (PacketStream.write ty body >>= fun _ => p) :=
  Request.after (body_write ty body) (fun s _ => ⟨(), s, Stored.refl s, rfl⟩) fun _ => hp

theorem Request.writePacket {P : Type} [Packet P] [Wire P] {p : ClientM β} (hp : Request before p)
    (x : P) : Request before (PacketStream.writePacket x >>= fun _ => p) := hp.write _ _

theorem Request.flush {p : ClientM β} (hp : Request before p) :
    Request before (PacketStream.flush >>= fun _ => p) :=
  Request.after body_flush (fun s _ => ⟨(), s, Stored.refl s, rfl⟩) fun _ => hp

theorem Request.store {p : ClientM β} (hp : Request [] p) (pointer : Bool) (x : Store) :
    Request (if pointer then [x] else []) (store pointer x >>= fun _ => p) := by
  have hstore : ReadsNothing (if pointer then [x] else []) (RemoteCL.Client.store pointer x) :=
    fun s _ => ⟨(), _, (Stored.refl s).stored pointer x, alone_store pointer x⟩
  have h := Request.after (body_store pointer x) hstore fun _ => hp
  rwa [List.append_nil] at h

end Bodies

/-! ## Calls -/

/-- A call reports this code: it returns it, or it returns a null pointer and has stored it last, if
there is a pointer to store it through. -/
def ReportsCode (errcode_ret : Bool) (code : Int32) : Ret → List Store → Prop
  | .code err, _ => err = code
  | .handle _ h, xs => h = none ∧ (errcode_ret = true → xs.getLast? = some (.errcode_ret code))

theorem ReportsCode.append {errcode_ret : Bool} {code : Int32} {r : Ret} {xs : List Store}
    (h : ReportsCode errcode_ret code r xs) (ys : List Store) :
    ReportsCode errcode_ret code r (ys ++ xs) := by
  cases r with
  | code err => exact h
  | handle kind handle =>
    refine ⟨h.1, fun herr => ?_⟩
    rw [List.getLast?_append, h.2 herr]
    rfl

/-- A call reports the code of an error, and has stored nothing else but what it had stored
before: it returns the code, or it returns a null pointer and has stored the code, if there is a
pointer to store it through. -/
def ReportsOnly (errcode_ret : Bool) (before : List Store) (code : Int32) : Ret → List Store → Prop
  | .code err, xs => err = code ∧ xs = before
  | .handle _ h, xs => h = none ∧ xs = before ++ if errcode_ret then [.errcode_ret code] else []

theorem ReportsOnly.append {errcode_ret : Bool} {code : Int32} {r : Ret} {xs : List Store}
    (h : ReportsOnly errcode_ret [] code r xs) (ys : List Store) :
    ReportsOnly errcode_ret ys code r (ys ++ xs) := by
  cases r with
  | code err => exact ⟨h.1, by rw [h.2, List.append_nil]⟩
  | handle kind handle => exact ⟨h.1, by rw [h.2, List.nil_append]⟩

/-- What a call reports that has sent a request: `lost` if the connection is lost while it is under
way, wherever that is, unless the process is killed for it; and `error e` if the reply to the
request is an error with the code `e`, where `before` has been stored before. -/
structure Tells (errcode_ret : Bool) (before : List Store) (lost : Int32) (error : Int32 → Int32)
    (p : ClientM Ret) : Prop where
  onLoss : ∀ s received w o faults,
    Prog.Faulty medium noEnv none p s received w () o faults → faults ≠ [] →
      o = .never .killed () ∨ ∃ ret s' left w' xs, o = .done (.ok ret) s' left w' () ∧
        Stored s s' xs ∧ ReportsCode errcode_ret lost ret xs
  onError : ∀ e s rest, ∃ ret s' xs,
    p.alone s (packet (⟨e⟩ : ErrorPacket) ++ rest) = some (.ok ret, s', rest) ∧ Stored s s' xs ∧
      ReportsOnly errcode_ret before (error e) ret xs

section Calls

variable {errcode_ret : Bool} {before : List Store} {lost : Int32} {error : Int32 → Int32}
variable {p : ClientM Ret}

/-- A `try` block around a body.  The handlers only store and return. -/
theorem Request.tryCatch {g : Exn → ClientM Ret} (hp : Request before p) (hg : ∀ x, (g x).Still)
    (hlost : ∀ s u, ∃ ret s' xs, (g .socketError).alone s u = some (.ok ret, s', u) ∧
      Stored s s' xs ∧ ReportsCode errcode_ret lost ret xs)
    (herror : ∀ e s u, ∃ ret s' xs, (g (.errorPacket e)).alone s u = some (.ok ret, s', u) ∧
      Stored s s' xs ∧ ReportsOnly errcode_ret [] (error e) ret xs) :
    Tells errcode_ret before lost error (p.tryCatch g) where
  onLoss := by
    intro s received w o faults hrun hfaults
    rcases Prog.lost_of_tryCatch hp.strict hg hrun hfaults with
      hkilled | ⟨s₁, u₁, w₁, f, a, s₂, hbody, halone, rfl⟩
    · exact Or.inl hkilled
    · obtain ⟨⟨ys, hys, -⟩, -⟩ := hbody.wlp (hp.stores s received)
      obtain ⟨ret, s₂, xs, hhandler, hxs, hreports⟩ := hlost s₁ u₁
      cases halone.symm.trans hhandler
      exact Or.inr ⟨_, _, _, _, ys ++ xs, rfl, hys.trans hxs, hreports.append ys⟩
  onError := by
    intro e s rest
    obtain ⟨s₁, hbefore, hbody⟩ := hp.error e s rest
    obtain ⟨ret, s₂, xs, hg, hxs, hreports⟩ := herror e s₁ rest
    refine ⟨ret, s₂, before ++ xs, ?_, hbefore.trans hxs, hreports.append before⟩
    rw [Prog.alone_tryCatch, hbody, Option.bind_some, Prog.aloneCatch_error, hg]

theorem still_returnError (kind : Kind) (err : Bool) (code : Int32) :
    (returnError kind err code).Still := by
  cases err
  · trivial
  · exact fun _ => trivial

/-- A function that returns a code. -/
theorem Request.catching (hp : Request before p) (badAlloc others : Int32) :
    Tells errcode_ret before others id (catching badAlloc others p) := by
  refine hp.tryCatch (fun x => ?_) (fun s u => ?_) fun e s u => ?_
  · cases x <;> trivial
  · exact ⟨.code others, s, [], rfl, Stored.refl s, rfl⟩
  · exact ⟨.code e, s, [], rfl, Stored.refl s, rfl, rfl⟩

/-- `ReturnError`. -/
theorem reportsCode_returnError (kind : Kind) (errcode_ret : Bool) (code : Int32)
    (s : ClientState) (u : Bytes) :
    ∃ ret s' xs, (returnError kind errcode_ret code).alone s u = some (.ok ret, s', u) ∧
      Stored s s' xs ∧ ReportsCode errcode_ret code ret xs := by
  refine ⟨_, _, _, alone_returnError kind errcode_ret code,
    (Stored.refl s).stored errcode_ret (.errcode_ret code), rfl, ?_⟩
  rintro rfl
  rfl

theorem reportsOnly_returnError (kind : Kind) (errcode_ret : Bool) (code : Int32)
    (s : ClientState) (u : Bytes) :
    ∃ ret s' xs, (returnError kind errcode_ret code).alone s u = some (.ok ret, s', u) ∧
      Stored s s' xs ∧ ReportsOnly errcode_ret [] code ret xs :=
  ⟨_, _, _, alone_returnError kind errcode_ret code,
    (Stored.refl s).stored errcode_ret (.errcode_ret code), rfl, rfl⟩

/-- A function that returns a handle. -/
theorem Request.catchingError (hp : Request before p) (kind : Kind) (errcode_ret : Bool)
    (badAlloc : Int32) :
    Tells errcode_ret before CL_DEVICE_NOT_AVAILABLE id
      (catchingError kind errcode_ret badAlloc p) := by
  refine hp.tryCatch (fun x => ?_) (fun s u => ?_) fun e s u => ?_
  · cases x <;> exact still_returnError _ _ _
  · exact reportsCode_returnError _ _ _ s u
  · exact reportsOnly_returnError _ _ _ s u

/-- Something is stored before. -/
theorem Tells.store (hp : Tells errcode_ret [] lost error p) (pointer : Bool) (x : Store) :
    Tells errcode_ret (if pointer then [x] else []) lost error
      (store pointer x >>= fun _ => p) where
  onLoss := by
    intro s received w o faults hrun hfaults
    have hrest : Prog.Faulty medium noEnv none p (s.stored pointer x) received w () o faults := by
      cases pointer with
      | false => exact hrun
      | true =>
        cases hrun with
        | get hrun => cases hrun with
          | put hrun => exact hrun
    refine (hp.onLoss _ _ _ _ _ hrest hfaults).imp_right ?_
    rintro ⟨ret, s', left, w', xs, hr, hxs, hreports⟩
    exact ⟨ret, s', left, w', _, hr, ((Stored.refl s).stored pointer x).trans hxs,
      hreports.append _⟩
  onError := by
    intro e s rest
    obtain ⟨ret, s', xs, hrun, hxs, hreports⟩ := hp.onError e (s.stored pointer x) rest
    refine ⟨ret, s', _, ?_, ((Stored.refl s).stored pointer x).trans hxs, hreports.append _⟩
    rw [Prog.alone_bind, alone_store, Option.bind_some, Prog.aloneBind_ok, hrun]

/-- A call that is refused has no interactions, and one that overruns its memory at once has none
either; any other one reports. -/
def StillOr (errcode_ret : Bool) (before : List Store) (lost : Int32) (error : Int32 → Int32)
    (p : ClientM Ret) : Prop :=
  p.Still ∨ p = overrun ∨ Tells errcode_ret before lost error p

theorem stillOr_pure (r : Ret) : StillOr errcode_ret before lost error (pure r) := .inl trivial

theorem stillOr_overrun : StillOr errcode_ret before lost error overrun := .inr (.inl rfl)

theorem stillOr_returnError (kind : Kind) (err : Bool) (code : Int32) :
    StillOr errcode_ret before lost error (returnError kind err code) :=
  .inl (still_returnError _ _ _)

theorem stillOr_ite {c : Prop} [Decidable c] {q : ClientM Ret}
    (hp : c → StillOr errcode_ret before lost error p)
    (hq : ¬ c → StillOr errcode_ret before lost error q) :
    StillOr errcode_ret before lost error (if c then p else q) := by
  split
  · exact hp ‹_›
  · exact hq ‹_›

theorem Request.stillOr (hp : Request before p) (badAlloc others : Int32) :
    StillOr errcode_ret before others id (Client.catching badAlloc others p) :=
  .inr (.inr (hp.catching _ _))

theorem Request.stillOrError (hp : Request before p) (kind : Kind) (errcode_ret : Bool)
    (badAlloc : Int32) :
    StillOr errcode_ret before CL_DEVICE_NOT_AVAILABLE id
      (Client.catchingError kind errcode_ret badAlloc p) := .inr (.inr (hp.catchingError _ _ _))

end Calls

namespace Client

/-! ## All functions -/

/-- The pointer for the error code, of a function that returns a handle. -/
def ApiCall.errcode_ret : ApiCall → Bool
  | clCreateContext _ _ err | clCreateContextFromType _ _ _ err | clCreateCommandQueue _ _ _ err
  | clCreateCommandQueueWithProperties _ _ _ err | clCreateProgramWithSource _ _ err
  | clCreateProgramWithBinary _ _ _ _ err | clLinkProgram _ _ _ _ _ _ _ err
  | clCreateKernel _ _ err | clCloneKernel _ err | clCreateBuffer _ _ _ _ err
  | clCreateSubBuffer _ _ _ _ err | clCreateImage _ _ _ _ _ _ err | clCreateUserEvent _ err => err
  | _ => false

/-- What a call reports if it loses the connection.  Some of the functions have the code for success
in their last `catch` clause. -/
def ApiCall.lossCode : ApiCall → Int32
  | clGetPlatformIDs _ _ _ | clGetDeviceIDs _ _ _ _ _ | clRetainProgram _ | clReleaseProgram _
  | clRetainEvent _ | clReleaseEvent _ | clEnqueueNDRangeKernel _ _ _ _ => CL_SUCCESS
  | _ => CL_DEVICE_NOT_AVAILABLE

/-- What a call reports if the server has answered with an error.  The functions that create
contexts have one `catch` clause for everything. -/
def ApiCall.errorCode : ApiCall → Int32 → Int32
  | clCreateContext _ _ _, _ | clCreateContextFromType _ _ _ _, _ => CL_DEVICE_NOT_AVAILABLE
  | _, e => e

/-- Success is reported before it is known. -/
def successFirst (errcode_ret : Bool) : List Store :=
  if errcode_ret then [.errcode_ret CL_SUCCESS] else []

/-- What a call stores that sends a request before it has read the reply.  A count is set to zero,
and the functions that create memory objects report success first. -/
def ApiCall.storesFirst : ApiCall → List Store
  | clGetPlatformIDs _ _ count | clGetDeviceIDs _ _ _ _ count => if count then [.count 0] else []
  | clCreateBuffer _ _ _ _ err | clCreateSubBuffer _ _ _ _ err =>
    successFirst err
  | clCreateImage _ flags _ _ _ _ err =>
    if flags &&& CL_MEM_COPY_HOST_PTR ≠ 0 then [] else successFirst err
  | _ => []

section Functions

variable {errcode_ret : Bool} {before : List Store} {C : Build}

/-! ### What they have in common -/

theorem request_awaitSuccess : Request [] awaitSuccess :=
  (request_read _ fun _ => body_pure _).flush

theorem request_awaitID (how : Resolve) (kind : Kind) : Request [] (awaitID how kind) :=
  (request_read _ fun _ => body_resolve how kind _).flush

/-- A request, and what comes after it. -/
theorem request_query {P : Type} [Packet P] [Wire P] (x : P) {p : ClientM Ret}
    (hp : Request before p) :
    Request before (PacketStream.writePacket x >>= fun _ => PacketStream.flush >>= fun _ => p) :=
  hp.flush.writePacket x

theorem stillOr_changeRefCountOf (ty : PacketType) (kind : ObjTy) (invalid others : Int32)
    (object : Option Handle) :
    StillOr errcode_ret [] others id (changeRefCountOf ty kind invalid others object) := by
  cases object with
  | none => exact stillOr_pure _
  | some object => exact (request_awaitSuccess.writePacket _).stillOr _ _

theorem request_awaitEntries (kind : Kind) (n : ℕ) (entries count : Bool) :
    Request [] (awaitEntries kind n entries count) :=
  (request_read _ fun _ => (body_store _ _).bind fun _ => (body_resolveAll _ _ _).bind fun _ =>
    body_ite (fun _ => body_overrun) fun _ => (body_store _ _).bind fun _ => body_pure _).flush

/-- The functions that list objects: the count is stored first. -/
theorem stillOr_entries {P : Type} [Packet P] [Wire P] (x : P) (kind : Kind) (n : ℕ)
    (entries count : Bool) :
    StillOr errcode_ret (if count then [.count 0] else []) CL_SUCCESS id
      (store count (.count 0) >>= fun _ =>
      catching CL_OUT_OF_HOST_MEMORY CL_SUCCESS (PacketStream.writePacket x >>= fun _ =>
        awaitEntries kind n entries count)) :=
  .inr (.inr ((((request_awaitEntries kind n entries count).writePacket x).catching _ _).store _ _))

theorem body_success : Body (pure (.code CL_SUCCESS) : ClientM Ret) := body_pure _

theorem body_storePayload (args : InfoArgs) (data : Bytes) : Body (storePayload args data) :=
  (body_store _ _).bind fun _ => body_store _ _

theorem body_storePrefix (args : InfoArgs) (data : Bytes) : Body (storePrefix args data) :=
  (body_store _ _).bind fun _ => body_store _ _

theorem body_storeValue (args : InfoArgs) (data : Bytes) : Body (storeValue args data) :=
  (body_store _ _).bind fun _ => body_store _ _

theorem body_storeHandle (args : InfoArgs) (kind : Kind) (h : Lookup) :
    Body (storeHandle args kind h) :=
  (body_store _ _).bind fun _ => body_store _ _

theorem request_awaitPayload (sz : SizeT) (args : InfoArgs) : Request [] (awaitPayload C sz args) :=
  request_read _ fun _ => (body_storePayload _ _).bind fun _ => body_success

theorem request_awaitObject (how : Resolve) (kind : Kind) (args : InfoArgs) :
    Request [] (awaitObject how kind args) :=
  request_read _ fun _ => (body_resolve _ _ _).bind fun _ => (body_storeHandle _ _ _).bind fun _ =>
    body_success

theorem request_awaitValue (T : Type) [Wire T] (args : InfoArgs) :
    Request [] (awaitValue T args) :=
  request_read _ fun _ => (body_storeValue _ _).bind fun _ => body_success

theorem request_awaitSizes (H : Host) (args : InfoArgs) : Request [] (awaitSizes C H args) :=
  request_read _ fun _ => body_ite (fun _ => body_overrun) fun _ => (body_store _ _).bind fun _ =>
    (body_store _ _).bind fun _ => body_success

/-- What the functions have in common that create an object. -/
theorem request_creates {P : Type} [Packet P] [Wire P] (x : P) (how : Resolve) (kind : Kind) :
    Request [] (do
      PacketStream.writePacket x
      let h ← awaitID how kind
      store errcode_ret (.errcode_ret CL_SUCCESS)
      pure (Ret.handle kind (some h))) :=
  Request.writePacket ((request_awaitID how kind).bind fun _ => (body_store _ _).bind fun _ =>
    body_pure _) x

theorem stillOr_awaitContext {P : Type} [Packet P] [Wire P] (x : P) :
    StillOr errcode_ret [] CL_DEVICE_NOT_AVAILABLE (fun _ => CL_DEVICE_NOT_AVAILABLE)
      (awaitContext errcode_ret (PacketStream.writePacket x)) :=
  .inr (.inr ((request_creates x _ _).tryCatch (fun _ => still_returnError _ _ _)
    (reportsCode_returnError _ _ _) fun _ => reportsOnly_returnError _ _ _))

theorem body_writeCommand {P : Type} [Packet P] [Wire P] (x : P) (args : WaitArgs)
    (eventList : List IDType) : Body (writeCommand x args eventList) :=
  (body_writePacket _).bind fun _ =>
    body_ite (fun _ => body_writePacket _) fun _ => body_pure _

/-- A command, and what comes after it. -/
theorem request_command {P : Type} [Packet P] [Wire P] (x : P) (args : WaitArgs)
    (eventList : List IDType) {p : ClientM Ret} (hp : Request before p) :
    Request before (writeCommand x args eventList >>= fun _ => p) :=
  Request.after (body_writeCommand x args eventList)
    (fun s _ => ⟨(), s, Stored.refl s, alone_writeCommand x eventList⟩) fun _ => hp

/-- The event of a command comes before its reply, if one is wanted. -/
theorem request_awaitEvent_bind (args : WaitArgs) {ty : PacketType} {α : Type} {r : Reader α}
    {k : α → ClientM Ret} (hk : ∀ a, Body (k a)) :
    Request [] (awaitEvent args >>= fun _ => PacketStream.read ty r >>= k) := by
  unfold awaitEvent
  split
  · exact (request_read _ fun _ => (body_resolve _ _ _).bind fun _ => body_store _ _).bind fun _ =>
      body_read _ hk
  · exact request_read _ hk

theorem request_awaitCommand (args : WaitArgs) : Request [] (awaitCommand args) :=
  (request_awaitEvent_bind args fun _ => body_success).flush

theorem request_awaitRead (args : WaitArgs) : Request [] (awaitRead C args) :=
  (request_awaitEvent_bind args fun _ => (body_store _ _).bind fun _ => body_success).flush

theorem request_awaitMemObject :
    Request (successFirst errcode_ret) (awaitMemObject errcode_ret) :=
  (request_read _ fun _ => (body_resolve _ _ _).bind fun _ => body_pure _).store _ _

theorem stillOr_withEvents {args : WaitArgs} {p : Handle → Handle → List IDType → ClientM Ret}
    (queue object : Option Handle)
    (hp : ∀ queue object ids, StillOr errcode_ret [] CL_DEVICE_NOT_AVAILABLE id
      (catching CL_OUT_OF_HOST_MEMORY CL_DEVICE_NOT_AVAILABLE (p queue object ids))) :
    StillOr errcode_ret [] CL_DEVICE_NOT_AVAILABLE id (withEvents queue object args p) := by
  rw [withEvents.eq_def]
  split
  · exact stillOr_pure _
  · exact stillOr_pure _
  · split
    · exact stillOr_pure _
    · exact hp _ _ _

/-! ### Platforms, devices, contexts, queues -/

theorem stillOr_clGetPlatformIDs (n : ℕ) (platforms count : Bool) :
    StillOr errcode_ret (if count then [.count 0] else []) CL_SUCCESS id
      (Client.clGetPlatformIDs n platforms count) :=
  stillOr_ite (fun _ => stillOr_pure _) fun _ => stillOr_ite (fun _ => stillOr_pure _) fun _ =>
    stillOr_entries _ _ _ _ _

theorem stillOr_clGetDeviceIDs (platform : Option Handle) (type : UInt64) (n : ℕ)
    (devices count : Bool) :
    StillOr errcode_ret (if count then [.count 0] else []) CL_SUCCESS id
      (Client.clGetDeviceIDs platform type n devices count) :=
  stillOr_ite (fun _ => stillOr_pure _) fun _ => stillOr_ite (fun _ => stillOr_pure _) fun _ =>
    stillOr_entries _ _ _ _ _

theorem stillOr_clGetPlatformInfo (platform : Option Handle) (param : UInt32) (args : InfoArgs) :
    StillOr errcode_ret [] CL_DEVICE_NOT_AVAILABLE id
      (Client.clGetPlatformInfo C platform param args) := by
  cases platform with
  | none => exact stillOr_pure _
  | some platform => exact (request_query _ (request_awaitPayload .uint8 args)).stillOr _ _

theorem stillOr_clGetDeviceInfo (device : Option Handle) (param : UInt32) (args : InfoArgs) :
    StillOr errcode_ret [] CL_DEVICE_NOT_AVAILABLE id
      (Client.clGetDeviceInfo C .wide device param args) := by
  cases device with
  | none => exact stillOr_pure _
  | some device =>
    refine (request_query _ ?_).stillOr _ _
    refine request_ite (fun _ => request_awaitObject _ _ _) fun _ => ?_
    refine request_ite (fun _ => request_awaitObject _ _ _) fun _ => ?_
    refine request_ite (fun _ => request_awaitValue _ _) fun _ => ?_
    exact request_ite (fun _ => request_awaitSizes _ _) fun _ => request_awaitPayload _ _

theorem stillOr_clCreateContext (properties : List Property)
    (devices : Option (List (Option Handle))) :
    StillOr errcode_ret [] CL_DEVICE_NOT_AVAILABLE (fun _ => CL_DEVICE_NOT_AVAILABLE)
      (Client.clCreateContext properties devices errcode_ret) := by
  rw [clCreateContext.eq_def]
  split
  · exact stillOr_returnError _ _ _
  · exact stillOr_returnError _ _ _
  · split
    · exact stillOr_returnError _ _ _
    · exact stillOr_awaitContext _

theorem stillOr_clCreateContextFromType (properties : List Property) (type : UInt64)
    (callback : Bool) :
    StillOr errcode_ret [] CL_DEVICE_NOT_AVAILABLE (fun _ => CL_DEVICE_NOT_AVAILABLE)
      (Client.clCreateContextFromType properties type callback errcode_ret) :=
  stillOr_ite (fun _ => stillOr_returnError _ _ _) fun _ => stillOr_awaitContext _

theorem stillOr_clGetContextInfo (context : Option Handle) (param : UInt32) (args : InfoArgs) :
    StillOr errcode_ret [] CL_DEVICE_NOT_AVAILABLE id
      (Client.clGetContextInfo C context param args) := by
  cases context with
  | none => exact stillOr_pure _
  | some context =>
    refine (request_query _ (request_read _ fun payload => ?_)).stillOr _ _
    refine body_ite (fun _ => ?_) fun _ => (body_storePrefix _ _).bind fun _ => body_success
    refine (body_store _ _).bind fun _ => body_ite (fun _ => ?_) fun _ => body_success
    exact (body_resolveAll _ _ _).bind fun _ => (body_store _ _).bind fun _ => body_success

theorem stillOr_clGetSupportedImageFormats (context : Option Handle) (flags : UInt64)
    (type : UInt32) (n : ℕ) (formats count : Bool) :
    StillOr errcode_ret [] CL_DEVICE_NOT_AVAILABLE id
      (Client.clGetSupportedImageFormats C context flags type n formats count) := by
  cases context with
  | none => exact stillOr_pure _
  | some context =>
    refine (request_query _ (request_read _ fun payload => ?_)).stillOr _ _
    exact (body_store _ _).bind fun _ => (body_store _ _).bind fun _ => body_success

theorem stillOr_clCreateCommandQueue (context device : Option Handle) (properties : UInt64) :
    StillOr errcode_ret [] CL_DEVICE_NOT_AVAILABLE id
      (Client.clCreateCommandQueue context device properties errcode_ret) := by
  rw [clCreateCommandQueue.eq_def]
  split
  · exact stillOr_returnError _ _ _
  · exact stillOr_returnError _ _ _
  · exact (request_creates _ _ _).stillOrError _ _ _

theorem stillOr_clCreateCommandQueueWithProperties (context device : Option Handle)
    (properties : List (UInt64 × UInt64)) :
    StillOr errcode_ret [] CL_DEVICE_NOT_AVAILABLE id
      (Client.clCreateCommandQueueWithProperties context device properties errcode_ret) := by
  rw [clCreateCommandQueueWithProperties.eq_def]
  split
  · exact stillOr_returnError _ _ _
  · exact stillOr_returnError _ _ _
  · exact (request_creates _ _ _).stillOrError _ _ _

theorem stillOr_clGetCommandQueueInfo (queue : Option Handle) (param : UInt32) (args : InfoArgs) :
    StillOr errcode_ret [] CL_DEVICE_NOT_AVAILABLE id
      (Client.clGetCommandQueueInfo C queue param args) := by
  cases queue with
  | none => exact stillOr_pure _
  | some queue =>
    refine (request_query _ (request_ite (fun _ => ?_) fun _ => ?_)).stillOr _ _
    · exact request_awaitObject _ _ _
    · exact request_ite (fun _ => request_awaitObject _ _ _) fun _ => request_awaitPayload _ _

theorem stillOr_queueCommand (ty : PacketType) (queue : Option Handle) :
    StillOr errcode_ret [] CL_DEVICE_NOT_AVAILABLE id (queueCommand ty queue) := by
  cases queue with
  | none => exact stillOr_pure _
  | some queue => exact (request_awaitSuccess.writePacket _).stillOr _ _

/-! ### Programs -/

theorem stillOr_clCreateProgramWithSource (context : Option Handle)
    (strings : Option (List (Option Bytes × ℕ))) :
    StillOr errcode_ret [] CL_DEVICE_NOT_AVAILABLE id
      (Client.clCreateProgramWithSource context strings errcode_ret) := by
  rw [clCreateProgramWithSource.eq_def]
  split
  · exact stillOr_returnError _ _ _
  · exact stillOr_returnError _ _ _
  · exact stillOr_returnError _ _ _
  · split
    · exact stillOr_returnError _ _ _
    · exact (request_creates _ _ _).stillOrError _ _ _

theorem body_writeBinaries (binaries : List Bytes) : Body (Client.writeBinaries C binaries) := by
  induction binaries with
  | nil => exact body_pure _
  | cons binary binaries ih => exact (body_write _ _).bind fun _ => ih

theorem alone_writeBinaries (binaries : List Bytes) (s : ClientState) (u : Bytes) :
    (Client.writeBinaries C binaries).alone s u = some (.ok (), s, u) := by
  induction binaries with
  | nil => rfl
  | cons binary binaries ih =>
    rw [Client.writeBinaries, Prog.alone_bind, alone_write, Option.bind_some, Prog.aloneBind_ok, ih]

theorem stillOr_clCreateProgramWithBinary (context : Option Handle)
    (devices : Option (List (Option Handle))) (binaries : Option (List Bytes)) (status : Bool) :
    StillOr errcode_ret [] CL_DEVICE_NOT_AVAILABLE id
      (Client.clCreateProgramWithBinary C context devices binaries status errcode_ret) := by
  rw [clCreateProgramWithBinary.eq_def]
  split
  · exact stillOr_returnError _ _ _
  · exact stillOr_returnError _ _ _
  · exact stillOr_returnError _ _ _
  · exact stillOr_returnError _ _ _
  · split
    · exact stillOr_returnError _ _ _
    · refine Request.stillOrError (Request.writePacket (Request.writePacket ?_ _) _) _ _ _
      refine Request.after (body_writeBinaries _)
        (fun s u => ⟨(), s, Stored.refl s, alone_writeBinaries _ s u⟩) fun _ => ?_
      refine (request_awaitID _ _).bind fun P => ?_
      have hend : Body (store errcode_ret (.errcode_ret CL_SUCCESS) >>= fun _ =>
          pure (Ret.handle .program (some P))) := (body_store _ _).bind fun _ => body_pure _
      refine body_ite (fun _ => body_read _ fun data => ?_) fun _ => body_read _ fun _ => hend
      exact (body_store _ _).bind fun _ => hend

theorem stillOr_clCompileProgram (program : Option Handle) (n : ℕ)
    (devices : Option (List (Option Handle))) (options : Option Bytes) (m : ℕ)
    (headers : Option (List (Option Handle))) (names : Option (List (Option Bytes)))
    (notify : Notify) :
    StillOr errcode_ret [] CL_DEVICE_NOT_AVAILABLE id
      (Client.clCompileProgram program n devices options m headers names notify) := by
  cases program with
  | none => exact stillOr_pure _
  | some program =>
    refine stillOr_ite (fun _ => stillOr_pure _) fun _ => ?_
    refine stillOr_ite (fun _ => stillOr_pure _) fun _ => ?_
    refine stillOr_ite (fun _ => stillOr_pure _) fun _ => ?_
    refine stillOr_ite (fun _ => stillOr_pure _) fun _ => ?_
    split
    · exact stillOr_pure _
    refine stillOr_ite (fun _ => ?_) fun _ => Request.stillOr ?_ _ _
    · exact stillOr_ite (fun _ => stillOr_pure _) fun _ => stillOr_overrun
    refine request_getState_bind fun s => ?_
    -- the callback may be registered first
    refine request_ite (fun _ => ?_) fun _ => ?_
    · refine Request.after (body_registerCallback _) (readsNothing_registerCallback _) fun id => ?_
      refine request_query _ (request_read _ fun _ => ?_)
      exact (body_store _ _).bind fun _ => body_success
    · refine request_query _ (request_read _ fun _ => ?_)
      exact (body_store _ _).bind fun _ => body_success

theorem stillOr_clLinkProgram (context : Option Handle) (n : ℕ)
    (devices : Option (List (Option Handle))) (options : Option Bytes) (m : ℕ)
    (programs : Option (List (Option Handle))) (notify : Notify) :
    StillOr errcode_ret [] CL_DEVICE_NOT_AVAILABLE id
      (Client.clLinkProgram context n devices options m programs notify errcode_ret) := by
  cases context with
  | none => exact stillOr_returnError _ _ _
  | some context =>
    refine stillOr_ite (fun _ => stillOr_returnError _ _ _) fun _ => ?_
    split
    · exact stillOr_returnError _ _ _
    · exact stillOr_returnError _ _ _
    · refine Request.stillOrError (Request.writePacket ?_ _) _ _ _
      exact (request_awaitID _ _).bind fun P => (body_store _ _).bind fun _ => body_pure _

theorem stillOr_clBuildProgram (program : Option Handle) (n : ℕ)
    (devices : Option (List (Option Handle))) (options : Option Bytes) (notify : Notify) :
    StillOr errcode_ret [] CL_DEVICE_NOT_AVAILABLE id
      (Client.clBuildProgram program n devices options notify) := by
  cases program with
  | none => exact stillOr_pure _
  | some program =>
    refine stillOr_ite (fun _ => stillOr_pure _) fun _ => ?_
    split
    · exact stillOr_pure _
    · exact ((request_awaitSuccess.writePacket _).writePacket _).stillOr _ _

theorem stillOr_clGetProgramBuildInfo (program device : Option Handle) (param : UInt32)
    (args : InfoArgs) :
    StillOr errcode_ret [] CL_DEVICE_NOT_AVAILABLE id
      (Client.clGetProgramBuildInfo C program device param args) := by
  rw [clGetProgramBuildInfo.eq_def]
  split
  · exact stillOr_pure _
  · exact stillOr_pure _
  · refine (request_query _ (request_read _ fun payload => ?_)).stillOr _ _
    exact (body_storePrefix _ _).bind fun _ => body_success

theorem body_readBinaries (n : ℕ) : Body (Client.readBinaries C n) := by
  induction n with
  | zero => exact body_pure _
  | succ n ih => exact body_read _ fun _ => ih.bind fun _ => body_pure _

theorem stillOr_clGetProgramInfo (program : Option Handle) (param : UInt32) (args : InfoArgs) :
    StillOr errcode_ret [] CL_DEVICE_NOT_AVAILABLE id
      (Client.clGetProgramInfo C program param args) := by
  cases program with
  | none => exact stillOr_pure _
  | some program =>
    refine (request_query _ ?_).stillOr _ _
    refine request_ite (fun _ => request_read _ fun id => ?_) fun _ =>
      request_ite (fun _ => request_read _ fun list => ?_) fun _ =>
        request_ite (fun _ => request_read _ fun count => ?_) fun _ =>
          request_read _ fun payload => ?_
    · exact (body_resolve _ _ _).bind fun _ => (body_store _ _).bind fun _ =>
        (body_store _ _).bind fun _ => body_success
    · refine (body_store _ _).bind fun _ => body_ite (fun _ => ?_) fun _ => body_success
      exact (body_resolveAll _ _ _).bind fun _ => (body_store _ _).bind fun _ => body_success
    · exact (body_readBinaries _).bind fun _ => (body_store _ _).bind fun _ =>
        (body_store _ _).bind fun _ => body_success
    · exact (body_storePrefix _ _).bind fun _ => body_success

/-! ### Kernels -/

theorem stillOr_clCreateKernel (program : Option Handle) (name : Option Bytes) :
    StillOr errcode_ret [] CL_DEVICE_NOT_AVAILABLE id
      (Client.clCreateKernel program name errcode_ret) := by
  rw [clCreateKernel.eq_def]
  split
  · exact stillOr_returnError _ _ _
  · exact stillOr_returnError _ _ _
  · refine (request_query _ (request_read _ fun id => ?_)).stillOrError _ _ _
    exact (body_store _ _).bind fun _ => (body_resolve _ _ _).bind fun _ => body_pure _

theorem stillOr_clCloneKernel (kernel : Option Handle) :
    StillOr errcode_ret [] CL_DEVICE_NOT_AVAILABLE id
      (Client.clCloneKernel kernel errcode_ret) := by
  cases kernel with
  | none => exact stillOr_returnError _ _ _
  | some kernel =>
    refine (request_query _ (request_read _ fun id => ?_)).stillOrError _ _ _
    exact (body_store _ _).bind fun _ => (body_resolve _ _ _).bind fun _ => body_pure _

theorem body_storeKernels (count : Bool) (ids : List IDType) : Body (storeKernels count ids) := by
  induction ids with
  | nil => exact body_pure _
  | cons id ids ih =>
    exact (body_resolve _ _ _).bind fun _ => (body_store _ _).bind fun _ =>
      (body_store _ _).bind fun _ => ih

theorem stillOr_clCreateKernelsInProgram (program : Option Handle) (n : UInt32)
    (kernels count : Bool) :
    StillOr errcode_ret [] CL_DEVICE_NOT_AVAILABLE id
      (Client.clCreateKernelsInProgram program n kernels count) := by
  cases program with
  | none => exact stillOr_pure _
  | some program =>
    refine stillOr_ite (fun _ => stillOr_pure _) fun _ => ?_
    refine stillOr_ite (fun _ => stillOr_pure _) fun _ => ?_
    refine (request_query _ (request_ite (fun _ => ?_) fun _ => ?_)).stillOr _ _
    · exact request_read _ fun _ => (body_store _ _).bind fun _ => body_success
    · exact request_read _ fun _ => (body_storeKernels _ _).bind fun _ => body_success

theorem stillOr_clGetKernelWorkGroupInfo (kernel device : Option Handle) (param : UInt32)
    (args : InfoArgs) :
    StillOr errcode_ret [] CL_DEVICE_NOT_AVAILABLE id
      (Client.clGetKernelWorkGroupInfo C .wide kernel device param args) := by
  rw [clGetKernelWorkGroupInfo.eq_def]
  split
  · exact stillOr_pure _
  · exact stillOr_pure _
  · refine (request_query _ ?_).stillOr _ _
    refine request_ite (fun _ => request_awaitSizes _ _) fun _ => ?_
    refine request_ite (fun _ => request_read _ fun _ => ?_) fun _ => request_awaitPayload _ _
    exact (body_storeValue _ _).bind fun _ => body_success

theorem stillOr_clGetKernelInfo (kernel : Option Handle) (param : UInt32) (args : InfoArgs) :
    StillOr errcode_ret [] CL_DEVICE_NOT_AVAILABLE id
      (Client.clGetKernelInfo C kernel param args) := by
  cases kernel with
  | none => exact stillOr_pure _
  | some kernel =>
    refine (request_query _ ?_).stillOr _ _
    refine request_ite (fun _ => request_awaitObject _ _ _) fun _ => ?_
    refine request_ite (fun _ => request_awaitObject _ _ _) fun _ => ?_
    exact request_ite (fun _ => request_awaitValue _ _) fun _ => request_awaitPayload _ _

theorem stillOr_clGetKernelArgInfo (kernel : Option Handle) (index param : UInt32)
    (args : InfoArgs) :
    StillOr errcode_ret [] CL_DEVICE_NOT_AVAILABLE id
      (Client.clGetKernelArgInfo C kernel index param args) := by
  cases kernel with
  | none => exact stillOr_pure _
  | some kernel =>
    refine (request_query _ ?_).stillOr _ _
    refine request_ite (fun _ => request_awaitValue _ _) fun _ => ?_
    refine request_ite (fun _ => request_read _ fun _ => ?_) fun _ => request_awaitPayload _ _
    exact (body_storeValue _ _).bind fun _ => body_success

theorem stillOr_clEnqueueNDRangeKernel (queue kernel : Option Handle) (r : NDRange)
    (args : WaitArgs) :
    StillOr errcode_ret [] CL_SUCCESS id (Client.clEnqueueNDRangeKernel queue kernel r args) := by
  rw [clEnqueueNDRangeKernel.eq_def]
  split
  · exact stillOr_pure _
  · exact stillOr_pure _
  · refine stillOr_ite (fun _ => stillOr_pure _) fun _ => ?_
    refine stillOr_ite (fun _ => stillOr_pure _) fun _ => ?_
    split
    · exact stillOr_pure _
    · exact (request_command _ _ _ (request_awaitCommand args)).stillOr _ _

/-! ### Memory objects -/

theorem stillOr_clCreateBuffer (context : Option Handle) (flags size : UInt64)
    (ptr : Option Bytes) :
    StillOr errcode_ret (successFirst errcode_ret) CL_DEVICE_NOT_AVAILABLE id
      (Client.clCreateBuffer C context flags size ptr errcode_ret) := by
  cases context with
  | none => exact stillOr_returnError _ _ _
  | some context =>
    refine stillOr_ite (fun _ => stillOr_returnError _ _ _) fun _ => ?_
    refine Request.stillOrError (Request.writePacket ?_ _) _ _ _
    cases ptr with
    | none => exact request_awaitMemObject.flush
    | some ptr => exact request_awaitMemObject.flush.write _ _

theorem stillOr_clCreateSubBuffer (buffer : Option Handle) (flags : UInt64) (type : UInt32)
    (info : Option (UInt64 × UInt64)) :
    StillOr errcode_ret (successFirst errcode_ret) CL_DEVICE_NOT_AVAILABLE id
      (Client.clCreateSubBuffer buffer flags type info errcode_ret) := by
  rw [clCreateSubBuffer.eq_def]
  split
  · exact stillOr_returnError _ _ _
  · exact stillOr_returnError _ _ _
  · exact (request_query _ request_awaitMemObject).stillOrError _ _ _

theorem stillOr_clCreateImage (context : Option Handle) (flags : UInt64) (format desc : Bool)
    (d : ImageDesc) (ptr : Option Bytes) :
    StillOr errcode_ret
      (ApiCall.clCreateImage context flags format desc d ptr errcode_ret).storesFirst
      CL_DEVICE_NOT_AVAILABLE id
      (Client.clCreateImage C context flags format desc d ptr errcode_ret) := by
  cases context with
  | none => exact stillOr_returnError _ _ _
  | some context =>
    refine stillOr_ite (fun _ => stillOr_returnError _ _ _) fun _ => ?_
    refine stillOr_ite (fun _ => stillOr_returnError _ _ _) fun _ => ?_
    refine stillOr_ite (fun _ => stillOr_returnError _ _ _) fun _ => ?_
    refine stillOr_ite (fun _ => stillOr_returnError _ _ _) fun _ => ?_
    refine (request_query _ ?_).stillOrError _ _ _
    rw [ApiCall.storesFirst]
    by_cases hcopy : flags &&& CL_MEM_COPY_HOST_PTR ≠ 0
    · rw [if_pos hcopy, if_pos hcopy]
      exact request_read _ fun _ => (body_write _ _).bind fun _ => body_flush.bind fun _ =>
        request_awaitMemObject.toBody
    · rw [if_neg hcopy, if_neg hcopy]
      exact request_awaitMemObject

theorem stillOr_clGetMemObjectInfo (memobj : Option Handle) (param : UInt32) (args : InfoArgs) :
    StillOr errcode_ret [] CL_DEVICE_NOT_AVAILABLE id
      (Client.clGetMemObjectInfo C memobj param args) := by
  cases memobj with
  | none => exact stillOr_pure _
  | some memobj =>
    refine (request_query _ (request_ite (fun _ => ?_) fun _ => ?_)).stillOr _ _
    · exact request_awaitObject _ _ _
    · exact request_ite (fun _ => request_awaitObject _ _ _) fun _ => request_awaitPayload _ _

theorem stillOr_clGetImageInfo (image : Option Handle) (param : UInt32) (args : InfoArgs) :
    StillOr errcode_ret [] CL_DEVICE_NOT_AVAILABLE id
      (Client.clGetImageInfo C image param args) := by
  cases image with
  | none => exact stillOr_pure _
  | some image =>
    refine (request_query _ ?_).stillOr _ _
    refine request_ite (fun _ => ?_) fun _ => request_awaitPayload _ _
    refine request_read _ fun result => body_ite (fun _ => ?_) fun _ => ?_
    · exact (body_resolve _ _ _).bind fun _ => (body_storeHandle _ _ _).bind fun _ => body_success
    · exact (body_storeValue _ _).bind fun _ => body_success

theorem stillOr_clEnqueueFillBuffer (queue buffer : Option Handle) (pattern : Bytes)
    (n offset size : UInt64) (args : WaitArgs) :
    StillOr errcode_ret [] CL_DEVICE_NOT_AVAILABLE id
      (Client.clEnqueueFillBuffer queue buffer pattern n offset size args) := by
  refine stillOr_withEvents _ _ fun queue buffer ids => ?_
  split
  · exact .inl trivial
  · exact (request_command _ _ _ (request_awaitCommand args)).stillOr _ _

theorem stillOr_clEnqueueReadBuffer (queue buffer : Option Handle) (blocking : Bool)
    (offset size : UInt64) (args : WaitArgs) :
    StillOr errcode_ret [] CL_DEVICE_NOT_AVAILABLE id
      (Client.clEnqueueReadBuffer C queue buffer blocking offset size args) :=
  stillOr_withEvents _ _ fun _ _ _ =>
    (request_command _ _ _ (request_awaitRead args)).stillOr _ _

theorem stillOr_clEnqueueReadBufferRect (queue buffer : Option Handle) (blocking : Bool)
    (rect : RectArgs) (args : WaitArgs) :
    StillOr errcode_ret [] CL_DEVICE_NOT_AVAILABLE id
      (Client.clEnqueueReadBufferRect C queue buffer blocking rect args) :=
  stillOr_withEvents _ _ fun _ _ _ =>
    (request_command _ _ _ (request_awaitRead args)).stillOr _ _

theorem stillOr_clEnqueueWriteBuffer (queue buffer : Option Handle) (blocking : Bool)
    (offset size : UInt64) (ptr : Bytes) (args : WaitArgs) :
    StillOr errcode_ret [] CL_DEVICE_NOT_AVAILABLE id
      (Client.clEnqueueWriteBuffer C queue buffer blocking offset size ptr args) :=
  stillOr_withEvents _ _ fun _ _ _ =>
    (request_command _ _ _ ((request_awaitCommand args).write _ _)).stillOr _ _

/-! ### Events -/

theorem stillOr_clCreateUserEvent (context : Option Handle) :
    StillOr errcode_ret [] CL_DEVICE_NOT_AVAILABLE id
      (Client.clCreateUserEvent context errcode_ret) := by
  cases context with
  | none => exact stillOr_returnError _ _ _
  | some context => exact (request_creates _ _ _).stillOrError _ _ _

theorem stillOr_clSetUserEventStatus (event : Option Handle) (status : UInt32) :
    StillOr errcode_ret [] CL_DEVICE_NOT_AVAILABLE id
      (Client.clSetUserEventStatus event status) := by
  cases event with
  | none => exact stillOr_pure _
  | some event => exact (request_awaitSuccess.writePacket _).stillOr _ _

theorem stillOr_clGetEventInfo (event : Option Handle) (param : UInt32) (args : InfoArgs) :
    StillOr errcode_ret [] CL_DEVICE_NOT_AVAILABLE id (Client.clGetEventInfo event param args) := by
  cases event with
  | none => exact stillOr_pure _
  | some event =>
    refine (request_query _ ?_).stillOr _ _
    refine request_ite (fun _ => request_read _ fun id => ?_) fun _ =>
      request_ite (fun _ => request_read _ fun id => ?_) fun _ => request_read _ fun payload => ?_
    · refine (body_store _ _).bind fun _ => body_ite (fun _ => ?_) fun _ => body_success
      exact (body_resolve _ _ _).bind fun _ => (body_store _ _).bind fun _ => body_success
    · refine (body_store _ _).bind fun _ => body_ite (fun _ => ?_) fun _ => body_success
      exact (body_resolve _ _ _).bind fun _ => (body_store _ _).bind fun _ => body_success
    · exact (body_store _ _).bind fun _ => (body_store _ _).bind fun _ => body_success

theorem stillOr_clGetEventProfilingInfo (event : Option Handle) (param : UInt32)
    (args : InfoArgs) :
    StillOr errcode_ret [] CL_DEVICE_NOT_AVAILABLE id
      (Client.clGetEventProfilingInfo event param args) := by
  cases event with
  | none => exact stillOr_pure _
  | some event =>
    refine (request_query _ (request_read _ fun payload => ?_)).stillOr _ _
    exact (body_store _ _).bind fun _ => (body_store _ _).bind fun _ => body_success

theorem stillOr_clWaitForEvents (n : ℕ) (events : Option (List (Option Handle))) :
    StillOr errcode_ret [] CL_DEVICE_NOT_AVAILABLE id (Client.clWaitForEvents n events) := by
  refine stillOr_ite (fun _ => stillOr_pure _) fun _ => ?_
  split
  · exact stillOr_pure _
  · split
    · exact stillOr_pure _
    · exact ((request_awaitSuccess.writePacket _).writePacket _).stillOr _ _

/-! ### All of them -/

theorem ApiCall.stillOr (c : ApiCall) :
    StillOr c.errcode_ret c.storesFirst c.lossCode c.errorCode (c.call C) := by
  cases c with
  | clGetPlatformIDs => exact stillOr_clGetPlatformIDs _ _ _
  | clGetPlatformInfo => exact stillOr_clGetPlatformInfo _ _ _
  | clGetDeviceIDs => exact stillOr_clGetDeviceIDs _ _ _ _ _
  | clGetDeviceInfo => exact stillOr_clGetDeviceInfo _ _ _
  | clRetainDevice device => exact stillOr_changeRefCountOf .retain .device 0 _ (some device)
  | clReleaseDevice device => exact stillOr_changeRefCountOf .release .device 0 _ (some device)
  | clCreateContext => exact stillOr_clCreateContext _ _
  | clCreateContextFromType => exact stillOr_clCreateContextFromType _ _ _
  | clGetContextInfo => exact stillOr_clGetContextInfo _ _ _
  | clGetSupportedImageFormats => exact stillOr_clGetSupportedImageFormats _ _ _ _ _ _
  | clRetainContext => exact stillOr_changeRefCountOf _ _ _ _ _
  | clReleaseContext => exact stillOr_changeRefCountOf _ _ _ _ _
  | clCreateCommandQueue => exact stillOr_clCreateCommandQueue _ _ _
  | clCreateCommandQueueWithProperties => exact stillOr_clCreateCommandQueueWithProperties _ _ _
  | clGetCommandQueueInfo => exact stillOr_clGetCommandQueueInfo _ _ _
  | clRetainCommandQueue => exact stillOr_changeRefCountOf _ _ _ _ _
  | clReleaseCommandQueue => exact stillOr_changeRefCountOf _ _ _ _ _
  | clFlush => exact stillOr_queueCommand _ _
  | clFinish => exact stillOr_queueCommand _ _
  | clCreateProgramWithSource => exact stillOr_clCreateProgramWithSource _ _
  | clCreateProgramWithBinary => exact stillOr_clCreateProgramWithBinary _ _ _ _
  | clCompileProgram => exact stillOr_clCompileProgram _ _ _ _ _ _ _ _
  | clLinkProgram => exact stillOr_clLinkProgram _ _ _ _ _ _ _
  | clBuildProgram => exact stillOr_clBuildProgram _ _ _ _ _
  | clGetProgramBuildInfo => exact stillOr_clGetProgramBuildInfo _ _ _ _
  | clGetProgramInfo => exact stillOr_clGetProgramInfo _ _ _
  | clRetainProgram => exact stillOr_changeRefCountOf _ _ _ _ _
  | clReleaseProgram => exact stillOr_changeRefCountOf _ _ _ _ _
  | clCreateKernel => exact stillOr_clCreateKernel _ _
  | clCreateKernelsInProgram => exact stillOr_clCreateKernelsInProgram _ _ _ _
  | clCloneKernel => exact stillOr_clCloneKernel _
  | clGetKernelWorkGroupInfo => exact stillOr_clGetKernelWorkGroupInfo _ _ _ _
  | clGetKernelInfo => exact stillOr_clGetKernelInfo _ _ _
  | clGetKernelArgInfo => exact stillOr_clGetKernelArgInfo _ _ _ _
  | clRetainKernel => exact stillOr_changeRefCountOf _ _ _ _ _
  | clReleaseKernel => exact stillOr_changeRefCountOf _ _ _ _ _
  | clEnqueueNDRangeKernel => exact stillOr_clEnqueueNDRangeKernel _ _ _ _
  | clCreateBuffer => exact stillOr_clCreateBuffer _ _ _ _
  | clCreateSubBuffer => exact stillOr_clCreateSubBuffer _ _ _ _
  | clCreateImage => exact stillOr_clCreateImage _ _ _ _ _ _
  | clGetMemObjectInfo => exact stillOr_clGetMemObjectInfo _ _ _
  | clGetImageInfo => exact stillOr_clGetImageInfo _ _ _
  | clRetainMemObject => exact stillOr_changeRefCountOf _ _ _ _ _
  | clReleaseMemObject => exact stillOr_changeRefCountOf _ _ _ _ _
  | clEnqueueFillBuffer => exact stillOr_clEnqueueFillBuffer _ _ _ _ _ _ _
  | clEnqueueReadBuffer => exact stillOr_clEnqueueReadBuffer _ _ _ _ _ _
  | clEnqueueReadBufferRect => exact stillOr_clEnqueueReadBufferRect _ _ _ _ _
  | clEnqueueWriteBuffer => exact stillOr_clEnqueueWriteBuffer _ _ _ _ _ _ _
  | clCreateUserEvent => exact stillOr_clCreateUserEvent _
  | clSetUserEventStatus => exact stillOr_clSetUserEventStatus _ _
  | clGetEventInfo => exact stillOr_clGetEventInfo _ _ _
  | clGetEventProfilingInfo => exact stillOr_clGetEventProfilingInfo _ _ _
  | clWaitForEvents => exact stillOr_clWaitForEvents _ _
  | clRetainEvent => exact stillOr_changeRefCountOf _ _ _ _ _
  | clReleaseEvent => exact stillOr_changeRefCountOf _ _ _ _ _

/-- Nothing has been received, and nothing will be. -/
theorem faulty_closed {α β γ : Type} {K : ClientM β → ClientM γ} (hK : Prog.Context K)
    {ty : PacketType} {r : Reader α} {k : α → ClientM β} {s : ClientState} {w : ℕ}
    {o : Stop ClientState Exn γ Unit} {fs : List (Fault Exn)}
    (h : Prog.Faulty medium noEnv (some .socketError) (K (Prog.throw .socketError)) s [] w () o
      fs) :
    Prog.Faulty medium noEnv none (K (PacketStream.read ty r >>= k)) s [] w () o
      (.receive :: fs) := by
  rw [PacketStream.read_bind]
  exact Prog.Faulty.ends hK rfl h

/-- **Lost connections**: wherever a call loses the connection, and whatever has arrived until then,
the process is killed by the signal of a send, or the call comes to an end, and reports the loss, or
success if it is one of those that do. -/
theorem ApiCall.reports_loss (c : ApiCall) {s : ClientState} {received : Bytes} {w : ℕ}
    {o : Stop ClientState Exn Ret Unit} {faults : List (Fault Exn)}
    (h : Prog.Faulty medium noEnv none (c.call C) s received w () o faults)
    (hfaults : faults ≠ []) :
    o = .never .killed () ∨ ∃ ret s' left w' xs, o = .done (.ok ret) s' left w' () ∧
      Stored s s' xs ∧ ReportsCode c.errcode_ret c.lossCode ret xs := by
  rcases c.stillOr (C := C) with hstill | hoverrun | htells
  · exact absurd (hstill.faulty h).1 hfaults
  · rw [hoverrun] at h
    cases h
    exact absurd rfl hfaults
  · exact htells.onLoss _ _ _ _ _ h hfaults

/-- The release of a program on a connection that the server has closed. -/
theorem release_on_closed_connection :
    ∃ xs, Stored ⟨[], 0, [], false, []⟩ ⟨[], 0, [], false, []⟩ xs ∧
      ReportsCode false CL_SUCCESS (.code CL_SUCCESS) xs := by
  have hrun : Prog.Faulty medium noEnv none
      ((ApiCall.clReleaseProgram (some ⟨0, 7, .program⟩)).call plainBuild) ⟨[], 0, [], false, []⟩ []
      0 () (.done (.ok (.code CL_SUCCESS)) ⟨[], 0, [], false, []⟩ [] 0 ()) [.receive] :=
    .write (by decide) (.flush (faulty_closed (Prog.Context.tryCatch _) .ret))
  rcases ApiCall.reports_loss _ hrun (List.cons_ne_nil _ _) with
    hkilled | ⟨ret, s', left, w', xs, hstop, hxs, hreports⟩
  · cases hkilled
  · cases hstop
    exact ⟨xs, hxs, hreports⟩

/-- **Errors**: a call that is not refused, and does not overrun its memory at once, sends a
request.  If the server answers it with an error, the call reports its code, unless it creates a
context, and it stores nothing else but what it had stored before, and reads nothing but the
error. -/
theorem ApiCall.reports_error_packet (c : ApiCall) :
    (c.call C).Still ∨ c.call C = overrun ∨ ∀ e s rest, ∃ ret s' xs,
      (c.call C).alone s (packet (⟨e⟩ : ErrorPacket) ++ rest) = some (.ok ret, s', rest) ∧
        Stored s s' xs ∧ ReportsOnly c.errcode_ret c.storesFirst (c.errorCode e) ret xs :=
  c.stillOr.imp_right (Or.imp_right Tells.onError)

end Functions

end Client

end RemoteCL

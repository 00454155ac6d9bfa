import RemoteCL.Session.Effect
import RemoteCL.Session.ProgramFetches

/-!
# Values of queries

Most queries are answered with bytes that nobody looks into.  The handler asks the driver for their
number, makes room for as many, asks again, and sends a payload; the function tells the application
how many bytes it has got, and copies them if there is room.

Every pair of handler and function has a size field of its own choice.  It has eight bits for
platforms, contexts, queues, memory objects and images, and 32 for devices and kernels.  The
handlers narrow the number of bytes to it without a look.  `raw_value_delivered_iff` says what
follows: a value that is too long for its size field arrives shortened, and is passed for the whole
one.
-/

namespace RemoteCL

open ByteStream Conversation Wire LawfulWire Client

/-! ## What a query has stored -/

/-- What has happened since. -/
def eventsSince (s s' : ClientState) : List ClientEvent := s'.trace.drop s.trace.length

/-- The sizes that the application has been told. -/
def sizesReported (s s' : ClientState) : List ℕ :=
  (eventsSince s s').filterMap fun
    | .store (.param_value_size_ret n) => some n
    | _ => none

/-- The bytes that have been copied to the application. -/
def valuesCopied (s s' : ClientState) : List Bytes :=
  (eventsSince s s').filterMap fun
    | .store (.param_value data) => some data
    | _ => none

theorem Extends.eventsSince {s s' : ClientState} {new : List ClientEvent} (h : Extends s s' new) :
    eventsSince s s' = new := by
  rw [RemoteCL.eventsSince, h, List.drop_left]

/-- The handles that have been copied to the application. -/
def handlesCopied (s s' : ClientState) : List (Kind × Lookup) :=
  (eventsSince s s').flatMap ClientEvent.handles

/-- The query has failed, or it has succeeded and left the application's memory as `P` says. -/
def ErrorOr (P : ClientState → Prop) (r : Ret) (s' : ClientState) : Prop :=
  (∃ err, err ≠ CL_SUCCESS ∧ r = .code err) ∨ r = .code CL_SUCCESS ∧ P s'

/-- The application has got a value: its size, and its bytes if there is room for them.  Nothing
else has been copied than what the value starts with. -/
structure Complete (args : InfoArgs) (v : Bytes) (s s' : ClientState) : Prop where
  size : sizesReported s s' = if args.param_value_size_ret then [v.length] else []
  value : args.param_value = true → v.length ≤ args.param_value_size → valuesCopied s s' = [v]
  start : ∀ data ∈ valuesCopied s s', data = v.take args.param_value_size

namespace Client

/-- A payload is passed on if there is room for it, or, where it is cut, as far as there is. -/
def storeAnswer (cuts : Bool) (args : InfoArgs) (data : Bytes) : ClientM Unit :=
  if cuts then storePrefix args data else storePayload args data

/-- The state of a client that has passed on a payload. -/
def withAnswer (cuts : Bool) (args : InfoArgs) (s : ClientState) (data : Bytes) : ClientState :=
  (s.stored args.param_value_size_ret (.param_value_size_ret data.length)).stored
    (args.param_value && (cuts || decide (data.length ≤ args.param_value_size)))
    (.param_value (if cuts then data.take args.param_value_size else data))

variable {cuts : Bool} {args : InfoArgs} {s : ClientState} {data v : Bytes}

theorem wp_storeAnswer {H : ClientState → Bytes → Bytes → Prop} {o u : Bytes} {e : Unit}
    {Q : Except Exn Unit → ClientState → Bytes → Bytes → Unit → Prop} :
    (storeAnswer cuts args data).wp noEnv H s o u e Q ↔
      Q (.ok ()) (withAnswer cuts args s data) o u e := by
  cases cuts <;>
    simp [storeAnswer, storePrefix, storePayload, withAnswer]

theorem extends_withAnswer :
    Extends s (withAnswer cuts args s data)
      (([] ++ if args.param_value_size_ret then
          [.store (.param_value_size_ret data.length)] else []) ++
        if args.param_value && (cuts || decide (data.length ≤ args.param_value_size)) then
          [.store
            (.param_value (if cuts then data.take args.param_value_size else data))] else []) :=
  ((Extends.refl s).stored _ _).stored _ _

theorem sizesReported_withAnswer :
    sizesReported s (withAnswer cuts args s data) =
      if args.param_value_size_ret then [data.length] else [] := by
  rw [sizesReported, extends_withAnswer.eventsSince]
  cases args.param_value_size_ret <;>
    cases args.param_value && (cuts || decide (data.length ≤ args.param_value_size)) <;> rfl

theorem valuesCopied_withAnswer :
    valuesCopied s (withAnswer cuts args s data) =
      if args.param_value && (cuts || decide (data.length ≤ args.param_value_size)) then
        [if cuts then data.take args.param_value_size else data] else [] := by
  rw [valuesCopied, extends_withAnswer.eventsSince]
  cases args.param_value_size_ret <;>
    cases args.param_value && (cuts || decide (data.length ≤ args.param_value_size)) <;> rfl

/-- A payload that is the value. -/
theorem complete_withAnswer : Complete args v s (withAnswer cuts args s v) where
  size := sizesReported_withAnswer
  value := by
    intro hvalue hroom
    rw [valuesCopied_withAnswer, hvalue, decide_eq_true hroom, Bool.or_true, Bool.and_self,
      if_pos rfl]
    cases cuts
    · rfl
    · rw [if_pos rfl, List.take_of_length_le hroom]
  start := by
    intro data hdata
    rw [valuesCopied_withAnswer] at hdata
    split at hdata
    · rename_i hif
      rw [List.mem_singleton] at hdata
      cases cuts with
      | true => exact hdata
      | false =>
        rw [Bool.false_or, Bool.and_eq_true, decide_eq_true_iff] at hif
        rw [hdata, if_neg Bool.false_ne_true, List.take_of_length_le hif.2]
    · exact absurd hdata List.not_mem_nil

end Client

/-! ## What the handlers send -/

/-- A driver that holds a value.  It may refuse the question, but it does not change its mind: one
that it has answered it answers whenever there is room for the value. -/
structure Holds (D : Driver) (q : InfoQuery) (v : Bytes) : Prop where
  size : ∀ log n, (D log (.info q n)).err = CL_SUCCESS → (D log (.info q n)).size = some v.length
  data : ∀ log n, (D log (.info q n)).err = CL_SUCCESS → v.length ≤ n → (D log (.info q n)).data = v
  steady : ∀ log log' n n', (D log (.info q n)).err = CL_SUCCESS → n' = 0 ∨ v.length ≤ n' →
    (D log' (.info q n')).err = CL_SUCCESS

/-- The question, of which `guess` says how much room is made at first, is refused. -/
def QuestionRefused (D : Driver) (q : InfoQuery) (guess : ℕ) : Prop :=
  (D [] (.info q guess)).err ≠ CL_SUCCESS

namespace ServerInstance

/-- What comes of a question for a value: an error if it is refused, an exception if there cannot be
such a vector, and otherwise the payload `w`. -/
def SendsValue (refused : Prop) (v w : Bytes) (t : ServerState) (r : Except Exn Unit)
    (t' : ServerState) (o u : Bytes) : Prop :=
  t' = t ∧ u = [] ∧
    ((∃ err, err ≠ CL_SUCCESS ∧ refused ∧ r = .ok () ∧ o = packet (⟨err⟩ : ErrorPacket)) ∨
      ((refused ∨ vectorMaxSize < v.length) ∧ r = .error .other ∧ o = []) ∨
      (¬ refused ∧ v.length ≤ vectorMaxSize ∧ r = .ok () ∧ o = PacketStream.frame .payload w))

variable {D : Driver} {B : ServerBuild} {q : InfoQuery} {v w : Bytes} {t : ServerState}

/-- What is in the buffer when the driver has stored the value. -/
theorem memRead_storeInto {n : ℕ} (h : v.length ≤ n) :
    memRead (storeInto (zeros n) v) v.length = v := by
  have htake : (storeInto (zeros n) v).take v.length = v := by
    rw [storeInto, length_zeros, List.take_of_length_le h, List.take_left]
  rw [memRead, htake, length_storeInto, length_zeros, Nat.sub_eq_zero_of_le h]
  exact List.append_nil v

/-- There cannot be such a vector. -/
theorem wp_resize_throw {elementSize n : ℕ} (h : ¬ elementSize * n ≤ vectorMaxSize) {o u : Bytes}
    {log : List Asked} {H : ServerState → Bytes → Bytes → Prop}
    {Q : Except Exn Unit → ServerState → Bytes → Bytes → List Asked → Prop} :
    (resize elementSize n).wp D.environment H t o u log Q ↔ Q (.error .other) t o u log := by
  rw [resize, if_neg h]
  rfl

/-- The second question for a value, for which there is as much room as the first answer says. -/
theorem wp_secondQuestion (hv : Holds D q v) {first : InfoAns} (hfirst : first = D [] (.info q 0))
    {k : InfoAns → ServerM Unit}
    (hk : ∀ a log, a.size = some v.length → a.data = v → first.size.getD 0 = v.length →
      (k a).wp D.environment (fun _ _ _ => False) t [] [] log fun r t' o u _ =>
        r = .ok () ∧ t' = t ∧ o = PacketStream.frame .payload w ∧ u = []) {log : List Asked} :
    (resize 1 (first.size.getD 0) >>= fun _ => info q (first.size.getD 0) >>= fun a =>
      if a.err ≠ CL_SUCCESS then writeError a.err else k a).wp D.environment (fun _ _ _ => False)
        t [] [] log fun r t' o u _ => SendsValue (QuestionRefused D q 0) v w t r t' o u := by
  subst hfirst
  have hsize : ¬ QuestionRefused D q 0 → (D [] (.info q 0)).size.getD 0 = v.length := by
    intro h
    rw [hv.size _ _ (not_not.mp h), Option.getD_some]
  rw [Prog.wp_bind]
  by_cases hroom : 1 * (D [] (.info q 0)).size.getD 0 ≤ vectorMaxSize
  swap
  · refine (wp_resize_throw hroom).mpr ⟨rfl, rfl, Or.inr (Or.inl ⟨?_, rfl, rfl⟩)⟩
    by_cases hrefused : QuestionRefused D q 0
    · exact Or.inl hrefused
    · rw [hsize hrefused] at hroom
      exact Or.inr (by omega)
  rw [wp_resize hroom, Prog.afterBind_ok, Prog.wp_bind, wp_info]
  rintro a log' ⟨rfl, rfl⟩
  rw [Prog.afterBind_ok]
  split
  · rename_i herr
    refine ⟨rfl, rfl, Or.inl ⟨_, herr, fun h => herr (hv.steady _ _ _ _ h ?_), rfl, rfl⟩⟩
    rw [hv.size _ _ h, Option.getD_some]
    exact Or.inr le_rfl
  · rename_i herr
    replace herr := not_not.mp herr
    have hfirst := hv.steady _ [] _ 0 herr (Or.inl rfl)
    have hlen := hsize (not_not.mpr hfirst)
    refine Prog.wp_mono ?_ (hk _ _ (hv.size _ _ herr) (hv.data _ _ herr hlen.ge) hlen)
    rintro r t' o u log ⟨rfl, rfl, rfl, rfl⟩
    exact ⟨rfl, rfl, Or.inr (Or.inr ⟨not_not.mpr hfirst, by omega, rfl, rfl⟩)⟩

theorem wp_replyRaw (hv : Holds D q v) (sz : SizeT) (checked : Bool) :
    (replyRaw B sz checked q).wp D.environment (fun _ _ _ => False) t [] [] [] fun r t' o u _ =>
      SendsValue (QuestionRefused D q 0) v (encPayloadPtr B.zlib sz v) t r t' o u := by
  rw [replyRaw, Prog.wp_bind, wp_info]
  rintro a log ⟨rfl, rfl⟩
  rw [Prog.afterBind_ok]
  split
  · rename_i herr
    rw [Bool.and_eq_true, bne_iff_ne] at herr
    exact ⟨rfl, rfl, Or.inl ⟨_, herr.2, herr.2, rfl, rfl⟩⟩
  refine wp_secondQuestion hv rfl fun a log hsize hdata hlen => ?_
  rw [hsize, hdata, hlen, Option.getD_some, memRead_storeInto le_rfl]
  exact ⟨rfl, rfl, rfl, rfl⟩

/-- What the handler for platforms does when it has looked up the platform. -/
def platformInfo (B : ServerBuild) (q : InfoQuery) : ServerM Unit :=
  info q 0 >>= fun first =>
    if first.err ≠ CL_SUCCESS then writeError first.err
    else
      let replySize := first.size.getD 0
      resize 1 replySize >>= fun _ => info q replySize >>= fun a =>
        if a.err ≠ CL_SUCCESS then writeError a.err
        else writePayload B .uint8 (storeInto (zeros replySize) a.data)

theorem wp_platformInfo (hv : Holds D q v) :
    (platformInfo B q).wp D.environment (fun _ _ _ => False) t [] [] [] fun r t' o u _ =>
      SendsValue (QuestionRefused D q 0) v (encPayload B.zlib .uint8 v) t r t' o u := by
  rw [platformInfo, Prog.wp_bind, wp_info]
  rintro a log ⟨rfl, rfl⟩
  rw [Prog.afterBind_ok]
  split
  · rename_i herr
    exact ⟨rfl, rfl, Or.inl ⟨_, herr, herr, rfl, rfl⟩⟩
  refine wp_secondQuestion hv rfl fun a log hsize hdata hlen => ?_
  rw [hdata, hlen, storeInto_zeros rfl]
  exact ⟨rfl, rfl, rfl, rfl⟩

/-- What the handler for contexts does when it has looked up the context, except for devices. -/
def contextInfo (B : ServerBuild) (q : InfoQuery) : ServerM Unit := do
  let a ← info q 32
  if a.err ≠ CL_SUCCESS then writeError a.err
  else
    let replySize := a.size.getD 0
    let (mData, replySize) ←
      if 32 < replySize then do
        resize 1 replySize
        let b ← info q replySize
        pure (storeInto (storeInto (zeros 32) a.data ++ zeros (replySize - 32)) b.data,
          b.size.getD replySize)
      else pure (storeInto (zeros 32) a.data, replySize)
    writePayload B .uint8 (memRead mData replySize)

/-- The value that a larger buffer gets. -/
theorem storeInto_of_length {buffer : Bytes} (h : buffer.length = v.length) :
    storeInto buffer v = v := by
  rw [storeInto, h, List.take_length, List.drop_eq_nil_of_le h.le, List.append_nil]

theorem wp_contextInfo (hv : Holds D q v) :
    (contextInfo B q).wp D.environment (fun _ _ _ => False) t [] [] [] fun r t' o u _ =>
      SendsValue (QuestionRefused D q 32) v (encPayload B.zlib .uint8 v) t r t' o u := by
  rw [contextInfo, Prog.wp_bind, wp_info]
  rintro a log ⟨rfl, rfl⟩
  rw [Prog.afterBind_ok]
  split
  · rename_i herr
    exact ⟨rfl, rfl, Or.inl ⟨_, herr, herr, rfl, rfl⟩⟩
  rename_i herr
  have hfirst := not_not.mp herr
  rw [hv.size _ _ hfirst, Option.getD_some]
  dsimp only
  by_cases hlong : 32 < v.length
  swap
  · rw [if_neg hlong, hv.data _ _ hfirst (not_lt.mp hlong), pure_bind]
    dsimp only
    rw [memRead_storeInto (not_lt.mp hlong)]
    refine ⟨rfl, rfl, Or.inr (Or.inr ⟨herr, ?_, rfl, rfl⟩)⟩
    exact (not_lt.mp hlong).trans (by decide)
  rw [if_pos hlong, Prog.wp_bind]
  by_cases hroom : 1 * v.length ≤ vectorMaxSize
  swap
  · refine (wp_resize_throw hroom).mpr ⟨rfl, rfl, Or.inr (Or.inl ⟨Or.inr ?_, rfl, rfl⟩)⟩
    omega
  rw [wp_resize hroom, Prog.afterBind_ok, Prog.wp_bind, wp_info]
  rintro b log' ⟨rfl, rfl⟩
  have hsecond := hv.steady _ ([] ++ [⟨.info q 32, D [] (.info q 32)⟩]) _ v.length hfirst
    (Or.inr le_rfl)
  have hlen : (storeInto (zeros 32) (D [] (.info q 32)).data ++ zeros (v.length - 32)).length =
      v.length := by
    rw [List.length_append, length_storeInto, length_zeros, length_zeros]
    omega
  rw [Prog.afterBind_ok, hv.data _ _ hsecond le_rfl, hv.size _ _ hsecond, Option.getD_some,
    storeInto_of_length hlen, pure_bind]
  dsimp only
  rw [memRead_length]
  exact ⟨rfl, rfl, Or.inr (Or.inr ⟨herr, by omega, rfl, rfl⟩)⟩

end ServerInstance

/-! ## The queries -/

/-- A query whose answer may be passed on as it is. -/
inductive RawQuery where
  | clGetPlatformInfo (platform : Handle) (param_name : UInt32)
  | clGetContextInfo (context : Handle) (param_name : UInt32)
  | clGetMemObjectInfo (memobj : Handle) (param_name : UInt32)
  | clGetImageInfo (image : Handle) (param_name : UInt32)
  | clGetCommandQueueInfo (command_queue : Handle) (param_name : UInt32)
  | clGetDeviceInfo (device : Handle) (param_name : UInt32)
  | clGetKernelInfo (kernel : Handle) (param_name : UInt32)
  | clGetKernelArgInfo (kernel : Handle) (arg_indx param_name : UInt32)
  | clGetKernelWorkGroupInfo (kernel device : Handle) (param_name : UInt32)

namespace RawQuery

/-- The program of a query. -/
def call (C : Build) (H : Host) (args : InfoArgs) : RawQuery → ClientM Ret
  | clGetPlatformInfo platform param => Client.clGetPlatformInfo C (some platform) param args
  | clGetContextInfo context param => Client.clGetContextInfo C (some context) param args
  | clGetMemObjectInfo memobj param => Client.clGetMemObjectInfo C (some memobj) param args
  | clGetImageInfo image param => Client.clGetImageInfo C (some image) param args
  | clGetCommandQueueInfo queue param => Client.clGetCommandQueueInfo C (some queue) param args
  | clGetDeviceInfo device param => Client.clGetDeviceInfo C H (some device) param args
  | clGetKernelInfo kernel param => Client.clGetKernelInfo C (some kernel) param args
  | clGetKernelArgInfo kernel index param =>
    Client.clGetKernelArgInfo C (some kernel) index param args
  | clGetKernelWorkGroupInfo kernel device param =>
    Client.clGetKernelWorkGroupInfo C H (some kernel) (some device) param args

/-- What the driver is asked. -/
def question (t : ServerState) : RawQuery → InfoQuery
  | clGetPlatformInfo h param => .clGetPlatformInfo (objectAt t.mObjects (GetID h)) param
  | clGetContextInfo h param => .clGetContextInfo (objectAt t.mObjects (GetID h)) param
  | clGetMemObjectInfo h param => .clGetMemObjectInfo (objectAt t.mObjects (GetID h)) param
  | clGetImageInfo h param => .clGetImageInfo (objectAt t.mObjects (GetID h)) param
  | clGetCommandQueueInfo h param => .clGetCommandQueueInfo (objectAt t.mObjects (GetID h)) param
  | clGetDeviceInfo h param => .clGetDeviceInfo (objectAt t.mObjects (GetID h)) param
  | clGetKernelInfo h param => .clGetKernelInfo (objectAt t.mObjects (GetID h)) param
  | clGetKernelArgInfo h index param =>
    .clGetKernelArgInfo (objectAt t.mObjects (GetID h)) index param
  | clGetKernelWorkGroupInfo h device param =>
    .clGetKernelWorkGroupInfo (objectAt t.mObjects (GetID h)) (objectAt t.mObjects (GetID device))
      param

/-- The room that is made for the first question. -/
def guess : RawQuery → ℕ
  | clGetContextInfo _ _ => 32
  | _ => 0

/-- The size field of the reply. -/
def size : RawQuery → SizeT
  | clGetPlatformInfo _ _ | clGetContextInfo _ _ | clGetMemObjectInfo _ _ | clGetImageInfo _ _
  | clGetCommandQueueInfo _ _ => .uint8
  | clGetDeviceInfo _ _ | clGetKernelInfo _ _ | clGetKernelArgInfo _ _ _
  | clGetKernelWorkGroupInfo _ _ _ => .uint32

/-- The form in which the reply is written. -/
def writer : RawQuery → PayloadWriter
  | clGetPlatformInfo _ _ | clGetContextInfo _ _ => .payload
  | _ => .payloadPtr

/-- Whether as much is copied as there is room for. -/
def cuts : RawQuery → Bool
  | clGetContextInfo _ _ => true
  | _ => false

/-- The answer is passed on as it is. -/
def Raw : RawQuery → Prop
  | clGetPlatformInfo _ _ => True
  | clGetContextInfo _ param => param ≠ CL_CONTEXT_DEVICES
  | clGetMemObjectInfo _ param => param ≠ CL_MEM_CONTEXT ∧ param ≠ CL_MEM_ASSOCIATED_MEMOBJECT
  | clGetImageInfo _ param => param ≠ CL_IMAGE_BUFFER
  | clGetCommandQueueInfo _ param => param ≠ CL_QUEUE_CONTEXT ∧ param ≠ CL_QUEUE_DEVICE
  | clGetDeviceInfo _ param =>
    param ≠ CL_DEVICE_PLATFORM ∧ param ≠ CL_DEVICE_PARENT_DEVICE ∧ param ∉ deviceSizeParams ∧
      param ≠ CL_DEVICE_MAX_WORK_ITEM_SIZES
  | clGetKernelInfo _ param =>
    param ≠ CL_KERNEL_CONTEXT ∧ param ≠ CL_KERNEL_PROGRAM ∧ param ≠ CL_KERNEL_REFERENCE_COUNT ∧
      param ≠ CL_KERNEL_NUM_ARGS
  | clGetKernelArgInfo _ _ param =>
    param ≠ CL_KERNEL_ARG_ACCESS_QUALIFIER ∧ param ≠ CL_KERNEL_ARG_TYPE_QUALIFIER ∧
      param ≠ CL_KERNEL_ARG_ADDRESS_QUALIFIER
  | clGetKernelWorkGroupInfo _ _ param =>
    param ≠ CL_KERNEL_COMPILE_WORK_GROUP_SIZE ∧ param ≠ CL_KERNEL_LOCAL_MEM_SIZE ∧
      param ≠ CL_KERNEL_PREFERRED_WORK_GROUP_SIZE_MULTIPLE ∧ param ≠ CL_KERNEL_WORK_GROUP_SIZE

end RawQuery

section Calls

variable {D : Driver} {B : ServerBuild} {C : Build} {H : Host} {s : ClientState} {t : ServerState}
variable {args : InfoArgs} {v : Bytes} {F : CallConfig (List Asked) → Prop}

/-- A request of one packet has been sent, and the server has read it. -/
theorem settles_asks (hF : Stable D.environment (ServerInstance.serve B) F)
    {badAlloc others : Int32} {X : Type} [Packet X] [Wire X] [LawfulWire X]
    (hty : Ordinary (Packet.mType X)) {x : X}
    {p : ClientM Ret} {h : X → ServerM Unit}
    (hh : ServerInstance.handler B (Packet.mType X) = some (PacketStream.readPacket X >>= h))
    {log : List Asked} :
    Settles D.environment (ServerInstance.serve B) F
        (start B (catching badAlloc others (PacketStream.writePacket x >>= fun _ =>
          PacketStream.flush >>= fun _ => p)) s t log) ↔
      Settles D.environment (ServerInstance.serve B) F
        ⟨⟨catching badAlloc others p, s, []⟩,
          ⟨ServerInstance.iteration (h x >>= fun _ => pure true), t, []⟩, [], [], log⟩ := by
  refine (settles_sends hF (context_catching badAlloc others)).trans ?_
  refine (settles_dispatches hF hh rfl).trans ?_
  rw [bind_assoc]
  have hmeets := settles_server_meets_packet (u := []) (d := []) (e := log)
    (c := ⟨catching badAlloc others p, s, []⟩) (t := t) (o := []) (p := x) hF
    ServerInstance.context_iteration hty (k := fun x => h x >>= fun _ => pure true)
  rwa [List.append_nil] at hmeets

/-- What the function does when its request has been sent. -/
def awaitAnswer (C : Build) (q : RawQuery) (args : InfoArgs) : ClientM Ret :=
  PacketStream.read .payload (decPayload C.zlib q.size) >>= fun payload =>
    storeAnswer q.cuts args payload >>= fun _ => pure (.code CL_SUCCESS)

/-- A call that leads to a search without end does not come to rest. -/
theorem not_settles_of_spins {P : Ret → ClientState → ServerState → List Asked → Prop}
    {x : CallConfig (List Asked)}
    (hfinal : Settles D.environment (ServerInstance.serve B) (Final B ∅ P) x)
    (hspins : ∀ F : CallConfig (List Asked) → Prop,
      Stable D.environment (ServerInstance.serve B) F →
        (∀ k s t log, F ⟨⟨.read 1 k, s, []⟩, ⟨.spin, t, []⟩, [], [], log⟩) →
          Settles D.environment (ServerInstance.serve B) F x) : False := by
  have hstable : Stable D.environment (ServerInstance.serve B)
      (Abandoned : CallConfig (List Asked) → Prop) :=
    fun x y hx hstep => absurd hstep (not_step_abandoned hx)
  have habandoned := hspins Abandoned hstable fun k s t log =>
    ⟨1, k, s, .spin, t, [], log, Nat.one_pos, Or.inl rfl, rfl⟩
  obtain ⟨y, -, hy, habandoned⟩ :=
    (hfinal.and D.answers terminal_final hstable habandoned).exists_final D.answers
  obtain ⟨r, s', t', e, -, rfl⟩ := (final_empty y).mp hy
  obtain ⟨n, k, s'', p, t'', u, e', -, -, heq⟩ := habandoned
  cases congrArg (fun x => x.client.prog) heq

/-- The device queries that a server translates the client does too. -/
theorem mem_deviceSizeParams {param : UInt32}
    (h : param ∈ ServerInstance.deviceSizeParams ∨ param ∈ ServerInstance.deviceSizeParams20) :
    param ∈ deviceSizeParams := by
  rw [← List.mem_append] at h
  exact (List.Perm.mem_iff (by decide)).mp h

/-- **The two sides of a query**: the function waits, and the handler sends what it sends. -/
theorem RawQuery.exists_serving (hF : Stable D.environment (ServerInstance.serve B) F)
    (args : InfoArgs) (q : RawQuery) (hq : q.Raw) (hv : Holds D (q.question t) v) :
    ∃ badAlloc k,
      (Settles D.environment (ServerInstance.serve B) F (start B (q.call C H args) s t []) ↔
        Settles D.environment (ServerInstance.serve B) F
          ⟨⟨catching badAlloc CL_DEVICE_NOT_AVAILABLE (awaitAnswer C q args), s, []⟩,
            ⟨ServerInstance.iteration (k >>= fun _ => pure true), t, []⟩, [], [], []⟩) ∧
      k.wp D.environment (fun _ _ _ => False) t [] [] [] fun r t' o u _ =>
        ServerInstance.SendsValue (QuestionRefused D (q.question t) q.guess) v
          (q.writer.encode B.zlib q.size v) t r t' o u := by
  cases q with
  | clGetPlatformInfo platform param =>
    refine ⟨_, _, (settles_asks hF (by decide) rfl).trans
      (settles_server_get hF context_handler), ServerInstance.wp_platformInfo hv⟩
  | clGetContextInfo context param =>
    refine ⟨CL_DEVICE_NOT_AVAILABLE, ServerInstance.contextInfo B _, ?_,
      ServerInstance.wp_contextInfo hv⟩
    simp only [call, Client.clGetContextInfo, if_neg hq]
    refine (settles_asks hF (by decide) rfl).trans
      ((settles_server_get hF context_handler).trans ?_)
    simp only [if_neg hq]
    rfl
  | clGetMemObjectInfo memobj param =>
    refine ⟨CL_OUT_OF_HOST_MEMORY, ServerInstance.replyRaw B .uint8 true _, ?_,
      ServerInstance.wp_replyRaw hv .uint8 true⟩
    simp only [call, Client.clGetMemObjectInfo, if_neg hq.1, if_neg hq.2]
    refine (settles_asks hF (by decide) rfl).trans
      ((settles_server_get hF context_handler).trans ?_)
    simp only [if_neg (not_or.mpr hq)]
    rfl
  | clGetImageInfo image param =>
    refine ⟨CL_OUT_OF_HOST_MEMORY, ServerInstance.replyRaw B .uint8 true _, ?_,
      ServerInstance.wp_replyRaw hv .uint8 true⟩
    simp only [call, Client.clGetImageInfo, if_neg hq]
    refine (settles_asks hF (by decide) rfl).trans
      ((settles_server_get hF context_handler).trans ?_)
    simp only [if_neg hq]
    rfl
  | clGetCommandQueueInfo queue param =>
    refine ⟨CL_OUT_OF_HOST_MEMORY, ServerInstance.replyRaw B .uint8 true _, ?_,
      ServerInstance.wp_replyRaw hv .uint8 true⟩
    simp only [call, Client.clGetCommandQueueInfo, if_neg hq.1, if_neg hq.2]
    refine (settles_asks hF (by decide) rfl).trans
      ((settles_server_get hF context_handler).trans ?_)
    simp only [if_neg (not_or.mpr hq)]
    rfl
  | clGetDeviceInfo device param =>
    obtain ⟨hplatform, hparent, hsize, hsizes⟩ := hq
    have hserver : ¬(param ∈ ServerInstance.deviceSizeParams ∨
        (200 ≤ B.clTarget ∧ param ∈ ServerInstance.deviceSizeParams20)) := by
      rintro (h | ⟨-, h⟩)
      · exact hsize (mem_deviceSizeParams (Or.inl h))
      · exact hsize (mem_deviceSizeParams (Or.inr h))
    refine ⟨CL_OUT_OF_HOST_MEMORY, ServerInstance.replyRaw B .uint32 false _, ?_,
      ServerInstance.wp_replyRaw hv .uint32 false⟩
    simp only [call, Client.clGetDeviceInfo, if_neg hplatform, if_neg hparent, if_neg hsize,
      if_neg hsizes]
    refine (settles_asks hF (by decide) rfl).trans
      ((settles_server_get hF context_handler).trans ?_)
    simp only [if_neg (not_or.mpr ⟨hplatform, hparent⟩), if_neg hserver, if_neg hsizes]
    rfl
  | clGetKernelInfo kernel param =>
    obtain ⟨hcontext, hprogram, hvalue⟩ := hq
    refine ⟨CL_OUT_OF_HOST_MEMORY, ServerInstance.replyRaw B .uint32 false _, ?_,
      ServerInstance.wp_replyRaw hv .uint32 false⟩
    simp only [call, Client.clGetKernelInfo, if_neg hcontext, if_neg hprogram,
      if_neg (not_or.mpr hvalue)]
    refine (settles_asks hF (by decide) rfl).trans
      ((settles_server_get hF context_handler).trans ?_)
    simp only [if_neg (not_or.mpr ⟨hcontext, hprogram⟩), if_neg (not_or.mpr hvalue)]
    rfl
  | clGetKernelArgInfo kernel index param =>
    obtain ⟨haccess, htype, haddress⟩ := hq
    refine ⟨CL_OUT_OF_HOST_MEMORY, ServerInstance.replyRaw B .uint32 false _, ?_,
      ServerInstance.wp_replyRaw hv .uint32 false⟩
    simp only [call, Client.clGetKernelArgInfo, if_neg (not_or.mpr ⟨haccess, haddress⟩),
      if_neg htype]
    refine (settles_asks hF (by decide) rfl).trans
      ((settles_server_get hF context_handler).trans ?_)
    simp only [if_neg (not_or.mpr ⟨haccess, not_or.mpr ⟨htype, haddress⟩⟩)]
    rfl
  | clGetKernelWorkGroupInfo kernel device param =>
    obtain ⟨hsizes, hsize⟩ := hq
    have hneither := not_or.mpr ⟨hsize.1, not_or.mpr hsize.2⟩
    refine ⟨CL_OUT_OF_HOST_MEMORY, ServerInstance.replyRaw B .uint32 false _, ?_,
      ServerInstance.wp_replyRaw hv .uint32 false⟩
    simp only [call, Client.clGetKernelWorkGroupInfo, if_neg hsizes, if_neg hneither]
    refine (settles_asks hF (by decide) rfl).trans ((settles_server_get hF context_handler).trans
      ((settles_server_get hF context_handler).trans ?_))
    simp only [if_neg hsizes, if_neg hneither]
    rfl

/-- An error has arrived. -/
theorem settles_told (hF : Stable D.environment (ServerInstance.serve B) F)
    {badAlloc others err : Int32} {α : Type} {ty : PacketType} {r : Reader α} {k : α → ClientM Ret}
    {log : List Asked} :
    Settles D.environment (ServerInstance.serve B) F
        ⟨⟨catching badAlloc others (PacketStream.read ty r >>= k), s, []⟩,
          ⟨ServerInstance.serve B, t, []⟩, [], packet (⟨err⟩ : ErrorPacket), log⟩ ↔
      Settles D.environment (ServerInstance.serve B) F
        ⟨⟨.ret (.code err), s, []⟩, ⟨ServerInstance.serve B, t, []⟩, [], [], log⟩ := by
  rw [← List.append_nil (packet _)]
  exact settles_client_meets_error hF (context_catching badAlloc others) err

/-- The reply has arrived. -/
theorem settles_answer (hF : Stable D.environment (ServerInstance.serve B) F)
    {badAlloc others : Int32} {q : RawQuery} {w x rest : Bytes}
    (hx : Reads (decPayload C.zlib q.size) w x) {log : List Asked}
    (h : Settles D.environment (ServerInstance.serve B) F
      ⟨⟨.ret (.code CL_SUCCESS), withAnswer q.cuts args s x, []⟩, ⟨ServerInstance.serve B, t, []⟩,
        [], rest, log⟩) :
    Settles D.environment (ServerInstance.serve B) F
      ⟨⟨catching badAlloc others (awaitAnswer C q args), s, []⟩, ⟨ServerInstance.serve B, t, []⟩,
        [], PacketStream.frame .payload (w ++ rest), log⟩ := by
  have hK := context_catching badAlloc others
  refine (settles_client_meets hF hK hx (by decide)).mpr ?_
  refine settles_client_wp hF hK (H := fun _ _ _ => False) (fun _ _ _ h => h.elim) ?_
  rw [Prog.wp_bind, wp_storeAnswer]
  exact h

/-- **What becomes of a query**: the three things that the handler may do. -/
theorem RawQuery.settles_of (hF : Stable D.environment (ServerInstance.serve B) F) (q : RawQuery)
    (hq : q.Raw) (hv : Holds D (q.question t) v)
    (herror : ∀ err log, err ≠ CL_SUCCESS → QuestionRefused D (q.question t) q.guess →
      Settles D.environment (ServerInstance.serve B) F
        ⟨⟨.ret (.code err), s, []⟩, ⟨ServerInstance.serve B, t, []⟩, [], [], log⟩)
    (hlost : QuestionRefused D (q.question t) q.guess ∨ ServerInstance.vectorMaxSize < v.length →
      ∀ k log, k (.error .socketError) = .ret (.code CL_DEVICE_NOT_AVAILABLE) →
        Settles D.environment (ServerInstance.serve B) F
          ⟨⟨.read 1 k, s, []⟩, ⟨.throw .other, t, []⟩, [], [], log⟩)
    {w x rest : Bytes} (hw : q.writer.encode B.zlib q.size v = w ++ rest)
    (hx : Reads (decPayload C.zlib q.size) w x)
    (hvalue : ¬ QuestionRefused D (q.question t) q.guess → v.length ≤ ServerInstance.vectorMaxSize →
      ∀ log, Settles D.environment (ServerInstance.serve B) F
        ⟨⟨.ret (.code CL_SUCCESS), withAnswer q.cuts args s x, []⟩, ⟨ServerInstance.serve B, t, []⟩,
          [], rest, log⟩) :
    Settles D.environment (ServerInstance.serve B) F (start B (q.call C H args) s t []) := by
  obtain ⟨badAlloc, k, hstart, hk⟩ := q.exists_serving (C := C) (H := H) (s := s) hF args hq hv
  rw [hstart]
  refine settles_server_wp hF context_handler (H := fun _ _ _ => False) (fun _ _ _ _ h => h.elim)
    (Prog.wp_mono ?_ hk)
  rintro r t' o u log ⟨rfl, rfl, ⟨err, herr, hrefused, rfl, rfl⟩ | ⟨hlong, rfl, rfl⟩ |
    ⟨hanswered, hroom, rfl, rfl⟩⟩
  · refine (settles_handles hF).mpr ?_
    exact (settles_told hF).mpr (herror err log herr hrefused)
  · obtain ⟨k, hread, hfail⟩ := exists_read_catching badAlloc CL_DEVICE_NOT_AVAILABLE .payload
      (decPayload C.zlib q.size)
      (fun payload => storeAnswer q.cuts args payload >>= fun _ => pure (.code CL_SUCCESS))
    have hstop : ServerInstance.iteration
        ((Prog.throw .other : ServerM Unit) >>= fun _ => pure true) = Prog.throw .other := rfl
    rw [awaitAnswer, hread]
    exact hlost hlong k log hfail
  · refine (settles_handles hF).mpr ?_
    rw [hw]
    exact settles_answer hF hx (hvalue hanswered hroom log)

/-- A client makes something of every payload, and never more than the size field has room for. -/
theorem RawQuery.exists_reads (hz : SameFormat B.zlib C.zlib) (hfills : Zlib.Fills C.zlib)
    (q : RawQuery) (v : Bytes) :
    ∃ w x rest, q.writer.encode B.zlib q.size v = w ++ rest ∧
      Reads (decPayload C.zlib q.size) w x ∧ x.length < q.size.range := by
  cases q.writer with
  | payload => exact exists_reads_decPayload hz hfills q.size v
  | payloadPtr =>
    refine ⟨encPayloadPtr B.zlib q.size v, v.take (v.length % q.size.range), [],
      (List.append_nil _).symm, reads_payloadPtr_take hz q.size v .payload, ?_⟩
    rw [List.length_take]
    exact (min_le_left _ _).trans_lt (Nat.mod_lt _ (range_pos q.size))

/-! ## What arrives -/

/-- However the query is made, it fails, or the application gets the value. -/
def Delivers (D : Driver) (B : ServerBuild) (C : Build) (H : Host) (s : ClientState)
    (t : ServerState)
    (q : RawQuery) (v : Bytes) : Prop :=
  ∀ args : InfoArgs, Settles D.environment (ServerInstance.serve B)
    (Finishes .socketError (ErrorOr (Complete args v s))) (start B (q.call C H args) s t [])

/-- The driver refuses the question, or the value has room in the size field of the reply.  (There
is no vector for a value that is longer than any vector, and the query fails.) -/
def HasRoom (D : Driver) (t : ServerState) (q : RawQuery) (v : Bytes) : Prop :=
  QuestionRefused D (q.question t) q.guess ∨ v.length < q.size.range ∨
    ServerInstance.vectorMaxSize < v.length

theorem HasRoom.delivers (hz : SameFormat B.zlib C.zlib) (hfills : Zlib.Fills C.zlib) (q : RawQuery)
    (hq : q.Raw) (hv : Holds D (q.question t) v) (h : HasRoom D t q v) :
    Delivers D B C H s t q v := by
  intro args
  have hlost {k : Except Exn Bytes → ClientM Ret} {log : List Asked}
      (hk : k (.error .socketError) = .ret (.code CL_DEVICE_NOT_AVAILABLE)) :
      Lost .socketError (ErrorOr (Complete args v s))
        (⟨⟨.read 1 k, s, []⟩, ⟨.throw .other, t, []⟩, [], [], log⟩ : CallConfig (List Asked)) :=
    ⟨1, k, s, .other, t, [], log, _, Nat.one_pos, hk, Or.inl ⟨_, by decide, rfl⟩, rfl⟩
  have herror (err : Int32) (log : List Asked) (herr : err ≠ CL_SUCCESS) :
      Settles D.environment (ServerInstance.serve B)
        (Finishes .socketError (ErrorOr (Complete args v s)))
        ⟨⟨.ret (.code err), s, []⟩, ⟨ServerInstance.serve B, t, []⟩, [], [], log⟩ :=
    .final (Or.inl ⟨_, rfl, Or.inl ⟨err, herr, rfl⟩⟩)
  by_cases hshort : v.length < q.size.range
  · refine q.settles_of stable_finishes hq hv (fun err log herr _ => herror err log herr)
      (fun _ k log hk => .final (Or.inr (hlost hk))) (List.append_nil _).symm
      (reads_payload hz hshort q.writer .payload) fun _ _ log => ?_
    exact .final (Or.inl ⟨_, rfl, Or.inr ⟨rfl, complete_withAnswer⟩⟩)
  · obtain ⟨w, x, rest, hw, hx, -⟩ := q.exists_reads hz hfills v
    refine q.settles_of stable_finishes hq hv (fun err log herr _ => herror err log herr)
      (fun _ k log hk => .final (Or.inr (hlost hk))) hw hx fun hanswered hroom => ?_
    rcases h with hrefused | hlt | hlong
    · exact absurd hrefused hanswered
    · exact absurd hlt hshort
    · exact absurd hlong (not_lt.mpr hroom)

/-- A value that is too long is passed for a shorter one. -/
theorem HasRoom.of_delivers (hz : SameFormat B.zlib C.zlib) (hfills : Zlib.Fills C.zlib)
    (q : RawQuery) (hq : q.Raw) (hv : Holds D (q.question t) v) (h : Delivers D B C H s t q v) :
    HasRoom D t q v := by
  by_contra hnot
  rw [HasRoom, not_or, not_or, not_lt, not_lt] at hnot
  obtain ⟨hanswered, hlong, hroom⟩ := hnot
  obtain ⟨w, x, rest, hw, hx, hlen⟩ := q.exists_reads hz hfills v
  have hshort : Settles D.environment (ServerInstance.serve B)
      (Returned fun r s' => r = .code CL_SUCCESS ∧ sizesReported s s' = [x.length])
      (start B (q.call C H ⟨0, false, true⟩) s t []) := by
    refine q.settles_of stable_returned hq hv (fun _ _ _ hrefused => absurd hrefused hanswered)
      (fun hlost => ?_) hw hx fun _ _ log => ?_
    · exact absurd hlost (not_or.mpr ⟨hanswered, not_lt.mpr hroom⟩)
    · exact .final ⟨_, rfl, rfl, sizesReported_withAnswer⟩
  obtain ⟨r, s', ⟨err, herr, hcode⟩ | ⟨-, hcomplete⟩, hsuccess, hsize⟩ :=
    (h ⟨0, false, true⟩).of_finishes D.answers hshort
  · rw [hsuccess] at hcode
    exact herr (Ret.code.inj hcode).symm
  · have hsame := hcomplete.size.symm.trans hsize
    rw [if_pos rfl, List.cons.injEq] at hsame
    omega

/-- **When values arrive**: exactly when they have room in the size field of the reply.  It is up to
255 bytes for platforms, contexts, queues, memory objects and images, and up to 2³² - 1 for devices
and kernels. -/
theorem raw_value_delivered_iff (hz : SameFormat B.zlib C.zlib) (hfills : Zlib.Fills C.zlib)
    (q : RawQuery) (hq : q.Raw) (hv : Holds D (q.question t) v) :
    Delivers D B C H s t q v ↔ HasRoom D t q v :=
  ⟨HasRoom.of_delivers hz hfills q hq hv, HasRoom.delivers hz hfills q hq hv⟩

end Calls

/-! ### A driver with a value -/

/-- A driver that has one value for every query. -/
def valueDriver (v : Bytes) : Driver
  | _, .info _ _ => ⟨CL_SUCCESS, some v.length, v⟩
  | _, c => refuse c

theorem holds_valueDriver (v : Bytes) (q : InfoQuery) : Holds (valueDriver v) q v :=
  ⟨fun _ _ _ => rfl, fun _ _ _ _ => rfl, fun _ _ _ _ _ _ => rfl⟩

/-- A platform with a name of two letters. -/
theorem raw_value_delivered_iff_name :
    Delivers (valueDriver [67, 76, 0]) ⟨plainBuild, 210⟩ plainBuild .wide ⟨[], 0, [], false, []⟩
        ⟨[66], none⟩ (.clGetPlatformInfo ⟨0, 0, .platformID⟩ 0x0902) [67, 76, 0] :=
  (raw_value_delivered_iff .plain fills_plainBuild (.clGetPlatformInfo _ _) trivial
    (holds_valueDriver _ _)).mpr (Or.inr (Or.inl (by decide)))

/-- The extensions of a platform, in 256 bytes, arrive as none. -/
theorem long_value_lost :
    ¬ Delivers (valueDriver (zeros 256)) ⟨plainBuild, 210⟩ plainBuild .wide ⟨[], 0, [], false, []⟩
      ⟨[66], none⟩ (.clGetPlatformInfo ⟨0, 0, .platformID⟩ 0x0904) (zeros 256) := by
  intro h
  have hroom := HasRoom.of_delivers .plain fills_plainBuild (.clGetPlatformInfo _ _) trivial
    (holds_valueDriver _ _) h
  rcases hroom with hrefused | hshort | hlong
  · exact hrefused rfl
  · rw [length_zeros] at hshort
    exact absurd hshort (lt_irrefl 256)
  · rw [length_zeros] at hlong
    exact absurd hlong (by decide)

end RemoteCL

import RemoteCL.Session.Calls.Details

/-!
# Calls: programs and kernels

Two of the requests of this group are followed by as many payloads as there are devices, and one
reply consists of a number and as many payloads.
-/

namespace RemoteCL.Client

open ByteStream Conversation Wire LawfulWire

section Programs

variable {δ : Type} {E : δ → (c : ServerCall) → Ans c → δ → Prop} {B : ServerBuild} {C : Build}
variable {A : Set Ptr} {takes : List IDType → ℕ} {truncates : Bool}
variable {s s₀ : ClientState} {t : ServerState} {e : δ}

theorem length_entriesOf_le {n : ℕ} {list : Option (List (Option Handle))} {ids : List IDType}
    (h : handleIDs (entriesOf n list) = some ids) (hn : n ≤ 255) :
    ids.length < SizeT.range .uint8 := by
  rw [length_handleIDs h]
  exact Nat.lt_succ_of_le ((List.length_take_le n _).trans hn)

/-! ## Building programs -/

theorem registerCallback_bind {α : Type} (callback : Callback) (k : UInt32 → ClientM α) :
    registerCallback callback >>= k = Prog.getState >>= fun s =>
      Prog.putState { s with mCallbacks := s.mCallbacks ++ [callback] } >>= fun _ =>
        k (UInt32.ofNat s.mCallbacks.length) := rfl

theorem completes_clBuildProgram (program : Option Handle) {num_devices : ℕ}
    (device_list : Option (List (Option Handle))) {options : Option Bytes} (notify : Notify)
    (hdevices : num_devices ≤ 255) (hoptions : StringFits (stringOf options)) :
    Completes E B A takes truncates
      (clBuildProgram program num_devices device_list options notify) s t e := by
  unfold clBuildProgram
  split
  · exact completes_code _
  split
  · exact completes_code _
  split
  · exact completes_code _
  · rename_i hids
    exact settles_call₂ (guard_catching _ _) rfl
      (agree_readPacket (by decide) (reads_idStringPair hoptions)
        (agree_readPacket_last (by decide)
          (reads_idListPacket (length_entriesOf_le hids hdevices))
          (agree_getObjs (agree_getObj (agree_status (guard_catching _ _) _ (.refl _ _)
            ((Since.refl truncates s).took rfl))))))

/-- A callback is registered before the request is written, and called at once when the server
has no way to call it. -/
theorem completes_clCompileProgram (program : Option Handle) {num_devices : ℕ}
    (device_list : Option (List (Option Handle))) {options : Option Bytes}
    {num_input_headers : ℕ} {input_headers : Option (List (Option Handle))}
    {header_include_names : Option (List (Option Bytes))} (notify : Notify)
    (hdevices : num_devices ≤ 255) (hoptions : StringFits (stringOf options))
    (hheaders : num_input_headers ≠ 0 → input_headers.isNone ∨ header_include_names.isNone ∨
      nullHeader input_headers header_include_names) :
    Completes E B A takes truncates
      (clCompileProgram program num_devices device_list options num_input_headers input_headers
        header_include_names notify) s t e := by
  unfold clCompileProgram
  split
  · exact completes_code _
  split
  · exact completes_code _
  split
  · exact completes_code _
  split
  · exact completes_code _
  split
  · exact completes_code _
  split
  · exact completes_code _
  rename_i program _ _ hgiven _ _ mDeviceIDs hids
  split
  · rename_i hnum
    have hnull := (hheaders hnum).resolve_left fun h => hgiven ⟨hnum, Or.inl h⟩
    rw [if_pos (hnull.resolve_left fun h => hgiven ⟨hnum, Or.inr h⟩)]
    exact completes_code _
  have hK := guard_catching CL_OUT_OF_HOST_MEMORY CL_DEVICE_NOT_AVAILABLE
  have hrequest : ∀ (s' : ClientState) (callback : Bool) (callbackID : UInt32),
      Since truncates s s' [] s.core →
      Settles E (ServerInstance.serve B) (Final B A (Effect E takes truncates s t e))
        (start B (catching CL_OUT_OF_HOST_MEMORY CL_DEVICE_NOT_AVAILABLE
          (PacketStream.writePacket
            ({ mProgramID := GetID program, mOptions := stringOf options, mDeviceIDs,
               mHeaderIDs := [], mHeaderNames := [], mHasCallback := callback,
               mCallbackID := callbackID.toUInt16 } : CompileProgram) >>= fun _ =>
            PacketStream.flush >>= fun _ =>
              PacketStream.readPacket SuccessPacket >>= fun _ =>
                store (notify.pfn_notify.isSome && !callback)
                  (.notify (.object program) (notify.pfn_notify.getD 0)
                    (notify.user_data.getD 0)) >>= fun _ =>
                    pure (.code CL_SUCCESS))) s' t e) := by
    intro s' callback callbackID hs
    refine settles_call hK rfl (agree_readPacket_last (by decide) (reads_compileProgram ?_ 0)
      (agree_getObj (agree_getObjs (agree_getObjs (agree_status hK _ hs ?_)))))
    · exact ⟨hoptions, length_entriesOf_le hids hdevices, range_pos .uint8, range_pos .uint8,
        fun _ h => absurd h List.not_mem_nil⟩
    · simp only [Takes, Prog.wp_bind, wp_store, Prog.afterBind_ok]
      exact (hs.stored_plain _ rfl rfl).took rfl
  rw [Completes, start, settles_client_get stable_final hK.context]
  cases hcallback : notify.pfn_notify.isSome && s.hasEventStream with
  | false => exact hrequest s false 0 (.refl _ _)
  | true =>
    simp only [if_true]
    rw [registerCallback_bind, settles_client_get stable_final hK.context,
      settles_client_put stable_final hK.context]
    exact hrequest _ true _ ((Since.refl truncates s).callbacks _)

/-- The application is notified at once that the program has been linked. -/
theorem completes_clLinkProgram (hE : AllLegal A E) (hg : Good A t.mObjects)
    (context : Option Handle) {num_devices : ℕ} (device_list : Option (List (Option Handle)))
    {options : Option Bytes} {num_input_programs : ℕ}
    (input_programs : Option (List (Option Handle))) (notify : Notify) (errcode_ret : Bool)
    (hdevices : num_devices ≤ 255) (hprograms : num_input_programs ≤ 255)
    (hoptions : StringFits (stringOf options)) :
    Completes E B A List.length truncates
      (clLinkProgram context num_devices device_list options num_input_programs input_programs
        notify errcode_ret) s t e := by
  unfold clLinkProgram
  split
  · exact completes_returnError _ _ _
  split
  · exact completes_returnError _ _ _
  split
  · exact completes_returnError _ _ _
  · exact completes_returnError _ _ _
  · rename_i hids hprogramIDs
    exact completes_created (guard_catchingError _ _ _) (fun _ => rfl) (fun _ => rfl) rfl
      (serves_readPacket_last (by decide)
        (reads_linkProgram hoptions (length_entriesOf_le hids hdevices)
          (length_entriesOf_le hprogramIDs hprograms))
        (serves_getObj (serves_getObjs (serves_getObjs (ServerInstance.serves_create hE hg rfl)))))

theorem completes_clCreateProgramWithSource (hE : AllLegal A E) (hg : Good A t.mObjects)
    (context : Option Handle) {strings : Option (List (Option Bytes × ℕ))} (errcode_ret : Bool)
    (hstrings : ∀ lines source, strings = some lines → joinSources lines = some source →
      StringFits source) :
    Completes E B A List.length truncates
      (clCreateProgramWithSource context strings errcode_ret) s t e := by
  unfold clCreateProgramWithSource
  split
  · exact completes_returnError _ _ _
  · exact completes_returnError _ _ _
  · exact completes_returnError _ _ _
  split
  · exact completes_returnError _ _ _
  · rename_i hsource
    exact completes_created (guard_catchingError _ _ _) (fun _ => rfl) (fun _ => rfl) rfl
      (serves_readPacket_last (by decide) (reads_idStringPair (hstrings _ _ rfl hsource))
        (serves_getObj (ServerInstance.serves_create hE hg rfl)))

/-! ## Creating kernels -/

/-- The error code is stored before the ID is resolved. -/
theorem awaits_kernel {K : ClientM Ret → ClientM Ret} (hK : Guard K) (errcode_ret : Bool) :
    Awaits List.length truncates (some (.registerID, .kernel)) ErrorReply IDReply
      (K (PacketStream.readPacket IDPacket >>= fun kernelID =>
        store errcode_ret (.errcode_ret CL_SUCCESS) >>= fun _ =>
          registerID .kernel kernelID.mData >>= fun kernel =>
            pure (.handle .kernel (some kernel)))) s s := by
  refine awaits_ID hK (.refl _ _) fun id => ?_
  simp only [Takes, Prog.wp_bind, wp_registerID, wp_store, Prog.afterBind_ok]
  exact ⟨_, _, rfl, rfl, rfl,
    ((Since.refl truncates s).stored_plain errcode_ret rfl rfl).apply .registerID .kernel id,
    fun x hx => hx⟩

theorem completes_clCreateKernel (hE : AllLegal A E) (hg : Good A t.mObjects)
    (program : Option Handle) {kernel_name : Option Bytes} (errcode_ret : Bool)
    (hname : StringFits (stringOf kernel_name)) :
    Completes E B A List.length truncates (clCreateKernel program kernel_name errcode_ret) s t
      e := by
  unfold clCreateKernel
  split
  · exact completes_returnError _ _ _
  · exact completes_returnError _ _ _
  · exact settles_call (guard_catchingError _ _ _) rfl
      ⟨_, _, _, waits_readPacket (context_catchingError _ _ _) _ _ _,
        serves_readPacket_last (by decide) (reads_idStringPair hname)
          (serves_getObj (ServerInstance.serves_create hE hg rfl)),
        awaits_kernel (guard_catchingError _ _ _) errcode_ret⟩

/-- A server for OpenCL 2.1 reads the request. -/
theorem completes_clCloneKernel (hB : 210 ≤ B.clTarget) (hE : AllLegal A E)
    (hg : Good A t.mObjects) (source_kernel : Option Handle) (errcode_ret : Bool) :
    Completes E B A List.length truncates (clCloneKernel source_kernel errcode_ret) s t e := by
  unfold clCloneKernel
  split
  · exact completes_returnError _ _ _
  · refine settles_call (guard_catchingError _ _ _) rfl
      ⟨_, _, _, waits_readPacket (context_catchingError _ _ _) _ _ _, ?_,
        awaits_kernel (guard_catchingError _ _ _) errcode_ret⟩
    rw [ServerInstance.cloneKernel, if_pos hB]
    exact serves_readPacket_last (by decide) (reads_dec _)
      (serves_getObj (ServerInstance.serves_create hE hg rfl))

theorem serves_createKernels (hE : AllLegal A E) (hg : Good A t.mObjects) (p : CreateKernels)
    (hp : p.mKernelCount ≠ 0) :
    Serves E A takes (some (.registerID, .kernel)) ErrorReply IDsReply ServerInstance.createKernels
      t (packet p) := by
  refine serves_readPacket_last (by decide) (reads_dec _)
    (serves_getObj fun e Q hplain hnaming => ?_)
  rw [Prog.wp_bind, Prog.wp_ask]
  intro a e' ha
  have hnamed : named (.clCreateKernelsInProgram (objectAt t.mObjects p.mProgramID)
      p.mKernelCount) a =
      if a.err = CL_SUCCESS ∧ p.mKernelCount ≠ 0 then createdKernels p.mKernelCount a else [] := rfl
  rw [Prog.afterBind_ok]
  by_cases herr : a.err ≠ CL_SUCCESS
  · rw [if_pos herr]
    exact hplain _ e' _ (.cons ha .nil)
      (namingsOf_eq_nil rfl (hnamed.trans (if_neg fun h => herr h.1))) ⟨a.err, herr, rfl⟩
  · rw [if_neg herr, if_neg hp]
    rw [if_pos ⟨not_not.mp herr, hp⟩] at hnamed
    exact ServerInstance.wp_writeIDs_named hE hg ha trivial hnamed fun ids mObjects w hids hw =>
      hnaming _ _ a e' ids mObjects w (.cons ha .nil) rfl rfl hids hw

/-- No kernels, only their number. -/
theorem serves_countKernels (p : CreateKernels) (hp : p.mKernelCount = 0) :
    Serves E A takes none (ValueReply UInt32) NoReply ServerInstance.createKernels t
      (packet p) := by
  refine serves_readPacket_last (by decide) (reads_dec _) (serves_getObj fun e Q hplain _ => ?_)
  rw [Prog.wp_bind, Prog.wp_ask]
  intro a e' ha
  have hnil : named (.clCreateKernelsInProgram (objectAt t.mObjects p.mProgramID)
      p.mKernelCount) a = [] := if_neg fun h => h.2 hp
  rw [Prog.afterBind_ok]
  by_cases herr : a.err ≠ CL_SUCCESS
  · rw [if_pos herr]
    exact hplain _ e' _ (.cons ha .nil) (namingsOf_eq_nil rfl hnil) (Or.inl ⟨a.err, herr, rfl⟩)
  · rw [if_neg herr, if_pos hp]
    exact hplain _ e' _ (.cons ha .nil) (namingsOf_eq_nil rfl hnil) (Or.inr ⟨_, rfl⟩)

/-- The client after it has stored a kernel. -/
def storedKernel (num_kernels_ret : Bool) (s : ClientState) (id : IDType) : ClientState :=
  ((s.registerID .kernel id).2.stored true (.next_entry .kernel (s.registerID .kernel id).1)).stored
    num_kernels_ret (.count_add 1)

/-- And after it has stored several. -/
def storedKernels (num_kernels_ret : Bool) (s : ClientState) (ids : List IDType) : ClientState :=
  ids.foldl (storedKernel num_kernels_ret) s

@[simp] theorem wp_storeKernels {H : ClientState → Bytes → Bytes → Prop} {num_kernels_ret : Bool}
    {ids : List IDType} {o u : Bytes} {e : Unit}
    {Q : Except Exn Unit → ClientState → Bytes → Bytes → Unit → Prop} :
    (storeKernels num_kernels_ret ids).wp noEnv H s o u e Q ↔
      Q (.ok ()) (storedKernels num_kernels_ret s ids) o u e := by
  induction ids generalizing s with
  | nil => rfl
  | cons id ids ih =>
    simp only [storeKernels, Prog.wp_bind, wp_registerID, wp_store, Prog.afterBind_ok, ih]
    rfl

theorem since_storedKernels {truncates : Bool} {s₀ s core : ClientState}
    {found : List (Kind × Lookup)} (h : Since truncates s₀ s found core) (num_kernels_ret : Bool)
    (ids : List IDType) :
    ∃ found', Since truncates s₀ (storedKernels num_kernels_ret s ids) found'
      (Resolve.registerID.applyAll core .kernel ids).2 := by
  induction ids generalizing s found core with
  | nil => exact ⟨found, h⟩
  | cons id ids ih =>
    have hfound := h.apply .registerID .kernel id
    have hstored := hfound.stored true
      (x := .next_entry .kernel (Resolve.registerID.apply s .kernel id).1)
      (fun y hy => List.mem_append_right _ hy) fun htrue => Bool.noConfusion htrue
    exact ih (hstored.stored_plain num_kernels_ret (x := .count_add 1) rfl rfl)

theorem completes_clCreateKernelsInProgram (hE : AllLegal A E) (hg : Good A t.mObjects)
    (program : Option Handle) (num_kernels : UInt32) (kernels num_kernels_ret : Bool) :
    Completes E B A List.length truncates
      (clCreateKernelsInProgram program num_kernels kernels num_kernels_ret) s t e := by
  unfold clCreateKernelsInProgram
  split
  · exact completes_code _
  split
  · exact completes_code _
  split
  · exact completes_code _
  have hK := guard_catching CL_OUT_OF_HOST_MEMORY CL_DEVICE_NOT_AVAILABLE
  by_cases hcount : num_kernels = 0
  · simp only [if_pos hcount]
    refine settles_call hK rfl ⟨_, _, _, waits_readPacket hK.context _ _ _,
      serves_countKernels _ hcount, awaits_value hK (.refl _ _) fun value => ?_⟩
    simp only [Takes, Prog.wp_bind, wp_store, Prog.afterBind_ok]
    exact ((Since.refl truncates s).stored_plain _ rfl rfl).took rfl
  · simp only [if_neg hcount]
    refine settles_call hK rfl ⟨_, _, _, waits_readPacket hK.context _ _ _,
      serves_createKernels hE hg _ hcount, awaits_IDs hK (.refl _ _) fun ids => ?_⟩
    simp only [Takes, Prog.wp_bind, wp_storeKernels, Prog.afterBind_ok]
    rw [List.take_length]
    obtain ⟨found, hstored⟩ := since_storedKernels (.refl truncates s) num_kernels_ret ids
    exact hstored.took rfl

/-! ## Payloads one after the other -/

/-- The packets of several payloads. -/
def payloads (zlib : Option Zlib) (sz : SizeT) (datas : List Bytes) : Bytes :=
  datas.flatMap fun data => PacketStream.frame .payload (encPayload zlib sz data)

/-- Reading payloads one after the other, by either party. -/
theorem wp_readAll {σ Q : Type} {Ans' : Q → Type} {ε : Type} {F : ε → (c : Q) → Ans' c → ε → Prop}
    {H : σ → Bytes → Bytes → Prop} {x : σ} {o u : Bytes} {y : ε} {r : Reader Bytes}
    (readAll : ℕ → Prog σ Exn Q Ans' (List Bytes)) (hzero : readAll 0 = pure [])
    (hsucc : ∀ n, readAll (n + 1) = PacketStream.read .payload r >>= fun data =>
      readAll n >>= fun datas => pure (data :: datas))
    {zlib : Option Zlib} {sz : SizeT} {datas : List Bytes}
    (hdatas : ∀ data ∈ datas, Reads r (encPayload zlib sz data) data)
    {P : Except Exn (List Bytes) → σ → Bytes → Bytes → ε → Prop} :
    (readAll datas.length).wp F H x o (payloads zlib sz datas ++ u) y P ↔
      P (.ok datas) x o u y := by
  induction datas generalizing P with
  | nil =>
    rw [List.length_nil, hzero]
    rfl
  | cons data datas ih =>
    rw [List.length_cons, hsucc, payloads, List.flatMap_cons, List.append_assoc, Prog.wp_bind,
      wp_read (by decide) (hdatas data List.mem_cons_self), Prog.afterBind_ok, Prog.wp_bind]
    exact ih fun d hd => hdatas d (List.mem_cons_of_mem _ hd)

/-- The client writes the binaries. -/
theorem settles_writeBinaries {F : CallConfig δ → Prop} (hF : Stable E (ServerInstance.serve B) F)
    {K : ClientM Ret → ClientM Ret} (hK : Prog.Context K) {binaries : List Bytes}
    (hbinaries : ∀ data ∈ binaries, data.length < SizeT.range .uint32) {k : Unit → ClientM Ret}
    {c : Side ServerState Exn ServerCall Ans Bool} {o u d : Bytes} :
    Settles E (ServerInstance.serve B) F
        ⟨⟨K (writeBinaries C binaries >>= k), s, o⟩, c, u, d, e⟩ ↔
      Settles E (ServerInstance.serve B) F
        ⟨⟨K (k ()), s, o ++ payloads C.zlib .uint32 binaries⟩, c, u, d, e⟩ := by
  induction binaries generalizing o with
  | nil =>
    rw [payloads, List.flatMap_nil, List.append_nil]
    rfl
  | cons data binaries ih =>
    rw [writeBinaries, bind_assoc, settles_client_write hF hK,
      ih fun d hd => hbinaries d (List.mem_cons_of_mem _ hd),
      encPayloadPtr_eq _ (hbinaries data List.mem_cons_self), payloads, payloads,
      List.flatMap_cons, List.append_assoc]

/-- The server reads as many binaries as there are devices. -/
theorem serves_readBinaries (hz : SameFormat C.zlib B.zlib) {u : Bytes} {binaries : List Bytes}
    (hbinaries : ∀ data ∈ binaries, data.length < SizeT.range .uint32)
    {use : Option (Resolve × Kind)} {plain : Bytes → Prop}
    {naming : List IDType → Bytes → Prop} {k : List Bytes → ServerM Unit}
    (h : Serves E A takes use plain naming (k binaries) t u) :
    Serves E A takes use plain naming
      (ServerInstance.readBinaries B binaries.length >>= k) t
      (payloads C.zlib .uint32 binaries ++ u) := by
  intro e Q hplain hnaming
  rw [Prog.wp_bind, wp_readAll (ServerInstance.readBinaries B) rfl (fun _ => rfl)
    fun data hdata => reads_payload hz (hbinaries data hdata) .payload .payload]
  exact h e Q hplain hnaming

/-- The server writes the binaries. -/
theorem wp_writeBinaries {H : ServerState → Bytes → Bytes → Prop} {o u : Bytes}
    {binaries : List Bytes} {Q : Except Exn Unit → ServerState → Bytes → Bytes → δ → Prop} :
    (ServerInstance.writeBinaries B binaries).wp E H t o u e Q ↔
      Q (.ok ()) t (o ++ payloads B.zlib .uint16 binaries) u e := by
  induction binaries generalizing o with
  | nil =>
    rw [payloads, List.flatMap_nil, List.append_nil]
    rfl
  | cons data binaries ih =>
    rw [ServerInstance.writeBinaries, Prog.wp_bind, ServerInstance.wp_writePayload,
      Prog.afterBind_ok, ih, payloads, payloads, List.flatMap_cons, List.append_assoc]

/-- The server writes the binaries, and goes on. -/
theorem settles_server_writeBinaries {F : CallConfig δ → Prop}
    (hF : Stable E (ServerInstance.serve B) F) {K : ServerM Unit → ServerM Bool}
    (hK : Prog.Context K) {binaries : List Bytes}
    {c : Side ClientState Exn Empty NoAnswer Ret} {o u d : Bytes} :
    Settles E (ServerInstance.serve B) F
        ⟨c, ⟨K (ServerInstance.writeBinaries B binaries), t, o⟩, u, d, e⟩ ↔
      Settles E (ServerInstance.serve B) F
        ⟨c, ⟨K (pure ()), t, o ++ payloads B.zlib .uint16 binaries⟩, u, d, e⟩ := by
  induction binaries generalizing o with
  | nil =>
    rw [payloads, List.flatMap_nil, List.append_nil]
    rfl
  | cons data binaries ih =>
    rw [payloads, List.flatMap_cons, ← List.append_assoc]
    exact (settles_server_write hF hK).trans ih

/-- The client reads payloads one after the other. -/
theorem settles_client_readBinaries {F : CallConfig δ → Prop}
    (hF : Stable E (ServerInstance.serve B) F) {K : ClientM Ret → ClientM Ret}
    (hK : Prog.Context K) {datas xs : List Bytes}
    (h : List.Forall₂ (fun data x =>
      Reads (decPayload C.zlib .uint16) (encPayload B.zlib .uint16 data) x) datas xs)
    {k : List Bytes → ClientM Ret} {c : Side ServerState Exn ServerCall Ans Bool}
    {o u d : Bytes} :
    Settles E (ServerInstance.serve B) F
        ⟨⟨K (readBinaries C datas.length >>= k), s, o⟩, c, u, payloads B.zlib .uint16 datas ++ d,
          e⟩ ↔
      Settles E (ServerInstance.serve B) F ⟨⟨K (k xs), s, o⟩, c, u, d, e⟩ := by
  induction h generalizing k with
  | nil => rfl
  | @cons data x datas xs hx _ ih =>
    have hsucc : readBinaries C (data :: datas).length >>= k =
        PacketStream.read .payload (decPayload C.zlib .uint16) >>= fun binary =>
          readBinaries C datas.length >>= fun binaries => k (binary :: binaries) := by
      rw [List.length_cons, readBinaries, bind_assoc]
      refine bind_congr fun binary => ?_
      rw [bind_assoc]
      rfl
    rw [hsucc, payloads, List.flatMap_cons, List.append_assoc]
    exact (settles_client_meets hF hK hx (by decide)).trans ih

/-! ## Programs from binaries -/

/-- The ID of a program, and the status of its binaries. -/
def BinaryReply (zlib : Option Zlib) (ids : List IDType) (w : Bytes) : Prop :=
  ∃ (id : IDType) (status : Bytes), ids = [id] ∧ status.length < SizeT.range .uint16 ∧
    w = packet (⟨id⟩ : IDPacket) ++ PacketStream.frame .payload (encPayload zlib .uint16 status)

theorem length_intBytes (status : List Int32) :
    (ServerInstance.intBytes status).length = 4 * status.length := by
  induction status with
  | nil => rfl
  | cons x status ih =>
    have henc : (enc x).length = 4 := length_leBytes 4 _
    rw [ServerInstance.intBytes, List.flatMap_cons, List.length_append, henc, List.length_cons]
    rw [ServerInstance.intBytes] at ih
    omega

theorem serves_createProgramFromBinary (hE : AllLegal A E) (hg : Good A t.mObjects)
    (hz : SameFormat C.zlib B.zlib) (context : IDType) {ids : List IDType}
    (hids : ids.length ≤ 255) {binaries : List Bytes} (hlen : ids.length = binaries.length)
    (hbinaries : ∀ data ∈ binaries, data.length < SizeT.range .uint32) :
    Serves E A takes (some (.registerID, .program)) ErrorReply (BinaryReply B.zlib)
      (ServerInstance.createProgramFromBinary B) t
      (packet (⟨context⟩ : BinaryProgram) ++ (packet (⟨ids⟩ : IDListPacket) ++
        payloads C.zlib .uint32 binaries)) := by
  rw [← List.append_nil (payloads C.zlib .uint32 binaries)]
  refine serves_readPacket (by decide) (reads_dec _) (serves_getObj
    (serves_readPacket (by decide) (reads_idListPacket (Nat.lt_succ_of_le hids))
      (serves_getObjs ?_)))
  rw [List.length_map, hlen]
  refine serves_readBinaries hz hbinaries fun e Q hplain hnaming => ?_
  rw [Prog.wp_bind, Prog.wp_ask]
  intro a e' ha
  rw [Prog.afterBind_ok]
  by_cases herr : a.err ≠ CL_SUCCESS
  · rw [if_pos herr]
    have hnil : named (.clCreateProgramWithBinary _ _ _) a = [] := if_neg herr
    exact hplain _ e' _ (.cons ha .nil) (namingsOf_eq_nil rfl hnil) ⟨a.err, herr, rfl⟩
  · rw [if_neg herr, Prog.wp_bind]
    refine ServerInstance.wp_writeID_named hE hg ha (if_pos (not_not.mp herr))
      fun id mObjects hid => ?_
    have hstatus : (ServerInstance.intBytes
        (storeInto (List.replicate binaries.length 0) a.status)).length <
          SizeT.range .uint16 := by
      rw [length_intBytes, length_storeInto, List.length_replicate, ← hlen]
      exact lt_of_le_of_lt (Nat.mul_le_mul_left 4 hids) (by decide)
    rw [Prog.afterBind_ok, ServerInstance.wp_writePayloadPtr, encPayloadPtr_eq _ hstatus]
    exact hnaming _ _ a e' [id] mObjects _ (.cons ha .nil) rfl rfl hid ⟨id, _, rfl, hstatus, rfl⟩

theorem completes_clCreateProgramWithBinary (hE : AllLegal A E) (hg : Good A t.mObjects)
    (hz : SameFormat B.zlib C.zlib) (hz' : SameFormat C.zlib B.zlib) (context : Option Handle)
    {device_list : Option (List (Option Handle))} {binaries : Option (List Bytes)}
    (binary_status errcode_ret : Bool) (hdevices : (device_list.getD []).length ≤ 255)
    (hbinaries : ∀ data ∈ binaries.getD [], data.length < SizeT.range .uint32) :
    Completes E B A List.length truncates
      (clCreateProgramWithBinary C context device_list binaries binary_status errcode_ret) s t
      e := by
  unfold clCreateProgramWithBinary
  split
  · exact completes_returnError _ _ _
  · exact completes_returnError _ _ _
  · exact completes_returnError _ _ _
  · exact completes_returnError _ _ _
  rename_i devices binaries _
  split
  · exact completes_returnError _ _ _
  rename_i mIDs hmIDs
  have hK := guard_catchingError .program errcode_ret CL_OUT_OF_HOST_MEMORY
  have hlen : mIDs.length = devices.length := length_handleIDs hmIDs
  have hall : ∀ data ∈ (List.range devices.length).map fun bin => binaries.getD bin [],
      data.length < SizeT.range .uint32 := by
    intro data hdata
    obtain ⟨i, -, rfl⟩ := List.mem_map.mp hdata
    rw [List.getD_eq_getElem?_getD]
    cases hi : binaries[i]? with
    | none => exact range_pos .uint32
    | some data => exact hbinaries data (List.mem_of_getElem? hi)
  rw [Completes, start, settles_client_writePacket stable_final hK.context,
    settles_client_writePacket stable_final hK.context,
    settles_writeBinaries stable_final hK.context hall, awaitID_bind,
    settles_client_flushes stable_final hK.context, List.nil_append, List.nil_append,
    List.append_assoc]
  refine settles_exchange rfl rfl ⟨_, _, _, waits_readPacket hK.context _ _ _,
    serves_createProgramFromBinary hE hg hz' _ (hlen ▸ hdevices) ?_ hall, ?_, ?_⟩
  · rw [hlen, List.length_map, List.length_range]
  · exact fun w hw => takes_error hK (.refl _ _) hw
  · rintro ids w ⟨id, status, rfl, hstatus, rfl⟩
    refine ⟨_, _, rfl, hK.wp ?_⟩
    rw [Prog.wp_bind, wp_readPacket (by decide) (reads_dec _), Prog.afterBind_ok, Prog.wp_bind,
      wp_resolve, Prog.afterBind_ok]
    have hfound := (Since.refl truncates s).apply .registerID .program id
    cases binary_status with
    | true =>
      simp only [if_true]
      rw [Prog.wp_bind, wp_read_last (show Ordinary .payload by decide)
        (reads_decPayloadInto hz hstatus (payloadForm_encPayload _ hstatus))]
      simp only [Prog.wp_bind, wp_store, Prog.afterBind_ok]
      exact ⟨_, _, rfl, rfl, rfl, (hfound.stored_plain _ rfl rfl).stored_plain _ rfl rfl,
        fun x hx => hx⟩
    | false =>
      simp only [Bool.false_eq_true, if_false]
      rw [Prog.wp_bind, wp_read_last (show Ordinary .payload by decide)
        (reads_decPayload hz hstatus (payloadForm_encPayload _ hstatus))]
      simp only [Prog.wp_bind, wp_store, Prog.afterBind_ok]
      exact ⟨_, _, rfl, rfl, rfl, hfound.stored_plain _ rfl rfl, fun x hx => hx⟩

/-! ## Queries about programs -/

/-- A log that is longer than the first buffer arrives as zeros. -/
theorem serves_getProgramBuildInfo (hE : AllLegal A E) (p : ProgramBuildInfo) :
    Serves E A takes none (PayloadReply B.zlib .uint32) NoReply
      (ServerInstance.getProgramBuildInfo B) t (packet p) := by
  refine serves_readPacket_last (by decide) (reads_dec _) (serves_getObj (serves_getObj
    (ServerInstance.serves_checked (fun _ => rfl) (fun _ hw => Or.inl hw)
      (fun a e e₁ ha _ => ?_) fun _ _ _ _ _ => rfl)))
  have hsize : a.size.getD 0 ≤ 2 ^ 32 - 1 := ServerInstance.size_le hE ha (Nat.zero_le _)
  have hreply : ∀ (data : Bytes) (n : ℕ), n ≤ 2 ^ 32 - 1 →
      Serves E A takes none (PayloadReply B.zlib .uint32) NoReply
        (ServerInstance.resize 1 n >>= fun _ =>
          ServerInstance.writePayload B .uint32 (memRead data n)) t [] := by
    intro data n hn e Q hplain _
    rw [Prog.wp_bind, ServerInstance.wp_resize (by rw [ServerInstance.vectorMaxSize]; omega),
      Prog.afterBind_ok, ServerInstance.wp_writePayload]
    refine hplain [] e _ .nil rfl (Or.inr ⟨_, ?_, rfl⟩)
    rw [length_memRead]
    exact lt_of_le_of_lt hn (by decide)
  by_cases hlarge : 1024 < a.size.getD 0
  · rw [if_pos hlarge]
    intro e Q hplain hnaming
    rw [Prog.wp_bind, ServerInstance.wp_info]
    intro b e₂ hb
    refine hreply _ _ (ServerInstance.size_le hE hb hsize) e₂ Q (fun log e' w hlog hn hw => ?_)
      fun _ _ _ _ _ _ _ _ _ _ _ hw => hw.elim
    exact hplain _ e' w (.cons hb hlog) (ServerInstance.namingsOf_cons_eq_nil rfl hn) hw
  · rw [if_neg hlarge]
    exact hreply _ _ hsize

theorem completes_clGetProgramBuildInfo (hE : AllLegal A E) (hz : SameFormat B.zlib C.zlib)
    (program device : Option Handle) (param_name : UInt32) (args : InfoArgs) :
    Completes E B A takes truncates (clGetProgramBuildInfo C program device param_name args) s t
      e := by
  unfold clGetProgramBuildInfo
  split
  · exact completes_code _
  · exact completes_code _
  refine settles_call (guard_catching _ _) rfl ⟨_, _, _, waits_read (context_catching _ _) _ _ _ _,
    serves_getProgramBuildInfo hE _,
    awaits_payload (guard_catching _ _) hz .payload (.refl _ _) fun data => ?_⟩
  simp only [Takes, storePrefix, Prog.wp_bind, wp_store, Prog.afterBind_ok]
  exact (((Since.refl truncates s).stored_plain _ rfl rfl).stored_plain _ rfl rfl).took rfl

/-- How many of the objects in a reply about a program are looked up: all of its devices, if there
is room for them. -/
def takesOfProgram (param_name : UInt32) (args : InfoArgs) (ids : List IDType) : ℕ :=
  if param_name = CL_PROGRAM_DEVICES then
    takesIf (fun ids => args.param_value && decide (ids.length * 8 ≤ args.param_value_size)) ids
  else ids.length

/-- The number of the binaries, and the binaries. -/
def BinariesReply (zlib : Option Zlib) (w : Bytes) : Prop :=
  ErrorReply w ∨ ∃ binaries : List Bytes, binaries.length ≤ 255 ∧
    (∀ data ∈ binaries, data.length < SizeT.range .uint16) ∧
    w = packet (⟨UInt8.ofNat binaries.length⟩ : SimplePacket .payload UInt8) ++
      payloads zlib .uint16 binaries

section ProgramInfo

variable (p : ProgramInfo)

theorem namedByInfo_program_zero (program : Ptr) (param : UInt32) (a : InfoAns) :
    namedByInfo (.clGetProgramInfo program param) 0 a = [] := by
  rw [namedByInfo]
  split
  · rfl
  · split <;> rfl

theorem namedByInfo_program_other {param : UInt32} (hcontext : param ≠ CL_PROGRAM_CONTEXT)
    (hdevices : param ≠ CL_PROGRAM_DEVICES) (program : Ptr) (n : ℕ) (a : InfoAns) :
    namedByInfo (.clGetProgramInfo program param) n a = [] :=
  (if_neg hcontext).trans (if_neg hdevices)

variable (hE : AllLegal A E)
include hE

/-- The second query is not checked for errors. -/
theorem serves_programContext (hg : Good A t.mObjects) (hp : p.mData = CL_PROGRAM_CONTEXT) :
    Serves E A takes (some (.getObject, .context)) ErrorReply IDReply
      (ServerInstance.getProgramInfo B) t (packet p) := by
  refine serves_readPacket_last (by decide) (reads_dec _) (serves_getObj
    (ServerInstance.serves_checked (namedByInfo_program_zero _ _) (fun _ hw => hw)
      (fun first _ _ _ _ => ?_) fun _ _ _ _ _ => rfl))
  simp only [if_pos hp]
  intro e Q _ hnaming
  rw [Prog.wp_bind, ServerInstance.wp_info]
  intro a e' ha
  refine ServerInstance.wp_writeID_named hE hg ha (if_pos hp) fun id mObjects hid =>
    hnaming _ _ a e' [id] mObjects _ (.cons ha .nil) rfl ?_ hid ⟨id, rfl, rfl⟩
  exact if_pos hp

theorem serves_programDevices (hg : Good A t.mObjects) (hp : p.mData = CL_PROGRAM_DEVICES) :
    Serves E A takes (some (.getObject, .deviceID)) ErrorReply IDsReply
      (ServerInstance.getProgramInfo B) t (packet p) := by
  refine serves_readPacket_last (by decide) (reads_dec _) (serves_getObj
    (ServerInstance.serves_checked (namedByInfo_program_zero _ _) (fun _ hw => hw)
      (fun first _ _ hfirst _ => ?_) fun _ _ _ _ _ => rfl))
  have hne : p.mData ≠ CL_PROGRAM_CONTEXT := by rw [hp]; decide
  simp only [if_neg hne, if_pos hp]
  intro e Q _ hnaming
  have hcount : first.size.getD 0 ≤ 8 * 255 := by
    have h := ServerInstance.size_le hE hfirst (Nat.zero_le _)
    rwa [infoLimit, if_pos (Or.inl hp)] at h
  have hvector : 8 * (first.size.getD 0 / 8) ≤ ServerInstance.vectorMaxSize := by
    rw [ServerInstance.vectorMaxSize]
    omega
  rw [Prog.wp_bind, ServerInstance.wp_resize hvector, Prog.afterBind_ok, Prog.wp_bind,
    ServerInstance.wp_info]
  intro a e' ha
  refine ServerInstance.wp_writeIDs_named hE hg ha hcount ?_ fun ids mObjects w hids hw =>
    hnaming _ _ a e' ids mObjects w (.cons ha .nil) rfl ?_ hids hw
  · exact (if_neg hne).trans (if_pos hp)
  · exact (if_neg hne).trans (if_pos hp)

omit hE in
/-- Binaries of the sizes that the driver reports. -/
theorem fillBinaries_fits {sizes : List ℕ} (hsizes : ∀ n ∈ sizes, n ≤ 65535)
    (binaries : List Bytes) :
    (ServerInstance.fillBinaries sizes binaries).length = sizes.length ∧
      ∀ data ∈ ServerInstance.fillBinaries sizes binaries,
        data.length < SizeT.range .uint16 := by
  induction sizes generalizing binaries with
  | nil => exact ⟨rfl, fun _ h => absurd h List.not_mem_nil⟩
  | cons n sizes ih =>
    obtain ⟨hlen, hfits⟩ := ih (fun m hm => hsizes m (List.mem_cons_of_mem _ hm)) binaries.tail
    refine ⟨?_, fun data hdata => ?_⟩
    · rw [ServerInstance.fillBinaries, List.length_cons, List.length_cons, hlen]
    · rcases List.mem_cons.mp hdata with rfl | hdata
      · rw [length_storeInto, length_zeros]
        exact Nat.lt_succ_of_le (hsizes n List.mem_cons_self)
      · exact hfits data hdata

omit hE in
/-- Vectors that there can be. -/
theorem wp_resizeAll {H : ServerState → Bytes → Bytes → Prop} {o u : Bytes} {sizes : List ℕ}
    (hsizes : ∀ n ∈ sizes, n ≤ 65535)
    {Q : Except Exn Unit → ServerState → Bytes → Bytes → δ → Prop} :
    (ServerInstance.resizeAll sizes).wp E H t o u e Q ↔ Q (.ok ()) t o u e := by
  induction sizes with
  | nil => rfl
  | cons n sizes ih =>
    have hn : 1 * n ≤ ServerInstance.vectorMaxSize := by
      have := hsizes n List.mem_cons_self
      rw [ServerInstance.vectorMaxSize]
      omega
    rw [ServerInstance.resizeAll, Prog.wp_bind, ServerInstance.wp_resize hn, Prog.afterBind_ok]
    exact ih fun m hm => hsizes m (List.mem_cons_of_mem _ hm)

theorem serves_programBinaries (hp : p.mData = CL_PROGRAM_BINARIES) :
    Serves E A takes none (BinariesReply B.zlib) NoReply
      (ServerInstance.getProgramInfo B) t (packet p) := by
  have hcontext : p.mData ≠ CL_PROGRAM_CONTEXT := by rw [hp]; decide
  have hdevices : p.mData ≠ CL_PROGRAM_DEVICES := by rw [hp]; decide
  refine serves_readPacket_last (by decide) (reads_dec _) (serves_getObj
    (ServerInstance.serves_checked (namedByInfo_program_zero _ _) (fun _ hw => Or.inl hw)
      (fun first _ _ hfirst _ => ?_) fun _ _ _ _ _ => rfl))
  simp only [if_neg hcontext, if_neg hdevices, if_pos hp]
  have hcount : first.size.getD 0 ≤ 8 * 255 := by
    have h := ServerInstance.size_le hE hfirst (Nat.zero_le _)
    rwa [infoLimit, if_pos (Or.inr hp)] at h
  have hvector : 8 * (first.size.getD 0 / 8) ≤ ServerInstance.vectorMaxSize := by
    rw [ServerInstance.vectorMaxSize]
    omega
  intro e Q hplain hnaming
  rw [Prog.wp_bind, ServerInstance.wp_resize hvector, Prog.afterBind_ok]
  refine ServerInstance.serves_checked (fun _ => ?_) (fun _ hw => Or.inl hw)
    (fun a e₁ e₂ ha herr => ?_) (fun _ _ _ _ _ => rfl) e Q hplain hnaming
  · exact namedByInfo_program_other (by decide) (by decide) _ _ _
  have hsizes : ∀ n ∈ (words (first.size.getD 0 / 8)
      (storeInto (zeros (8 * (first.size.getD 0 / 8))) a.data)).map UInt64.toNat, n ≤ 65535 := by
    intro n hn
    obtain ⟨w, hw, rfl⟩ := List.mem_map.mp hn
    have hlegal := (hE _ _ _ _ ha).fits.2 rfl herr
    rw [Nat.mul_div_cancel_left _ (by omega : 0 < 8)] at hlegal
    exact hlegal w hw
  intro e Q hplain _
  rw [Prog.wp_bind, wp_resizeAll hsizes, Prog.afterBind_ok, Prog.wp_bind, Prog.wp_ask]
  intro b e₃ hb
  obtain ⟨hlen, hfits⟩ := fillBinaries_fits hsizes b.binaries
  rw [Prog.afterBind_ok, Prog.wp_bind, ServerInstance.wp_writeValue, Prog.afterBind_ok,
    wp_writeBinaries, List.nil_append, ← hlen]
  refine hplain _ e₃ _ (.cons hb .nil) (namingsOf_eq_nil rfl rfl) (Or.inr ⟨_, ?_, hfits, rfl⟩)
  rw [hlen, List.length_map, length_words]
  omega

/-- What is known about a program besides. -/
theorem serves_programInfo (hcontext : p.mData ≠ CL_PROGRAM_CONTEXT)
    (hdevices : p.mData ≠ CL_PROGRAM_DEVICES) (hbinaries : p.mData ≠ CL_PROGRAM_BINARIES) :
    Serves E A takes none (PayloadReply B.zlib .uint32) NoReply
      (ServerInstance.getProgramInfo B) t (packet p) := by
  refine serves_readPacket_last (by decide) (reads_dec _) (serves_getObj
    (ServerInstance.serves_checked (namedByInfo_program_zero _ _) (fun _ hw => Or.inl hw)
      (fun first _ _ hfirst _ => ?_) fun _ _ _ _ _ => rfl))
  simp only [if_neg hcontext, if_neg hdevices, if_neg hbinaries]
  have hsize : first.size.getD 0 ≤ 2 ^ 32 - 1 :=
    (ServerInstance.size_le hE hfirst (Nat.zero_le _)).trans (ServerInstance.infoLimit_le _)
  have hvector : 1 * first.size.getD 0 ≤ ServerInstance.vectorMaxSize := by
    rw [ServerInstance.vectorMaxSize]
    omega
  intro e Q hplain hnaming
  rw [Prog.wp_bind, ServerInstance.wp_resize hvector, Prog.afterBind_ok]
  refine ServerInstance.serves_checked (fun _ => ?_) (fun _ hw => Or.inl hw)
    (fun a e₁ e₂ ha herr => ?_) (fun _ _ _ _ _ => rfl) e Q hplain hnaming
  · exact namedByInfo_program_other hcontext hdevices _ _ _
  · intro e Q hplain _
    rw [ServerInstance.wp_writePayload]
    refine hplain [] e _ .nil rfl (Or.inr ⟨_, ?_, rfl⟩)
    rw [length_storeInto, length_zeros]
    exact lt_of_le_of_lt hsize (by decide)

end ProgramInfo

/-- The client reads as many binaries as the reply announces. -/
theorem awaits_binaries {K : ClientM Ret → ClientM Ret} (hK : Guard K)
    (hz : SameFormat B.zlib C.zlib) (args : InfoArgs) :
    Awaits takes truncates none (BinariesReply B.zlib) NoReply
      (K (PacketStream.readPacket (SimplePacket .payload UInt8) >>= fun binaryCount =>
        readBinaries C binaryCount.mData.toNat >>= fun binaries =>
          store args.param_value_size_ret
            (.param_value_size_ret (binaryCount.mData.toNat * 8)) >>= fun _ =>
            store args.param_value (.binaries binaries) >>= fun _ =>
              pure (.code CL_SUCCESS))) s s where
  plain w hw := by
    rcases hw with hw | ⟨binaries, hlen, hfits, rfl⟩
    · exact takes_error hK (.refl _ _) hw
    have hcount : (UInt8.ofNat binaries.length).toNat = binaries.length := by
      rw [UInt8.toNat_ofNat']
      exact Nat.mod_eq_of_lt (Nat.lt_succ_of_le hlen)
    refine hK.wp ?_
    rw [Prog.wp_bind, wp_readPacket (show Ordinary .payload by decide)
      (reads_dec (⟨UInt8.ofNat binaries.length⟩ : SimplePacket .payload UInt8)),
      Prog.afterBind_ok]
    show Prog.wp _ _ (readBinaries C (UInt8.ofNat binaries.length).toNat >>= _) _ _ _ _ _
    rw [hcount, Prog.wp_bind, ← List.append_nil (payloads B.zlib .uint16 binaries),
      wp_readAll (readBinaries C) rfl (fun _ => rfl) fun data hdata =>
        reads_payload hz (hfits data hdata) .payload .payload]
    simp only [Prog.wp_bind, wp_store, Prog.afterBind_ok]
    exact (((Since.refl truncates s).stored_plain _ rfl rfl).stored_plain _ rfl rfl).took rfl
  naming _ _ h := h.elim

theorem completes_clGetProgramInfo (hE : AllLegal A E) (hg : Good A t.mObjects)
    (hz : SameFormat B.zlib C.zlib) (program : Option Handle) (param_name : UInt32)
    (args : InfoArgs) :
    Completes E B A (takesOfProgram param_name args) truncates
      (clGetProgramInfo C program param_name args) s t e := by
  unfold clGetProgramInfo
  split
  · exact completes_code _
  have hK := guard_catching CL_OUT_OF_HOST_MEMORY CL_DEVICE_NOT_AVAILABLE
  by_cases hcontext : param_name = CL_PROGRAM_CONTEXT
  · simp only [if_pos hcontext]
    refine settles_call hK rfl ⟨_, _, _, waits_readPacket hK.context _ _ _,
      serves_programContext _ hE hg hcontext, awaits_ID hK (.refl _ _) fun id => ?_⟩
    have htakes : takesOfProgram param_name args [id] = 1 := if_neg (by rw [hcontext]; decide)
    simp only [Takes, Prog.wp_bind, wp_getObject, wp_store, Prog.afterBind_ok]
    have hfound := (Since.refl truncates s).apply .getObject .context id
    rw [htakes]
    exact ((hfound.stored_plain _ rfl rfl).stored (args.roomForHandle)
      (x := .param_handles .context [_]) (fun y hy => hy) fun h => Bool.noConfusion h).took rfl
  by_cases hdevices : param_name = CL_PROGRAM_DEVICES
  · simp only [if_neg hcontext, if_pos hdevices]
    refine settles_call hK rfl ⟨_, _, _, waits_readPacket hK.context _ _ _,
      serves_programDevices _ hE hg hdevices, awaits_IDs hK (.refl _ _) fun ids => ?_⟩
    have htakes : takesOfProgram param_name args ids = takesIf (fun ids => args.param_value &&
        decide (ids.length * 8 ≤ args.param_value_size)) ids := if_pos hdevices
    rw [htakes, takesIf]
    have hstored := (Since.refl truncates s).stored_plain args.param_value_size_ret
      (x := .param_value_size_ret (ids.length * 8)) rfl rfl
    cases hroom : args.param_value && decide (ids.length * 8 ≤ args.param_value_size) with
    | false =>
      simp only [Takes, Prog.wp_bind, wp_store, Prog.afterBind_ok]
      exact hstored.took rfl
    | true =>
      simp only [Takes, Prog.wp_bind, wp_store, wp_resolveAll, Prog.afterBind_ok, if_true]
      rw [List.take_length]
      exact ((hstored.applyAll .getObject .deviceID ids).stored true
        (x := .param_handles .deviceID _) (fun y hy => hy) fun h => Bool.noConfusion h).took rfl
  by_cases hbinaries : param_name = CL_PROGRAM_BINARIES
  · simp only [if_neg hcontext, if_neg hdevices, if_pos hbinaries]
    exact settles_call hK rfl ⟨_, _, _, waits_readPacket hK.context _ _ _,
      serves_programBinaries _ hE hbinaries, awaits_binaries hK hz args⟩
  · simp only [if_neg hcontext, if_neg hdevices, if_neg hbinaries]
    refine settles_call hK rfl ⟨_, _, _, waits_read hK.context _ _ _ _,
      serves_programInfo _ hE hcontext hdevices hbinaries,
      awaits_payload hK hz .payload (.refl _ _) fun data => ?_⟩
    simp only [Takes, storePrefix, Prog.wp_bind, wp_store, Prog.afterBind_ok]
    exact (((Since.refl truncates s).stored_plain _ rfl rfl).stored_plain _ rfl rfl).took rfl

end Programs

end RemoteCL.Client

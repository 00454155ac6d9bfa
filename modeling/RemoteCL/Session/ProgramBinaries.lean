import RemoteCL.Session.Calls.Programs
import RemoteCL.Session.Record

/-!
# Binaries of programs

A request for a program from binaries is a header, the list of the devices, and one payload for each
device.  The client writes as many payloads as there are devices in its list, and the server reads
as many as there are in the list it has got, so up to 255 devices they agree.  A null pointer
crosses as an empty payload.  The reply to a success has a second part, the status of each binary.
-/

namespace RemoteCL

open ByteStream Conversation Wire LawfulWire Client

/-! ## The status of the binaries -/

/-- An array of `cl_int` has its values one behind the other. -/
theorem take_drop_intBytes (status : List Int32) {i : ℕ} {v : Int32} (h : status[i]? = some v) :
    ((ServerInstance.intBytes status).drop (4 * i)).take 4 = enc v := by
  have hfour : ∀ v : Int32, (enc v).length = 4 := fun v => length_leBytes 4 _
  induction status generalizing i with
  | nil => cases h
  | cons x status ih =>
    rw [ServerInstance.intBytes, List.flatMap_cons]
    cases i with
    | zero =>
      cases h
      rw [Nat.mul_zero, List.drop_zero, List.take_left' (hfour v)]
    | succ i =>
      have hrest : 4 * (i + 1) = (enc x).length + 4 * i := by
        rw [hfour]
        omega
      rw [hrest, List.drop_append, Nat.add_sub_cancel_left,
        List.drop_eq_nil_of_le (Nat.le_add_right _ _), List.nil_append]
      exact ih h

/-- The status of `n` binaries is in memory as the driver has stored it. -/
def StatusOf (n : ℕ) (stored : List Int32) (status : Bytes) : Prop :=
  status.length = 4 * n ∧
    ∀ i < n, ∀ v, stored[i]? = some v → (status.drop (4 * i)).take 4 = enc v

theorem statusOf_storeInto (n : ℕ) (stored : List Int32) :
    StatusOf n stored (ServerInstance.intBytes (storeInto (List.replicate n 0) stored)) := by
  constructor
  · rw [length_intBytes, length_storeInto, List.length_replicate]
  · intro i hi v hv
    refine take_drop_intBytes _ ?_
    have hlt : i < stored.length := (List.getElem?_eq_some_iff.mp hv).1
    rw [storeInto, List.length_replicate, List.getElem?_append_left,
      List.getElem?_take_of_lt hi, hv]
    rw [List.length_take]
    exact lt_min hi hlt

/-! ## The call -/

section Load

variable {D : Driver} {B : ServerBuild} {C : Build} {s : ClientState} {t : ServerState}

/-- The binaries of some devices as the client sees them: none for a null pointer. -/
def binariesOf (devices : List (Handle × Option Bytes)) : List Bytes :=
  devices.map fun d => d.2.getD []

@[simp] theorem length_binariesOf (devices : List (Handle × Option Bytes)) :
    (binariesOf devices).length = devices.length := List.length_map _

theorem length_objectsOf_devices (t : ServerState) (devices : List (Handle × Option Bytes)) :
    (objectsOf t (devices.map Prod.fst)).length = (binariesOf devices).length := by
  rw [length_objectsOf, List.length_map, length_binariesOf]

/-- The call for some devices and their binaries. -/
def loadProgram (C : Build) (context : Handle) (devices : List (Handle × Option Bytes))
    (binary_status errcode_ret : Bool) : ClientM Ret :=
  clCreateProgramWithBinary C (some context) (some ((devices.map Prod.fst).map some))
    (some (binariesOf devices)) binary_status errcode_ret

/-- The question that is meant: each device with its binary. -/
def loadCall (t : ServerState) (context : Handle) (devices : List (Handle × Option Bytes)) :
    ServerCall :=
  .clCreateProgramWithBinary (objectAt t.mObjects (GetID context))
    (objectsOf t (devices.map Prod.fst)) (binariesOf devices)

/-- What the client does with the ID of the program. -/
def awaitStatus (C : Build) (binary_status errcode_ret : Bool) (P : Lookup) : ClientM Ret :=
  if binary_status then
    PacketStream.read .payload (decPayloadInto C.zlib .uint16) >>= fun status =>
      store true (.binary_status status) >>= fun _ =>
        store errcode_ret (.errcode_ret CL_SUCCESS) >>= fun _ => pure (.handle .program (some P))
  else
    PacketStream.read .payload (decPayload C.zlib .uint16) >>= fun _ =>
      store errcode_ret (.errcode_ret CL_SUCCESS) >>= fun _ => pure (.handle .program (some P))

theorem loadProgram_eq (context : Handle) {devices : List (Handle × Option Bytes)}
    (hdevices : devices ≠ []) (binary_status errcode_ret : Bool) :
    loadProgram C context devices binary_status errcode_ret =
      catchingError .program errcode_ret CL_OUT_OF_HOST_MEMORY
        (PacketStream.writePacket (⟨GetID context⟩ : BinaryProgram) >>= fun _ =>
          PacketStream.writePacket (⟨(devices.map Prod.fst).map GetID⟩ : IDListPacket) >>= fun _ =>
            writeBinaries C (binariesOf devices) >>= fun _ => PacketStream.flush >>= fun _ =>
              PacketStream.readPacket IDPacket >>= fun id =>
                resolve .registerID .program id.mData >>=
                  awaitStatus C binary_status errcode_ret) := by
  have hbinaries : (List.range devices.length).map
      (fun bin => (binariesOf devices).getD bin []) = binariesOf devices := by
    refine List.ext_getElem (by simp) fun i hi hi' => ?_
    rw [List.getElem_map, List.getElem_range, List.getD_eq_getElem _ _ hi']
  have hids := handleIDs_map_some (devices.map Prod.fst)
  obtain ⟨d, rest, rfl⟩ := List.exists_cons_of_ne_nil hdevices
  rw [List.map_cons, List.map_cons] at hids
  rw [loadProgram, List.map_cons, List.map_cons, clCreateProgramWithBinary, hids]
  · simp only [List.length_cons, List.length_map] at hbinaries ⊢
    rw [hbinaries, awaitID_bind]
    rfl
  · exact List.cons_ne_nil _ _

/-- The packets of the request. -/
theorem settles_loadProgram {F : CallConfig (List Asked) → Prop}
    (hF : Stable D.environment (ServerInstance.serve B) F) (context : Handle)
    {devices : List (Handle × Option Bytes)} (hdevices : devices ≠ [])
    (hbinaries : ∀ data ∈ binariesOf devices, data.length < SizeT.range .uint32)
    (binary_status errcode_ret : Bool) :
    Settles D.environment (ServerInstance.serve B) F
        (start B (loadProgram C context devices binary_status errcode_ret) s t []) ↔
      Settles D.environment (ServerInstance.serve B) F
        ⟨⟨catchingError .program errcode_ret CL_OUT_OF_HOST_MEMORY
            (PacketStream.readPacket IDPacket >>= fun id =>
              resolve .registerID .program id.mData >>= awaitStatus C binary_status errcode_ret),
            s, []⟩, ⟨ServerInstance.serve B, t, []⟩,
          packet (⟨GetID context⟩ : BinaryProgram) ++
            (packet (⟨(devices.map Prod.fst).map GetID⟩ : IDListPacket) ++
              payloads C.zlib .uint32 (binariesOf devices)), [], []⟩ := by
  have hK := context_catchingError .program errcode_ret CL_OUT_OF_HOST_MEMORY
  rw [loadProgram_eq context hdevices, start, settles_client_writePacket hF hK,
    settles_client_writePacket hF hK, settles_writeBinaries hF hK hbinaries,
    settles_client_flushes hF hK, List.nil_append, List.nil_append, List.append_assoc]

/-- The server reads as many binaries as there are devices. -/
theorem settles_readBinaries {F : CallConfig (List Asked) → Prop}
    (hF : Stable D.environment (ServerInstance.serve B) F) (hz : SameFormat C.zlib B.zlib)
    {binaries : List Bytes} (hbinaries : ∀ data ∈ binaries, data.length < SizeT.range .uint32)
    {k : List Bytes → ServerM Unit} {c : Side ClientState Exn Empty NoAnswer Ret}
    {log : List Asked} {n : ℕ} (hn : n = binaries.length)
    (h : Settles D.environment (ServerInstance.serve B) F
      ⟨c, ⟨ServerInstance.iteration (k binaries >>= fun _ => pure true), t, []⟩, [], [], log⟩) :
    Settles D.environment (ServerInstance.serve B) F
      ⟨c, ⟨ServerInstance.iteration ((ServerInstance.readBinaries B n >>= k) >>=
        fun _ => pure true), t, []⟩, payloads C.zlib .uint32 binaries, [], log⟩ := by
  rw [hn, ← List.append_nil (payloads _ _ _)]
  refine settles_server_wp hF ((Prog.Context.bind k).comp context_handler)
    (H := fun _ _ _ => False) (fun _ _ _ _ h => h.elim) ?_
  rw [wp_readAll (ServerInstance.readBinaries B) rfl (fun _ => rfl)
    fun data hdata => reads_payload hz (hbinaries data hdata) .payload .payload]
  exact h

/-- **What the driver is given**: every device and every binary. -/
theorem settles_firstCall_load (hz : SameFormat C.zlib B.zlib) (context : Handle)
    {devices : List (Handle × Option Bytes)} (hdevices : devices ≠ []) (hlen : devices.length ≤ 255)
    (hbinaries : ∀ data ∈ binariesOf devices, data.length < SizeT.range .uint32)
    (binary_status errcode_ret : Bool) :
    Settles D.environment (ServerInstance.serve B)
      (FirstCall fun q => q = ⟨loadCall t context devices, D [] _⟩)
      (start B (loadProgram C context devices binary_status errcode_ret) s t []) := by
  have hids : ((devices.map Prod.fst).map GetID).length < SizeT.range .uint8 := by
    rw [List.length_map, List.length_map]
    exact Nat.lt_succ_of_le hlen
  refine (settles_loadProgram stable_firstCall context hdevices hbinaries binary_status
    errcode_ret).mpr ?_
  refine (settles_dispatches (h := ServerInstance.createProgramFromBinary B) stable_firstCall rfl
    rfl).mpr ?_
  refine (settles_server_meets_packet stable_firstCall context_handler (by decide)).mpr ?_
  refine (settles_server_get stable_firstCall context_handler).mpr ?_
  refine (settles_server_meets stable_firstCall context_handler (reads_idListPacket hids)
    (show Ordinary .idList by decide)).mpr ?_
  refine (settles_server_get stable_firstCall context_handler).mpr ?_
  rw [map_objectAt_map_GetID]
  refine settles_readBinaries stable_firstCall hz hbinaries
    (length_objectsOf_devices t devices) ?_
  refine (settles_server_ask stable_firstCall context_handler).mpr ?_
  rintro a _ ⟨rfl, rfl⟩
  exact Settles.final ⟨_, _, rfl, rfl⟩

/-- What the application has when the call has returned. -/
def Loads (n : ℕ) (s : ClientState) (t : ServerState) (a : BinaryAns)
    (binary_status errcode_ret : Bool) (r : Ret) (s' : ClientState) (t' : ServerState) : Prop :=
  (a.err ≠ CL_SUCCESS ∧ r = .handle .program none ∧
      s' = s.stored errcode_ret (.errcode_ret a.err) ∧ t' = t) ∨
    (a.err = CL_SUCCESS ∧ ∃ id mObjects status, assignID t.mObjects a.object = some (id, mObjects) ∧
      StatusOf n a.status status ∧
      r = .handle .program (some (Resolve.registerID.apply s .program id).1) ∧
      s' = ((Resolve.registerID.apply s .program id).2.stored binary_status
        (.binary_status status)).stored errcode_ret (.errcode_ret CL_SUCCESS) ∧
      t' = { t with mObjects })

/-- The client takes the reply to a success in. -/
theorem takes_loaded (hz : SameFormat B.zlib C.zlib) {status : Bytes}
    (hlen : status.length < SizeT.range .uint16) (binary_status errcode_ret : Bool) (id : IDType)
    {Q : Except Exn Ret → ClientState → Bytes → Bytes → Unit → Prop}
    (h : Q (.ok (.handle .program (some (Resolve.registerID.apply s .program id).1)))
      (((Resolve.registerID.apply s .program id).2.stored binary_status
        (.binary_status status)).stored errcode_ret (.errcode_ret CL_SUCCESS)) [] [] ()) :
    Takes (catchingError .program errcode_ret CL_OUT_OF_HOST_MEMORY
      (PacketStream.readPacket IDPacket >>= fun id =>
        resolve .registerID .program id.mData >>= awaitStatus C binary_status errcode_ret)) s
      (packet (⟨id⟩ : IDPacket) ++
        PacketStream.frame .payload (encPayloadPtr B.zlib .uint16 status))
      Q := by
  rw [Takes, wp_catchingError, Prog.wp_bind, wp_readPacket (by decide) (reads_dec _)]
  simp only [Prog.afterBind_ok, Prog.wp_bind, wp_resolve, awaitStatus]
  rw [encPayloadPtr_eq _ hlen]
  cases binary_status with
  | true =>
    rw [if_pos rfl, Prog.wp_bind, wp_read_last (show Ordinary .payload by decide)
      (reads_decPayloadInto hz hlen (payloadForm_encPayload _ hlen))]
    simp only [Prog.wp_bind, wp_store, Prog.afterBind_ok]
    exact h
  | false =>
    rw [if_neg Bool.false_ne_true, Prog.wp_bind, wp_read_last (show Ordinary .payload by decide)
      (reads_decPayload hz hlen (payloadForm_encPayload _ hlen))]
    simp only [Prog.wp_bind, wp_store, Prog.afterBind_ok]
    exact h

/-- The reply to an answer of the driver, and what the client makes of it. -/
theorem wp_replyLoaded (hz : SameFormat B.zlib C.zlib) {a : BinaryAns} {n : ℕ} (hn : n ≤ 255)
    {N : Prop} (hN : NoID t a.err a.object → N) (binary_status errcode_ret : Bool)
    {log : List Asked} :
    (if a.err ≠ CL_SUCCESS then ServerInstance.writeError a.err
      else ServerInstance.writeID a.object >>= fun _ => ServerInstance.writePayloadPtr B .uint16
        (ServerInstance.intBytes (storeInto (List.replicate n 0) a.status))).wp D.environment
      (Full N) t [] [] log fun r t' o u' log' => r = .ok () ∧ u' = [] ∧
        (catchingError .program errcode_ret CL_OUT_OF_HOST_MEMORY
          (PacketStream.readPacket IDPacket >>= fun id =>
            resolve .registerID .program id.mData >>= awaitStatus C binary_status errcode_ret)).wp
          noEnv (fun _ _ _ => False) s [] o () fun r' s' o' d' _ =>
            ∃ ret, r' = .ok ret ∧ o' = [] ∧ d' = [] ∧ log' = log ∧
              Loads n s t a binary_status errcode_ret ret s' t' := by
  by_cases herr : a.err = CL_SUCCESS
  · rw [if_neg (not_not.mpr herr), Prog.wp_bind, ServerInstance.writeID, Prog.wp_bind,
      ServerInstance.wp_getIDFor]
    cases hassign : assignID t.mObjects a.object with
    | none => exact ⟨hN ⟨herr, hassign⟩, rfl, rfl, _, hassign⟩
    | some x =>
      obtain ⟨id, mObjects⟩ := x
      have hstatus : (ServerInstance.intBytes (storeInto (List.replicate n 0) a.status)).length <
          SizeT.range .uint16 := by
        rw [length_intBytes, length_storeInto, List.length_replicate]
        exact lt_of_le_of_lt (Nat.mul_le_mul_left 4 hn) (by decide)
      refine ⟨rfl, rfl, takes_loaded hz hstatus binary_status errcode_ret id ?_⟩
      exact ⟨_, rfl, rfl, rfl, rfl, Or.inr ⟨herr, id, mObjects, _, hassign,
        statusOf_storeInto n a.status, rfl, rfl, rfl⟩⟩
  · rw [if_pos herr]
    exact ⟨rfl, rfl, wp_refused ⟨_, rfl, rfl, rfl, rfl, Or.inl ⟨herr, rfl, rfl, rfl⟩⟩⟩

/-- There is no ID for the program. -/
def NoLoaded (D : Driver) (t : ServerState) (context : Handle)
    (devices : List (Handle × Option Bytes)) : Prop :=
  NoID t (D [] (loadCall t context devices)).err (D [] (loadCall t context devices)).object

/-- What is left to do when the driver has answered. -/
theorem settles_ended_load (hz : SameFormat C.zlib B.zlib) (hz' : SameFormat B.zlib C.zlib)
    (context : Handle) {devices : List (Handle × Option Bytes)} (hdevices : devices ≠ [])
    (hlen : devices.length ≤ 255)
    (hbinaries : ∀ data ∈ binariesOf devices, data.length < SizeT.range .uint32)
    (binary_status errcode_ret : Bool) :
    Settles D.environment (ServerInstance.serve B)
      (Ended B (fun r s' t' log => log = [⟨loadCall t context devices, D [] _⟩] ∧
          Loads devices.length s t (D [] (loadCall t context devices)) binary_status
            errcode_ret r s'
            t')
        (NoLoaded D t context devices))
      (start B (loadProgram C context devices binary_status errcode_ret) s t []) := by
  have hids : ((devices.map Prod.fst).map GetID).length < SizeT.range .uint8 := by
    rw [List.length_map, List.length_map]
    exact Nat.lt_succ_of_le hlen
  have hK := context_catchingError .program errcode_ret CL_OUT_OF_HOST_MEMORY
  refine (settles_loadProgram stable_ended context hdevices hbinaries binary_status
    errcode_ret).mpr ?_
  refine settles_serves (h := ServerInstance.createProgramFromBinary B) .createBinaryProgram rfl rfl
    (waits_readPacket hK _ _ _) ?_
  rw [ServerInstance.createProgramFromBinary, Prog.wp_bind, wp_readPacket (by decide) (reads_dec _),
    ← List.append_nil (payloads _ _ _)]
  simp only [Prog.afterBind_ok, Prog.wp_bind, ServerInstance.wp_getObj]
  rw [wp_readPacket (by decide) (reads_idListPacket hids), Prog.afterBind_ok]
  simp only [ServerInstance.wp_getObjs, Prog.afterBind_ok, Prog.wp_bind]
  rw [map_objectAt_map_GetID, length_objectsOf_devices,
    wp_readAll (ServerInstance.readBinaries B) rfl (fun _ => rfl)
      fun data hdata => reads_payload hz (hbinaries data hdata) .payload .payload,
    Prog.afterBind_ok, Prog.wp_bind, Prog.wp_ask]
  rintro a _ ⟨rfl, rfl⟩
  rw [Prog.afterBind_ok]
  rw [length_binariesOf]
  exact wp_replyLoaded hz' hlen id binary_status errcode_ret

/-- The driver is given every device with its binary, once, the application gets the status of each
binary, or the error, and nothing is left unread. -/
def BinariesLoad (D : Driver) (B : ServerBuild) (C : Build) (s : ClientState) (t : ServerState)
    (context : Handle) (devices : List (Handle × Option Bytes)) (binary_status errcode_ret : Bool) :
    Prop :=
  Settles D.environment (ServerInstance.serve B)
    (fun x =>
      AtRest B (fun r s' t' log => log = [⟨loadCall t context devices, D [] _⟩] ∧
          Loads devices.length s t (D [] (loadCall t context devices)) binary_status
            errcode_ret r s'
            t') x ∧
      FirstCall (fun q => q = ⟨loadCall t context devices, D [] _⟩) x)
    (start B (loadProgram C context devices binary_status errcode_ret) s t [])

/-- Without an ID for the program, the application gets nothing. -/
theorem not_binariesLoad {context : Handle} {devices : List (Handle × Option Bytes)}
    {binary_status errcode_ret : Bool} (hnone : NoLoaded D t context devices) :
    ¬ BinariesLoad D B C s t context devices binary_status errcode_ret := by
  intro h
  obtain ⟨y, -, ⟨r, s', t', log, ⟨-, hloads⟩, -⟩, -⟩ := h.exists_final D.answers
  rcases hloads with ⟨herr, -⟩ | ⟨-, id, mObjects, status, hassign, -⟩
  · exact herr hnone.1
  · rw [hnone.2] at hassign
    cases hassign

end Load

/-- **Binaries load**, unless the driver has made a program for which there is no ID. -/
theorem binaries_load_iff (D : Driver) (B : ServerBuild) (C : Build) (hz : SameFormat C.zlib B.zlib)
    (hz' : SameFormat B.zlib C.zlib) (s : ClientState) (t : ServerState) (context : Handle)
    (devices : List (Handle × Option Bytes)) (hpos : 1 ≤ devices.length)
    (hlen : devices.length ≤ 255)
    (hbinaries : ∀ d ∈ devices, ∀ binary, d.2 = some binary → binary.length < 2 ^ 32)
    (binary_status errcode_ret : Bool) :
    BinariesLoad D B C s t context devices binary_status errcode_ret ↔
      ¬ NoLoaded D t context devices := by
  refine ⟨fun h hnone => not_binariesLoad hnone h, fun hid => ?_⟩
  have hdevices : devices ≠ [] := List.ne_nil_of_length_pos hpos
  have hall : ∀ data ∈ binariesOf devices, data.length < SizeT.range .uint32 := by
    intro data hdata
    obtain ⟨d, hd, rfl⟩ := List.mem_map.mp hdata
    cases hbinary : d.2 with
    | none => exact range_pos .uint32
    | some binary => exact hbinaries d hd binary hbinary
  refine ((settles_ended_load hz hz' context hdevices hlen hall binary_status errcode_ret).and
    D.answers terminal_ended stable_firstCall
    (settles_firstCall_load hz context hdevices hlen hall binary_status errcode_ret)).mono ?_
  rintro x ⟨hrest | ⟨hnone, -⟩, hfirst⟩
  · exact ⟨hrest, hfirst⟩
  · exact absurd hnone hid

/-- A binary, and none. -/
theorem binaries_load_two :
    BinariesLoad .refusing ⟨plainBuild, 210⟩ plainBuild ⟨[], 0, [], false, []⟩
        ⟨[66, 77, 88], none⟩ ⟨0, 0, .context⟩
        [(⟨1, 2, .deviceID⟩, some [7, 8]), (⟨2, 1, .deviceID⟩, none)] true true ∧
      loadCall ⟨[66, 77, 88], none⟩ ⟨0, 0, .context⟩
          [(⟨1, 2, .deviceID⟩, some [7, 8]), (⟨2, 1, .deviceID⟩, none)] =
        .clCreateProgramWithBinary 66 [88, 77] [[7, 8], []] := by
  refine ⟨(binaries_load_iff .refusing ⟨plainBuild, 210⟩ plainBuild .plain .plain
    ⟨[], 0, [], false, []⟩ ⟨[66, 77, 88], none⟩ ⟨0, 0, .context⟩
    [(⟨1, 2, .deviceID⟩, some [7, 8]), (⟨2, 1, .deviceID⟩, none)] (by decide) (by decide) ?_ true
    true).mpr fun hnone => absurd hnone.1 (by decide), rfl⟩
  intro d hd binary hbinary
  rcases List.mem_pair.mp hd with rfl | rfl
  · cases hbinary
    show 2 < 2 ^ 32
    decide
  · cases hbinary

/-- A driver that makes the program 65536. -/
def loadingDriver : Driver
  | _, .clCreateProgramWithBinary _ _ _ => ⟨CL_SUCCESS, UInt64.ofNat 65536, [CL_SUCCESS]⟩
  | _, c => refuse c

theorem noLoaded_loadingDriver {t : ServerState} {context : Handle}
    {devices : List (Handle × Option Bytes)}
    (h : assignID t.mObjects (UInt64.ofNat 65536) = none) :
    NoLoaded loadingDriver t context devices := ⟨rfl, h⟩

/-- A server that has had 65536 objects. -/
theorem binaries_without_id :
    ¬ ∀ (D : Driver) (s : ClientState) (t : ServerState) (context : Handle)
      (devices : List (Handle × Option Bytes)), ReachableTable t.mObjects → 1 ≤ devices.length →
      devices.length ≤ 255 →
      (∀ d ∈ devices, ∀ binary, d.2 = some binary → binary.length < 2 ^ 32) →
      BinariesLoad D ⟨plainBuild, 210⟩ plainBuild s t context devices true true := by
  intro h
  obtain ⟨table, htable, hfull⟩ : ∃ table, ReachableTable table ∧
      assignID table (UInt64.ofNat 65536) = none :=
    ⟨_, reachableTable_range (Nat.le_refl 65536), assignID_range⟩
  have hnone : NoLoaded loadingDriver ⟨table, none⟩ ⟨0, 0, .context⟩
      [(⟨1, 1, .deviceID⟩, some [7])] := noLoaded_loadingDriver hfull
  refine not_binariesLoad hnone (h loadingDriver ⟨[], 0, [], false, []⟩ ⟨table, none⟩
    ⟨0, 0, .context⟩ [(⟨1, 1, .deviceID⟩, some [7])] htable (by decide) (by decide) ?_)
  intro d hd binary hbinary
  rw [List.mem_singleton.mp hd] at hbinary
  cases hbinary
  show 1 < 2 ^ 32
  decide

end RemoteCL

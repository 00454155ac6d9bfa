import RemoteCL.Client.Program
import RemoteCL.Session.Record

/-!
# Compiling, linking and building

A request to compile has four lists: the devices, the headers and their names, and the options as a
string.  The client resizes the list of the devices and stores into it.  For the two lists of the
headers it only reserves memory, and stores behind their ends: what it does with headers is not
defined.  The lists of a request to link are all resized.  A request to build is two packets, and
the server may add an option to it.
-/

namespace RemoteCL

open ByteStream Conversation Wire LawfulWire Client

/-! ## Arguments -/

/-- An array of the application, which is a null pointer if it has no entries. -/
def arrayOf {α : Type} (xs : List α) : Option (List (Option α)) :=
  if xs = [] then none else some (xs.map some)

@[simp] theorem arrayOf_nil {α : Type} : arrayOf ([] : List α) = none := if_pos rfl

@[simp] theorem arrayOf_cons {α : Type} (x : α) (xs : List α) :
    arrayOf (x :: xs) = some (some x :: xs.map some) := if_neg (List.cons_ne_nil x xs)

theorem getD_arrayOf {α : Type} (xs : List α) :
    ((arrayOf xs).getD []).take xs.length = xs.map some := by
  cases xs with
  | nil => rfl
  | cons x xs => simp

theorem handleIDs_entriesOf_arrayOf (hs : List Handle) :
    handleIDs (entriesOf hs.length (arrayOf hs)) = some (hs.map GetID) := by
  rw [entriesOf, getD_arrayOf, handleIDs_map_some]

theorem invalidList_arrayOf (hs : List Handle) : invalidList hs.length (arrayOf hs) = false := by
  cases hs <;> simp [invalidList]

/-! ## Calls -/

/-- A call of one of the two functions, which the client accepts. -/
inductive BuildCall where
  | clCompileProgram (program : Handle) (devices : List Handle) (options : Option Bytes)
      (headers : List (Handle × Bytes)) (notify : Notify)
  | clLinkProgram (context : Handle) (devices : List Handle) (options : Option Bytes)
      (programs : List Handle) (notify : Notify) (errcode_ret : Bool)
  deriving DecidableEq

namespace BuildCall

/-- The program of a call. -/
def call : BuildCall → ClientM Ret
  | clCompileProgram program devices options headers notify =>
    Client.clCompileProgram (some program) devices.length (arrayOf devices) options headers.length
      (arrayOf (headers.map Prod.fst)) (arrayOf (headers.map Prod.snd)) notify
  | clLinkProgram context devices options programs notify errcode_ret =>
    Client.clLinkProgram (some context) devices.length (arrayOf devices) options programs.length
      (arrayOf programs) notify errcode_ret

/-- What else the client checks: data is given only with a function, and there is something to
link. -/
def Accepted : BuildCall → Prop
  | clCompileProgram _ _ _ _ notify => notify.invalid = false
  | clLinkProgram _ _ _ programs notify _ => notify.invalid = false ∧ programs ≠ []

/-- The lists and strings have room in the request. -/
def Fits : BuildCall → Prop
  | clCompileProgram _ devices options headers _ =>
    devices.length ≤ 255 ∧ StringFits (stringOf options) ∧ headers.length ≤ 255 ∧
      ∀ h ∈ headers, StringFits (cStr h.2)
  | clLinkProgram _ devices options programs _ _ =>
    devices.length ≤ 255 ∧ StringFits (stringOf options) ∧ programs.length ≤ 255

/-- The headers of a call. -/
def headers : BuildCall → List (Handle × Bytes)
  | clCompileProgram _ _ _ headers _ => headers
  | clLinkProgram _ _ _ _ _ _ => []

/-- The question that the application means: with a callback, or without one. -/
def Means (t : ServerState) : BuildCall → ServerCall → Prop
  | clCompileProgram program devices options headers _, c => ∃ callback, c =
    .status (.clCompileProgram (objectAt t.mObjects (GetID program)) (objectsOf t devices)
      (stringOf options) (objectsOf t (headers.map Prod.fst)) (headers.map fun h => cStr h.2)
      callback)
  | clLinkProgram context devices options programs _ _, c => c =
    .create (.clLinkProgram (objectAt t.mObjects (GetID context)) (objectsOf t devices)
      (stringOf options) (objectsOf t programs))

end BuildCall

section Builds

variable {D : Driver} {B : ServerBuild} {s : ClientState} {t : ServerState}

theorem isNone_arrayOf {α : Type} (xs : List α) : (arrayOf xs).isNone = decide (xs = []) := by
  cases xs <;> simp

/-- What `clCompileProgram` does with the ID of the callback. -/
def compileWith (program : Handle) (devices : List Handle) (options : Option Bytes)
    (notify : Notify) (mHasCallback : Bool) (mCallbackID : UInt32) : ClientM Ret :=
  PacketStream.writePacket
    ({ mProgramID := GetID program, mOptions := stringOf options, mDeviceIDs := devices.map GetID,
       mHeaderIDs := [], mHeaderNames := [], mHasCallback,
       mCallbackID := mCallbackID.toUInt16 } : CompileProgram) >>= fun _ =>
    PacketStream.flush >>= fun _ => PacketStream.readPacket SuccessPacket >>= fun _ =>
      store (notify.pfn_notify.isSome && !mHasCallback)
        (.notify (.object program) (notify.pfn_notify.getD 0)
          (notify.user_data.getD 0)) >>= fun _ => pure (.code CL_SUCCESS)

/-- An accepted request to compile with headers overruns the memory of the client. -/
theorem call_clCompileProgram_headers (program : Handle) (devices : List Handle)
    (options : Option Bytes) {headers : List (Handle × Bytes)} {notify : Notify}
    (hnotify : notify.invalid = false) (hheaders : headers ≠ []) :
    (BuildCall.clCompileProgram program devices options headers notify).call = overrun := by
  obtain ⟨h, hs, rfl⟩ := List.exists_cons_of_ne_nil hheaders
  rw [BuildCall.call, clCompileProgram, if_neg (by rw [invalidList_arrayOf]; decide),
    if_neg (by simp), if_neg (by simp), if_neg (by rw [hnotify]; decide),
    handleIDs_entriesOf_arrayOf]
  exact (if_pos (Nat.succ_ne_zero _)).trans (if_neg (by simp [nullHeader]))

/-- An accepted request to compile without headers passes the checks. -/
theorem call_clCompileProgram (program : Handle) (devices : List Handle) (options : Option Bytes)
    {notify : Notify} (hnotify : notify.invalid = false) :
    (BuildCall.clCompileProgram program devices options [] notify).call =
      catching CL_OUT_OF_HOST_MEMORY CL_DEVICE_NOT_AVAILABLE (Prog.getState >>= fun s =>
        if notify.pfn_notify.isSome && s.hasEventStream then
          registerCallback (.program program (notify.pfn_notify.getD 0)
            (notify.user_data.getD 0)) >>=
            compileWith program devices options notify
              (notify.pfn_notify.isSome && s.hasEventStream)
        else compileWith program devices options notify
          (notify.pfn_notify.isSome && s.hasEventStream) 0) := by
  rw [BuildCall.call, clCompileProgram, if_neg (by rw [invalidList_arrayOf]; decide),
    if_neg (by simp), if_neg (by simp), if_neg (by rw [hnotify]; decide),
    handleIDs_entriesOf_arrayOf]
  exact if_neg (not_not.mpr rfl)

/-- An accepted request to link passes the checks. -/
theorem call_clLinkProgram (context : Handle) (devices : List Handle) (options : Option Bytes)
    {programs : List Handle} {notify : Notify} (errcode_ret : Bool)
    (hnotify : notify.invalid = false) (hprograms : programs ≠ []) :
    (BuildCall.clLinkProgram context devices options programs notify errcode_ret).call =
      catchingError .program errcode_ret CL_OUT_OF_HOST_MEMORY
        (PacketStream.writePacket
          ({ mContext := GetID context, mOptions := stringOf options,
             mDeviceIDs := devices.map GetID, mProgramIDs := programs.map GetID } :
            LinkProgram) >>= fun _ =>
          PacketStream.flush >>= fun _ => PacketStream.readPacket IDPacket >>= fun id =>
            resolve .registerID .program id.mData >>= fun P =>
              store notify.pfn_notify.isSome
                (.notify P (notify.pfn_notify.getD 0) (notify.user_data.getD 0)) >>= fun _ =>
                  pure (.handle .program (some P))) := by
  have hvalid : ¬ (invalidList devices.length (arrayOf devices) || notify.invalid ||
      programs.length == 0 || (arrayOf programs).isNone) = true := by
    rw [invalidList_arrayOf, hnotify, isNone_arrayOf]
    simp [hprograms]
  rw [BuildCall.call, clLinkProgram, if_neg hvalid, handleIDs_entriesOf_arrayOf,
    handleIDs_entriesOf_arrayOf]
  simp only [awaitID, bind_assoc]

/-- The question about a compilation without headers. -/
def compileAsked (t : ServerState) (program : Handle) (devices : List Handle)
    (options : Option Bytes) (callback : Option IDType) : StatusCall :=
  .clCompileProgram (objectAt t.mObjects (GetID program)) (objectsOf t devices)
    (stringOf options) [] [] callback

/-- The question about a program to link. -/
def linkAsked (t : ServerState) (context : Handle) (devices : List Handle)
    (options : Option Bytes) (programs : List Handle) : CreateCall :=
  .clLinkProgram (objectAt t.mObjects (GetID context)) (objectsOf t devices)
    (stringOf options) (objectsOf t programs)

/-- The question about a program to build. -/
def buildAsked (t : ServerState) (program : Handle) (devices : List Handle)
    (options : Option Bytes) : StatusCall :=
  .clBuildProgram (objectAt t.mObjects (GetID program)) (objectsOf t devices)
    (cStr (ServerInstance.buildOptions (stringOf options)))

theorem length_ids_lt {hs : List Handle} (h : hs.length ≤ 255) :
    (hs.map GetID).length < SizeT.range .uint8 := by
  rw [List.length_map]
  exact Nat.lt_succ_of_le h

section Requests

variable {F : CallConfig (List Asked) → Prop} {log : List Asked}
variable (hF : Stable D.environment (ServerInstance.serve B) F)
include hF

/-- A request to compile without headers is served. -/
theorem settles_compileWith (program : Handle) {devices : List Handle} {options : Option Bytes}
    (hdevices : devices.length ≤ 255) (hoptions : StringFits (stringOf options)) (notify : Notify)
    (mHasCallback : Bool) (mCallbackID : UInt32) {q : StatusCall}
    (hq : compileAsked t program devices options
      (if mHasCallback then some mCallbackID.toUInt16 else none) = q) :
    Settles D.environment (ServerInstance.serve B) F
        (start B (catching CL_OUT_OF_HOST_MEMORY CL_DEVICE_NOT_AVAILABLE
          (compileWith program devices options notify mHasCallback mCallbackID)) s t log) ↔
      Settles D.environment (ServerInstance.serve B) F
        ⟨⟨catching CL_OUT_OF_HOST_MEMORY CL_DEVICE_NOT_AVAILABLE
            (PacketStream.readPacket SuccessPacket >>= fun _ =>
              store (notify.pfn_notify.isSome && !mHasCallback)
                (.notify (.object program) (notify.pfn_notify.getD 0)
                  (notify.user_data.getD 0)) >>= fun _ => pure (.code CL_SUCCESS)), s, []⟩,
          ⟨ServerInstance.iteration
            (ServerInstance.replyStatus (D log (.status q)) >>= fun _ => pure true), t, []⟩,
          [], [], log ++ [⟨.status q, D log (.status q)⟩]⟩ := by
  have hfits : CompileProgram.Fits ⟨GetID program, stringOf options, devices.map GetID, [], [],
      mHasCallback, mCallbackID.toUInt16⟩ :=
    ⟨hoptions, length_ids_lt hdevices, range_pos .uint8, range_pos .uint8, fun _ h => nomatch h⟩
  subst hq
  refine (settles_sends hF
    (context_catching CL_OUT_OF_HOST_MEMORY CL_DEVICE_NOT_AVAILABLE)).trans ?_
  refine (settles_dispatches (h := ServerInstance.compileProgram) hF rfl rfl).trans ?_
  rw [← List.append_nil (packet _)]
  refine (settles_server_meets hF context_handler (reads_compileProgram hfits 0)
    (show Ordinary .compileProgram by decide)).trans ?_
  refine (settles_server_get hF context_handler).trans ?_
  refine (settles_server_get hF context_handler).trans ?_
  refine (settles_server_get hF context_handler).trans ?_
  refine (Driver.settles_ask hF context_handler).trans ?_
  have hcallback : (if mHasCallback then some (if mHasCallback then mCallbackID.toUInt16 else 0)
      else none) = if mHasCallback then some mCallbackID.toUInt16 else none := by
    cases mHasCallback <;> rfl
  rw [CompileProgram.arrived, map_objectAt_map_GetID, hcallback, stringOf, cStr_cStr]
  exact Iff.rfl

/-- A request to link is served as it is. -/
theorem settles_link (context : Handle) {devices : List Handle} {options : Option Bytes}
    {programs : List Handle} {notify : Notify} (errcode_ret : Bool)
    (hnotify : notify.invalid = false) (hprograms : programs ≠ []) (hdevices : devices.length ≤ 255)
    (hoptions : StringFits (stringOf options)) (hlen : programs.length ≤ 255) {q : CreateCall}
    (hq : linkAsked t context devices options programs = q) :
    Settles D.environment (ServerInstance.serve B) F
        (start B (BuildCall.clLinkProgram context devices options programs notify errcode_ret).call
          s t log) ↔
      Settles D.environment (ServerInstance.serve B) F
        ⟨⟨catchingError .program errcode_ret CL_OUT_OF_HOST_MEMORY
            (PacketStream.readPacket IDPacket >>= fun id =>
              resolve .registerID .program id.mData >>= fun P =>
                store notify.pfn_notify.isSome
                  (.notify P (notify.pfn_notify.getD 0) (notify.user_data.getD 0)) >>= fun _ =>
                    pure (.handle .program (some P))), s, []⟩,
          ⟨ServerInstance.iteration
            (ServerInstance.replyCreated (D log (.create q)) >>= fun _ => pure true), t, []⟩,
          [], [], log ++ [⟨.create q, D log (.create q)⟩]⟩ := by
  subst hq
  rw [call_clLinkProgram context devices options errcode_ret hnotify hprograms]
  refine (settles_sends hF (context_catchingError _ _ _)).trans ?_
  refine (settles_dispatches (h := ServerInstance.linkProgram) hF rfl rfl).trans ?_
  rw [← List.append_nil (packet _)]
  refine (settles_server_meets hF context_handler
    (reads_linkProgram (p := ⟨GetID context, programs.map GetID, devices.map GetID,
      stringOf options⟩) hoptions (length_ids_lt hdevices) (length_ids_lt hlen))
    (show Ordinary .linkProgram by decide)).trans ?_
  refine (settles_server_get hF context_handler).trans ?_
  refine (settles_server_get hF context_handler).trans ?_
  refine (settles_server_get hF context_handler).trans ?_
  refine (Driver.settles_ask hF context_handler).trans ?_
  rw [map_objectAt_map_GetID, map_objectAt_map_GetID, stringOf, cStr_cStr]
  exact Iff.rfl

/-- A request to build is served with the server's options. -/
theorem settles_build (program : Handle) {devices : List Handle} {options : Option Bytes}
    {notify : Notify} (hnotify : notify.invalid = false) (hdevices : devices.length ≤ 255)
    (hoptions : StringFits (stringOf options)) {q : StatusCall}
    (hq : buildAsked t program devices options = q) :
    Settles D.environment (ServerInstance.serve B) F
        (start B (clBuildProgram (some program) devices.length (arrayOf devices) options notify)
          s t log) ↔
      Settles D.environment (ServerInstance.serve B) F
        ⟨⟨catching CL_OUT_OF_HOST_MEMORY CL_DEVICE_NOT_AVAILABLE
            (PacketStream.readPacket SuccessPacket >>= fun _ => pure (.code CL_SUCCESS)), s, []⟩,
          ⟨ServerInstance.iteration
            (ServerInstance.replyStatus (D log (.status q)) >>= fun _ => pure true), t, []⟩,
          [], [], log ++ [⟨.status q, D log (.status q)⟩]⟩ := by
  have hK := context_catching CL_OUT_OF_HOST_MEMORY CL_DEVICE_NOT_AVAILABLE
  subst hq
  rw [clBuildProgram, if_neg (by rw [invalidList_arrayOf, hnotify]; decide),
    handleIDs_entriesOf_arrayOf]
  refine (settles_client_writePacket hF hK).trans ((settles_client_writePacket hF hK).trans
    ((settles_client_flushes hF hK).trans ?_))
  refine (settles_dispatches (h := ServerInstance.buildProgram) hF rfl rfl).trans ?_
  refine (settles_server_meets hF context_handler (reads_idStringPair hoptions)
    (show Ordinary .buildProgram by decide)).trans ?_
  rw [← List.append_nil (packet (⟨devices.map GetID⟩ : IDListPacket))]
  refine (settles_server_meets hF context_handler (reads_idListPacket (length_ids_lt hdevices))
    (show Ordinary .idList by decide)).trans ?_
  refine (settles_server_get hF context_handler).trans ?_
  refine (settles_server_get hF context_handler).trans ?_
  refine (Driver.settles_ask hF context_handler).trans ?_
  rw [map_objectAt_map_GetID]
  exact Iff.rfl

end Requests

/-- The question about a compilation without headers. -/
theorem settles_firstCall_compile (program : Handle) (devices : List Handle)
    (options : Option Bytes) (notify : Notify) (hnotify : notify.invalid = false)
    (hdevices : devices.length ≤ 255) (hoptions : StringFits (stringOf options)) :
    ∃ callback, Settles D.environment (ServerInstance.serve B)
      (FirstCall fun q => q = ⟨.status (compileAsked t program devices options callback), D [] _⟩)
      (start B (BuildCall.clCompileProgram program devices options [] notify).call s t []) := by
  have hK := context_catching CL_OUT_OF_HOST_MEMORY CL_DEVICE_NOT_AVAILABLE
  rw [call_clCompileProgram program devices options hnotify]
  cases hcallback : notify.pfn_notify.isSome && s.hasEventStream with
  | false =>
    refine ⟨none, (settles_client_get stable_firstCall hK).mpr ?_⟩
    rw [hcallback]
    exact (settles_compileWith stable_firstCall program hdevices hoptions notify false 0 rfl).mpr
      (.final ⟨_, _, rfl, rfl⟩)
  | true =>
    refine ⟨some (UInt32.ofNat s.mCallbacks.length).toUInt16,
      (settles_client_get stable_firstCall hK).mpr ?_⟩
    rw [hcallback, if_pos rfl]
    refine (settles_client_get stable_firstCall hK).mpr ?_
    refine (settles_client_put (k := fun _ => compileWith program devices options notify true
      (UInt32.ofNat s.mCallbacks.length)) stable_firstCall hK).mpr ?_
    exact (settles_compileWith stable_firstCall program hdevices hoptions notify true _ rfl).mpr
      (.final ⟨_, _, rfl, rfl⟩)

/-- The question about a program to link. -/
theorem settles_firstCall_link (context : Handle) {devices : List Handle} {options : Option Bytes}
    {programs : List Handle} {notify : Notify} (errcode_ret : Bool)
    (hnotify : notify.invalid = false) (hprograms : programs ≠ []) (hdevices : devices.length ≤ 255)
    (hoptions : StringFits (stringOf options)) (hlen : programs.length ≤ 255) :
    Settles D.environment (ServerInstance.serve B)
      (FirstCall fun q => q = ⟨.create (linkAsked t context devices options programs), D [] _⟩)
      (start B (BuildCall.clLinkProgram context devices options programs notify errcode_ret).call
        s t []) :=
  (settles_link stable_firstCall context errcode_ret hnotify hprograms hdevices hoptions hlen
    rfl).mpr (.final ⟨_, _, rfl, rfl⟩)

/-- The driver is first asked what is meant. -/
def BuildArrives (D : Driver) (B : ServerBuild) (s : ClientState) (t : ServerState)
    (q : BuildCall) : Prop :=
  Attains D.environment (ServerInstance.serve B) (FirstCall fun asked => q.Means t asked.1)
    (start B q.call s t [])

end Builds

/-- With headers the driver is not asked anything. -/
theorem not_buildArrives_headers (program : Handle) (devices : List Handle)
    (options : Option Bytes) {headers : List (Handle × Bytes)} {notify : Notify}
    (hnotify : notify.invalid = false) (hheaders : headers ≠ []) :
    ¬ BuildArrives D B s t (.clCompileProgram program devices options headers notify) := by
  intro h
  rw [BuildArrives, call_clCompileProgram_headers program devices options hnotify hheaders] at h
  obtain ⟨q, log, hlog, -⟩ := h.of_stuck fun _ => not_step_overrun
  exact absurd hlog (List.cons_ne_nil q log).symm

/-- **Requests without headers arrive, and no others**: the devices, the programs and the options
are the right ones in each. -/
theorem build_arrives_iff (D : Driver) (B : ServerBuild) (s : ClientState) (t : ServerState)
    (q : BuildCall) (hq : q.Accepted) (hfits : q.Fits) :
    BuildArrives D B s t q ↔ q.headers = [] := by
  cases q with
  | clCompileProgram program devices options headers notify =>
    constructor
    · intro h
      by_contra hheaders
      exact not_buildArrives_headers program devices options hq hheaders h
    · rintro hheaders
      rw [BuildCall.headers] at hheaders
      subst hheaders
      obtain ⟨callback, hfirst⟩ := settles_firstCall_compile (D := D) (B := B) (s := s) (t := t)
        program devices options notify hq hfits.1 hfits.2.1
      exact (attains_firstCall_iff hfirst).mpr ⟨callback, rfl⟩
  | clLinkProgram context devices options programs notify errcode_ret =>
    have hfirst := settles_firstCall_link (D := D) (B := B) (s := s) (t := t) context errcode_ret
      hq.1 hq.2 hfits.1 hfits.2.1 hfits.2.2
    exact (attains_firstCall_iff hfirst).trans (iff_of_true rfl rfl)

/-- Two programs, for two devices. -/
theorem build_arrives_link :
    BuildArrives .refusing ⟨plainBuild, 210⟩ ⟨[], 0, [], false, []⟩ ⟨[66, 77, 88, 99], none⟩
      (.clLinkProgram ⟨0, 0, .context⟩ [⟨2, 1, .deviceID⟩, ⟨1, 2, .deviceID⟩] none
        [⟨3, 3, .program⟩, ⟨3, 3, .program⟩] ⟨none, none⟩ false) :=
  (build_arrives_iff .refusing ⟨plainBuild, 210⟩ ⟨[], 0, [], false, []⟩ ⟨[66, 77, 88, 99], none⟩
    (.clLinkProgram ⟨0, 0, .context⟩ [⟨2, 1, .deviceID⟩, ⟨1, 2, .deviceID⟩] none
      [⟨3, 3, .program⟩, ⟨3, 3, .program⟩] ⟨none, none⟩ false) ⟨rfl, by decide⟩
    ⟨by decide, Nat.zero_le _, by decide⟩).mpr rfl

/-- A header, which does not arrive. -/
theorem header_lost :
    ¬ BuildArrives .refusing ⟨plainBuild, 210⟩ ⟨[], 0, [], false, []⟩ ⟨[66, 77], none⟩
      (.clCompileProgram ⟨0, 0, .program⟩ [] none [(⟨1, 1, .program⟩, [104, 0])] ⟨none, none⟩) :=
  not_buildArrives_headers ⟨0, 0, .program⟩ [] none rfl (List.cons_ne_nil _ _)

end RemoteCL

import RemoteCL.Client.Objects
import RemoteCL.Session.Record

/-!
# Property lists

A property list is an array of keys and values, up to a key that is zero.  The client copies it into
the request two words at a time, the server copies it out of the request two words at a time, and
both look at the keys only: whatever the values are, they do not move the border between one pair
and the next.  In the list of a context the value of `CL_CONTEXT_PLATFORM` is a handle; it is sent
as its ID, and the driver gets the object behind the ID.

What the driver is given are the arguments of its first call, whatever it answers.
-/

namespace RemoteCL

open ByteStream Conversation Client ServerInstance

/-! ## Lists of pairs -/

/-- Keys and values, in one array. -/
def flatPairs (ps : List (UInt64 × UInt64)) : List UInt64 := ps.flatMap fun p => [p.1, p.2]

@[simp] theorem flatPairs_nil : flatPairs [] = [] := rfl

@[simp] theorem flatPairs_cons (p : UInt64 × UInt64) (ps : List (UInt64 × UInt64)) :
    flatPairs (p :: ps) = p.1 :: p.2 :: flatPairs ps := rfl

@[simp] theorem flatPairs_append (ps qs : List (UInt64 × UInt64)) :
    flatPairs (ps ++ qs) = flatPairs ps ++ flatPairs qs := List.flatMap_append

theorem length_flatPairs (ps : List (UInt64 × UInt64)) :
    (flatPairs ps).length = 2 * ps.length := by
  induction ps with
  | nil => rfl
  | cons p ps ih =>
    rw [flatPairs_cons, List.length_cons, List.length_cons, ih, List.length_cons]
    omega

/-- A zero-terminated list of these pairs is in memory, or there is none of them and a null pointer.
Behind the terminator there may be anything. -/
def ListsPairs (ps : List (UInt64 × UInt64)) (properties : Option (List UInt64)) : Prop :=
  (properties = none ∧ ps = []) ∨ ∃ rest, properties = some (flatPairs ps ++ 0 :: rest)

/-- What the driver should be given: the pairs and one terminator, or a null pointer. -/
def pairsList (ps : List (UInt64 × UInt64)) : Option (List UInt64) :=
  if ps = [] then none else some (flatPairs ps ++ [0])

theorem terminated_flatPairs (ps : List (UInt64 × UInt64)) :
    terminated (flatPairs ps) = pairsList ps := by
  cases ps with
  | nil => rfl
  | cons p ps =>
    rw [terminated, pairsList, if_neg (List.cons_ne_nil p ps)]
    rfl

/-- A pair with a platform in it, by what a value of `CL_CONTEXT_PLATFORM` is replaced. -/
def mapPlatform (f : UInt64 → UInt64) (p : UInt64 × UInt64) : UInt64 × UInt64 :=
  (p.1, if p.1 = CL_CONTEXT_PLATFORM then f p.2 else p.2)

/-- The client's loop and the encoding keep the pairs apart. -/
theorem encode_readProperties (platformAt : UInt64 → Handle) {ps : List (UInt64 × UInt64)}
    (hkeys : ∀ p ∈ ps, p.1 ≠ 0) (rest : List UInt64) :
    (readProperties platformAt (flatPairs ps ++ 0 :: rest)).flatMap Property.encode =
      flatPairs (ps.map (mapPlatform fun v => (GetID (platformAt v)).toUInt64)) := by
  induction ps with
  | nil =>
    cases rest with
    | nil => rfl
    | cons v rest => rw [flatPairs_nil, List.nil_append, readProperties, if_pos rfl]; rfl
  | cons p ps ih =>
    have hkey : p.1 ≠ 0 := hkeys p List.mem_cons_self
    rw [flatPairs_cons, List.cons_append, List.cons_append, readProperties, if_neg hkey,
      List.flatMap_cons, ih fun q hq => hkeys q (List.mem_cons_of_mem p hq), List.map_cons,
      flatPairs_cons, mapPlatform]
    split_ifs with hplatform
    · rw [Property.encode, ← hplatform]
      rfl
    · rfl

theorem encode_propertiesAt (platformAt : UInt64 → Handle) {ps : List (UInt64 × UInt64)}
    (hkeys : ∀ p ∈ ps, p.1 ≠ 0) {properties : Option (List UInt64)} (h : ListsPairs ps properties) :
    (propertiesAt platformAt properties).flatMap Property.encode =
      flatPairs (ps.map (mapPlatform fun v => (GetID (platformAt v)).toUInt64)) := by
  rcases h with ⟨rfl, rfl⟩ | ⟨rest, rfl⟩
  · rfl
  · exact encode_readProperties platformAt hkeys rest

/-- The loop for queues keeps them apart as well. -/
theorem readQueueProperties_flatPairs {ps : List (UInt64 × UInt64)} (hkeys : ∀ p ∈ ps, p.1 ≠ 0)
    (rest : List UInt64) : readQueueProperties (flatPairs ps ++ 0 :: rest) = ps := by
  induction ps with
  | nil =>
    cases rest with
    | nil => rfl
    | cons v rest => rw [flatPairs_nil, List.nil_append, readQueueProperties, if_pos rfl]
  | cons p ps ih =>
    rw [flatPairs_cons, List.cons_append, List.cons_append, readQueueProperties,
      if_neg (hkeys p List.mem_cons_self), ih fun q hq => hkeys q (List.mem_cons_of_mem p hq)]

theorem queuePropertiesAt_eq {ps : List (UInt64 × UInt64)} (hkeys : ∀ p ∈ ps, p.1 ≠ 0)
    {properties : Option (List UInt64)} (h : ListsPairs ps properties) :
    queuePropertiesAt properties = ps := by
  rcases h with ⟨rfl, rfl⟩ | ⟨rest, rfl⟩
  · rfl
  · exact readQueueProperties_flatPairs hkeys rest

/-- The server's loop replaces the IDs of the platforms. -/
theorem rebuildProperties_flatPairs (objects : List Ptr) (ps : List (UInt64 × UInt64)) :
    rebuildProperties objects (flatPairs ps) =
      some (flatPairs (ps.map (mapPlatform fun v => objectAt objects v.toUInt16))) := by
  induction ps with
  | nil => rfl
  | cons p ps ih => rw [flatPairs_cons, rebuildProperties, ih, List.map_cons, flatPairs_cons]; rfl

/-- A platform is translated once on each side. -/
theorem mapPlatform_comp (objects : List Ptr) (platformAt : UInt64 → Handle)
    (ps : List (UInt64 × UInt64)) :
    (ps.map (mapPlatform fun v => (GetID (platformAt v)).toUInt64)).map
        (mapPlatform fun v => objectAt objects v.toUInt16) =
      ps.map (mapPlatform fun v => objectAt objects (GetID (platformAt v))) := by
  rw [List.map_map]
  refine List.map_congr_left fun p _ => ?_
  rw [Function.comp_apply, mapPlatform, mapPlatform, mapPlatform]
  split_ifs
  · rw [UInt16.toUInt16_toUInt64]
  · rfl

/-! ## The first call of the driver -/

section FirstCall

variable {D : Driver} {B : ServerBuild} {Q : Asked → Prop} {s : ClientState} {t : ServerState}

/-- The server is in a call of the driver. -/
theorem settles_calling {c : Side ClientState Exn Empty NoAnswer Ret} {q : CreateCall}
    (hQ : ∀ a, Q ⟨.create q, a⟩) {f : CreateAns → ServerM Unit} {u d : Bytes} :
    Settles D.environment (ServerInstance.serve B) (FirstCall Q)
      ⟨c, ⟨ServerInstance.iteration ((ServerInstance.create q >>= f) >>= fun _ => pure true),
        t, []⟩, u, d, []⟩ := by
  refine (settles_server_ask stable_firstCall context_handler).mpr ?_
  rintro a _ ⟨-, rfl⟩
  exact Settles.final ⟨_, _, rfl, hQ a⟩

/-- The server rebuilds a property list. -/
theorem settles_rebuilds {c : Side ClientState Exn Empty NoAnswer Ret}
    {received properties : List UInt64} {k : List UInt64 → ServerM Unit} {u d : Bytes}
    (hrebuilt : rebuildProperties t.mObjects received = some properties)
    (h : Settles D.environment (ServerInstance.serve B) (FirstCall Q)
      ⟨c, ⟨ServerInstance.iteration (k properties >>= fun _ => pure true), t, []⟩, u, d, []⟩) :
    Settles D.environment (ServerInstance.serve B) (FirstCall Q)
      ⟨c, ⟨ServerInstance.iteration ((ServerInstance.rebuild received >>= k) >>= fun _ =>
        pure true), t, []⟩, u, d, []⟩ := by
  refine (settles_server_get stable_firstCall
    ((Prog.Context.bind k).comp context_handler)).mpr ?_
  rw [hrebuilt]
  exact h

/-- A request for an object reaches its handler, which has read a packet; what lies behind what it
has read is left. -/
theorem settles_requested {P : Type} [Packet P] [Wire P] {p p' : P} {w rest : Bytes}
    (henc : Wire.enc p = w ++ rest) (hreads : Reads Wire.dec w p') (hty : Ordinary (Packet.mType P))
    {h : P → ServerM Unit} (hh : ServerInstance.handler B (Packet.mType P) =
      some (PacketStream.readPacket P >>= h))
    {β : Type} {K : ClientM β → ClientM Ret} (hK : Prog.Context K) {k : IDPacket → ClientM β} :
    Settles D.environment (ServerInstance.serve B) (FirstCall Q)
        (start B (K (PacketStream.writePacket p >>= fun _ => PacketStream.flush >>= fun _ =>
          PacketStream.readPacket IDPacket >>= k)) s t []) ↔
      Settles D.environment (ServerInstance.serve B) (FirstCall Q)
        ⟨⟨K (PacketStream.readPacket IDPacket >>= k), s, []⟩,
          ⟨ServerInstance.iteration (h p' >>= fun _ => pure true), t, []⟩, rest, [], []⟩ := by
  have hpacket : packet p = PacketStream.frame (Packet.mType P) w ++ rest := by
    rw [packet, henc]
    rfl
  refine (settles_client_writePacket stable_firstCall hK).trans ?_
  refine (settles_client_flushes stable_firstCall hK).trans ?_
  refine (settles_dispatches stable_firstCall hh rfl).trans ?_
  rw [List.nil_append, List.nil_append, hpacket]
  exact settles_server_meets stable_firstCall context_handler hreads hty

end FirstCall

/-- The function that waits for the ID of a context. -/
theorem awaitContext_eq (errcode_ret : Bool) (p : ClientM Unit) :
    awaitContext errcode_ret p =
      (p >>= fun _ => PacketStream.flush >>= fun _ => PacketStream.readPacket IDPacket >>= fun id =>
        resolve .registerID .context id.mData >>= fun C =>
          store errcode_ret (.errcode_ret CL_SUCCESS) >>= fun _ =>
            pure (.handle .context (some C))).tryCatch
        fun _ => returnError .context errcode_ret CL_DEVICE_NOT_AVAILABLE := by
  simp only [awaitContext, awaitID, bind_assoc]

/-- The function that waits for the ID of a queue. -/
theorem awaitQueue_eq (errcode_ret : Bool) (p : ClientM Unit) :
    awaitQueue errcode_ret p =
      catchingError .queue errcode_ret CL_OUT_OF_HOST_MEMORY
        (p >>= fun _ => PacketStream.flush >>= fun _ =>
          PacketStream.readPacket IDPacket >>= fun id =>
            resolve .registerID .queue id.mData >>= fun Q =>
              store errcode_ret (.errcode_ret CL_SUCCESS) >>= fun _ =>
                pure (.handle .queue (some Q))) := by
  simp only [awaitQueue, awaitID, bind_assoc]

/-! ## The three functions -/

section Functions

variable {D : Driver} {B : ServerBuild} {s : ClientState} {t : ServerState}
variable {platformAt : UInt64 → Handle}
variable {ps : List (UInt64 × UInt64)} {properties : Option (List UInt64)}

/-- The pairs that the driver should get for a context. -/
def driverPairs (t : ServerState) (platformAt : UInt64 → Handle) (ps : List (UInt64 × UInt64)) :
    List (UInt64 × UInt64) :=
  ps.map (mapPlatform fun v => objectAt t.mObjects (GetID (platformAt v)))

/-- The client's loop, the wire and the server's loop. -/
theorem rebuildProperties_driverPairs (t : ServerState) (platformAt : UInt64 → Handle)
    (ps : List (UInt64 × UInt64)) :
    rebuildProperties t.mObjects
        (flatPairs (ps.map (mapPlatform fun v => (GetID (platformAt v)).toUInt64))) =
      some (flatPairs (driverPairs t platformAt ps)) := by
  rw [rebuildProperties_flatPairs, mapPlatform_comp, driverPairs]

/-- Twice as many words as pairs fit into a size field of eight bits. -/
theorem length_flatPairs_map_lt (hlen : ps.length ≤ 127) (f : UInt64 × UInt64 → UInt64 × UInt64) :
    (flatPairs (ps.map f)).length < SizeT.range .uint8 := by
  have hrange : SizeT.range .uint8 = 256 := rfl
  rw [length_flatPairs, List.length_map, hrange]
  omega

variable (hkeys : ∀ p ∈ ps, p.1 ≠ 0) (hlen : ps.length ≤ 127) (hlist : ListsPairs ps properties)
include hkeys hlen hlist

/-- However many devices there are. -/
theorem settles_clCreateContext {devices : List Handle} (hdevices : devices ≠ [])
    (errcode_ret : Bool) :
    Settles D.environment (ServerInstance.serve B)
      (FirstCall fun q => ∃ ds, q.1 =
        .create (.clCreateContext (pairsList (driverPairs t platformAt ps)) ds))
      (start B (clCreateContext (propertiesAt platformAt properties) (some (devices.map some))
        errcode_ret) s t []) := by
  have hK := Prog.Context.tryCatch (C := Empty) (A := NoAnswer) (σ := ClientState) fun _ : Exn =>
    returnError .context errcode_ret CL_DEVICE_NOT_AVAILABLE
  obtain ⟨d, ds, rfl⟩ := List.exists_cons_of_ne_nil hdevices
  have hclient : clCreateContext (propertiesAt platformAt properties) (some ((d :: ds).map some))
      errcode_ret = awaitContext errcode_ret (PacketStream.writePacket
        (⟨flatPairs (ps.map (mapPlatform fun v => (GetID (platformAt v)).toUInt64)),
          (d :: ds).map GetID⟩ : CreateContext)) := by
    have hids := handleIDs_map_some (d :: ds)
    rw [List.map_cons] at hids
    simp only [clCreateContext, List.map_cons, hids, encode_propertiesAt platformAt hkeys hlist]
  obtain ⟨w, rest, ids, hw, hreads⟩ := exists_reads_createContext
    (p := ⟨flatPairs (ps.map (mapPlatform fun v => (GetID (platformAt v)).toUInt64)),
      (d :: ds).map GetID⟩) (length_flatPairs_map_lt hlen _)
  rw [hclient, awaitContext_eq]
  refine (settles_requested hw hreads (by decide) rfl hK).mpr ?_
  refine (settles_server_get stable_firstCall context_handler).mpr ?_
  refine settles_rebuilds (rebuildProperties_driverPairs t platformAt ps) ?_
  refine settles_calling fun _ => ⟨ids.map (objectAt t.mObjects), ?_⟩
  rw [terminated_flatPairs]

/-- Without a callback: with one, nothing is sent. -/
theorem settles_clCreateContextFromType (device_type : UInt64) (errcode_ret : Bool) :
    Settles D.environment (ServerInstance.serve B)
      (FirstCall fun q => q.1 = .create (.clCreateContextFromType
        (pairsList (driverPairs t platformAt ps)) device_type))
      (start B (clCreateContextFromType (propertiesAt platformAt properties) device_type false
        errcode_ret) s t []) := by
  have hK := Prog.Context.tryCatch (C := Empty) (A := NoAnswer) (σ := ClientState) fun _ : Exn =>
    returnError .context errcode_ret CL_DEVICE_NOT_AVAILABLE
  rw [clCreateContextFromType, if_neg (by decide), encode_propertiesAt platformAt hkeys hlist,
    awaitContext_eq]
  refine (settles_requested (List.append_nil _).symm
    (reads_createContextFromType (length_flatPairs_map_lt hlen _)) (by decide) rfl hK).mpr ?_
  refine settles_rebuilds (rebuildProperties_driverPairs t platformAt ps) ?_
  refine settles_calling fun _ => ?_
  rw [terminated_flatPairs]

/-- In a build of the server that has the function. -/
theorem settles_clCreateCommandQueueWithProperties (hB : 200 ≤ B.clTarget) (context device : Handle)
    (errcode_ret : Bool) :
    Settles D.environment (ServerInstance.serve B)
      (FirstCall fun q => q.1 = .create (.clCreateCommandQueueWithProperties
        (objectAt t.mObjects (GetID context)) (objectAt t.mObjects (GetID device)) (pairsList ps)))
      (start B (clCreateCommandQueueWithProperties (some context) (some device)
        (queuePropertiesAt properties) errcode_ret) s t []) := by
  have hK := context_catchingError .queue errcode_ret CL_OUT_OF_HOST_MEMORY
  have hhandler : ServerInstance.handler B .createQueueWithProp =
      some (ServerInstance.createQueueWithProp B) := rfl
  rw [ServerInstance.createQueueWithProp, if_pos hB] at hhandler
  have hfits := length_flatPairs_map_lt hlen id
  rw [List.map_id] at hfits
  rw [clCreateCommandQueueWithProperties, queuePropertiesAt_eq hkeys hlist, awaitQueue_eq]
  refine (settles_requested (List.append_nil _).symm
    (reads_createQueueWithProp hfits) (by decide) hhandler hK).mpr ?_
  refine (settles_server_get stable_firstCall context_handler).mpr ?_
  refine (settles_server_get stable_firstCall context_handler).mpr ?_
  refine settles_calling fun _ => ?_
  rw [← terminated_flatPairs]
  rfl

end Functions

theorem pairsList_eq_none_iff (ps : List (UInt64 × UInt64)) : pairsList ps = none ↔ ps = [] := by
  by_cases hnil : ps = []
  · rw [pairsList, if_pos hnil]
    exact iff_of_true rfl hnil
  · rw [pairsList, if_neg hnil]
    exact iff_of_false (Option.some_ne_none _) hnil

/-- **Property lists arrive**: the driver is given the pairs of the application in their order, with
the platforms replaced in the list of a context, and a null pointer for no pairs. -/
theorem properties_arrive (D : Driver) (B : ServerBuild) (s : ClientState) (t : ServerState)
    (platformAt : UInt64 → Handle) (ps : List (UInt64 × UInt64))
    (properties : Option (List UInt64)) (hkeys : ∀ p ∈ ps, p.1 ≠ 0) (hlen : ps.length ≤ 127)
    (hlist : ListsPairs ps properties) :
    (∀ devices : List Handle, devices ≠ [] → ∀ errcode_ret,
      Settles D.environment (ServerInstance.serve B)
        (FirstCall fun q => ∃ ds, q.1 =
          .create (.clCreateContext (pairsList (driverPairs t platformAt ps)) ds))
        (start B (clCreateContext (propertiesAt platformAt properties) (some (devices.map some))
          errcode_ret) s t [])) ∧
    (∀ device_type errcode_ret,
      Settles D.environment (ServerInstance.serve B)
        (FirstCall fun q => q.1 = .create (.clCreateContextFromType
          (pairsList (driverPairs t platformAt ps)) device_type))
        (start B (clCreateContextFromType (propertiesAt platformAt properties) device_type false
          errcode_ret) s t [])) ∧
    (200 ≤ B.clTarget → ∀ context device errcode_ret,
      Settles D.environment (ServerInstance.serve B)
        (FirstCall fun q => q.1 = .create (.clCreateCommandQueueWithProperties
          (objectAt t.mObjects (GetID context)) (objectAt t.mObjects (GetID device))
          (pairsList ps)))
        (start B (clCreateCommandQueueWithProperties (some context) (some device)
          (queuePropertiesAt properties) errcode_ret) s t [])) ∧
    (pairsList (driverPairs t platformAt ps) = none ↔ ps = []) ∧ (pairsList ps = none ↔ ps = []) :=
  ⟨fun _ hdevices errcode_ret =>
      settles_clCreateContext hkeys hlen hlist hdevices errcode_ret,
    fun device_type errcode_ret =>
      settles_clCreateContextFromType hkeys hlen hlist device_type errcode_ret,
    fun hB context device errcode_ret =>
      settles_clCreateCommandQueueWithProperties hkeys hlen hlist hB context device errcode_ret,
    (pairsList_eq_none_iff _).trans List.map_eq_nil_iff, pairsList_eq_none_iff ps⟩

/-- A platform, and two values that look like the key of a platform and like the terminator. -/
theorem properties_arrive_misleading :
    Settles Driver.refusing.environment (ServerInstance.serve ⟨plainBuild, 210⟩)
      (FirstCall fun q => q.1 = .create (.clCreateContextFromType
        (some [CL_CONTEXT_PLATFORM, 77, 5, CL_CONTEXT_PLATFORM, 5, 0, 0]) 4))
      (start ⟨plainBuild, 210⟩ (clCreateContextFromType
        (propertiesAt (fun v => ⟨v.toNat, 1, .platformID⟩) (some
          [CL_CONTEXT_PLATFORM, 9, 5, CL_CONTEXT_PLATFORM, 5, 0, 0])) 4 false true)
        ⟨[], 0, [], false, []⟩ ⟨[66, 77], none⟩ []) := by
  have hkeys : ∀ p ∈ [(CL_CONTEXT_PLATFORM, 9), (5, CL_CONTEXT_PLATFORM), (5, 0)], p.1 ≠ 0 := by
    intro p hp
    simp only [List.mem_cons, List.not_mem_nil, or_false] at hp
    rcases hp with rfl | rfl | rfl
    · show CL_CONTEXT_PLATFORM ≠ 0
      decide
    · show (5 : UInt64) ≠ 0
      decide
    · show (5 : UInt64) ≠ 0
      decide
  exact (properties_arrive .refusing ⟨plainBuild, 210⟩ ⟨[], 0, [], false, []⟩ ⟨[66, 77], none⟩
    (fun v => ⟨v.toNat, 1, .platformID⟩)
    [(CL_CONTEXT_PLATFORM, 9), (5, CL_CONTEXT_PLATFORM), (5, 0)]
    (some [CL_CONTEXT_PLATFORM, 9, 5, CL_CONTEXT_PLATFORM, 5, 0, 0]) hkeys (by decide)
    (Or.inr ⟨[], rfl⟩)).2.1 4 true

end RemoteCL

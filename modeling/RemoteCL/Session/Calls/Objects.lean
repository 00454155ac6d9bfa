import RemoteCL.Client.Objects
import RemoteCL.Session.Calls.Replies

/-!
# Calls: platforms, devices, contexts, queues, reference counts

Every function of this group is followed to its end.  What is assumed is that the strings and
lists of its arguments fit into their fields, that the driver's answers are legal, and that both
builds write payloads in the same format.
-/

namespace RemoteCL.Client

open ByteStream Conversation Wire LawfulWire

section Objects

variable {δ : Type} {E : δ → (c : ServerCall) → Ans c → δ → Prop} {B : ServerBuild} {C : Build}
variable {A : Set Ptr} {truncates : Bool}
variable {s s₀ : ClientState} {t : ServerState} {e : δ}

/-! ## Calls that return a code -/

theorem completes_changeRefCount {takes : List IDType → ℕ} {ty : PacketType}
    {call : ObjTy → Ptr → StatusCall}
    (hh : ServerInstance.handler B ty = some (ServerInstance.changeRefCount ty call))
    (hty : Ordinary ty) (kind : ObjTy) (others : Int32) (object : Handle) :
    Completes E B A takes truncates (changeRefCount ty kind others object) s t e := by
  refine settles_call (guard_catching others others) hh
    (agree_readPacket_last hty (reads_dec _) ?_)
  rw [ObjTy.ofLetter_letter]
  exact agree_getObj (agree_status (guard_catching _ _) _ (.refl _ _)
    ((Since.refl truncates s).took rfl))

theorem completes_changeRefCountOf {takes : List IDType → ℕ} {ty : PacketType}
    {call : ObjTy → Ptr → StatusCall}
    (hh : ServerInstance.handler B ty = some (ServerInstance.changeRefCount ty call))
    (hty : Ordinary ty) (kind : ObjTy) (invalid others : Int32) (object : Option Handle) :
    Completes E B A takes truncates (changeRefCountOf ty kind invalid others object) s t e := by
  cases object with
  | none => exact completes_code invalid
  | some object => exact completes_changeRefCount hh hty kind others object

/-- `clFlush` and `clFinish`. -/
theorem completes_queueCommand {takes : List IDType → ℕ} {ty : PacketType}
    {call : Ptr → StatusCall} {h : ServerM Unit} (hh : ServerInstance.handler B ty = some h)
    (hty : Ordinary ty)
    (hdef : h = PacketStream.readPacket (SimplePacket ty IDType) >>= fun packet =>
      ServerInstance.getObj packet.mData >>= fun queue =>
        ServerInstance.status (call queue) >>= ServerInstance.replyStatus)
    (queue : Option Handle) :
    Completes E B A takes truncates (queueCommand ty queue) s t e := by
  cases queue with
  | none => exact completes_code _
  | some queue =>
    subst hdef
    exact settles_call (guard_catching _ _) hh (agree_readPacket_last hty (reads_dec _)
      (agree_getObj (agree_status (guard_catching _ _) _ (.refl _ _)
        ((Since.refl truncates s).took rfl))))

theorem completes_clFlush {takes : List IDType → ℕ} (queue : Option Handle) :
    Completes E B A takes truncates (clFlush queue) s t e :=
  completes_queueCommand (h := ServerInstance.flushQueue) rfl (by decide) rfl queue

theorem completes_clFinish {takes : List IDType → ℕ} (queue : Option Handle) :
    Completes E B A takes truncates (clFinish queue) s t e :=
  completes_queueCommand (h := ServerInstance.finishQueue) rfl (by decide) rfl queue

/-! ## Calls that create an object -/

/-- The ID of a new object is awaited, and its handle is the result. -/
theorem awaits_created {K : ClientM Ret → ClientM Ret} (hK : Guard K) {how : Resolve}
    {kind : Kind} (pointer : Bool) {x : Lookup → Store}
    (hx : ∀ C, (ClientEvent.store (x C)).handles = [])
    (ht : ∀ C, (ClientEvent.store (x C)).truncates = false) :
    Awaits List.length truncates (some (how, kind)) ErrorReply IDReply
      (K (PacketStream.readPacket IDPacket >>= fun id => resolve how kind id.mData >>= fun C =>
        store pointer (x C) >>= fun _ => pure (.handle kind (some C)))) s s := by
  refine awaits_ID hK (.refl _ _) fun id => ?_
  simp only [Takes, Prog.wp_bind, wp_resolve, wp_store, Prog.afterBind_ok]
  exact ⟨_, _, rfl, rfl, rfl,
    ((Since.refl truncates s).apply how kind id).stored_plain _ (hx _) (ht _), fun x hx => hx⟩

theorem awaitID_bind {α : Type} (how : Resolve) (kind : Kind) (k : Lookup → ClientM α) :
    awaitID how kind >>= k = PacketStream.flush >>= fun _ =>
      PacketStream.readPacket IDPacket >>= fun id => resolve how kind id.mData >>= k := by
  rw [awaitID]
  simp only [bind_assoc]

/-- A request for a new object, which is one packet. -/
theorem completes_created {K : ClientM Ret → ClientM Ret} (hK : Guard K) {how : Resolve}
    {kind : Kind} {pointer : Bool} {x : Lookup → Store}
    (hx : ∀ C, (ClientEvent.store (x C)).handles = [])
    (ht : ∀ C, (ClientEvent.store (x C)).truncates = false) {P : Type} [Packet P] [Wire P] {p : P}
    {h : ServerM Unit} (hh : ServerInstance.handler B (Packet.mType P) = some h)
    (hserves : Serves E A List.length (some (how, kind)) ErrorReply IDReply h t (packet p)) :
    Completes E B A List.length truncates
      (K (PacketStream.writePacket p >>= fun _ => awaitID how kind >>= fun C =>
        store pointer (x C) >>= fun _ => pure (.handle kind (some C)))) s t e := by
  rw [awaitID_bind]
  exact settles_call hK hh ⟨_, _, _, waits_readPacket hK.context _ _ _, hserves,
    awaits_created hK pointer hx ht⟩

theorem length_handleIDs {hs : List (Option Handle)} {ids : List IDType}
    (h : handleIDs hs = some ids) : ids.length = hs.length := by
  induction hs generalizing ids with
  | nil =>
    rw [← Option.some.inj h]
    rfl
  | cons o hs ih =>
    cases o with
    | none => exact absurd h (by simp [handleIDs])
    | some o =>
      rw [handleIDs, Option.map_eq_some_iff] at h
      obtain ⟨ids', hids, rfl⟩ := h
      rw [List.length_cons, List.length_cons, ih hids]

/-- What the client sends for a property list are pairs. -/
theorem even_length_encode (properties : List Property) :
    Even (properties.flatMap Property.encode).length := by
  induction properties with
  | nil => exact Even.zero
  | cons p properties ih =>
    rw [List.flatMap_cons, List.length_append]
    exact Even.add (by cases p <;> exact even_two) ih

/-- The server finds the end of the property list. -/
theorem serves_rebuild {properties : List Property} {k : List UInt64 → ServerM Unit}
    {u : Bytes} {takes : List IDType → ℕ} {use : Option (Resolve × Kind)}
    (h : ∀ rebuilt, Serves E A takes use ErrorReply IDReply (k rebuilt) t u) :
    Serves E A takes use ErrorReply IDReply
      (ServerInstance.rebuild (properties.flatMap Property.encode) >>= k) t u := by
  rw [ServerInstance.rebuild, bind_assoc]
  refine serves_getState ?_
  obtain ⟨rebuilt, hrebuilt⟩ := Option.isSome_iff_exists.mp
    ((ServerInstance.isSome_rebuildProperties_iff t.mObjects _).mpr (even_length_encode properties))
  rw [hrebuilt]
  exact h rebuilt

section Creation

variable (hE : AllLegal A E) (hg : Good A t.mObjects)
include hE hg

theorem completes_clCreateContext {properties : List Property}
    {devices : Option (List (Option Handle))} (errcode_ret : Bool)
    (hproperties : (properties.flatMap Property.encode).length ≤ 255)
    (hdevices : ∀ ds, devices = some ds → ds.length ≤ 65535) :
    Completes E B A List.length truncates (clCreateContext properties devices errcode_ret) s t
      e := by
  unfold clCreateContext
  split
  · exact completes_returnError _ _ _
  · exact completes_returnError _ _ _
  · rename_i ds _
    split
    · exact completes_returnError _ _ _
    · rename_i ids hids
      have hlen : ids.length ≤ 65535 := length_handleIDs hids ▸ hdevices ds rfl
      exact completes_created (guard_any _ _ _) (fun _ => rfl) (fun _ => rfl) rfl
        (serves_readPacket_last (by decide)
          (reads_createContext (Nat.lt_succ_of_le hproperties) (Nat.lt_succ_of_le hlen))
          (serves_getObjs (serves_rebuild fun _ => ServerInstance.serves_create hE hg rfl)))

theorem completes_clCreateContextFromType {properties : List Property} (device_type : UInt64)
    (callback errcode_ret : Bool)
    (hproperties : (properties.flatMap Property.encode).length ≤ 255) :
    Completes E B A List.length truncates
      (clCreateContextFromType properties device_type callback errcode_ret) s t e := by
  unfold clCreateContextFromType
  split
  · exact completes_returnError _ _ _
  · exact completes_created (guard_any _ _ _) (fun _ => rfl) (fun _ => rfl) rfl
      (serves_readPacket_last (by decide)
        (reads_createContextFromType (Nat.lt_succ_of_le hproperties))
        (serves_rebuild fun _ => ServerInstance.serves_create hE hg rfl))

theorem completes_clCreateCommandQueue (context device : Option Handle) (properties : UInt64)
    (errcode_ret : Bool) :
    Completes E B A List.length truncates
      (clCreateCommandQueue context device properties errcode_ret) s t e := by
  unfold clCreateCommandQueue
  split
  · exact completes_returnError _ _ _
  · exact completes_returnError _ _ _
  · exact completes_created (guard_catchingError _ _ _) (fun _ => rfl) (fun _ => rfl) rfl
      (serves_readPacket_last (by decide) (reads_dec _)
        (serves_getObj (serves_getObj (ServerInstance.serves_create hE hg rfl))))

theorem completes_clCreateCommandQueueWithProperties (hB : 210 ≤ B.clTarget)
    (context device : Option Handle) {properties : List (UInt64 × UInt64)} (errcode_ret : Bool)
    (hproperties : (properties.flatMap fun p => [p.1, p.2]).length ≤ 255) :
    Completes E B A List.length truncates
      (clCreateCommandQueueWithProperties context device properties errcode_ret) s t e := by
  have hh : ServerInstance.handler B (Packet.mType CreateQueueWithProp) =
      some (ServerInstance.createQueueWithProp B) := rfl
  rw [ServerInstance.createQueueWithProp, if_pos (by omega)] at hh
  unfold clCreateCommandQueueWithProperties
  split
  · exact completes_returnError _ _ _
  · exact completes_returnError _ _ _
  · exact completes_created (guard_catchingError _ _ _) (fun _ => rfl) (fun _ => rfl) hh
      (serves_readPacket_last (by decide)
        (reads_createQueueWithProp (Nat.lt_succ_of_le hproperties))
        (serves_getObj (serves_getObj (ServerInstance.serves_create hE hg rfl))))

end Creation

/-! ## Lists of platforms and devices -/

/-- A list of IDs is awaited, and all of them are resolved. -/
theorem awaits_entries {K : ClientM Ret → ClientM Ret} (hK : Guard K) (kind : Kind)
    {num_entries : ℕ} {entries : Bool} (hentries : entries = false → num_entries = 0)
    (count : Bool) (hs : Since truncates s₀ s [] s₀.core) :
    Awaits List.length truncates (some (.getOrInsertObject, kind)) ErrorReply IDsReply
      (K (PacketStream.readPacket IDListPacket >>= fun list =>
        store count (.count list.mIDs.length) >>= fun _ =>
          resolveAll .getOrInsertObject kind list.mIDs >>= fun objects =>
            if !entries && !(objects.take num_entries).isEmpty then overrun
            else store entries (.entries kind (objects.take num_entries)) >>= fun _ =>
              pure (.code CL_SUCCESS))) s₀ s := by
  refine awaits_IDs hK hs fun ids => ?_
  have harray (objects : List Lookup) :
      ¬ (!entries && !(objects.take num_entries).isEmpty) = true := by
    cases entries with
    | true => exact Bool.false_ne_true
    | false => simp [hentries rfl]
  simp only [Takes, Prog.wp_bind, wp_resolveAll, wp_store, Prog.afterBind_ok, if_neg (harray _)]
  rw [List.take_length]
  have hcount := (hs.stored_plain count (x := .count ids.length) rfl rfl).applyAll
    .getOrInsertObject kind ids
  refine Since.took (hcount.stored entries (fun y hy => ?_) fun h => Bool.noConfusion h) rfl
  obtain ⟨r, hr, rfl⟩ := List.mem_map.mp hy
  exact List.mem_append_right _ (List.mem_map.mpr ⟨r, List.mem_of_mem_take hr, rfl⟩)

/-- A number that is not stored counts as zero. -/
theorem getD_le {o : Option ℕ} {n : ℕ} (h : ∀ k, o = some k → k ≤ n) : o.getD 0 ≤ n := by
  cases o with
  | none => exact Nat.zero_le n
  | some k => exact h k rfl

section Lists

variable (hE : AllLegal A E) (hg : Good A t.mObjects)
include hE hg

/-- An error of the second question goes unnoticed. -/
theorem serves_sendPlatformList :
    Serves E A List.length (some (.getOrInsertObject, .platformID)) ErrorReply IDsReply
      ServerInstance.sendPlatformList t (packet (⟨⟩ : GetPlatformIDs)) := by
  refine serves_readPacket_last (by decide) (reads_dec _) fun e Q hplain hnaming => ?_
  rw [Prog.wp_bind, Prog.wp_ask]
  intro a e₁ ha
  rw [Prog.afterBind_ok]
  split
  · exact hplain _ e₁ _ (.cons ha .nil) (namingsOf_eq_nil rfl (by simp [named, storeInto]))
      ⟨a.err, ‹_›, rfl⟩
  · rw [Prog.wp_bind, Prog.wp_ask]
    intro b e₂ hb
    have hcount : a.count.getD 0 ≤ 255 := getD_le (hE _ _ _ _ ha).fits
    exact ServerInstance.wp_writeIDs_named hE hg hb hcount rfl fun ids mObjects w hids hw =>
      hnaming _ _ b e₂ ids mObjects w (.cons ha (.cons hb .nil)) rfl rfl hids hw

theorem serves_sendDeviceList (p : GetDeviceIDs) :
    Serves E A List.length (some (.getOrInsertObject, .deviceID)) ErrorReply IDsReply
      ServerInstance.sendDeviceList t (packet p) := by
  refine serves_readPacket_last (by decide) (reads_dec _)
    (serves_getObj fun e Q hplain hnaming => ?_)
  rw [Prog.wp_bind, Prog.wp_ask]
  intro a e₁ ha
  rw [Prog.afterBind_ok]
  split
  · rename_i herr
    exact hplain _ e₁ _ (.cons ha .nil) (namingsOf_eq_nil rfl (by simp [named, herr]))
      ⟨a.err, herr, rfl⟩
  · rw [Prog.wp_bind, Prog.wp_ask]
    intro b e₂ hb
    rw [Prog.afterBind_ok]
    split
    · rename_i herr
      exact hplain _ e₂ _ (.cons ha (.cons hb .nil))
        (namingsOf_eq_nil rfl (by simp [named, herr])) ⟨b.err, herr, rfl⟩
    · have hcount : a.count.getD 0 ≤ 255 := getD_le (hE _ _ _ _ ha).fits
      exact ServerInstance.wp_writeIDs_named hE hg hb hcount (if_pos (not_not.mp ‹_›))
        fun ids mObjects w hids hw =>
          hnaming _ _ b e₂ ids mObjects w (.cons ha (.cons hb .nil)) rfl rfl hids hw

theorem completes_clGetPlatformIDs {num_entries : ℕ} {platforms : Bool}
    {num_platforms : Bool} (hentries : platforms = false → num_platforms = true → num_entries = 0) :
    Completes E B A List.length truncates (clGetPlatformIDs num_entries platforms num_platforms)
      s t e := by
  unfold clGetPlatformIDs
  split
  · exact completes_code _
  · rename_i hnull
    split
    · exact completes_code _
    · have hentries (h : platforms = false) : num_entries = 0 := by
        subst h
        exact hentries rfl (by simpa using hnull)
      refine (settles_store Prog.Context.hole).mpr (settles_call (guard_catching _ _) rfl
        ⟨_, _, _, waits_readPacket (context_catching _ _) _ _ _,
          serves_sendPlatformList hE hg, awaits_entries (guard_catching _ _) _ hentries _ ?_⟩)
      exact (Since.refl truncates s).stored_plain _ rfl rfl

theorem completes_clGetDeviceIDs (platform : Option Handle) (device_type : UInt64)
    {num_entries : ℕ} {devices num_devices : Bool}
    (hentries : devices = false → num_devices = true → num_entries = 0) :
    Completes E B A List.length truncates
      (clGetDeviceIDs platform device_type num_entries devices num_devices) s t e := by
  unfold clGetDeviceIDs
  split
  · exact completes_code _
  · split
    · exact completes_code _
    · rename_i hnull
      have hentries (h : devices = false) : num_entries = 0 := by
        subst h
        exact hentries rfl (by simpa using hnull)
      refine (settles_store Prog.Context.hole).mpr (settles_call (guard_catching _ _) rfl
        ⟨_, _, _, waits_readPacket (context_catching _ _) _ _ _,
          serves_sendDeviceList hE hg _, awaits_entries (guard_catching _ _) _ hentries _ ?_⟩)
      exact (Since.refl truncates s).stored_plain _ rfl rfl

end Lists

end Objects

end RemoteCL.Client

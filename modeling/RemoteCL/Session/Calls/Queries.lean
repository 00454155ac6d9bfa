import RemoteCL.Client.Memory
import RemoteCL.Client.Program
import RemoteCL.Session.Calls.Objects

/-!
# Calls: queries

The reply to a query is of one of a few kinds, and which one it is depends on what is asked for.
Handler and function decide this independently of each other, each by its own list of parameters,
and the lists have to agree.
-/

namespace RemoteCL.Client

open ByteStream Conversation Wire LawfulWire

section Queries

variable {δ : Type} {E : δ → (c : ServerCall) → Ans c → δ → Prop} {B : ServerBuild} {C : Build}
variable {A : Set Ptr} {takes : List IDType → ℕ} {truncates : Bool}
variable {s s₀ : ClientState} {t : ServerState} {e : δ}

/-! ## Kinds of answers -/

section Kinds

variable {K : ClientM Ret → ClientM Ret} (hK : Guard K) (args : InfoArgs) {q : InfoQuery}
include hK

theorem agree_object (hE : AllLegal A E) (hg : Good A t.mObjects) {how : Resolve} {kind : Kind}
    (huse : useOfInfo q = some (how, kind)) (hq : ∀ a, namedByInfo q 8 a = namedOne a) :
    Agree E A List.length truncates (ServerInstance.replyObject q) t []
      (K (awaitObject how kind args)) s s := by
  refine ⟨_, _, _, waits_readPacket hK.context _ _ _,
    ServerInstance.serves_object hE hg huse hq, awaits_ID hK (.refl _ _) fun id => ?_⟩
  simp only [Takes, storeHandle, Prog.wp_bind, wp_resolve, wp_store, Prog.afterBind_ok]
  have hfound := (Since.refl truncates s).apply how kind id
  have hstored := hfound.stored (decide (8 ≤ args.param_value_size))
    (x := .param_handles kind [_]) (fun y hy => hy) fun h => Bool.noConfusion h
  exact (hstored.stored_plain _ rfl rfl).took rfl

/-- A value is converted, and stored. -/
theorem awaits_converted {T : Type} [Wire T] [LawfulWire T] (f : T → Bytes) :
    Awaits takes truncates none (ValueReply T) NoReply
      (K (PacketStream.readPacket (SimplePacket .payload T) >>= fun value =>
        storeValue args (f value.mData) >>= fun _ => pure (.code CL_SUCCESS))) s s := by
  refine awaits_value hK (.refl _ _) fun value => ?_
  simp only [Takes, storeValue, Prog.wp_bind, wp_store, Prog.afterBind_ok]
  exact (((Since.refl truncates s).stored_plain _ rfl rfl).stored_plain _ rfl rfl).took rfl

/-- A value is stored as it has arrived. -/
theorem awaits_awaitValue (T : Type) [Wire T] [LawfulWire T] :
    Awaits takes truncates none (ValueReply T) NoReply (K (awaitValue T args)) s s :=
  awaits_converted hK args enc

theorem agree_size (hq : ∀ a, namedByInfo q 8 a = []) :
    Agree E A takes truncates (ServerInstance.replySize q) t [] (K (awaitValue UInt64 args))
      s s :=
  ⟨_, _, _, waits_readPacket hK.context _ _ _, ServerInstance.serves_size hq,
    awaits_awaitValue hK args UInt64⟩

theorem agree_uint (hq : ∀ a, namedByInfo q 4 a = []) :
    Agree E A takes truncates (ServerInstance.replyUInt q) t [] (K (awaitValue UInt32 args))
      s s :=
  ⟨_, _, _, waits_readPacket hK.context _ _ _, ServerInstance.serves_uint hq,
    awaits_awaitValue hK args UInt32⟩

variable (hz : SameFormat B.zlib C.zlib)
include hz

theorem agree_sizes (H : Host) (hq : ∀ a, namedByInfo q 24 a = []) :
    Agree E A takes truncates (ServerInstance.replySizes B q) t [] (K (awaitSizes C H args))
      s s := by
  refine ⟨_, _, _, waits_read hK.context _ _ _ _, ServerInstance.serves_sizes hq,
    awaits_sizes hK hz .payloadInto (.refl _ _) fun data hdata => ?_⟩
  rw [if_neg (Nat.not_lt.mpr hdata)]
  simp only [Takes, Prog.wp_bind, wp_store, Prog.afterBind_ok]
  exact (((Since.refl truncates s).stored_plain _ rfl rfl).stored_plain _ rfl rfl).took rfl

/-- A payload is passed on if there is room for it. -/
theorem awaits_awaitPayload (sz : SizeT) :
    Awaits takes truncates none (PayloadReply B.zlib sz) NoReply (K (awaitPayload C sz args))
      s s := by
  refine awaits_payload hK hz .payload (.refl _ _) fun data => ?_
  simp only [Takes, storePayload, Prog.wp_bind, wp_store, Prog.afterBind_ok]
  exact (((Since.refl truncates s).stored_plain _ rfl rfl).stored_plain _ rfl rfl).took rfl

theorem agree_raw (hE : AllLegal A E) {sz : SizeT} {checked : Bool}
    (hq : ∀ n a, namedByInfo q n a = []) (hlimit : infoLimit q < sz.range) :
    Agree E A takes truncates (ServerInstance.replyRaw B sz checked q) t []
      (K (awaitPayload C sz args)) s s :=
  ⟨_, _, _, waits_read hK.context _ _ _ _, ServerInstance.serves_raw hE hq hlimit,
    awaits_awaitPayload hK args hz sz⟩

end Kinds

/-! ## Platforms and devices -/

variable (hE : AllLegal A E)
include hE

theorem serves_getPlatformInfo (p : GetPlatformInfo) :
    Serves E A takes none (PayloadReply B.zlib .uint8) NoReply
      (ServerInstance.getPlatformInfo B) t (packet p) := by
  refine serves_readPacket_last (by decide) (reads_dec _)
    (serves_getObj fun e Q hplain _ => ?_)
  rw [Prog.wp_bind, ServerInstance.wp_info]
  intro a e₁ ha
  rw [Prog.afterBind_ok]
  split
  · exact hplain _ e₁ _ (.cons ha .nil) (namingsOf_info_eq_nil rfl rfl)
      (Or.inl ⟨a.err, ‹_›, rfl⟩)
  · have hsize : a.size.getD 0 ≤ 255 := ServerInstance.size_le hE ha (Nat.zero_le _)
    have hvector : 1 * a.size.getD 0 ≤ ServerInstance.vectorMaxSize := by
      rw [ServerInstance.vectorMaxSize]
      omega
    rw [Prog.wp_bind, ServerInstance.wp_resize hvector, Prog.afterBind_ok, Prog.wp_bind,
      ServerInstance.wp_info]
    intro b e₂ hb
    rw [Prog.afterBind_ok]
    split
    · exact hplain _ e₂ _ (.cons ha (.cons hb .nil)) (namingsOf_info_eq_nil rfl rfl)
        (Or.inl ⟨b.err, ‹_›, rfl⟩)
    · refine hplain _ e₂ _ (.cons ha (.cons hb .nil)) (namingsOf_info_eq_nil rfl rfl)
        (Or.inr ⟨_, ?_, rfl⟩)
      rw [length_storeInto, length_zeros]
      exact Nat.lt_succ_of_le hsize

variable (hz : SameFormat B.zlib C.zlib)
include hz

theorem completes_clGetPlatformInfo (platform : Option Handle) (param_name : UInt32)
    (args : InfoArgs) :
    Completes E B A takes truncates (clGetPlatformInfo C platform param_name args) s t e := by
  unfold clGetPlatformInfo
  split
  · exact completes_code _
  · exact settles_call (guard_catching _ _) rfl ⟨_, _, _, waits_read (context_catching _ _) _ _ _ _,
      serves_getPlatformInfo hE _, awaits_awaitPayload (guard_catching _ _) args hz .uint8⟩

variable (hg : Good A t.mObjects)
include hg

/-- For the parameters that are sizes only in a later version of OpenCL the server has to be built
for it. -/
theorem completes_clGetDeviceInfo (hB : 210 ≤ B.clTarget) (H : Host) (device : Option Handle)
    (param_name : UInt32) (args : InfoArgs) :
    Completes E B A List.length truncates (clGetDeviceInfo C H device param_name args) s t e := by
  unfold clGetDeviceInfo
  split
  · exact completes_code _
  refine settles_call (guard_catching _ _) rfl (agree_readPacket_last (by decide) (reads_dec _)
    (agree_getObj ?_))
  by_cases hplatform : param_name = CL_DEVICE_PLATFORM
  · rw [if_pos hplatform, if_pos (Or.inl hplatform)]
    exact agree_object (guard_catching _ _) args hE hg (if_pos hplatform)
      fun _ => if_pos (Or.inl hplatform)
  by_cases hparent : param_name = CL_DEVICE_PARENT_DEVICE
  · rw [if_neg hplatform, if_pos hparent, if_pos (Or.inr hparent)]
    refine agree_object (guard_catching _ _) args hE hg ?_ fun _ => if_pos (Or.inr hparent)
    rw [useOfInfo, if_neg hplatform, if_pos hparent]
  have hneither : ¬(param_name = CL_DEVICE_PLATFORM ∨ param_name = CL_DEVICE_PARENT_DEVICE) :=
    not_or.mpr ⟨hplatform, hparent⟩
  rw [if_neg hplatform, if_neg hparent, if_neg hneither]
  have hq : ∀ device n a, namedByInfo (.clGetDeviceInfo device param_name) n a = [] :=
    fun _ _ _ => if_neg hneither
  have hsizes : param_name ∈ deviceSizeParams ↔
      param_name ∈ ServerInstance.deviceSizeParams ∨
        (200 ≤ B.clTarget ∧ param_name ∈ ServerInstance.deviceSizeParams20) := by
    rw [and_iff_right (show 200 ≤ B.clTarget by omega), ← List.mem_append]
    exact List.Perm.mem_iff (by decide)
  by_cases hsize : param_name ∈ deviceSizeParams
  · rw [if_pos hsize, if_pos (hsizes.mp hsize)]
    exact agree_size (guard_catching _ _) args fun _ => hq _ _ _
  rw [if_neg hsize, if_neg (fun h => hsize (hsizes.mpr h))]
  split
  · exact agree_sizes (guard_catching _ _) args hz H fun _ => hq _ _ _
  · exact agree_raw (guard_catching _ _) args hz hE (fun _ _ => hq _ _ _)
      (ServerInstance.infoLimit_lt _)

/-! ## Queues, memory objects, kernels -/

theorem completes_clGetCommandQueueInfo (queue : Option Handle) (param_name : UInt32)
    (args : InfoArgs) :
    Completes E B A List.length truncates (clGetCommandQueueInfo C queue param_name args) s t
      e := by
  unfold clGetCommandQueueInfo
  split
  · exact completes_code _
  refine settles_call (guard_catching _ _) rfl (agree_readPacket_last (by decide) (reads_dec _)
    (agree_getObj ?_))
  by_cases hcontext : param_name = CL_QUEUE_CONTEXT
  · rw [if_pos hcontext, if_pos (Or.inl hcontext)]
    exact agree_object (guard_catching _ _) args hE hg (if_pos hcontext)
      fun _ => if_pos (Or.inl hcontext)
  by_cases hdevice : param_name = CL_QUEUE_DEVICE
  · rw [if_neg hcontext, if_pos hdevice, if_pos (Or.inr hdevice)]
    refine agree_object (guard_catching _ _) args hE hg ?_ fun _ => if_pos (Or.inr hdevice)
    rw [useOfInfo, if_neg hcontext, if_pos hdevice]
  have hneither : ¬(param_name = CL_QUEUE_CONTEXT ∨ param_name = CL_QUEUE_DEVICE) :=
    not_or.mpr ⟨hcontext, hdevice⟩
  rw [if_neg hcontext, if_neg hdevice, if_neg hneither]
  exact agree_raw (guard_catching _ _) args hz hE (fun _ _ => if_neg hneither)
    (show 255 < _ by decide)

theorem completes_clGetMemObjectInfo (memobj : Option Handle) (param_name : UInt32)
    (args : InfoArgs) :
    Completes E B A List.length truncates (clGetMemObjectInfo C memobj param_name args) s t
      e := by
  unfold clGetMemObjectInfo
  split
  · exact completes_code _
  refine settles_call (guard_catching _ _) rfl (agree_readPacket_last (by decide) (reads_dec _)
    (agree_getObj ?_))
  by_cases hcontext : param_name = CL_MEM_CONTEXT
  · rw [if_pos hcontext, if_pos (Or.inl hcontext)]
    exact agree_object (guard_catching _ _) args hE hg (if_pos hcontext)
      fun _ => if_pos (Or.inl hcontext)
  by_cases hobject : param_name = CL_MEM_ASSOCIATED_MEMOBJECT
  · rw [if_neg hcontext, if_pos hobject, if_pos (Or.inr hobject)]
    refine agree_object (guard_catching _ _) args hE hg ?_ fun _ => if_pos (Or.inr hobject)
    rw [useOfInfo, if_neg hcontext, if_pos hobject]
  have hneither : ¬(param_name = CL_MEM_CONTEXT ∨ param_name = CL_MEM_ASSOCIATED_MEMOBJECT) :=
    not_or.mpr ⟨hcontext, hobject⟩
  rw [if_neg hcontext, if_neg hobject, if_neg hneither]
  exact agree_raw (guard_catching _ _) args hz hE (fun _ _ => if_neg hneither)
    (show 255 < _ by decide)

theorem completes_clGetKernelInfo (kernel : Option Handle) (param_name : UInt32)
    (args : InfoArgs) :
    Completes E B A List.length truncates (clGetKernelInfo C kernel param_name args) s t e := by
  unfold clGetKernelInfo
  split
  · exact completes_code _
  refine settles_call (guard_catching _ _) rfl (agree_readPacket_last (by decide) (reads_dec _)
    (agree_getObj ?_))
  by_cases hcontext : param_name = CL_KERNEL_CONTEXT
  · rw [if_pos hcontext, if_pos (Or.inl hcontext)]
    exact agree_object (guard_catching _ _) args hE hg (if_pos hcontext)
      fun _ => if_pos (Or.inl hcontext)
  by_cases hprogram : param_name = CL_KERNEL_PROGRAM
  · rw [if_neg hcontext, if_pos hprogram, if_pos (Or.inr hprogram)]
    refine agree_object (guard_catching _ _) args hE hg ?_ fun _ => if_pos (Or.inr hprogram)
    rw [useOfInfo, if_neg hcontext, if_pos hprogram]
  have hneither : ¬(param_name = CL_KERNEL_CONTEXT ∨ param_name = CL_KERNEL_PROGRAM) :=
    not_or.mpr ⟨hcontext, hprogram⟩
  rw [if_neg hcontext, if_neg hprogram, if_neg hneither]
  split
  · exact agree_uint (guard_catching _ _) args fun _ => if_neg hneither
  · exact agree_raw (guard_catching _ _) args hz hE (fun _ _ => if_neg hneither)
      (ServerInstance.infoLimit_lt _)

omit hg in
theorem completes_clGetKernelArgInfo (kernel : Option Handle) (arg_indx param_name : UInt32)
    (args : InfoArgs) :
    Completes E B A takes truncates (clGetKernelArgInfo C kernel arg_indx param_name args) s t
      e := by
  unfold clGetKernelArgInfo
  split
  · exact completes_code _
  refine settles_call (guard_catching _ _) rfl (agree_readPacket_last (by decide) (reads_dec _)
    (agree_getObj ?_))
  by_cases hvalue : param_name = CL_KERNEL_ARG_ACCESS_QUALIFIER ∨
      param_name = CL_KERNEL_ARG_ADDRESS_QUALIFIER
  · rw [if_pos hvalue, if_pos (hvalue.imp_right Or.inr)]
    exact agree_uint (guard_catching _ _) args fun _ => rfl
  by_cases htype : param_name = CL_KERNEL_ARG_TYPE_QUALIFIER
  · rw [if_neg hvalue, if_pos htype, if_pos (Or.inr (Or.inl htype))]
    exact ⟨_, _, _, waits_readPacket (context_catching _ _) _ _ _,
      ServerInstance.serves_uint fun _ => rfl,
      awaits_converted (guard_catching _ _) args fun value : UInt32 => enc value.toUInt64⟩
  have hneither : ¬(param_name = CL_KERNEL_ARG_ACCESS_QUALIFIER ∨
      param_name = CL_KERNEL_ARG_TYPE_QUALIFIER ∨
      param_name = CL_KERNEL_ARG_ADDRESS_QUALIFIER) := by
    rintro (h | h | h)
    · exact hvalue (Or.inl h)
    · exact htype h
    · exact hvalue (Or.inr h)
  rw [if_neg hvalue, if_neg htype, if_neg hneither]
  exact agree_raw (guard_catching _ _) args hz hE (fun _ _ => rfl)
    (ServerInstance.infoLimit_lt _)

omit hg in
theorem completes_clGetKernelWorkGroupInfo (H : Host) (kernel device : Option Handle)
    (param_name : UInt32)
    (args : InfoArgs) :
    Completes E B A takes truncates (clGetKernelWorkGroupInfo C H kernel device param_name args) s
      t e := by
  unfold clGetKernelWorkGroupInfo
  split
  · exact completes_code _
  · exact completes_code _
  refine settles_call (guard_catching _ _) rfl (agree_readPacket_last (by decide) (reads_dec _)
    (agree_getObj (agree_getObj ?_)))
  by_cases hsizes : param_name = CL_KERNEL_COMPILE_WORK_GROUP_SIZE
  · rw [if_pos hsizes, if_pos hsizes]
    exact agree_sizes (guard_catching _ _) args hz H fun _ => rfl
  rw [if_neg hsizes, if_neg hsizes]
  by_cases hsize : param_name = CL_KERNEL_LOCAL_MEM_SIZE ∨
      param_name = CL_KERNEL_PREFERRED_WORK_GROUP_SIZE_MULTIPLE ∨
      param_name = CL_KERNEL_WORK_GROUP_SIZE
  · rw [if_pos hsize, if_pos hsize]
    exact ⟨_, _, _, waits_readPacket (context_catching _ _) _ _ _,
      ServerInstance.serves_size fun _ => rfl,
      awaits_converted (guard_catching _ _) args H.size⟩
  · rw [if_neg hsize, if_neg hsize]
    exact agree_raw (guard_catching _ _) args hz hE (fun _ _ => rfl)
      (ServerInstance.infoLimit_lt _)

/-! ## Images -/

/-- How many IDs a query for the buffer of an image takes: the largest one stands for none. -/
def takesParent (ids : List IDType) : ℕ := (ids.filter fun id => id ≠ 0xFFFF).length

omit hz in
/-- The handler's part in a query for the buffer of an image. -/
theorem serves_parent {image : Ptr} {k : ServerM Unit}
    (hk : k = ServerInstance.info (.clGetImageInfo image CL_IMAGE_BUFFER) 8 >>= fun a =>
      if a.err ≠ CL_SUCCESS then ServerInstance.writeError a.err
      else if wordAt (storeInto (zeros 8) a.data) ≠ 0 then
        ServerInstance.writeID (wordAt (storeInto (zeros 8) a.data))
      else PacketStream.writePacket (⟨0xFFFF⟩ : IDPacket)) :
    Serves E A takesParent (some (.getOrInsertObject, .memObject))
      (fun w => ErrorReply w ∨ w = packet (⟨0xFFFF⟩ : IDPacket)) IDReply k t [] := by
  subst hk
  intro e Q hplain hnaming
  rw [Prog.wp_bind, ServerInstance.wp_info]
  intro a e' ha
  have hnamed : namedByInfo (.clGetImageInfo image CL_IMAGE_BUFFER) 8 a =
      (namedOne a).filter fun parent => parent ≠ 0 := rfl
  rw [namedOne] at hnamed
  rw [Prog.afterBind_ok]
  split
  · rename_i herr
    rw [if_neg herr] at hnamed
    exact hplain _ e' _ (.cons ha .nil) (namingsOf_info_eq_nil rfl hnamed)
      (Or.inl ⟨a.err, herr, rfl⟩)
  · rename_i herr
    rw [if_pos (not_not.mp herr)] at hnamed
    split
    · rename_i hparent
      have hword : objectWord a.data ≠ 0 := hparent
      rw [List.filter_cons_of_pos (by simpa using hword)] at hnamed
      exact ServerInstance.wp_writeID_named hE hg ha hnamed fun id mObjects hid =>
        hnaming _ _ a e' [id] mObjects _ (.cons ha .nil) rfl rfl hid ⟨id, rfl, rfl⟩
    · rename_i hparent
      have hword : objectWord a.data = 0 := not_not.mp hparent
      rw [List.filter_cons_of_neg (by simpa using hword)] at hnamed
      exact hplain _ e' _ (.cons ha .nil) (namingsOf_info_eq_nil rfl hnamed) (Or.inr rfl)

/-- The ID of a buffer, or the sentinel: whatever it is that is replied, the client resolves it
unless it is the sentinel. -/
theorem completes_clGetImageInfo (image : Option Handle) (param_name : UInt32)
    (args : InfoArgs) :
    Completes E B A takesParent truncates (clGetImageInfo C image param_name args) s t e := by
  unfold clGetImageInfo
  split
  · exact completes_code _
  refine settles_call (guard_catching _ _) rfl (agree_readPacket_last (by decide) (reads_dec _)
    (agree_getObj ?_))
  by_cases hbuffer : param_name = CL_IMAGE_BUFFER
  · subst hbuffer
    rw [if_pos rfl, if_pos rfl]
    have hnone : ∀ core, Since truncates s s [] core →
        Takes (storeValue args (zeros 8) >>= fun _ => pure (.code CL_SUCCESS)) s []
          (afterGuard (Took truncates s core)) := by
      intro core hs
      simp only [Takes, storeValue, Prog.wp_bind, wp_store, Prog.afterBind_ok]
      exact ((hs.stored_plain _ rfl rfl).stored_plain _ rfl rfl).took rfl
    refine ⟨_, _, _, waits_readPacket (context_catching _ _) _ _ _,
      serves_parent hE hg rfl, ?_, ?_⟩
    · rintro w (hw | rfl)
      · exact takes_error (guard_catching _ _) (.refl _ _) hw
      · refine takes_readPacket (guard_catching _ _) (by decide) (reads_dec _) ?_
        rw [if_neg (by decide)]
        exact hnone _ (.refl _ _)
    · rintro ids w ⟨id, rfl, rfl⟩
      refine ⟨_, _, rfl, takes_readPacket (guard_catching _ _) (by decide) (reads_dec _) ?_⟩
      by_cases hid : id = 0xFFFF
      · rw [if_neg (not_not.mpr hid), takesParent, List.filter_cons_of_neg (by simpa using hid)]
        exact hnone _ (.refl _ _)
      · rw [if_pos hid, takesParent, List.filter_cons_of_pos (by simpa using hid)]
        simp only [Takes, storeHandle, Prog.wp_bind, wp_getOrInsertObject, wp_store,
          Prog.afterBind_ok]
        have hfound := (Since.refl truncates s).apply .getOrInsertObject .memObject id
        have hstored := hfound.stored (decide (8 ≤ args.param_value_size))
          (x := .param_handles .memObject [_]) (fun y hy => hy) fun h => Bool.noConfusion h
        exact (hstored.stored_plain _ rfl rfl).took rfl
  · rw [if_neg hbuffer, if_neg hbuffer]
    exact agree_raw (guard_catching _ _) args hz hE (fun _ _ => if_neg hbuffer)
      (show 255 < _ by decide)

end Queries

end RemoteCL.Client

import RemoteCL.Session.Calls.Queries

/-!
# Calls: queries with answers of their own

Some queries are not answered like the others.  Those for the devices of a context or a program and
for the queue or the context of an event leave it to the arguments of the call whether the objects
in the reply are looked up at all.
-/

namespace RemoteCL.Client

open ByteStream Conversation Wire LawfulWire

/-- All of the IDs are taken, or none of them. -/
def takesIf (p : List IDType → Bool) (ids : List IDType) : ℕ := if p ids then ids.length else 0

/-- As many IDs are taken as there is room for. -/
def takesUpTo (n : ℕ) (ids : List IDType) : ℕ := min ids.length n

/-- There is room for a handle. -/
def InfoArgs.roomForHandle (args : InfoArgs) : Bool :=
  args.param_value && decide (8 ≤ args.param_value_size)

section Details

variable {δ : Type} {E : δ → (c : ServerCall) → Ans c → δ → Prop} {B : ServerBuild} {C : Build}
variable {A : Set Ptr} {takes : List IDType → ℕ} {truncates : Bool}
variable {s s₀ : ClientState} {t : ServerState} {e : δ}

/-! ## Events -/

theorem completes_clGetEventProfilingInfo (event : Option Handle) (param_name : UInt32)
    (args : InfoArgs) :
    Completes E B A takes truncates (clGetEventProfilingInfo event param_name args) s t e := by
  unfold clGetEventProfilingInfo
  split
  · exact completes_code _
  refine settles_call (guard_catching _ _) rfl (agree_readPacket_last (by decide) (reads_dec _)
    (agree_getObj ⟨_, _, _, waits_readPacket (context_catching _ _) _ _ _,
      ServerInstance.serves_size fun _ => rfl,
      awaits_value (guard_catching _ _) (.refl _ _) fun value => ?_⟩))
  simp only [Takes, Prog.wp_bind, wp_store, Prog.afterBind_ok]
  exact (((Since.refl truncates s).stored_plain _ rfl rfl).stored_plain _ rfl rfl).took rfl

/-- The queue of an event, or its context. -/
theorem awaits_eventObject {K : ClientM Ret → ClientM Ret} (hK : Guard K) (kind : Kind)
    (args : InfoArgs) {x : Lookup → Store}
    (hx : ∀ h y, y ∈ (ClientEvent.store (x h)).handles → y = (kind, h))
    (ht : args.roomForHandle = true → ∀ h, (ClientEvent.store (x h)).truncates = true →
      truncates = true)
    {k : IDPacket → ClientM Ret}
    (hk : ∀ id, k id = store args.param_value_size_ret (.param_value_size_ret 8) >>= fun _ =>
      if args.roomForHandle then getObject kind id.mData >>= fun h =>
        store true (x h) >>= fun _ => pure (.code CL_SUCCESS)
      else pure (.code CL_SUCCESS)) :
    Awaits (takesIf fun _ => args.roomForHandle) truncates (some (.getObject, kind)) ErrorReply
      IDReply (K (PacketStream.readPacket IDPacket >>= k)) s s := by
  refine awaits_ID hK (.refl _ _) fun id => ?_
  rw [hk, takesIf]
  have hstored := (Since.refl truncates s).stored_plain args.param_value_size_ret
    (x := .param_value_size_ret 8) rfl rfl
  cases hroom : args.roomForHandle with
  | false =>
    simp only [Takes, Prog.wp_bind, wp_store, Prog.afterBind_ok]
    exact hstored.took rfl
  | true =>
    simp only [Takes, Prog.wp_bind, wp_store, wp_getObject, Prog.afterBind_ok, if_true]
    have hfound := hstored.apply .getObject kind id
    refine (hfound.stored true (x := x _) (fun y hy => ?_) (ht hroom _)).took rfl
    rw [hx _ y hy]
    exact List.mem_append_right _ (List.mem_singleton_self _)

variable (hE : AllLegal A E) (hg : Good A t.mObjects)
include hE hg

/-- Of the handle of a queue only a part is stored. -/
theorem completes_clGetEventInfo (event : Option Handle) (param_name : UInt32)
    (args : InfoArgs) :
    Completes E B A (takesIf fun _ => args.roomForHandle)
      (decide (param_name = CL_EVENT_COMMAND_QUEUE) && args.roomForHandle)
      (clGetEventInfo event param_name args) s t e := by
  unfold clGetEventInfo
  split
  · exact completes_code _
  refine settles_call (guard_catching _ _) rfl (agree_readPacket_last (by decide) (reads_dec _)
    (agree_getObj ?_))
  by_cases hqueue : param_name = CL_EVENT_COMMAND_QUEUE
  · subst hqueue
    exact ⟨_, _, _, waits_readPacket (context_catching _ _) _ _ _,
      ServerInstance.serves_object hE hg rfl fun _ => rfl,
      awaits_eventObject (guard_catching _ _) .queue args (x := .param_handle_bytes .queue 4)
        (fun h y hy => absurd hy List.not_mem_nil) (fun hroom _ _ => by simp [hroom])
        fun _ => rfl⟩
  by_cases hcontext : param_name = CL_EVENT_CONTEXT
  · subst hcontext
    exact ⟨_, _, _, waits_readPacket (context_catching _ _) _ _ _,
      ServerInstance.serves_object hE hg rfl fun _ => rfl,
      awaits_eventObject (guard_catching _ _) .context args
        (x := fun h => .param_handles .context [h])
        (fun h y hy => List.mem_singleton.mp hy) (fun _ _ h => Bool.noConfusion h)
        fun _ => rfl⟩
  have hneither : ¬(param_name = CL_EVENT_CONTEXT ∨ param_name = CL_EVENT_COMMAND_QUEUE) :=
    not_or.mpr ⟨hcontext, hqueue⟩
  simp only [if_neg hqueue, if_neg hcontext, if_neg hneither]
  refine ⟨_, _, _, waits_readPacket (context_catching _ _) _ _ _, ?_,
    awaits_value (T := UInt32) (guard_catching _ _) (.refl _ _) fun value => ?_⟩
  · intro e Q hplain _
    rw [Prog.wp_bind, ServerInstance.wp_info]
    intro a e' ha
    have hnil {ptr : Ptr} : namingsOf (takesIf fun _ => args.roomForHandle) t.mObjects
        [⟨.info (.clGetEventInfo ptr param_name) 8, a⟩] = [] :=
      namingsOf_info_eq_nil (q := .clGetEventInfo ptr param_name) rfl (if_neg hneither)
    rw [Prog.afterBind_ok]
    split
    · exact hplain _ e' _ (.cons ha .nil) hnil (Or.inl ⟨a.err, ‹_›, rfl⟩)
    split
    · exact hplain _ e' _ (.cons ha .nil) hnil (Or.inr ⟨_, rfl⟩)
    · exact hplain _ e' _ (.cons ha .nil) hnil (Or.inl ⟨CL_INVALID_OPERATION, by decide, rfl⟩)
  · simp only [Takes, Prog.wp_bind, wp_store, Prog.afterBind_ok]
    exact (((Since.refl _ s).stored_plain _ rfl rfl).stored_plain _ rfl rfl).took rfl

/-! ## Contexts -/

omit hE hg in
theorem idsOf_idBytes (ids : List IDType) : idsOf (idBytes ids) = ids := by
  induction ids with
  | nil => rfl
  | cons id ids ih =>
    have henc : idBytes (id :: ids) =
        UInt8.ofNat id.toNat :: UInt8.ofNat (id.toNat / 256) :: idBytes ids := rfl
    have hvalue : leValue (leBytes 2 id.toNat) = id.toNat := leValue_leBytes_of_lt id.toNat_lt
    rw [henc, idsOf, ih]
    show UInt16.ofNat (leValue (leBytes 2 id.toNat)) :: ids = id :: ids
    rw [hvalue, UInt16.ofNat_toNat]

/-- The IDs of the devices of a context, in a payload. -/
def DevicesReply (zlib : Option Zlib) (ids : List IDType) (w : Bytes) : Prop :=
  2 * ids.length ≤ 255 ∧ w = PacketStream.frame .payload (encPayload zlib .uint8 (idBytes ids))

/-- All devices fit into the first buffer that the server offers. -/
theorem serves_contextDevices (p : GetContextInfo) (hp : p.mData = CL_CONTEXT_DEVICES) :
    Serves E A takes (some (.getOrInsertObject, .deviceID)) ErrorReply (DevicesReply B.zlib)
      (ServerInstance.getContextInfo B) t (packet p) := by
  refine serves_readPacket_last (by decide) (reads_dec _)
    (serves_getObj fun e Q hplain hnaming => ?_)
  rw [Prog.wp_bind, ServerInstance.wp_info]
  intro a e' ha
  have hnamed : named (.info (.clGetContextInfo (objectAt t.mObjects p.mID) p.mData) 32) a =
      if p.mData = CL_CONTEXT_DEVICES ∧ a.err = CL_SUCCESS then
        words (a.size.getD 0 / 8) (storeInto (zeros 32) a.data) else [] := rfl
  rw [Prog.afterBind_ok]
  by_cases herr : a.err ≠ CL_SUCCESS
  · rw [if_pos herr]
    exact hplain _ e' _ (.cons ha .nil)
      (namingsOf_eq_nil rfl (hnamed.trans (if_neg fun h => herr h.2))) ⟨a.err, herr, rfl⟩
  · rw [if_pos ⟨hp, not_not.mp herr⟩] at hnamed
    have hlegal := hE _ _ _ _ ha
    have hsize : a.size.getD 0 ≤ 32 := hlegal.fits.2 hp (not_not.mp herr)
    rw [if_neg herr, if_neg (by omega), Prog.wp_bind]
    show Prog.wp E (Overfull A) (if p.mData = CL_CONTEXT_DEVICES then _ else _) _ _ _ _ _
    rw [if_pos hp, Prog.wp_bind, ← hnamed]
    refine ServerInstance.wp_getIDsFor_of hg hlegal.mem fun ids mObjects hids _ => ?_
    refine hnaming _ _ a e' ids mObjects _ (.cons ha .nil) rfl ?_ hids ⟨?_, rfl⟩
    · rw [useOf, hp]
      rfl
    · rw [length_assignIDs hids, hnamed, length_words]
      omega

omit hg in
/-- What is known about a context besides its devices. -/
theorem serves_contextInfo (p : GetContextInfo) (hp : p.mData ≠ CL_CONTEXT_DEVICES) :
    Serves E A takes none (PayloadReply B.zlib .uint8) NoReply
      (ServerInstance.getContextInfo B) t (packet p) := by
  refine serves_readPacket_last (by decide) (reads_dec _) (serves_getObj fun e Q hplain _ => ?_)
  have hq : ∀ n a, namedByInfo (.clGetContextInfo (objectAt t.mObjects p.mID) p.mData) n a = [] :=
    fun _ _ => if_neg fun h => hp h.1
  rw [Prog.wp_bind, ServerInstance.wp_info]
  intro a e₁ ha
  have hsize : a.size.getD 0 ≤ 255 := ServerInstance.size_le hE ha (Nat.zero_le _)
  rw [Prog.afterBind_ok]
  by_cases herr : a.err ≠ CL_SUCCESS
  · rw [if_pos herr]
    exact hplain _ e₁ _ (.cons ha .nil) (namingsOf_info_eq_nil rfl (hq _ _))
      (Or.inl ⟨a.err, herr, rfl⟩)
  · rw [if_neg herr]
    by_cases hlarge : 32 < a.size.getD 0
    · have hvector : 1 * a.size.getD 0 ≤ ServerInstance.vectorMaxSize := by
        rw [ServerInstance.vectorMaxSize]
        omega
      rw [if_pos hlarge, Prog.wp_bind, ServerInstance.wp_resize hvector, Prog.afterBind_ok,
        Prog.wp_bind, ServerInstance.wp_info]
      intro b e₂ hb
      have hsize₂ : b.size.getD (a.size.getD 0) ≤ 255 := ServerInstance.size_le hE hb hsize
      show Prog.wp E (Overfull A) (if p.mData = CL_CONTEXT_DEVICES then _ else _) _ _ _ _ _
      rw [if_neg hp]
      refine hplain _ e₂ _ (.cons ha (.cons hb .nil)) (namingsOf_info_eq_nil rfl (hq _ _))
        (Or.inr ⟨_, ?_, rfl⟩)
      rw [length_memRead]
      exact Nat.lt_succ_of_le hsize₂
    · rw [if_neg hlarge, Prog.wp_bind]
      show Prog.wp E (Overfull A) (if p.mData = CL_CONTEXT_DEVICES then _ else _) _ _ _ _ _
      rw [if_neg hp]
      refine hplain _ e₁ _ (.cons ha .nil) (namingsOf_info_eq_nil rfl (hq _ _))
        (Or.inr ⟨_, ?_, rfl⟩)
      rw [length_memRead]
      exact Nat.lt_succ_of_le hsize

/-- How many devices of a context are taken. -/
def InfoArgs.takesDevices (args : InfoArgs) : List IDType → ℕ :=
  takesUpTo (if args.param_value then args.param_value_size / 8 else 0)

variable (hz : SameFormat B.zlib C.zlib)
include hz

theorem completes_clGetContextInfo (context : Option Handle) (param_name : UInt32)
    (args : InfoArgs) :
    Completes E B A args.takesDevices truncates (clGetContextInfo C context param_name args) s t
      e := by
  unfold clGetContextInfo
  split
  · exact completes_code _
  by_cases hdevices : param_name = CL_CONTEXT_DEVICES
  · refine settles_call (guard_catching _ _) rfl ⟨_, _, _,
      waits_read (context_catching _ _) _ _ _ _, serves_contextDevices hE hg _ hdevices, ?_, ?_⟩
    · exact fun w hw => takes_error (guard_catching _ _) (.refl _ _) hw
    · rintro ids w ⟨hlen, rfl⟩
      have hbytes : (idBytes ids).length < SizeT.range .uint8 := by
        rw [length_idBytes]
        exact Nat.lt_succ_of_le hlen
      refine ⟨_, _, rfl, takes_read (guard_catching _ _) (by decide)
        (reads_payload hz hbytes .payload .payload) ?_⟩
      have hcount : (idBytes ids).length / 2 = ids.length := by
        rw [length_idBytes]
        omega
      rw [if_pos hdevices, hcount, idsOf_idBytes, InfoArgs.takesDevices, takesUpTo]
      have hstored := (Since.refl truncates s).stored_plain args.param_value_size_ret
        (x := .param_value_size_ret (ids.length * 8)) rfl rfl
      cases args.param_value with
      | false =>
        simp only [Takes, Prog.wp_bind, wp_store, Prog.afterBind_ok, Bool.false_eq_true, if_false,
          Nat.min_zero, List.take_zero]
        exact hstored.took rfl
      | true =>
        simp only [Takes, Prog.wp_bind, wp_store, wp_resolveAll, Prog.afterBind_ok, if_true]
        have hfound := hstored.applyAll .getOrInsertObject .deviceID
          (ids.take (min ids.length (args.param_value_size / 8)))
        exact (hfound.stored true (x := .param_handles .deviceID _) (fun y hy => hy)
          fun h => Bool.noConfusion h).took rfl
  · refine settles_call (guard_catching _ _) rfl ⟨_, _, _,
      waits_read (context_catching _ _) _ _ _ _, serves_contextInfo hE _ hdevices,
      awaits_payload (guard_catching _ _) hz .payload (.refl _ _) fun data => ?_⟩
    rw [if_neg hdevices]
    simp only [Takes, storePrefix, Prog.wp_bind, wp_store, Prog.afterBind_ok]
    exact (((Since.refl truncates s).stored_plain _ rfl rfl).stored_plain _ rfl rfl).took rfl

omit hg hz in
theorem serves_getImageFormats (p : GetImageFormats) :
    Serves E A takes none (PayloadReply B.zlib .uint16) NoReply
      (ServerInstance.getImageFormats B) t (packet p) := by
  refine serves_readPacket_last (by decide) (reads_dec _) (serves_getObj fun e Q hplain _ => ?_)
  rw [Prog.wp_bind, Prog.wp_ask]
  intro a e₁ ha
  have hsize : 8 * a.size.getD 0 ≤ 65535 := by
    cases hk : a.size with
    | none => exact Nat.zero_le _
    | some k => exact (hE _ _ _ _ ha).fits k hk
  rw [Prog.afterBind_ok]
  split
  · exact hplain _ e₁ _ (.cons ha .nil) (namingsOf_eq_nil rfl rfl) (Or.inl ⟨a.err, ‹_›, rfl⟩)
  · rw [Prog.wp_bind, Prog.wp_ask]
    intro b e₂ hb
    have hlen : (storeInto (zeros (8 * a.size.getD 0)) b.data).length < SizeT.range .uint16 := by
      rw [length_storeInto, length_zeros]
      exact Nat.lt_succ_of_le hsize
    rw [Prog.afterBind_ok, ServerInstance.wp_writePayloadPtr, encPayloadPtr_eq _ hlen]
    exact hplain _ e₂ _ (.cons ha (.cons hb .nil)) (namingsOf_eq_nil rfl rfl)
      (Or.inr ⟨_, hlen, rfl⟩)

omit hg in
theorem completes_clGetSupportedImageFormats (context : Option Handle) (flags : UInt64)
    (image_type : UInt32) (num_entries : ℕ) (image_formats num_image_formats : Bool) :
    Completes E B A takes truncates
      (clGetSupportedImageFormats C context flags image_type num_entries image_formats
        num_image_formats) s t e := by
  unfold clGetSupportedImageFormats
  split
  · exact completes_code _
  refine settles_call (guard_catching _ _) rfl ⟨_, _, _, waits_read (context_catching _ _) _ _ _ _,
    serves_getImageFormats hE _,
    awaits_payload (guard_catching _ _) hz .payload (.refl _ _) fun data => ?_⟩
  simp only [Takes, Prog.wp_bind, wp_store, Prog.afterBind_ok]
  exact (((Since.refl truncates s).stored_plain _ rfl rfl).stored_plain _ rfl rfl).took rfl

end Details

end RemoteCL.Client

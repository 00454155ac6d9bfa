import RemoteCL.Session.Calls.Shapes

/-!
# The replies

For each kind of reply: what it looks like, that the handlers that answer in this way do, and that
the functions that wait for it take it in.
-/

namespace RemoteCL

open ByteStream Conversation Wire LawfulWire Client

/-! ## Kinds of replies -/

/-- No reply. -/
def NoReply (_ids : List IDType) (_w : Bytes) : Prop := False

/-- An error. -/
def ErrorReply (w : Bytes) : Prop :=
  ∃ err : Int32, err ≠ CL_SUCCESS ∧ w = packet (⟨err⟩ : ErrorPacket)

/-- A code. -/
def StatusReply (w : Bytes) : Prop := ErrorReply w ∨ w = packet (⟨⟩ : SuccessPacket)

/-- The ID of one object. -/
def IDReply (ids : List IDType) (w : Bytes) : Prop :=
  ∃ id, ids = [id] ∧ w = packet (⟨id⟩ : IDPacket)

/-- A list of IDs. -/
def IDsReply (ids : List IDType) (w : Bytes) : Prop :=
  ids.length ≤ 255 ∧ w = packet (⟨ids⟩ : IDListPacket)

/-- An error, or a value of some type. -/
def ValueReply (T : Type) [Wire T] (w : Bytes) : Prop :=
  ErrorReply w ∨ ∃ value : T, w = packet (⟨value⟩ : SimplePacket .payload T)

/-- An error, or a payload that fits. -/
def PayloadReply (zlib : Option Zlib) (sz : SizeT) (w : Bytes) : Prop :=
  ErrorReply w ∨ ∃ data : Bytes, data.length < sz.range ∧
    w = PacketStream.frame .payload (encPayload zlib sz data)

/-- An error, or a payload that fits into an array of three sizes. -/
def SizesReply (zlib : Option Zlib) (w : Bytes) : Prop :=
  ErrorReply w ∨ ∃ data : Bytes, data.length ≤ 24 ∧
    w = PacketStream.frame .payload (encPayload zlib .uint8 data)

/-! ## Waiting for a reply -/

section Client

variable {K : ClientM Ret → ClientM Ret} (hK : Guard K) {α : Type} {ty : PacketType}
variable {r : Reader α} {k : α → ClientM Ret} {s s₀ : ClientState} {truncates : Bool}
variable {takes : List IDType → ℕ} {w : Bytes}
include hK

/-- An error ends the call. -/
theorem takes_error (hs : Since truncates s₀ s [] s₀.core) (hw : ErrorReply w) :
    Takes (K (PacketStream.read ty r >>= k)) s w (Took truncates s₀ s₀.core) := by
  obtain ⟨err, -, rfl⟩ := hw
  refine hK.wp ?_
  rw [Prog.wp_bind, wp_read_error, Prog.afterBind_error]
  intro v pointer code hv
  exact (hs.stored_plain pointer rfl rfl).took hv

/-- The client meets what it waits for. -/
theorem takes_read (hty : Ordinary ty) {a : α} (hr : Reads r w a)
    {Q : Except Exn Ret → ClientState → Bytes → Bytes → Unit → Prop}
    (h : Takes (k a) s [] (afterGuard Q)) :
    Takes (K (PacketStream.read ty r >>= k)) s (PacketStream.frame ty w) Q := by
  refine hK.wp ?_
  rw [Prog.wp_bind, wp_read_last hty hr]
  exact h

theorem takes_readPacket {X : Type} [Packet X] [Wire X] (hty : Ordinary (Packet.mType X))
    {p x : X} (hp : Reads dec (enc p) x) {k : X → ClientM Ret}
    {Q : Except Exn Ret → ClientState → Bytes → Bytes → Unit → Prop}
    (h : Takes (k x) s [] (afterGuard Q)) :
    Takes (K (PacketStream.readPacket X >>= k)) s (packet p) Q := takes_read hK hty hp h

/-- A call that waits for nothing but success. -/
theorem awaits_success {k : SuccessPacket → ClientM Ret}
    (hs : Since truncates s₀ s [] s₀.core)
    (hk : Takes (k ⟨⟩) s [] (afterGuard (Took truncates s₀ s₀.core))) :
    Awaits takes truncates none StatusReply NoReply
      (K (PacketStream.readPacket SuccessPacket >>= k)) s₀ s where
  plain w hw := by
    rcases hw with hw | rfl
    · exact takes_error hK hs hw
    · exact takes_readPacket hK (by decide) (reads_dec _) hk
  naming _ _ h := h.elim

/-- A call that waits for an ID, and resolves it unless it takes none. -/
theorem awaits_ID {how : Resolve} {kind : Kind} {k : IDPacket → ClientM Ret}
    (hs : Since truncates s₀ s [] s₀.core)
    (hk : ∀ id, Takes (k ⟨id⟩) s [] (afterGuard (Took truncates s₀
      (how.applyAll s₀.core kind ([id].take (takes [id]))).2))) :
    Awaits takes truncates (some (how, kind)) ErrorReply IDReply
      (K (PacketStream.readPacket IDPacket >>= k)) s₀ s where
  plain _ hw := takes_error hK hs hw
  naming ids w hw := by
    obtain ⟨id, rfl, rfl⟩ := hw
    exact ⟨how, kind, rfl, takes_readPacket hK (by decide) (reads_dec _) (hk id)⟩

/-- A call that waits for a value. -/
theorem awaits_value {T : Type} [Wire T] [LawfulWire T]
    {k : SimplePacket .payload T → ClientM Ret} (hs : Since truncates s₀ s [] s₀.core)
    (hk : ∀ value, Takes (k value) s [] (afterGuard (Took truncates s₀ s₀.core))) :
    Awaits takes truncates none (ValueReply T) NoReply
      (K (PacketStream.readPacket (SimplePacket .payload T) >>= k)) s₀ s where
  plain w hw := by
    rcases hw with hw | ⟨value, rfl⟩
    · exact takes_error hK hs hw
    · exact takes_readPacket hK (p := (⟨value⟩ : SimplePacket .payload T))
        (show Ordinary .payload by decide) (reads_dec _) (hk _)
  naming _ _ h := h.elim

/-- A call that waits for a payload. -/
theorem awaits_payload {zw zr : Option Zlib} (hz : SameFormat zw zr) {sz : SizeT}
    (reader : PayloadReader) {k : Bytes → ClientM Ret} (hs : Since truncates s₀ s [] s₀.core)
    (hk : ∀ data, Takes (k data) s [] (afterGuard (Took truncates s₀ s₀.core))) :
    Awaits takes truncates none (PayloadReply zw sz) NoReply
      (K (PacketStream.read .payload (reader.decode zr sz) >>= k)) s₀ s where
  plain w hw := by
    rcases hw with hw | ⟨data, hdata, rfl⟩
    · exact takes_error hK hs hw
    · exact takes_read hK (by decide) (reads_payload hz hdata .payload reader) (hk data)
  naming _ _ h := h.elim

/-- A call that waits for three sizes. -/
theorem awaits_sizes {zw zr : Option Zlib} (hz : SameFormat zw zr) (reader : PayloadReader)
    {k : Bytes → ClientM Ret} (hs : Since truncates s₀ s [] s₀.core)
    (hk : ∀ data : Bytes, data.length ≤ 24 →
      Takes (k data) s [] (afterGuard (Took truncates s₀ s₀.core))) :
    Awaits takes truncates none (SizesReply zw) NoReply
      (K (PacketStream.read .payload (reader.decode zr .uint8) >>= k)) s₀ s where
  plain w hw := by
    rcases hw with hw | ⟨data, hdata, rfl⟩
    · exact takes_error hK hs hw
    · have hrange : data.length < SizeT.range .uint8 := hdata.trans_lt (by decide)
      exact takes_read hK (by decide) (reads_payload hz hrange .payload reader) (hk data hdata)
  naming _ _ h := h.elim

/-- A call that waits for a list of IDs, and resolves as many as it takes. -/
theorem awaits_IDs {how : Resolve} {kind : Kind} {k : IDListPacket → ClientM Ret}
    (hs : Since truncates s₀ s [] s₀.core)
    (hk : ∀ ids, Takes (k ⟨ids⟩) s [] (afterGuard (Took truncates s₀
      (how.applyAll s₀.core kind (ids.take (takes ids))).2))) :
    Awaits takes truncates (some (how, kind)) ErrorReply IDsReply
      (K (PacketStream.readPacket IDListPacket >>= k)) s₀ s where
  plain _ hw := takes_error hK hs hw
  naming ids w hw := by
    obtain ⟨hlen, rfl⟩ := hw
    exact ⟨how, kind, rfl, takes_readPacket hK (by decide)
      (reads_idListPacket (Nat.lt_succ_of_le hlen)) (hk ids)⟩

end Client

/-! ## Handlers -/

namespace ServerInstance

variable {δ : Type} {E : δ → (c : ServerCall) → Ans c → δ → Prop} {B : ServerBuild}
variable {A : Set Ptr} {takes : List IDType → ℕ} {t : ServerState} {u : Bytes}

/-- A handler that asks one question and replies with the code. -/
theorem serves_status {q : StatusCall} :
    Serves E A takes none StatusReply NoReply (status q >>= replyStatus) t [] := by
  intro e Q hplain _
  rw [Prog.wp_bind, wp_status]
  intro a e' ha
  rw [Prog.afterBind_ok, wp_replyStatus, List.nil_append]
  refine hplain _ e' _ (.cons ha .nil) (namingsOf_eq_nil rfl rfl) ?_
  rw [statusReply]
  split
  · exact Or.inl ⟨a, ‹_›, rfl⟩
  · exact Or.inr rfl

section Naming

variable (hE : AllLegal A E) (hg : Good A t.mObjects)
include hE hg

/-- The one object of an answer is named in the reply. -/
theorem wp_writeID_named {c : ServerCall} {a : Ans c} {e e' : δ} (ha : E e c a e') {p : Ptr}
    (hp : named c a = [p]) {Q : Except Exn Unit → ServerState → Bytes → Bytes → δ → Prop}
    (h : ∀ id mObjects, assignIDs t.mObjects (named c a) = some ([id], mObjects) →
      Q (.ok ()) { t with mObjects } (packet (⟨id⟩ : IDPacket)) [] e') :
    (writeID p).wp E (Overfull A) t [] [] e' Q := by
  have hmem : p ∈ A := (hE _ _ _ _ ha).mem p (hp ▸ List.mem_singleton_self p)
  refine wp_writeID_of hg hmem fun id mObjects hid _ => h id mObjects ?_
  rw [hp, assignIDs, hid]
  rfl

/-- The objects of an answer are named in the reply. -/
theorem wp_writeIDs_named {c : ServerCall} {a : Ans c} {e e' : δ} (ha : E e c a e')
    (hbrief : Brief c) {ps : List Ptr} (hps : named c a = ps)
    {Q : Except Exn Unit → ServerState → Bytes → Bytes → δ → Prop}
    (h : ∀ ids mObjects w, assignIDs t.mObjects (named c a) = some (ids, mObjects) →
      IDsReply ids w → Q (.ok ()) { t with mObjects } w [] e') :
    (writeIDs ps).wp E (Overfull A) t [] [] e' Q := by
  have hlegal := hE _ _ _ _ ha
  subst hps
  refine wp_writeIDs_of hg hlegal.mem fun ids mObjects hids _ => h ids mObjects _ hids ⟨?_, rfl⟩
  rw [length_assignIDs hids]
  exact hlegal.length hbrief

/-- A handler that asks for a new object and replies with its ID. -/
theorem serves_create {q : CreateCall} {how : Resolve} {kind : Kind}
    (hq : useOfCreate q = (how, kind)) :
    Serves E A takes (some (how, kind)) ErrorReply IDReply (create q >>= replyCreated) t [] := by
  intro e Q hplain hnaming
  rw [Prog.wp_bind, wp_create]
  intro a e' ha
  rw [Prog.afterBind_ok, replyCreated]
  split
  · rename_i herr
    have hnil : named (.create q) a = [] := if_neg herr
    exact hplain _ e' _ (.cons ha .nil) (namingsOf_eq_nil rfl hnil) ⟨a.err, herr, rfl⟩
  · rename_i herr
    have hnamed : named (.create q) a = [a.object] := if_pos (not_not.mp herr)
    exact wp_writeID_named hE hg ha hnamed fun id mObjects hid =>
      hnaming _ _ a e' [id] mObjects _ (.cons ha .nil) rfl (congrArg some hq) hid
        ⟨id, rfl, rfl⟩

/-- A query for an object. -/
theorem serves_object {q : InfoQuery} {how : Resolve} {kind : Kind}
    (huse : useOfInfo q = some (how, kind)) (hq : ∀ a, namedByInfo q 8 a = namedOne a) :
    Serves E A takes (some (how, kind)) ErrorReply IDReply (replyObject q) t [] := by
  intro e Q hplain hnaming
  rw [replyObject, Prog.wp_bind, wp_info]
  intro a e' ha
  have hnamed : named (.info q 8) a = namedOne a := hq a
  rw [namedOne] at hnamed
  rw [Prog.afterBind_ok]
  split
  · rename_i herr
    exact hplain _ e' _ (.cons ha .nil) (namingsOf_eq_nil rfl (hnamed.trans (if_neg herr)))
      ⟨a.err, herr, rfl⟩
  · rename_i herr
    rw [if_pos (not_not.mp herr)] at hnamed
    exact wp_writeID_named hE hg ha hnamed fun id mObjects hid =>
      hnaming _ _ a e' [id] mObjects _ (.cons ha .nil) rfl huse hid ⟨id, rfl, rfl⟩

end Naming

/-- A query that names nothing and comes first leaves the namings to what follows. -/
theorem namingsOf_cons_eq_nil {q : InfoQuery} {n : ℕ} {a : InfoAns} (hn : namedByInfo q n a = [])
    {log : List Asked} {objects : List Ptr} (h : namingsOf takes objects log = []) :
    namingsOf takes objects (⟨.info q n, a⟩ :: log) = [] := by
  cases log with
  | nil => exact namingsOf_info_eq_nil rfl hn
  | cons x log =>
    rw [namingsOf, List.getLast?_cons_cons]
    exact h

/-- A query that has to succeed before the handler goes on. -/
theorem serves_checked {q : InfoQuery} {n : ℕ} (hq : ∀ a, namedByInfo q n a = [])
    {use : Option (Resolve × Kind)} {plain : Bytes → Prop}
    {naming : List IDType → Bytes → Prop} (herror : ∀ w, ErrorReply w → plain w)
    {k : InfoAns → ServerM Unit}
    (h : ∀ a e e', E e (.info q n) a e' → a.err = CL_SUCCESS →
      Serves E A takes use plain naming (k a) t u) (hu : ∀ a e e', E e (.info q n) a e' →
        a.err ≠ CL_SUCCESS → u = []) :
    Serves E A takes use plain naming
      (info q n >>= fun a => if a.err ≠ CL_SUCCESS then writeError a.err else k a) t u := by
  intro e Q hplain hnaming
  rw [Prog.wp_bind, wp_info]
  intro a e' ha
  rw [Prog.afterBind_ok]
  split
  · rename_i herr
    rw [hu a e e' ha herr]
    exact hplain _ e' _ (.cons ha .nil) (namingsOf_info_eq_nil rfl (hq a))
      (herror _ ⟨a.err, herr, rfl⟩)
  · rename_i herr
    refine h a e e' ha (not_not.mp herr) e' Q (fun log e'' w hlog hnamings hw => ?_)
      fun log c b e'' ids mObjects w hlog hlast huse hids hw => ?_
    · exact hplain _ e'' w (.cons ha hlog) (namingsOf_cons_eq_nil (hq a) hnamings) hw
    · refine hnaming _ c b e'' ids mObjects w (.cons ha hlog) ?_ huse hids hw
      cases log with
      | nil => exact absurd hlast (by simp)
      | cons x log => rw [List.getLast?_cons_cons, hlast]

/-! ### Queries for values -/

/-- A query that is answered with a value. -/
theorem serves_valueOf {T : Type} [Wire T] {q : InfoQuery} {n : ℕ} {f : InfoAns → T}
    (hq : ∀ a, namedByInfo q n a = []) :
    Serves E A takes none (ValueReply T) NoReply (info q n >>= fun a =>
      if a.err ≠ CL_SUCCESS then writeError a.err else writeValue (f a)) t [] := by
  intro e Q hplain _
  rw [Prog.wp_bind, wp_info]
  intro a e' ha
  have hnil : namingsOf takes t.mObjects [⟨.info q n, a⟩] = [] := namingsOf_info_eq_nil rfl (hq a)
  rw [Prog.afterBind_ok]
  split
  · exact hplain _ e' _ (.cons ha .nil) hnil (Or.inl ⟨a.err, ‹_›, rfl⟩)
  · exact hplain _ e' _ (.cons ha .nil) hnil (Or.inr ⟨f a, rfl⟩)

theorem serves_size {q : InfoQuery} (hq : ∀ a, namedByInfo q 8 a = []) :
    Serves E A takes none (ValueReply UInt64) NoReply (replySize q) t [] := serves_valueOf hq

theorem serves_uint {q : InfoQuery} (hq : ∀ a, namedByInfo q 4 a = []) :
    Serves E A takes none (ValueReply UInt32) NoReply (replyUInt q) t [] := serves_valueOf hq

theorem serves_sizes {q : InfoQuery} (hq : ∀ a, namedByInfo q 24 a = []) :
    Serves E A takes none (SizesReply B.zlib) NoReply (replySizes B q) t [] := by
  intro e Q hplain _
  rw [replySizes, Prog.wp_bind, wp_info]
  intro a e' ha
  have hnil : namingsOf takes t.mObjects [⟨.info q 24, a⟩] = [] := namingsOf_info_eq_nil rfl (hq a)
  rw [Prog.afterBind_ok]
  split
  · exact hplain _ e' _ (.cons ha .nil) hnil (Or.inl ⟨a.err, ‹_›, rfl⟩)
  · have hlen : ((storeInto (zeros 24) a.data).take 3).length ≤ 3 := List.length_take_le _ _
    have hrange : ((storeInto (zeros 24) a.data).take 3).length < SizeT.range .uint8 :=
      hlen.trans_lt (by decide)
    rw [wp_writePayloadPtr, encPayloadPtr_eq _ hrange]
    exact hplain _ e' _ (.cons ha .nil) hnil (Or.inr ⟨_, hlen.trans (by decide), rfl⟩)

/-- The size that a legal answer reports fits. -/
theorem size_le {δ : Type} {E : δ → (c : ServerCall) → Ans c → δ → Prop} {A : Set Ptr}
    (hE : AllLegal A E) {q : InfoQuery} {n : ℕ} {a : InfoAns} {e e' : δ}
    (ha : E e (.info q n) a e') {d : ℕ} (hd : d ≤ infoLimit q) : a.size.getD d ≤ infoLimit q := by
  cases hsize : a.size with
  | none => exact hd
  | some k => exact (hE _ _ _ _ ha).fits.1 k hsize

theorem infoLimit_le (q : InfoQuery) : infoLimit q ≤ 2 ^ 32 - 1 := by
  cases q with
  | clGetProgramInfo =>
    rw [infoLimit]
    split <;> omega
  | _ => simp only [infoLimit]; omega

theorem infoLimit_lt (q : InfoQuery) : infoLimit q < SizeT.range .uint32 :=
  (infoLimit_le q).trans_lt (by decide)

/-- A query whose reply is what the driver stores. -/
theorem serves_raw (hE : AllLegal A E) {q : InfoQuery} {sz : SizeT} {checked : Bool}
    (hq : ∀ n a, namedByInfo q n a = []) (hlimit : infoLimit q < sz.range) :
    Serves E A takes none (PayloadReply B.zlib sz) NoReply (replyRaw B sz checked q) t [] := by
  intro e Q hplain _
  rw [replyRaw, Prog.wp_bind, wp_info]
  intro first e₁ hfirst
  have hnil : namingsOf takes t.mObjects [⟨.info q 0, first⟩] = [] :=
    namingsOf_info_eq_nil rfl (hq 0 first)
  have hsize : first.size.getD 0 ≤ infoLimit q := size_le hE hfirst (Nat.zero_le _)
  have hvector : 1 * first.size.getD 0 ≤ vectorMaxSize := by
    have := infoLimit_le q
    rw [vectorMaxSize]
    omega
  rw [Prog.afterBind_ok]
  split
  · rename_i herr
    have hne : first.err ≠ CL_SUCCESS := by simpa using (Bool.and_eq_true_iff.mp herr).2
    exact hplain _ e₁ _ (.cons hfirst .nil) hnil (Or.inl ⟨first.err, hne, rfl⟩)
  · rw [Prog.wp_bind, wp_resize hvector, Prog.afterBind_ok, Prog.wp_bind, wp_info]
    intro a e₂ ha
    have hlog : Asks E e [⟨.info q 0, first⟩, ⟨.info q (first.size.getD 0), a⟩] e₂ :=
      .cons hfirst (.cons ha .nil)
    have hnil₂ : namingsOf takes t.mObjects
        [⟨.info q 0, first⟩, ⟨.info q (first.size.getD 0), a⟩] = [] :=
      namingsOf_info_eq_nil rfl (hq _ a)
    rw [Prog.afterBind_ok]
    split
    · exact hplain _ e₂ _ hlog hnil₂ (Or.inl ⟨a.err, ‹_›, rfl⟩)
    · have hlen : (memRead (storeInto (zeros (first.size.getD 0)) a.data)
          (a.size.getD (first.size.getD 0))).length < sz.range := by
        rw [length_memRead]
        exact (size_le hE ha hsize).trans_lt hlimit
      rw [wp_writePayloadPtr, encPayloadPtr_eq _ hlen]
      exact hplain _ e₂ _ hlog hnil₂ (Or.inr ⟨_, hlen, rfl⟩)

end ServerInstance

/-! ## Handlers and functions that agree -/

section Agree

variable {δ : Type} {E : δ → (c : ServerCall) → Ans c → δ → Prop} {B : ServerBuild}
variable {A : Set Ptr} {takes : List IDType → ℕ} {truncates : Bool}
variable {s s₀ : ClientState} {t : ServerState}
variable {K : ClientM Ret → ClientM Ret} (hK : Guard K)
include hK

theorem agree_status (q : StatusCall) {k : SuccessPacket → ClientM Ret}
    (hs : Since truncates s₀ s [] s₀.core)
    (hk : Takes (k ⟨⟩) s [] (afterGuard (Took truncates s₀ s₀.core))) :
    Agree E A takes truncates
      (ServerInstance.status q >>= ServerInstance.replyStatus) t []
      (K (PacketStream.readPacket SuccessPacket >>= k)) s₀ s :=
  ⟨none, StatusReply, NoReply, waits_readPacket hK.context _ _ _, ServerInstance.serves_status,
    awaits_success hK hs hk⟩

end Agree

end RemoteCL

import RemoteCL.Session.Answers
import RemoteCL.Session.Basic
import RemoteCL.Theory.Wp

/-!
# Following a call

A call goes back and forth a few times: the client writes and flushes a request, the server
serves it in one iteration of its loop, and the client takes in the reply.  `settles_dispatch` and
`settles_handled` are the ends of the server's turn and `settles_reply` the client's.  What happens
within a turn is a weakest precondition, and the rest of the file is the weakest preconditions of
the building blocks that handlers and API functions are made of.
-/

namespace RemoteCL

open ByteStream Conversation Wire LawfulWire Client

/-! ## Turns -/

section Turns

variable {δ : Type} {B : ServerBuild} {A : Set Ptr}
variable {P : Ret → ClientState → ServerState → δ → Prop}
variable {E : δ → (c : ServerCall) → Ans c → δ → Prop}

/-- The server searches for ever, in a full table, for an object that is not in it.  It has read
the request, and has written nothing. -/
def Overfull (A : Set Ptr) (t : ServerState) (o u : Bytes) : Prop :=
  o = [] ∧ u = [] ∧ Good A t.mObjects ∧ ∃ p ∈ A, assignID t.mObjects p = none

/-- A client that waits for a packet, and has sent everything it has written. -/
def Waits (c : Side ClientState Exn Empty NoAnswer Ret) : Prop :=
  ∃ q s, c = ⟨.read 1 q, s, []⟩

theorem waits_read {α β : Type} {K : ClientM β → ClientM Ret} (hK : Prog.Context K)
    (ty : PacketType) (r : Reader α) (k : α → ClientM β) (s : ClientState) :
    Waits ⟨K (PacketStream.read ty r >>= k), s, []⟩ := by
  obtain ⟨q, hq⟩ := PacketStream.exists_read_bind_eq ty r k
  rw [hq, hK.read]
  exact ⟨_, s, rfl⟩

/-- A function that waits for a packet returns an error when its connection is closed. -/
theorem exists_read_catching (badAlloc others : Int32) {α : Type} (ty : PacketType) (r : Reader α)
    (k : α → ClientM Ret) :
    ∃ q, catching badAlloc others (PacketStream.read ty r >>= k) = Prog.read 1 q ∧
      q (.error .socketError) = .ret (.code others) := by
  have hread := (PacketStream.read_bind ty r k).trans (Prog.ofReader_take_bind _ _ _)
  rw [hread]
  exact ⟨_, rfl, rfl⟩

theorem waits_readPacket {β : Type} {K : ClientM β → ClientM Ret} (hK : Prog.Context K)
    (X : Type) [Packet X] [Wire X] (k : X → ClientM β) (s : ClientState) :
    Waits ⟨K (PacketStream.readPacket X >>= k), s, []⟩ := waits_read hK _ _ k s

/-- A waiting client, and a search that does not end. -/
theorem settles_spin {c : Side ClientState Exn Empty NoAnswer Ret} (hc : Waits c)
    {t : ServerState} {o u : Bytes} (h : Overfull A t o u) (e : δ) :
    Settles E (ServerInstance.serve B) (Final B A P) ⟨c, ⟨.spin, t, o⟩, u, [], e⟩ := by
  obtain ⟨q, s, rfl⟩ := hc
  obtain ⟨rfl, rfl, hg, p, hp, hnone⟩ := h
  exact Settles.final (Or.inr ⟨q, s, t, e, p, hg, hp, hnone, rfl⟩)

/-- The context of a handler in an iteration of the loop. -/
theorem context_handler :
    Prog.Context fun p : ServerM Unit =>
      ServerInstance.iteration (p >>= fun _ => pure true) :=
  (Prog.Context.bind _).comp ServerInstance.context_iteration

/-- A handler that has finished has its reply flushed, and the loop goes on. -/
theorem settles_handles {F : CallConfig δ → Prop} (hF : Stable E (ServerInstance.serve B) F)
    {c : Side ClientState Exn Empty NoAnswer Ret} {t : ServerState} {o u d : Bytes} {e : δ} :
    Settles E (ServerInstance.serve B) F
        ⟨c, ⟨ServerInstance.iteration ((pure () : ServerM Unit) >>= fun _ => pure true), t, o⟩,
          u, d, e⟩ ↔
      Settles E (ServerInstance.serve B) F
        ⟨c, ⟨ServerInstance.serve B, t, []⟩, u, d ++ o, e⟩ := by
  have hret : ServerInstance.iteration ((pure () : ServerM Unit) >>= fun _ => pure true) =
      PacketStream.flush >>= fun _ => Prog.ret true := rfl
  rw [hret, settles_server_flushes hF Prog.Context.hole, settles_server_again hF]

theorem settles_handled {c : Side ClientState Exn Empty NoAnswer Ret} {t : ServerState}
    {o u d : Bytes} {e : δ} :
    Settles E (ServerInstance.serve B) (Final B A P)
        ⟨c, ⟨ServerInstance.iteration ((pure () : ServerM Unit) >>= fun _ => pure true), t, o⟩,
          u, d, e⟩ ↔
      Settles E (ServerInstance.serve B) (Final B A P)
        ⟨c, ⟨ServerInstance.serve B, t, []⟩, u, d ++ o, e⟩ := settles_handles stable_final

/-- A reply of one packet ends the request. -/
theorem settles_replies {F : CallConfig δ → Prop} (hF : Stable E (ServerInstance.serve B) F)
    {c : Side ClientState Exn Empty NoAnswer Ret} {t : ServerState} {o u d : Bytes} {e : δ}
    {ty : PacketType} {w : Bytes} :
    Settles E (ServerInstance.serve B) F
        ⟨c, ⟨ServerInstance.iteration ((PacketStream.write ty w : ServerM Unit) >>= fun _ =>
          pure true), t, o⟩, u, d, e⟩ ↔
      Settles E (ServerInstance.serve B) F
        ⟨c, ⟨ServerInstance.serve B, t, []⟩, u, d ++ (o ++ PacketStream.frame ty w), e⟩ := by
  rw [← bind_pure (PacketStream.write ty w : ServerM Unit)]
  exact (settles_server_write hF context_handler).trans (settles_handles hF)

theorem settles_replied {c : Side ClientState Exn Empty NoAnswer Ret} {t : ServerState}
    {o u d : Bytes} {e : δ} {ty : PacketType} {w : Bytes} :
    Settles E (ServerInstance.serve B) (Final B A P)
        ⟨c, ⟨ServerInstance.iteration ((PacketStream.write ty w : ServerM Unit) >>= fun _ =>
          pure true), t, o⟩, u, d, e⟩ ↔
      Settles E (ServerInstance.serve B) (Final B A P)
        ⟨c, ⟨ServerInstance.serve B, t, []⟩, u, d ++ (o ++ PacketStream.frame ty w), e⟩ :=
  settles_replies stable_final

/-- The loop leaves a request to its handler. -/
theorem settles_dispatches {F : CallConfig δ → Prop} (hF : Stable E (ServerInstance.serve B) F)
    {c : Side ClientState Exn Empty NoAnswer Ret} {ty : PacketType} {h : ServerM Unit}
    (hh : ServerInstance.handler B ty = some h) {t : ServerState} {u d : Bytes}
    (hu : u.head? = some ty.toByte) {e : δ} :
    Settles E (ServerInstance.serve B) F ⟨c, ⟨ServerInstance.serve B, t, []⟩, u, d, e⟩ ↔
      Settles E (ServerInstance.serve B) F
        ⟨c, ⟨ServerInstance.iteration (h >>= fun _ => pure true), t, []⟩, u, d, e⟩ := by
  have hterm : ty ≠ .terminate := by
    rintro rfl
    exact absurd hh (by simp [ServerInstance.handler])
  have hdispatch : ServerInstance.dispatch B (some ty) = h >>= fun _ => pure true := by
    rw [ServerInstance.dispatch.eq_2 B ty hterm, hh]
  cases u with
  | nil => exact absurd hu (by simp)
  | cons b v =>
    rw [List.head?_cons, Option.some.injEq] at hu
    subst hu
    have hpeek := settles_server_peek (E := E) (F := F) (c := c) (t := t) (o := [])
      (u := v) (d := d) (e := e) (b := ty.toByte) hF ServerInstance.context_iteration
      (k := fun b => ServerInstance.dispatch B
        (PacketType.ofByte (b.getD PacketType.terminate.toByte)))
    rw [Option.getD_some, PacketType.ofByte_toByte, hdispatch] at hpeek
    exact hpeek

theorem settles_dispatch {c : Side ClientState Exn Empty NoAnswer Ret} {ty : PacketType}
    {h : ServerM Unit} (hh : ServerInstance.handler B ty = some h) {t : ServerState}
    {u d : Bytes} (hu : u.head? = some ty.toByte) {e : δ} :
    Settles E (ServerInstance.serve B) (Final B A P)
        ⟨c, ⟨ServerInstance.serve B, t, []⟩, u, d, e⟩ ↔
      Settles E (ServerInstance.serve B) (Final B A P)
        ⟨c, ⟨ServerInstance.iteration (h >>= fun _ => pure true), t, []⟩, u, d, e⟩ :=
  settles_dispatches stable_final hh hu

/-- The server leaves its loop at a packet that is not a request. -/
theorem settles_notRequest {F : CallConfig δ → Prop} (hF : Stable E (ServerInstance.serve B) F)
    {c : Side ClientState Exn Empty NoAnswer Ret} {ty : PacketType} (hterm : ty ≠ .terminate)
    (hnone : ServerInstance.handler B ty = none) {t : ServerState} {u d : Bytes}
    (hu : u.head? = some ty.toByte) {e : δ} :
    Settles E (ServerInstance.serve B) F ⟨c, ⟨ServerInstance.serve B, t, []⟩, u, d, e⟩ ↔
      Settles E (ServerInstance.serve B) F ⟨c, ⟨.ret false, t, []⟩, u, d, e⟩ := by
  have hdispatch : ServerInstance.dispatch B (some ty) = pure false := by
    rw [ServerInstance.dispatch.eq_2 B ty hterm, hnone]
  cases u with
  | nil => exact absurd hu (by simp)
  | cons b v =>
    rw [List.head?_cons, Option.some.injEq] at hu
    subst hu
    have hpeek := settles_server_peek (E := E) (F := F) (c := c) (t := t) (o := []) (u := v)
      (d := d) (e := e) (b := ty.toByte) hF ServerInstance.context_iteration
      (k := fun b => ServerInstance.dispatch B
        (PacketType.ofByte (b.getD PacketType.terminate.toByte)))
    rw [Option.getD_some, PacketType.ofByte_toByte, hdispatch] at hpeek
    refine hpeek.trans ((settles_server_flushes hF Prog.Context.hole).trans ?_)
    rw [List.append_nil]
    rfl

/-- **The client's turn**: the reply has arrived, and the function returns. -/
theorem settles_reply {p : ClientM Ret} {s : ClientState} {t : ServerState} {d : Bytes} {e : δ}
    (h : p.wp noEnv (fun _ _ _ => False) s [] d () fun r s' o' d' _ =>
      ∃ a, r = .ok a ∧ o' = [] ∧ d' = [] ∧ P a s' t e) :
    Settles E (ServerInstance.serve B) (Final B A P)
      ⟨⟨p, s, []⟩, ⟨ServerInstance.serve B, t, []⟩, [], d, e⟩ := by
  refine settles_client_wp stable_final Prog.Context.hole (fun _ _ _ h => h.elim)
    (Prog.wp_mono ?_ h)
  rintro r s' o' d' - ⟨a, rfl, rfl, rfl, hP⟩
  exact Settles.final (Or.inl ⟨a, s', t, e, hP, rfl⟩)

/-- A function that returns without a request. -/
theorem settles_return {a : Ret} {s : ClientState} {t : ServerState} {e : δ} (h : P a s t e) :
    Settles E (ServerInstance.serve B) (Final B A P) (start B (pure a) s t e) :=
  Settles.final (Or.inl ⟨a, s, t, e, h, rfl⟩)

/-- A function that has returned is over if nothing is left for it to read. -/
theorem settles_returned {r : Ret} {s : ClientState} {t : ServerState} {d : Bytes} {e : δ} :
    Settles E (ServerInstance.serve B) (Final B ∅ P)
        ⟨⟨.ret r, s, []⟩, ⟨ServerInstance.serve B, t, []⟩, [], d, e⟩ ↔ d = [] ∧ P r s t e := by
  obtain ⟨k, hserve⟩ := serve_eq_peek (B := B)
  have hready : ¬ Ready (ServerInstance.serve B) [] := by
    rw [hserve]
    exact fun h => h rfl
  have hagain : ServerInstance.serve B ≠ .ret true := by
    rw [hserve]
    exact fun h => nomatch h
  refine (settles_stuck ?_ hready hagain).trans ((final_empty _).trans ⟨?_, ?_⟩)
  · exact fun h => h
  · rintro ⟨r', s', t', e', hP, h⟩
    simp only [start, Config.mk.injEq, Side.mk.injEq, Prog.ret.injEq, and_true, true_and] at h
    obtain ⟨⟨rfl, rfl⟩, rfl, rfl, rfl⟩ := h
    exact ⟨rfl, hP⟩
  · rintro ⟨rfl, hP⟩
    exact ⟨r, s, t, e, hP, rfl⟩

/-- Neither party can go on, and the server is not at the top of its loop. -/
theorem not_settles_stopped {c : Side ClientState Exn Empty NoAnswer Ret} {p : ServerM Bool}
    {t : ServerState} {o u d : Bytes} {e : δ} (hc : ¬ Ready c.prog d) (hp : ¬ Ready p u)
    (hagain : p ≠ .ret true) (hserve : p ≠ ServerInstance.serve B) :
    ¬ Settles E (ServerInstance.serve B) (Final B ∅ P) ⟨c, ⟨p, t, o⟩, u, d, e⟩ := by
  intro h
  have hfinal := (settles_stuck (x := ⟨c, ⟨p, t, o⟩, u, d, e⟩) hc hp hagain).mp h
  obtain ⟨r', s', t', e', -, h⟩ := (final_empty _).mp hfinal
  exact hserve (congrArg (fun x => x.server.prog) h)

end Turns

/-! ## Packets -/

section Packets

variable {σ C : Type} {Ans' : C → Type} {α δ : Type}
variable {E : δ → (c : C) → Ans' c → δ → Prop} {H : σ → Bytes → Bytes → Prop}
variable {s : σ} {o u w : Bytes} {e : δ}

@[simp] theorem wp_write {ty : PacketType}
    {Q : Except Exn Unit → σ → Bytes → Bytes → δ → Prop} :
    (PacketStream.write ty w : Prog σ Exn C Ans' Unit).wp E H s o u e Q ↔
      Q (.ok ()) s (o ++ PacketStream.frame ty w) u e := Iff.rfl

@[simp] theorem wp_writePacket {X : Type} [Packet X] [Wire X] {p : X}
    {Q : Except Exn Unit → σ → Bytes → Bytes → δ → Prop} :
    (PacketStream.writePacket p : Prog σ Exn C Ans' Unit).wp E H s o u e Q ↔
      Q (.ok ()) s (o ++ packet p) u e := Iff.rfl

/-- A party meets the packet it asks for. -/
theorem wp_read {ty : PacketType} (hty : Ordinary ty) {r : Reader α} {a : α} (hr : Reads r w a)
    {Q : Except Exn α → σ → Bytes → Bytes → δ → Prop} :
    (PacketStream.read ty r : Prog σ Exn C Ans' α).wp E H s o (PacketStream.frame ty w ++ u) e Q ↔
      Q (.ok a) s o u e := by
  rw [PacketStream.read, Prog.wp_bind, PacketStream.frame, List.cons_append,
    Prog.wp_ofReader (PacketStream.run_readType_cons _ _), Prog.afterBind_ok,
    if_neg hty.toByte_ne_error, if_neg hty.toByte_ne_terminate, Prog.wp_bind, Prog.wp_expect,
    Prog.afterBind_ok, Prog.wp_ofReader (hr u), beq_self_eq_true, and_iff_right rfl]

/-- A party meets a packet at the end of what has arrived. -/
theorem wp_read_last {ty : PacketType} (hty : Ordinary ty) {r : Reader α} {a : α}
    (hr : Reads r w a) {Q : Except Exn α → σ → Bytes → Bytes → δ → Prop} :
    (PacketStream.read ty r : Prog σ Exn C Ans' α).wp E H s o (PacketStream.frame ty w) e Q ↔
      Q (.ok a) s o [] e := by
  have h := wp_read (E := E) (H := H) (s := s) (o := o) (u := []) (e := e) (Q := Q) hty hr
  rwa [List.append_nil] at h

theorem wp_readPacket {X : Type} [Packet X] [Wire X] (hty : Ordinary (Packet.mType X)) {p x : X}
    (hr : Reads dec (enc p) x) {Q : Except Exn X → σ → Bytes → Bytes → δ → Prop} :
    (PacketStream.readPacket X : Prog σ Exn C Ans' X).wp E H s o (packet p ++ u) e Q ↔
      Q (.ok x) s o u e := wp_read hty hr

theorem wp_readPacket_last {X : Type} [Packet X] [Wire X] (hty : Ordinary (Packet.mType X))
    {p x : X} (hr : Reads dec (enc p) x) {Q : Except Exn X → σ → Bytes → Bytes → δ → Prop} :
    (PacketStream.readPacket X : Prog σ Exn C Ans' X).wp E H s o (packet p) e Q ↔
      Q (.ok x) s o [] e := wp_read_last hty hr

/-- A party meets an error packet, whatever it asks for. -/
theorem wp_read_error {ty : PacketType} {r : Reader α} {err : Int32}
    {Q : Except Exn α → σ → Bytes → Bytes → δ → Prop} :
    (PacketStream.read ty r : Prog σ Exn C Ans' α).wp E H s o
        (packet (⟨err⟩ : ErrorPacket)) e Q ↔
      Q (.error (.errorPacket err)) s o [] e := by
  have hbody : (dec : Reader Int32).run (enc (⟨err⟩ : ErrorPacket)) = some (err, []) := by
    have h := reads_dec err []
    rwa [List.append_nil] at h
  have herr : (Packet.mType ErrorPacket).toByte = PacketType.error.toByte := rfl
  rw [PacketStream.read, Prog.wp_bind, packet, PacketStream.frame,
    Prog.wp_ofReader (PacketStream.run_readType_cons _ _), Prog.afterBind_ok, if_pos herr,
    Prog.wp_bind, Prog.wp_ofReader hbody, Prog.afterBind_ok, Prog.wp_throw]

theorem wp_readPacket_error {X : Type} [Packet X] [Wire X] {err : Int32}
    {Q : Except Exn X → σ → Bytes → Bytes → δ → Prop} :
    (PacketStream.readPacket X : Prog σ Exn C Ans' X).wp E H s o
        (packet (⟨err⟩ : ErrorPacket)) e Q ↔
      Q (.error (.errorPacket err)) s o [] e := wp_read_error

end Packets

/-! ## The server -/

namespace ServerInstance

variable {δ : Type} {E : δ → (c : ServerCall) → Ans c → δ → Prop}
variable {H : ServerState → Bytes → Bytes → Prop} {t : ServerState} {o u : Bytes} {e : δ}
variable {Q : Except Exn Unit → ServerState → Bytes → Bytes → δ → Prop}

@[simp] theorem wp_getObj {id : IDType}
    {Q : Except Exn Ptr → ServerState → Bytes → Bytes → δ → Prop} :
    (getObj id).wp E H t o u e Q ↔ Q (.ok (objectAt t.mObjects id)) t o u e := Iff.rfl

@[simp] theorem wp_getObjs {ids : List IDType}
    {Q : Except Exn (List Ptr) → ServerState → Bytes → Bytes → δ → Prop} :
    (getObjs ids).wp E H t o u e Q ↔ Q (.ok (ids.map (objectAt t.mObjects))) t o u e := Iff.rfl

@[simp] theorem wp_info {q : InfoQuery} {n : ℕ}
    {Q : Except Exn InfoAns → ServerState → Bytes → Bytes → δ → Prop} :
    (info q n).wp E H t o u e Q ↔ ∀ a e', E e (.info q n) a e' → Q (.ok a) t o u e' := Iff.rfl

@[simp] theorem wp_create {q : CreateCall}
    {Q : Except Exn CreateAns → ServerState → Bytes → Bytes → δ → Prop} :
    (create q).wp E H t o u e Q ↔ ∀ a e', E e (.create q) a e' → Q (.ok a) t o u e' := Iff.rfl

@[simp] theorem wp_status {q : StatusCall}
    {Q : Except Exn Int32 → ServerState → Bytes → Bytes → δ → Prop} :
    (status q).wp E H t o u e Q ↔ ∀ a e', E e (.status q) a e' → Q (.ok a) t o u e' := Iff.rfl

@[simp] theorem wp_enqueue {q : Enqueue}
    {Q : Except Exn EnqueueAns → ServerState → Bytes → Bytes → δ → Prop} :
    (enqueue q).wp E H t o u e Q ↔ ∀ a e', E e (.enqueue q) a e' → Q (.ok a) t o u e' := Iff.rfl

@[simp] theorem wp_writeError {err : Int32} :
    (writeError err).wp E H t o u e Q ↔ Q (.ok ()) t (o ++ packet (⟨err⟩ : ErrorPacket)) u e :=
  Iff.rfl

@[simp] theorem wp_writeSuccess :
    writeSuccess.wp E H t o u e Q ↔ Q (.ok ()) t (o ++ packet (⟨⟩ : SuccessPacket)) u e := Iff.rfl

@[simp] theorem wp_writeValue {T : Type} [Wire T] {value : T} :
    (writeValue value).wp E H t o u e Q ↔
      Q (.ok ()) t (o ++ packet (⟨value⟩ : SimplePacket .payload T)) u e := Iff.rfl

@[simp] theorem wp_writePayload {B : ServerBuild} {sz : SizeT} {data : Bytes} :
    (writePayload B sz data).wp E H t o u e Q ↔
      Q (.ok ()) t (o ++ PacketStream.frame .payload (encPayload B.zlib sz data)) u e := Iff.rfl

@[simp] theorem wp_writePayloadPtr {B : ServerBuild} {sz : SizeT} {data : Bytes} :
    (writePayloadPtr B sz data).wp E H t o u e Q ↔
      Q (.ok ()) t (o ++ PacketStream.frame .payload (encPayloadPtr B.zlib sz data)) u e := Iff.rfl

/-- A vector that there can be. -/
theorem wp_resize {elementSize n : ℕ} (h : elementSize * n ≤ vectorMaxSize) :
    (resize elementSize n).wp E H t o u e Q ↔ Q (.ok ()) t o u e := by
  rw [resize, if_pos h]
  rfl

/-- The reply to a request that returns nothing. -/
def statusReply (err : Int32) : Bytes :=
  if err ≠ CL_SUCCESS then packet (⟨err⟩ : ErrorPacket) else packet (⟨⟩ : SuccessPacket)

@[simp] theorem wp_replyStatus {err : Int32} :
    (replyStatus err).wp E H t o u e Q ↔ Q (.ok ()) t (o ++ statusReply err) u e := by
  rw [replyStatus, statusReply]
  split <;> rfl

@[simp] theorem wp_getIDFor {p : Ptr}
    {Q : Except Exn IDType → ServerState → Bytes → Bytes → δ → Prop} :
    (getIDFor p).wp E H t o u e Q ↔
      match assignID t.mObjects p with
      | some (id, mObjects) => Q (.ok id) { t with mObjects } o u e
      | none => H t o u := by
  rw [getIDFor, Prog.wp_bind, Prog.wp_getState, Prog.afterBind_ok]
  cases assignID t.mObjects p <;> rfl

variable {A : Set Ptr}

/-- The ID of an object of `A` is found, unless the table is full. -/
theorem wp_getIDFor_of {p : Ptr} (hg : Good A t.mObjects) (hp : p ∈ A)
    {Q : Except Exn IDType → ServerState → Bytes → Bytes → δ → Prop}
    (h : ∀ id mObjects, assignID t.mObjects p = some (id, mObjects) → Good A mObjects →
      Q (.ok id) { t with mObjects } [] [] e) :
    (getIDFor p).wp E (Overfull A) t [] [] e Q := by
  rw [wp_getIDFor]
  cases hid : assignID t.mObjects p with
  | none => exact ⟨rfl, rfl, hg, p, hp, hid⟩
  | some a => exact h _ _ hid (hg.assignID hp hid)

/-- The IDs of objects of `A` are found, unless the table is full. -/
theorem wp_getIDsFor_of {ps : List Ptr} (hg : Good A t.mObjects) (hp : ∀ p ∈ ps, p ∈ A)
    {Q : Except Exn (List IDType) → ServerState → Bytes → Bytes → δ → Prop}
    (h : ∀ ids mObjects, assignIDs t.mObjects ps = some (ids, mObjects) → Good A mObjects →
      Q (.ok ids) { t with mObjects } [] [] e) :
    (getIDsFor ps).wp E (Overfull A) t [] [] e Q := by
  induction ps generalizing t Q with
  | nil => exact h [] t.mObjects rfl hg
  | cons p ps ih =>
    rw [getIDsFor, Prog.wp_bind]
    refine wp_getIDFor_of hg (hp p List.mem_cons_self) fun id objs hid hg' => ?_
    rw [Prog.afterBind_ok, Prog.wp_bind]
    refine ih (t := { t with mObjects := objs }) hg'
      (fun q hq => hp q (List.mem_cons_of_mem _ hq)) fun ids objs' hids hg'' => ?_
    rw [Prog.afterBind_ok]
    refine h (id :: ids) objs' ?_ hg''
    rw [assignIDs, hid, Option.bind_some, hids, Option.map_some]

/-- The reply to a request that names one object. -/
theorem wp_writeID_of {p : Ptr} (hg : Good A t.mObjects) (hp : p ∈ A)
    (h : ∀ id mObjects, assignID t.mObjects p = some (id, mObjects) → Good A mObjects →
      Q (.ok ()) { t with mObjects } (packet (⟨id⟩ : IDPacket)) [] e) :
    (writeID p).wp E (Overfull A) t [] [] e Q := by
  rw [writeID, Prog.wp_bind]
  exact wp_getIDFor_of hg hp h

/-- The reply to a request that names a list of objects. -/
theorem wp_writeIDs_of {ps : List Ptr} (hg : Good A t.mObjects) (hp : ∀ p ∈ ps, p ∈ A)
    (h : ∀ ids mObjects, assignIDs t.mObjects ps = some (ids, mObjects) → Good A mObjects →
      Q (.ok ()) { t with mObjects } (packet (⟨ids⟩ : IDListPacket)) [] e) :
    (writeIDs ps).wp E (Overfull A) t [] [] e Q := by
  rw [writeIDs, Prog.wp_bind]
  exact wp_getIDsFor_of hg hp h

end ServerInstance

/-! ## The client -/

/-- A state after a pointer has been stored through, unless it was null. -/
def ClientState.stored (s : ClientState) (pointer : Bool) (x : Store) : ClientState :=
  if pointer then s.note (.store x) else s

@[simp] theorem ClientState.core_stored (s : ClientState) (pointer : Bool) (x : Store) :
    (s.stored pointer x).core = s.core := by
  cases pointer <;> simp [stored]

namespace Client

variable {H : ClientState → Bytes → Bytes → Prop} {s : ClientState} {o u : Bytes} {e : Unit}

@[simp] theorem wp_resolve {how : Resolve} {kind : Kind} {id : IDType}
    {Q : Except Exn Lookup → ClientState → Bytes → Bytes → Unit → Prop} :
    (resolve how kind id).wp noEnv H s o u e Q ↔
      Q (.ok (how.apply s kind id).1) (how.apply s kind id).2 o u e := Iff.rfl

@[simp] theorem wp_getObject {kind : Kind} {id : IDType}
    {Q : Except Exn Lookup → ClientState → Bytes → Bytes → Unit → Prop} :
    (getObject kind id).wp noEnv H s o u e Q ↔
      Q (.ok (Resolve.getObject.apply s kind id).1) (Resolve.getObject.apply s kind id).2 o u e :=
  Iff.rfl

@[simp] theorem wp_registerID {kind : Kind} {id : IDType}
    {Q : Except Exn Lookup → ClientState → Bytes → Bytes → Unit → Prop} :
    (registerID kind id).wp noEnv H s o u e Q ↔
      Q (.ok (Resolve.registerID.apply s kind id).1) (Resolve.registerID.apply s kind id).2
        o u e := Iff.rfl

@[simp] theorem wp_getOrInsertObject {kind : Kind} {id : IDType}
    {Q : Except Exn Lookup → ClientState → Bytes → Bytes → Unit → Prop} :
    (getOrInsertObject kind id).wp noEnv H s o u e Q ↔
      Q (.ok (Resolve.getOrInsertObject.apply s kind id).1)
        (Resolve.getOrInsertObject.apply s kind id).2 o u e := Iff.rfl

@[simp] theorem wp_resolveAll {how : Resolve} {kind : Kind} {ids : List IDType}
    {Q : Except Exn (List Lookup) → ClientState → Bytes → Bytes → Unit → Prop} :
    (resolveAll how kind ids).wp noEnv H s o u e Q ↔
      Q (.ok (how.applyAll s kind ids).1) (how.applyAll s kind ids).2 o u e := Iff.rfl

@[simp] theorem wp_store {pointer : Bool} {x : Store}
    {Q : Except Exn Unit → ClientState → Bytes → Bytes → Unit → Prop} :
    (store pointer x).wp noEnv H s o u e Q ↔ Q (.ok ()) (s.stored pointer x) o u e := by
  cases pointer <;> rfl

variable {Q : Except Exn Ret → ClientState → Bytes → Bytes → Unit → Prop}

/-- What a `catch` clause makes of an exception. -/
def caught (badAlloc others : Int32) : Exn → Int32
  | .errorPacket e => e
  | .badAlloc => badAlloc
  | _ => others

theorem catching_eq (badAlloc others : Int32) (p : ClientM Ret) :
    catching badAlloc others p =
      p.tryCatch fun x => Prog.ret (.code (caught badAlloc others x)) := by
  rw [catching]
  congr 1
  funext x
  cases x <;> rfl

theorem context_catching (badAlloc others : Int32) : Prog.Context (catching badAlloc others) :=
  Prog.Context.tryCatch _

theorem catchingError_eq (kind : Kind) (errcode_ret : Bool) (badAlloc : Int32)
    (p : ClientM Ret) :
    catchingError kind errcode_ret badAlloc p =
      p.tryCatch fun x =>
        returnError kind errcode_ret (caught badAlloc CL_DEVICE_NOT_AVAILABLE x) := by
  rw [catchingError]
  congr 1
  funext x
  cases x <;> rfl

theorem context_catchingError (kind : Kind) (errcode_ret : Bool) (badAlloc : Int32) :
    Prog.Context (catchingError kind errcode_ret badAlloc) :=
  Prog.Context.tryCatch _

/-- What the caller of a function that returns a code is told. -/
def afterCatching (badAlloc others : Int32)
    (Q : Except Exn Ret → ClientState → Bytes → Bytes → Unit → Prop) :
    Except Exn Ret → ClientState → Bytes → Bytes → Unit → Prop
  | .ok a, s, o, u, e => Q (.ok a) s o u e
  | .error x, s, o, u, e => Q (.ok (.code (caught badAlloc others x))) s o u e

@[simp] theorem afterCatching_ok {badAlloc others : Int32} {a : Ret} :
    afterCatching badAlloc others Q (.ok a) s o u e ↔ Q (.ok a) s o u e := Iff.rfl

@[simp] theorem afterCatching_errorPacket {badAlloc others err : Int32} :
    afterCatching badAlloc others Q (.error (.errorPacket err)) s o u e ↔
      Q (.ok (.code err)) s o u e := Iff.rfl

@[simp] theorem wp_catching {badAlloc others : Int32} {p : ClientM Ret} :
    (catching badAlloc others p).wp noEnv H s o u e Q ↔
      p.wp noEnv H s o u e (afterCatching badAlloc others Q) := by
  rw [catching_eq, Prog.wp_tryCatch]
  have hpost : Prog.afterCatch noEnv H
      (fun x => Prog.ret (Ret.code (caught badAlloc others x))) Q =
      afterCatching badAlloc others Q := by
    funext r
    cases r <;> rfl
  rw [hpost]

@[simp] theorem wp_returnError {kind : Kind} {errcode_ret : Bool} {code : Int32} :
    (returnError kind errcode_ret code).wp noEnv H s o u e Q ↔
      Q (.ok (.handle kind none)) (s.stored errcode_ret (.errcode_ret code)) o u e := by
  cases errcode_ret <;> rfl

/-- What the caller of a function that returns a handle is told. -/
def afterCatchingError (kind : Kind) (errcode_ret : Bool) (badAlloc : Int32)
    (Q : Except Exn Ret → ClientState → Bytes → Bytes → Unit → Prop) :
    Except Exn Ret → ClientState → Bytes → Bytes → Unit → Prop
  | .ok a, s, o, u, e => Q (.ok a) s o u e
  | .error x, s, o, u, e => Q (.ok (.handle kind none))
      (s.stored errcode_ret (.errcode_ret (caught badAlloc CL_DEVICE_NOT_AVAILABLE x))) o u e

@[simp] theorem afterCatchingError_ok {kind : Kind} {errcode_ret : Bool} {badAlloc : Int32}
    {a : Ret} :
    afterCatchingError kind errcode_ret badAlloc Q (.ok a) s o u e ↔ Q (.ok a) s o u e :=
  Iff.rfl

@[simp] theorem afterCatchingError_errorPacket {kind : Kind} {errcode_ret : Bool}
    {badAlloc err : Int32} :
    afterCatchingError kind errcode_ret badAlloc Q (.error (.errorPacket err)) s o u e ↔
      Q (.ok (.handle kind none)) (s.stored errcode_ret (.errcode_ret err)) o u e := Iff.rfl

@[simp] theorem wp_catchingError {kind : Kind} {errcode_ret : Bool} {badAlloc : Int32}
    {p : ClientM Ret} :
    (catchingError kind errcode_ret badAlloc p).wp noEnv H s o u e Q ↔
      p.wp noEnv H s o u e (afterCatchingError kind errcode_ret badAlloc Q) := by
  rw [catchingError_eq, Prog.wp_tryCatch]
  have hpost : Prog.afterCatch noEnv H (fun x => returnError kind errcode_ret
      (caught badAlloc CL_DEVICE_NOT_AVAILABLE x)) Q =
      afterCatchingError kind errcode_ret badAlloc Q := by
    funext r
    cases r with
    | ok => rfl
    | error x =>
      funext s o u e
      exact propext wp_returnError
  rw [hpost]

end Client

end RemoteCL

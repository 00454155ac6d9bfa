import RemoteCL.Session.Buffers
import RemoteCL.Session.Calls.Exact
import RemoteCL.Session.Runs

/-!
# Calls on buffers

A call on a buffer, through the client and the server, reports what the driver answers to the same
call (`settles_bufferRequest`).  There are three things to see: that the driver is asked the
question that the application would have put to it, that the client makes of the reply what the
driver has answered, and that the handles of the application go on standing for the same objects.
-/

namespace RemoteCL

open ByteStream Conversation Wire LawfulWire Client

/-! ## The driver behind the server -/

/-- The call that a command of the server is. -/
def Enqueue.bufferCall (q : Enqueue) : Option BufferCall :=
  match q.command with
  | .clEnqueueReadBuffer buffer _ offset size =>
    some (.enqueue q.queue buffer (.read offset size) q.events q.wantEvent)
  | .clEnqueueWriteBuffer buffer _ offset data =>
    some (.enqueue q.queue buffer (.write offset data) q.events q.wantEvent)
  | .clEnqueueFillBuffer buffer pattern offset size =>
    some (.enqueue q.queue buffer (.fill pattern offset size) q.events q.wantEvent)
  | _ => none

namespace BufferDriver

variable {ω : Type} (D : BufferDriver ω)

/-- The answers to the server.  Everything but buffers is refused. -/
def answer (e : BufferState ω) : (c : ServerCall) → Ans c × BufferState ω
  | .create (.clCreateBuffer context flags size host_ptr) =>
    let (reply, e') := D.perform e (.clCreateBuffer context flags size host_ptr)
    (⟨reply.err, reply.object⟩, e')
  | .enqueue q =>
    match q.bufferCall with
    | some c =>
      let (reply, e') := D.perform e c
      (⟨reply.err, reply.object, reply.data⟩, e')
    | none => (⟨CL_INVALID_OPERATION, 0, []⟩, e)
  | c => (refuse c, e)

/-- The driver as the environment of the server. -/
def environment (e : BufferState ω) (c : ServerCall) (a : Ans c) (e' : BufferState ω) : Prop :=
  D.answer e c = (a, e')

theorem answers_environment : Answers D.environment := fun e c =>
  ⟨(D.answer e c).1, (D.answer e c).2, rfl⟩

variable {D} {e e' : BufferState ω} {reply : BufferReply}

theorem environment_enqueue {q : Enqueue} {c : BufferCall} (hq : q.bufferCall = some c)
    (h : D.perform e c = (reply, e')) {a : EnqueueAns} {e₁ : BufferState ω}
    (ha : D.environment e (.enqueue q) a e₁) :
    a = ⟨reply.err, reply.object, reply.data⟩ ∧ e₁ = e' := by
  have hanswer : D.answer e (.enqueue q) = (⟨reply.err, reply.object, reply.data⟩, e') := by
    simp only [answer, hq, h]
  have heq := ha.symm.trans hanswer
  exact ⟨congrArg Prod.fst heq, congrArg Prod.snd heq⟩

theorem environment_create {context : Ptr} {flags : UInt64} {size : ℕ} {host_ptr : Option Bytes}
    (h : D.perform e (.clCreateBuffer context flags size host_ptr) = (reply, e')) {a : CreateAns}
    {e₁ : BufferState ω}
    (ha : D.environment e (.create (.clCreateBuffer context flags size host_ptr)) a e₁) :
    a = ⟨reply.err, reply.object⟩ ∧ e₁ = e' := by
  have hanswer : D.answer e (.create (.clCreateBuffer context flags size host_ptr)) =
      (⟨reply.err, reply.object⟩, e') := by
    simp only [answer, h]
  have heq := ha.symm.trans hanswer
  exact ⟨congrArg Prod.fst heq, congrArg Prod.snd heq⟩

/-- No object is forgotten. -/
theorem objects_subset_of_perform {c : BufferCall} (h : D.perform e c = (reply, e')) :
    e.objects ⊆ e'.objects := by
  have hperformed := D.performed e c
  rw [h] at hperformed
  cases hperformed with
  | refused _ hobjects => rw [hobjects]
  | accepted _ _ hobjects =>
    rw [hobjects]
    split
    · exact Finset.subset_insert _ _
    · exact Finset.Subset.refl _

theorem objects_subset_of_run {rs : List (BufferRequest ℕ)} {objects : List Ptr}
    {views : List Seen} (h : D.run rs objects e = some (views, e')) :
    e.objects ⊆ e'.objects := by
  induction rs generalizing objects views e with
  | nil =>
    simp only [run, Option.some.injEq, Prod.mk.injEq] at h
    rw [h.2]
  | cons r rs ih =>
    simp only [run] at h
    split at h
    · obtain ⟨⟨views', e₂⟩, hrest, heq⟩ := Option.map_eq_some_iff.mp h
      obtain ⟨-, rfl⟩ := Prod.mk.inj heq
      exact (objects_subset_of_perform rfl).trans (ih hrest)
    · exact absurd h (by simp)

end BufferDriver

/-! ## Handles and objects -/

/-- The handles of the application stand for these objects.  The server knows only objects that
there are, and the client has no more slots than the server has objects. -/
structure Linked {ω : Type} (handles : List Handle) (objects : List Ptr) (s : ClientState)
    (t : ServerState) (e : BufferState ω) : Prop where
  stand : List.Forall₂ (fun h p => t.mObjects[(GetID h).toNat]? = some p) handles objects
  good : Good e.objects t.mObjects
  short : s.mObjects.length ≤ t.mObjects.length

section Linked

variable {ω : Type} {handles : List Handle} {objects : List Ptr} {s s' : ClientState}
variable {t : ServerState} {e e' : BufferState ω}

theorem Linked.length_eq (h : Linked handles objects s t e) : handles.length = objects.length :=
  h.stand.length_eq

theorem Linked.objectAt (h : Linked handles objects s t e) {i : ℕ} (hi : i < objects.length) :
    objectAt t.mObjects (GetID (handles.getD i noHandle)) = objects.getD i 0 := by
  have hi' : i < handles.length := h.length_eq ▸ hi
  have hstand := (List.forall₂_iff_get.mp h.stand).2 i hi' hi
  rw [RemoteCL.objectAt, List.getD_eq_getElem?_getD, List.getD_eq_getElem handles noHandle hi',
    List.getD_eq_getElem objects 0 hi]
  simp only [List.get_eq_getElem] at hstand
  rw [hstand, Option.getD_some]

/-- The server finds the objects that the calls are about. -/
theorem Linked.map_objectAt (h : Linked handles objects s t e) {r : BufferRequest ℕ}
    (hr : r.Valid objects.length) :
    (r.map (handles.getD · noHandle)).map (fun k => RemoteCL.objectAt t.mObjects (GetID k)) =
      r.map (objects.getD · 0) := by
  cases r with
  | clCreateBuffer context =>
    simp only [BufferRequest.map, h.objectAt hr]
  | enqueue queue buffer command events event =>
    obtain ⟨hqueue, hbuffer, hevents⟩ := hr
    simp only [BufferRequest.map, h.objectAt hqueue, h.objectAt hbuffer, List.map_map]
    congr 1
    exact List.map_congr_left fun i hi => h.objectAt (hevents i hi)

/-- A call that creates nothing. -/
theorem Linked.same (h : Linked handles objects s t e) (s' : ClientState)
    (hs : s'.mObjects = s.mObjects)
    (he : e'.objects = e.objects) : Linked (handles ++ []) (objects ++ []) s' t e' := by
  obtain ⟨hstand, hgood, hshort⟩ := h
  rw [List.append_nil, List.append_nil]
  refine ⟨hstand, ?_, ?_⟩
  · rw [he]
    exact hgood
  · rw [hs]
    exact hshort

/-- A new object gets the next ID. -/
theorem Linked.assignID_new (h : Linked handles objects s t e) {p : Ptr} (hp : p ∉ e.objects)
    (hcard : (insert p e.objects).card ≤ 65536) :
    ∃ id, assignID t.mObjects p = some (id, t.mObjects ++ [p]) ∧
      id.toNat = t.mObjects.length := by
  have hgood : Good (insert p e.objects : Finset Ptr) t.mObjects :=
    ⟨h.good.nodup, fun q hq => Finset.mem_insert_of_mem (h.good.mem q hq), h.good.length_le⟩
  cases hid : assignID t.mObjects p with
  | none => exact absurd (hgood.card_lt (Finset.mem_insert_self p _) hid) (by omega)
  | some a =>
    obtain ⟨id, mObjects⟩ := a
    rcases assignID_cases h.good.length_le hid with ⟨-, hget⟩ | ⟨-, rfl, hlen, -⟩
    · exact absurd (h.good.mem p (List.mem_of_getElem? hget)) hp
    · exact ⟨id, rfl, hlen⟩

/-- A call that creates an object, and gives the application a handle of it. -/
theorem Linked.new (h : Linked handles objects s t e) (s' : ClientState) {p : Ptr} {id : IDType}
    {k : Handle} (hid : assignID t.mObjects p = some (id, t.mObjects ++ [p]))
    (hlen : id.toNat = t.mObjects.length) (hk : k.ID = id) (he : e'.objects = insert p e.objects)
    (hs : s'.mObjects.length ≤ t.mObjects.length + 1) :
    Linked (handles ++ [k]) (objects ++ [p]) s' { t with mObjects := t.mObjects ++ [p] } e' where
  stand := by
    refine List.rel_append (h.stand.imp fun a b hab => ?_) (.cons ?_ .nil)
    · exact (List.getElem?_append_left (List.getElem?_eq_some_iff.mp hab).1).trans hab
    · show (t.mObjects ++ [p])[k.ID.toNat]? = some p
      rw [hk, hlen, List.getElem?_concat_length]
  good := by
    rw [he]
    have hgood : Good (insert p e.objects : Finset Ptr) t.mObjects :=
      ⟨h.good.nodup, fun q hq => Finset.mem_insert_of_mem (h.good.mem q hq), h.good.length_le⟩
    exact hgood.assignID (Finset.mem_insert_self p _) hid
  short := by
    rw [List.length_append, List.length_singleton]
    exact hs

/-- The client's table after it has registered the next ID. -/
theorem Linked.length_register (h : Linked handles objects s t e) (kind : Kind) {id : IDType}
    (hlen : id.toNat = t.mObjects.length) :
    (s.register kind id).mObjects.length ≤ t.mObjects.length + 1 := by
  have hshort := h.short
  rw [ClientState.register, List.length_set, growTo, List.length_append, List.length_replicate]
  omega

end Linked

/-! ## What a call reports -/

section Reports

variable {ω : Type} (handles : List Handle) (objects : List Ptr) (s : ClientState)
variable (e' : BufferState ω)

/-- What a call of the client leaves: the application has seen what it would have seen of the
driver, and its handles stand for the objects that it would have. -/
def Reports (r : BufferRequest Handle) (reply : BufferReply) (ret : Ret) (s' : ClientState)
    (t' : ServerState) (e'' : BufferState ω) : Prop :=
  e'' = e' ∧ ∃ new, Extends s s' new ∧ observe ret new = r.seen reply ∧
    Linked (handles ++ givenHandles ret new) (objects ++ r.created reply) s' t' e'

variable {handles objects s e'} {t : ServerState} {e : BufferState ω} {reply : BufferReply}

/-- What is stored when something has been read. -/
def dataEvents : Option Bytes → List ClientEvent
  | some data => [.store (.ptr data)]
  | none => []

theorem Extends.withData {s s' : ClientState} {new : List ClientEvent} (h : Extends s s' new)
    (data : Option Bytes) : Extends s (withData s' data) (new ++ dataEvents data) := by
  cases data with
  | none =>
    rw [dataEvents, List.append_nil]
    exact h
  | some data => exact h.stored true (.ptr data)

theorem mObjects_withData (s : ClientState) (data : Option Bytes) :
    (withData s data).mObjects = s.mObjects := by
  cases data <;> rfl

theorem mObjects_stored (s : ClientState) (pointer : Bool) (x : Store) :
    (s.stored pointer x).mObjects = s.mObjects := by
  cases pointer <;> rfl

theorem observe_dataEvents (data : Option Bytes) :
    observe (.code CL_SUCCESS) (dataEvents data) = ⟨some CL_SUCCESS, data, 0⟩ ∧
      givenHandles (.code CL_SUCCESS) (dataEvents data) = [] := by
  cases data <;> exact ⟨rfl, rfl⟩

theorem observe_event (k : Handle) (id : IDType) (data : Option Bytes) :
    observe (.code CL_SUCCESS)
        ([.lookup .event id (.object k)] ++ [.store (.event (.object k))] ++ dataEvents data) =
          ⟨some CL_SUCCESS, data, 1⟩ ∧
      givenHandles (.code CL_SUCCESS)
        ([.lookup .event id (.object k)] ++ [.store (.event (.object k))] ++ dataEvents data) =
          [k] := by
  cases data <;> exact ⟨rfl, rfl⟩

section Command

variable {queue buffer : Handle} {command : BufferCommand} {events : List Handle} {event : Bool}

theorem reports_error (hlinked : Linked handles objects s t e) (herr : reply.err ≠ CL_SUCCESS)
    (he : e'.objects = e.objects) :
    Reports handles objects s e' (.enqueue queue buffer command events event) reply
      (.code reply.err) s t e' := by
  have hcreated : (BufferRequest.enqueue queue buffer command events event).created reply = [] :=
    if_neg herr
  have hdata : (BufferRequest.enqueue queue buffer command events event).readData reply = none := by
    cases command <;> simp [BufferRequest.readData, herr]
  refine ⟨rfl, [], .refl s, ?_, ?_⟩
  · simp only [BufferRequest.seen, hcreated, hdata]
    rfl
  · rw [hcreated]
    exact hlinked.same s rfl he

theorem reports_plain (hlinked : Linked handles objects s t e) (herr : reply.err = CL_SUCCESS)
    (he : e'.objects = e.objects) {data : Option Bytes}
    (hdata : (BufferRequest.enqueue queue buffer command events false).readData reply = data) :
    Reports handles objects s e' (.enqueue queue buffer command events false) reply
      (.code CL_SUCCESS) (withData s data) t e' := by
  obtain ⟨hobserve, hgiven⟩ := observe_dataEvents data
  have hcreated : (BufferRequest.enqueue queue buffer command events false).created reply = [] := by
    simp [BufferRequest.created]
  refine ⟨rfl, _, (Extends.refl s).withData data, ?_, ?_⟩
  · rw [List.nil_append, hobserve]
    simp only [BufferRequest.seen, hcreated, hdata, herr]
    rfl
  · rw [List.nil_append, hgiven, hcreated]
    exact hlinked.same _ (mObjects_withData s data) he

theorem reports_event (hlinked : Linked handles objects s t e) (herr : reply.err = CL_SUCCESS)
    (he : e'.objects = insert reply.object e.objects) {id : IDType}
    (hid : assignID t.mObjects reply.object = some (id, t.mObjects ++ [reply.object]))
    (hlen : id.toNat = t.mObjects.length) {data : Option Bytes}
    (hdata : (BufferRequest.enqueue queue buffer command events true).readData reply = data) :
    Reports handles objects s e' (.enqueue queue buffer command events true) reply
      (.code CL_SUCCESS) (withData (withEvent s id) data)
      { t with mObjects := t.mObjects ++ [reply.object] } e' := by
  obtain ⟨hobserve, hgiven⟩ := observe_event (s.newHandle .event id) id data
  have hcreated : (BufferRequest.enqueue queue buffer command events true).created reply =
      [reply.object] := by
    simp [BufferRequest.created, herr]
  have hextends : Extends s (withData (withEvent s id) data) _ :=
    (((Extends.refl s).apply .registerID .event id).stored true _).withData data
  refine ⟨rfl, _, hextends, ?_, ?_⟩
  · refine hobserve.trans ?_
    simp only [BufferRequest.seen, hcreated, hdata, herr]
    rfl
  · rw [hcreated]
    have hnew := hlinked.new (withData (withEvent s id) data) (k := s.newHandle .event id) hid hlen
      rfl he ?_
    · exact (congrArg (fun l => Linked (handles ++ l) _ _ _ _) hgiven).mpr hnew
    · rw [mObjects_withData, withEvent, mObjects_stored]
      exact hlinked.length_register .event hlen

end Command

section Create

variable {context : Handle} {flags size : UInt64} {host_ptr : Option Bytes} {errcode_ret : Bool}

theorem reports_notCreated (hlinked : Linked handles objects s t e) (herr : reply.err ≠ CL_SUCCESS)
    (he : e'.objects = e.objects) :
    Reports handles objects s e' (.clCreateBuffer context flags size host_ptr errcode_ret) reply
      (.handle .memObject none) ((s.stored errcode_ret (.errcode_ret CL_SUCCESS)).stored errcode_ret
        (.errcode_ret reply.err)) t e' := by
  have hcreated : (BufferRequest.clCreateBuffer context flags size host_ptr errcode_ret).created
      reply = [] := if_neg herr
  refine ⟨rfl, _, ((Extends.refl s).stored errcode_ret _).stored errcode_ret _, ?_, ?_⟩
  · simp only [BufferRequest.seen, hcreated]
    cases errcode_ret <;> rfl
  · have hgiven := hlinked.same ((s.stored errcode_ret (.errcode_ret CL_SUCCESS)).stored
      errcode_ret (.errcode_ret reply.err)) (by rw [mObjects_stored, mObjects_stored]) he
    rw [hcreated]
    cases errcode_ret <;> exact hgiven

/-- The ID is behind the end of the client's table, and so it is registered. -/
theorem apply_getOrInsertObject {s : ClientState} {kind : Kind} {id : IDType}
    (h : s.mObjects.length ≤ id.toNat) :
    Resolve.getOrInsertObject.apply s kind id = Resolve.registerID.apply s kind id :=
  if_neg (by omega)

theorem reports_created (hlinked : Linked handles objects s t e) (herr : reply.err = CL_SUCCESS)
    (he : e'.objects = insert reply.object e.objects) {id : IDType}
    (hid : assignID t.mObjects reply.object = some (id, t.mObjects ++ [reply.object]))
    (hlen : id.toNat = t.mObjects.length) :
    Reports handles objects s e' (.clCreateBuffer context flags size host_ptr errcode_ret) reply
      (.handle .memObject (some (Resolve.registerID.apply
        (s.stored errcode_ret (.errcode_ret CL_SUCCESS)) .memObject id).1))
      (Resolve.registerID.apply (s.stored errcode_ret (.errcode_ret CL_SUCCESS)) .memObject id).2
      { t with mObjects := t.mObjects ++ [reply.object] } e' := by
  have hcreated : (BufferRequest.clCreateBuffer context flags size host_ptr errcode_ret).created
      reply = [reply.object] := if_pos herr
  have hstored : Linked handles objects (s.stored errcode_ret (.errcode_ret CL_SUCCESS)) t e :=
    ⟨hlinked.stand, hlinked.good, by
      rw [mObjects_stored]
      exact hlinked.short⟩
  refine ⟨rfl, _, ((Extends.refl s).stored errcode_ret _).apply .registerID .memObject id, ?_, ?_⟩
  · simp only [BufferRequest.seen, hcreated, herr]
    cases errcode_ret <;> rfl
  · have hnew := hstored.new (Resolve.registerID.apply
      (s.stored errcode_ret (.errcode_ret CL_SUCCESS)) .memObject id).2
      (k := (s.stored errcode_ret (.errcode_ret CL_SUCCESS)).newHandle .memObject id)
        hid hlen rfl he
      (hstored.length_register .memObject hlen)
    rw [hcreated]
    cases errcode_ret <;> exact hnew

end Create

end Reports

/-! ## Calls -/

/-- The offset and the size of a command have 32 bits, and a pattern has at most 128 bytes. -/
def BufferCommand.Fits : BufferCommand → Prop
  | write _ offset size _ => offset.toNat < 2 ^ 32 ∧ size.toNat < 2 ^ 32
  | fill _ pattern_size offset size =>
    pattern_size.toNat ≤ 128 ∧ offset.toNat < 2 ^ 32 ∧ size.toNat < 2 ^ 32
  | read _ offset size => offset.toNat < 2 ^ 32 ∧ size.toNat < 2 ^ 32

instance (c : BufferCommand) : Decidable c.Fits := by
  cases c <;> unfold BufferCommand.Fits <;> infer_instance

/-- The same for a call.  A list of events has at most 255 entries, and no buffer uses memory of the
application. -/
def BufferRequest.Fits {O : Type} : BufferRequest O → Prop
  | clCreateBuffer _ flags size _ _ => flags &&& CL_MEM_USE_HOST_PTR = 0 ∧ size.toNat < 2 ^ 32
  | enqueue _ _ command events _ => command.Fits ∧ events.length ≤ 255

instance {O : Type} (r : BufferRequest O) : Decidable r.Fits := by
  cases r <;> unfold BufferRequest.Fits <;> infer_instance

/-- The flags of a new buffer have 32 bits. -/
def BufferRequest.NarrowFlags {O : Type} : BufferRequest O → Prop
  | clCreateBuffer _ flags _ _ _ => flags.toNat < 2 ^ 32
  | enqueue _ _ _ _ _ => True

instance {O : Type} (r : BufferRequest O) : Decidable r.NarrowFlags := by
  cases r <;> unfold BufferRequest.NarrowFlags <;> infer_instance

namespace Client

theorem eventIDs_waitArgs (events : List Handle) (event : Bool) :
    (waitArgs events event).eventIDs = .ok (events.map GetID) := by
  cases events with
  | nil => rfl
  | cons h events =>
    have htake : ((h :: events).map some).take (h :: events).length = (h :: events).map some :=
      List.take_of_length_le (List.length_map _).le
    rw [WaitArgs.eventIDs, waitArgs, if_neg (by simp), if_neg (by simp)]
    dsimp only
    rw [htake, handleIDs_map_some]

theorem withEvents_waitArgs (queue object : Handle) (events : List Handle) (event : Bool)
    (p : Handle → Handle → List IDType → ClientM Ret) :
    withEvents (some queue) (some object) (waitArgs events event) p =
      catching CL_OUT_OF_HOST_MEMORY CL_DEVICE_NOT_AVAILABLE
        (p queue object (events.map GetID)) := by
  rw [withEvents, eventIDs_waitArgs]

/-- The bytes of a pattern arrive. -/
theorem memRead_pattern (pattern : Bytes) {n : UInt64} (h : n.toNat ≤ 128) :
    memRead (Vector.ofFn fun i : Fin 128 => (memRead pattern n.toNat).getD i 0).toList
      n.toUInt8.toNat = memRead pattern n.toNat := by
  have hn : n.toUInt8.toNat = n.toNat := by
    rw [UInt64.toNat_toUInt8]
    exact Nat.mod_eq_of_lt (by omega)
  rw [hn]
  refine List.ext_getElem (by simp) fun i hi hi' => ?_
  rw [length_memRead] at hi hi'
  have hlist : i <
      (Vector.ofFn fun i : Fin 128 => (memRead pattern n.toNat).getD i 0).toList.length := by
    simp
    omega
  simp only [memRead.eq_def (Vector.toList _)]
  rw [List.getElem_append_left (by rw [List.length_take]; omega), List.getElem_take]
  simp [List.getD_eq_getElem?_getD, hi]

end Client

section Calls

variable {ω : Type} {D : BufferDriver ω} {B : ServerBuild} {C : Build}
variable {handles : List Handle} {objects : List Ptr} {s : ClientState} {t : ServerState}
variable {e e' : BufferState ω} {reply : BufferReply}

/-- A command whose request has arrived reports what the driver answers. -/
theorem settles_buffer (args : WaitArgs) (ty : PacketType) {ty' : PacketType} (h : ServerM Unit)
    (tail : EnqueueAns → ServerM Unit) (q : Enqueue) (data : Option Bytes) {u : Bytes} {α : Type}
    {r : Reader α} {x : α} {k : α → ClientM Ret} {w : Bytes} {queue buffer : Handle}
    {command : BufferCommand} {events : List Handle} {qp bp : Ptr}
    {onArray : ArrayStore.Command UInt8} {ps : List Ptr} {badAlloc others : Int32}
    (hh : ServerInstance.handler B ty = some h) (hu : u.head? = some ty.toByte)
    (hq : q.bufferCall = some (.enqueue qp bp onArray ps args.event))
    (hwant : q.wantEvent = args.event)
    (hperform : D.perform e (.enqueue qp bp onArray ps args.event) = (reply, e'))
    (hserve : ∀ Q, (ServerInstance.enqueue q >>= fun a =>
      if a.err ≠ CL_SUCCESS then ServerInstance.writeError a.err
      else ServerInstance.replyEvent q.wantEvent a.event >>= fun _ => tail a).wp D.environment
        (fun _ _ _ => False) t [] [] e Q → h.wp D.environment (fun _ _ _ => False) t [] u e Q)
    (htail : ∀ t o Q, (tail ⟨reply.err, reply.object, reply.data⟩).wp D.environment
      (fun _ _ _ => False) t o [] e' Q ↔ Q (.ok ()) t (o ++ PacketStream.frame ty' w) [] e')
    (hty : Ordinary ty') (hr : Reads r w x)
    (hk : ∀ s Q, Q (.ok (.code CL_SUCCESS)) (withData s data) [] [] () → Takes (k x) s [] Q)
    (hdata : reply.err = CL_SUCCESS →
      (BufferRequest.enqueue queue buffer command events args.event).readData reply = data)
    (hlinked : Linked handles objects s t e) (hcard : e'.objects.card ≤ 65536) :
    Settles D.environment (ServerInstance.serve B)
      (Final B ∅ (Reports handles objects s e'
        (.enqueue queue buffer command events args.event) reply))
      ⟨⟨catching badAlloc others
        (awaitEvent args >>= fun _ => PacketStream.read ty' r >>= k), s, []⟩,
        ⟨ServerInstance.serve B, t, []⟩, u, [], e⟩ := by
  have hperformed := D.performed e (.enqueue qp bp onArray ps args.event)
  rw [hperform] at hperformed
  refine settles_enqueued hh hu
    (fun b e₁ hb => BufferDriver.environment_enqueue hq hperform hb) hwant hserve htail hty hr hk
    ?_ ?_ ?_
  · intro herr
    cases hperformed with
    | refused _ hobjects => exact reports_error hlinked herr hobjects
    | accepted herr' => exact absurd herr' herr
  · intro herr hevent
    cases hperformed with
    | refused herr' => exact absurd herr herr'
    | accepted _ _ hobjects =>
      simp only [BufferCall.creates, hevent, Bool.false_eq_true, if_false] at hobjects
      have hdata' := hdata herr
      rw [hevent] at hdata' ⊢
      exact reports_plain hlinked herr hobjects hdata'
  · intro herr hevent
    cases hperformed with
    | refused herr' => exact absurd herr herr'
    | accepted _ hnew hobjects =>
      simp only [BufferCall.creates, hevent, if_true] at hobjects
      have hdata' := hdata herr
      rw [hobjects] at hcard
      obtain ⟨id, hid, hlen⟩ := hlinked.assignID_new hnew hcard
      rw [hevent] at hdata' ⊢
      exact ⟨id, _, hid, reports_event hlinked herr hobjects hid hlen hdata'⟩

variable (hz : SameFormat C.zlib B.zlib) (hz' : SameFormat B.zlib C.zlib)
variable (hlinked : Linked handles objects s t e) (hcard : e'.objects.card ≤ 65536)
include hlinked hcard

section Commands

variable {queue buffer : Handle} {events : List Handle} {event : Bool}
variable (hevents : events.length ≤ 255)
include hevents

include hz in
theorem settles_write {blocking : Bool} {offset size : UInt64} {ptr : Bytes}
    (hoffset : offset.toNat < 2 ^ 32) (hsize : size.toNat < 2 ^ 32)
    (hperform : D.perform e (((BufferRequest.enqueue queue buffer
      (.write blocking offset size ptr) events event).map fun k =>
        objectAt t.mObjects (GetID k)).call) = (reply, e')) :
    Settles D.environment (ServerInstance.serve B)
      (Final B ∅ (Reports handles objects s e'
        (.enqueue queue buffer (.write blocking offset size ptr) events event) reply))
      (start B (requestProgram C (.enqueue queue buffer (.write blocking offset size ptr) events
        event)) s t e) := by
  have hK := context_catching CL_OUT_OF_HOST_MEMORY CL_DEVICE_NOT_AVAILABLE
  have hids := eventIDs_waitArgs events event
  have hdata : (memRead ptr size.toNat).length < SizeT.range .uint32 := by
    rwa [length_memRead]
  rw [requestProgram, clEnqueueWriteBuffer, withEvents_waitArgs, start,
    settles_writeCommand stable_final hK, settles_client_write stable_final hK, awaitCommand,
    settles_client_flushes stable_final hK]
  refine settles_buffer (waitArgs events event) .writeBuffer (ServerInstance.writeBuffer B)
    (fun _ => ServerInstance.writeSuccess)
    ⟨objectAt t.mObjects (GetID queue), .clEnqueueWriteBuffer
      (objectAt t.mObjects (GetID buffer)) blocking offset.toUInt32.toNat (memRead ptr size.toNat),
      (events.map GetID).map (objectAt t.mObjects), event⟩
    none (x := (⟨⟩ : SuccessPacket)) rfl rfl rfl rfl ?_ (fun Q h => ?_)
    (fun _ _ _ => Iff.rfl) (by decide) (reads_dec _) (fun s Q h => h) (fun _ => rfl) hlinked hcard
  · rw [toNat_toUInt32 hoffset, List.map_map]
    exact hperform
  · rw [ServerInstance.writeBuffer, Prog.wp_bind, List.nil_append, List.nil_append,
      List.append_assoc, wp_readPacket (by decide) (reads_dec _), Prog.afterBind_ok,
      wp_readEvents hids hevents, wp_readPayloadPtr hz hdata]
    exact h

theorem settles_fill {pattern : Bytes} {pattern_size offset size : UInt64}
    (hpattern : pattern_size.toNat ≤ 128) (hoffset : offset.toNat < 2 ^ 32)
    (hsize : size.toNat < 2 ^ 32)
    (hperform : D.perform e (((BufferRequest.enqueue queue buffer
      (.fill pattern pattern_size offset size) events event).map fun k =>
        objectAt t.mObjects (GetID k)).call) = (reply, e')) :
    Settles D.environment (ServerInstance.serve B)
      (Final B ∅ (Reports handles objects s e'
        (.enqueue queue buffer (.fill pattern pattern_size offset size) events event) reply))
      (start B (requestProgram C (.enqueue queue buffer (.fill pattern pattern_size offset size)
        events event)) s t e) := by
  have hK := context_catching CL_OUT_OF_HOST_MEMORY CL_DEVICE_NOT_AVAILABLE
  have hids := eventIDs_waitArgs events event
  have hfits : ¬ 128 < pattern_size := by
    rw [UInt64.lt_iff_toNat_lt]
    exact not_lt.mpr hpattern
  rw [requestProgram, clEnqueueFillBuffer, withEvents_waitArgs, if_neg hfits, start,
    settles_writeCommand stable_final hK, awaitCommand, settles_client_flushes stable_final hK]
  refine settles_buffer (waitArgs events event) .fillBuffer ServerInstance.fillBuffer
    (fun _ => ServerInstance.writeSuccess)
    ⟨objectAt t.mObjects (GetID queue), .clEnqueueFillBuffer
      (objectAt t.mObjects (GetID buffer)) (memRead (Vector.ofFn fun i : Fin 128 =>
        (memRead pattern pattern_size.toNat).getD i 0).toList pattern_size.toUInt8.toNat)
      offset.toUInt32.toNat size.toUInt32.toNat,
      (events.map GetID).map (objectAt t.mObjects), event⟩
    none (x := (⟨⟩ : SuccessPacket)) rfl rfl rfl rfl ?_ (fun Q h => ?_)
    (fun _ _ _ => Iff.rfl) (by decide) (reads_dec _) (fun s Q h => h) (fun _ => rfl) hlinked hcard
  · rw [toNat_toUInt32 hoffset, toNat_toUInt32 hsize, memRead_pattern pattern hpattern,
      List.map_map]
    exact hperform
  · rw [ServerInstance.fillBuffer, Prog.wp_bind, List.nil_append, List.nil_append,
      wp_readPacket (by decide) (reads_dec _), Prog.afterBind_ok,
      ← List.append_nil (eventPacket _ _), wp_readEvents hids hevents]
    exact h

include hz' in
theorem settles_read {blocking : Bool} {offset size : UInt64}
    (hoffset : offset.toNat < 2 ^ 32) (hsize : size.toNat < 2 ^ 32)
    (hperform : D.perform e (((BufferRequest.enqueue queue buffer
      (.read blocking offset size) events event).map fun k =>
        objectAt t.mObjects (GetID k)).call) = (reply, e')) :
    Settles D.environment (ServerInstance.serve B)
      (Final B ∅ (Reports handles objects s e'
        (.enqueue queue buffer (.read blocking offset size) events event) reply))
      (start B (requestProgram C (.enqueue queue buffer (.read blocking offset size) events
        event)) s t e) := by
  have hK := context_catching CL_OUT_OF_HOST_MEMORY CL_DEVICE_NOT_AVAILABLE
  have hids := eventIDs_waitArgs events event
  have hread : Reads (decPayloadInto C.zlib .uint32) (encPayloadPtr B.zlib .uint32
      (storeInto (zeros size.toUInt32.toNat) reply.data))
      (storeInto (zeros size.toUInt32.toNat) reply.data) :=
    reads_payload hz' (by rw [length_storeInto, length_zeros]; exact UInt32.toNat_lt _)
      .payloadPtr .payloadInto
  have hlen : reply.err = CL_SUCCESS → reply.data.length = size.toUInt32.toNat := by
    intro herr
    have hperformed := D.performed e (((BufferRequest.enqueue queue buffer
      (.read blocking offset size) events event).map fun k =>
        objectAt t.mObjects (GetID k)).call)
    rw [hperform] at hperformed
    cases hperformed with
    | refused herr' => exact absurd herr herr'
    | accepted _ _ _ hdata =>
      rw [toNat_toUInt32 hsize]
      exact hdata _ _ _ _ _ _ rfl
  rw [requestProgram, clEnqueueReadBuffer, withEvents_waitArgs, start,
    settles_writeCommand stable_final hK, awaitRead, settles_client_flushes stable_final hK]
  refine settles_buffer (waitArgs events event) .readBuffer (ServerInstance.readBuffer B)
    (fun a => ServerInstance.writePayloadPtr B .uint32
      (storeInto (zeros size.toUInt32.toNat) a.data))
    ⟨objectAt t.mObjects (GetID queue), .clEnqueueReadBuffer
      (objectAt t.mObjects (GetID buffer)) true offset.toUInt32.toNat size.toUInt32.toNat,
      (events.map GetID).map (objectAt t.mObjects), event⟩
    (some (storeInto (zeros size.toUInt32.toNat) reply.data)) rfl rfl rfl rfl ?_
    (fun Q h => ?_) (fun _ _ _ => Iff.rfl) (by decide) hread (fun s Q h => h) (fun herr => ?_)
    hlinked hcard
  · rw [toNat_toUInt32 hoffset, toNat_toUInt32 hsize, List.map_map]
    exact hperform
  · rw [ServerInstance.readBuffer, Prog.wp_bind, List.nil_append, List.nil_append,
      wp_readPacket (by decide) (reads_dec _), Prog.afterBind_ok,
      ← List.append_nil (eventPacket _ _), wp_readEvents hids hevents]
    exact h
  · rw [storeInto_zeros (hlen herr)]
    exact if_pos herr

end Commands

/-- The reply to the creation of a buffer, and what the client makes of it. -/
theorem wp_replyCreated_reports (context : Handle) (flags size : UInt64)
    (host_ptr : Option Bytes) (errcode_ret : Bool) {c : BufferCall} (hc : c.creates = true)
    (hperform : D.perform e c = (reply, e')) :
    (ServerInstance.replyCreated ⟨reply.err, reply.object⟩).wp D.environment (fun _ _ _ => False)
      t [] [] e' fun r t' o u' e₁ => r = .ok () ∧ u' = [] ∧
        Takes (catchingError .memObject errcode_ret CL_DEVICE_NOT_AVAILABLE
          (awaitMemObject errcode_ret)) s o fun r' s' o' d' _ =>
            ∃ a, r' = .ok a ∧ o' = [] ∧ d' = [] ∧ Reports handles objects s e'
              (.clCreateBuffer context flags size host_ptr errcode_ret) reply a s' t' e₁ := by
  have hperformed := D.performed e c
  rw [hperform] at hperformed
  rw [ServerInstance.replyCreated]
  cases hperformed with
  | refused herr hobjects =>
    rw [if_pos herr]
    refine ⟨rfl, rfl, ?_⟩
    rw [Takes, wp_catchingError, awaitMemObject, Prog.wp_bind, wp_store, Prog.afterBind_ok,
      Prog.wp_bind]
    exact wp_readPacket_error.mpr ⟨_, rfl, rfl, rfl, reports_notCreated hlinked herr hobjects⟩
  | accepted herr hnew hobjects =>
    rw [if_pos hc] at hobjects
    rw [hobjects] at hcard
    obtain ⟨id, hid, hlen⟩ := hlinked.assignID_new hnew hcard
    rw [if_neg (not_not.mpr herr), ServerInstance.writeID, Prog.wp_bind, ServerInstance.wp_getIDFor,
      hid]
    refine ⟨rfl, rfl, ?_⟩
    rw [Takes, wp_catchingError, awaitMemObject, Prog.wp_bind, wp_store, Prog.afterBind_ok,
      Prog.wp_bind]
    refine (wp_readPacket_last (by decide) (reads_dec _)).mpr ?_
    rw [Prog.afterBind_ok, Prog.wp_bind, wp_getOrInsertObject, Prog.afterBind_ok,
      apply_getOrInsertObject (by rw [mObjects_stored, hlen]; exact hlinked.short)]
    exact ⟨_, rfl, rfl, rfl, reports_created hlinked herr hobjects hid hlen⟩

include hz in
theorem settles_create {context : Handle} {flags size : UInt64} {host_ptr : Option Bytes}
    {errcode_ret : Bool} (huse : flags &&& CL_MEM_USE_HOST_PTR = 0) (hflags : flags.toNat < 2 ^ 32)
    (hsize : size.toNat < 2 ^ 32)
    (hperform : D.perform e (((BufferRequest.clCreateBuffer context flags size host_ptr
      errcode_ret).map fun k => objectAt t.mObjects (GetID k)).call) = (reply, e')) :
    Settles D.environment (ServerInstance.serve B)
      (Final B ∅ (Reports handles objects s e'
        (.clCreateBuffer context flags size host_ptr errcode_ret) reply))
      (start B (requestProgram C (.clCreateBuffer context flags size host_ptr errcode_ret)) s t
        e) := by
  have hK := context_catchingError .memObject errcode_ret CL_DEVICE_NOT_AVAILABLE
  have hreply := wp_replyCreated_reports hlinked hcard context flags size host_ptr errcode_ret rfl
    hperform
  rw [requestProgram, clCreateBuffer, if_neg (not_not.mpr huse), start,
    settles_client_writePacket stable_final hK]
  cases host_ptr with
  | none =>
    show Settles _ _ _ ⟨⟨catchingError _ _ _ (PacketStream.flush >>= _), _, _⟩, _, _, _, _⟩
    rw [settles_client_flushes stable_final hK]
    refine settles_served .createBuffer rfl rfl ?_
    rw [ServerInstance.createBuffer, Prog.wp_bind, List.nil_append, List.nil_append,
      wp_readPacket_last (by decide) (reads_dec _), Prog.afterBind_ok, Prog.wp_bind,
      ServerInstance.wp_getObj, Prog.afterBind_ok]
    show (ServerInstance.create (.clCreateBuffer _ flags.toUInt32.toUInt64 size.toUInt32.toNat
      none) >>= ServerInstance.replyCreated).wp _ _ _ _ _ _ _
    rw [toUInt64_toUInt32 hflags, toNat_toUInt32 hsize, Prog.wp_bind, ServerInstance.wp_create]
    intro a e₁ ha
    obtain ⟨rfl, rfl⟩ := BufferDriver.environment_create hperform ha
    exact hreply
  | some ptr =>
    show Settles _ _ _ ⟨⟨catchingError _ _ _ (PacketStream.write _ _ >>= _), _, _⟩, _, _, _, _⟩
    rw [settles_client_write stable_final hK, settles_client_flushes stable_final hK]
    refine settles_served .createBuffer rfl rfl ?_
    rw [ServerInstance.createBuffer, Prog.wp_bind, List.nil_append, List.nil_append,
      wp_readPacket (by decide) (reads_dec _), Prog.afterBind_ok, Prog.wp_bind,
      ServerInstance.wp_getObj, Prog.afterBind_ok]
    have hdata : (memRead ptr size.toNat).length < SizeT.range .uint32 := by
      rwa [length_memRead]
    refine (wp_readPayloadPtr (k := fun payload => ServerInstance.create (.clCreateBuffer
      (objectAt t.mObjects (GetID context)) flags.toUInt32.toUInt64 size.toUInt32.toNat
      (some payload)) >>= ServerInstance.replyCreated) hz hdata).mpr ?_
    rw [toUInt64_toUInt32 hflags, toNat_toUInt32 hsize, Prog.wp_bind, ServerInstance.wp_create]
    intro a e₁ ha
    obtain ⟨rfl, rfl⟩ := BufferDriver.environment_create hperform ha
    exact hreply

end Calls

section Request

variable {ω : Type} {D : BufferDriver ω} {B : ServerBuild} {C : Build}
variable {handles : List Handle} {objects : List Ptr} {s : ClientState} {t : ServerState}
variable {e e' : BufferState ω} {reply : BufferReply}

theorem BufferRequest.fits_map {O O' : Type} (f : O → O') {r : BufferRequest O} (h : r.Fits) :
    (r.map f).Fits := by
  cases r with
  | clCreateBuffer => exact h
  | enqueue => exact ⟨h.1, (List.length_map f).trans_le h.2⟩

theorem BufferRequest.narrowFlags_map {O O' : Type} (f : O → O') {r : BufferRequest O}
    (h : r.NarrowFlags) : (r.map f).NarrowFlags := by
  cases r <;> exact h

/-- What is created, and what is seen, does not depend on the names. -/
theorem BufferRequest.created_map {O O' : Type} (f : O → O') (r : BufferRequest O)
    (reply : BufferReply) : (r.map f).created reply = r.created reply := by
  cases r <;> rfl

theorem BufferRequest.seen_map {O O' : Type} (f : O → O') (r : BufferRequest O)
    (reply : BufferReply) : (r.map f).seen reply = r.seen reply := by
  cases r with
  | clCreateBuffer => rfl
  | enqueue _ _ command => cases command <;> rfl

variable (hz : SameFormat C.zlib B.zlib) (hz' : SameFormat B.zlib C.zlib)
include hz hz'

/-- **A call** reports what the driver answers. -/
theorem settles_bufferRequest {r : BufferRequest Handle} (hfits : r.Fits) (hflags : r.NarrowFlags)
    (hperform : D.perform e ((r.map fun k => objectAt t.mObjects (GetID k)).call) = (reply, e'))
    (hlinked : Linked handles objects s t e) (hcard : e'.objects.card ≤ 65536) :
    Settles D.environment (ServerInstance.serve B)
      (Final B ∅ (Reports handles objects s e' r reply)) (start B (requestProgram C r) s t e) := by
  cases r with
  | clCreateBuffer => exact settles_create hz hlinked hcard hfits.1 hflags hfits.2 hperform
  | enqueue queue buffer command events event =>
    obtain ⟨hcommand, hevents⟩ := hfits
    cases command with
    | write => exact settles_write hz hlinked hcard hevents hcommand.1 hcommand.2 hperform
    | fill =>
      exact settles_fill hlinked hcard hevents hcommand.1 hcommand.2.1 hcommand.2.2 hperform
    | read => exact settles_read hz' hlinked hcard hevents hcommand.1 hcommand.2 hperform

end Request

end RemoteCL

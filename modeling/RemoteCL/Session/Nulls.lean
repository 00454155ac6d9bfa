import RemoteCL.Session.Agreement
import RemoteCL.Session.RawValues

/-!
# Null handles

A query for an object is answered with the object's ID, for which the client has a handle.  The
answer of the driver may be that there is no such object, and null has no ID.

For the buffer of an image the largest ID says so, which is also the ID of an object if there are
65536 of them.  For all other queries null is an object like any other: it gets a place in the table
of the server, and the client registers an object for it.  `null_kept_iff` says, for all tables that
a history leads to, when the application gets null for null and the handle of the object otherwise.
-/

namespace RemoteCL

open ByteStream Conversation Wire LawfulWire Client

/-! ## The queries -/

/-- A query for an object. -/
inductive HandleQuery where
  | memContext
  | memAssociated
  | imageBuffer
  | devicePlatform
  | deviceParent
  | queueContext
  | queueDevice
  | eventQueue
  | eventContext
  | programContext
  | kernelContext
  | kernelProgram
  deriving DecidableEq

namespace HandleQuery

def call (C : Build) (H : Host) (args : InfoArgs) (h : Handle) : HandleQuery → ClientM Ret
  | memContext => Client.clGetMemObjectInfo C (some h) CL_MEM_CONTEXT args
  | memAssociated => Client.clGetMemObjectInfo C (some h) CL_MEM_ASSOCIATED_MEMOBJECT args
  | imageBuffer => Client.clGetImageInfo C (some h) CL_IMAGE_BUFFER args
  | devicePlatform => Client.clGetDeviceInfo C H (some h) CL_DEVICE_PLATFORM args
  | deviceParent => Client.clGetDeviceInfo C H (some h) CL_DEVICE_PARENT_DEVICE args
  | queueContext => Client.clGetCommandQueueInfo C (some h) CL_QUEUE_CONTEXT args
  | queueDevice => Client.clGetCommandQueueInfo C (some h) CL_QUEUE_DEVICE args
  | eventQueue => Client.clGetEventInfo (some h) CL_EVENT_COMMAND_QUEUE args
  | eventContext => Client.clGetEventInfo (some h) CL_EVENT_CONTEXT args
  | programContext => Client.clGetProgramInfo C (some h) CL_PROGRAM_CONTEXT args
  | kernelContext => Client.clGetKernelInfo C (some h) CL_KERNEL_CONTEXT args
  | kernelProgram => Client.clGetKernelInfo C (some h) CL_KERNEL_PROGRAM args

/-- What the driver is asked about an object of its own. -/
def question (object : Ptr) : HandleQuery → InfoQuery
  | memContext => .clGetMemObjectInfo object CL_MEM_CONTEXT
  | memAssociated => .clGetMemObjectInfo object CL_MEM_ASSOCIATED_MEMOBJECT
  | imageBuffer => .clGetImageInfo object CL_IMAGE_BUFFER
  | devicePlatform => .clGetDeviceInfo object CL_DEVICE_PLATFORM
  | deviceParent => .clGetDeviceInfo object CL_DEVICE_PARENT_DEVICE
  | queueContext => .clGetCommandQueueInfo object CL_QUEUE_CONTEXT
  | queueDevice => .clGetCommandQueueInfo object CL_QUEUE_DEVICE
  | eventQueue => .clGetEventInfo object CL_EVENT_COMMAND_QUEUE
  | eventContext => .clGetEventInfo object CL_EVENT_CONTEXT
  | programContext => .clGetProgramInfo object CL_PROGRAM_CONTEXT
  | kernelContext => .clGetKernelInfo object CL_KERNEL_CONTEXT
  | kernelProgram => .clGetKernelInfo object CL_KERNEL_PROGRAM

/-- How the function resolves the ID of the answer. -/
def how : HandleQuery → Resolve
  | eventQueue | eventContext | programContext => .getObject
  | _ => .getOrInsertObject

/-- What kind of object it takes the answer for. -/
def kind : HandleQuery → Kind
  | memContext | queueContext | eventContext | programContext | kernelContext => .context
  | memAssociated | imageBuffer => .memObject
  | devicePlatform => .platformID
  | deviceParent | queueDevice => .deviceID
  | eventQueue => .queue
  | kernelProgram => .program

/-- What is replied for an object, with the table that is left; `none` when the search for an ID
does not end. -/
def reply (objects : List Ptr) (p : Ptr) (q : HandleQuery) : Option (IDType × List Ptr) :=
  if q = imageBuffer ∧ p = 0 then some (0xFFFF, objects) else assignID objects p

/-- The pointer that the application is given for an ID, if it is given one. -/
def passed (s : ClientState) (id : IDType) (q : HandleQuery) : List (Option Handle) :=
  if q = imageBuffer ∧ id = 0xFFFF then [none]
  else if q = eventQueue then []
  else
    match (q.how.apply s q.kind id).1 with
    | .object k => [some k]
    | _ => []

end HandleQuery

/-- From now on the driver answers the question with an object, or with null. -/
structure AnswersWith (D : Driver) (log : List Asked) (q : InfoQuery) (p : Ptr) : Prop where
  size : (D log (.info q 0)).err = CL_SUCCESS
  value : ∀ log', log <+: log' → D log' (.info q 8) = ⟨CL_SUCCESS, some 8, enc p⟩

/-- The pointers among what is stored as the answer to a query: handles, and null. -/
def ClientEvent.pointers : ClientEvent → List (Option Handle)
  | .store (.param_handles _ hs) => hs.filterMap fun
    | .object k => some (some k)
    | _ => none
  | .store (.param_value data) => if data = zeros 8 then [none] else []
  | _ => []

theorem ClientEvent.pointers_handle (kind : Kind) (r : Lookup) :
    (ClientEvent.store (.param_handles kind [r])).pointers =
      match r with
      | .object k => [some k]
      | _ => [] := by
  cases r <;> rfl

/-- The pointers that the application has got. -/
def pointersStored (s s' : ClientState) : List (Option Handle) :=
  (eventsSince s s').flatMap ClientEvent.pointers

/-- However the query is made, it succeeds, and the application gets null for null and the handle of
the object otherwise. -/
def KeepsNull (D : Driver) (B : ServerBuild) (C : Build) (H : Host) (s : ClientState)
    (t : ServerState) (log : List Asked) (h : Handle) (q : HandleQuery) (p : Ptr) : Prop :=
  ∀ args : InfoArgs, args.param_value = true → 8 ≤ args.param_value_size →
    Settles D.environment (ServerInstance.serve B)
      (Final B ∅ fun r s' t' _ => r = .code CL_SUCCESS ∧
        if p = 0 then pointersStored s s' = [none]
        else ∃ k, pointersStored s s' = [some k] ∧ (tables s' t').Tied p k)
      (start B (q.call C H args h) s t log)

/-- The client has an object for the ID, or it makes one. -/
def HandleQuery.Finds (s : ClientState) (id : IDType) (q : HandleQuery) : Prop :=
  (∃ k, lookupAt s.mObjects id = .object k) ∨
    q.how = .getOrInsertObject ∧ s.mObjects.length ≤ id.toNat

/-- Null is kept for the buffer of an image.  An object is kept if it has an ID, which for the
buffer of an image is not the largest one, and the client finds an object under it.  Of the queue of
an event only four bytes are copied. -/
def HandleQuery.Keeps (s : ClientState) (t : ServerState) (p : Ptr) (q : HandleQuery) : Prop :=
  if p = 0 then q = imageBuffer
  else q ≠ eventQueue ∧ ∃ id objects, assignID t.mObjects p = some (id, objects) ∧
    ¬(q = imageBuffer ∧ id = 0xFFFF) ∧ q.Finds s id

/-! ## What the client does -/

namespace HandleQuery

variable {q : HandleQuery} {s : ClientState} {id : IDType}

theorem passed_sentinel : passed s 0xFFFF imageBuffer = [none] := rfl

theorem passed_of_ne (hq : q ≠ imageBuffer) (hq' : q ≠ eventQueue) :
    passed s id q = match (q.how.apply s q.kind id).1 with
      | .object k => [some k]
      | _ => [] := by
  rw [passed, if_neg fun h => hq h.1, if_neg hq']

/-- An object is found if the client has one or makes one. -/
theorem finds_iff (q : HandleQuery) :
    q.Finds s id ↔ ∃ k, (q.how.apply s q.kind id).1 = .object k := by
  have hhow : q.how ≠ .registerID := by cases q <;> decide
  rcases q.how.apply_cases s q.kind id with ⟨-, hr, -, hlt⟩ | ⟨hget, hr, -, hle⟩
  · rw [hr]
    exact or_iff_left fun h => absurd h.2 (not_le.mpr (hlt h.1))
  · have hinsert : q.how = .getOrInsertObject := by
      cases hq : q.how with
      | getObject => exact absurd hq hget
      | registerID => exact absurd hq hhow
      | getOrInsertObject => rfl
    rw [hr]
    exact iff_of_true (Or.inr ⟨hinsert, hle hinsert⟩) ⟨_, rfl⟩

/-- A handle is passed if it is the one that is looked up. -/
theorem passed_eq_some_iff {k : Handle} :
    passed s id q = [some k] ↔ q ≠ eventQueue ∧ ¬(q = imageBuffer ∧ id = 0xFFFF) ∧
      (q.how.apply s q.kind id).1 = .object k := by
  rw [passed]
  by_cases hnull : q = imageBuffer ∧ id = 0xFFFF
  · rw [if_pos hnull]
    simp [hnull]
  · rw [if_neg hnull]
    by_cases hqueue : q = eventQueue
    · rw [if_pos hqueue]
      simp [hqueue]
    · rw [if_neg hqueue]
      cases (q.how.apply s q.kind id).1 <;> simp [hnull, hqueue]

/-- Null is passed for one ID only. -/
theorem passed_eq_null_iff : passed s id q = [none] ↔ q = imageBuffer ∧ id = 0xFFFF := by
  rw [passed]
  by_cases hnull : q = imageBuffer ∧ id = 0xFFFF
  · rw [if_pos hnull]
    exact iff_of_true rfl hnull
  · rw [if_neg hnull]
    refine iff_of_false ?_ hnull
    split
    · exact List.cons_ne_nil _ _ ∘ Eq.symm
    · split <;> simp

end HandleQuery

/-- What the client has done about an ID: it has passed a pointer on, and has looked the ID up
unless it stands for null. -/
structure Takes (q : HandleQuery) (s : ClientState) (id : IDType) (s' : ClientState) : Prop where
  pointers : pointersStored s s' = q.passed s id
  resolved : ¬(q = .imageBuffer ∧ id = 0xFFFF) → s'.core = (q.how.apply s q.kind id).2.core

section Taking

variable {s : ClientState} {args : InfoArgs} {id : IDType} {q : HandleQuery}

theorem core_stored (s : ClientState) (pointer : Bool) (x : Store) :
    (s.stored pointer x).core = s.core := by
  cases pointer
  · rfl
  · exact ClientState.core_note_store s x

/-- A handle is looked up and stored, and then its size. -/
theorem takes_object (hq : q ≠ .imageBuffer ∨ id ≠ 0xFFFF) (hqueue : q ≠ .eventQueue) (b : Bool) :
    Takes q s id (((q.how.apply s q.kind id).2.stored true
      (.param_handles q.kind [(q.how.apply s q.kind id).1])).stored b
        (.param_value_size_ret 8)) where
  pointers := by
    have hnew := (((Extends.refl s).apply q.how q.kind id).stored true
      (.param_handles q.kind [(q.how.apply s q.kind id).1])).stored b (.param_value_size_ret 8)
    rw [pointersStored, hnew.eventsSince, HandleQuery.passed,
      if_neg (not_and_or.mpr hq), if_neg hqueue]
    cases b <;> cases (q.how.apply s q.kind id).1 <;> rfl
  resolved := by
    intro _
    rw [core_stored, core_stored]

/-- The size is stored first. -/
theorem takes_context (hhow : q.how = .getObject) (hq : q ≠ .imageBuffer) (hqueue : q ≠ .eventQueue)
    (b : Bool) :
    Takes q s id (((Resolve.getObject.apply s q.kind id).2.stored b
      (.param_value_size_ret 8)).stored true
        (.param_handles q.kind [(Resolve.getObject.apply s q.kind id).1])) where
  pointers := by
    have hnew := (((Extends.refl s).apply .getObject q.kind id).stored b
      (.param_value_size_ret 8)).stored true
        (.param_handles q.kind [(Resolve.getObject.apply s q.kind id).1])
    rw [pointersStored, hnew.eventsSince, HandleQuery.passed_of_ne hq hqueue, hhow]
    cases b <;> cases (Resolve.getObject.apply s q.kind id).1 <;> rfl
  resolved := by
    intro _
    rw [core_stored, core_stored, hhow]

/-- The size is stored before the ID is looked up. -/
theorem takes_stored (hhow : q.how = .getObject) (b : Bool) {x : Store}
    (hx : (ClientEvent.store x).pointers = q.passed s id) :
    Takes q s id (((Resolve.getObject.apply (s.stored b (.param_value_size_ret 8)) q.kind
      id).2).stored true x) where
  pointers := by
    have hnew := (((Extends.refl s).stored b (.param_value_size_ret 8)).apply .getObject q.kind
      id).stored true x
    rw [pointersStored, hnew.eventsSince, ← hx]
    cases b <;> simp [ClientEvent.pointers]
  resolved := by
    intro _
    have hcore (s : ClientState) : (Resolve.getObject.apply s q.kind id).2.core =
        (Resolve.getObject.apply s.core q.kind id).2 := by rw [Resolve.core_apply]
    rw [core_stored, hhow, hcore, core_stored, ← hcore]

/-- A null pointer is stored. -/
theorem takes_null (b : Bool) : Takes .imageBuffer s 0xFFFF
    ((s.stored true (.param_value (zeros 8))).stored b (.param_value_size_ret 8)) where
  pointers := by
    have hnew := ((Extends.refl s).stored true (.param_value (zeros 8))).stored b
      (.param_value_size_ret 8)
    rw [pointersStored, hnew.eventsSince, HandleQuery.passed_sentinel]
    cases b <;> rfl
  resolved := fun h => absurd ⟨rfl, rfl⟩ h

end Taking

/-! ## What becomes of the queries -/

namespace ServerInstance

variable {δ : Type} {E : δ → (c : ServerCall) → Ans c → δ → Prop}
variable {H : ServerState → Bytes → Bytes → Prop} {t : ServerState} {o u : Bytes} {e : δ}

theorem wp_writeID {p : Ptr} {Q : Except Exn Unit → ServerState → Bytes → Bytes → δ → Prop}
    (hsome : ∀ id mObjects, assignID t.mObjects p = some (id, mObjects) →
      Q (.ok ()) { t with mObjects } (o ++ packet (⟨id⟩ : IDPacket)) u e)
    (hnone : assignID t.mObjects p = none → H t o u) : (writeID p).wp E H t o u e Q := by
  rw [writeID, Prog.wp_bind, wp_getIDFor]
  cases hid : assignID t.mObjects p with
  | none => exact hnone hid
  | some a => exact hsome a.1 a.2 hid

end ServerInstance

section Calls

variable {D : Driver} {B : ServerBuild} {C : Build} {H : Host} {s : ClientState} {t : ServerState}
variable {log : List Asked} {h : Handle} {q : HandleQuery} {p : Ptr}

/-- What the handler does to its table and sends. -/
def Sends (q : HandleQuery) (t : ServerState) (p : Ptr) (r : Except Exn Unit) (t' : ServerState)
    (o u : Bytes) : Prop :=
  r = .ok () ∧ u = [] ∧ ∃ id mObjects, q.reply t.mObjects p = some (id, mObjects) ∧
    t' = { t with mObjects } ∧ o = packet (⟨id⟩ : IDPacket)

/-- The search for an ID does not end. -/
def Searches (q : HandleQuery) (t : ServerState) (p : Ptr) (t' : ServerState) (o u : Bytes) :
    Prop :=
  t' = t ∧ o = [] ∧ u = [] ∧ q.reply t.mObjects p = none

theorem wp_writeID_of_reply (hq : q.reply t.mObjects p = assignID t.mObjects p) :
    (ServerInstance.writeID p).wp D.environment (Searches q t p) t [] [] log
      fun r t' o u _ => Sends q t p r t' o u :=
  ServerInstance.wp_writeID
    (fun id mObjects hid => ⟨rfl, rfl, id, mObjects, hq.trans hid, rfl, rfl⟩)
    fun hnone => ⟨rfl, rfl, rfl, hq.trans hnone⟩

/-- The answer is an object, or null. -/
theorem wp_replyObject (hp : AnswersWith D log (q.question (objectAt t.mObjects (GetID h))) p)
    (hq : q.reply t.mObjects p = assignID t.mObjects p) :
    (ServerInstance.replyObject (q.question (objectAt t.mObjects (GetID h)))).wp D.environment
      (Searches q t p) t [] [] log fun r t' o u _ => Sends q t p r t' o u := by
  have hword := wordAt_storeInto_enc p
  rw [ServerInstance.replyObject, Prog.wp_bind, ServerInstance.wp_info]
  rintro a e' ⟨rfl, rfl⟩
  rw [Prog.afterBind_ok, hp.value log (List.prefix_refl log), if_neg (not_not.mpr rfl), hword]
  exact wp_writeID_of_reply hq

/-- What the function does with the ID. -/
def TakesID (q : HandleQuery) (s : ClientState) (k : IDPacket → ClientM Ret) : Prop :=
  ∀ id, (k ⟨id⟩).wp noEnv (fun _ _ _ => False) s [] [] () fun r s' o u _ =>
    r = .ok (.code CL_SUCCESS) ∧ o = [] ∧ u = [] ∧ Takes q s id s'

variable {args : InfoArgs}

theorem takesID_object (hroom : 8 ≤ args.param_value_size) (hq : q ≠ .imageBuffer)
    (hqueue : q ≠ .eventQueue) : TakesID q s fun id =>
      resolve q.how q.kind id.mData >>= fun object => storeHandle args q.kind object >>= fun _ =>
        pure (.code CL_SUCCESS) := by
  intro id
  simp only [storeHandle, decide_eq_true hroom, Prog.wp_bind, wp_resolve, wp_store,
    Prog.afterBind_ok]
  exact ⟨rfl, rfl, rfl, takes_object (Or.inl hq) hqueue _⟩

theorem takesID_image (hroom : 8 ≤ args.param_value_size) :
    TakesID .imageBuffer s fun result =>
      (if result.mData ≠ 0xFFFF then getOrInsertObject .memObject result.mData >>= fun object =>
          storeHandle args .memObject object >>= fun _ => pure (.code CL_SUCCESS)
        else storeValue args (zeros 8) >>= fun _ => pure (.code CL_SUCCESS)) := by
  intro id
  by_cases hid : id = 0xFFFF
  · subst hid
    simp only [ne_eq, not_true, if_false, storeValue, length_zeros, decide_eq_true hroom,
      Prog.wp_bind, wp_store, Prog.afterBind_ok]
    exact ⟨rfl, rfl, rfl, takes_null _⟩
  · simp only [ne_eq, hid, not_false_iff, if_true, getOrInsertObject, storeHandle,
      decide_eq_true hroom, Prog.wp_bind, wp_resolve, wp_store, Prog.afterBind_ok]
    exact ⟨rfl, rfl, rfl, takes_object (q := .imageBuffer) (Or.inr hid) (by decide) _⟩

theorem takesID_context (hvalue : args.param_value = true) (hroom : 8 ≤ args.param_value_size)
    (hhow : q.how = .getObject) (hq : q ≠ .imageBuffer) (hqueue : q ≠ .eventQueue) :
    TakesID q s fun id => getObject q.kind id.mData >>= fun context =>
      store args.param_value_size_ret (.param_value_size_ret 8) >>= fun _ =>
        store (args.param_value && decide (8 ≤ args.param_value_size))
          (.param_handles q.kind [context]) >>= fun _ => pure (.code CL_SUCCESS) := by
  intro id
  simp only [hvalue, decide_eq_true hroom, Bool.and_self, Prog.wp_bind, wp_getObject, wp_store,
    Prog.afterBind_ok]
  exact ⟨rfl, rfl, rfl, takes_context hhow hq hqueue _⟩

theorem takesID_event (hvalue : args.param_value = true) (hroom : 8 ≤ args.param_value_size)
    (hhow : q.how = .getObject) (x : Lookup → Store)
    (hx : ∀ id, (ClientEvent.store (x (Resolve.getObject.apply s q.kind id).1)).pointers =
      q.passed s id) :
    TakesID q s fun id =>
      store args.param_value_size_ret (.param_value_size_ret 8) >>= fun _ =>
        if args.param_value && decide (8 ≤ args.param_value_size) then
          getObject q.kind id.mData >>= fun object =>
            store true (x object) >>= fun _ => pure (.code CL_SUCCESS)
        else pure (.code CL_SUCCESS) := by
  intro id
  simp only [hvalue, decide_eq_true hroom, Bool.and_self, if_true, Prog.wp_bind, wp_getObject,
    wp_store, Prog.afterBind_ok]
  refine ⟨rfl, rfl, rfl, takes_stored hhow _ ?_⟩
  have hlookup : (Resolve.getObject.apply (s.stored args.param_value_size_ret
      (.param_value_size_ret 8)) q.kind id).1 = (Resolve.getObject.apply s q.kind id).1 := by
    cases args.param_value_size_ret <;> rfl
  rw [hlookup]
  exact hx id

/-- **The two sides of a query** for an object. -/
theorem HandleQuery.exists_serving {F : CallConfig (List Asked) → Prop}
    (hF : Stable D.environment (ServerInstance.serve B) F) (hvalue : args.param_value = true)
    (hroom : 8 ≤ args.param_value_size) (q : HandleQuery)
    (hp : AnswersWith D log (q.question (objectAt t.mObjects (GetID h))) p) :
    ∃ badAlloc k m log',
      (Settles D.environment (ServerInstance.serve B) F (start B (q.call C H args h) s t log) ↔
        Settles D.environment (ServerInstance.serve B) F
          ⟨⟨catching badAlloc CL_DEVICE_NOT_AVAILABLE (PacketStream.readPacket IDPacket >>= k), s,
            []⟩, ⟨ServerInstance.iteration (m >>= fun _ => pure true), t, []⟩, [], [], log'⟩) ∧
      TakesID q s k ∧
      m.wp D.environment (Searches q t p) t [] [] log' fun r t' o u _ => Sends q t p r t' o u := by
  cases q with
  | memContext | memAssociated | devicePlatform | deviceParent | queueContext | queueDevice
  | kernelContext | kernelProgram =>
    refine ⟨CL_OUT_OF_HOST_MEMORY, _, _, _, ?_, takesID_object hroom (by decide) (by decide),
      wp_replyObject hp rfl⟩
    exact (settles_asks hF (by decide) rfl).trans (settles_server_get hF context_handler)
  | imageBuffer =>
    have hanswer :
        D log (.info (.clGetImageInfo (objectAt t.mObjects (GetID h)) CL_IMAGE_BUFFER) 8) =
        ⟨CL_SUCCESS, some 8, enc p⟩ := hp.value log (List.prefix_refl log)
    refine ⟨CL_OUT_OF_HOST_MEMORY, _, _, _, (settles_asks hF (by decide) rfl).trans
      (settles_server_get hF context_handler), takesID_image hroom, ?_⟩
    dsimp only
    rw [if_pos rfl, Prog.wp_bind, ServerInstance.wp_info]
    rintro a e' ⟨rfl, rfl⟩
    rw [Prog.afterBind_ok, hanswer, if_neg (not_not.mpr rfl)]
    dsimp only
    rw [wordAt_storeInto_enc]
    by_cases hnull : p = 0
    · rw [if_neg (not_not.mpr hnull)]
      exact ⟨rfl, rfl, 0xFFFF, t.mObjects, if_pos ⟨rfl, hnull⟩, rfl, rfl⟩
    · rw [if_pos hnull]
      exact wp_writeID_of_reply (if_neg fun h => hnull h.2)
  | eventQueue =>
    have hanswer : D log (.info (.clGetEventInfo (objectAt t.mObjects (GetID h))
        CL_EVENT_COMMAND_QUEUE) 8) = ⟨CL_SUCCESS, some 8, enc p⟩ :=
      hp.value log (List.prefix_refl log)
    refine ⟨CL_DEVICE_NOT_AVAILABLE, _, _, _, (settles_asks hF (by decide) rfl).trans
      (settles_server_get hF context_handler), ?_, ?_⟩
    · exact takesID_event hvalue hroom rfl (.param_handle_bytes .queue 4 ·) fun _ => rfl
    · dsimp only
      rw [Prog.wp_bind, ServerInstance.wp_info]
      rintro a e' ⟨rfl, rfl⟩
      rw [Prog.afterBind_ok, hanswer, if_neg (not_not.mpr rfl)]
      dsimp only
      rw [if_pos (Or.inr rfl), wordAt_storeInto_enc]
      exact wp_writeID_of_reply rfl
  | eventContext =>
    have hanswer : D log (.info (.clGetEventInfo (objectAt t.mObjects (GetID h))
        CL_EVENT_CONTEXT) 8) = ⟨CL_SUCCESS, some 8, enc p⟩ := hp.value log (List.prefix_refl log)
    refine ⟨CL_DEVICE_NOT_AVAILABLE, _, _, _, (settles_asks hF (by decide) rfl).trans
      (settles_server_get hF context_handler), ?_, ?_⟩
    · refine takesID_event hvalue hroom rfl (fun r => .param_handles .context [r]) fun id => ?_
      rw [HandleQuery.passed_of_ne (by decide) (by decide)]
      exact ClientEvent.pointers_handle _ _
    · dsimp only
      rw [Prog.wp_bind, ServerInstance.wp_info]
      rintro a e' ⟨rfl, rfl⟩
      rw [Prog.afterBind_ok, hanswer, if_neg (not_not.mpr rfl)]
      dsimp only
      rw [if_pos (Or.inl rfl), wordAt_storeInto_enc]
      exact wp_writeID_of_reply rfl
  | programContext =>
    have hsize : (D log (.info (.clGetProgramInfo (objectAt t.mObjects (GetID h))
        CL_PROGRAM_CONTEXT) 0)).err = CL_SUCCESS := hp.size
    have hanswer (log' : List Asked) (hlog : log <+: log') : D log' (.info (.clGetProgramInfo
        (objectAt t.mObjects (GetID h)) CL_PROGRAM_CONTEXT) 8) = ⟨CL_SUCCESS, some 8, enc p⟩ :=
      hp.value log' hlog
    refine ⟨CL_OUT_OF_HOST_MEMORY, _, _, _, (settles_asks hF (by decide) rfl).trans
      (settles_server_get hF context_handler), takesID_context hvalue hroom rfl (by decide)
        (by decide), ?_⟩
    dsimp only
    rw [Prog.wp_bind, ServerInstance.wp_info]
    rintro a e' ⟨rfl, rfl⟩
    rw [Prog.afterBind_ok, if_neg (not_not.mpr hsize), if_pos rfl, Prog.wp_bind,
      ServerInstance.wp_info]
    rintro a e' ⟨rfl, rfl⟩
    rw [Prog.afterBind_ok, hanswer _ (List.prefix_append log _), wordAt_storeInto_enc]
    exact wp_writeID_of_reply rfl

/-- **What becomes of a query**: the server replies with an ID, which the client resolves, or it
searches for one for ever. -/
theorem HandleQuery.settles_of {F : CallConfig (List Asked) → Prop}
    (hF : Stable D.environment (ServerInstance.serve B) F) (hvalue : args.param_value = true)
    (hroom : 8 ≤ args.param_value_size) (q : HandleQuery)
    (hp : AnswersWith D log (q.question (objectAt t.mObjects (GetID h))) p)
    (hspin : q.reply t.mObjects p = none → ∀ k log',
      Settles D.environment (ServerInstance.serve B) F
        ⟨⟨.read 1 k, s, []⟩, ⟨.spin, t, []⟩, [], [], log'⟩)
    (hreply : ∀ id mObjects, q.reply t.mObjects p = some (id, mObjects) → ∀ s', Takes q s id s' →
      ∀ log', Settles D.environment (ServerInstance.serve B) F ⟨⟨.ret (.code CL_SUCCESS), s', []⟩,
        ⟨ServerInstance.serve B, { t with mObjects }, []⟩, [], [], log'⟩) :
    Settles D.environment (ServerInstance.serve B) F (start B (q.call C H args h) s t log) := by
  obtain ⟨badAlloc, k, m, log', hstart, hk, hm⟩ :=
    q.exists_serving (C := C) (H := H) (s := s) hF hvalue hroom hp
  have hK := context_catching badAlloc CL_DEVICE_NOT_AVAILABLE
  rw [hstart]
  refine settles_server_wp hF context_handler (fun t' o u log'' hsearch => ?_)
    (Prog.wp_mono ?_ hm)
  · obtain ⟨rfl, rfl, rfl, hnone⟩ := hsearch
    obtain ⟨j, hread, -⟩ := exists_read_catching badAlloc CL_DEVICE_NOT_AVAILABLE
      (Packet.mType IDPacket) dec k
    rw [PacketStream.readPacket, hread]
    exact hspin hnone j log''
  · rintro r t' o u log'' ⟨rfl, rfl, id, mObjects, hid, rfl, rfl⟩
    refine (settles_handles hF).mpr ?_
    rw [List.nil_append, ← List.append_nil (packet _)]
    refine (settles_client_meets_packet hF hK (by decide)).mpr ?_
    refine settles_client_wp hF hK (H := fun _ _ _ => False) (fun _ _ _ h => h.elim)
      (Prog.wp_mono ?_ (hk id))
    rintro r s' o u - ⟨rfl, rfl, rfl, hs'⟩
    exact hreply id mObjects hid s' hs' log''

/-- A handle that the client passes on is the one of the object. -/
theorem Takes.tied {R : Registry} (hT : (tables s t).Represents R) (hs : s.Sound)
    {id : IDType} {mObjects : List Ptr} (hid : assignID t.mObjects p = some (id, mObjects))
    {s' : ClientState} (hs' : Takes q s id s') {k : Handle} (hk : q.passed s id = [some k]) :
    (tables s' { t with mObjects }).Tied p k := by
  obtain ⟨-, hnull, hobject⟩ := HandleQuery.passed_eq_some_iff.mp hk
  have hcore := q.how.core_apply s q.kind id
  have hname : Naming.apply ⟨p, some (q.how, q.kind)⟩ (tables s t) =
      some (tables s' { t with mObjects }) := by
    rw [Naming.apply, tables, hid, Option.map_some, tables, hs'.resolved hnull]
    exact congrArg (fun c => some (⟨mObjects, c.2⟩ : Tables)) hcore
  have hfound : (⟨p, q.how, q.kind, id, (q.how.apply s.core q.kind id).1⟩ : Found) ∈
      Naming.found ⟨p, some (q.how, q.kind)⟩ (tables s t) := by
    rw [Naming.found, tables, hid]
    rfl
  refine Tables.tied_of_found hT (ClientState.sound_core.mpr hs) hname hfound ?_
  rw [hcore]
  exact hobject

theorem HandleQuery.Keeps.keepsNull {R : Registry} (hT : (tables s t).Represents R) (hs : s.Sound)
    (hp : AnswersWith D log (q.question (objectAt t.mObjects (GetID h))) p) (hq : q.Keeps s t p) :
    KeepsNull D B C H s t log h q p := by
  intro args hvalue hroom
  rw [HandleQuery.Keeps] at hq
  by_cases hnull : p = 0
  · rw [if_pos hnull] at hq
    have hreply : q.reply t.mObjects p = some (0xFFFF, t.mObjects) := if_pos ⟨hq, hnull⟩
    refine q.settles_of stable_final hvalue hroom hp (fun hnone => ?_) ?_
    · rw [hreply] at hnone
      cases hnone
    · intro id mObjects hid s' hs' log'
      rw [hreply, Option.some.injEq, Prod.mk.injEq] at hid
      obtain ⟨rfl, rfl⟩ := hid
      refine .final (Or.inl ⟨_, _, _, _, ⟨rfl, ?_⟩, rfl⟩)
      rw [if_pos hnull, hs'.pointers, hq]
      exact HandleQuery.passed_sentinel
  · rw [if_neg hnull] at hq
    obtain ⟨hqueue, id, mObjects, hid, hsentinel, hfinds⟩ := hq
    obtain ⟨k, hk⟩ := q.finds_iff.mp hfinds
    have hpassed := HandleQuery.passed_eq_some_iff.mpr ⟨hqueue, hsentinel, hk⟩
    have hreply : q.reply t.mObjects p = assignID t.mObjects p := if_neg fun h => hnull h.2
    refine q.settles_of stable_final hvalue hroom hp (fun hnone => ?_) ?_
    · rw [hreply, hid] at hnone
      cases hnone
    · intro id' mObjects' hid' s' hs' log'
      rw [hreply, hid, Option.some.injEq, Prod.mk.injEq] at hid'
      obtain ⟨rfl, rfl⟩ := hid'
      refine .final (Or.inl ⟨_, _, _, _, ⟨rfl, ?_⟩, rfl⟩)
      rw [if_neg hnull]
      exact ⟨k, hs'.pointers.trans hpassed, hs'.tied hT hs hid hpassed⟩

theorem HandleQuery.Keeps.of_keepsNull
    (hp : AnswersWith D log (q.question (objectAt t.mObjects (GetID h))) p)
    (hkeeps : KeepsNull D B C H s t log h q p) : q.Keeps s t p := by
  have hquery := hkeeps ⟨8, true, false⟩ rfl le_rfl
  cases hreply : q.reply t.mObjects p with
  | none =>
    refine (not_settles_of_spins hquery fun F hF hspin => ?_).elim
    refine q.settles_of hF rfl le_rfl hp (fun _ k log' => .final (hspin k s t log')) ?_
    intro id mObjects hid
    rw [hreply] at hid
    cases hid
  | some a =>
    obtain ⟨id, mObjects⟩ := a
    have hreturned : Settles D.environment (ServerInstance.serve B)
        (Returned fun _ s' => pointersStored s s' = q.passed s id)
        (start B (q.call C H ⟨8, true, false⟩ h) s t log) := by
      refine q.settles_of stable_returned rfl le_rfl hp (fun hnone => ?_) ?_
      · rw [hreply] at hnone
        cases hnone
      · intro id' mObjects' hid s' hs' log'
        rw [hreply, Option.some.injEq, Prod.mk.injEq] at hid
        obtain ⟨rfl, rfl⟩ := hid
        exact .final ⟨_, rfl, hs'.pointers⟩
    have hfinishes := hquery.mono (G := Finishes .socketError fun _ s' =>
      if p = 0 then pointersStored s s' = [none] else ∃ k, pointersStored s s' = [some k]) ?_
    · obtain ⟨r, s', hkept, hpassed⟩ := hfinishes.of_finishes D.answers hreturned
      rw [hpassed] at hkept
      rw [HandleQuery.Keeps]
      by_cases hnull : p = 0
      · rw [if_pos hnull] at hkept ⊢
        exact (HandleQuery.passed_eq_null_iff.mp hkept).1
      · rw [if_neg hnull] at hkept ⊢
        obtain ⟨k, hk⟩ := hkept
        obtain ⟨hqueue, hsentinel, hobject⟩ := HandleQuery.passed_eq_some_iff.mp hk
        rw [HandleQuery.reply, if_neg fun h => hnull h.2] at hreply
        exact ⟨hqueue, id, mObjects, hreply, hsentinel, q.finds_iff.mpr ⟨k, hobject⟩⟩
    · intro x hx
      obtain ⟨r, s', t', e, ⟨-, hkept⟩, rfl⟩ := (final_empty x).mp hx
      refine Or.inl ⟨r, rfl, ?_⟩
      by_cases hnull : p = 0
      · rwa [if_pos hnull] at hkept ⊢
      · rw [if_neg hnull] at hkept ⊢
        obtain ⟨k, hk, -⟩ := hkept
        exact ⟨k, hk⟩

/-- **When null stays null**, after any history of the connection: for the buffer of an image only.
An object stays what it is if it has an ID that does not stand for null, and the client has not
passed over this ID before. -/
theorem null_kept_iff {I : Interface (List Asked)} {xs : List (Exchange I)} {s₀ : ClientState}
    {t₀ : ServerState} (hran : Ran D.environment s₀ t₀ [] xs s t log) (hs : s₀.mObjects = [])
    (ht : t₀.mObjects = [])
    (hp : AnswersWith D log (q.question (objectAt t.mObjects (GetID h))) p) :
    KeepsNull D B C H s t log h q p ↔ q.Keeps s t p :=
  ⟨.of_keepsNull hp, fun hq => hq.keepsNull (hran.represents hs ht) (hran.sound hs).1 hp⟩

end Calls

/-! ### A device and its parent -/

/-- A driver with one device, and an object that it is a part of. -/
def deviceOf (parent : Ptr) : Driver
  | _, .clGetDeviceIDs _ _ _ => ⟨CL_SUCCESS, some 1, [66]⟩
  | _, .info _ _ => ⟨CL_SUCCESS, some 8, enc parent⟩
  | _, c => refuse c

/-- A driver with one device, which is not a part of another one. -/
def wholeDevice : Driver := deviceOf 0

/-- What it is asked by `clGetDeviceIDs`. -/
def wholeDeviceLog : List Asked :=
  [⟨.clGetDeviceIDs 0 0xFFFFFFFF 0, ⟨CL_SUCCESS, some 1, [66]⟩⟩,
    ⟨.clGetDeviceIDs 0 0xFFFFFFFF 1, ⟨CL_SUCCESS, some 1, [66]⟩⟩]

/-- The client when the application has asked for the devices. -/
def wholeDeviceClient : ClientState :=
  ⟨[some ⟨⟨0, 0, .deviceID⟩, []⟩], 1, [], false,
    [.lookup .deviceID 0 (.object ⟨0, 0, .deviceID⟩),
      .store (.entries .deviceID [.object ⟨0, 0, .deviceID⟩])]⟩

theorem ran_deviceOf (parent : Ptr) : ∃ x : Exchange (apiCalls plainBuild (List Asked)),
    Ran (deviceOf parent).environment ⟨[], 0, [], false, []⟩ ⟨[], none⟩ [] [x] wholeDeviceClient
      ⟨[66], none⟩ wholeDeviceLog := by
  have hlog : Asks (deviceOf parent).environment [] wholeDeviceLog wholeDeviceLog :=
    .cons ⟨rfl, rfl⟩ (.cons ⟨rfl, rfl⟩ .nil)
  have hnew : Extends ⟨[], 0, [], false, []⟩ wholeDeviceClient wholeDeviceClient.trace := rfl
  have hreceived : Received false (.code CL_SUCCESS) wholeDeviceClient.trace := by
    refine ⟨fun x hx => ?_, fun _ => by decide⟩
    have hhandle : x ∈ [(Kind.deviceID, Lookup.object ⟨0, 0, .deviceID⟩)] := hx
    rw [List.mem_singleton] at hhandle
    rw [hhandle]
    exact ⟨0, List.mem_cons_self⟩
  let c : (apiCalls plainBuild (List Asked)).Call :=
    ⟨.clGetDeviceIDs none 0xFFFFFFFF 1 true false, fun h => by cases h⟩
  exact ⟨_, Ran.nil.snoc c hlog (by decide) hnew hreceived⟩

theorem answersWith_deviceOf (parent : Ptr) (log : List Asked) (q : InfoQuery) :
    AnswersWith (deviceOf parent) log q parent :=
  ⟨rfl, fun _ _ => rfl⟩

/-- The parent of a device arrives. -/
theorem null_kept_iff_parent :
    ∃ x : Exchange (apiCalls plainBuild (List Asked)),
      Ran (deviceOf 67).environment ⟨[], 0, [], false, []⟩ ⟨[], none⟩ [] [x] wholeDeviceClient
        ⟨[66], none⟩ wholeDeviceLog ∧
      KeepsNull (deviceOf 67) ⟨plainBuild, 210⟩ plainBuild .wide wholeDeviceClient ⟨[66], none⟩
        wholeDeviceLog ⟨0, 0, .deviceID⟩ .deviceParent 67 := by
  obtain ⟨x, hx⟩ := ran_deviceOf 67
  refine ⟨x, hx, (null_kept_iff hx rfl rfl (answersWith_deviceOf 67 _ _)).mpr ?_⟩
  rw [HandleQuery.Keeps, if_neg (by decide)]
  exact ⟨by decide, 1, [66, 67], by decide, by decide, Or.inr ⟨rfl, le_rfl⟩⟩

/-- The application is given a handle for the parent of a device that has none. -/
theorem null_parent_given :
    ∃ x : Exchange (apiCalls plainBuild (List Asked)),
      Ran wholeDevice.environment ⟨[], 0, [], false, []⟩ ⟨[], none⟩ [] [x] wholeDeviceClient
        ⟨[66], none⟩ wholeDeviceLog ∧
      ¬ KeepsNull wholeDevice ⟨plainBuild, 210⟩ plainBuild .wide wholeDeviceClient ⟨[66], none⟩
        wholeDeviceLog ⟨0, 0, .deviceID⟩ .deviceParent 0 := by
  obtain ⟨x, hx⟩ := ran_deviceOf 0
  refine ⟨x, hx, fun h => ?_⟩
  have hkeeps := HandleQuery.Keeps.of_keepsNull (answersWith_deviceOf 0 _ _) h
  rw [HandleQuery.Keeps, if_pos rfl] at hkeeps
  exact absurd hkeeps (by decide)

end RemoteCL

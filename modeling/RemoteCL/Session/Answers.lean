import RemoteCL.Server.Program
import RemoteCL.Session.Tables
import RemoteCL.Theory.Duplex

/-!
# What the driver's answers mean for the tables

`named` lists the objects of an answer that the server puts into its reply, as IDs, and `useOf`
says how the client resolves them if it resolves them.  Both can be read off the question and the
answer, so that a whole call is described by the questions it asked (`Asks`).

`Legal` is what is expected of the driver for a conversation to go on in step: what it answers
fits into the fields that carry it, and the objects it names belong to a given set.  Any call may
fail, with any code, and may name any of the objects.
-/

namespace RemoteCL

open ByteStream Client Conversation

/-! ## Objects in answers -/

/-- The object that a query for an object stores in a variable set to zero. -/
def objectWord (data : Bytes) : Ptr := wordAt (storeInto (zeros 8) data)

/-- An object-valued answer. -/
def namedOne (a : InfoAns) : List Ptr := if a.err = CL_SUCCESS then [objectWord a.data] else []

/-- The objects named by the answer to a query with a buffer of `n` bytes.  The second query of
`getProgramInfo` is not checked for errors. -/
def namedByInfo (q : InfoQuery) (n : ℕ) (a : InfoAns) : List Ptr :=
  match q with
  | .clGetDeviceInfo _ p =>
    if p = CL_DEVICE_PLATFORM ∨ p = CL_DEVICE_PARENT_DEVICE then namedOne a else []
  | .clGetCommandQueueInfo _ p =>
    if p = CL_QUEUE_CONTEXT ∨ p = CL_QUEUE_DEVICE then namedOne a else []
  | .clGetMemObjectInfo _ p =>
    if p = CL_MEM_CONTEXT ∨ p = CL_MEM_ASSOCIATED_MEMOBJECT then namedOne a else []
  | .clGetKernelInfo _ p =>
    if p = CL_KERNEL_CONTEXT ∨ p = CL_KERNEL_PROGRAM then namedOne a else []
  | .clGetEventInfo _ p =>
    if p = CL_EVENT_CONTEXT ∨ p = CL_EVENT_COMMAND_QUEUE then namedOne a else []
  | .clGetImageInfo _ p =>
    if p = CL_IMAGE_BUFFER then (namedOne a).filter fun parent => parent ≠ 0 else []
  | .clGetProgramInfo _ p =>
    if p = CL_PROGRAM_CONTEXT then (if n = 0 then [] else [objectWord a.data])
    else if p = CL_PROGRAM_DEVICES then
      words (n / 8) (storeInto (zeros (8 * (n / 8))) a.data)
    else []
  | .clGetContextInfo _ p =>
    if p = CL_CONTEXT_DEVICES ∧ a.err = CL_SUCCESS then
      words (a.size.getD 0 / 8) (storeInto (zeros n) a.data)
    else []
  | _ => []

/-- The kernels of a program, as many as are reported. -/
def createdKernels (num_kernels : UInt32) (a : ObjectsAns) : List Ptr :=
  (storeInto (List.replicate num_kernels.toNat 0) a.objects).take (a.count.getD 0) ++
    List.replicate (a.count.getD 0 - num_kernels.toNat) 0

/-- The objects that the reply to a request names, if this was the last question. -/
def named : (c : ServerCall) → Ans c → List Ptr
  | .clGetPlatformIDs n, a => storeInto (List.replicate n 0) a.objects
  | .clGetDeviceIDs _ _ n, a =>
    if a.err = CL_SUCCESS then storeInto (List.replicate n 0) a.objects else []
  | .clCreateKernelsInProgram _ n, a =>
    if a.err = CL_SUCCESS ∧ n ≠ 0 then createdKernels n a else []
  | .info q n, a => namedByInfo q n a
  | .create _, a => if a.err = CL_SUCCESS then [a.object] else []
  | .clCreateProgramWithBinary _ _ _, a => if a.err = CL_SUCCESS then [a.object] else []
  | .enqueue q, a => if a.err = CL_SUCCESS ∧ q.wantEvent then [a.event] else []
  | _, _ => []

/-! ## Resolving them -/

/-- The kind of a new object, and how its ID is resolved. -/
def useOfCreate : CreateCall → Resolve × Kind
  | .clCreateContext _ _ | .clCreateContextFromType _ _ => (.registerID, .context)
  | .clCreateCommandQueue _ _ _ | .clCreateCommandQueueWithProperties _ _ _ =>
    (.registerID, .queue)
  | .clCreateProgramWithSource _ _ | .clLinkProgram _ _ _ _ => (.registerID, .program)
  | .clCreateKernel _ _ | .clCloneKernel _ => (.registerID, .kernel)
  | .clCreateBuffer _ _ _ _ | .clCreateSubBuffer _ _ _ _ _ | .clCreateImage _ _ _ _ _ =>
    (.getOrInsertObject, .memObject)
  | .clCreateUserEvent _ => (.registerID, .event)

/-- The kind of the objects that a query names, and how their IDs are resolved. -/
def useOfInfo : InfoQuery → Option (Resolve × Kind)
  | .clGetDeviceInfo _ p =>
    if p = CL_DEVICE_PLATFORM then some (.getOrInsertObject, .platformID)
    else if p = CL_DEVICE_PARENT_DEVICE then some (.getOrInsertObject, .deviceID)
    else none
  | .clGetCommandQueueInfo _ p =>
    if p = CL_QUEUE_CONTEXT then some (.getOrInsertObject, .context)
    else if p = CL_QUEUE_DEVICE then some (.getOrInsertObject, .deviceID)
    else none
  | .clGetMemObjectInfo _ p =>
    if p = CL_MEM_CONTEXT then some (.getOrInsertObject, .context)
    else if p = CL_MEM_ASSOCIATED_MEMOBJECT then some (.getOrInsertObject, .memObject)
    else none
  | .clGetKernelInfo _ p =>
    if p = CL_KERNEL_CONTEXT then some (.getOrInsertObject, .context)
    else if p = CL_KERNEL_PROGRAM then some (.getOrInsertObject, .program)
    else none
  | .clGetEventInfo _ p =>
    if p = CL_EVENT_COMMAND_QUEUE then some (.getObject, .queue)
    else if p = CL_EVENT_CONTEXT then some (.getObject, .context)
    else none
  | .clGetImageInfo _ p =>
    if p = CL_IMAGE_BUFFER then some (.getOrInsertObject, .memObject) else none
  | .clGetProgramInfo _ p =>
    if p = CL_PROGRAM_CONTEXT then some (.getObject, .context)
    else if p = CL_PROGRAM_DEVICES then some (.getObject, .deviceID)
    else none
  | .clGetContextInfo _ p =>
    if p = CL_CONTEXT_DEVICES then some (.getOrInsertObject, .deviceID) else none
  | _ => none

/-- How the objects that are named in an answer are resolved. -/
def useOf : ServerCall → Option (Resolve × Kind)
  | .clGetPlatformIDs _ => some (.getOrInsertObject, .platformID)
  | .clGetDeviceIDs _ _ _ => some (.getOrInsertObject, .deviceID)
  | .clCreateKernelsInProgram _ _ => some (.registerID, .kernel)
  | .info q _ => useOfInfo q
  | .create q => some (useOfCreate q)
  | .clCreateProgramWithBinary _ _ _ => some (.registerID, .program)
  | .enqueue _ => some (.registerID, .event)
  | _ => none

/-! ## Runs of questions -/

/-- A question and its answer. -/
abbrev Asked := Σ c : ServerCall, Ans c

/-- The environment was asked these questions, and gave these answers. -/
inductive Asks {δ : Type} (E : δ → (c : ServerCall) → Ans c → δ → Prop) :
    δ → List Asked → δ → Prop
  | nil {e} : Asks E e [] e
  | cons {e c a e₁ log e'} (h : E e c a e₁) (hlog : Asks E e₁ log e') :
      Asks E e (⟨c, a⟩ :: log) e'

/-- The IDs of the objects, in the table of a server. -/
def idsIn (objects ps : List Ptr) : List IDType := ((assignIDs objects ps).map Prod.fst).getD []

/-- The namings of a call that resolves the first `takes ids` of the IDs in its reply. -/
def namingsOf (takes : List IDType → ℕ) (objects : List Ptr) (log : List Asked) : List Naming :=
  match log.getLast? with
  | some ⟨c, a⟩ => namings (useOf c) (takes (idsIn objects (named c a))) (named c a)
  | none => []

/-! ## Legal answers -/

/-- The largest answer that the reply to a query has room for. -/
def infoLimit : InfoQuery → ℕ
  | .clGetPlatformInfo _ _ => 255
  | .clGetCommandQueueInfo _ _ => 255
  | .clGetMemObjectInfo _ _ => 255
  | .clGetImageInfo _ _ => 255
  | .clGetContextInfo _ _ => 255
  | .clGetProgramInfo _ p =>
    if p = CL_PROGRAM_DEVICES ∨ p = CL_PROGRAM_BINARIES then 8 * 255 else 2 ^ 32 - 1
  | _ => 2 ^ 32 - 1

/-- What is expected of particular queries.  A query for the devices of a context fails when there
is not enough room for them.  The binaries of a program fit into their payloads. -/
def InfoLegal (q : InfoQuery) (n : ℕ) (a : InfoAns) : Prop :=
  match q with
  | .clGetContextInfo _ p => p = CL_CONTEXT_DEVICES → a.err = CL_SUCCESS → a.size.getD 0 ≤ n
  | .clGetProgramInfo _ p => p = CL_PROGRAM_BINARY_SIZES → a.err = CL_SUCCESS →
      ∀ w ∈ words (n / 8) (storeInto (zeros n) a.data), w.toNat ≤ 65535
  | _ => True

/-- The question does not ask for a longer list than a reply has room for. -/
def Brief : ServerCall → Prop
  | .clGetPlatformIDs n => n ≤ 255
  | .clGetDeviceIDs _ _ n => n ≤ 255
  | .info _ n => n ≤ 8 * 255
  | _ => True

/-- What is expected of an answer. -/
structure Legal (A : Set Ptr) (c : ServerCall) (a : Ans c) : Prop where
  /-- The objects that are named are among those of `A`. -/
  mem : ∀ p ∈ named c a, p ∈ A
  /-- A list of IDs has room for them. -/
  length : Brief c → (named c a).length ≤ 255
  /-- The sizes that are reported fit into the replies. -/
  fits : match c, a with
    | .clGetPlatformIDs _, a => ∀ k, a.count = some k → k ≤ 255
    | .clGetDeviceIDs _ _ _, a => ∀ k, a.count = some k → k ≤ 255
    | .info q n, a => (∀ k, a.size = some k → k ≤ infoLimit q) ∧ InfoLegal q n a
    | .clGetSupportedImageFormats _ _ _ _, a => ∀ k, a.size = some k → 8 * k ≤ 65535
    | _, _ => True

/-- All answers are legal. -/
def AllLegal {δ : Type} (A : Set Ptr) (E : δ → (c : ServerCall) → Ans c → δ → Prop) : Prop :=
  ∀ e c a e', E e c a e' → Legal A c a

/-- The events of commands are among the objects of `A`. -/
def EventsIn {δ : Type} (A : Set Ptr) (E : δ → (c : ServerCall) → Ans c → δ → Prop) : Prop :=
  ∀ e q a e', E e (.enqueue q) a e' → ∀ p ∈ named (.enqueue q) a, p ∈ A

theorem AllLegal.eventsIn {δ : Type} {A : Set Ptr} {E : δ → (c : ServerCall) → Ans c → δ → Prop}
    (hE : AllLegal A E) : EventsIn A E :=
  fun _ _ _ _ ha => (hE _ _ _ _ ha).mem

/-! ## A driver that refuses everything -/

theorem leValue_zeros (n : ℕ) : leValue (zeros n) = 0 := by
  induction n with
  | zero => rfl
  | succ n ih =>
    rw [zeros, List.replicate_succ]
    simp only [leValue]
    rw [zeros] at ih
    rw [ih]
    rfl

/-- Words without a bit. -/
theorem mem_words_zeros {k n : ℕ} {w : UInt64} (h : w ∈ words k (zeros n)) : w = 0 := by
  induction k generalizing n with
  | zero => exact absurd h List.not_mem_nil
  | succ k ih =>
    rcases List.mem_cons.mp h with rfl | h
    · rw [wordAt, zeros, List.take_replicate, ← zeros, leValue_zeros]
      rfl
    · rw [zeros, List.drop_replicate] at h
      exact ih h

/-- The answer of a driver that refuses everything. -/
def refuse : (c : ServerCall) → Ans c
  | .clGetPlatformIDs _ => ⟨CL_INVALID_OPERATION, none, []⟩
  | .clGetDeviceIDs _ _ _ => ⟨CL_INVALID_OPERATION, none, []⟩
  | .clCreateKernelsInProgram _ _ => ⟨CL_INVALID_OPERATION, none, []⟩
  | .clGetSupportedImageFormats _ _ _ _ => ⟨CL_INVALID_OPERATION, none, []⟩
  | .info _ _ => ⟨CL_INVALID_OPERATION, none, []⟩
  | .programBinaries _ _ => ⟨CL_INVALID_OPERATION, none, []⟩
  | .create _ => ⟨CL_INVALID_OPERATION, 0⟩
  | .clCreateProgramWithBinary _ _ _ => ⟨CL_INVALID_OPERATION, 0, []⟩
  | .status _ => CL_INVALID_OPERATION
  | .enqueue _ => ⟨CL_INVALID_OPERATION, 0, []⟩
  | .rand => (0 : ℕ)
  | .listen _ => .socketError
  | .accept => .socketError

/-- Where an error goes unnoticed, null pointers are named. -/
theorem named_refuse (c : ServerCall) : ∀ p ∈ named c (refuse c), p = 0 := by
  have herr : ¬ CL_INVALID_OPERATION = CL_SUCCESS := by decide
  cases c with
  | clGetPlatformIDs n =>
    intro p hp
    have h : p ∈ List.replicate n (0 : Ptr) := by simpa [named, refuse, storeInto] using hp
    exact List.eq_of_mem_replicate h
  | info q n =>
    intro p hp
    cases q with
    | clGetProgramInfo program param =>
      simp only [named, refuse, namedByInfo] at hp
      split at hp
      · split at hp
        · exact absurd hp List.not_mem_nil
        · rw [List.mem_singleton.mp hp]
          rfl
      · split at hp
        · exact mem_words_zeros (by simpa [storeInto] using hp)
        · exact absurd hp List.not_mem_nil
    | _ => simp [named, refuse, namedByInfo, namedOne, herr] at hp
  | _ => simp [named, refuse, herr]

theorem length_named_refuse {c : ServerCall} (hbrief : Brief c) :
    (named c (refuse c)).length ≤ 255 := by
  have herr : ¬ CL_INVALID_OPERATION = CL_SUCCESS := by decide
  cases c with
  | clGetPlatformIDs n =>
    rw [named, length_storeInto, List.length_replicate]
    exact hbrief
  | info q n =>
    have hn : n ≤ 8 * 255 := hbrief
    cases q with
    | clGetProgramInfo program param =>
      simp only [named, refuse, namedByInfo]
      split
      · split <;> simp
      · split
        · rw [length_words]
          omega
        · simp
    | _ => simp [named, refuse, namedByInfo, namedOne, herr]
  | _ => simp [named, refuse, herr]

/-- It is a legal answer. -/
theorem legal_refuse (c : ServerCall) : Legal {0} c (refuse c) where
  mem := named_refuse c
  length := length_named_refuse
  fits := by
    have herr : ¬ CL_INVALID_OPERATION = CL_SUCCESS := by decide
    cases c with
    | info q n =>
      refine ⟨(fun _ h => nomatch h), ?_⟩
      cases q with
      | clGetContextInfo => exact fun _ h => absurd h herr
      | clGetProgramInfo => exact fun _ h => absurd h herr
      | _ => trivial
    | clGetPlatformIDs => exact fun _ h => nomatch h
    | clGetDeviceIDs => exact fun _ h => nomatch h
    | clGetSupportedImageFormats => exact fun _ h => nomatch h
    | _ => trivial

/-- A driver that answers everything, in every legal way. -/
abbrev AnyLegal (A : Set Ptr) : Unit → (c : ServerCall) → Ans c → Unit → Prop :=
  fun _ c a _ => Legal A c a

theorem answers_anyLegal : Answers (AnyLegal {0}) := fun _ c => ⟨refuse c, (), legal_refuse c⟩

end RemoteCL

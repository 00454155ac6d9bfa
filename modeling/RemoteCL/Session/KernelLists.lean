import RemoteCL.Session.Guesses
import RemoteCL.Session.ProgramOptions
import RemoteCL.Session.Resolution
import RemoteCL.Theory.ArrayStore

/-!
# The kernels of a program

`clCreateKernelsInProgram` creates all the kernels of a program.  The server makes IDs of what the
driver has created, and the client handles of the IDs, which it stores one after the other in an
array of the application.  For each of them it adds one to the count that the application has, and
this is not set to zero first.

`KernelMemory` is what the application has there.  `kernels_reported_iff` says when the array and
the count are right after a successful call.
-/

namespace RemoteCL

open ByteStream Conversation Wire LawfulWire Client

/-! ## The application's memory -/

/-- The array for the kernels, and the count. -/
structure KernelMemory where
  kernels : ℕ → Lookup
  num_kernels_ret : UInt32

namespace ClientEvent

/-- The kernel that is stored. -/
def kernelStored : ClientEvent → Option Lookup
  | .store (.next_entry _ h) => some h
  | _ => none

/-- The count after an event. -/
def counted (count : UInt32) : ClientEvent → UInt32
  | .store (.count n) => UInt32.ofNat n
  | .store (.count_add n) => count + UInt32.ofNat n
  | _ => count

end ClientEvent

/-- The memory after some events. -/
def KernelMemory.after (m : KernelMemory) (events : List ClientEvent) : KernelMemory where
  kernels :=
    (ArrayStore.Cursor.putAll ⟨m.kernels, 0⟩ (events.filterMap ClientEvent.kernelStored)).entries
  num_kernels_ret := events.foldl ClientEvent.counted m.num_kernels_ret

/-! ## Storing kernels -/

namespace Client

variable {num_kernels_ret : Bool} {s : ClientState} {ids : List IDType}

/-- The handles of kernels that are registered one after the other, of which the first is the object
with the number `made`. -/
def kernelHandles (made : ℕ) : List IDType → List Lookup
  | [] => []
  | id :: ids => .object ⟨made, id, .kernel⟩ :: kernelHandles (made + 1) ids

@[simp] theorem length_kernelHandles (made : ℕ) (ids : List IDType) :
    (kernelHandles made ids).length = ids.length := by
  induction ids generalizing made with
  | nil => rfl
  | cons id ids ih => rw [kernelHandles, List.length_cons, List.length_cons, ih]

theorem getElem_kernelHandles {made : ℕ} {ids : List IDType} {i : ℕ} (hi : i < ids.length)
    (hlen : i < (kernelHandles made ids).length) :
    (kernelHandles made ids)[i] = .object ⟨made + i, ids[i], .kernel⟩ := by
  induction ids generalizing made i with
  | nil => exact absurd hi (Nat.not_lt_zero i)
  | cons id ids ih =>
    cases i with
    | zero => rfl
    | succ i =>
      have hnext : made + (i + 1) = made + 1 + i := (Nat.add_right_comm made 1 i).symm
      rw [hnext]
      exact ih (Nat.lt_of_succ_lt_succ hi) _

@[simp] theorem made_storedKernel (id : IDType) :
    (storedKernel num_kernels_ret s id).made = s.made + 1 := by
  cases num_kernels_ret <;> rfl

theorem holds_storedKernel {id : IDType} {i : ℕ} {o : CLObject} :
    (storedKernel num_kernels_ret s id).Holds i o ↔
      if i = id.toNat then o = s.newObject .kernel id else s.Holds i o := by
  rw [← ClientState.holds_register]
  cases num_kernels_ret <;> exact Iff.rfl

/-- The events of storing one kernel. -/
def kernelEvents (num_kernels_ret : Bool) (s : ClientState) (id : IDType) : List ClientEvent :=
  let kernel := Lookup.object (s.newHandle .kernel id)
  [.lookup .kernel id kernel, .store (.next_entry .kernel kernel)] ++
    if num_kernels_ret then [.store (.count_add 1)] else []

theorem extends_storedKernel (id : IDType) :
    Extends s (storedKernel num_kernels_ret s id) (kernelEvents num_kernels_ret s id) :=
  (((Extends.refl s).apply .registerID .kernel id).stored true _).stored num_kernels_ret _

theorem filterMap_kernelEvents (id : IDType) :
    (kernelEvents num_kernels_ret s id).filterMap ClientEvent.kernelStored =
      [.object (s.newHandle .kernel id)] := by
  cases num_kernels_ret <;> rfl

theorem foldl_kernelEvents (id : IDType) (count : UInt32) :
    (kernelEvents num_kernels_ret s id).foldl ClientEvent.counted count =
      if num_kernels_ret then count + 1 else count := by
  cases num_kernels_ret <;> rfl

variable (num_kernels_ret s ids) in
/-- **What the loop does**: it stores the handles in their order, and counts one for each. -/
theorem extends_storedKernels :
    ∃ new, Extends s (storedKernels num_kernels_ret s ids) new ∧
      new.filterMap ClientEvent.kernelStored = kernelHandles s.made ids ∧
      ∀ count, new.foldl ClientEvent.counted count =
        if num_kernels_ret then count + UInt32.ofNat ids.length else count := by
  induction ids generalizing s with
  | nil =>
    refine ⟨[], .refl s, rfl, fun count => ?_⟩
    cases num_kernels_ret <;> simp
  | cons id ids ih =>
    obtain ⟨new, hnew, hhandles, hcount⟩ := ih (storedKernel num_kernels_ret s id)
    refine ⟨kernelEvents num_kernels_ret s id ++ new, ?_, ?_, fun count => ?_⟩
    · rw [Extends, ← List.append_assoc, ← extends_storedKernel id]
      exact hnew
    · rw [List.filterMap_append, filterMap_kernelEvents, hhandles, made_storedKernel]
      rfl
    · rw [List.foldl_append, foldl_kernelEvents, hcount]
      cases num_kernels_ret with
      | false => rfl
      | true =>
        have hone : UInt32.ofNat (ids.length + 1) = UInt32.ofNat ids.length + 1 :=
          UInt32.ofNat_add _ _
        rw [if_pos rfl, if_pos rfl, if_pos rfl, List.length_cons, hone, UInt32.add_assoc,
          UInt32.add_comm 1]

/-- The memory after it. -/
theorem after_storedKernels (m : KernelMemory) :
    m.after (eventsSince s (storedKernels num_kernels_ret s ids)) =
      ⟨(ArrayStore.Cursor.putAll ⟨m.kernels, 0⟩ (kernelHandles s.made ids)).entries,
        if num_kernels_ret then m.num_kernels_ret + UInt32.ofNat ids.length
        else m.num_kernels_ret⟩ := by
  obtain ⟨new, hnew, hhandles, hcount⟩ := extends_storedKernels num_kernels_ret s ids
  rw [hnew.eventsSince, KernelMemory.after, hhandles, hcount]

/-- The memory after the number of the kernels has been stored. -/
theorem after_stored_count (m : KernelMemory) (n : ℕ) :
    m.after (eventsSince s (s.stored num_kernels_ret (.count n))) =
      ⟨m.kernels, if num_kernels_ret then UInt32.ofNat n else m.num_kernels_ret⟩ := by
  have hstored := (Extends.refl s).stored num_kernels_ret (.count n)
  rw [hstored.eventsSince]
  cases num_kernels_ret <;> rfl

/-- An object that is in the table stays there, as long as its ID is not registered anew. -/
theorem holds_storedKernels_of_not_mem {i : ℕ} {o : CLObject} (hi : ∀ id ∈ ids, i ≠ id.toNat)
    (h : s.Holds i o) : (storedKernels num_kernels_ret s ids).Holds i o := by
  induction ids generalizing s with
  | nil => exact h
  | cons id ids ih =>
    rw [List.forall_mem_cons] at hi
    exact ih hi.2 (holds_storedKernel.mpr (by rwa [if_neg hi.1]))

/-- **The handles that are stored are those of objects in the table**, as no ID occurs twice. -/
theorem holds_storedKernels (hids : ids.Nodup) {i : ℕ} (hi : i < ids.length) :
    (storedKernels num_kernels_ret s ids).Holds ids[i].toNat
      ⟨⟨s.made + i, ids[i], .kernel⟩, []⟩ := by
  induction ids generalizing s i with
  | nil => exact absurd hi (Nat.not_lt_zero i)
  | cons id ids ih =>
    obtain ⟨hnew, hids⟩ := List.nodup_cons.mp hids
    cases i with
    | zero =>
      have hother : ∀ id' ∈ ids, id.toNat ≠ id'.toNat := by
        intro id' hid' heq
        rw [UInt16.toNat_inj] at heq
        exact hnew (heq ▸ hid')
      have hset : (storedKernel num_kernels_ret s id).Holds id.toNat (s.newObject .kernel id) := by
        rw [holds_storedKernel, if_pos rfl]
      have hkept : (storedKernels num_kernels_ret (storedKernel num_kernels_ret s id) ids).Holds
          id.toNat (s.newObject .kernel id) := holds_storedKernels_of_not_mem hother hset
      exact hkept
    | succ i =>
      have hrest := ih (s := storedKernel num_kernels_ret s id) hids (Nat.lt_of_succ_lt_succ hi)
      rw [made_storedKernel, Nat.add_right_comm] at hrest
      exact hrest

end Client

/-! ## What a call does -/

section Calls

variable {D : Driver} {B : ServerBuild} {s s' : ClientState} {t t' : ServerState}
variable {log log' : List Asked} {program : Handle} {num_kernels : UInt32}
variable {kernels num_kernels_ret : Bool} {ps : List Ptr}

/-- What OpenCL specifies for a program with some kernels: their number is stored, and if they are
asked for there must be room for them, and they are stored as well. -/
def CreatesKernels (D : Driver) (log : List Asked) (program : Ptr) (ps : List Ptr) : Prop :=
  ∀ num_kernels : UInt32,
    let a := D log (.clCreateKernelsInProgram program num_kernels)
    a.err = CL_SUCCESS →
      a.count = some ps.length ∧
        (num_kernels ≠ 0 → ps.length ≤ num_kernels.toNat ∧ a.objects = ps)

/-- What a successful call has done: it has stored the number of the kernels, or it has registered
and stored all of them. -/
def KernelsDone (num_kernels : UInt32) (num_kernels_ret : Bool) (ps : List Ptr) (s : ClientState)
    (t : ServerState) (r : Ret) (s' : ClientState) (t' : ServerState) : Prop :=
  r = .code CL_SUCCESS →
    (num_kernels = 0 ∧ s' = s.stored num_kernels_ret (.count (UInt32.ofNat ps.length).toNat)) ∨
      (num_kernels ≠ 0 ∧ ∃ ids, assignIDs t.mObjects ps = some (ids, t'.mObjects) ∧
        s' = storedKernels num_kernels_ret s ids)

/-- The kernels that the server takes from the driver's buffer are those that the driver created. -/
theorem createdKernels_eq {a : ObjectsAns} (hcount : a.count = some ps.length)
    (hroom : ps.length ≤ num_kernels.toNat) (hobjects : a.objects = ps) :
    createdKernels num_kernels a = ps := by
  have hnone : ps.length - num_kernels.toNat = 0 := Nat.sub_eq_zero_of_le hroom
  rw [createdKernels, hobjects, hcount, Option.getD_some, hnone, List.replicate_zero,
    List.append_nil, storeInto, List.length_replicate, List.take_of_length_le hroom, List.take_left]

/-- An error is replied, and returned. -/
theorem wp_createKernels_refused {X : Type} [Packet X] [Wire X] {k : X → ClientM Ret} {err : Int32}
    (herr : err ≠ CL_SUCCESS) :
    (ServerInstance.writeError err).wp D.environment (Full True) t [] [] log fun r t' o u' _ =>
      r = .ok () ∧ u' = [] ∧
        (catching CL_OUT_OF_HOST_MEMORY CL_DEVICE_NOT_AVAILABLE
          (PacketStream.readPacket X >>= k)).wp noEnv (fun _ _ _ => False) s [] o ()
            fun r' s' o' d' _ => ∃ a, r' = .ok a ∧ o' = [] ∧ d' = [] ∧
              KernelsDone num_kernels num_kernels_ret ps s t a s' t' := by
  rw [ServerInstance.wp_writeError]
  refine ⟨rfl, rfl, ?_⟩
  rw [List.nil_append, wp_catching, Prog.wp_bind, wp_readPacket_error]
  exact ⟨_, rfl, rfl, rfl, fun h => absurd (Ret.code.inj h) herr⟩

/-- Only their number is asked for. -/
theorem ends_countKernels
    (hD : CreatesKernels D log (objectAt t.mObjects (GetID program)) ps) (hnum : num_kernels = 0) :
    Settles D.environment (ServerInstance.serve B)
      (Ended B (fun r s' t' _ => KernelsDone num_kernels num_kernels_ret ps s t r s' t') True)
      (start B (clCreateKernelsInProgram (some program) num_kernels kernels num_kernels_ret) s t
        log) := by
  have hK := context_catching CL_OUT_OF_HOST_MEMORY CL_DEVICE_NOT_AVAILABLE
  rw [clCreateKernelsInProgram]
  split
  · exact .final (Or.inl ⟨_, _, _, _, fun h => absurd h (by decide), rfl⟩)
  split
  · exact .final (Or.inl ⟨_, _, _, _, fun h => absurd h (by decide), rfl⟩)
  refine (settles_sends stable_ended hK).mpr ?_
  refine settles_serves (h := ServerInstance.createKernels) .createKernels rfl rfl
    (waits_readPacket hK _ _ _) ?_
  rw [ServerInstance.createKernels, Prog.wp_bind, wp_readPacket_last (by decide) (reads_dec _)]
  simp only [Prog.afterBind_ok, Prog.wp_bind, ServerInstance.wp_getObj, Prog.wp_ask]
  rintro a _ ⟨rfl, rfl⟩
  by_cases herr : (D log (.clCreateKernelsInProgram (objectAt t.mObjects (GetID program))
      num_kernels)).err = CL_SUCCESS
  · rw [if_neg (not_not.mpr herr), if_pos hnum, (hD num_kernels herr).1,
      ServerInstance.wp_writeValue]
    refine ⟨rfl, rfl, ?_⟩
    rw [List.nil_append, wp_catching, Prog.wp_bind, wp_readPacket_last (by decide) (reads_dec _)]
    simp only [Prog.afterBind_ok, Prog.wp_bind, wp_store]
    exact ⟨_, rfl, rfl, rfl, fun _ => Or.inl ⟨hnum, rfl⟩⟩
  · rw [if_pos herr]
    exact wp_createKernels_refused herr

/-- The kernels are asked for. -/
theorem ends_listKernels
    (hD : CreatesKernels D log (objectAt t.mObjects (GetID program)) ps) (hps : ps.length ≤ 255)
    (hnum : num_kernels ≠ 0) :
    Settles D.environment (ServerInstance.serve B)
      (Ended B (fun r s' t' _ => KernelsDone num_kernels num_kernels_ret ps s t r s' t') True)
      (start B (clCreateKernelsInProgram (some program) num_kernels kernels num_kernels_ret) s t
        log) := by
  have hK := context_catching CL_OUT_OF_HOST_MEMORY CL_DEVICE_NOT_AVAILABLE
  rw [clCreateKernelsInProgram]
  split
  · exact .final (Or.inl ⟨_, _, _, _, fun h => absurd h (by decide), rfl⟩)
  split
  · exact .final (Or.inl ⟨_, _, _, _, fun h => absurd h (by decide), rfl⟩)
  refine (settles_sends stable_ended hK).mpr ?_
  refine settles_serves (h := ServerInstance.createKernels) .createKernels rfl rfl
    (waits_readPacket hK _ _ _) ?_
  rw [ServerInstance.createKernels, Prog.wp_bind, wp_readPacket_last (by decide) (reads_dec _)]
  simp only [Prog.afterBind_ok, Prog.wp_bind, ServerInstance.wp_getObj, Prog.wp_ask]
  rintro a _ ⟨rfl, rfl⟩
  by_cases herr : (D log (.clCreateKernelsInProgram (objectAt t.mObjects (GetID program))
      num_kernels)).err = CL_SUCCESS
  · obtain ⟨hcount, hlist⟩ := hD num_kernels herr
    obtain ⟨hroom, hobjects⟩ := hlist hnum
    have hcreated := createdKernels_eq hcount hroom hobjects
    rw [createdKernels] at hcreated
    rw [if_neg (not_not.mpr herr), if_neg hnum, hcreated, ServerInstance.writeIDs, Prog.wp_bind]
    refine ServerInstance.wp_getIDsFor (fun ids mObjects hids => ?_)
      fun _ t p hp => ⟨trivial, rfl, rfl, p, hp⟩
    have hfits : ids.length < SizeT.range .uint8 :=
      ((length_assignIDs hids).trans_le hps).trans_lt (by decide)
    refine ⟨rfl, rfl, ?_⟩
    rw [List.nil_append, wp_catching, Prog.wp_bind]
    refine (wp_readPacket_last (by decide) (reads_idListPacket hfits)).mpr ?_
    simp only [Prog.afterBind_ok, Prog.wp_bind, wp_storeKernels]
    exact ⟨_, rfl, rfl, rfl, fun _ => Or.inr ⟨hnum, ids, hids, rfl⟩⟩
  · rw [if_pos herr]
    exact wp_createKernels_refused herr

theorem ends_clCreateKernelsInProgram
    (hD : CreatesKernels D log (objectAt t.mObjects (GetID program)) ps) (hps : ps.length ≤ 255) :
    Settles D.environment (ServerInstance.serve B)
      (Ended B (fun r s' t' _ => KernelsDone num_kernels num_kernels_ret ps s t r s' t') True)
      (start B (clCreateKernelsInProgram (some program) num_kernels kernels num_kernels_ret) s t
        log) := by
  by_cases hnum : num_kernels = 0
  · exact ends_countKernels hD hnum
  · exact ends_listKernels hD hps hnum

/-- What a call has done that has been successful. -/
theorem kernelsDone_of_run
    (hD : CreatesKernels D log (objectAt t.mObjects (GetID program)) ps) (hps : ps.length ≤ 255)
    {r : Ret} (hrun : Relation.ReflTransGen (Step D.environment (ServerInstance.serve B))
      (start B
        (clCreateKernelsInProgram (some program) num_kernels kernels num_kernels_ret) s t log)
      (start B (.ret r) s' t' log')) :
    KernelsDone num_kernels num_kernels_ret ps s t r s' t' :=
  returned_of_run D.answers (ends_clCreateKernelsInProgram hD hps) hrun

/-! ## What the application has been told -/

/-- The kernels of a program have been reported: the first entries of the array are handles of the
driver's kernels, in their order, the others are what they were, and the count is their number. -/
structure KernelsReported (num_kernels : UInt32) (num_kernels_ret : Bool) (ps : List Ptr)
    (s' : ClientState) (t' : ServerState) (m m' : KernelMemory) : Prop where
  handles : num_kernels ≠ 0 → ∀ i (hi : i < ps.length), ∃ h : Handle, m'.kernels i = .object h ∧
    h.kind = .kernel ∧ lookupAt s'.mObjects (GetID h) = .object h ∧
      objectAt t'.mObjects (GetID h) = ps[i]
  frame : ∀ i, num_kernels = 0 ∨ ps.length ≤ i → m'.kernels i = m.kernels i
  count : num_kernels_ret = true → m'.num_kernels_ret.toNat = ps.length

/-- A count that is added to what is there is right if that is zero. -/
theorem toNat_add_ofNat_iff {count : UInt32} {n : ℕ} (hn : n ≤ 255) :
    (count + UInt32.ofNat n).toNat = n ↔ count = 0 := by
  have hlt := count.toNat_lt
  rw [← UInt32.toNat_inj, UInt32.toNat_add, UInt32.toNat_ofNat', UInt32.toNat_zero]
  omega

/-- The kernels that have been registered for IDs of the driver's kernels. -/
theorem exists_handle_storedKernels (hnodup : ps.Nodup) {ids : List IDType}
    (hids : ids.map (objectAt t'.mObjects) = ps) (m : KernelMemory) {i : ℕ} (hi : i < ps.length) :
    ∃ h : Handle,
      (m.after (eventsSince s (storedKernels num_kernels_ret s ids))).kernels i = .object h ∧
        h.kind = .kernel ∧
        lookupAt (storedKernels num_kernels_ret s ids).mObjects (GetID h) = .object h ∧
          objectAt t'.mObjects (GetID h) = ps[i] := by
  subst hids
  have hlen : i < ids.length := by rwa [List.length_map] at hi
  have hfresh : ids.Nodup := hnodup.of_map _
  refine ⟨⟨s.made + i, ids[i], .kernel⟩, ?_, rfl, ?_, ?_⟩
  · have hhandles : i < (kernelHandles s.made ids).length := by rwa [length_kernelHandles]
    have hentry := ArrayStore.Cursor.entries_putAll_add (c := ⟨m.kernels, 0⟩) hhandles
    rw [Nat.zero_add, getElem_kernelHandles hlen] at hentry
    rw [after_storedKernels]
    exact hentry
  · exact lookupAt_eq_object.mpr ⟨_, holds_storedKernels hfresh hlen, rfl⟩
  · exact (List.getElem_map _).symm

/-- **When the kernels of a program are reported**: when only their number is asked for, or there is
no place for the number, or there is a zero in it. -/
theorem kernels_reported_iff (hps : ps.length ≤ 255) (hnodup : ps.Nodup)
    (hD : CreatesKernels D log (objectAt t.mObjects (GetID program)) ps) (m : KernelMemory)
    (hrun : Relation.ReflTransGen (Step D.environment (ServerInstance.serve B))
      (start B
        (clCreateKernelsInProgram (some program) num_kernels kernels num_kernels_ret) s t log)
      (start B (.ret (.code CL_SUCCESS)) s' t' log')) :
    KernelsReported num_kernels num_kernels_ret ps s' t' m (m.after (eventsSince s s')) ↔
      num_kernels = 0 ∨ num_kernels_ret = false ∨ m.num_kernels_ret = 0 := by
  rcases kernelsDone_of_run hD hps hrun rfl with ⟨rfl, rfl⟩ | ⟨hnum, ids, hids, rfl⟩
  · rw [after_stored_count]
    refine iff_of_true ⟨fun h => absurd rfl h, fun _ _ => rfl, fun h => ?_⟩ (Or.inl rfl)
    have hlt : ps.length < 4294967296 := hps.trans_lt (by decide)
    rw [if_pos h, UInt32.ofNat_toNat, UInt32.toNat_ofNat', Nat.mod_eq_of_lt hlt]
  · have hlen := length_assignIDs hids
    have hframe : ∀ i, num_kernels = 0 ∨ ps.length ≤ i →
        (m.after (eventsSince s (storedKernels num_kernels_ret s ids))).kernels i =
          m.kernels i := by
      intro i hi
      rw [after_storedKernels]
      refine ArrayStore.Cursor.entries_putAll_of_not (Or.inr ?_)
      rw [Nat.zero_add, length_kernelHandles, hlen]
      exact hi.resolve_left hnum
    have hcount : (m.after (eventsSince s (storedKernels num_kernels_ret s ids))).num_kernels_ret =
        if num_kernels_ret then m.num_kernels_ret + UInt32.ofNat ps.length
        else m.num_kernels_ret := by
      rw [after_storedKernels, hlen]
    constructor
    · intro hreported
      cases num_kernels_ret with
      | false => exact Or.inr (Or.inl rfl)
      | true =>
        have hright := hreported.count rfl
        rw [hcount, if_pos rfl, toNat_add_ofNat_iff hps] at hright
        exact Or.inr (Or.inr hright)
    · intro hzero
      refine ⟨fun _ i hi => exists_handle_storedKernels hnodup (prefix_of_assignIDs hids).2 m hi,
        hframe, fun hret => ?_⟩
      have hnone : m.num_kernels_ret = 0 :=
        (hzero.resolve_left hnum).resolve_left (by rw [hret]; decide)
      rw [hcount, if_pos hret, toNat_add_ofNat_iff hps]
      exact hnone

end Calls

/-! ### A program with two kernels -/

/-- A driver that creates the same kernels for every program. -/
def kernelsDriver (ps : List Ptr) : Driver
  | _, .clCreateKernelsInProgram _ num_kernels =>
    if num_kernels = 0 then ⟨CL_SUCCESS, some ps.length, []⟩
    else if num_kernels.toNat < ps.length then ⟨CL_INVALID_VALUE, none, []⟩
    else ⟨CL_SUCCESS, some ps.length, ps⟩
  | _, c => refuse c

theorem createsKernels_kernelsDriver (ps : List Ptr) (log : List Asked) (program : Ptr) :
    CreatesKernels (kernelsDriver ps) log program ps := by
  intro num_kernels
  dsimp only [kernelsDriver]
  split
  · rename_i hnum
    exact fun _ => ⟨rfl, fun h => absurd hnum h⟩
  split
  · exact fun h => absurd h (by decide)
  · rename_i hroom
    exact fun _ => ⟨rfl, fun _ => ⟨not_lt.mp hroom, rfl⟩⟩

/-- The application has room for four. -/
theorem run_createKernels :
    Relation.ReflTransGen
      (Step (kernelsDriver [80, 81]).environment (ServerInstance.serve ⟨plainBuild, 210⟩))
      (start ⟨plainBuild, 210⟩ (clCreateKernelsInProgram (some ⟨0, 0, .program⟩) 4 true true)
        (compileClient false) ⟨[66], none⟩ [])
      (start ⟨plainBuild, 210⟩ (.ret (.code CL_SUCCESS))
        (storedKernels true (compileClient false) [1, 2]) ⟨[66, 80, 81], none⟩
        [⟨.clCreateKernelsInProgram 66 4, ⟨CL_SUCCESS, some 2, [80, 81]⟩⟩]) := by
  refine run_of_settles fun hF => ?_
  have hK := context_catching CL_OUT_OF_HOST_MEMORY CL_DEVICE_NOT_AVAILABLE
  refine (settles_sends hF hK).mpr ((settles_dispatches (h := ServerInstance.createKernels) hF rfl
    rfl).mpr (settles_server_wp (H := fun _ _ _ => False) hF context_handler
      (fun _ _ _ _ h => h.elim) ?_))
  rw [ServerInstance.createKernels, Prog.wp_bind, wp_readPacket_last (by decide) (reads_dec _)]
  simp only [Prog.afterBind_ok, Prog.wp_bind, ServerInstance.wp_getObj, Prog.wp_ask]
  rintro a _ ⟨rfl, rfl⟩
  have hnum : ¬ (4 : UInt32) = 0 := by decide
  have hids : assignIDs [66] [80, 81] = some ([1, 2], [66, 80, 81]) := by decide
  rw [if_neg fun h => h rfl, if_neg hnum]
  show (ServerInstance.writeIDs [80, 81]).wp _ _ _ _ _ _ _
  rw [ServerInstance.writeIDs, Prog.wp_bind]
  refine ServerInstance.wp_getIDsFor (fun ids mObjects hids' => ?_) fun hnone => ?_
  · obtain ⟨rfl, rfl⟩ := Prod.mk.inj (Option.some.inj (hids.symm.trans hids'))
    refine (settles_handles hF).mpr ?_
    rw [if_neg hnum, List.nil_append, List.nil_append, ← List.append_nil (PacketStream.frame _ _)]
    have hreads : Reads dec (enc (⟨[1, 2]⟩ : IDListPacket)) (⟨[1, 2]⟩ : IDListPacket) :=
      reads_idListPacket (by decide)
    refine (settles_client_meets hF hK hreads (by decide)).mpr ?_
    refine settles_client_wp hF hK (H := fun _ _ _ => False) (fun _ _ _ h => h.elim) ?_
    simp only [Prog.wp_bind, wp_storeKernels, Prog.afterBind_ok]
    exact .final rfl
  · cases hids.symm.trans hnone

/-- A count that was zero is right. -/
theorem kernels_reported_iff_zero :
    KernelsReported 4 true [80, 81] (storedKernels true (compileClient false) [1, 2])
        ⟨[66, 80, 81], none⟩ ⟨fun _ => .null, 0⟩
        ((⟨fun _ => .null, 0⟩ : KernelMemory).after (eventsSince (compileClient false)
          (storedKernels true (compileClient false) [1, 2]))) :=
  (kernels_reported_iff (by decide) (by decide) (createsKernels_kernelsDriver _ _ _) _
    run_createKernels).mpr (Or.inr (Or.inr rfl))

/-- One that was seven is nine. -/
theorem kernels_not_reported :
    Relation.ReflTransGen
        (Step (kernelsDriver [80, 81]).environment (ServerInstance.serve ⟨plainBuild, 210⟩))
        (start ⟨plainBuild, 210⟩ (clCreateKernelsInProgram (some ⟨0, 0, .program⟩) 4 true true)
          (compileClient false) ⟨[66], none⟩ [])
        (start ⟨plainBuild, 210⟩ (.ret (.code CL_SUCCESS))
          (storedKernels true (compileClient false) [1, 2]) ⟨[66, 80, 81], none⟩
          [⟨.clCreateKernelsInProgram 66 4, ⟨CL_SUCCESS, some 2, [80, 81]⟩⟩]) ∧
      ¬ KernelsReported 4 true [80, 81] (storedKernels true (compileClient false) [1, 2])
        ⟨[66, 80, 81], none⟩ ⟨fun _ => .null, 7⟩
        ((⟨fun _ => .null, 7⟩ : KernelMemory).after (eventsSince (compileClient false)
          (storedKernels true (compileClient false) [1, 2]))) := by
  refine ⟨run_createKernels, fun h => ?_⟩
  exact absurd (h.count rfl) (by decide)

end RemoteCL

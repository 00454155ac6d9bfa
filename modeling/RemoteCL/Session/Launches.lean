import RemoteCL.Session.Calls.Commands
import RemoteCL.Session.Record

/-!
# Launching kernels

The sizes and offsets of a launch cross in 32 bits.  There is no flag for an array that is missing.
A missing offset crosses as zeros, which mean the same.  For a missing work group size the server
looks for a zero in the first dimension, but the client fills in ones.  So the driver is given a
work group of one item, where the application left the choice to the driver.
-/

namespace RemoteCL

open ByteStream Conversation Wire LawfulWire Client

/-! ## Dimensions -/

/-- An array with a value for each dimension, none of them above 32 bits. -/
def Dimensions (n : ℕ) (values : List UInt64) : Prop :=
  n ≤ values.length ∧ ∀ v ∈ values.take n, v.toNat < 2 ^ 32

instance (n : ℕ) (values : List UInt64) : Decidable (Dimensions n values) :=
  @instDecidableAnd _ _ _ (List.decidableBAll (fun v : UInt64 => v.toNat < 2 ^ 32) _)

/-- The driver is given the values of an array; without an array it would be given zeros. -/
def SameDimensions (n : ℕ) (values : List UInt64) (given : Coords) : Prop :=
  ∀ i : Fin 3, i.val < n → given[i].toUInt64 = values.getD i 0

theorem getD_mem_take {n i : ℕ} {values : List UInt64} (hlen : n ≤ values.length) (hi : i < n) :
    values.getD i 0 ∈ values.take n := by
  rw [List.getD_eq_getElem _ _ (hi.trans_le hlen)]
  exact List.mem_take_iff_getElem.mpr ⟨i, by omega, rfl⟩

theorem getElem_triple (n : ℕ) (values : List UInt64) (other : UInt32) (i : Fin 3) :
    (NDRange.triple n values other)[i] =
      if i.val < n then (values.getD i 0).toUInt32 else other := by
  rw [NDRange.triple]
  exact Vector.getElem_ofFn _

theorem sameDimensions_triple {n : ℕ} {values : List UInt64} (h : Dimensions n values)
    (other : UInt32) : SameDimensions n values (NDRange.triple n values other) := by
  intro i hi
  rw [getElem_triple, if_pos hi]
  exact toUInt64_toUInt32 (h.2 _ (getD_mem_take h.1 hi))

/-- A missing offset. -/
theorem sameDimensions_zeros (n : ℕ) : SameDimensions n [] (NDRange.triple n [] 0) := by
  intro i hi
  rw [getElem_triple, if_pos hi]
  rfl

namespace Client.NDRange

/-- The number of dimensions is one to three, and every array has them. -/
structure Valid (r : NDRange) : Prop where
  work_dim_pos : 0 < r.work_dim
  work_dim_le : r.work_dim ≤ 3
  offset : ∀ offset, r.global_work_offset = some offset → Dimensions r.work_dim offset
  size : Dimensions r.work_dim r.global_work_size
  local_size : ∀ sizes, r.local_work_size = some sizes → Dimensions r.work_dim sizes

/-- The work group sizes as they are sent. -/
def localTriple (r : NDRange) : Coords :=
  triple (if r.local_work_size.isSome then r.work_dim else 0) (r.local_work_size.getD []) 1

/-- The zero that the server looks for is never sent. -/
theorem localTriple_ne_zero {r : NDRange} (hr : r.Valid) (hzero : r.zeroGroup = false) :
    r.localTriple.x ≠ 0 := by
  have hget : r.localTriple.x = _ := getElem_triple _ _ _ 0
  rw [hget]
  rw [zeroGroup] at hzero
  cases hlocal : r.local_work_size with
  | none =>
    rw [if_neg (by simp)]
    decide
  | some sizes =>
    have hsizes := hr.local_size sizes hlocal
    have hmem := getD_mem_take hsizes.1 hr.work_dim_pos
    rw [hlocal] at hzero
    simp only [List.contains_eq_mem, decide_eq_false_iff_not] at hzero
    rw [Option.isSome_some, if_pos rfl, Option.getD_some]
    refine (if_pos hr.work_dim_pos).trans_ne fun (h : (sizes.getD 0 0).toUInt32 = 0) => hzero ?_
    have hback := toUInt64_toUInt32 (hsizes.2 _ hmem)
    rw [h] at hback
    exact (show sizes.getD 0 0 = 0 from hback.symm) ▸ hmem

end Client.NDRange

/-- A question to the driver that is this launch. -/
def Launches (t : ServerState) (queue kernel : Handle) (r : NDRange) (c : ServerCall) : Prop :=
  ∃ work_dim offset size local_size events wantEvent,
    c = .enqueue ⟨objectAt t.mObjects (GetID queue),
      .clEnqueueNDRangeKernel (objectAt t.mObjects (GetID kernel)) work_dim offset size local_size,
      events, wantEvent⟩ ∧
    work_dim.toNat = r.work_dim ∧ SameDimensions r.work_dim (r.global_work_offset.getD []) offset ∧
    SameDimensions r.work_dim r.global_work_size size ∧
    (local_size = none ↔ r.local_work_size = none) ∧
    ∀ given sizes, local_size = some given → r.local_work_size = some sizes →
      SameDimensions r.work_dim sizes given

/-! ## The call -/

section Launch

variable {D : Driver} {B : ServerBuild} {s : ClientState} {t : ServerState}

/-- What the call does with valid arguments. -/
theorem clEnqueueNDRangeKernel_eq (queue kernel : Handle) {r : NDRange} (hr : r.Valid)
    (hzero : r.zeroGroup = false) {args : WaitArgs} {ids : List IDType}
    (hids : args.eventIDs = .ok ids) :
    clEnqueueNDRangeKernel (some queue) (some kernel) r args =
      catching CL_SUCCESS CL_SUCCESS (writeCommand
        ({ mKernelID := GetID kernel, mQueueID := GetID queue, mWorkDim := UInt8.ofNat r.work_dim
           mGlobalSize := NDRange.triple r.work_dim r.global_work_size 1
           mGlobalOffset := NDRange.triple r.work_dim (r.global_work_offset.getD []) 0
           mLocalSize := r.localTriple, mWantEvent := args.event
           mExpectEventList := args.expectEventList } : EnqueueKernel) args ids >>= fun _ =>
        awaitCommand args) := by
  have hdim : ¬ (r.work_dim = 0 ∨ 3 < r.work_dim) :=
    not_or.mpr ⟨hr.work_dim_pos.ne', hr.work_dim_le.not_gt⟩
  rw [clEnqueueNDRangeKernel, if_neg hdim, hzero, if_neg Bool.false_ne_true, hids]
  rfl

/-- **What the driver is given**: a work group size in any case. -/
theorem settles_firstCall_launch (queue kernel : Handle) {r : NDRange} (hr : r.Valid)
    (hzero : r.zeroGroup = false) {args : WaitArgs} {ids : List IDType}
    (hids : args.eventIDs = .ok ids) :
    ∃ events, Settles D.environment (ServerInstance.serve B)
      (FirstCall fun q => q = ⟨.enqueue ⟨objectAt t.mObjects (GetID queue),
        .clEnqueueNDRangeKernel (objectAt t.mObjects (GetID kernel)) (UInt8.ofNat r.work_dim)
          (NDRange.triple r.work_dim (r.global_work_offset.getD []) 0)
          (NDRange.triple r.work_dim r.global_work_size 1) (some r.localTriple),
        events, args.event⟩, D [] _⟩)
      (start B (clEnqueueNDRangeKernel (some queue) (some kernel) r args) s t []) := by
  have hK := context_catching CL_SUCCESS CL_SUCCESS
  obtain ⟨events, rest, hevents⟩ := exists_settles_readEvents (E := D.environment) (B := B) t args
    ids
  refine ⟨events, ?_⟩
  rw [clEnqueueNDRangeKernel_eq queue kernel hr hzero hids]
  refine (settles_writeCommand stable_firstCall hK).mpr ?_
  refine (settles_client_flushes stable_firstCall hK).mpr ?_
  refine (settles_dispatches (h := ServerInstance.enqueueKernel) stable_firstCall rfl rfl).mpr ?_
  refine (settles_server_meets_packet stable_firstCall context_handler (by decide)).mpr ?_
  refine (hevents stable_firstCall _ _ _).mpr ?_
  refine (settles_server_get stable_firstCall context_handler).mpr ?_
  refine (settles_server_get stable_firstCall context_handler).mpr ?_
  rw [if_neg (NDRange.localTriple_ne_zero hr hzero)]
  refine (settles_server_ask stable_firstCall context_handler).mpr ?_
  rintro a _ ⟨rfl, rfl⟩
  exact Settles.final ⟨_, _, rfl, rfl⟩

/-- With a work group size this is the launch that is meant. -/
theorem launches_localTriple {queue kernel : Handle} {r : NDRange} (hr : r.Valid)
    {sizes : List UInt64} (hsizes : r.local_work_size = some sizes) (events : List Ptr)
    (wantEvent : Bool) :
    Launches t queue kernel r (.enqueue ⟨objectAt t.mObjects (GetID queue),
      .clEnqueueNDRangeKernel (objectAt t.mObjects (GetID kernel)) (UInt8.ofNat r.work_dim)
        (NDRange.triple r.work_dim (r.global_work_offset.getD []) 0)
        (NDRange.triple r.work_dim r.global_work_size 1) (some r.localTriple),
      events, wantEvent⟩) := by
  have hdim : r.work_dim < UInt8.size := hr.work_dim_le.trans_lt (by decide)
  refine ⟨_, _, _, _, _, _, rfl, UInt8.toNat_ofNat_of_lt' hdim, ?_,
    sameDimensions_triple hr.size 1, ?_, ?_⟩
  · cases hoffset : r.global_work_offset with
    | none => exact sameDimensions_zeros r.work_dim
    | some offset => exact sameDimensions_triple (hr.offset offset hoffset) 0
  · rw [hsizes]
    exact iff_of_false (Option.some_ne_none _) (Option.some_ne_none _)
  · rintro _ sizes' ⟨⟩ hsizes'
    rw [NDRange.localTriple, hsizes', Option.isSome_some, if_pos rfl, Option.getD_some]
    exact sameDimensions_triple (hr.local_size sizes' hsizes') 1

/-- The driver is first asked for this launch. -/
def LaunchArrives (D : Driver) (B : ServerBuild) (s : ClientState) (t : ServerState)
    (queue kernel : Handle) (r : NDRange) (args : WaitArgs) : Prop :=
  Attains D.environment (ServerInstance.serve B)
    (FirstCall fun q => Launches t queue kernel r q.1)
    (start B (clEnqueueNDRangeKernel (some queue) (some kernel) r args) s t [])

theorem launchArrives_iff (queue kernel : Handle) {r : NDRange} (hr : r.Valid)
    (hzero : r.zeroGroup = false) {args : WaitArgs} {ids : List IDType}
    (hids : args.eventIDs = .ok ids) :
    LaunchArrives D B s t queue kernel r args ↔ r.local_work_size.isSome = true := by
  obtain ⟨events, hfirst⟩ := settles_firstCall_launch (D := D) (B := B) (s := s) (t := t) queue
    kernel hr hzero hids
  refine (attains_firstCall_iff hfirst).trans ?_
  constructor
  · rintro ⟨work_dim, offset, size, local_size, events', wantEvent, hcall, -, -, -, hnull, -⟩
    simp only [ServerCall.enqueue.injEq, Enqueue.mk.injEq,
      Command.clEnqueueNDRangeKernel.injEq] at hcall
    rw [← hcall.2.1.2.2.2.2] at hnull
    exact Option.isSome_iff_ne_none.mpr fun h => Option.some_ne_none _ (hnull.mpr h)
  · intro h
    obtain ⟨sizes, hsizes⟩ := Option.isSome_iff_exists.mp h
    exact launches_localTriple hr hsizes events args.event

/-- With valid arguments the request is sent. -/
theorem not_refused_launch (queue kernel : Handle) {r : NDRange} (hr : r.Valid)
    (hzero : r.zeroGroup = false) {args : WaitArgs} {ids : List IDType}
    (hids : args.eventIDs = .ok ids) :
    ¬ Refused (clEnqueueNDRangeKernel (some queue) (some kernel) r args) s := by
  rw [clEnqueueNDRangeKernel_eq queue kernel hr hzero hids, Refused, wp_catching, writeCommand,
    awaitCommand, awaitEvent]
  cases args.expectEventList <;> cases args.event <;> exact fun h => h

end Launch

/-- The call is for nothing: an object or an event is missing, or a work group is to be empty. -/
def LaunchInvalid (command_queue kernel : Option Handle) (r : NDRange) (args : WaitArgs) : Prop :=
  command_queue = none ∨ kernel = none ∨ r.zeroGroup = true ∨ ∃ err, args.eventIDs = .error err

/-- The errors of a list of events. -/
theorem eventIDs_error_ne {args : WaitArgs} {err : Int32} (h : args.eventIDs = .error err) :
    err ≠ CL_SUCCESS := by
  rw [WaitArgs.eventIDs] at h
  split_ifs at h
  split at h
  · cases h
    decide
  · split at h
    · cases h
      decide
    · cases h

/-- An invalid launch is refused. -/
theorem refused_launch {s : ClientState} {command_queue kernel : Option Handle} {r : NDRange}
    (hr : r.Valid) {args : WaitArgs} (h : LaunchInvalid command_queue kernel r args) :
    Refused (clEnqueueNDRangeKernel command_queue kernel r args) s := by
  have hdim : ¬ (r.work_dim = 0 ∨ 3 < r.work_dim) :=
    not_or.mpr ⟨hr.work_dim_pos.ne', hr.work_dim_le.not_gt⟩
  have hcode : ∀ err : Int32, err ≠ CL_SUCCESS → Refused (pure (.code err)) s :=
    fun err herr => ⟨rfl, Or.inr ⟨err, herr, rfl⟩⟩
  cases command_queue with
  | none => exact hcode _ (by decide)
  | some queue =>
    cases kernel with
    | none => exact hcode _ (by decide)
    | some kernel =>
      rw [clEnqueueNDRangeKernel, if_neg hdim]
      by_cases hzero : r.zeroGroup = true
      · rw [if_pos hzero]
        exact hcode _ (by decide)
      · obtain ⟨err, herr⟩ := ((h.resolve_left (Option.some_ne_none _)).resolve_left
          (Option.some_ne_none _)).resolve_left hzero
        rw [if_neg hzero, herr]
        exact hcode err (eventIDs_error_ne herr)

/-- **Launches keep their geometry exactly if they have a work group size**, unless they are refused
before anything is sent. -/
theorem launch_arrives_iff (D : Driver) (B : ServerBuild) (s : ClientState) (t : ServerState)
    (command_queue kernel : Option Handle) (r : NDRange) (hr : r.Valid) (args : WaitArgs) :
    (Refused (clEnqueueNDRangeKernel command_queue kernel r args) s ∨
        ∃ queue k, command_queue = some queue ∧ kernel = some k ∧
          LaunchArrives D B s t queue k r args) ↔
      LaunchInvalid command_queue kernel r args ∨ r.local_work_size.isSome = true := by
  by_cases hinvalid : LaunchInvalid command_queue kernel r args
  · exact iff_of_true (Or.inl (refused_launch hr hinvalid)) (Or.inl hinvalid)
  refine Iff.trans ?_ (or_iff_right hinvalid).symm
  rw [LaunchInvalid, not_or, not_or, not_or, not_exists] at hinvalid
  obtain ⟨hqueue, hkernel, hzero, hevents⟩ := hinvalid
  obtain ⟨queue, rfl⟩ := Option.ne_none_iff_exists'.mp hqueue
  obtain ⟨k, rfl⟩ := Option.ne_none_iff_exists'.mp hkernel
  cases hids : args.eventIDs with
  | error err => exact absurd hids (hevents err)
  | ok ids =>
    rw [Bool.not_eq_true] at hzero
    have hiff := launchArrives_iff (D := D) (B := B) (s := s) (t := t) queue k hr hzero hids
    refine (or_iff_right (not_refused_launch queue k hr hzero hids)).trans ?_
    constructor
    · rintro ⟨_, _, ⟨⟩, ⟨⟩, h⟩
      exact hiff.mp h
    · exact fun h => ⟨queue, k, rfl, rfl, hiff.mpr h⟩

/-- Two dimensions, the second of one item. -/
theorem launch_arrives_plane :
    Refused (clEnqueueNDRangeKernel (some ⟨0, 0, .queue⟩) (some ⟨1, 1, .kernel⟩)
        ⟨2, none, [64, 1], some [8, 1]⟩ ⟨0, none, false⟩) ⟨[], 0, [], false, []⟩ ∨
      ∃ queue k, some ⟨0, 0, .queue⟩ = some queue ∧ some ⟨1, 1, .kernel⟩ = some k ∧
        LaunchArrives .refusing ⟨plainBuild, 210⟩ ⟨[], 0, [], false, []⟩ ⟨[66, 77], none⟩ queue k
          ⟨2, none, [64, 1], some [8, 1]⟩ ⟨0, none, false⟩ :=
  (launch_arrives_iff .refusing ⟨plainBuild, 210⟩ ⟨[], 0, [], false, []⟩ ⟨[66, 77], none⟩
    (some ⟨0, 0, .queue⟩) (some ⟨1, 1, .kernel⟩) ⟨2, none, [64, 1], some [8, 1]⟩
    ⟨by decide, by decide, (fun _ h => nomatch h), by decide, by
      rintro _ ⟨⟩
      decide⟩ ⟨0, none, false⟩).mpr (Or.inr rfl)

/-- The application leaves the work group size to the driver, which is given one. -/
theorem local_size_invented :
    ¬ (Refused (clEnqueueNDRangeKernel (some ⟨0, 0, .queue⟩) (some ⟨1, 1, .kernel⟩)
        ⟨1, none, [64], none⟩ ⟨0, none, false⟩) ⟨[], 0, [], false, []⟩ ∨
      ∃ queue k, some ⟨0, 0, .queue⟩ = some queue ∧ some ⟨1, 1, .kernel⟩ = some k ∧
        LaunchArrives .refusing ⟨plainBuild, 210⟩ ⟨[], 0, [], false, []⟩ ⟨[66, 77], none⟩ queue k
          ⟨1, none, [64], none⟩ ⟨0, none, false⟩) := by
  have hvalid : NDRange.Valid ⟨1, none, [64], none⟩ :=
    ⟨by decide, by decide, (fun _ h => nomatch h), by decide, fun _ h => nomatch h⟩
  rintro (h | ⟨_, _, ⟨⟩, ⟨⟩, h⟩)
  · exact not_refused_launch _ _ hvalid rfl rfl h
  · exact Bool.false_ne_true ((launchArrives_iff _ _ hvalid rfl rfl).mp h)

end RemoteCL

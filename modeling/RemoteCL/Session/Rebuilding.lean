import Mathlib.Algebra.Group.Nat.Even
import RemoteCL.Session.PropertyLists
import RemoteCL.Theory.While

/-!
# The loop that rebuilds a property list

`rebuildProperties` says what the loop in the requests for a context makes of a list.  The loop
itself advances its iterator by two words in each round, and compares it with the end of the
list once.  Here it is followed word by word, also behind the end of the list, where there may be
anything.

For a list of pairs the loop reads every word of the list and no other, and collects what
`rebuildProperties` says (`rebuilds_flatPairs`).  If the number of words is odd, it does not end
(`not_rebuilds_of_odd`), and the value of the last key in the list is read behind its end
(`reads_behind`).
-/

namespace RemoteCL

open ByteStream Conversation ServerInstance

/-! ## The loop -/

/-- Where the iterator is, what has been collected, and which words have been read. -/
structure Rebuilding where
  it : ℕ
  properties : List UInt64
  reads : List ℕ

/-- The words of a list, and what is in memory behind it. -/
def propertyWord (received : List UInt64) (behind : ℕ → UInt64) (i : ℕ) : UInt64 :=
  received.getD i (behind i)

/-- One round, with a key and the word behind it. -/
def Rebuilding.round (objects : List Ptr) (word : ℕ → UInt64) (r : Rebuilding) : Rebuilding where
  it := r.it + 2
  properties := r.properties ++ [word r.it, if word r.it = CL_CONTEXT_PLATFORM then
    objectAt objects (word (r.it + 1)).toUInt16 else word (r.it + 1)]
  reads := r.reads ++ [r.it, r.it + 1]

/-- In front of the loop. -/
def Rebuilding.start : Rebuilding := ⟨0, [], []⟩

/-- The loop ends like this. -/
def Rebuilds (objects : List Ptr) (received : List UInt64) (behind : ℕ → UInt64)
    (r : Rebuilding) : Prop :=
  While (fun r : Rebuilding => r.it ≠ received.length)
    (Rebuilding.round objects (propertyWord received behind)) .start r

section Loop

variable {objects : List Ptr} {received : List UInt64} {behind : ℕ → UInt64}

/-! ## Lists of pairs -/

theorem propertyWord_key (done : List (UInt64 × UInt64)) (p : UInt64 × UInt64)
    (ps : List (UInt64 × UInt64)) :
    propertyWord (flatPairs (done ++ p :: ps)) behind (2 * done.length) = p.1 := by
  rw [propertyWord, flatPairs_append, ← length_flatPairs,
    List.getD_append_right _ _ _ _ le_rfl, Nat.sub_self]
  rfl

theorem propertyWord_value (done : List (UInt64 × UInt64)) (p : UInt64 × UInt64)
    (ps : List (UInt64 × UInt64)) :
    propertyWord (flatPairs (done ++ p :: ps)) behind (2 * done.length + 1) = p.2 := by
  rw [propertyWord, flatPairs_append, ← length_flatPairs,
    List.getD_append_right _ _ _ _ (Nat.le_succ _), Nat.succ_eq_add_one, Nat.add_sub_cancel_left]
  rfl

/-- Behind these pairs. -/
def Rebuilding.behindPairs (objects : List Ptr) (done : List (UInt64 × UInt64)) : Rebuilding where
  it := 2 * done.length
  properties := flatPairs (done.map (mapPlatform fun v => objectAt objects v.toUInt16))
  reads := List.range (2 * done.length)

theorem round_behindPairs (done : List (UInt64 × UInt64)) (p : UInt64 × UInt64)
    (ps : List (UInt64 × UInt64)) :
    (Rebuilding.behindPairs objects done).round objects
        (propertyWord (flatPairs (done ++ p :: ps)) behind) =
      Rebuilding.behindPairs objects (done ++ [p]) := by
  have hlength : 2 * (done ++ [p]).length = 2 * done.length + 1 + 1 := by
    rw [List.length_append, List.length_singleton]
    omega
  rw [Rebuilding.round, Rebuilding.behindPairs, propertyWord_key, propertyWord_value,
    Rebuilding.behindPairs, hlength, List.map_append, flatPairs_append, List.range_succ,
    List.range_succ, List.append_assoc]
  rfl

/-- The loop takes the pairs one after the other. -/
theorem while_behindPairs (done ps : List (UInt64 × UInt64)) :
    While (fun r : Rebuilding => r.it ≠ (flatPairs (done ++ ps)).length)
      (Rebuilding.round objects (propertyWord (flatPairs (done ++ ps)) behind))
      (.behindPairs objects done) (.behindPairs objects (done ++ ps)) := by
  induction ps generalizing done with
  | nil =>
    rw [List.append_nil]
    refine .done (not_not.mpr ?_)
    rw [length_flatPairs, Rebuilding.behindPairs]
  | cons p ps ih =>
    refine .round ?_ ?_
    · rw [length_flatPairs, List.length_append, List.length_cons]
      show 2 * done.length ≠ _
      omega
    · rw [round_behindPairs, List.append_cons done p ps]
      exact ih (done ++ [p])

theorem rebuilds_flatPairs (objects : List Ptr) (ps : List (UInt64 × UInt64))
    (behind : ℕ → UInt64) :
    Rebuilds objects (flatPairs ps) behind (.behindPairs objects ps) :=
  while_behindPairs [] ps

/-- The loop collects what the handlers work with. -/
theorem properties_behindPairs (objects : List Ptr) (ps : List (UInt64 × UInt64)) :
    rebuildProperties objects (flatPairs ps) =
      some (Rebuilding.behindPairs objects ps).properties := rebuildProperties_flatPairs objects ps

/-- An even number of words are pairs. -/
theorem exists_flatPairs {words : List UInt64} (h : Even words.length) :
    ∃ ps, words = flatPairs ps := by
  induction words using List.twoStepInduction with
  | nil => exact ⟨[], rfl⟩
  | singleton w => exact absurd h (by simp)
  | cons_cons k v words ih _ =>
    obtain ⟨ps, rfl⟩ := ih (by simpa [Nat.even_add_one] using h)
    exact ⟨(k, v) :: ps, rfl⟩

/-! ## Lists that are no pairs -/

/-- The iterator passes by the end. -/
theorem not_rebuilds_of_odd (h : ¬ Even received.length) :
    ¬ ∃ r, Rebuilds objects received behind r := by
  refine While.not_ends (I := fun r => Even r.it) ?_ ?_ Even.zero
  · intro r hr hend
    exact h (hend ▸ hr)
  · intro r hr
    exact hr.add even_two

theorem iterate_round (objects : List Ptr) (word : ℕ → UInt64) (n : ℕ) :
    ((Rebuilding.round objects word)^[n] .start).it = 2 * n ∧
      ((Rebuilding.round objects word)^[n] .start).reads = List.range (2 * n) := by
  induction n with
  | zero => exact ⟨rfl, rfl⟩
  | succ n ih =>
    rw [Function.iterate_succ_apply', Rebuilding.round]
    refine ⟨by rw [ih.1, Nat.mul_succ], ?_⟩
    rw [ih.1, ih.2, Nat.mul_succ, List.range_succ, List.range_succ, List.append_assoc]
    rfl

/-- The value of the last key is read behind the list, and no round ends where the list does. -/
theorem reads_behind (h : ¬ Even received.length) :
    ∃ n, (∀ m, ((Rebuilding.round objects (propertyWord received behind))^[m] .start).it ≠
        received.length) ∧
      received.length ∈
        ((Rebuilding.round objects (propertyWord received behind))^[n] .start).reads := by
  obtain ⟨k, hk⟩ := Nat.not_even_iff_odd.mp h
  refine ⟨k + 1, fun m => ?_, ?_⟩
  · rw [(iterate_round objects _ m).1, hk]
    omega
  · rw [(iterate_round objects _ (k + 1)).2, List.mem_range, hk]
    omega

end Loop

/-! ## The requests for a context -/

section Requests

variable {D : Driver} {B : ServerBuild} {t : ServerState} {behind : ℕ → UInt64}

/-- The loop ends, it has read words of the list only, and what is handed to the driver are the
pairs of the list, with the platforms in place of their IDs. -/
def RebuildsSafely (objects : List Ptr) (received : List UInt64) (behind : ℕ → UInt64)
    (Hands : Option (List UInt64) → Prop) : Prop :=
  ∃ r ps, Rebuilds objects received behind r ∧ (∀ i ∈ r.reads, i < received.length) ∧
    received = flatPairs ps ∧
    r.properties = flatPairs (ps.map (mapPlatform fun v => objectAt objects v.toUInt16)) ∧
    Hands (terminated r.properties)

/-- Whoever has sent the request: the driver is called like this. -/
def CallsDriver (D : Driver) (B : ServerBuild) (t : ServerState) (ty : PacketType) (w : Bytes)
    (q : CreateCall) : Prop :=
  ∀ c u d, Settles D.environment (ServerInstance.serve B) (FirstCall fun a => a.1 = .create q)
    ⟨c, ⟨ServerInstance.serve B, t, []⟩, PacketStream.frame ty w ++ u, d, []⟩

theorem rebuildsSafely_iff {objects : List Ptr} {received : List UInt64}
    {Hands : Option (List UInt64) → Prop}
    (hands : ∀ properties, rebuildProperties objects received = some properties →
      Hands (terminated properties)) :
    RebuildsSafely objects received behind Hands ↔ Even received.length := by
  constructor
  · rintro ⟨r, -, hr, -⟩
    exact not_not.mp fun h => not_rebuilds_of_odd h ⟨r, hr⟩
  · intro h
    obtain ⟨ps, rfl⟩ := exists_flatPairs h
    refine ⟨_, ps, rebuilds_flatPairs objects ps behind, ?_, rfl, rfl, ?_⟩
    · intro i hi
      rw [length_flatPairs]
      exact List.mem_range.mp hi
    · exact hands _ (properties_behindPairs objects ps)

/-- The handler's call, with what the loop makes of a list of pairs. -/
theorem callsDriver_createContext {p : CreateContext} {w : Bytes} (h : Reads Wire.dec w p)
    {properties : List UInt64}
    (hrebuilt : rebuildProperties t.mObjects p.mProperties = some properties) :
    CallsDriver D B t .createContext w (.clCreateContext (terminated properties)
      (p.mDevices.map (objectAt t.mObjects))) := by
  intro c u d
  have hhandler : ServerInstance.handler B .createContext = some ServerInstance.createContext := rfl
  refine (settles_dispatches stable_firstCall hhandler rfl).mpr ?_
  refine (settles_server_meets stable_firstCall context_handler h (by decide)).mpr ?_
  refine (settles_server_get stable_firstCall context_handler).mpr ?_
  exact settles_rebuilds hrebuilt (settles_calling fun _ => rfl)

theorem callsDriver_createContextFromType {p : CreateContextFromType} {w : Bytes}
    (h : Reads Wire.dec w p) {properties : List UInt64}
    (hrebuilt : rebuildProperties t.mObjects p.mProperties = some properties) :
    CallsDriver D B t .createContextFromType w
      (.clCreateContextFromType (terminated properties) p.mDeviceType) := by
  intro c u d
  have hhandler : ServerInstance.handler B .createContextFromType =
      some ServerInstance.createContextFromType := rfl
  refine (settles_dispatches stable_firstCall hhandler rfl).mpr ?_
  refine (settles_server_meets stable_firstCall context_handler h (by decide)).mpr ?_
  exact settles_rebuilds hrebuilt (settles_calling fun _ => rfl)

end Requests

/-- **Property rebuilding**: for every packet that the decoders can produce, it is safe exactly if
the number of words in the property list is even. -/
theorem rebuildsSafely_iff_even (D : Driver) (B : ServerBuild) (t : ServerState)
    (behind : ℕ → UInt64) :
    (∀ (p : CreateContext) (w : Bytes), Reads Wire.dec w p →
      (RebuildsSafely t.mObjects p.mProperties behind (fun properties =>
          CallsDriver D B t .createContext w
            (.clCreateContext properties (p.mDevices.map (objectAt t.mObjects)))) ↔
        Even p.mProperties.length)) ∧
    (∀ (p : CreateContextFromType) (w : Bytes), Reads Wire.dec w p →
      (RebuildsSafely t.mObjects p.mProperties behind (fun properties =>
          CallsDriver D B t .createContextFromType w
            (.clCreateContextFromType properties p.mDeviceType)) ↔
        Even p.mProperties.length)) :=
  ⟨fun _ _ h => rebuildsSafely_iff fun _ => callsDriver_createContext h,
    fun _ _ h => rebuildsSafely_iff fun _ => callsDriver_createContextFromType h⟩

/-- A context on a platform. -/
theorem rebuildsSafely_platform :
    RebuildsSafely [66, 77] [CL_CONTEXT_PLATFORM, 1] (fun _ => 0) (fun properties =>
        CallsDriver .refusing ⟨plainBuild, 210⟩ ⟨[66, 77], none⟩ .createContextFromType
          (Wire.enc (⟨4, [CL_CONTEXT_PLATFORM, 1]⟩ : CreateContextFromType))
          (.clCreateContextFromType properties 4)) :=
  ((rebuildsSafely_iff_even .refusing ⟨plainBuild, 210⟩ ⟨[66, 77], none⟩ fun _ => 0).2
    ⟨4, [CL_CONTEXT_PLATFORM, 1]⟩ _ (reads_createContextFromType (by decide))).mpr even_two

/-- A key without a value: nothing on the server counts the words. -/
theorem rebuilding_runs_away :
    ¬ ∀ (D : Driver) (B : ServerBuild) (t : ServerState) (behind : ℕ → UInt64)
      (p : CreateContextFromType) (w : Bytes), Reads Wire.dec w p →
      RebuildsSafely t.mObjects p.mProperties behind fun properties =>
        CallsDriver D B t .createContextFromType w
          (.clCreateContextFromType properties p.mDeviceType) := by
  intro h
  obtain ⟨r, -, hr, -⟩ := h .refusing ⟨plainBuild, 210⟩ ⟨[66, 77], none⟩ (fun _ => 0)
    ⟨4, [CL_CONTEXT_PLATFORM]⟩ _ (reads_createContextFromType (by decide))
  exact not_rebuilds_of_odd (by decide) ⟨r, hr⟩

end RemoteCL

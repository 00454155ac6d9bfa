import RemoteCL.Session.Runs

/-!
# The lifetimes of driver objects

An object lives until its last reference has been released, and a driver may then use its address
for a new one, of whatever kind.  `Respects` is all that is expected of a driver about this: a new
object never gets the address of a live one.  `Counting` is a driver that counts the references of
the application, and gives out every address that has none.
-/

namespace RemoteCL

open ByteStream Conversation Client

/-! ## Creation -/

/-- The functions that create objects.  A command creates an event. -/
def ServerCall.creates : ServerCall → Bool
  | .clCreateKernelsInProgram _ _ | .create _ | .clCreateProgramWithBinary _ _ _
  | .enqueue _ => true
  | _ => false

/-- New objects do not get the addresses of live ones. -/
structure Respects {δ : Type} (live : δ → Set Ptr)
    (E : δ → (c : ServerCall) → Ans c → δ → Prop) : Prop where
  fresh : ∀ {e c a e'}, E e c a e' → c.creates = true → ∀ p ∈ named c a, p ∉ live e
  nodup : ∀ {e c a e'}, E e c a e' → c.creates = true → (named c a).Nodup

/-! ## A driver that counts references -/

/-- How many references the application has to an object. -/
abbrev References := Ptr → ℕ

/-- The references after a call. -/
def References.after (r : References) : (c : ServerCall) → Ans c → References
  | .status (.clRetain _ p), err => if err = CL_SUCCESS then Function.update r p (r p + 1) else r
  | .status (.clRelease _ p), err => if err = CL_SUCCESS then Function.update r p (r p - 1) else r
  | c, a => if c.creates then fun p => if p ∈ named c a then 1 else r p else r

/-- The objects that the application has references to. -/
def References.live (r : References) : Set Ptr := {p | 0 < r p}

/-- A driver that answers in every legal way, and gives a new object any address that is not in
use. -/
def Counting (A : Set Ptr) (r : References) (c : ServerCall) (a : Ans c) (r' : References) : Prop :=
  Legal A c a ∧ (c.creates = true → (named c a).Nodup ∧ ∀ p ∈ named c a, r p = 0) ∧ r' = r.after c a

theorem allLegal_counting (A : Set Ptr) : AllLegal A (Counting A) := fun _ _ _ _ h => h.1

theorem respects_counting (A : Set Ptr) : Respects References.live (Counting A) where
  fresh h hc p hp hlive := absurd ((h.2.1 hc).2 p hp) (Nat.pos_iff_ne_zero.mp hlive)
  nodup h hc := (h.2.1 hc).1

theorem Legal.mono {A A' : Set Ptr} (hA : A ⊆ A') {c : ServerCall} {a : Ans c}
    (h : Legal A c a) : Legal A' c a where
  mem p hp := hA (h.mem p hp)
  length := h.length
  fits := by
    cases c with
    | _ => exact h.fits

/-! ## A small driver -/

section SmallDriver

/-- An address is free, or not. -/
def References.free (r : References) (p : Ptr) : Int32 :=
  if r p = 0 then CL_SUCCESS else CL_OUT_OF_HOST_MEMORY

/-- A driver with a context at 5, a device at 6 in it, a queue at 8, an address for user events and
buffers at 7, and one for the events of commands at 9. -/
def smallAnswer (r : References) : (c : ServerCall) → Ans c
  | .create (.clCreateContextFromType _ _) => ⟨r.free 5, 5⟩
  | .create (.clCreateUserEvent _) | .create (.clCreateBuffer _ _ _ _) => ⟨r.free 7, 7⟩
  | .create (.clCreateCommandQueue _ _ _) => ⟨r.free 8, 8⟩
  | .enqueue _ => ⟨r.free 9, 9, []⟩
  | .info (.clGetContextInfo _ _) n =>
    if 8 ≤ n then ⟨CL_SUCCESS, some 8, [6, 0, 0, 0, 0, 0, 0, 0]⟩ else ⟨CL_INVALID_VALUE, none, []⟩
  | .info (.clGetEventInfo _ _) _ => ⟨CL_SUCCESS, some 8, [8, 0, 0, 0, 0, 0, 0, 0]⟩
  | .status _ => CL_SUCCESS
  | c => refuse c

def smallDriver (r : References) (c : ServerCall) : Ans c × References :=
  (smallAnswer r c, r.after c (smallAnswer r c))

/-- The addresses that the driver uses, and the null pointer. -/
abbrev smallAddresses : Set Ptr := {0, 5, 6, 7, 8, 9}

theorem mem_named_create {q : CreateCall} {a : CreateAns} {p : Ptr}
    (hp : p ∈ named (.create q) a) : a.err = CL_SUCCESS ∧ p = a.object := by
  rw [named] at hp
  split at hp
  · exact ⟨‹_›, List.mem_singleton.mp hp⟩
  · exact absurd hp List.not_mem_nil

theorem mem_named_enqueue {q : Enqueue} {a : EnqueueAns} {p : Ptr}
    (hp : p ∈ named (.enqueue q) a) : a.err = CL_SUCCESS ∧ p = a.event := by
  rw [named] at hp
  split at hp
  · rename_i h
    exact ⟨h.1, List.mem_singleton.mp hp⟩
  · exact absurd hp List.not_mem_nil

/-- An answer that names one object at most. -/
theorem legal_create {A : Set Ptr} {q : CreateCall} {a : CreateAns} (ha : a.object ∈ A) :
    Legal A (.create q) a where
  mem p hp := by
    rw [(mem_named_create hp).2]
    exact ha
  length _ := by
    rw [named]
    split <;> simp
  fits := trivial

theorem legal_enqueue {A : Set Ptr} {q : Enqueue} {a : EnqueueAns} (ha : a.event ∈ A) :
    Legal A (.enqueue q) a where
  mem p hp := by
    rw [(mem_named_enqueue hp).2]
    exact ha
  length _ := by
    rw [named]
    split <;> simp
  fits := trivial

/-- The device is one word, where there is room for it. -/
theorem named_smallDevice (context : Ptr) (param : UInt32) {n : ℕ} (hn : 8 ≤ n) :
    named (.info (.clGetContextInfo context param) n)
      ⟨CL_SUCCESS, some 8, [6, 0, 0, 0, 0, 0, 0, 0]⟩ =
        if param = CL_CONTEXT_DEVICES then [6] else [] := by
  have hwords : words 1 (storeInto (zeros n) [6, 0, 0, 0, 0, 0, 0, 0]) = [6] := by
    have htake : ([6, 0, 0, 0, 0, 0, 0, 0] : Bytes).take n = [6, 0, 0, 0, 0, 0, 0, 0] :=
      List.take_of_length_le hn
    rw [words, words, wordAt, storeInto, length_zeros, htake, List.take_left' (by decide)]
    decide
  rw [named, namedByInfo, ← hwords]
  simp only [and_true]
  rfl

theorem legal_smallDevice (context : Ptr) (param : UInt32) {n : ℕ} (hn : 8 ≤ n) :
    Legal smallAddresses (.info (.clGetContextInfo context param) n)
      ⟨CL_SUCCESS, some 8, [6, 0, 0, 0, 0, 0, 0, 0]⟩ := by
  have hnamed := named_smallDevice context param hn
  refine ⟨fun p hp => ?_, fun _ => ?_, fun k hk => ?_, fun _ _ => hn⟩
  · rw [hnamed] at hp
    split at hp
    · simp [List.mem_singleton.mp hp]
    · exact absurd hp List.not_mem_nil
  · rw [hnamed]
    split <;> simp
  · rw [← Option.some.inj hk]
    exact (by decide : 8 ≤ 255)

theorem legal_smallQueue (event : Ptr) (param : UInt32) (n : ℕ) :
    Legal smallAddresses (.info (.clGetEventInfo event param) n)
      ⟨CL_SUCCESS, some 8, [8, 0, 0, 0, 0, 0, 0, 0]⟩ := by
  have hone : namedOne ⟨CL_SUCCESS, some 8, [8, 0, 0, 0, 0, 0, 0, 0]⟩ = [8] := by decide
  refine ⟨fun p hp => ?_, fun _ => ?_, fun k hk => ?_, trivial⟩
  · rw [named, namedByInfo, hone] at hp
    split at hp
    · simp [List.mem_singleton.mp hp]
    · exact absurd hp List.not_mem_nil
  · rw [named, namedByInfo, hone]
    split <;> simp
  · rw [← Option.some.inj hk]
    exact (by decide : 8 ≤ 2 ^ 32 - 1)

theorem legal_smallAnswer (r : References) (c : ServerCall) :
    Legal smallAddresses c (smallAnswer r c) := by
  have hrefuse : Legal smallAddresses c (refuse c) :=
    (legal_refuse c).mono (Set.singleton_subset_iff.mpr (Or.inl rfl))
  cases c with
  | create q =>
    cases q with
    | clCreateContextFromType | clCreateUserEvent | clCreateBuffer | clCreateCommandQueue =>
      exact legal_create (by simp [smallAnswer])
    | _ => exact hrefuse
  | enqueue q => exact legal_enqueue (by simp [smallAnswer])
  | info q n =>
    cases q with
    | clGetContextInfo context param =>
      rw [smallAnswer]
      split
      · exact legal_smallDevice context param ‹_›
      · have herr : ¬ CL_INVALID_VALUE = CL_SUCCESS := by decide
        have hnamed : named (.info (.clGetContextInfo context param) n)
            ⟨CL_INVALID_VALUE, none, []⟩ = [] := by
          rw [named, namedByInfo, if_neg fun h => herr h.2]
        refine ⟨fun p hp => ?_, fun _ => ?_, fun _ hk => ?_, fun _ h => absurd h herr⟩
        · rw [hnamed] at hp
          exact absurd hp List.not_mem_nil
        · rw [hnamed]
          exact Nat.zero_le _
        · cases hk
    | clGetEventInfo event param => exact legal_smallQueue event param n
    | _ => exact hrefuse
  | status q => exact ⟨fun _ hp => absurd hp List.not_mem_nil, fun _ => Nat.zero_le _, trivial⟩
  | _ => exact hrefuse

/-- A refused creation creates nothing. -/
theorem named_refuse_of_creates {c : ServerCall} (hc : c.creates = true) :
    named c (refuse c) = [] := by
  have herr : ¬ CL_INVALID_OPERATION = CL_SUCCESS := by decide
  cases c with
  | clCreateKernelsInProgram => rw [named, refuse, if_neg fun h => herr h.1]
  | enqueue => rw [named, refuse, if_neg fun h => herr h.1]
  | create => rw [named, refuse, if_neg herr]
  | clCreateProgramWithBinary => rw [named, refuse, if_neg herr]
  | _ => exact absurd hc Bool.false_ne_true

theorem References.eq_zero_of_free {r : References} {p : Ptr} (h : r.free p = CL_SUCCESS) :
    r p = 0 := by
  by_contra hp
  rw [free, if_neg hp] at h
  exact absurd h (by decide)

/-- It gives out addresses without references. -/
theorem counting_smallDriver (r : References) (c : ServerCall) :
    Counting smallAddresses r c (smallDriver r c).1 (smallDriver r c).2 := by
  refine ⟨legal_smallAnswer r c, fun hc => ?_, rfl⟩
  have hcreate {q : CreateCall} {p : Ptr} : (named (.create q) ⟨r.free p, p⟩).Nodup ∧
      ∀ o ∈ named (.create q) ⟨r.free p, p⟩, r o = 0 := by
    refine ⟨?_, fun o ho => ?_⟩
    · rw [named]
      split <;> simp
    · obtain ⟨herr, rfl⟩ := mem_named_create ho
      exact References.eq_zero_of_free herr
  have hrefuse : (named c (refuse c)).Nodup ∧ ∀ p ∈ named c (refuse c), r p = 0 := by
    rw [named_refuse_of_creates hc]
    exact ⟨List.nodup_nil, fun _ h => absurd h List.not_mem_nil⟩
  cases c with
  | create q =>
    cases q with
    | clCreateContextFromType | clCreateUserEvent | clCreateBuffer | clCreateCommandQueue =>
      exact hcreate
    | _ => exact hrefuse
  | enqueue q =>
    refine ⟨?_, fun o ho => ?_⟩
    · show (named (.enqueue q) ⟨r.free 9, 9, []⟩).Nodup
      rw [named]
      split <;> simp
    · obtain ⟨herr, rfl⟩ := mem_named_enqueue ho
      exact References.eq_zero_of_free herr
  | clCreateKernelsInProgram => exact hrefuse
  | clCreateProgramWithBinary => exact hrefuse
  | _ => exact absurd hc Bool.false_ne_true

/-- A context is created, with no property and for the devices of a type. -/
def contextCall : (apiCalls plainBuild References).Call :=
  ⟨.clCreateContextFromType [] 4 false true, Nat.zero_le _⟩

/-- A buffer is filled by a queue, with nothing to wait for. -/
def fillCall : (apiCalls plainBuild References).Call :=
  ⟨.clEnqueueFillBuffer (some ⟨2, 2, .queue⟩) (some ⟨3, 3, .memObject⟩) [0] 1 0 16 ⟨0, none, true⟩,
    Nat.zero_le _⟩

/-- A connection between two plain builds, and some calls on it with this driver. -/
@[irreducible] def smallRun (cs : List (apiCalls plainBuild References).Call) :
    CallConfig References :=
  executeCalls smallDriver ⟨plainBuild, 210⟩ 256 cs
    (start ⟨plainBuild, 210⟩ (.ret (.code CL_SUCCESS)) ⟨[], 0, [], false, []⟩ ⟨[], none⟩ 0)

theorem reachable_smallRun {cs : List (apiCalls plainBuild References).Call}
    (h : returnAll smallDriver ⟨plainBuild, 210⟩ 256 cs
      (start ⟨plainBuild, 210⟩ (.ret (.code CL_SUCCESS)) ⟨[], 0, [], false, []⟩ ⟨[], none⟩ 0) =
        true) :
    Threads.Reachable (Counting smallAddresses) ⟨plainBuild, 210⟩ ⟨[], 0, [], false, []⟩
      ⟨[], none⟩ 0
      (Threads.idle (smallRun cs) : Threads (Fin 1) (apiCalls plainBuild References)) := by
  rw [smallRun]
  exact Threads.reachable_executeCalls counting_smallDriver (fun _ _ _ => trivial) 0 .refl h

theorem accepted_plainBuild : Accepted plainBuild plainBuild :=
  ⟨_, [], _, LawfulWire.reads_dec (VersionPacket.ofBuild plainBuild) [], by decide⟩

end SmallDriver

end RemoteCL

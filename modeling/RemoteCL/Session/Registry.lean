import RemoteCL.Session.Lifetimes
import RemoteCL.Session.Resolution

/-!
# Which IDs the client can resolve

Whether a look-up yields an object depends on the history of both tables.  A `Registry` is that
history without the tables: the objects that the server has named, in the order in which it first
named them, and those of them that the client has registered.  Both tables can be read off it
(`Tables.Represents`): an object's ID is its place in the order, and a slot of the client is filled
if the object at its place is registered.

The server assigns an ID whenever it names an object, and the client only registers some.  So
`getOrInsertObject`, which takes every ID below the size of the table for a known one, is right
about an object if it is registered, or if the server has named it after all objects that are.
-/

namespace RemoteCL

open ByteStream Conversation Client

/-! ## Registries -/

/-- The objects that the two tables know. -/
structure Registry where
  /-- The objects that the server has named, in the order in which it first did. -/
  known : List Ptr
  /-- The ones that the client has registered. -/
  registered : List Ptr

namespace Registry

/-- Nothing has been named. -/
def empty : Registry := ⟨[], []⟩

/-- The server has first named the object after all that are registered, or not at all. -/
def Latest (R : Registry) (p : Ptr) : Prop :=
  ∀ q ∈ R.registered, R.known.idxOf q < R.known.idxOf p

instance (R : Registry) (p : Ptr) : Decidable (R.Latest p) :=
  inferInstanceAs (Decidable (∀ q ∈ R.registered, R.known.idxOf q < R.known.idxOf p))

/-- The objects that the server knows when it has named one. -/
def learn (known : List Ptr) (p : Ptr) : List Ptr := if p ∈ known then known else known ++ [p]

/-- A reply names an object. -/
def name (R : Registry) (n : Naming) : Registry where
  known := learn R.known n.object
  registered :=
    match n.use with
    | some (.registerID, _) => n.object :: R.registered
    | some (.getOrInsertObject, _) =>
      if R.Latest n.object then n.object :: R.registered else R.registered
    | _ => R.registered

/-- Replies name several objects. -/
def nameAll (R : Registry) (ns : List Naming) : Registry := ns.foldl name R

/-- The object that is looked up has been registered before, or is going to be. -/
def Finds (R : Registry) (n : Naming) : Prop :=
  match n.use with
  | some (.getObject, _) => n.object ∈ R.registered
  | some (.getOrInsertObject, _) => n.object ∈ R.registered ∨ R.Latest n.object
  | _ => True

/-- A condition on every naming, in the registry that it meets. -/
def Throughout (P : Registry → Naming → Prop) (R : Registry) : List Naming → Prop
  | [] => True
  | n :: ns => P R n ∧ (R.name n).Throughout P ns

/-- Every object that is looked up has been registered before, or is then. -/
def FindsAll (R : Registry) (ns : List Naming) : Prop := R.Throughout Finds ns

theorem nameAll_append (R : Registry) (ms ns : List Naming) :
    R.nameAll (ms ++ ns) = (R.nameAll ms).nameAll ns := List.foldl_append

theorem throughout_append (P : Registry → Naming → Prop) (R : Registry) (ms ns : List Naming) :
    R.Throughout P (ms ++ ns) ↔ R.Throughout P ms ∧ (R.nameAll ms).Throughout P ns := by
  induction ms generalizing R with
  | nil => exact (and_iff_right trivial).symm
  | cons m ms ih =>
    rw [List.cons_append, Throughout, Throughout, ih, and_assoc]
    rfl

end Registry

/-! ## The tables of a registry -/

/-- Both tables can be read off the registry. -/
structure Tables.Represents (T : Tables) (R : Registry) : Prop where
  server : T.server = R.known
  good : Good Set.univ R.known
  known : ∀ p ∈ R.registered, p ∈ R.known
  /-- A slot is filled if the object at its place is registered. -/
  filled : ∀ i, (∃ o, T.client.Holds i o) ↔ ∃ p ∈ R.registered, R.known[i]? = some p
  /-- The last slot is filled. -/
  last : ∀ i < T.client.mObjects.length, ∃ j ≥ i, ∃ o, T.client.Holds j o

theorem ClientState.Holds.lt_length {s : ClientState} {i : ℕ} {o : CLObject} (h : s.Holds i o) :
    i < s.mObjects.length := by
  by_contra hle
  rw [Holds, List.getElem?_eq_none (not_lt.mp hle)] at h
  cases h

/-- The place of an object that is known. -/
theorem getElem?_idxOf {known : List Ptr} {p : Ptr} (hp : p ∈ known) :
    known[known.idxOf p]? = some p := by
  rw [List.getElem?_eq_getElem (List.idxOf_lt_length_iff.mpr hp), List.getElem_idxOf]

theorem idxOf_of_getElem? {known : List Ptr} (h : known.Nodup) {i : ℕ} {p : Ptr}
    (hp : known[i]? = some p) : known.idxOf p = i := by
  obtain ⟨hi, rfl⟩ := List.getElem?_eq_some_iff.mp hp
  exact h.idxOf_getElem i hi

/-- The ID of an object is its place, and a new object comes last. -/
theorem assignID_learn {known known' : List Ptr} (hg : Good Set.univ known) {p : Ptr}
    {id : IDType} (h : assignID known p = some (id, known')) :
    known' = Registry.learn known p ∧ id.toNat = known.idxOf p := by
  rw [Registry.learn]
  rcases assignID_cases hg.length_le h with ⟨rfl, hget⟩ | ⟨hnew, rfl, hid, -⟩
  · exact ⟨(if_pos (List.mem_of_getElem? hget)).symm, (idxOf_of_getElem? hg.nodup hget).symm⟩
  · exact ⟨(if_neg hnew).symm, hid.trans (List.idxOf_eq_length hnew).symm⟩

/-- Learning another object moves nothing. -/
theorem learn_getElem? {known : List Ptr} {p q : Ptr} (hq : q ∈ known) (i : ℕ) :
    (Registry.learn known p)[i]? = some q ↔ known[i]? = some q := by
  rw [Registry.learn]
  split
  · rfl
  · rename_i hp
    rcases lt_trichotomy i known.length with hi | rfl | hi
    · rw [List.getElem?_append_left hi]
    · rw [List.getElem?_concat_length, List.getElem?_eq_none (le_refl _), Option.some.injEq]
      exact iff_of_false (fun h => hp (h ▸ hq)) nofun
    · have hle : (known ++ [p]).length ≤ i := by
        rw [List.length_append]
        exact hi
      rw [List.getElem?_eq_none hle, List.getElem?_eq_none hi.le]

/-- It stands at its place then. -/
theorem learn_getElem?_idxOf (known : List Ptr) (p : Ptr) :
    (Registry.learn known p)[known.idxOf p]? = some p := by
  rw [Registry.learn]
  split
  · exact getElem?_idxOf ‹_›
  · rw [List.idxOf_eq_length ‹_›, List.getElem?_concat_length]

theorem Tables.represents_empty {s : ClientState} (hs : s.mObjects = []) :
    Tables.Represents ⟨[], s⟩ Registry.empty where
  server := rfl
  good := good_nil _
  known _ h := absurd h List.not_mem_nil
  filled i := by
    refine iff_of_false (fun ⟨o, h⟩ => ?_) fun ⟨p, h, _⟩ => absurd h List.not_mem_nil
    have hlt := h.lt_length
    rw [hs] at hlt
    exact absurd hlt (Nat.not_lt_zero i)
  last i h := by
    have hlt : i < s.mObjects.length := h
    rw [hs] at hlt
    exact absurd hlt (Nat.not_lt_zero i)

namespace Tables.Represents

variable {T T' : Tables} {R : Registry}

/-- The slot at the place of an object is filled if the object is registered. -/
theorem holds_idxOf (h : T.Represents R) (p : Ptr) :
    (∃ o, T.client.Holds (R.known.idxOf p) o) ↔ p ∈ R.registered := by
  rw [h.filled]
  constructor
  · rintro ⟨q, hq, hget⟩
    have hlt : R.known.idxOf p < R.known.length := (List.getElem?_eq_some_iff.mp hget).1
    rw [getElem?_idxOf (List.idxOf_lt_length_iff.mp hlt), Option.some.injEq] at hget
    exact hget ▸ hq
  · exact fun hp => ⟨p, hp, getElem?_idxOf (h.known p hp)⟩

/-- The server has named an object after all that are registered if its place is beyond the
client's table. -/
theorem latest_iff (h : T.Represents R) (p : Ptr) :
    R.Latest p ↔ T.client.mObjects.length ≤ R.known.idxOf p := by
  constructor
  · intro hlatest
    by_contra hlt
    obtain ⟨j, hj, hholds⟩ := h.last _ (not_le.mp hlt)
    obtain ⟨q, hq, hget⟩ := (h.filled j).mp hholds
    have hidx := hlatest q hq
    rw [idxOf_of_getElem? h.good.nodup hget] at hidx
    exact absurd hj (not_le.mpr hidx)
  · intro hle q hq
    obtain ⟨o, ho⟩ := (h.holds_idxOf q).mpr hq
    exact ho.lt_length.trans_le hle

/-- The server names an object, and the client registers nothing. -/
theorem learn (h : T.Represents R) {p : Ptr} (hg : Good Set.univ (Registry.learn R.known p))
    {s : ClientState} (hs : s.mObjects = T.client.mObjects) :
    Tables.Represents ⟨Registry.learn R.known p, s⟩ ⟨Registry.learn R.known p, R.registered⟩ where
  server := rfl
  good := hg
  known q hq := List.mem_of_getElem? ((learn_getElem? (h.known q hq) _).mpr
    (getElem?_idxOf (h.known q hq)))
  filled i := by
    simp only [ClientState.Holds, hs]
    refine (h.filled i).trans (exists_congr fun q => and_congr_right fun hq => ?_)
    exact (learn_getElem? (h.known q hq) i).symm
  last i hi := by
    simp only [ClientState.Holds, hs] at hi ⊢
    exact h.last i hi

/-- The server names an object, and the client registers it. -/
theorem register (h : T.Represents R) {p : Ptr} (hg : Good Set.univ (Registry.learn R.known p))
    {id : IDType} (hid : id.toNat = R.known.idxOf p) (kind : Kind) {s : ClientState}
    (hs : s.mObjects = (T.client.register kind id).mObjects) :
    Tables.Represents ⟨Registry.learn R.known p, s⟩
      ⟨Registry.learn R.known p, p :: R.registered⟩ where
  server := rfl
  good := hg
  known q hq := by
    rcases List.mem_cons.mp hq with rfl | hq
    · exact List.mem_of_getElem? (learn_getElem?_idxOf R.known q)
    · exact (h.learn hg rfl).known q hq
  filled i := by
    have hplace : (Registry.learn R.known p)[i]? = some p ↔ i = id.toNat := by
      rw [hid]
      constructor
      · intro hi
        rw [← idxOf_of_getElem? hg.nodup hi, idxOf_of_getElem? hg.nodup
          (learn_getElem?_idxOf R.known p)]
      · rintro rfl
        exact learn_getElem?_idxOf R.known p
    have hrest := (h.learn hg rfl).filled i
    have hholds : ∀ o, s.Holds i o ↔ (T.client.register kind id).Holds i o := fun o => by
      rw [ClientState.Holds, ClientState.Holds, hs]
    simp only [hholds, ClientState.holds_register, List.exists_mem_cons_iff, hplace]
    by_cases hi : i = id.toNat
    · simp only [if_pos hi]
      exact iff_of_true ⟨_, rfl⟩ (Or.inl hi)
    · simp only [if_neg hi]
      rw [or_iff_right hi]
      exact hrest
  last i hi := by
    have hholds : ∀ j o, s.Holds j o ↔ (T.client.register kind id).Holds j o := fun j o => by
      rw [ClientState.Holds, ClientState.Holds, hs]
    have hlt : i < max T.client.mObjects.length (id.toNat + 1) := by
      rw [← length_growTo, ← List.length_set]
      exact hs ▸ hi
    simp only [hholds, ClientState.holds_register]
    by_cases hle : i ≤ id.toNat
    · exact ⟨id.toNat, hle, _, (if_pos rfl).mpr rfl⟩
    · obtain ⟨j, hj, o, ho⟩ := h.last i (by omega)
      exact ⟨j, hj, o, (if_neg (by omega)).mpr ho⟩

/-- **A naming does to the tables what it does to the registry.** -/
theorem name (h : T.Represents R) {n : Naming} (hn : n.apply T = some T') :
    T'.Represents (R.name n) := by
  rw [Naming.apply, Option.map_eq_some_iff] at hn
  obtain ⟨⟨id, known'⟩, hid, rfl⟩ := hn
  rw [h.server] at hid
  obtain ⟨rfl, hplace⟩ := assignID_learn h.good hid
  have hg := h.good.assignID (Set.mem_univ n.object) hid
  rw [Registry.name, Naming.resolve]
  cases n.use with
  | none => exact h.learn hg rfl
  | some use =>
    obtain ⟨how, kind⟩ := use
    have hlatest := h.latest_iff n.object
    rcases how.apply_cases T.client kind id with ⟨hhow, -, hs, hlt⟩ | ⟨hhow, -, hs, hle⟩
    · have hlearn := h.learn hg (s := (how.apply T.client kind id).2) (by rw [hs]; rfl)
      cases how with
      | getObject => exact hlearn
      | registerID => exact absurd rfl hhow
      | getOrInsertObject =>
        rw [if_neg (hlatest.not.mpr (not_le.mpr (hplace ▸ hlt rfl)))]
        exact hlearn
    · have hregister := h.register hg hplace kind (s := (how.apply T.client kind id).2)
        (by rw [hs]; rfl)
      cases how with
      | getObject => exact absurd rfl hhow
      | registerID => exact hregister
      | getOrInsertObject =>
        rw [if_pos (hlatest.mpr (hplace ▸ hle rfl))]
        exact hregister

/-- A look-up finds what it needs if the registry says so. -/
theorem met_iff (h : T.Represents R) {n : Naming} (hn : n.apply T = some T') :
    n.Met T ↔ R.Finds n := by
  rw [Naming.apply, Option.map_eq_some_iff] at hn
  obtain ⟨⟨id, known'⟩, hid, -⟩ := hn
  have hplace : id.toNat = R.known.idxOf n.object :=
    (assignID_learn h.good (h.server ▸ hid)).2
  rw [Naming.Met, Registry.Finds, hid]
  cases n.use with
  | none => exact Iff.rfl
  | some use =>
    obtain ⟨how, kind⟩ := use
    cases how with
    | registerID => exact Iff.rfl
    | getObject =>
      rw [← h.holds_idxOf, ← hplace]
    | getOrInsertObject =>
      rw [← h.holds_idxOf, h.latest_iff, ← hplace]
      show T.client.mObjects[id.toNat]? ≠ some none ↔ _
      simp only [ClientState.Holds]
      by_cases hlt : id.toNat < T.client.mObjects.length
      · rw [or_iff_left (not_le.mpr hlt), List.getElem?_eq_getElem hlt, ne_eq, Option.some.injEq,
          ← ne_eq, Option.ne_none_iff_exists']
        simp only [Option.some.injEq]
      · rw [List.getElem?_eq_none (not_lt.mp hlt)]
        exact iff_of_true (Option.some_ne_none _).symm (Or.inr (not_lt.mp hlt))

theorem nameAll (h : T.Represents R) {ns : List Naming} (hns : applyAll ns T = some T') :
    T'.Represents (R.nameAll ns) := by
  induction ns generalizing T R with
  | nil =>
    rw [applyAll, Option.some.injEq] at hns
    exact hns ▸ h
  | cons n ns ih =>
    rw [applyAll, Option.bind_eq_some_iff] at hns
    obtain ⟨T₁, hn, hns⟩ := hns
    exact ih (h.name hn) hns

/-- A condition on the tables along some namings, as one on the registry. -/
theorem along_iff {P : Naming → Tables → Prop} {Q : Registry → Naming → Prop}
    (hPQ : ∀ {T T' : Tables} {R : Registry} {n : Naming}, T.Represents R → T.client.Sound →
      n.apply T = some T' → (P n T ↔ Q R n)) (h : T.Represents R) (hT : T.client.Sound)
    {ns : List Naming} (hns : applyAll ns T = some T') : Along P ns T ↔ R.Throughout Q ns := by
  induction ns generalizing T R with
  | nil => exact Iff.rfl
  | cons n ns ih =>
    rw [applyAll, Option.bind_eq_some_iff] at hns
    obtain ⟨T₁, hn, hns⟩ := hns
    rw [Along, Registry.Throughout, hPQ h hT hn, hn]
    simp only [Option.some.injEq, forall_eq', ih (h.name hn) (n.sound_apply hn hT) hns]

end Tables.Represents

/-! ## Histories -/

section Histories

variable {δ : Type} {I : Interface δ} {E : δ → (c : ServerCall) → Ans c → δ → Prop}
variable {s₀ s : ClientState} {t₀ t : ServerState} {e₀ e : δ} {xs : List (Exchange I)}

/-- What the replies of a history have named. -/
def namedIn (xs : List (Exchange I)) : List Naming := xs.flatMap Exchange.namings

theorem namedIn_concat (xs : List (Exchange I)) (x : Exchange I) :
    namedIn (xs ++ [x]) = namedIn xs ++ x.namings := by
  rw [namedIn, List.flatMap_append, List.flatMap_singleton]
  rfl

/-- The tables are those of the registry. -/
theorem Ran.represents (h : Ran E s₀ t₀ e₀ xs s t e) (hs : s₀.mObjects = [])
    (ht : t₀.mObjects = []) :
    (tables s t).Represents (Registry.empty.nameAll (namedIn xs)) := by
  induction h with
  | nil =>
    rw [tables, ht]
    exact Tables.represents_empty hs
  | snoc _ c _ htables _ _ ih =>
    rw [namedIn_concat, Registry.nameAll_append]
    exact ih.nameAll htables

/-- The look-ups find what they need if the registry says so. -/
theorem Ran.met_iff (h : Ran E s₀ t₀ e₀ xs s t e) (hs : s₀.mObjects = [])
    (ht : t₀.mObjects = []) :
    (∀ x ∈ xs, x.Met) ↔ Registry.empty.FindsAll (namedIn xs) := by
  induction h with
  | nil => exact iff_of_true (fun _ h => absurd h List.not_mem_nil) trivial
  | snoc hran c _ htables _ _ ih =>
    have halong := Tables.Represents.along_iff (P := Naming.Met) (Q := Registry.Finds)
      (fun hrep _ hn => hrep.met_iff hn)
      (hran.represents hs ht) (ClientState.sound_core.mpr (hran.sound hs).1) htables
    rw [namedIn_concat, Registry.FindsAll, Registry.throughout_append]
    simp only [List.mem_append, List.mem_singleton, or_imp, forall_and, forall_eq]
    exact and_congr ih halong

/-- **The look-ups of a history all yield an object exactly if each object that is looked up has
been registered before, or is then.** -/
theorem Ran.resolves_iff_findsAll (h : Ran E s₀ t₀ e₀ xs s t e) (hs : s₀.mObjects = [])
    (ht : t₀.mObjects = []) (htrace : s₀.trace = []) :
    s.Resolves ↔ Registry.empty.FindsAll (namedIn xs) :=
  (h.resolves_iff hs htrace).trans (h.met_iff hs ht)

end Histories

/-! ## Runs -/

section Runs

variable {ι δ : Type} [DecidableEq ι] {E : δ → (c : ServerCall) → Ans c → δ → Prop}
variable {B : ServerBuild} {C : Build} {s : ClientState} {t : ServerState} {e : δ}

/-- **Which look-ups yield an object**: wherever a run has led, the call that is being made comes to
rest with a history, and all look-ups so far have yielded an object with the ID if and only if each
object that was looked up had been registered before, or was then. -/
theorem Threads.lookups_yield_iff {A : Set Ptr} (hE : AllLegal A E) (hB : 210 ≤ B.clTarget)
    (haccepted : Accepted C B.toBuild) (hz : ZlibInverts C B.toBuild) (hs : s.mObjects = [])
    (htrace : s.trace = []) (ht : t.mObjects = []) {x : Threads ι (apiCalls C δ)}
    (h : Reachable E B s t e x) :
    Settles E (ServerInstance.serve B)
      (Final B A fun _ s' t' e' => ∃ xs : List (Exchange (apiCalls C δ)),
        Ran E s t e xs s' t' e' ∧ (s'.Resolves ↔ Registry.empty.FindsAll (namedIn xs))) x.conv := by
  refine (Threads.settles_ran hE (lawful_apiCalls hE hB haccepted hz) ht h).mono fun _ => ?_
  exact Final.mono fun ⟨xs, hran⟩ => ⟨xs, hran, hran.resolves_iff_findsAll hs ht htrace⟩

/-- The devices of a context are asked for, but for their size only, an event is created, and the
devices are asked for again. -/
def deviceCalls : List (apiCalls plainBuild References).Call :=
  [contextCall,
    ⟨.clGetContextInfo (some ⟨0, 0, .context⟩) CL_CONTEXT_DEVICES ⟨0, false, true⟩, trivial⟩,
    ⟨.clCreateUserEvent (some ⟨0, 0, .context⟩) true, trivial⟩,
    ⟨.clGetContextInfo (some ⟨0, 0, .context⟩) CL_CONTEXT_DEVICES ⟨8, true, true⟩, trivial⟩]

theorem reachable_deviceCalls : Threads.Reachable (Counting smallAddresses) ⟨plainBuild, 210⟩
    ⟨[], 0, [], false, []⟩ ⟨[], none⟩ 0
    (Threads.idle (smallRun deviceCalls) : Threads (Fin 1) (apiCalls plainBuild References)) :=
  reachable_smallRun (by decide +kernel)

theorem Threads.lookups_yield_iff_deviceCalls :
    Settles (Counting smallAddresses) (ServerInstance.serve ⟨plainBuild, 210⟩)
      (Final ⟨plainBuild, 210⟩ smallAddresses fun _ s' t' e' =>
        ∃ xs : List (Exchange (apiCalls plainBuild References)),
          Ran (Counting smallAddresses) ⟨[], 0, [], false, []⟩ ⟨[], none⟩ 0 xs s' t' e' ∧
            (s'.Resolves ↔ Registry.empty.FindsAll (namedIn xs))) (smallRun deviceCalls) :=
  Threads.lookups_yield_iff (B := ⟨plainBuild, 210⟩) (C := plainBuild) (allLegal_counting _)
    (le_refl 210) accepted_plainBuild (fun _ h => nomatch h) rfl rfl rfl reachable_deviceCalls

/-- The event has made the client's table larger than the ID of the device, which
`getOrInsertObject` then takes for known: it yields a null pointer. -/
theorem unregistered_device_looked_up :
    ¬ ∀ x : Threads (Fin 1) (apiCalls plainBuild References),
      Threads.Reachable (Counting smallAddresses) ⟨plainBuild, 210⟩ ⟨[], 0, [], false, []⟩
        ⟨[], none⟩ 0 x → x.conv.client.st.Resolves := by
  intro h
  have hlookup : .lookup .deviceID 1 .null ∈ (smallRun deviceCalls).client.st.trace := by
    decide +kernel
  obtain ⟨o, ho, -⟩ := h _ reachable_deviceCalls _ _ _ hlookup
  exact nomatch ho

end Runs

end RemoteCL

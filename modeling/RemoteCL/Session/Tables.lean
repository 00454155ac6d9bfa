import RemoteCL.Client.Connection
import RemoteCL.Server.Numbering

/-!
# The two object tables

The server has a table of driver objects, the client has a table of client objects, and an ID is
a position in both.  A reply that names objects changes the server's table first, when the server
assigns the IDs, and the client's table later, when the client resolves them, if it does.

`Naming` is one object that a reply names, with what the client does about its ID, and
`Naming.apply` is the joint effect on `Tables`, the pair of tables.  This is the level at which the
tables can be compared: what a whole call does to them is a list of namings, whatever packets
carry it.

The tables leave out what has nothing to do with objects.  Of the client's trace only the look-ups
are kept (`ClientState.core`).
-/

namespace RemoteCL

open Client

/-! ## The client's table -/

/-- The part of a client's state that has to do with objects: the trace keeps the look-ups. -/
def ClientState.core (s : ClientState) : ClientState :=
  { s with
    mCallbacks := []
    hasEventStream := false
    trace := s.trace.filter fun
      | .lookup _ _ _ => true
      | .store _ => false }

@[simp] theorem ClientState.core_note_store (s : ClientState) (x : Store) :
    (s.note (.store x)).core = s.core := by
  simp [core, note]

/-- Resolving an ID looks at nothing else, and changes nothing else. -/
@[simp] theorem Resolve.core_apply (how : Resolve) (s : ClientState) (kind : Kind)
    (id : IDType) :
    how.apply s.core kind id = ((how.apply s kind id).1, (how.apply s kind id).2.core) := by
  cases how with
  | getObject => simp [Resolve.apply, ClientState.getObject, ClientState.core, ClientState.note]
  | registerID =>
    simp [Resolve.apply, ClientState.registerID, ClientState.register, ClientState.newHandle,
      ClientState.core, ClientState.note]
  | getOrInsertObject =>
    by_cases h : id.toNat < s.mObjects.length
    · simp [Resolve.apply, ClientState.getOrInsertObject, ClientState.getObject,
        ClientState.core, ClientState.note, h]
    · simp [Resolve.apply, ClientState.getOrInsertObject, ClientState.registerID,
        ClientState.register, ClientState.newHandle, ClientState.core, ClientState.note, h]

theorem Resolve.core_applyAll (how : Resolve) (s : ClientState) (kind : Kind)
    (ids : List IDType) :
    how.applyAll s.core kind ids =
      ((how.applyAll s kind ids).1, (how.applyAll s kind ids).2.core) := by
  induction ids generalizing s with
  | nil => rfl
  | cons id ids ih => simp [applyAll, ih]

/-! ## Both tables -/

/-- The two tables. -/
structure Tables where
  server : List Ptr
  client : ClientState
  deriving DecidableEq

/-- The tables of a server and a client. -/
def tables (s : ClientState) (t : ServerState) : Tables := ⟨t.mObjects, s.core⟩

/-- An object that a reply names, and how the client resolves its ID, if it does. -/
structure Naming where
  object : Ptr
  use : Option (Resolve × Kind)
  deriving DecidableEq

/-- What the client does about an ID. -/
def Naming.resolve (n : Naming) (s : ClientState) (id : IDType) : ClientState :=
  match n.use with
  | some (how, kind) => (how.apply s kind id).2
  | none => s

/-- The effect of a naming; `none` when the server's search for the object does not end. -/
def Naming.apply (n : Naming) (T : Tables) : Option Tables :=
  (assignID T.server n.object).map fun a => ⟨a.2, n.resolve T.client a.1⟩

/-- The effect of several namings. -/
def applyAll : List Naming → Tables → Option Tables
  | [], T => some T
  | n :: ns, T => (n.apply T).bind (applyAll ns)

/-- The objects of a reply, of which the first `k` are resolved. -/
def namings (use : Option (Resolve × Kind)) (k : ℕ) (ps : List Ptr) : List Naming :=
  (ps.take k).map (⟨·, use⟩) ++ (ps.drop k).map (⟨·, none⟩)

theorem namings_nil (use : Option (Resolve × Kind)) (k : ℕ) : namings use k [] = [] := by
  simp [namings]

theorem namings_zero (use : Option (Resolve × Kind)) (ps : List Ptr) :
    namings use 0 ps = ps.map (⟨·, none⟩) := by
  simp [namings]

theorem namings_succ_cons (use : Option (Resolve × Kind)) (k : ℕ) (p : Ptr) (ps : List Ptr) :
    namings use (k + 1) (p :: ps) = ⟨p, use⟩ :: namings use k ps := by
  simp [namings]

/-- The server assigns all the IDs first, and the client then resolves some: the effect is the
same. -/
theorem applyAll_namings (how : Resolve) (kind : Kind) {k : ℕ} {ps objects objects' : List Ptr}
    {ids : List IDType} (s : ClientState) (h : assignIDs objects ps = some (ids, objects')) :
    applyAll (namings (some (how, kind)) k ps) ⟨objects, s⟩ =
      some ⟨objects', (how.applyAll s kind (ids.take k)).2⟩ := by
  induction ps generalizing objects objects' ids k s with
  | nil =>
    simp only [assignIDs, Option.some.injEq, Prod.mk.injEq] at h
    obtain ⟨rfl, rfl⟩ := h
    rw [namings_nil, List.take_nil]
    rfl
  | cons p ps ih =>
    simp only [assignIDs, Option.bind_eq_some_iff, Option.map_eq_some_iff] at h
    obtain ⟨⟨id, objs⟩, hid, ⟨ids', objs'⟩, hids, heq⟩ := h
    rw [Prod.mk.injEq] at heq
    obtain ⟨rfl, rfl⟩ := heq
    cases k with
    | zero =>
      have hrest := ih (k := 0) s hids
      rw [namings_zero] at hrest ⊢
      rw [List.map_cons, applyAll, Naming.apply, hid]
      exact hrest
    | succ k =>
      rw [namings_succ_cons, applyAll, Naming.apply, hid, List.take_succ_cons]
      exact ih _ hids

end RemoteCL

import RemoteCL.Session.Rules

/-!
# The effect of a call

What is said here about a call that has come to rest does not mention packets.  `Effect` relates
the states before and after: the driver was asked some questions; the two tables have changed by
the namings that the last answer stands for; and every handle that the application has received,
as a result or through a pointer, is one that the call has looked up.

`takes` is how many of the named objects the client resolves, which depends on the arguments of
the call.  `truncates` says that the call may store a part of a handle.
-/

namespace RemoteCL

open ByteStream Conversation Client

/-! ## Handles -/

/-- The handles stored by an event, with the kind that the application takes them for. -/
def ClientEvent.handles : ClientEvent → List (Kind × Lookup)
  | .store (.event h) => [(.event, h)]
  | .store (.entries kind hs) => hs.map fun h => (kind, h)
  | .store (.next_entry kind h) => [(kind, h)]
  | .store (.param_handles kind hs) => hs.map fun h => (kind, h)
  | _ => []

/-- The handle that a function returns. -/
def Client.Ret.handles : Ret → List (Kind × Lookup)
  | .handle kind (some h) => [(kind, h)]
  | _ => []

/-- A part of a handle is stored. -/
def ClientEvent.truncates : ClientEvent → Bool
  | .store (.param_handle_bytes _ _ _) => true
  | _ => false

/-! ## The trace -/

/-- The events that a client has added to its trace. -/
def Extends (s s' : ClientState) (new : List ClientEvent) : Prop := s'.trace = s.trace ++ new

theorem Extends.refl (s : ClientState) : Extends s s [] := (List.append_nil _).symm

theorem Extends.stored {s s' : ClientState} {new : List ClientEvent} (h : Extends s s' new)
    (pointer : Bool) (x : Store) :
    Extends s (s'.stored pointer x) (new ++ if pointer then [.store x] else []) := by
  cases pointer with
  | false =>
    rw [if_neg Bool.false_ne_true, List.append_nil]
    exact h
  | true =>
    rw [if_pos rfl, Extends, ← List.append_assoc, ← h]
    rfl

theorem Resolve.trace_apply (how : Resolve) (s : ClientState) (kind : Kind) (id : IDType) :
    (how.apply s kind id).2.trace = s.trace ++ [.lookup kind id (how.apply s kind id).1] := by
  cases how with
  | getObject => rfl
  | registerID => rfl
  | getOrInsertObject =>
    rw [apply, ClientState.getOrInsertObject]
    split <;> rfl

theorem Extends.apply {s s' : ClientState} {new : List ClientEvent} (h : Extends s s' new)
    (how : Resolve) (kind : Kind) (id : IDType) :
    Extends s (how.apply s' kind id).2 (new ++ [.lookup kind id (how.apply s' kind id).1]) := by
  rw [Extends, how.trace_apply, h, List.append_assoc]

/-- The look-ups of several IDs. -/
def lookupEvents (kind : Kind) (ids : List IDType) (rs : List Lookup) : List ClientEvent :=
  List.zipWith (ClientEvent.lookup kind) ids rs

theorem Resolve.length_applyAll (how : Resolve) (s : ClientState) (kind : Kind)
    (ids : List IDType) : (how.applyAll s kind ids).1.length = ids.length := by
  induction ids generalizing s with
  | nil => rfl
  | cons id ids ih =>
    rw [applyAll, List.length_cons, List.length_cons, ih]

theorem Extends.applyAll {s s' : ClientState} {new : List ClientEvent} (h : Extends s s' new)
    (how : Resolve) (kind : Kind) (ids : List IDType) :
    Extends s (how.applyAll s' kind ids).2
      (new ++ lookupEvents kind ids (how.applyAll s' kind ids).1) := by
  induction ids generalizing s' new with
  | nil =>
    rw [lookupEvents, List.zipWith_nil_left, List.append_nil]
    exact h
  | cons id ids ih =>
    have hrest := ih (h.apply how kind id)
    rw [List.append_assoc] at hrest
    exact hrest

/-- Every result of looking up several IDs has its event. -/
theorem exists_lookup_mem (kind : Kind) {ids : List IDType} {rs : List Lookup}
    (hlen : rs.length = ids.length) {r : Lookup} (hr : r ∈ rs) :
    ∃ id, ClientEvent.lookup kind id r ∈ lookupEvents kind ids rs := by
  induction rs generalizing ids with
  | nil => exact absurd hr List.not_mem_nil
  | cons r' rs ih =>
    cases ids with
    | nil => exact absurd hlen (by simp)
    | cons id ids =>
      rcases List.mem_cons.mp hr with rfl | hr
      · exact ⟨id, List.mem_cons_self⟩
      · obtain ⟨id', hid'⟩ := ih (Nat.succ.inj hlen) hr
        exact ⟨id', List.mem_cons_of_mem _ hid'⟩

theorem handles_lookupEvents (kind : Kind) (ids : List IDType) (rs : List Lookup) :
    (lookupEvents kind ids rs).flatMap ClientEvent.handles = [] := by
  rw [List.flatMap_eq_nil_iff]
  intro ev hev
  obtain ⟨i, hi, rfl⟩ := List.mem_iff_getElem.mp hev
  rw [lookupEvents, List.length_zipWith] at hi
  simp [lookupEvents, ClientEvent.handles]

theorem truncates_lookupEvents {kind : Kind} {ids : List IDType} {rs : List Lookup}
    {ev : ClientEvent} (hev : ev ∈ lookupEvents kind ids rs) : ev.truncates = false := by
  obtain ⟨i, hi, rfl⟩ := List.mem_iff_getElem.mp hev
  rw [lookupEvents, List.length_zipWith] at hi
  simp [lookupEvents, ClientEvent.truncates]

/-! ## Taking replies in -/

/-- What the client has done since the state `s₀`: it has looked up `found`, it has stored no other
handles, and its tables are those of `core`. -/
structure Since (truncates : Bool) (s₀ s : ClientState) (found : List (Kind × Lookup))
    (core : ClientState) : Prop where
  core_eq : s.core = core
  exists_new : ∃ new, Extends s₀ s new ∧
    (∀ x ∈ found, ∃ id, ClientEvent.lookup x.1 id x.2 ∈ new) ∧
    ∀ ev ∈ new, (∀ x ∈ ev.handles, x ∈ found) ∧ (ev.truncates = true → truncates = true)

section Since

variable {truncates : Bool} {s₀ s : ClientState} {found : List (Kind × Lookup)}
variable {core : ClientState}

theorem Since.refl (truncates : Bool) (s : ClientState) : Since truncates s s [] s.core :=
  ⟨rfl, [], .refl s, fun _ h => absurd h List.not_mem_nil, fun _ h => absurd h List.not_mem_nil⟩

/-- Storing what has been looked up. -/
theorem Since.stored (h : Since truncates s₀ s found core) (pointer : Bool) {x : Store}
    (hx : ∀ y ∈ (ClientEvent.store x).handles, y ∈ found)
    (ht : (ClientEvent.store x).truncates = true → truncates = true) :
    Since truncates s₀ (s.stored pointer x) found core := by
  obtain ⟨hcore, new, hnew, hfound, hev⟩ := h
  refine ⟨(s.core_stored pointer x).trans hcore, _, hnew.stored pointer x, fun y hy => ?_, ?_⟩
  · obtain ⟨id, hid⟩ := hfound y hy
    exact ⟨id, List.mem_append_left _ hid⟩
  · intro ev hmem
    rcases List.mem_append.mp hmem with hmem | hmem
    · exact hev ev hmem
    · cases pointer with
      | false => exact absurd hmem List.not_mem_nil
      | true =>
        rw [List.mem_singleton.mp hmem]
        exact ⟨hx, ht⟩

/-- Storing something without handles. -/
theorem Since.stored_plain (h : Since truncates s₀ s found core) (pointer : Bool) {x : Store}
    (hx : (ClientEvent.store x).handles = []) (ht : (ClientEvent.store x).truncates = false) :
    Since truncates s₀ (s.stored pointer x) found core := by
  refine h.stored pointer (fun y hy => ?_) fun htrue => ?_
  · rw [hx] at hy
    exact absurd hy List.not_mem_nil
  · rw [ht] at htrue
    exact absurd htrue Bool.false_ne_true

/-- Looking several IDs up. -/
theorem Since.applyAll (h : Since truncates s₀ s found core) (how : Resolve) (kind : Kind)
    (ids : List IDType) :
    Since truncates s₀ (how.applyAll s kind ids).2
      (found ++ (how.applyAll s kind ids).1.map fun r => (kind, r))
      (how.applyAll core kind ids).2 := by
  obtain ⟨hcore, new, hnew, hfound, hev⟩ := h
  refine ⟨?_, _, hnew.applyAll how kind ids, fun y hy => ?_, fun ev hmem => ?_⟩
  · rw [← hcore, how.core_applyAll]
  · rcases List.mem_append.mp hy with hy | hy
    · obtain ⟨id, hid⟩ := hfound y hy
      exact ⟨id, List.mem_append_left _ hid⟩
    · obtain ⟨r, hr, rfl⟩ := List.mem_map.mp hy
      obtain ⟨id, hid⟩ := exists_lookup_mem kind (how.length_applyAll s kind ids) hr
      exact ⟨id, List.mem_append_right _ hid⟩
  · rcases List.mem_append.mp hmem with hmem | hmem
    · exact ⟨fun x hx => List.mem_append_left _ ((hev ev hmem).1 x hx), (hev ev hmem).2⟩
    · have hnone := List.flatMap_eq_nil_iff.mp
        (handles_lookupEvents kind ids (how.applyAll s kind ids).1)
        ev hmem
      refine ⟨fun x hx => ?_, fun htrue => ?_⟩
      · rw [hnone] at hx
        exact absurd hx List.not_mem_nil
      · rw [truncates_lookupEvents hmem] at htrue
        exact absurd htrue Bool.false_ne_true

/-- Looking one ID up. -/
theorem Since.apply (h : Since truncates s₀ s found core) (how : Resolve) (kind : Kind)
    (id : IDType) :
    Since truncates s₀ (how.apply s kind id).2 (found ++ [(kind, (how.apply s kind id).1)])
      (how.applyAll core kind [id]).2 := h.applyAll how kind [id]

/-- Registering a callback. -/
theorem Since.callbacks (h : Since truncates s₀ s found core) (l : List Callback) :
    Since truncates s₀ { s with mCallbacks := l } found core :=
  ⟨h.core_eq, h.exists_new⟩

end Since

/-! ## Effects -/

section Effect

variable {δ : Type} (E : δ → (c : ServerCall) → Ans c → δ → Prop)

/-- The handles that the application has received have been looked up. -/
def Received (truncates : Bool) (r : Ret) (new : List ClientEvent) : Prop :=
  (∀ x ∈ r.handles ++ new.flatMap ClientEvent.handles, ∃ id, .lookup x.1 id x.2 ∈ new) ∧
    (truncates = false → ∀ ev ∈ new, ev.truncates = false)

theorem Since.received {truncates : Bool} {s₀ s : ClientState} {found : List (Kind × Lookup)}
    {core : ClientState} (h : Since truncates s₀ s found core) {r : Ret}
    (hr : ∀ x ∈ r.handles, x ∈ found) : ∃ new, Extends s₀ s new ∧ Received truncates r new := by
  obtain ⟨-, new, hnew, hfound, hev⟩ := h
  refine ⟨new, hnew, fun x hx => hfound x ?_, fun hfalse ev hmem => ?_⟩
  · rcases List.mem_append.mp hx with hx | hx
    · exact hr x hx
    · obtain ⟨ev, hmem, hx⟩ := List.mem_flatMap.mp hx
      exact (hev ev hmem).1 x hx
  · rw [Bool.eq_false_iff]
    intro htrue
    rw [(hev ev hmem).2 htrue] at hfalse
    exact absurd hfalse (by decide)

/-- The effect of a call. -/
def Effect (takes : List IDType → ℕ) (truncates : Bool) (s : ClientState) (t : ServerState)
    (e : δ) (r : Ret) (s' : ClientState) (t' : ServerState) (e' : δ) : Prop :=
  ∃ log new, Asks E e log e' ∧
    applyAll (namingsOf takes t.mObjects log) (tables s t) = some (tables s' t') ∧
    Extends s s' new ∧ Received truncates r new

variable {E} {takes : List IDType → ℕ} {truncates : Bool} {s s' : ClientState}
variable {t t' : ServerState} {e e' : δ} {r : Ret} {log : List Asked}
variable {found : List (Kind × Lookup)}

/-- A call that names nothing. -/
theorem Effect.quiet (hlog : Asks E e log e') (hnamings : namingsOf takes t.mObjects log = [])
    (hs : Since truncates s s' found s.core) (hr : ∀ x ∈ r.handles, x ∈ found)
    (hobjects : t'.mObjects = t.mObjects) : Effect E takes truncates s t e r s' t' e' := by
  obtain ⟨new, hnew, hreceived⟩ := hs.received hr
  refine ⟨log, new, hlog, ?_, hnew, hreceived⟩
  rw [hnamings, applyAll, tables, tables, hs.core_eq, hobjects]

/-- A call that names some objects, and resolves as many of them as it takes. -/
theorem Effect.names {c : ServerCall} {a : Ans c} (hlog : Asks E e log e')
    (hlast : log.getLast? = some ⟨c, a⟩) {how : Resolve} {kind : Kind}
    (huse : useOf c = some (how, kind)) {ids : List IDType}
    (hids : assignIDs t.mObjects (named c a) = some (ids, t'.mObjects))
    (hs : Since truncates s s' found (how.applyAll s.core kind (ids.take (takes ids))).2)
    (hr : ∀ x ∈ r.handles, x ∈ found) : Effect E takes truncates s t e r s' t' e' := by
  obtain ⟨new, hnew, hreceived⟩ := hs.received hr
  refine ⟨log, new, hlog, ?_, hnew, hreceived⟩
  rw [namingsOf, hlast]
  show applyAll (namings (useOf c) _ _) _ = _
  have hidsIn : idsIn t.mObjects (named c a) = ids := by
    rw [idsIn, hids]
    rfl
  rw [huse, hidsIn, tables, applyAll_namings how kind s.core hids, tables, hs.core_eq]

end Effect

/-- Namings keep the server's table good. -/
theorem good_of_applyAll {A : Set Ptr} {ns : List Naming} {T T' : Tables}
    (hg : Good A T.server) (hns : ∀ n ∈ ns, n.object ∈ A) (h : applyAll ns T = some T') :
    Good A T'.server := by
  induction ns generalizing T with
  | nil =>
    rw [applyAll, Option.some.injEq] at h
    rw [← h]
    exact hg
  | cons n ns ih =>
    rw [applyAll, Option.bind_eq_some_iff] at h
    obtain ⟨T₁, hn, hrest⟩ := h
    rw [Naming.apply, Option.map_eq_some_iff] at hn
    obtain ⟨a, ha, rfl⟩ := hn
    exact ih (hg.assignID (hns n List.mem_cons_self) ha)
      (fun m hm => hns m (List.mem_cons_of_mem _ hm)) hrest

/-- The objects of a list of namings are those that were named. -/
theorem object_mem_of_mem_namings {use : Option (Resolve × Kind)} {k : ℕ} {ps : List Ptr}
    {n : Naming} (h : n ∈ namings use k ps) : n.object ∈ ps := by
  rcases List.mem_append.mp h with h | h
  · obtain ⟨p, hp, rfl⟩ := List.mem_map.mp h
    exact List.mem_of_mem_take hp
  · obtain ⟨p, hp, rfl⟩ := List.mem_map.mp h
    exact List.mem_of_mem_drop hp

/-- Every answer was given by the environment. -/
theorem Asks.exists_of_mem {δ : Type} {E : δ → (c : ServerCall) → Ans c → δ → Prop} {e e' : δ}
    {log : List Asked} (h : Asks E e log e') {x : Asked} (hx : x ∈ log) :
    ∃ e₁ e₂, E e₁ x.1 x.2 e₂ := by
  induction h with
  | nil => exact absurd hx List.not_mem_nil
  | cons ha _ ih =>
    rcases List.mem_cons.mp hx with rfl | hx
    · exact ⟨_, _, ha⟩
    · exact ih hx

/-- A call keeps the server's table good, when the driver's answers are legal. -/
theorem Effect.good {δ : Type} {E : δ → (c : ServerCall) → Ans c → δ → Prop} {A : Set Ptr}
    (hE : AllLegal A E) {takes : List IDType → ℕ} {truncates : Bool} {s s' : ClientState}
    {t t' : ServerState} {e e' : δ} {r : Ret} (hg : Good A t.mObjects)
    (h : Effect E takes truncates s t e r s' t' e') : Good A t'.mObjects := by
  obtain ⟨log, new, hlog, happly, -, -⟩ := h
  refine good_of_applyAll (T := tables s t) hg (fun n hn => ?_) happly
  rw [namingsOf] at hn
  split at hn
  · rename_i c a hlast
    obtain ⟨e₁, e₂, ha⟩ := hlog.exists_of_mem (List.mem_of_getLast? hlast)
    exact (hE _ _ _ _ ha).mem _ (object_mem_of_mem_namings hn)
  · exact absurd hn List.not_mem_nil

end RemoteCL

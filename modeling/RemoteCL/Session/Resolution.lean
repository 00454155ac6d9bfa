import RemoteCL.Session.History

/-!
# Resolving the IDs in replies

The client looks the IDs in a reply up in its own table.  It does not register all of the IDs that
the server assigns: a query that only asks for a size leaves the IDs in its reply alone, and a later
registration may then make the table grow beyond them.  `getOrInsertObject` takes the empty slot for
a known object, and `getObject` expects an object without looking.

`Naming.Met` is what a look-up needs to find in the table, and `Ran.resolves_iff` says that all
look-ups of a history are resolved exactly if each has found that.
-/

namespace RemoteCL

open ByteStream Conversation Client

/-! ## The client's table -/

/-- There is an object in a slot. -/
def ClientState.Holds (s : ClientState) (i : ℕ) (o : CLObject) : Prop :=
  s.mObjects[i]? = some (some o)

theorem growTo_getElem? (objects : List (Option CLObject)) (n i : ℕ) {o : CLObject} :
    (growTo objects n)[i]? = some (some o) ↔ objects[i]? = some (some o) := by
  rw [growTo]
  by_cases hi : i < objects.length
  · rw [List.getElem?_append_left hi]
  · rw [List.getElem?_append_right (not_lt.mp hi), List.getElem?_eq_none (not_lt.mp hi),
      List.getElem?_replicate]
    split <;> simp

theorem length_growTo (objects : List (Option CLObject)) (n : ℕ) :
    (growTo objects n).length = max objects.length n := by
  rw [growTo, List.length_append, List.length_replicate]
  omega

/-- The object that `register` makes. -/
def ClientState.newObject (s : ClientState) (kind : Kind) (id : IDType) : CLObject :=
  { s.newHandle kind id with mMappings := [] }

/-- Registering puts a new object into the slot, and leaves the objects elsewhere alone. -/
theorem ClientState.holds_register {s : ClientState} {kind : Kind} {id : IDType} {i : ℕ}
    {o : CLObject} : (s.register kind id).Holds i o ↔
      if i = id.toNat then o = s.newObject kind id else s.Holds i o := by
  rw [Holds, register]
  by_cases hi : i = id.toNat
  · rw [if_pos hi, hi, List.getElem?_set_self (by rw [length_growTo]; omega)]
    simp only [Option.some.injEq]
    exact eq_comm
  · rw [if_neg hi, List.getElem?_set_ne (Ne.symm hi), growTo_getElem?]
    rfl

theorem lookupAt_eq_object {objects : List (Option CLObject)} {id : IDType} {h : Handle} :
    lookupAt objects id = .object h ↔ ∃ o, objects[id.toNat]? = some (some o) ∧ o.toHandle = h := by
  rw [lookupAt]
  split <;> simp_all

/-- What resolving an ID does to the table: it stays as it is, or a new object is registered. -/
theorem Resolve.apply_cases (how : Resolve) (s : ClientState) (kind : Kind) (id : IDType) :
    (how ≠ .registerID ∧ (how.apply s kind id).1 = lookupAt s.mObjects id ∧
        (how.apply s kind id).2 = s.note (.lookup kind id (lookupAt s.mObjects id)) ∧
        (how = .getOrInsertObject → id.toNat < s.mObjects.length)) ∨
      (how ≠ .getObject ∧ (how.apply s kind id).1 = .object (s.newHandle kind id) ∧
        (how.apply s kind id).2 =
          (s.register kind id).note (.lookup kind id (.object (s.newHandle kind id))) ∧
        (how = .getOrInsertObject → s.mObjects.length ≤ id.toNat)) := by
  cases how with
  | getObject => exact Or.inl ⟨by decide, rfl, rfl, fun h => nomatch h⟩
  | registerID => exact Or.inr ⟨by decide, rfl, rfl, fun h => nomatch h⟩
  | getOrInsertObject =>
    rw [Resolve.apply, ClientState.getOrInsertObject]
    by_cases hlt : id.toNat < s.mObjects.length
    · rw [if_pos hlt]
      exact Or.inl ⟨by decide, rfl, rfl, fun _ => hlt⟩
    · rw [if_neg hlt]
      exact Or.inr ⟨by decide, rfl, rfl, fun _ => not_lt.mp hlt⟩

/-- The objects in the table stand where their IDs say, and there are no others. -/
structure ClientState.Sound (s : ClientState) : Prop where
  id : ∀ {i o}, s.Holds i o → o.ID.toNat = i
  addr : ∀ {i o}, s.Holds i o → o.addr < s.made

theorem ClientState.sound_nil {s : ClientState} (hs : s.mObjects = []) : s.Sound := by
  have hnone : ∀ {i o}, ¬ s.Holds i o := fun h => by
    rw [Holds, hs] at h
    cases h
  exact ⟨fun h => absurd h hnone, fun h => absurd h hnone⟩

theorem ClientState.Sound.register {s : ClientState} (hs : s.Sound) (kind : Kind) (id : IDType) :
    (s.register kind id).Sound where
  id {i o} h := by
    rw [holds_register] at h
    split at h
    · rw [h, ‹i = id.toNat›]
      rfl
    · exact hs.id h
  addr {i o} h := by
    rw [holds_register] at h
    split at h
    · rw [h]
      exact Nat.lt_succ_self _
    · exact (hs.addr h).trans (Nat.lt_succ_self _)

theorem ClientState.Sound.apply {s : ClientState} (hs : s.Sound) (how : Resolve) (kind : Kind)
    (id : IDType) : (how.apply s kind id).2.Sound := by
  rcases how.apply_cases s kind id with ⟨-, -, h, -⟩ | ⟨-, -, h, -⟩
  · rw [h]
    exact ⟨hs.id, hs.addr⟩
  · rw [h]
    exact ⟨(hs.register kind id).id, (hs.register kind id).addr⟩

theorem ClientState.sound_core {s : ClientState} : s.core.Sound ↔ s.Sound :=
  ⟨fun h => ⟨h.id, h.addr⟩, fun h => ⟨h.id, h.addr⟩⟩

theorem Naming.sound_apply {n : Naming} {T T' : Tables} (h : n.apply T = some T')
    (hT : T.client.Sound) : T'.client.Sound := by
  rw [apply, Option.map_eq_some_iff] at h
  obtain ⟨⟨id, objects⟩, -, rfl⟩ := h
  rw [resolve]
  cases n.use with
  | none => exact hT
  | some use => exact hT.apply use.1 use.2 id

theorem sound_applyAll {ns : List Naming} {T T' : Tables} (h : applyAll ns T = some T')
    (hT : T.client.Sound) : T'.client.Sound := by
  induction ns generalizing T with
  | nil =>
    rw [applyAll, Option.some.injEq] at h
    exact h ▸ hT
  | cons n ns ih =>
    rw [applyAll, Option.bind_eq_some_iff] at h
    obtain ⟨T₁, hn, hns⟩ := h
    exact ih hns (n.sound_apply hn hT)

theorem Ran.sound {δ : Type} {I : Interface δ}
    {E : δ → (c : ServerCall) → Ans c → δ → Prop} {s₀ s : ClientState} {t₀ t : ServerState}
    {e₀ e : δ} {xs : List (Exchange I)} (h : Ran E s₀ t₀ e₀ xs s t e) (hs : s₀.mObjects = []) :
    s.Sound ∧ ∀ x ∈ xs, x.tables.client.Sound := by
  induction h with
  | nil => exact ⟨ClientState.sound_nil hs, fun _ h => absurd h List.not_mem_nil⟩
  | snoc _ c _ htables _ _ ih =>
    obtain ⟨hsound, hall⟩ := ih
    have hcore := ClientState.sound_core.mpr hsound
    refine ⟨ClientState.sound_core.mp (sound_applyAll htables hcore), fun x hx => ?_⟩
    rcases List.mem_append.mp hx with hx | hx
    · exact hall x hx
    · rw [List.mem_singleton.mp hx]
      exact hcore

/-! ## What a look-up needs -/

/-- A condition on every naming, in the tables that it meets. -/
def Along (P : Naming → Tables → Prop) : List Naming → Tables → Prop
  | [], _ => True
  | n :: ns, T => P n T ∧ ∀ T', n.apply T = some T' → Along P ns T'

/-- The look-up has yielded an object with the ID. -/
def Found.Resolved (f : Found) : Prop := ∃ h, f.result = .object h ∧ h.ID = f.id

/-- The slot of an ID is filled where `getObject` looks it up, and is filled or beyond the table
where `getOrInsertObject` does. -/
def Naming.Met (n : Naming) (T : Tables) : Prop :=
  match n.use, assignID T.server n.object with
  | some (.getObject, _), some (id, _) => ∃ o, T.client.Holds id.toNat o
  | some (.getOrInsertObject, _), some (id, _) => T.client.mObjects[id.toNat]? ≠ some none
  | _, _ => True

/-- What the namings of an exchange need. -/
def Exchange.Met {δ : Type} {I : Interface δ} (x : Exchange I) : Prop :=
  Along Naming.Met x.namings x.tables

theorem resolved_lookupAt {s : ClientState} (hs : s.Sound) {id : IDType} :
    (∃ h, lookupAt s.mObjects id = .object h ∧ h.ID = id) ↔ ∃ o, s.Holds id.toNat o := by
  constructor
  · rintro ⟨h, hlookup, -⟩
    obtain ⟨o, ho, -⟩ := lookupAt_eq_object.mp hlookup
    exact ⟨o, ho⟩
  · rintro ⟨o, ho⟩
    exact ⟨_, lookupAt_eq_object.mpr ⟨o, ho, rfl⟩, UInt16.toNat_inj.mp (hs.id ho)⟩

theorem Naming.resolved_iff_met (n : Naming) {T : Tables} (hT : T.client.Sound) :
    (∀ f ∈ n.found T, f.Resolved) ↔ n.Met T := by
  rw [found, Met]
  cases n.use with
  | none => simp
  | some use =>
    obtain ⟨how, kind⟩ := use
    cases assignID T.server n.object with
    | none => simp
    | some a =>
      obtain ⟨id, objects⟩ := a
      simp only [Option.mem_some_iff, forall_eq', Found.Resolved]
      cases how with
      | getObject => exact resolved_lookupAt hT
      | registerID => exact iff_of_true ⟨_, rfl, rfl⟩ trivial
      | getOrInsertObject =>
        simp only [Resolve.apply, ClientState.getOrInsertObject]
        by_cases hlt : id.toNat < T.client.mObjects.length
        · rw [if_pos hlt]
          refine (resolved_lookupAt hT).trans ?_
          rw [List.getElem?_eq_getElem hlt, ne_eq, Option.some.injEq, ← ne_eq,
            Option.ne_none_iff_exists']
          simp only [ClientState.Holds, List.getElem?_eq_getElem hlt, Option.some.injEq]
        · rw [if_neg hlt]
          refine iff_of_true ⟨_, rfl, rfl⟩ ?_
          rw [List.getElem?_eq_none (not_lt.mp hlt)]
          exact (Option.some_ne_none _).symm

/-- All IDs of a list of namings are resolved if each finds what it needs. -/
theorem resolved_iff_along {ns : List Naming} {T T' : Tables} (h : applyAll ns T = some T')
    (hT : T.client.Sound) : (∀ f ∈ foundAll ns T, f.Resolved) ↔ Along Naming.Met ns T := by
  induction ns generalizing T with
  | nil => exact iff_of_true (fun _ h => absurd h List.not_mem_nil) trivial
  | cons n ns ih =>
    rw [applyAll, Option.bind_eq_some_iff] at h
    obtain ⟨T₁, hn, hns⟩ := h
    have hmem : ∀ f, f ∈ (n.found T).toList ↔ f ∈ n.found T := fun f => Option.mem_toList
    rw [foundAll, Along, hn, ← n.resolved_iff_met hT]
    simp only [List.mem_append, or_imp, forall_and, hmem, Option.some.injEq, forall_eq']
    rw [ih hns (n.sound_apply hn hT)]

/-- Every look-up of the client has yielded an object with the ID. -/
def ClientState.Resolves (s : ClientState) : Prop :=
  ∀ kind id r, .lookup kind id r ∈ s.trace → ∃ h, r = .object h ∧ h.ID = id

section Histories

variable {δ : Type} {I : Interface δ} {E : δ → (c : ServerCall) → Ans c → δ → Prop}
variable {s₀ s : ClientState} {t₀ t : ServerState} {e₀ e : δ} {xs : List (Exchange I)}

/-- The look-ups of a history are those of its exchanges. -/
theorem Ran.lookup_mem_iff (h : Ran E s₀ t₀ e₀ xs s t e) (htrace : s₀.trace = []) {k : Kind}
    {id : IDType} {r : Lookup} : .lookup k id r ∈ s.trace ↔
      ∃ x ∈ xs, ∃ f ∈ x.found, f.event = .lookup k id r := by
  induction h with
  | nil => simp [htrace]
  | @snoc xs s t e s' t' e' _ c log r' new _ htables hnew _ ih =>
    have hlookups := lookups_events htables hnew
    have hnewest : .lookup k id r ∈ new ↔ .lookup k id r ∈ lookups new := by
      simp [lookups]
    rw [hnew, List.mem_append, ih, hnewest, hlookups, List.mem_map]
    simp only [List.mem_append, or_and_right, exists_or, List.mem_singleton, exists_eq_left]
    rfl

/-- **All look-ups are resolved exactly if each has found what it needs.** -/
theorem Ran.resolves_iff (h : Ran E s₀ t₀ e₀ xs s t e) (hs : s₀.mObjects = [])
    (htrace : s₀.trace = []) : s.Resolves ↔ ∀ x ∈ xs, x.Met := by
  have hmet : ∀ x ∈ xs, (∀ f ∈ x.found, f.Resolved) ↔ x.Met := fun x hx => by
    obtain ⟨T, hT⟩ := h.exists_tables x hx
    exact resolved_iff_along hT ((h.sound hs).2 x hx)
  constructor
  · intro hres x hx
    refine (hmet x hx).mp fun f hf => ?_
    exact hres f.kind f.id f.result ((h.lookup_mem_iff htrace).mpr ⟨x, hx, f, hf, rfl⟩)
  · intro hall kind id r hmem
    obtain ⟨x, hx, f, hf, heq⟩ := (h.lookup_mem_iff htrace).mp hmem
    rw [Found.event, ClientEvent.lookup.injEq] at heq
    obtain ⟨-, rfl, rfl⟩ := heq
    exact (hmet x hx).mpr (hall x hx) f hf

end Histories

end RemoteCL

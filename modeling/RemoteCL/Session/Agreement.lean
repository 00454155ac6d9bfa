import RemoteCL.Session.Lifetimes
import RemoteCL.Session.Registry

/-!
# Handles, IDs and objects

The client's handle of a driver object and the object itself are tied by an ID: the server's table
has the object at the place of the ID, and the client's table has the handle there.  A handle that
the client was given for an object stays tied to it for as long as the object lives
(`Threads.handles_agree`), whatever else is created, released and asked for in between.

Only `registerID` ever replaces what is in a slot, and only for an object that has just been
created.  A driver that respects the lifetimes of its objects creates none at the address of a live
one, so the slot of a live object stays as it is.
-/

namespace RemoteCL

open ByteStream Conversation Client

/-! ## What a naming leaves alone -/

/-- The client replaces what is in the slot. -/
def Naming.registers (n : Naming) : Bool :=
  match n.use with
  | some (.registerID, _) => true
  | _ => false

theorem Naming.registers_of_use (n : Naming) {kind : Kind}
    (h : n.use = some (.registerID, kind)) : n.registers = true := by
  rw [registers, h]

/-- A handle is tied to an object. -/
structure Tables.Tied (T : Tables) (p : Ptr) (h : Handle) : Prop where
  server : T.server[h.ID.toNat]? = some p
  client : lookupAt T.client.mObjects h.ID = .object h

section Namings

variable {T T' : Tables} {R : Registry} {n : Naming} {ns : List Naming} {p : Ptr} {k : Handle}

/-- What is looked up stands where the ID says. -/
theorem Naming.found_cases (hT : T.Represents R) (hn : n.apply T = some T') {f : Found}
    (hf : f ∈ n.found T) : f.object = n.object ∧ T'.server[f.id.toNat]? = some f.object ∧
      n.use = some (f.how, f.kind) ∧ f.result = (f.how.apply T.client f.kind f.id).1 ∧
        T'.client = (f.how.apply T.client f.kind f.id).2 := by
  rw [apply, Option.map_eq_some_iff] at hn
  obtain ⟨⟨id, known'⟩, hid, rfl⟩ := hn
  rw [found, hid] at hf
  cases huse : n.use with
  | none =>
    rw [huse] at hf
    cases hf
  | some use =>
    rw [huse, Option.mem_some_iff] at hf
    subst hf
    refine ⟨rfl, getElem?_of_assignID ?_ hid, rfl, rfl, ?_⟩
    · rw [hT.server]
      exact hT.good.length_le
    · rw [resolve, huse]

theorem Tables.Tied.holds (h : T.Tied p k) : ∃ o, T.client.Holds k.ID.toNat o ∧ o.toHandle = k :=
  lookupAt_eq_object.mp h.client

/-- The server keeps the place of an object. -/
theorem Naming.server_getElem? (hT : T.Represents R) (hn : n.apply T = some T') {i : ℕ}
    (hi : T.server[i]? = some p) : T'.server[i]? = some p := by
  rw [apply, Option.map_eq_some_iff] at hn
  obtain ⟨⟨id, known'⟩, hid, rfl⟩ := hn
  have hlen : T.server.length ≤ 65536 := hT.server ▸ hT.good.length_le
  rcases assignID_cases hlen hid with ⟨rfl, -⟩ | ⟨-, rfl, -, -⟩
  · exact hi
  · have hlt : i < T.server.length := (List.getElem?_eq_some_iff.mp hi).1
    rw [List.getElem?_append_left hlt]
    exact hi

/-- An object that is looked up under the ID of a handle is the handle's. -/
theorem Tables.Tied.id_eq (h : T.Tied p k) (hT : T.Represents R) {id : IDType}
    (hid : T.server[id.toNat]? = some p) : id = k.ID := by
  have hnodup := hT.good.nodup
  rw [← hT.server] at hnodup
  rw [← UInt16.toNat_inj, ← idxOf_of_getElem? hnodup hid, idxOf_of_getElem? hnodup h.server]

/-- **A handle stays tied to its object**, unless another handle is registered for the object. -/
theorem Tables.Tied.name (h : T.Tied p k) (hT : T.Represents R) (hn : n.apply T = some T')
    (hp : n.object = p → n.registers = false) : T'.Tied p k := by
  have hserver := n.server_getElem? hT hn h.server
  refine ⟨hserver, ?_⟩
  rw [Naming.apply, Option.map_eq_some_iff] at hn
  obtain ⟨⟨id, known'⟩, hid, rfl⟩ := hn
  obtain ⟨o, ho, hok⟩ := h.holds
  refine lookupAt_eq_object.mpr ⟨o, ?_, hok⟩
  show (n.resolve T.client id).Holds k.ID.toNat o
  cases huse : n.use with
  | none =>
    rw [Naming.resolve, huse]
    exact ho
  | some use =>
    obtain ⟨how, kind⟩ := use
    rw [Naming.resolve, huse]
    show (how.apply T.client kind id).2.Holds k.ID.toNat o
    rcases how.apply_cases T.client kind id with ⟨-, -, hs, -⟩ | ⟨hhow, -, hs, hle⟩
    · rw [hs]
      exact ho
    · rw [hs]
      refine ClientState.holds_register.mpr ((if_neg fun heq => ?_).mpr ho)
      -- a new object in this slot would be one for `p`
      have hget := getElem?_of_assignID (hT.server ▸ hT.good.length_le) hid
      rw [← heq] at hget
      have hobject : n.object = p := Option.some.inj (hget.symm.trans hserver)
      cases how with
      | getObject => exact absurd rfl hhow
      | registerID => exact absurd (n.registers_of_use huse) (Bool.eq_false_iff.mp (hp hobject))
      | getOrInsertObject => exact absurd (heq ▸ hle rfl) (not_le.mpr ho.lt_length)

/-- What is looked up for an object without registering it is its handle. -/
theorem Tables.Tied.found (h : T.Tied p k) (hT : T.Represents R) (hn : n.apply T = some T')
    (hp : n.object = p → n.registers = false) {f : Found} (hf : f ∈ n.found T)
    (hfp : f.object = p) : f.result = .object k := by
  obtain ⟨hobject, hget, huse, hresult, -⟩ := Naming.found_cases hT hn hf
  rw [hfp] at hobject hget
  have hid : f.id = k.ID := (h.name hT hn hp).id_eq (hT.name hn) hget
  rcases f.how.apply_cases T.client f.kind f.id with ⟨-, hr, -, -⟩ | ⟨hhow, -, -, hle⟩
  · rw [hresult, hr, hid]
    exact h.client
  · cases how : f.how with
    | getObject => exact absurd how hhow
    | registerID =>
      exact absurd (n.registers_of_use (how ▸ huse)) (Bool.eq_false_iff.mp (hp hobject.symm))
    | getOrInsertObject =>
      obtain ⟨o, ho, -⟩ := h.holds
      exact absurd (hid ▸ hle how) (not_le.mpr ho.lt_length)

/-- What is looked up is tied to its object. -/
theorem Tables.tied_of_found (hT : T.Represents R) (hsound : T.client.Sound)
    (hn : n.apply T = some T') {f : Found} (hf : f ∈ n.found T) (hk : f.result = .object k) :
    T'.Tied f.object k := by
  obtain ⟨-, hget, -, hresult, hclient⟩ := Naming.found_cases hT hn hf
  have hsound' := n.sound_apply hn hsound
  rcases f.how.apply_cases T.client f.kind f.id with ⟨-, hr, hs, -⟩ | ⟨-, hr, hs, -⟩
  · obtain ⟨o, ho, rfl⟩ := lookupAt_eq_object.mp ((hr.symm.trans hresult.symm).trans hk)
    have hid : o.ID = f.id := UInt16.toNat_inj.mp (hsound.id ho)
    refine ⟨?_, ?_⟩
    · rw [hid]
      exact hget
    · rw [hid, hclient, hs]
      exact lookupAt_eq_object.mpr ⟨o, ho, rfl⟩
  · have hnew : k = T.client.newHandle f.kind f.id :=
      Lookup.object.inj (hk.symm.trans (hresult.trans hr))
    subst hnew
    refine ⟨hget, ?_⟩
    rw [hclient, hs]
    exact lookupAt_eq_object.mpr ⟨_, ClientState.holds_register.mpr ((if_pos rfl).mpr rfl), rfl⟩

/-- No other handle is registered for the object. -/
def Spares (ns : List Naming) (p : Ptr) : Prop := ∀ n ∈ ns, n.object = p → n.registers = false

theorem Tables.Tied.applyAll (h : T.Tied p k) (hT : T.Represents R)
    (hns : applyAll ns T = some T') (hp : Spares ns p) :
    T'.Tied p k ∧ ∀ f ∈ foundAll ns T, f.object = p → f.result = .object k := by
  induction ns generalizing T R with
  | nil =>
    rw [RemoteCL.applyAll, Option.some.injEq] at hns
    exact ⟨hns ▸ h, fun _ hf => absurd hf List.not_mem_nil⟩
  | cons n ns ih =>
    rw [RemoteCL.applyAll, Option.bind_eq_some_iff] at hns
    obtain ⟨T₁, hn, hns⟩ := hns
    have hn' := hp n List.mem_cons_self
    obtain ⟨htied, hfound⟩ := ih (h.name hT hn hn') (hT.name hn) hns fun m hm =>
      hp m (List.mem_cons_of_mem _ hm)
    refine ⟨htied, fun f hf hfp => ?_⟩
    rw [foundAll, hn] at hf
    rcases List.mem_append.mp hf with hf | hf
    · exact h.found hT hn hn' (Option.mem_toList.mp hf) hfp
    · exact hfound f hf hfp

/-- What is looked up is tied to its object, if no object is registered twice. -/
theorem Tables.tied_of_foundAll (hT : T.Represents R) (hsound : T.client.Sound)
    (hns : RemoteCL.applyAll ns T = some T')
    (honce : ns.Pairwise fun m n => n.object = m.object → n.registers = false) {f : Found}
    (hf : f ∈ foundAll ns T) (hk : f.result = .object k) : T'.Tied f.object k := by
  induction ns generalizing T R with
  | nil => exact absurd hf List.not_mem_nil
  | cons n ns ih =>
    rw [RemoteCL.applyAll, Option.bind_eq_some_iff] at hns
    obtain ⟨T₁, hn, hns⟩ := hns
    rw [List.pairwise_cons] at honce
    rw [foundAll, hn] at hf
    rcases List.mem_append.mp hf with hf | hf
    · have hf' := Option.mem_toList.mp hf
      have hobject := (Naming.found_cases hT hn hf').1
      have htied := tied_of_found hT hsound hn hf' hk
      exact (htied.applyAll (hT.name hn) hns fun m hm hmp =>
        honce.1 m hm (hmp.trans hobject)).1
    · exact ih (hT.name hn) (n.sound_apply hn hsound) hns honce.2 hf

end Namings

/-! ## The namings of a reply -/

/-- No query registers anything that is known. -/
theorem useOfInfo_ne_registerID (q : InfoQuery) (kind : Kind) :
    useOfInfo q ≠ some (.registerID, kind) := by
  unfold useOfInfo
  repeat' split
  all_goals simp

/-- Only what has been created is registered, whatever else is in its slot. -/
theorem creates_of_useOf {c : ServerCall} {kind : Kind} (h : useOf c = some (.registerID, kind)) :
    c.creates = true := by
  cases c with
  | info q n => exact absurd h (useOfInfo_ne_registerID q kind)
  | create | clCreateKernelsInProgram | clCreateProgramWithBinary | enqueue => rfl
  | _ => exact nomatch h

theorem creates_of_registers {c : ServerCall} {k : ℕ} {ps : List Ptr} {n : Naming}
    (hn : n ∈ namings (useOf c) k ps) (hregisters : n.registers = true) : c.creates = true := by
  have huse : n.use = useOf c ∨ n.use = none := by
    rw [namings] at hn
    rcases List.mem_append.mp hn with hn | hn
    · obtain ⟨p, -, rfl⟩ := List.mem_map.mp hn
      exact Or.inl rfl
    · obtain ⟨p, -, rfl⟩ := List.mem_map.mp hn
      exact Or.inr rfl
  rw [Naming.registers] at hregisters
  split at hregisters
  · rename_i kind hkind
    rcases huse with huse | huse
    · exact creates_of_useOf (huse.symm.trans hkind)
    · cases huse.symm.trans hkind
  · exact absurd hregisters Bool.false_ne_true

theorem map_object_namings (use : Option (Resolve × Kind)) (k : ℕ) (ps : List Ptr) :
    (namings use k ps).map Naming.object = ps := by
  rw [namings, List.map_append, List.map_map, List.map_map]
  have hid (use : Option (Resolve × Kind)) (qs : List Ptr) :
      qs.map (Naming.object ∘ fun p => ⟨p, use⟩) = qs := List.map_id qs
  rw [hid, hid, List.take_append_drop]

/-- A reply registers no object twice, if no object is created twice at once. -/
theorem pairwise_namings {c : ServerCall} {k : ℕ} {ps : List Ptr}
    (hnodup : c.creates = true → ps.Nodup) :
    (namings (useOf c) k ps).Pairwise fun m n => n.object = m.object → n.registers = false := by
  cases hc : c.creates with
  | false =>
    refine List.pairwise_of_forall_mem_list fun m _ n hn _ => ?_
    rw [Bool.eq_false_iff]
    intro hregisters
    rw [creates_of_registers hn hregisters] at hc
    exact Bool.noConfusion hc
  | true =>
    have hobjects : ((namings (useOf c) k ps).map Naming.object).Nodup := by
      rw [map_object_namings]
      exact hnodup hc
    exact (List.pairwise_map.mp hobjects).imp fun hne heq => absurd heq.symm hne

/-! ## Live objects -/

section Live

variable {δ : Type} {I : Interface δ} (live : δ → Set Ptr)
variable (E : δ → (c : ServerCall) → Ans c → δ → Prop)

/-- The object is alive while the environment answers. -/
inductive Stays (p : Ptr) : δ → List Asked → δ → Prop
  | nil {e} (hp : p ∈ live e) : Stays p e [] e
  | cons {e c a e₁ log e'} (hp : p ∈ live e) (h : E e c a e₁) (hlog : Stays p e₁ log e') :
      Stays p e (⟨c, a⟩ :: log) e'

/-- The exchange leads from one state to another. -/
structure Exchange.Leads (x : Exchange I) (s : ClientState) (t : ServerState) (e : δ)
    (s' : ClientState) (t' : ServerState) (e' : δ) : Prop where
  tables_eq : x.tables = RemoteCL.tables s t
  asks : Asks E e x.log e'
  applyAll : RemoteCL.applyAll x.namings x.tables = some (RemoteCL.tables s' t')
  extends_trace : Extends s s' x.events
  received : Received (I.truncates x.call) x.result x.events

variable (s₀ : ClientState) (t₀ : ServerState) (e₀ : δ)

/-- The client was given a handle for an object, and the object has been alive since. -/
inductive Given (p : Ptr) (k : Handle) :
    List (Exchange I) → ClientState → ServerState → δ → Prop
  | got {xs s t e x s' t' e'} (hran : Ran E s₀ t₀ e₀ xs s t e) (hx : x.Leads E s t e s' t' e')
      {f : Found} (hf : f ∈ x.found) (hp : f.object = p) (hk : f.result = .object k)
      (hlive : p ∈ live e') : Given p k (xs ++ [x]) s' t' e'
  | kept {xs s t e x s' t' e'} (hgiven : Given p k xs s t e) (hx : x.Leads E s t e s' t' e')
      (hstays : Stays live E p e x.log e') : Given p k (xs ++ [x]) s' t' e'

variable {live E s₀ t₀ e₀} {s : ClientState} {t : ServerState} {e : δ} {xs : List (Exchange I)}
variable {p q : Ptr} {k l : Handle}

theorem Exchange.Leads.ran {x : Exchange I} {s' : ClientState} {t' : ServerState} {e' : δ}
    (hx : x.Leads E s t e s' t' e') (h : Ran E s₀ t₀ e₀ xs s t e) :
    Ran E s₀ t₀ e₀ (xs ++ [x]) s' t' e' := by
  obtain ⟨call, T, log, result, events⟩ := x
  obtain ⟨rfl, hasks, htables, hnew, hreceived⟩ := hx
  exact h.snoc call hasks htables hnew hreceived

theorem Given.ran (h : Given live E s₀ t₀ e₀ p k xs s t e) : Ran E s₀ t₀ e₀ xs s t e := by
  induction h with
  | got hran hx => exact hx.ran hran
  | kept _ hx _ ih => exact hx.ran ih

/-- A live object is not created. -/
theorem Stays.notMem (hlive : Respects live E) {e e' : δ} {log : List Asked}
    (h : Stays live E p e log e') {c : ServerCall} {a : Ans c} (hmem : ⟨c, a⟩ ∈ log)
    (hc : c.creates = true) : p ∉ named c a := by
  induction h with
  | nil => exact absurd hmem List.not_mem_nil
  | cons hp hE _ ih =>
    rcases List.mem_cons.mp hmem with heq | hmem
    · cases heq
      exact fun hnamed => hlive.fresh hE hc p hnamed hp
    · exact ih hmem

theorem Asks.nodup (hlive : Respects live E) {e e' : δ} {log : List Asked} (h : Asks E e log e')
    {c : ServerCall} {a : Ans c} (hmem : ⟨c, a⟩ ∈ log) (hc : c.creates = true) :
    (named c a).Nodup := by
  obtain ⟨e₁, e₂, hE⟩ := h.exists_of_mem hmem
  exact hlive.nodup hE hc

/-- A reply does not register another handle for a live object. -/
theorem Stays.spares (hlive : Respects live E) {e e' : δ} {log : List Asked}
    (h : Stays live E p e log e') (takes : List IDType → ℕ) (objects : List Ptr) :
    Spares (namingsOf takes objects log) p := by
  intro n hn hnp
  rw [namingsOf] at hn
  split at hn
  · rename_i c a hlast
    rw [Bool.eq_false_iff]
    intro hregisters
    have hc := creates_of_registers hn hregisters
    refine h.notMem hlive (List.mem_of_getLast? hlast) hc ?_
    rw [← hnp]
    exact object_mem_of_mem_namings hn
  · exact absurd hn List.not_mem_nil

theorem Asks.pairwise (hlive : Respects live E) {e e' : δ} {log : List Asked}
    (h : Asks E e log e') (takes : List IDType → ℕ) (objects : List Ptr) :
    (namingsOf takes objects log).Pairwise fun m n =>
      n.object = m.object → n.registers = false := by
  rw [namingsOf]
  split
  · rename_i c a hlast
    exact pairwise_namings fun hc => h.nodup hlive (List.mem_of_getLast? hlast) hc
  · exact List.Pairwise.nil

theorem Exchange.Leads.represents {x : Exchange I} {s' : ClientState} {t' : ServerState} {e' : δ}
    (hx : x.Leads E s t e s' t' e') (h : Ran E s₀ t₀ e₀ xs s t e) (hs : s₀.mObjects = [])
    (ht : t₀.mObjects = []) :
    x.tables.Represents (Registry.empty.nameAll (namedIn xs)) ∧ x.tables.client.Sound := by
  rw [hx.tables_eq]
  exact ⟨h.represents hs ht, ClientState.sound_core.mpr (h.sound hs).1⟩

/-- **A handle that was given for a live object is tied to it.** -/
theorem Given.tied (hlive : Respects live E) (hs : s₀.mObjects = []) (ht : t₀.mObjects = [])
    (h : Given live E s₀ t₀ e₀ p k xs s t e) : (tables s t).Tied p k := by
  induction h with
  | got hran hx hf hp hk _ =>
    obtain ⟨hrep, hsound⟩ := hx.represents hran hs ht
    rw [← hp]
    exact Tables.tied_of_foundAll hrep hsound hx.applyAll (hx.asks.pairwise hlive _ _) hf hk
  | kept hgiven hx hstays ih =>
    obtain ⟨hrep, -⟩ := hx.represents hgiven.ran hs ht
    rw [← hx.tables_eq] at ih
    exact (ih.applyAll hrep hx.applyAll (hstays.spares hlive _ _)).1

variable (live E s₀ t₀ e₀) in
/-- Handles, IDs and live objects agree. -/
structure HandlesAgree (xs : List (Exchange I)) (s : ClientState) (t : ServerState) (e : δ) :
    Prop where
  /-- The server has the object at the ID of its handle. -/
  server : ∀ {p k}, Given live E s₀ t₀ e₀ p k xs s t e → t.mObjects[k.ID.toNat]? = some p
  /-- The client has the handle there. -/
  client : ∀ {p k}, Given live E s₀ t₀ e₀ p k xs s t e → lookupAt s.mObjects k.ID = .object k
  /-- The handles of different objects have different IDs. -/
  injective : ∀ {p q k l}, Given live E s₀ t₀ e₀ p k xs s t e →
    Given live E s₀ t₀ e₀ q l xs s t e → p ≠ q → k.ID ≠ l.ID
  /-- A call that returns the object returns its handle. -/
  same : ∀ {p k} {x : Exchange I} {s' t' e'}, Given live E s₀ t₀ e₀ p k xs s t e →
    x.Leads E s t e s' t' e' → Stays live E p e x.log e' →
      ∀ f ∈ x.found, f.object = p → f.result = .object k

theorem handlesAgree (hlive : Respects live E) (hs : s₀.mObjects = []) (ht : t₀.mObjects = [])
    (xs : List (Exchange I)) (s : ClientState) (t : ServerState) (e : δ) :
    HandlesAgree live E s₀ t₀ e₀ xs s t e where
  server h := (h.tied hlive hs ht).server
  client h := (h.tied hlive hs ht).client
  injective hp hq hne heq := by
    have hk := (hp.tied hlive hs ht).server
    rw [heq, (hq.tied hlive hs ht).server, Option.some.injEq] at hk
    exact hne hk.symm
  same hgiven hx hstays f hf hp := by
    obtain ⟨hrep, -⟩ := hx.represents hgiven.ran hs ht
    have htied := hgiven.tied hlive hs ht
    rw [← hx.tables_eq] at htied
    exact (htied.applyAll hrep hx.applyAll (hstays.spares hlive _ _)).2 f hf hp

end Live

/-! ## Runs -/

/-- The application receives the handles that have been looked up for it, and receives them
whole. -/
def Exchange.HandsOver {δ : Type} {I : Interface δ} (x : Exchange I) : Prop :=
  (∀ y ∈ x.received, ∃ f ∈ x.found, f.kind = y.1 ∧ f.result = y.2) ∧
    ∀ ev ∈ x.events, ev.truncates = false

/-- Calls that store whole handles hand over what has been looked up. -/
theorem Ran.handsOver {δ : Type} {I : Interface δ}
    {E : δ → (c : ServerCall) → Ans c → δ → Prop} {s₀ s : ClientState} {t₀ t : ServerState}
    {e₀ e : δ} {xs : List (Exchange I)} (h : Ran E s₀ t₀ e₀ xs s t e) {x : Exchange I}
    (hx : x ∈ xs) (hwhole : I.truncates x.call = false) : x.HandsOver := by
  refine ⟨fun y hy => h.received hx hy, ?_⟩
  induction h with
  | nil => exact absurd hx List.not_mem_nil
  | snoc _ c _ _ _ hreceived ih =>
    rcases List.mem_append.mp hx with hx | hx
    · exact ih hx
    · rw [List.mem_singleton] at hx
      subst hx
      exact hreceived.2 hwhole

section Runs

variable {ι δ : Type} [DecidableEq ι] {E : δ → (c : ServerCall) → Ans c → δ → Prop}
variable {B : ServerBuild} {C : Build} {s : ClientState} {t : ServerState} {e : δ}

/-- **Handles, IDs and objects agree**: wherever a run has led, the call that is being made comes to
rest.  The handles of live objects then stand in both tables at their IDs, whatever the history; and
there is a history in which every call has handed over what was looked up for it, unless it has
asked for the queue of an event. -/
theorem Threads.handles_agree {A : Finset Ptr} (hA : A.card ≤ 65536) (hE : AllLegal A E)
    {live : δ → Set Ptr} (hlive : Respects live E) (hB : 210 ≤ B.clTarget)
    (haccepted : Accepted C B.toBuild) (hz : ZlibInverts C B.toBuild) (hs : s.mObjects = [])
    (ht : t.mObjects = []) {x : Threads ι (apiCalls C δ)} (h : Reachable E B s t e x) :
    Settles E (ServerInstance.serve B)
      (AtRest B fun _ s' t' e' =>
        (∀ xs : List (Exchange (apiCalls C δ)), HandlesAgree live E s t e xs s' t' e') ∧
          ∃ xs : List (Exchange (apiCalls C δ)), Ran E s t e xs s' t' e' ∧
            ∀ x ∈ xs, x.call.1.truncates = false → x.HandsOver) x.conv := by
  refine (Threads.ran hA hE (lawful_apiCalls hE hB haccepted hz) ht h).mono fun _ => ?_
  rintro ⟨r, s', t', e', ⟨xs, hran⟩, rfl⟩
  exact ⟨r, s', t', e', ⟨fun xs => handlesAgree hlive hs ht xs s' t' e',
    xs, hran, fun _ hx hwhole => hran.handsOver hx hwhole⟩, rfl⟩

/-- A command is given to a queue, and its event is asked for the queue. -/
def queueCalls : List (apiCalls plainBuild References).Call :=
  [contextCall,
    ⟨.clGetContextInfo (some ⟨0, 0, .context⟩) CL_CONTEXT_DEVICES ⟨8, true, true⟩, trivial⟩,
    ⟨.clCreateCommandQueue (some ⟨0, 0, .context⟩) (some ⟨1, 1, .deviceID⟩) 0 true, trivial⟩,
    ⟨.clCreateBuffer (some ⟨0, 0, .context⟩) 1 16 none true, trivial⟩,
    fillCall,
    ⟨.clGetEventInfo (some ⟨4, 4, .event⟩) CL_EVENT_COMMAND_QUEUE ⟨8, true, true⟩, trivial⟩]

theorem reachable_queueCalls : Threads.Reachable (Counting smallAddresses) ⟨plainBuild, 210⟩
    ⟨[], 0, [], false, []⟩ ⟨[], none⟩ 0
    (Threads.idle (smallRun queueCalls) : Threads (Fin 1) (apiCalls plainBuild References)) :=
  reachable_smallRun (by decide +kernel)

theorem Threads.handles_agree_queueCalls :
    Settles (Counting smallAddresses) (ServerInstance.serve ⟨plainBuild, 210⟩)
      (AtRest ⟨plainBuild, 210⟩ fun _ s' t' e' =>
        (∀ xs : List (Exchange (apiCalls plainBuild References)),
          HandlesAgree References.live (Counting smallAddresses) ⟨[], 0, [], false, []⟩ ⟨[], none⟩ 0
            xs s' t' e') ∧
          ∃ xs : List (Exchange (apiCalls plainBuild References)),
            Ran (Counting smallAddresses) ⟨[], 0, [], false, []⟩ ⟨[], none⟩ 0 xs s' t' e' ∧
              ∀ x ∈ xs, x.call.1.truncates = false → x.HandsOver) (smallRun queueCalls) := by
  have haddresses : (({0, 5, 6, 7, 8, 9} : Finset Ptr) : Set Ptr) = smallAddresses := by simp
  have hE : AllLegal (({0, 5, 6, 7, 8, 9} : Finset Ptr) : Set Ptr) (Counting smallAddresses) := by
    rw [haddresses]
    exact allLegal_counting _
  exact Threads.handles_agree (B := ⟨plainBuild, 210⟩) (C := plainBuild) (by decide) hE
    (respects_counting _) (le_refl 210) accepted_plainBuild (fun _ h => nomatch h) rfl rfl
    reachable_queueCalls

/-- The query for the queue of an event copies as many bytes of the handle as a
`cl_command_type` has. -/
theorem queue_handle_cut :
    ¬ ∀ x : Threads (Fin 1) (apiCalls plainBuild References),
      Threads.Reachable (Counting smallAddresses) ⟨plainBuild, 210⟩ ⟨[], 0, [], false, []⟩
        ⟨[], none⟩ 0 x → ∀ ev ∈ x.conv.client.st.trace, ev.truncates = false := by
  intro h
  have hstored : .store (.param_handle_bytes .queue 4 (.object ⟨2, 2, .queue⟩)) ∈
      (smallRun queueCalls).client.st.trace := by decide +kernel
  exact absurd (h _ reachable_queueCalls _ hstored) (by decide)

end Runs

end RemoteCL

import RemoteCL.Session.Registry

/-!
# What creating functions return

A function that creates an object has the client construct an object for it, of the kind of the
handle that it returns.  Most do that with `registerID`, whatever is in the slot of the ID.  The
functions for buffers and images use `getOrInsertObject`, and so only construct one if the ID is
beyond the client's table.

The server never forgets an address.  When a driver uses the address of a released object again, the
new object has an old ID, and `getOrInsertObject` returns what was constructed for the old object.
-/

namespace RemoteCL

open ByteStream Conversation Client

/-! ## New objects -/

/-- What is looked up has just been constructed: it has the ID and the kind, no other handle points
to it, and it has no mappings. -/
def Naming.MakesNew (n : Naming) (T : Tables) : Prop :=
  ∀ f ∈ n.found T, ∃ h, f.result = .object h ∧ h.ID = f.id ∧ h.kind = f.kind ∧
    T.client.made ≤ h.addr ∧ ∀ T', n.apply T = some T' → T'.client.Holds f.id.toNat ⟨h, []⟩

/-- The look-up registers the object. -/
def Registry.Inserts (R : Registry) (n : Naming) : Prop :=
  match n.use with
  | some (.getObject, _) => False
  | some (.getOrInsertObject, _) => R.Latest n.object
  | _ => True

/-- What is in the table was made before. -/
theorem addr_lt_of_lookupAt {s : ClientState} (hs : s.Sound) {id : IDType} {h : Handle}
    (hlookup : lookupAt s.mObjects id = .object h) : h.addr < s.made := by
  obtain ⟨o, ho, rfl⟩ := lookupAt_eq_object.mp hlookup
  exact hs.addr ho

/-- **A look-up yields a new object exactly if it registers it.** -/
theorem Tables.Represents.makesNew_iff {T T' : Tables} {R : Registry} (h : T.Represents R)
    (hT : T.client.Sound) {n : Naming} (hn : n.apply T = some T') :
    n.MakesNew T ↔ R.Inserts n := by
  rw [Naming.apply, Option.map_eq_some_iff] at hn
  obtain ⟨⟨id, known'⟩, hid, -⟩ := hn
  have hlatest := h.latest_iff n.object
  rw [← (assignID_learn h.good (h.server ▸ hid)).2] at hlatest
  have happly : n.apply T = some ⟨known', n.resolve T.client id⟩ := by
    rw [Naming.apply, hid]
    rfl
  rw [Naming.MakesNew, happly, Naming.found, Registry.Inserts, Naming.resolve, hid]
  cases n.use with
  | none =>
    refine iff_of_true (fun _ hf => ?_) trivial
    cases hf
  | some use =>
    obtain ⟨how, kind⟩ := use
    simp only [Option.mem_some_iff, forall_eq', Option.some.injEq]
    rcases how.apply_cases T.client kind id with ⟨hhow, hr, -, hlt⟩ | ⟨hhow, hr, hs, hle⟩
    · refine iff_of_false ?_ ?_
      · rintro ⟨o, ho, -, -, hmade, -⟩
        exact absurd (addr_lt_of_lookupAt hT (hr ▸ ho)) (not_lt.mpr hmade)
      · cases how with
        | getObject => exact fun hfalse => hfalse
        | registerID => exact absurd rfl hhow
        | getOrInsertObject => exact fun hlate => absurd (hlatest.mp hlate) (not_le.mpr (hlt rfl))
    · refine iff_of_true ⟨_, hr, rfl, rfl, le_refl _, ?_⟩ ?_
      · rw [hs]
        exact ClientState.holds_register.mpr ((if_pos rfl).mpr rfl)
      · cases how with
        | getObject => exact absurd rfl hhow
        | registerID => trivial
        | getOrInsertObject => exact hlatest.mpr (hle rfl)

/-! ## Creating functions -/

section Exchanges

variable {δ : Type} {I : Interface δ}

/-- The call has created objects. -/
def Exchange.creates (x : Exchange I) : Bool :=
  match x.log.getLast? with
  | some ⟨c, _⟩ => c.creates
  | none => false

/-- The client has constructed an object for each one that was created, and the handles that the
application receives are theirs. -/
def Exchange.ReturnsNew (x : Exchange I) : Prop :=
  Along Naming.MakesNew x.namings x.tables ∧
    ∀ y ∈ x.received, ∃ h, y.2 = .object h ∧ h.kind = y.1 ∧ x.tables.client.made ≤ h.addr

/-- Every call that has created objects has registered them. -/
def Registry.Creates (R : Registry) : List (Exchange I) → Prop
  | [] => True
  | x :: xs => (x.creates = true → R.Throughout Inserts x.namings) ∧
      (R.nameAll x.namings).Creates xs

theorem Registry.creates_concat (R : Registry) (xs : List (Exchange I)) (x : Exchange I) :
    R.Creates (xs ++ [x]) ↔ R.Creates xs ∧
      (x.creates = true → (R.nameAll (namedIn xs)).Throughout Inserts x.namings) := by
  induction xs generalizing R with
  | nil => exact and_comm
  | cons y ys ih =>
    have hcons : namedIn (y :: ys) = y.namings ++ namedIn ys := List.flatMap_cons
    rw [List.cons_append, Creates, Creates, ih, and_assoc, hcons, nameAll_append]

/-- The counter of the objects never goes back. -/
theorem Naming.made_le {n : Naming} {T T' : Tables} (h : n.apply T = some T') :
    T.client.made ≤ T'.client.made := by
  rw [apply, Option.map_eq_some_iff] at h
  obtain ⟨⟨id, objects⟩, -, rfl⟩ := h
  rw [resolve]
  cases n.use with
  | none => exact le_refl _
  | some use =>
    rcases use.1.apply_cases T.client use.2 id with ⟨-, -, hs, -⟩ | ⟨-, -, hs, -⟩
    · exact (congrArg ClientState.made hs).ge
    · exact (Nat.le_succ _).trans (congrArg ClientState.made hs).ge

/-- What has just been constructed is new to the exchange. -/
theorem addr_of_along {ns : List Naming} {T : Tables} (h : Along Naming.MakesNew ns T) :
    ∀ f ∈ foundAll ns T, ∃ h, f.result = .object h ∧ h.kind = f.kind ∧
      T.client.made ≤ h.addr := by
  induction ns generalizing T with
  | nil => exact fun _ hf => absurd hf List.not_mem_nil
  | cons n ns ih =>
    intro f hf
    rw [foundAll] at hf
    rcases List.mem_append.mp hf with hf | hf
    · obtain ⟨h, hr, -, hkind, hmade, -⟩ := h.1 f (Option.mem_toList.mp hf)
      exact ⟨h, hr, hkind, hmade⟩
    · cases hn : n.apply T with
      | none =>
        rw [hn] at hf
        exact absurd hf List.not_mem_nil
      | some T' =>
        rw [hn] at hf
        obtain ⟨h, hr, hkind, hmade⟩ := ih (h.2 T' hn) f hf
        exact ⟨h, hr, hkind, (Naming.made_le hn).trans hmade⟩

variable {E : δ → (c : ServerCall) → Ans c → δ → Prop} {s₀ s : ClientState} {t₀ t : ServerState}
variable {e₀ e : δ} {xs : List (Exchange I)}

/-- **Creating functions return new objects exactly if they register them.** -/
theorem Ran.returnsNew_iff (h : Ran E s₀ t₀ e₀ xs s t e) (hs : s₀.mObjects = [])
    (ht : t₀.mObjects = []) :
    (∀ x ∈ xs, x.creates = true → x.ReturnsNew) ↔ Registry.empty.Creates xs := by
  induction h with
  | nil => exact iff_of_true (fun _ h => absurd h List.not_mem_nil) trivial
  | @snoc xs s t e s' t' e' hran c log r new hlog htables hnew hreceived ih =>
    have halong := Tables.Represents.along_iff (P := Naming.MakesNew) (Q := Registry.Inserts)
      (fun hrep hsound hn => hrep.makesNew_iff hsound hn) (hran.represents hs ht)
      (ClientState.sound_core.mpr (hran.sound hs).1) htables
    rw [Registry.creates_concat]
    simp only [List.mem_append, List.mem_singleton, or_imp, forall_and, forall_eq]
    refine and_congr ih (imp_congr_right fun _ => ?_)
    rw [Exchange.ReturnsNew]
    refine (and_iff_left_of_imp fun hmakes y hy => ?_).trans halong
    obtain ⟨f, hf, hkind, hresult⟩ := (hran.snoc c hlog htables hnew hreceived).received
      (List.mem_append_right _ (List.mem_singleton_self _)) hy
    obtain ⟨h, hr, hk, hmade⟩ := addr_of_along hmakes f hf
    exact ⟨h, hresult ▸ hr, hk.trans hkind, hmade⟩

end Exchanges

/-! ## Runs -/

section Runs

variable {ι δ : Type} [DecidableEq ι] {E : δ → (c : ServerCall) → Ans c → δ → Prop}
variable {B : ServerBuild} {C : Build} {s : ClientState} {t : ServerState} {e : δ}

/-- **Which creating functions return new objects**: wherever a run has led, the call that is being
made comes to rest with a history, and all creating functions so far have returned objects that were
constructed for what they created if and only if each has registered it. -/
theorem Threads.creations_new_iff {A : Set Ptr} (hE : AllLegal A E) (hB : 210 ≤ B.clTarget)
    (haccepted : Accepted C B.toBuild) (hz : ZlibInverts C B.toBuild) (hs : s.mObjects = [])
    (ht : t.mObjects = []) {x : Threads ι (apiCalls C δ)} (h : Reachable E B s t e x) :
    Settles E (ServerInstance.serve B)
      (Final B A fun _ s' t' e' => ∃ xs : List (Exchange (apiCalls C δ)),
        Ran E s t e xs s' t' e' ∧
          ((∀ x ∈ xs, x.creates = true → x.ReturnsNew) ↔ Registry.empty.Creates xs)) x.conv := by
  refine (Threads.settles_ran hE (lawful_apiCalls hE hB haccepted hz) ht h).mono fun _ => ?_
  exact Final.mono fun ⟨xs, hran⟩ => ⟨xs, hran, hran.returnsNew_iff hs ht⟩

/-- An event is created and released, and then a buffer is created. -/
def reuseCalls : List (apiCalls plainBuild References).Call :=
  [contextCall,
    ⟨.clCreateUserEvent (some ⟨0, 0, .context⟩) true, trivial⟩,
    ⟨.clReleaseEvent (some ⟨1, 1, .event⟩), trivial⟩,
    ⟨.clCreateBuffer (some ⟨0, 0, .context⟩) 1 16 none true, trivial⟩]

theorem reachable_reuseCalls : Threads.Reachable (Counting smallAddresses) ⟨plainBuild, 210⟩
    ⟨[], 0, [], false, []⟩ ⟨[], none⟩ 0
    (Threads.idle (smallRun reuseCalls) : Threads (Fin 1) (apiCalls plainBuild References)) :=
  reachable_smallRun (by decide +kernel)

theorem Threads.creations_new_iff_reuseCalls :
    Settles (Counting smallAddresses) (ServerInstance.serve ⟨plainBuild, 210⟩)
      (Final ⟨plainBuild, 210⟩ smallAddresses fun _ s' t' e' =>
        ∃ xs : List (Exchange (apiCalls plainBuild References)),
          Ran (Counting smallAddresses) ⟨[], 0, [], false, []⟩ ⟨[], none⟩ 0 xs s' t' e' ∧
            ((∀ x ∈ xs, x.creates = true → x.ReturnsNew) ↔ Registry.empty.Creates xs))
      (smallRun reuseCalls) :=
  Threads.creations_new_iff (B := ⟨plainBuild, 210⟩) (C := plainBuild) (allLegal_counting _)
    (le_refl 210) accepted_plainBuild (fun _ h => nomatch h) rfl rfl reachable_reuseCalls

/-- The driver has used the address of the event again, and `clCreateBuffer` returns the event. -/
theorem event_returned_as_buffer :
    ¬ ∀ x : Threads (Fin 1) (apiCalls plainBuild References),
      Threads.Reachable (Counting smallAddresses) ⟨plainBuild, 210⟩ ⟨[], 0, [], false, []⟩
        ⟨[], none⟩ 0 x → ∀ kind h, x.conv.client.prog = .ret (.handle kind (some (.object h))) →
          h.kind = kind := by
  intro h
  have hreturned : returned (smallRun reuseCalls) =
      some (.handle .memObject (some (.object ⟨1, 1, .event⟩))) := by decide +kernel
  exact absurd (h _ reachable_reuseCalls _ _ (prog_eq_ret hreturned)) (by decide)

end Runs

end RemoteCL

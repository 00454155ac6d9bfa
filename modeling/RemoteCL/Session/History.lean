import RemoteCL.Session.Runs

/-!
# Histories

Seen from the tables, a run is a list of exchanges, one for each call.  An exchange knows the tables
that the call was made in, what the driver was asked and has answered, and what the application has
received.  What the client has looked up follows from that (`Exchange.found`), and so do the tables
after the call.

`Threads.ran` says that every run of threads comes to rest with such a history, so that what holds
of all histories holds of all runs.
-/

namespace RemoteCL

open ByteStream Conversation Client

/-! ## Looking up -/

/-- An ID that the client has looked up, with the object that it stands for. -/
structure Found where
  object : Ptr
  how : Resolve
  kind : Kind
  id : IDType
  result : Lookup
  deriving DecidableEq

/-- The event in the trace. -/
def Found.event (f : Found) : ClientEvent := .lookup f.kind f.id f.result

/-- What a naming makes the client look up. -/
def Naming.found (n : Naming) (T : Tables) : Option Found :=
  match n.use, assignID T.server n.object with
  | some (how, kind), some (id, _) =>
    some ⟨n.object, how, kind, id, (how.apply T.client kind id).1⟩
  | _, _ => none

/-- What a list of namings makes the client look up. -/
def foundAll : List Naming → Tables → List Found
  | [], _ => []
  | n :: ns, T => (n.found T).toList ++
    match n.apply T with
    | some T' => foundAll ns T'
    | none => []

/-- The look-ups in a trace. -/
def lookups (trace : List ClientEvent) : List ClientEvent :=
  trace.filter fun
    | .lookup _ _ _ => true
    | .store _ => false

theorem Naming.trace_apply {n : Naming} {T T' : Tables} (h : n.apply T = some T') :
    T'.client.trace = T.client.trace ++ (n.found T).toList.map Found.event := by
  rw [apply, Option.map_eq_some_iff] at h
  obtain ⟨⟨id, objects⟩, hid, rfl⟩ := h
  rw [found, hid, resolve]
  cases n.use with
  | none => exact (List.append_nil _).symm
  | some use => exact use.1.trace_apply T.client use.2 id

/-- The trace grows by what is looked up. -/
theorem trace_applyAll {ns : List Naming} {T T' : Tables} (h : applyAll ns T = some T') :
    T'.client.trace = T.client.trace ++ (foundAll ns T).map Found.event := by
  induction ns generalizing T with
  | nil =>
    rw [applyAll, Option.some.injEq] at h
    rw [h, foundAll, List.map_nil, List.append_nil]
  | cons n ns ih =>
    rw [applyAll, Option.bind_eq_some_iff] at h
    obtain ⟨T₁, hn, hns⟩ := h
    rw [foundAll, hn, List.map_append, ← List.append_assoc, ← Naming.trace_apply hn]
    exact ih hns

/-! ## Exchanges -/

section Exchange

variable {δ : Type} {I : Interface δ}

/-- A call that has come to rest. -/
structure Exchange (I : Interface δ) where
  call : I.Call
  /-- The tables when the call was made. -/
  tables : Tables
  /-- What the driver was asked, and its answers. -/
  log : List Asked
  result : Ret
  /-- What the client has added to its trace. -/
  events : List ClientEvent

namespace Exchange

/-- What the reply has named, and what the client does about it. -/
def namings (x : Exchange I) : List Naming := namingsOf (I.takes x.call) x.tables.server x.log

/-- What the client has looked up. -/
def found (x : Exchange I) : List Found := foundAll x.namings x.tables

/-- The handles that the application has received, with the kinds that it takes them for. -/
def received (x : Exchange I) : List (Kind × Lookup) :=
  x.result.handles ++ x.events.flatMap ClientEvent.handles

end Exchange

variable (E : δ → (c : ServerCall) → Ans c → δ → Prop) (s₀ : ClientState) (t₀ : ServerState)
variable (e₀ : δ)

/-- The history of a connection, and the state that it has led to. -/
inductive Ran : List (Exchange I) → ClientState → ServerState → δ → Prop
  | nil : Ran [] s₀ t₀ e₀
  | snoc {xs s t e s' t' e'} (h : Ran xs s t e) (c : I.Call) {log : List Asked} {r : Ret}
    {new : List ClientEvent} (hlog : Asks E e log e')
    (htables : applyAll (namingsOf (I.takes c) t.mObjects log) (tables s t) = some (tables s' t'))
    (hnew : Extends s s' new) (hreceived : Received (I.truncates c) r new) :
    Ran (xs ++ [⟨c, tables s t, log, r, new⟩]) s' t' e'

variable {E s₀ t₀ e₀}

theorem Ran.effect {xs : List (Exchange I)} {s s' : ClientState} {t t' : ServerState} {e e' : δ}
    {r : Ret} (h : Ran E s₀ t₀ e₀ xs s t e) (c : I.Call)
    (heffect : Effect E (I.takes c) (I.truncates c) s t e r s' t' e') :
    ∃ xs : List (Exchange I), Ran E s₀ t₀ e₀ xs s' t' e' := by
  obtain ⟨log, new, hlog, htables, hnew, hreceived⟩ := heffect
  exact ⟨_, h.snoc c hlog htables hnew hreceived⟩

/-- A history is made of legal answers, and keeps the server's table good. -/
theorem Ran.good {A : Set Ptr} (hE : AllLegal A E) (ht : t₀.mObjects = [])
    {xs : List (Exchange I)} {s : ClientState} {t : ServerState} {e : δ}
    (h : Ran E s₀ t₀ e₀ xs s t e) : Good A t.mObjects := by
  induction h with
  | nil =>
    rw [ht]
    exact good_nil A
  | snoc _ c hlog htables hnew hreceived ih =>
    exact Effect.good hE ih ⟨_, _, hlog, htables, hnew, hreceived⟩

/-- Every call changes the tables by its namings. -/
theorem Ran.exists_tables {xs : List (Exchange I)} {s : ClientState} {t : ServerState} {e : δ}
    (h : Ran E s₀ t₀ e₀ xs s t e) : ∀ x ∈ xs, ∃ T, applyAll x.namings x.tables = some T := by
  induction h with
  | nil => exact fun _ h => absurd h List.not_mem_nil
  | snoc _ c _ htables _ _ ih =>
    intro x hx
    rcases List.mem_append.mp hx with hx | hx
    · exact ih x hx
    · rw [List.mem_singleton.mp hx]
      exact ⟨_, htables⟩

/-- What has been added to the trace are the look-ups, and stores. -/
theorem lookups_events {ns : List Naming} {s s' : ClientState} {t t' : ServerState}
    {new : List ClientEvent} (htables : applyAll ns (tables s t) = some (tables s' t'))
    (hnew : Extends s s' new) : lookups new = (foundAll ns (tables s t)).map Found.event := by
  have htrace := trace_applyAll htables
  have hcore : ∀ s : ClientState, s.core.trace = lookups s.trace := fun _ => rfl
  rw [tables, tables, hcore, hcore, hnew, lookups, List.filter_append] at htrace
  exact List.append_cancel_left htrace

/-- **What the application receives has been looked up.** -/
theorem Ran.received {xs : List (Exchange I)} {s : ClientState} {t : ServerState} {e : δ}
    (h : Ran E s₀ t₀ e₀ xs s t e) {x : Exchange I} (hx : x ∈ xs) {k : Kind} {r : Lookup}
    (hr : (k, r) ∈ x.received) : ∃ f ∈ x.found, f.kind = k ∧ f.result = r := by
  induction h with
  | nil => exact absurd hx List.not_mem_nil
  | snoc _ c _ htables hnew hreceived ih =>
    rcases List.mem_append.mp hx with hx | hx
    · exact ih hx
    · rw [List.mem_singleton] at hx
      subst hx
      obtain ⟨id, hid⟩ := hreceived.1 (k, r) hr
      have hmem : ClientEvent.lookup k id r ∈ lookups _ := List.mem_filter.mpr ⟨hid, rfl⟩
      rw [lookups_events htables hnew, List.mem_map] at hmem
      obtain ⟨f, hf, heq⟩ := hmem
      rw [Found.event, ClientEvent.lookup.injEq] at heq
      exact ⟨f, hf, heq.1, heq.2.2⟩

end Exchange

/-! ## Runs have histories -/

section Runs

variable {ι δ : Type} [DecidableEq ι] {I : Interface δ}
variable {E : δ → (c : ServerCall) → Ans c → δ → Prop} {B : ServerBuild} {s : ClientState}
variable {t : ServerState} {e : δ}

theorem kept_ran {A : Set Ptr} (hE : AllLegal A E) (ht : t.mObjects = []) :
    Kept E I A fun s' t' e' => ∃ xs : List (Exchange I), Ran E s t e xs s' t' e' where
  good := fun ⟨_, h⟩ => h.good hE ht
  effect c := fun ⟨_, h⟩ heffect => h.effect c heffect

/-- **Every run comes to rest with a history**, or with a server that searches its table for
ever. -/
theorem Threads.settles_ran {A : Set Ptr} (hE : AllLegal A E) (hI : I.Lawful E B A)
    (ht : t.mObjects = []) {x : Threads ι I} (h : Reachable E B s t e x) :
    Settles E (ServerInstance.serve B)
      (Final B A fun _ s' t' e' => ∃ xs : List (Exchange I), Ran E s t e xs s' t' e') x.conv :=
  (Threads.inv hI (kept_ran hE ht) ⟨[], .nil⟩ h).settles

/-- Where there are no more objects than IDs, it comes to rest. -/
theorem Threads.ran {A : Finset Ptr} (hA : A.card ≤ 65536) (hE : AllLegal A E)
    (hI : I.Lawful E B A) (ht : t.mObjects = []) {x : Threads ι I}
    (h : Reachable E B s t e x) :
    Settles E (ServerInstance.serve B)
      (AtRest B fun _ s' t' e' => ∃ xs : List (Exchange I), Ran E s t e xs s' t' e') x.conv :=
  (Threads.inv hI (kept_ran hE ht) ⟨[], .nil⟩ h).atRest hA

/-- What holds of all histories holds wherever a run comes to rest. -/
theorem Final.mono {A : Set Ptr} {P Q : Ret → ClientState → ServerState → δ → Prop}
    (hPQ : ∀ {r s t e}, P r s t e → Q r s t e) {x : CallConfig δ} (h : Final B A P x) :
    Final B A Q x := by
  rcases h with ⟨r, s, t, e, hP, rfl⟩ | hhang
  · exact Or.inl ⟨r, s, t, e, hPQ hP, rfl⟩
  · exact Or.inr hhang

end Runs

end RemoteCL

import RemoteCL.Session.Effect

/-!
# The shapes of calls

Most calls are one exchange: a request, and a reply.  The reply either names no object, or names
those of the last question the server has asked the driver.  `Serves` says this of a handler, and
`Awaits` says of an API function that it takes such a reply in.  Put together they give the effect
of the call (`settles_exchange`).

What replies there can be is a parameter of both: `plain` are those that name nothing, and
`naming ids` are those that name the objects with these IDs.
-/

namespace RemoteCL

open ByteStream Conversation Wire LawfulWire Client

section Shapes

variable {δ : Type} {E : δ → (c : ServerCall) → Ans c → δ → Prop} {B : ServerBuild}
variable {A : Set Ptr} {takes : List IDType → ℕ} {truncates : Bool}
variable {use : Option (Resolve × Kind)} {plain : Bytes → Prop}
variable {naming : List IDType → Bytes → Prop}
variable {s s₀ : ClientState} {t : ServerState} {e : δ} {u : Bytes}

variable (E B A) in
/-- The call is followed to its end, and has its effect. -/
def Completes (takes : List IDType → ℕ) (truncates : Bool) (p : ClientM Ret) (s : ClientState)
    (t : ServerState) (e : δ) : Prop :=
  Settles E (ServerInstance.serve B) (Final B A (Effect E takes truncates s t e)) (start B p s t e)

/-- The last answer named nothing. -/
theorem namingsOf_eq_nil {c : ServerCall} {a : Ans c} {log : List Asked}
    (hlast : log.getLast? = some ⟨c, a⟩) (hn : named c a = []) {objects : List Ptr} :
    namingsOf takes objects log = [] := by
  rw [namingsOf, hlast]
  show namings _ _ (named c a) = []
  rw [hn, namings_nil]

theorem namingsOf_info_eq_nil {q : InfoQuery} {n : ℕ} {a : InfoAns} {log : List Asked}
    (hlast : log.getLast? = some ⟨.info q n, a⟩) (hn : namedByInfo q n a = [])
    {objects : List Ptr} : namingsOf takes objects log = [] :=
  namingsOf_eq_nil (c := .info q n) (a := a) hlast hn

/-! ## The `catch` clauses -/

/-- A client that runs by itself. -/
abbrev Client.Takes {α : Type} (p : ClientM α) (s : ClientState) (d : Bytes)
    (Q : Except Exn α → ClientState → Bytes → Bytes → Unit → Prop) : Prop :=
  p.wp noEnv (fun _ _ _ => False) s [] d () Q

/-- What follows a block: a result is kept, and an exception becomes a result without a
handle, and may be stored. -/
def afterGuard (Q : Except Exn Ret → ClientState → Bytes → Bytes → Unit → Prop) :
    Except Exn Ret → ClientState → Bytes → Bytes → Unit → Prop
  | .ok a, s, o, d, e => Q (.ok a) s o d e
  | .error _, s, o, d, e => ∀ v pointer code, v.handles = [] →
      Q (.ok v) (s.stored pointer (.errcode_ret code)) o d e

/-- The `catch` clauses around a block. -/
structure Guard (K : ClientM Ret → ClientM Ret) : Prop where
  context : Prog.Context K
  wp : ∀ {p s o d Q}, p.wp noEnv (fun _ _ _ => False) s o d () (afterGuard Q) →
    (K p).wp noEnv (fun _ _ _ => False) s o d () Q

theorem guard_catching (badAlloc others : Int32) : Guard (catching badAlloc others) where
  context := context_catching badAlloc others
  wp {p s o d Q} h := by
    rw [wp_catching]
    refine Prog.wp_mono ?_ h
    intro r s o u e hr
    cases r with
    | ok => exact hr
    | error x => exact hr (.code (caught badAlloc others x)) false 0 rfl

theorem guard_catchingError (kind : Kind) (errcode_ret : Bool) (badAlloc : Int32) :
    Guard (catchingError kind errcode_ret badAlloc) where
  context := context_catchingError kind errcode_ret badAlloc
  wp {p s o d Q} h := by
    rw [wp_catchingError]
    refine Prog.wp_mono ?_ h
    intro r s o u e hr
    cases r with
    | ok => exact hr
    | error x => exact hr (.handle kind none) errcode_ret _ rfl

/-- The `catch` clause of the functions that create contexts. -/
theorem guard_any (kind : Kind) (errcode_ret : Bool) (code : Int32) :
    Guard fun p => p.tryCatch fun _ => returnError kind errcode_ret code where
  context := Prog.Context.tryCatch _
  wp {p s o d Q} h := by
    rw [Prog.wp_tryCatch]
    refine Prog.wp_mono ?_ h
    intro r s o u e hr
    cases r with
    | ok => exact hr
    | error x => exact wp_returnError.mpr (hr (.handle kind none) errcode_ret code rfl)

/-! ## Taking a reply in -/

/-- A call that has taken its reply in. -/
def Took (truncates : Bool) (s₀ core : ClientState) (r : Except Exn Ret) (s : ClientState)
    (o d : Bytes) (_ : Unit) : Prop :=
  ∃ v found, r = .ok v ∧ o = [] ∧ d = [] ∧ Since truncates s₀ s found core ∧
    ∀ x ∈ v.handles, x ∈ found

/-- A result without a handle. -/
theorem Since.took {found : List (Kind × Lookup)} {core : ClientState}
    (h : Since truncates s₀ s found core) {v : Ret} (hv : v.handles = []) :
    Took truncates s₀ core (.ok v) s [] [] () :=
  ⟨v, found, rfl, rfl, rfl, h, fun x hx => by
    rw [hv] at hx
    exact absurd hx List.not_mem_nil⟩

/-- A program that takes a reply in, and changes the tables by the resolutions of the IDs that
it takes. -/
structure Awaits (takes : List IDType → ℕ) (truncates : Bool) (use : Option (Resolve × Kind))
    (plain : Bytes → Prop) (naming : List IDType → Bytes → Prop) (p : ClientM Ret)
    (s₀ s : ClientState) : Prop where
  plain : ∀ w, plain w → Takes p s w (Took truncates s₀ s₀.core)
  naming : ∀ ids w, naming ids w → ∃ how kind, use = some (how, kind) ∧
    Takes p s w (Took truncates s₀ (how.applyAll s₀.core kind (ids.take (takes ids))).2)

/-! ## Serving a request -/

variable (E A) in
/-- A request is served: every run of the handler from the state `e` of the driver consumes it, asks
the driver some questions, and replies in one of the two ways. -/
def ServesAt (takes : List IDType → ℕ) (use : Option (Resolve × Kind)) (plain : Bytes → Prop)
    (naming : List IDType → Bytes → Prop) (h : ServerM Unit) (t : ServerState) (u : Bytes)
    (e : δ) : Prop :=
  ∀ Q,
    (∀ log e' w, Asks E e log e' → namingsOf takes t.mObjects log = [] → plain w →
      Q (.ok ()) t w [] e') →
    (∀ log c a e' ids mObjects w, Asks E e log e' → log.getLast? = some ⟨c, a⟩ →
      useOf c = use → assignIDs t.mObjects (named c a) = some (ids, mObjects) →
      naming ids w → Q (.ok ()) { t with mObjects } w [] e') →
    h.wp E (Overfull A) t [] u e Q

variable (E A) in
/-- A request is served, whatever the state of the driver is. -/
def Serves (takes : List IDType → ℕ) (use : Option (Resolve × Kind)) (plain : Bytes → Prop)
    (naming : List IDType → Bytes → Prop) (h : ServerM Unit) (t : ServerState) (u : Bytes) :
    Prop :=
  ∀ e, ServesAt E A takes use plain naming h t u e

theorem servesAt_readPacket {X : Type} [Packet X] [Wire X] (hty : Ordinary (Packet.mType X))
    {p x : X} (hp : Reads dec (enc p) x) {k : X → ServerM Unit}
    (h : ServesAt E A takes use plain naming (k x) t u e) :
    ServesAt E A takes use plain naming (PacketStream.readPacket X >>= k) t (packet p ++ u) e := by
  intro Q hplain hnaming
  rw [Prog.wp_bind, wp_readPacket hty hp]
  exact h Q hplain hnaming

theorem serves_readPacket {X : Type} [Packet X] [Wire X] (hty : Ordinary (Packet.mType X))
    {p x : X} (hp : Reads dec (enc p) x) {k : X → ServerM Unit}
    (h : Serves E A takes use plain naming (k x) t u) :
    Serves E A takes use plain naming (PacketStream.readPacket X >>= k) t (packet p ++ u) :=
  fun e => servesAt_readPacket hty hp (h e)

theorem serves_readPacket_last {X : Type} [Packet X] [Wire X]
    (hty : Ordinary (Packet.mType X)) {p x : X} (hp : Reads dec (enc p) x)
    {k : X → ServerM Unit} (h : Serves E A takes use plain naming (k x) t []) :
    Serves E A takes use plain naming (PacketStream.readPacket X >>= k) t (packet p) := by
  intro e Q hplain hnaming
  rw [Prog.wp_bind, wp_readPacket_last hty hp]
  exact h e Q hplain hnaming

theorem serves_getObj {id : IDType} {k : Ptr → ServerM Unit}
    (h : Serves E A takes use plain naming (k (objectAt t.mObjects id)) t u) :
    Serves E A takes use plain naming (ServerInstance.getObj id >>= k) t u := h

theorem serves_getObjs {ids : List IDType} {k : List Ptr → ServerM Unit}
    (h : Serves E A takes use plain naming (k (ids.map (objectAt t.mObjects))) t u) :
    Serves E A takes use plain naming (ServerInstance.getObjs ids >>= k) t u := h

theorem serves_getState {k : ServerState → ServerM Unit}
    (h : Serves E A takes use plain naming (k t) t u) :
    Serves E A takes use plain naming (Prog.getState >>= k) t u := h

/-! ## One exchange -/

variable (E A) in
/-- A handler that serves a request, and a waiting function that takes in its replies. -/
def Agree (takes : List IDType → ℕ) (truncates : Bool) (h : ServerM Unit) (t : ServerState)
    (u : Bytes) (p : ClientM Ret) (s₀ s : ClientState) : Prop :=
  ∃ use plain naming, Waits ⟨p, s, []⟩ ∧ Serves E A takes use plain naming h t u ∧
    Awaits takes truncates use plain naming p s₀ s

theorem agree_readPacket_last {X : Type} [Packet X] [Wire X]
    (hty : Ordinary (Packet.mType X)) {x y : X} (hx : Reads dec (enc x) y)
    {k : X → ServerM Unit} {p : ClientM Ret} (h : Agree E A takes truncates (k y) t [] p s₀ s) :
    Agree E A takes truncates (PacketStream.readPacket X >>= k) t (packet x) p s₀ s := by
  obtain ⟨use, plain, naming, hwaits, hserves, hawaits⟩ := h
  exact ⟨use, plain, naming, hwaits, serves_readPacket_last hty hx hserves, hawaits⟩

theorem agree_readPacket {X : Type} [Packet X] [Wire X]
    (hty : Ordinary (Packet.mType X)) {x y : X} (hx : Reads dec (enc x) y)
    {k : X → ServerM Unit} {p : ClientM Ret} (h : Agree E A takes truncates (k y) t u p s₀ s) :
    Agree E A takes truncates (PacketStream.readPacket X >>= k) t (packet x ++ u) p s₀ s := by
  obtain ⟨use, plain, naming, hwaits, hserves, hawaits⟩ := h
  exact ⟨use, plain, naming, hwaits, serves_readPacket hty hx hserves, hawaits⟩

theorem agree_getObjs {ids : List IDType} {k : List Ptr → ServerM Unit} {p : ClientM Ret}
    (h : Agree E A takes truncates (k (ids.map (objectAt t.mObjects))) t u p s₀ s) :
    Agree E A takes truncates (ServerInstance.getObjs ids >>= k) t u p s₀ s := h

theorem agree_getObj {id : IDType} {k : Ptr → ServerM Unit} {p : ClientM Ret}
    (h : Agree E A takes truncates (k (objectAt t.mObjects id)) t u p s₀ s) :
    Agree E A takes truncates (ServerInstance.getObj id >>= k) t u p s₀ s := h

theorem Asks.append {log₁ log₂ : List Asked} {e₁ e₂ : δ} (h₁ : Asks E e log₁ e₁)
    (h₂ : Asks E e₁ log₂ e₂) : Asks E e (log₁ ++ log₂) e₂ := by
  induction h₁ with
  | nil => exact h₂
  | cons ha _ ih => exact .cons ha (ih h₂)

/-- What names nothing leaves the namings to what follows. -/
theorem namingsOf_append {log₁ log₂ : List Asked} {objects : List Ptr}
    (h₁ : namingsOf takes objects log₁ = []) (h₂ : namingsOf takes objects log₂ = []) :
    namingsOf takes objects (log₁ ++ log₂) = [] := by
  cases log₂ with
  | nil => rwa [List.append_nil]
  | cons x log₂ =>
    rw [namingsOf, List.getLast?_append_of_ne_nil _ (List.cons_ne_nil _ _)]
    exact h₂

/-- The rest of an exchange: the handler has asked some questions already, and has no packet left
to read but those that have arrived. -/
theorem settles_rest_at {h : ServerM Unit} {p : ClientM Ret} {e₁ : δ} {before : List Asked}
    (hbefore : Asks E e before e₁) (hquiet : namingsOf takes t.mObjects before = [])
    (hwaits : Waits ⟨p, s, []⟩) (hserves : ServesAt E A takes use plain naming h t u e₁)
    (hawaits : Awaits takes truncates use plain naming p s₀ s) :
    Settles E (ServerInstance.serve B) (Final B A (Effect E takes truncates s₀ t e))
      ⟨⟨p, s, []⟩, ⟨ServerInstance.iteration (h >>= fun _ => pure true), t, []⟩, u, [], e₁⟩ := by
  refine settles_server_wp stable_final context_handler
    (fun t o u e h => settles_spin hwaits h e) (hserves _ ?_ ?_)
  · intro log e' w hlog hnamings hw
    refine settles_handled.mpr (settles_reply (Prog.wp_mono ?_ (hawaits.plain w hw)))
    rintro r s' o' d' - ⟨v, found, rfl, rfl, rfl, hs, hv⟩
    exact ⟨v, rfl, rfl, rfl,
      Effect.quiet (hbefore.append hlog) (namingsOf_append hquiet hnamings) hs hv rfl⟩
  · intro log c a e' ids mObjects w hlog hlast huse hids hw
    obtain ⟨how, kind, hsome, htakes⟩ := hawaits.naming ids w hw
    refine settles_handled.mpr (settles_reply (Prog.wp_mono ?_ htakes))
    rintro r s' o' d' - ⟨v, found, rfl, rfl, rfl, hs, hv⟩
    refine ⟨v, rfl, rfl, rfl,
      Effect.names (hbefore.append hlog) ?_ (huse.trans hsome) hids hs hv⟩
    rw [List.getLast?_append, hlast]
    rfl

theorem settles_rest {h : ServerM Unit} {p : ClientM Ret} {e₁ : δ} {before : List Asked}
    (hbefore : Asks E e before e₁) (hquiet : namingsOf takes t.mObjects before = [])
    (hagree : Agree E A takes truncates h t u p s₀ s) :
    Settles E (ServerInstance.serve B) (Final B A (Effect E takes truncates s₀ t e))
      ⟨⟨p, s, []⟩, ⟨ServerInstance.iteration (h >>= fun _ => pure true), t, []⟩, u, [], e₁⟩ := by
  obtain ⟨use, plain, naming, hwaits, hserves, hawaits⟩ := hagree
  exact settles_rest_at hbefore hquiet hwaits (hserves e₁) hawaits

/-- **An exchange**: the request has arrived, the handler serves it, and the client, which waits,
takes in the reply. -/
theorem settles_exchange {ty : PacketType} {h : ServerM Unit} {p : ClientM Ret}
    (hh : ServerInstance.handler B ty = some h) (hu : u.head? = some ty.toByte)
    (hagree : Agree E A takes truncates h t u p s₀ s) :
    Settles E (ServerInstance.serve B) (Final B A (Effect E takes truncates s₀ t e))
      ⟨⟨p, s, []⟩, ⟨ServerInstance.serve B, t, []⟩, u, [], e⟩ :=
  (settles_dispatch hh hu).mpr (settles_rest .nil rfl hagree)

/-- A function whose request is one packet. -/
theorem settles_call {K : ClientM Ret → ClientM Ret} (hK : Guard K) {P : Type} [Packet P]
    [Wire P] {p : P} {h : ServerM Unit} {k : Unit → ClientM Ret}
    (hh : ServerInstance.handler B (Packet.mType P) = some h)
    (hagree : Agree E A takes truncates h t (packet p) (K (k ())) s₀ s) :
    Settles E (ServerInstance.serve B) (Final B A (Effect E takes truncates s₀ t e))
      (start B (K (PacketStream.writePacket p >>= fun _ => PacketStream.flush >>= k)) s t e) := by
  rw [start, settles_client_writePacket stable_final hK.context,
    settles_client_flushes stable_final hK.context, List.nil_append, List.nil_append]
  exact settles_exchange hh rfl hagree

/-- A function whose request are two packets. -/
theorem settles_call₂ {K : ClientM Ret → ClientM Ret} (hK : Guard K) {P P' : Type}
    [Packet P] [Wire P] [Packet P'] [Wire P'] {p : P} {p' : P'} {h : ServerM Unit}
    {k : Unit → ClientM Ret} (hh : ServerInstance.handler B (Packet.mType P) = some h)
    (hagree : Agree E A takes truncates h t (packet p ++ packet p') (K (k ())) s₀ s) :
    Settles E (ServerInstance.serve B) (Final B A (Effect E takes truncates s₀ t e))
      (start B (K (PacketStream.writePacket p >>= fun _ => PacketStream.writePacket p' >>=
        fun _ => PacketStream.flush >>= k)) s t e) := by
  rw [start, settles_client_writePacket stable_final hK.context,
    settles_client_writePacket stable_final hK.context,
    settles_client_flushes stable_final hK.context, List.nil_append, List.nil_append]
  exact settles_exchange hh rfl hagree

/-- A pointer is stored through before the server is asked. -/
theorem settles_stores {F : CallConfig δ → Prop} (hF : Stable E (ServerInstance.serve B) F)
    {pointer : Bool} {x : Store} {k : Unit → ClientM Ret} {d : Bytes} {o : Bytes}
    {K : ClientM Ret → ClientM Ret} (hK : Prog.Context K)
    {c : Side ServerState Exn ServerCall Ans Bool} :
    Settles E (ServerInstance.serve B) F ⟨⟨K (store pointer x >>= k), s, o⟩, c, u, d, e⟩ ↔
      Settles E (ServerInstance.serve B) F ⟨⟨K (k ()), s.stored pointer x, o⟩, c, u, d, e⟩ := by
  cases pointer with
  | false => rfl
  | true => exact settles_client_modify hF hK

theorem settles_store {P : Ret → ClientState → ServerState → δ → Prop} {pointer : Bool}
    {x : Store} {k : Unit → ClientM Ret} {d : Bytes} {o : Bytes}
    {K : ClientM Ret → ClientM Ret} (hK : Prog.Context K)
    {c : Side ServerState Exn ServerCall Ans Bool} :
    Settles E (ServerInstance.serve B) (Final B A P)
        ⟨⟨K (store pointer x >>= k), s, o⟩, c, u, d, e⟩ ↔
      Settles E (ServerInstance.serve B) (Final B A P)
        ⟨⟨K (k ()), s.stored pointer x, o⟩, c, u, d, e⟩ := settles_stores stable_final hK

/-! ## Calls that return early -/

theorem completes_code (err : Int32) :
    Completes E B A takes truncates (pure (.code err)) s t e :=
  settles_return (Effect.quiet .nil rfl (.refl truncates s)
    (fun _ h => absurd h List.not_mem_nil) rfl)

theorem completes_returnError (kind : Kind) (errcode_ret : Bool) (code : Int32) :
    Completes E B A takes truncates (returnError kind errcode_ret code) s t e := by
  refine settles_reply (Client.wp_returnError.mpr ⟨_, rfl, rfl, rfl, ?_⟩)
  exact Effect.quiet .nil rfl ((Since.refl truncates s).stored_plain _ rfl rfl)
    (fun _ h => absurd h List.not_mem_nil) rfl

end Shapes

end RemoteCL

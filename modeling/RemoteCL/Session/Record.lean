import RemoteCL.Session.Rules
import RemoteCL.Theory.Outcomes
import Mathlib.Data.List.TakeWhile

/-!
# What the driver is given

The driver is a party of its own here.  It answers as it likes, by everything it has been asked so
far, and keeps a record of the questions.  What a call of the client does to the driver is then a
statement about the record: `FirstCall` says what the first question was, and later questions do not
change that.

A call ends at rest, or, where there may be no ID for an object, in a search of the server for one
that does not come to an end (`Ended`).  Nothing is left unread in either case.  A call that the
client refuses has not sent anything (`Refused`).
-/

namespace RemoteCL

open ByteStream Conversation Wire LawfulWire Client

/-! ## Drivers -/

/-- A driver, which answers by everything it has been asked before. -/
abbrev Driver := List Asked → (c : ServerCall) → Ans c

namespace Driver

/-- What a driver answers, and what it has then been asked. -/
def environment (D : Driver) : List Asked → (c : ServerCall) → Ans c → List Asked → Prop :=
  fun log c a log' => a = D log c ∧ log' = log ++ [⟨c, a⟩]

theorem answers (D : Driver) : Answers D.environment := fun log c => ⟨D log c, _, rfl, rfl⟩

/-- A driver that refuses everything. -/
def refusing : Driver := fun _ c => refuse c

/-- The record only grows. -/
theorem prefix_of_run {D : Driver} {B : ServerBuild} {x y : CallConfig (List Asked)}
    (hxy : Relation.ReflTransGen (Step D.environment (ServerInstance.serve B)) x y) :
    x.env <+: y.env := by
  refine env_of_run (I := fun log => x.env <+: log) ?_ (List.prefix_refl _) hxy
  rintro log c a _ ⟨-, rfl⟩ hlog
  exact hlog.trans (List.prefix_append _ _)

/-- A run is also one with a driver that gives the same answers in it. -/
theorem run_congr {D D' : Driver} {B : ServerBuild} {x y : CallConfig (List Asked)}
    (hxy : Relation.ReflTransGen (Step D.environment (ServerInstance.serve B)) x y)
    (h : ∀ log c, log ++ [⟨c, D log c⟩] <+: y.env → D' log c = D log c) :
    Relation.ReflTransGen (Step D'.environment (ServerInstance.serve B)) x y := by
  induction hxy with
  | refl => exact .refl
  | tail _ hstep ih =>
    have hprefix := prefix_of_run (.single hstep)
    refine (ih fun log c hlog => h log c (hlog.trans hprefix)).tail (hstep.mono ?_)
    rintro c a ⟨rfl, henv⟩
    exact ⟨(h _ c (henv ▸ List.prefix_refl _)).symm, henv⟩

/-- The server asks, and the question is kept. -/
theorem settles_ask {D : Driver} {B : ServerBuild} {F : CallConfig (List Asked) → Prop}
    (hF : Stable D.environment (ServerInstance.serve B) F) {K : ServerM Unit → ServerM Bool}
    (hK : Prog.Context K) {q : ServerCall} {k : Ans q → ServerM Unit}
    {c : Side ClientState Exn Empty NoAnswer Ret} {t : ServerState} {o u d : Bytes}
    {log : List Asked} :
    Settles D.environment (ServerInstance.serve B) F
        ⟨c, ⟨K (Prog.ask q >>= k), t, o⟩, u, d, log⟩ ↔
      Settles D.environment (ServerInstance.serve B) F
        ⟨c, ⟨K (k (D log q)), t, o⟩, u, d, log ++ [⟨q, D log q⟩]⟩ := by
  refine (settles_server_ask hF hK).trans ⟨fun h => h _ _ ⟨rfl, rfl⟩, ?_⟩
  rintro h a _ ⟨rfl, rfl⟩
  exact h

end Driver

/-! ## The first question -/

/-- The first question to the driver, and the answer to it. -/
def FirstCall (Q : Asked → Prop) (x : CallConfig (List Asked)) : Prop :=
  ∃ q log, x.env = q :: log ∧ Q q

section FirstCall

variable {D : Driver} {B : ServerBuild} {Q : Asked → Prop} {x y : CallConfig (List Asked)}

theorem FirstCall.run (hx : FirstCall Q x)
    (hxy : Relation.ReflTransGen (Step D.environment (ServerInstance.serve B)) x y) :
    FirstCall Q y := by
  obtain ⟨q, log, hlog, hq⟩ := hx
  obtain ⟨more, hmore⟩ := Driver.prefix_of_run hxy
  exact ⟨q, log ++ more, by rw [← hmore, hlog, List.cons_append], hq⟩

theorem stable_firstCall : Stable D.environment (ServerInstance.serve B) (FirstCall Q) :=
  fun _ _ hx hxy => hx.run (.single hxy)

/-- There is only one first question. -/
theorem FirstCall.of_run {Q' : Asked → Prop} (hx : FirstCall Q x)
    (hxy : Relation.ReflTransGen (Step D.environment (ServerInstance.serve B)) x y)
    (hy : FirstCall Q' y) : ∃ q, Q q ∧ Q' q := by
  obtain ⟨q, log, hlog, hq⟩ := hx.run hxy
  obtain ⟨q', log', hlog', hq'⟩ := hy
  rw [hlog, List.cons.injEq] at hlog'
  exact ⟨q, hq, hlog'.1 ▸ hq'⟩

/-- Where the first question is known, every statement about it is decided. -/
theorem attains_firstCall_iff {q : Asked}
    (hx : Settles D.environment (ServerInstance.serve B) (FirstCall fun q' => q' = q) x) :
    Attains D.environment (ServerInstance.serve B) (FirstCall Q) x ↔ Q q := by
  constructor
  · intro h
    obtain ⟨y, hxy, hy⟩ := hx.exists_final D.answers
    obtain ⟨z, hyz, hz⟩ := h y hxy
    obtain ⟨q', rfl, hq'⟩ := hy.of_run hyz hz
    exact hq'
  · intro hq
    refine (hx.mono ?_).attains D.answers stable_firstCall
    rintro y ⟨q', log, hlog, rfl⟩
    exact ⟨q', log, hlog, hq⟩

end FirstCall

/-! ## Handles and objects -/

/-- The driver objects that handles denote. -/
def objectsOf (t : ServerState) (hs : List Handle) : List Ptr :=
  hs.map fun h => objectAt t.mObjects (GetID h)

theorem map_objectAt_map_GetID (t : ServerState) (hs : List Handle) :
    (hs.map GetID).map (objectAt t.mObjects) = objectsOf t hs := List.map_map

@[simp] theorem length_objectsOf (t : ServerState) (hs : List Handle) :
    (objectsOf t hs).length = hs.length := List.length_map _

/-- A string ends at its terminator, and what is left has none. -/
@[simp] theorem cStr_cStr (s : Bytes) : cStr (cStr s) = cStr s :=
  List.takeWhile_idem

/-! ## How a call ends -/

section Ended

variable {δ : Type} (B : ServerBuild) (P : Ret → ClientState → ServerState → δ → Prop) (N : Prop)

/-- The client waits.  The server has read everything, and searches for ever in a full table for
the ID of an object that is not in it. -/
def Searching (x : CallConfig δ) : Prop :=
  ∃ q s t e p, assignID t.mObjects p = none ∧
    x = ⟨⟨.read 1 q, s, []⟩, ⟨.spin, t, []⟩, [], [], e⟩

/-- The driver has made an object, and there is no ID for it. -/
def NoID (t : ServerState) (err : Int32) (p : Ptr) : Prop :=
  err = CL_SUCCESS ∧ assignID t.mObjects p = none

/-- The two ways for a call to end, of which `N` says when there is the second. -/
def Ended (x : CallConfig δ) : Prop := AtRest B P x ∨ N ∧ Searching x

/-- A call that ends early: it returns without having written anything. -/
def Refused (p : ClientM Ret) (s : ClientState) : Prop :=
  p.wp noEnv (fun _ _ _ => False) s [] [] () fun r _ o _ _ =>
    o = [] ∧ ((∃ kind, r = .ok (.handle kind none)) ∨ ∃ err, err ≠ CL_SUCCESS ∧ r = .ok (.code err))

variable {B P N} {E : δ → (c : ServerCall) → Ans c → δ → Prop}

theorem terminal_ended : Terminal E (ServerInstance.serve B) (Ended B P N) where
  stuck := by
    rintro x y (⟨r, s, t, e, -, rfl⟩ | ⟨-, q, s, t, e, p, -, rfl⟩)
    · exact not_step_rest
    · exact not_step_spin
  client_check := by
    rintro x k (⟨r, s, t, e, -, rfl⟩ | ⟨-, q, s, t, e, p, -, rfl⟩) h
    · cases h
    · cases h
  server_check := by
    obtain ⟨k', hserve⟩ := serve_eq_peek (B := B)
    rintro x k (⟨r, s, t, e, -, rfl⟩ | ⟨-, q, s, t, e, p, -, rfl⟩) h
    · rw [start, hserve] at h
      cases h
    · cases h

theorem stable_ended : Stable E (ServerInstance.serve B) (Ended B P N) := terminal_ended.stable

/-- What a call that has returned has left behind. -/
theorem returned_of_run {x : CallConfig δ} {r : Ret} {s : ClientState} {t : ServerState} {e : δ}
    (hE : Answers E) (hx : Settles E (ServerInstance.serve B) (Ended B P N) x)
    (hrun : Relation.ReflTransGen (Step E (ServerInstance.serve B)) x (start B (.ret r) s t e)) :
    P r s t e := by
  rcases (hx.run stable_ended hrun).of_stuck hE fun _ => not_step_rest with
    ⟨r', s', t', e', hP, heq⟩ | ⟨-, q, s', t', e', p, -, heq⟩
  · rw [start, start, Config.mk.injEq, Side.mk.injEq, Side.mk.injEq, Prog.ret.injEq] at heq
    obtain ⟨⟨rfl, rfl, -⟩, ⟨-, rfl, -⟩, -, -, rfl⟩ := heq
    exact hP
  · cases congrArg (fun x => x.client.prog) heq

/-! ## Serving a request -/

/-- The server searches for ever, and has read the request and written nothing. -/
def Full (N : Prop) (t : ServerState) (o u : Bytes) : Prop :=
  N ∧ o = [] ∧ u = [] ∧ ∃ p, assignID t.mObjects p = none

variable {s : ClientState} {t : ServerState} {e : δ} {u : Bytes}

/-- **A turn each**: the request has arrived, the server serves it, and the client takes the reply
in. -/
theorem settles_serves (ty : PacketType) {h : ServerM Unit} {p : ClientM Ret}
    (hh : ServerInstance.handler B ty = some h) (hu : u.head? = some ty.toByte)
    (hc : Waits ⟨p, s, []⟩)
    (hserve : h.wp E (Full N) t [] u e fun r t' o u' e' => r = .ok () ∧ u' = [] ∧
      p.wp noEnv (fun _ _ _ => False) s [] o () fun r' s' o' d' _ =>
        ∃ a, r' = .ok a ∧ o' = [] ∧ d' = [] ∧ P a s' t' e') :
    Settles E (ServerInstance.serve B) (Ended B P N)
      ⟨⟨p, s, []⟩, ⟨ServerInstance.serve B, t, []⟩, u, [], e⟩ := by
  have hF : Stable E (ServerInstance.serve B) (Ended B P N) := stable_ended
  refine (settles_dispatches hF hh hu).mpr (settles_server_wp hF context_handler ?_
    (Prog.wp_mono ?_ hserve))
  · rintro t o u e ⟨hN, rfl, rfl, q, hq⟩
    obtain ⟨k, s, hk⟩ := hc
    exact hk ▸ Settles.final (Or.inr ⟨hN, k, s, t, e, q, hq, rfl⟩)
  · rintro r t' o u e ⟨rfl, rfl, hreply⟩
    refine (settles_handles hF).mpr (settles_client_wp hF Prog.Context.hole
      (fun _ _ _ h => h.elim) (Prog.wp_mono ?_ hreply))
    rintro r s' o' d' - ⟨a, rfl, rfl, rfl, hP⟩
    exact Settles.final (Or.inl ⟨a, s', t', e, hP, rfl⟩)

/-- A request of one packet has been sent. -/
theorem settles_sends {F : CallConfig δ → Prop} (hF : Stable E (ServerInstance.serve B) F)
    {K : ClientM Ret → ClientM Ret} (hK : Prog.Context K) {X : Type} [Packet X] [Wire X] {x : X}
    {k : Unit → ClientM Ret} :
    Settles E (ServerInstance.serve B) F
        (start B (K (PacketStream.writePacket x >>= fun _ => PacketStream.flush >>= k)) s t e) ↔
      Settles E (ServerInstance.serve B) F
        ⟨⟨K (k ()), s, []⟩, ⟨ServerInstance.serve B, t, []⟩, packet x, [], e⟩ :=
  (settles_client_writePacket hF hK).trans (settles_client_flushes hF hK)

/-- An error in place of the ID of a new object. -/
theorem wp_refused {kind : Kind} {errcode_ret : Bool} {badAlloc err : Int32}
    {k : IDPacket → ClientM Ret} {Q : Except Exn Ret → ClientState → Bytes → Bytes → Unit → Prop}
    (h : Q (.ok (.handle kind none)) (s.stored errcode_ret (.errcode_ret err)) [] [] ()) :
    (catchingError kind errcode_ret badAlloc (PacketStream.readPacket IDPacket >>= k)).wp noEnv
      (fun _ _ _ => False) s [] (packet (⟨err⟩ : ErrorPacket)) () Q := by
  rw [wp_catchingError, Prog.wp_bind, wp_readPacket_error]
  exact h

/-- A reply with the ID of a new object, or with an error. -/
theorem wp_replyCreated {a : CreateAns}
    {Q : Except Exn Unit → ServerState → Bytes → Bytes → δ → Prop}
    (hN : NoID t a.err a.object → N)
    (herror : a.err ≠ CL_SUCCESS → Q (.ok ()) t (packet (⟨a.err⟩ : ErrorPacket)) [] e)
    (hid : a.err = CL_SUCCESS → ∀ id mObjects, assignID t.mObjects a.object = some (id, mObjects) →
      Q (.ok ()) { t with mObjects } (packet (⟨id⟩ : IDPacket)) [] e) :
    (ServerInstance.replyCreated a).wp E (Full N) t [] [] e Q := by
  rw [ServerInstance.replyCreated]
  by_cases herr : a.err = CL_SUCCESS
  · rw [if_neg (not_not.mpr herr), ServerInstance.writeID, Prog.wp_bind, ServerInstance.wp_getIDFor]
    cases hassign : assignID t.mObjects a.object with
    | none => exact ⟨hN ⟨herr, hassign⟩, rfl, rfl, a.object, hassign⟩
    | some x => exact hid herr _ _ hassign
  · rw [if_pos herr]
    exact herror herr

end Ended

end RemoteCL

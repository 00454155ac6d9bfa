import RemoteCL.Session.Calls.Details
import RemoteCL.Session.RawValues

/-!
# Guessed sizes

Two handlers do not ask for the size of a value first.  They make room for as much as should do,
1024 bytes for the build of a program and 32 bytes for a context, and repeat the question if it
turns out that there is more.

It does not turn out.  A driver that has no room for a value says that the size is invalid, and
stores neither the value nor its size; the handlers take this for the answer.  So the second
question, which is there for long values, is never put, and `guess_suffices_iff` says that a value
is returned exactly if the guess was good enough.
-/

namespace RemoteCL

open ByteStream Conversation Wire LawfulWire Client

/-! ## Drivers -/

/-- What OpenCL specifies for a query: a buffer that is too small is an error, and otherwise the
value is stored. -/
structure Specified (D : Driver) (q : InfoQuery) (v : Bytes) : Prop where
  short : ∀ log n, 0 < n → n < v.length → (D log (.info q n)).err = CL_INVALID_VALUE
  whole : ∀ log n, v.length ≤ n → D log (.info q n) = ⟨CL_SUCCESS, some v.length, v⟩

/-! ## The queries -/

/-- A query whose handler guesses the size of the answer. -/
inductive GuessQuery where
  | clGetProgramBuildInfo (program device : Handle) (param_name : UInt32)
  | clGetContextInfo (context : Handle) (param_name : UInt32)

namespace GuessQuery

def call (C : Build) (args : InfoArgs) : GuessQuery → ClientM Ret
  | clGetProgramBuildInfo program device param =>
    Client.clGetProgramBuildInfo C (some program) (some device) param args
  | clGetContextInfo context param => Client.clGetContextInfo C (some context) param args

def question (t : ServerState) : GuessQuery → InfoQuery
  | clGetProgramBuildInfo program device param =>
    .clGetProgramBuildInfo (objectAt t.mObjects (GetID program))
      (objectAt t.mObjects (GetID device)) param
  | clGetContextInfo context param =>
    .clGetContextInfo (objectAt t.mObjects (GetID context)) param

/-- The size that is tried first. -/
def guess : GuessQuery → ℕ
  | clGetProgramBuildInfo _ _ _ => 1024
  | clGetContextInfo _ _ => 32

/-- The answer is a list of devices. -/
def Devices : GuessQuery → Prop
  | clGetProgramBuildInfo _ _ _ => False
  | clGetContextInfo _ param => param = CL_CONTEXT_DEVICES

instance (q : GuessQuery) : Decidable q.Devices := by
  cases q with
  | clGetProgramBuildInfo => exact instDecidableFalse
  | clGetContextInfo _ param => exact inferInstanceAs (Decidable (param = CL_CONTEXT_DEVICES))

end GuessQuery

/-- The objects in a list of devices. -/
def devicesIn (v : Bytes) : List Ptr := words (v.length / 8) v

/-- The application has got a list of devices: its size, and the client's objects for the devices if
there is room for them. -/
def DevicesComplete (args : InfoArgs) (devices : List Ptr) (s s' : ClientState) (t' : ServerState) :
    Prop :=
  ∃ ids, ids.map (objectAt t'.mObjects) = devices ∧
    (sizesReported s s' = if args.param_value_size_ret then [8 * devices.length] else []) ∧
    (args.param_value = true → 8 * devices.length ≤ args.param_value_size →
      handlesCopied s s' =
        (Resolve.getOrInsertObject.applyAll s .deviceID ids).1.map fun h => (.deviceID, h))

/-- The application has got what the driver has. -/
def GuessQuery.Gets (q : GuessQuery) (args : InfoArgs) (v : Bytes) (s s' : ClientState)
    (t' : ServerState) : Prop :=
  if q.Devices then DevicesComplete args (devicesIn v) s s' t' else Complete args v s s'

/-- However the query is made, it succeeds, and the application gets what the driver has. -/
def ReturnsComplete (D : Driver) (B : ServerBuild) (C : Build) (s : ClientState) (t : ServerState)
    (q : GuessQuery) (v : Bytes) : Prop :=
  ∀ args : InfoArgs, Settles D.environment (ServerInstance.serve B)
    (Final B ∅ fun r s' t' _ => r = .code CL_SUCCESS ∧ q.Gets args v s s' t')
    (start B (q.call C args) s t [])

/-- The guess is good enough.  For a list of devices there have to be IDs, too. -/
def GuessQuery.Suffices (q : GuessQuery) (t : ServerState) (v : Bytes) : Prop :=
  v.length ≤ q.guess ∧ (q.Devices → (assignIDs t.mObjects (devicesIn v)).isSome)

/-! ## What the client does -/

/-- Look-ups store nothing. -/
theorem filterMap_lookupEvents {β : Type} {f : ClientEvent → Option β}
    (hf : ∀ kind id r, f (.lookup kind id r) = none) (kind : Kind) (ids : List IDType)
    (rs : List Lookup) : (lookupEvents kind ids rs).filterMap f = [] := by
  rw [List.filterMap_eq_nil_iff]
  intro ev hev
  obtain ⟨i, hi, rfl⟩ := List.mem_iff_getElem.mp hev
  rw [lookupEvents, List.length_zipWith] at hi
  simp [lookupEvents, hf]

/-- Handles that are looked up and stored. -/
theorem Extends.found {s s₁ : ClientState} {new : List ClientEvent} (h : Extends s s₁ new)
    (how : Resolve) (kind : Kind) (ids : List IDType) :
    Extends s ((how.applyAll s₁ kind ids).2.stored true
        (.param_handles kind (how.applyAll s₁ kind ids).1))
      (new ++ lookupEvents kind ids (how.applyAll s₁ kind ids).1 ++
        [.store (.param_handles kind (how.applyAll s₁ kind ids).1)]) :=
  (h.applyAll how kind ids).stored true _

namespace Client

variable {args : InfoArgs} {s : ClientState} {ids : List IDType}

/-- The state of a client that has taken in a list of devices. -/
def withDevices (args : InfoArgs) (s : ClientState) (ids : List IDType) : ClientState :=
  let s₁ := s.stored args.param_value_size_ret (.param_value_size_ret (ids.length * 8))
  let found := Resolve.getOrInsertObject.applyAll s₁ .deviceID
    (ids.take (min ids.length (args.param_value_size / 8)))
  if args.param_value then found.2.stored true (.param_handles .deviceID found.1) else s₁

/-- What is looked up does not depend on what has been stored. -/
theorem fst_applyAll_stored (how : Resolve) (pointer : Bool) (x : Store) (kind : Kind) :
    (how.applyAll (s.stored pointer x) kind ids).1 = (how.applyAll s kind ids).1 := by
  have hstored := congrArg Prod.fst (how.core_applyAll (s.stored pointer x) kind ids)
  have hs := congrArg Prod.fst (how.core_applyAll s kind ids)
  rw [ClientState.core_stored] at hstored
  exact hstored.symm.trans hs

theorem sizesReported_withDevices :
    sizesReported s (withDevices args s ids) =
      if args.param_value_size_ret then [8 * ids.length] else [] := by
  have hstored := (Extends.refl s).stored args.param_value_size_ret
    (.param_value_size_ret (ids.length * 8))
  rw [withDevices, sizesReported, mul_comm 8]
  cases args.param_value with
  | false =>
    rw [if_neg Bool.false_ne_true, hstored.eventsSince]
    cases args.param_value_size_ret <;> rfl
  | true =>
    rw [if_pos rfl, (hstored.found _ _ _).eventsSince, List.filterMap_append,
      List.filterMap_append, filterMap_lookupEvents fun _ _ _ => rfl]
    cases args.param_value_size_ret <;> rfl

theorem devicesComplete_withDevices {devices : List Ptr} {t' : ServerState}
    (h : ids.map (objectAt t'.mObjects) = devices) :
    DevicesComplete args devices s (withDevices args s ids) t' := by
  have hlen : ids.length = devices.length := by rw [← h, List.length_map]
  refine ⟨ids, h, by rw [sizesReported_withDevices, hlen], fun hvalue hroom => ?_⟩
  have hstored := (Extends.refl s).stored args.param_value_size_ret
    (.param_value_size_ret (ids.length * 8))
  have htake : ids.take (min ids.length (args.param_value_size / 8)) = ids :=
    List.take_of_length_le (by omega)
  rw [withDevices, hvalue, if_pos rfl, htake, handlesCopied, (hstored.found _ _ _).eventsSince,
    List.flatMap_append, List.flatMap_append, handles_lookupEvents, fst_applyAll_stored]
  cases args.param_value_size_ret <;> simp [ClientEvent.handles]

end Client

/-! ## What the server does -/

theorem words_append {n : ℕ} {buffer : Bytes} (h : 8 * n ≤ buffer.length) (rest : Bytes) :
    words n (buffer ++ rest) = words n buffer := by
  induction n generalizing buffer with
  | zero => rfl
  | succ n ih =>
    have hdrop : 8 * n ≤ (buffer.drop 8).length := by
      rw [List.length_drop]
      omega
    rw [words, words, wordAt, wordAt, List.take_append_of_le_length (by omega),
      List.drop_append_of_le_length (by omega), ih hdrop]

/-- The devices are in the buffer that the driver has stored them in. -/
theorem words_storeInto {v : Bytes} {n : ℕ} (h : v.length ≤ n) :
    words (v.length / 8) (storeInto (zeros n) v) = devicesIn v := by
  rw [storeInto, length_zeros, List.take_of_length_le h, words_append (by omega), devicesIn]

/-- The IDs of some objects, if the search for them ends. -/
theorem ServerInstance.wp_getIDsFor {δ : Type} {E : δ → (c : ServerCall) → Ans c → δ → Prop}
    {H : ServerState → Bytes → Bytes → Prop} {ps : List Ptr} {t : ServerState} {o u : Bytes} {e : δ}
    {Q : Except Exn (List IDType) → ServerState → Bytes → Bytes → δ → Prop}
    (hsome : ∀ ids mObjects, assignIDs t.mObjects ps = some (ids, mObjects) →
      Q (.ok ids) { t with mObjects } o u e)
    (hnone : assignIDs t.mObjects ps = none → ∀ t' p, assignID t'.mObjects p = none → H t' o u) :
    (getIDsFor ps).wp E H t o u e Q := by
  induction ps generalizing t Q with
  | nil => exact hsome [] t.mObjects rfl
  | cons p ps ih =>
    rw [getIDsFor, Prog.wp_bind, wp_getIDFor]
    cases hid : assignID t.mObjects p with
    | none =>
      refine hnone ?_ t p hid
      rw [assignIDs, hid, Option.bind_none]
    | some a =>
      obtain ⟨id, objects⟩ := a
      rw [assignIDs, hid, Option.bind_some] at hsome hnone
      dsimp only
      rw [Prog.afterBind_ok, Prog.wp_bind]
      refine ih (t := { t with mObjects := objects }) (fun ids mObjects hids => ?_) fun hids => ?_
      · exact hsome _ _ (by rw [hids, Option.map_some])
      · exact hnone (by rw [hids, Option.map_none])

/-! ## What becomes of the queries -/

section Calls

variable {D : Driver} {B : ServerBuild} {C : Build} {s : ClientState} {t : ServerState}
variable {args : InfoArgs} {v : Bytes} {F : CallConfig (List Asked) → Prop}
variable (hF : Stable D.environment (ServerInstance.serve B) F)
include hF

/-- A guess that was not good enough: the application is told that its size is invalid. -/
theorem settles_guess_long (q : GuessQuery) (hv : Specified D (q.question t) v)
    (hlong : q.guess < v.length)
    (h : ∀ log, Settles D.environment (ServerInstance.serve B) F
      ⟨⟨.ret (.code CL_INVALID_VALUE), s, []⟩, ⟨ServerInstance.serve B, t, []⟩, [], [], log⟩) :
    Settles D.environment (ServerInstance.serve B) F (start B (q.call C args) s t []) := by
  have herror : CL_INVALID_VALUE ≠ CL_SUCCESS := by decide
  cases q with
  | clGetProgramBuildInfo program device param =>
    have hfirst : (D [] (.info (.clGetProgramBuildInfo (objectAt t.mObjects (GetID program))
        (objectAt t.mObjects (GetID device)) param) 1024)).err = CL_INVALID_VALUE :=
      hv.short [] 1024 (by decide) hlong
    refine (settles_asks hF (by decide) rfl).mpr ((settles_server_get hF context_handler).mpr
      ((settles_server_get hF context_handler).mpr
        ((Driver.settles_ask hF context_handler).mpr ?_)))
    simp only [hfirst, if_pos herror]
    exact (settles_replies hF).mpr ((settles_told hF).mpr (h _))
  | clGetContextInfo context param =>
    have hfirst : (D [] (.info (.clGetContextInfo (objectAt t.mObjects (GetID context)) param)
        32)).err = CL_INVALID_VALUE := hv.short [] 32 (by decide) hlong
    refine (settles_asks hF (by decide) rfl).mpr ((settles_server_get hF context_handler).mpr
      ((Driver.settles_ask hF context_handler).mpr ?_))
    simp only [hfirst, if_pos herror]
    exact (settles_replies hF).mpr ((settles_told hF).mpr (h _))

/-- A payload has arrived that is passed on as far as there is room. -/
theorem settles_guess_stored {badAlloc others : Int32} {sz : SizeT} (hz : SameFormat B.zlib C.zlib)
    (hlen : v.length < sz.range) {log : List Asked} :
    Settles D.environment (ServerInstance.serve B) F
        ⟨⟨catching badAlloc others (PacketStream.read .payload (decPayload C.zlib sz) >>=
            fun payload => storePrefix args payload >>= fun _ => pure (.code CL_SUCCESS)), s, []⟩,
          ⟨ServerInstance.serve B, t, []⟩, [],
          PacketStream.frame .payload (encPayload B.zlib sz v), log⟩ ↔
      Settles D.environment (ServerInstance.serve B) F
        ⟨⟨.ret (.code CL_SUCCESS), withAnswer true args s v, []⟩,
          ⟨ServerInstance.serve B, t, []⟩, [], [], log⟩ := by
  have hK := context_catching badAlloc others
  have hreads := reads_payload hz hlen .payload .payload
  rw [← List.append_nil (PacketStream.frame _ _)]
  refine (settles_client_meets hF hK hreads (by decide)).trans ?_
  rw [storePrefix, bind_assoc, withAnswer, Bool.true_or, Bool.and_true, if_pos rfl]
  exact (settles_client_store hF hK).trans (settles_client_store hF hK)

/-- A guess that was good enough for a value. -/
theorem settles_guess_short (hz : SameFormat B.zlib C.zlib) (q : GuessQuery) (hq : ¬ q.Devices)
    (hv : Specified D (q.question t) v) (hshort : v.length ≤ q.guess)
    (h : ∀ log, Settles D.environment (ServerInstance.serve B) F
      ⟨⟨.ret (.code CL_SUCCESS), withAnswer true args s v, []⟩, ⟨ServerInstance.serve B, t, []⟩, [],
        [], log⟩) :
    Settles D.environment (ServerInstance.serve B) F (start B (q.call C args) s t []) := by
  cases q with
  | clGetProgramBuildInfo program device param =>
    have hlen : v.length ≤ 1024 := hshort
    have hroom : 1 * v.length ≤ ServerInstance.vectorMaxSize :=
      (one_mul v.length).trans_le (hlen.trans (by decide))
    have hfirst : D [] (.info (.clGetProgramBuildInfo (objectAt t.mObjects (GetID program))
        (objectAt t.mObjects (GetID device)) param) 1024) = ⟨CL_SUCCESS, some v.length, v⟩ :=
      hv.whole [] 1024 hlen
    refine (settles_asks hF (by decide) rfl).mpr ((settles_server_get hF context_handler).mpr
      ((settles_server_get hF context_handler).mpr
        ((Driver.settles_ask hF context_handler).mpr ?_)))
    simp only [hfirst, ne_eq, not_true, if_false, Option.getD_some, if_neg (not_lt.mpr hlen),
      ServerInstance.resize, if_pos hroom, pure_bind, ServerInstance.memRead_storeInto hlen]
    refine (settles_replies hF).mpr ((settles_guess_stored hF hz ?_).mpr (h _))
    exact hlen.trans_lt (by decide)
  | clGetContextInfo context param =>
    have hlen : v.length ≤ 32 := hshort
    have hfirst : D [] (.info (.clGetContextInfo (objectAt t.mObjects (GetID context)) param) 32) =
        ⟨CL_SUCCESS, some v.length, v⟩ := hv.whole [] 32 hlen
    have hparam : param ≠ CL_CONTEXT_DEVICES := hq
    simp only [GuessQuery.call, clGetContextInfo, if_neg hparam]
    refine (settles_asks hF (by decide) rfl).mpr ((settles_server_get hF context_handler).mpr
      ((Driver.settles_ask hF context_handler).mpr ?_))
    simp only [hfirst, ne_eq, not_true, if_false, Option.getD_some, if_neg (not_lt.mpr hlen),
      if_neg hparam, pure_bind, ServerInstance.memRead_storeInto hlen]
    refine (settles_replies hF).mpr ((settles_guess_stored hF hz ?_).mpr (h _))
    exact hlen.trans_lt (by decide)

/-- A guess that was good enough for a list of devices: the devices get IDs, unless the table is
full. -/
theorem settles_guess_devices (hz : SameFormat B.zlib C.zlib) (q : GuessQuery) (hq : q.Devices)
    (hv : Specified D (q.question t) v) (hshort : v.length ≤ q.guess)
    (hspin : assignIDs t.mObjects (devicesIn v) = none → ∀ k t' log, Settles D.environment
      (ServerInstance.serve B) F ⟨⟨.read 1 k, s, []⟩, ⟨.spin, t', []⟩, [], [], log⟩)
    (h : ∀ ids mObjects, assignIDs t.mObjects (devicesIn v) = some (ids, mObjects) → ∀ log,
      Settles D.environment (ServerInstance.serve B) F ⟨⟨.ret (.code CL_SUCCESS),
        withDevices args s ids, []⟩, ⟨ServerInstance.serve B, { t with mObjects }, []⟩, [], [],
          log⟩) :
    Settles D.environment (ServerInstance.serve B) F (start B (q.call C args) s t []) := by
  cases q with
  | clGetProgramBuildInfo => exact hq.elim
  | clGetContextInfo context param =>
    have hlen : v.length ≤ 32 := hshort
    have hfirst : D [] (.info (.clGetContextInfo (objectAt t.mObjects (GetID context)) param) 32) =
        ⟨CL_SUCCESS, some v.length, v⟩ := hv.whole [] 32 hlen
    have hparam : param = CL_CONTEXT_DEVICES := hq
    simp only [GuessQuery.call, clGetContextInfo, if_pos hparam]
    refine (settles_asks hF (by decide) rfl).mpr ((settles_server_get hF context_handler).mpr
      ((Driver.settles_ask hF context_handler).mpr ?_))
    simp only [hfirst, ne_eq, not_true, if_false, Option.getD_some, if_neg (not_lt.mpr hlen),
      if_pos hparam, pure_bind, words_storeInto hlen]
    refine settles_server_wp hF context_handler (H := fun t' o u =>
      o = [] ∧ u = [] ∧ assignIDs t.mObjects (devicesIn v) = none) ?_ ?_
    · rintro t' o u log ⟨rfl, rfl, hnone⟩
      obtain ⟨k, hread, -⟩ := exists_read_catching CL_DEVICE_NOT_AVAILABLE CL_DEVICE_NOT_AVAILABLE
        .payload (decPayload C.zlib .uint8) _
      rw [hread]
      exact hspin hnone k t' log
    · rw [Prog.wp_bind]
      refine ServerInstance.wp_getIDsFor (fun ids mObjects hids => ?_)
        fun hnone _ _ _ => ⟨rfl, rfl, hnone⟩
      have hcount : (idBytes ids).length / 2 = ids.length := by
        rw [length_idBytes]
        omega
      have hbytes : (idBytes ids).length < SizeT.range .uint8 := by
        rw [length_idBytes, length_assignIDs hids, devicesIn, length_words]
        exact (by omega : 2 * (v.length / 8) ≤ 8).trans_lt (by decide)
      refine (settles_handles hF).mpr ?_
      have hreads := reads_payload hz hbytes .payload .payload
      rw [List.nil_append, List.nil_append, ← List.append_nil (PacketStream.frame _ _)]
      refine (settles_client_meets hF (context_catching _ _) hreads (by decide)).mpr ?_
      refine settles_client_wp hF (context_catching _ _) (H := fun _ _ _ => False)
        (fun _ _ _ h => h.elim) ?_
      rw [hcount, idsOf_idBytes]
      have hdone := h ids mObjects hids
      rw [withDevices] at hdone
      rw [Prog.wp_bind, wp_store, Prog.afterBind_ok]
      cases hvalue : args.param_value with
      | false =>
        rw [if_neg Bool.false_ne_true]
        rw [hvalue, if_neg Bool.false_ne_true] at hdone
        exact hdone _
      | true =>
        simp only [Prog.wp_bind, wp_store, wp_resolveAll, Prog.afterBind_ok, if_true]
        rw [hvalue, if_pos rfl] at hdone
        exact hdone _

omit hF in
theorem GuessQuery.Suffices.returns (hz : SameFormat B.zlib C.zlib) {q : GuessQuery}
    (hv : Specified D (q.question t) v) (h : q.Suffices t v) : ReturnsComplete D B C s t q v := by
  obtain ⟨hshort, hids⟩ := h
  intro args
  by_cases hq : q.Devices
  · refine settles_guess_devices stable_final hz q hq hv hshort (fun hnone => ?_) ?_
    · have hsome := hids hq
      rw [hnone] at hsome
      exact absurd hsome Bool.false_ne_true
    · intro ids mObjects hassign log
      refine .final (Or.inl ⟨_, _, _, _, ⟨rfl, ?_⟩, rfl⟩)
      rw [GuessQuery.Gets, if_pos hq]
      exact devicesComplete_withDevices (prefix_of_assignIDs hassign).2
  · refine settles_guess_short stable_final hz q hq hv hshort fun log => ?_
    refine .final (Or.inl ⟨_, _, _, _, ⟨rfl, ?_⟩, rfl⟩)
    rw [GuessQuery.Gets, if_neg hq]
    exact complete_withAnswer

omit hF in
/-- A value that is longer than the guess is not returned. -/
theorem GuessQuery.Suffices.of_returns (hz : SameFormat B.zlib C.zlib) {q : GuessQuery}
    (hv : Specified D (q.question t) v) (h : ReturnsComplete D B C s t q v) : q.Suffices t v := by
  have hquery := h ⟨0, false, false⟩
  have hshort : v.length ≤ q.guess := by
    by_contra hlong
    have hinvalid : Settles D.environment (ServerInstance.serve B)
        (Returned fun r _ => r = .code CL_INVALID_VALUE)
        (start B (q.call C ⟨0, false, false⟩) s t []) :=
      settles_guess_long stable_returned q hv (not_le.mp hlong) fun log => .final ⟨_, rfl, rfl⟩
    have hfinishes := hquery.mono (G := Finishes .socketError fun r _ => r = .code CL_SUCCESS) ?_
    · obtain ⟨r, s', hsuccess, hcode⟩ := hfinishes.of_finishes D.answers hinvalid
      rw [hsuccess] at hcode
      exact absurd (Ret.code.inj hcode) (by decide)
    · intro x hx
      obtain ⟨r, s', t', e, ⟨hr, -⟩, rfl⟩ := (final_empty x).mp hx
      exact Or.inl ⟨r, rfl, hr⟩
  refine ⟨hshort, fun hq => ?_⟩
  rw [← Option.not_isNone, Bool.not_eq_true', Option.isNone_eq_false_iff, Option.isSome_iff_ne_none]
  intro hnone
  refine not_settles_of_spins hquery fun F hF hspin => ?_
  refine settles_guess_devices hF hz q hq hv hshort (fun _ k t' log => .final (hspin k s t' log)) ?_
  intro ids mObjects hassign
  rw [hnone] at hassign
  cases hassign

omit hF in
/-- **A guess is all there is**: a value is returned exactly if it has room in the first buffer, of
1024 bytes for the build of a program and of 32 bytes for a context. -/
theorem guess_suffices_iff (hz : SameFormat B.zlib C.zlib) (q : GuessQuery)
    (hv : Specified D (q.question t) v) : ReturnsComplete D B C s t q v ↔ q.Suffices t v :=
  ⟨GuessQuery.Suffices.of_returns hz hv, GuessQuery.Suffices.returns hz hv⟩

end Calls

/-! ### A driver as OpenCL specifies it -/

/-- A driver that has one value for every query. -/
def specifiedDriver (v : Bytes) : Driver
  | _, .info _ n =>
    if v.length ≤ n then ⟨CL_SUCCESS, some v.length, v⟩ else ⟨CL_INVALID_VALUE, none, []⟩
  | _, c => refuse c

theorem specified_specifiedDriver (v : Bytes) (q : InfoQuery) :
    Specified (specifiedDriver v) q v where
  short := by
    intro log n _ hlt
    rw [specifiedDriver, if_neg (not_le.mpr hlt)]
  whole := by
    intro log n hle
    rw [specifiedDriver, if_pos hle]

/-- A build log of two letters. -/
theorem guess_suffices_iff_log :
    ReturnsComplete (specifiedDriver [111, 107, 0]) ⟨plainBuild, 210⟩ plainBuild
        ⟨[], 0, [], false, []⟩ ⟨[66, 77], none⟩
        (.clGetProgramBuildInfo ⟨1, 1, .program⟩ ⟨0, 0, .deviceID⟩ 0x1183) [111, 107, 0] :=
  (guess_suffices_iff .plain _ (specified_specifiedDriver _ _)).mpr ⟨by decide, fun h => h.elim⟩

/-- A build log of 1025 bytes. -/
theorem long_log_lost :
    ¬ ReturnsComplete (specifiedDriver (zeros 1025)) ⟨plainBuild, 210⟩ plainBuild
      ⟨[], 0, [], false, []⟩ ⟨[66, 77], none⟩
      (.clGetProgramBuildInfo ⟨1, 1, .program⟩ ⟨0, 0, .deviceID⟩ 0x1183) (zeros 1025) := by
  intro h
  have hshort := (GuessQuery.Suffices.of_returns .plain (specified_specifiedDriver _ _) h).1
  rw [length_zeros] at hshort
  exact absurd hshort (by decide)

end RemoteCL
